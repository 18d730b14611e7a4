import Cohort.Text.Letters
import Cohort.Text.Raw

namespace Cohort

inductive LogLevel where
  | critical
  | error
  | warning
  | info
  | debug
  | everything
deriving DecidableEq, Repr

namespace LogLevel

def severity : LogLevel → Nat
  | .critical => 50
  | .error => 40
  | .warning => 30
  | .info => 20
  | .debug => 10
  | .everything => 0

def name : LogLevel → String
  | .critical => "CRITICAL"
  | .error => "ERROR"
  | .warning => "WARNING"
  | .info => "INFO"
  | .debug => "DEBUG"
  | .everything => "NOTSET"

def ofName? : String → Option LogLevel
  | "CRITICAL" => some .critical
  | "FATAL" => some .critical
  | "ERROR" => some .error
  | "WARN" => some .warning
  | "WARNING" => some .warning
  | "INFO" => some .info
  | "DEBUG" => some .debug
  | "NOTSET" => some .everything
  | _ => none

-- An empty level counts as none, and then the configured one is taken. Small letters are as good as capitals.
def configure (configured : String) (level : Option RawText) : Option LogLevel :=
  match (level.filter (· ≠ .whole "")).getD configured with
  | .whole name => ofName? (Text.upper name)
  | .halved _ => none

def refusal : String := "Unable to configure root logger"

end LogLevel
end Cohort
