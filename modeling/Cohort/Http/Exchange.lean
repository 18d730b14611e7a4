import Cohort.Http.Request
import Cohort.Json.Writer
import Cohort.Settings

namespace Cohort.Http
open Text

inductive Payload where
  | nothing
  | text (s : String)
  | json (value : Json)

structure Response where
  status : Nat
  payload : Payload
  challenge : Bool := false

namespace Response

def failure : Response := ⟨500, .text "Internal Server Error", false⟩

def detail (status : Nat) (text : String) : Response := ⟨status, .json (.object [("detail", .string text)]), false⟩

def told (status : Nat) : RawText → Response
  | .whole text => detail status text
  | .halved _ => failure

def unauthenticated (text : String) : Response := { detail 401 text with challenge := true }

def ofComplaint (c : Complaint) : Json :=
  .object [("loc", .array (c.path.map Json.ofString)), ("type", .string c.objection.code)]

-- The values complained about are sent back, and not every value that was received can be sent.
def refusal (complaints : List Complaint) : Response :=
  if complaints.any fun c => c.value.hasNonFinite || c.value.hasHalves then failure
  else ⟨422, .json (.object [("detail", .array (complaints.map ofComplaint))]), false⟩

def ofFault (fault : Fault) : Response :=
  match fault.kind with
  | .notFound => told 404 fault.message
  | .conflict => told 409 fault.message
  | .invalidState => told 400 fault.message
  | .subjectRequired => told 400 fault.message
  | _ => failure

def ofValue (status : Nat) (value : Json) : Response :=
  if value.hasHalves then failure else ⟨status, .json value.finitely, false⟩

def ofAnswer (endpoint : Endpoint) (answer : Answer) : Response :=
  match answer with
  | .done => ⟨endpoint.success, .nothing, false⟩
  | .recorded recorded => ofValue endpoint.success (.object [("recorded", .bool recorded)])
  | answer =>
    match answer.render with
    | .ok value => ofValue endpoint.success value
    | .error _ => failure

end Response

inductive Access where
  | granted (workspace : RawText)
  | refused (reason : String)

def authenticate (tokens : Tokens) (authorization : Option String) : Access :=
  let header := (authorization.getD "").toList
  let scheme := String.ofList (header.takeWhile (· ≠ ' '))
  let token := String.ofList (trimOf isSpacing ((header.dropWhile (· ≠ ' ')).drop 1))
  if !sameLetters scheme "bearer" then .refused "Not authenticated"
  else
    match tokens.workspace? token with
    | some workspace => .granted workspace
    | none => .refused credentialsRefused

-- Whether the body is JSON is looked at before the caller is asked who they are, and its fields after that.
def serve (tokens : Tokens) (now : Moment) (r : Request) (endpoint : Endpoint) (s : Store) : Response × Store :=
  let body := if endpoint.takesBody then r.body else .absent
  match body with
  | .malformed => (Response.refusal [⟨["body"], .malformed, .null⟩], s)
  | .unreadable => (Response.detail 400 "There was an error parsing the body", s)
  | body =>
    match authenticate tokens r.authorization with
    | .refused reason => (Response.unauthenticated reason, s)
    | .granted workspace =>
      match endpoint.operation body r.query with
      | .error complaints => (Response.refusal complaints, s)
      | .ok operation =>
        match operation.runSent ⟨workspace, "", ""⟩ now body.value s with
        | (.ok answer, s') => (Response.ofAnswer endpoint answer, s')
        | (.error fault, s') => (Response.ofFault fault, s')

def answer (tokens : Tokens) (now : Moment) (r : Request) (s : Store) : Response × Store :=
  match route (upper r.method) r.path with
  | .found endpoint => serve tokens now r endpoint s
  | .wrongMethod => (Response.detail 405 "Method Not Allowed", s)
  | .redirected => (⟨307, .nothing, false⟩, s)
  | .nowhere => (Response.detail 404 "Not Found", s)

def respond (tokens : Tokens) (now : Moment) (r : Request) (s : Store) : Response × Store :=
  let (response, s') := answer tokens now r s
  (if upper r.method = "HEAD" then { response with payload := .nothing } else response, s')

end Cohort.Http
