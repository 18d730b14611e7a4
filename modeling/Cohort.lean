import Cohort.Bucket
import Cohort.Calendar.Basic
import Cohort.Calendar.Reading
import Cohort.Calendar.Standard
import Cohort.Catalogue
import Cohort.Contention
import Cohort.Conversion
import Cohort.Decimal.Exact
import Cohort.Decimal.Notation
import Cohort.Decimal.Numeral
import Cohort.Decimal.Quotient
import Cohort.Decimal.Shortest
import Cohort.Decimal.Wide
import Cohort.Decision
import Cohort.Digest
import Cohort.Fault
import Cohort.Form.Basic
import Cohort.Form.Entry
import Cohort.Form.Reading
import Cohort.Form.Requests
import Cohort.Garbled
import Cohort.Http.Exchange
import Cohort.Http.Request
import Cohort.Http.Route
import Cohort.Http.Unsent
import Cohort.Json.Agreement
import Cohort.Json.Basic
import Cohort.Json.Body
import Cohort.Json.Reader
import Cohort.Json.Spelled
import Cohort.Json.Writer
import Cohort.Lifecycle
import Cohort.Limits
import Cohort.LogLevel
import Cohort.Operation
import Cohort.Order
import Cohort.Outcome
import Cohort.Render
import Cohort.Settings
import Cohort.Statistics
import Cohort.Store.Basic
import Cohort.Store.Cells
import Cohort.Store.Columns
import Cohort.Store.Kinds
import Cohort.Store.Reckoning
import Cohort.Store.Revision
import Cohort.Store.Row
import Cohort.Store.Subjects
import Cohort.Store.Write
import Cohort.Subject
import Cohort.Targeting
import Cohort.Text.Blank
import Cohort.Text.Digits
import Cohort.Text.Letters
import Cohort.Text.Percent
import Cohort.Text.Printable
import Cohort.Text.Quoted
import Cohort.Text.Raw
import Cohort.Text.Split
import Cohort.Tree
import Cohort.Proofs.Store.Ids
import Cohort.Proofs.Store.Lookups
import Cohort.Proofs.Acts.Basic
import Cohort.Proofs.Store.Sound
import Cohort.Proofs.Acts.Sound
import Cohort.Proofs.Acts.Kept
import Cohort.Proofs.Acts.Catalogue
import Cohort.Proofs.Acts.Accepted
import Cohort.Proofs.Acts.Turns
import Cohort.Proofs.Scene
import Cohort.Proofs.Rows
import Cohort.Proofs.Decisions
import Cohort.Proofs.Race
import Cohort.Proofs.BlankIdentifiers
import Cohort.Proofs.Workspaces.Acts
import Cohort.Proofs.Workspaces.Services
import Cohort.Proofs.Workspaces.Isolation
import Cohort.Proofs.Order
import Cohort.Proofs.Lifecycle
import Cohort.Proofs.Answers
import Cohort.Proofs.Standing
import Cohort.Proofs.Sticky
import Cohort.Proofs.Identifiers
import Cohort.Proofs.Overrides
import Cohort.Proofs.Sharing
import Cohort.Proofs.Gates
import Cohort.Proofs.Chronicle
import Cohort.Proofs.Conversions
import Cohort.Proofs.Credit
import Cohort.Proofs.Showings
import Cohort.Proofs.Exposures
import Cohort.Proofs.Positions
import Cohort.Proofs.Figures
import Cohort.Proofs.Quotients
import Cohort.Proofs.Rates
import Cohort.Proofs.Winners
import Cohort.Proofs.Visits
import Cohort.Proofs.Fates
import Cohort.Proofs.Inserts
import Cohort.Proofs.Draws
import Cohort.Proofs.Rounds
import Cohort.Proofs.Proportions
import Cohort.Proofs.Failures
import Cohort.Proofs.Ramps
import Cohort.Proofs.Hindrances
import Cohort.Proofs.Verdicts
import Cohort.Proofs.Lineups
import Cohort.Proofs.Agreement
import Cohort.Proofs.Targeting
import Cohort.Proofs.Revisions
import Cohort.Proofs.ReadBack
import Cohort.Proofs.Http.Paths
import Cohort.Proofs.Http.Written
import Cohort.Proofs.Http.Bearers
import Cohort.Proofs.Http.Requests
import Cohort.Proofs.Http.Escapes
import Cohort.Proofs.Http.Keys
import Cohort.Proofs.Updates
import Cohort.Proofs.Capacity
import Cohort.Proofs.Timelines
import Cohort.Proofs.Calendar
import Cohort.Proofs.Instants
