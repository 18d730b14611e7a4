import Cohort.Form.Requests
import Cohort.Http.Route
import Cohort.Json.Body
import Cohort.Operation
import Cohort.Text.Percent

namespace Cohort.Http
open Text

structure Content where
  mediaType : String
  text : String

structure Request where
  method : String
  -- path and query, percent-encoded
  target : String
  authorization : Option String
  content : Option Content

-- A step up takes the piece before it away, but none from the start of the path; a step on the spot does nothing.
def walk : List (List Char) → List (List Char) → List (List Char)
  | taken, [] => taken.reverse
  | taken, piece :: rest =>
    if piece = ['.'] then walk taken rest
    else if piece = ['.', '.'] then walk (if taken = [[]] then taken else taken.drop 1) rest
    else walk (piece :: taken) rest

def straight (path : List Char) : List Char := ['/'].intercalate (walk [] (splitOn '/' path))

structure Origin where
  scheme : Option (List Char)
  host : Option (List Char)

def schemed (s : List Char) : Option (List Char) × List Char :=
  let name := s.takeWhile fun c => c.isAlphanum || c = '+' || c = '-' || c = '.'
  match s.drop name.length with
  | ':' :: rest => if name.head?.all Char.isAlpha then (some name, rest) else (none, s)
  | _ => (none, s)

def hosted : List Char → Option (List Char) × List Char
  | '/' :: '/' :: rest => (some (rest.takeWhile (· ≠ '/')), rest.dropWhile (· ≠ '/'))
  | s => (none, s)

def Origin.read (s : List Char) : Origin × List Char :=
  let (scheme, s) := schemed s
  let (host, s) := hosted s
  (⟨scheme.filter (· ≠ []), host.filter (· ≠ [])⟩, s)

namespace Request

def sentTarget (r : Request) : List Char := r.target.toList.takeWhile (· ≠ '#')

-- The path as it is sent: it begins with one slash unless it is told with its origin.
def sentPath (r : Request) : List Char :=
  let (origin, written) := Origin.read (r.sentTarget.takeWhile (· ≠ '?'))
  let path :=
    match origin with
    | ⟨some _, some _⟩ => straight written
    | ⟨none, none⟩ => straight ('/' :: written.dropWhile (· = '/'))
    | _ => straight ('/' :: (straight written).dropWhile (· = '/'))
  if path = [] then ['/'] else path

-- As a server reads it, with the escapes undone.
def plainPath (r : Request) : String := Percent.decode (String.ofList r.sentPath)

-- As it is read behind a test client, which undoes the escapes itself and has them undone once more.
def path (r : Request) : String := Percent.decode r.plainPath

def query (r : Request) : String := String.ofList ((r.sentTarget.dropWhile (· ≠ '?')).drop 1)

end Request

def queryText (s : List Char) : String :=
  Percent.decode (String.ofList (s.map fun c => if c = '+' then ' ' else c))

def parameters (query : String) : List (String × String) :=
  ((splitOn '&' query.toList).filter (· ≠ [])).map fun part =>
    (queryText (part.takeWhile (· ≠ '=')), queryText ((part.dropWhile (· ≠ '=')).drop 1))

-- Of several values for one name the last counts.
def parameter (query name : String) : Option String := Json.lookup name (parameters query).reverse

def Content.isJson (c : Content) : Bool :=
  let essence := lower (String.ofList (trimOf isSpacing (c.mediaType.toList.takeWhile (· ≠ ';'))))
  match splitOn '/' essence.toList with
  | [kind, subtype] =>
    String.ofList kind = "application" &&
      (String.ofList subtype = "json" || "+json".toList.isSuffixOf subtype)
  | _ => false

inductive Body where
  | absent
  | malformed
  -- bytes that are no text, or numbers and depths past the bounds
  | unreadable
  | foreign (text : String)
  | json (value : Json)

def Request.body (r : Request) : Body :=
  match r.content with
  | none => .absent
  | some c =>
    if c.text = "" then .absent
    else if c.isJson then
      match (Json.Body.decode c.text).map (Json.parseWithin Json.Bounds.received) with
      | some (.ok v) => .json v
      | some (.error .malformed) => .malformed
      | _ => .unreadable
    else .foreign c.text

def Body.value : Body → Json
  | .json v => v
  | _ => .null

def within (place : String) (complaints : List Complaint) : List Complaint :=
  complaints.map fun c => { c with path := place :: c.path }

def Body.read (form : Form α) : Body → Except (List Complaint) α
  | .absent => .error [⟨["body"], .missing, .null⟩]
  | .malformed | .unreadable => .error [⟨["body"], .malformed, .null⟩]
  | .foreign text => .error [⟨["body"], .notFields, .string text⟩]
  | .json (.object members) =>
    match form.read members with
    | .ok a => .ok a
    | .error complaints => .error (within "body" complaints)
  | .json v => .error [⟨["body"], .notFields, v⟩]

-- Here no body, or one that says null, is as good as one that names no winner.
def Body.readConclusion : Body → Except (List Complaint) Conclusion
  | .absent => .ok ⟨none⟩
  | .json .null => .ok ⟨none⟩
  | body => body.read Conclusion.form

def optionalParameter (query name : String) (fallback : α) (reader : Entry.Reader α) : Except (List Complaint) α :=
  match parameter query name with
  | none => .ok fallback
  | some value =>
    match Form.reading name reader (.string value) with
    | .ok a => .ok a
    | .error complaints => .error (within "query" complaints)

def readFilter (query : String) : Except (List Complaint) Store.Filter :=
  let status := optionalParameter query "status" none fun v => (Entry.listed Status.ofName? v).map some
  let category := optionalParameter query "type" none fun v => (Entry.listed Category.ofName? v).map some
  let archivedToo := optionalParameter query "include_archived" false Entry.flag
  match status, category, archivedToo with
  | .ok status, .ok category, .ok archivedToo => .ok ⟨status, category, archivedToo⟩
  | status, category, archivedToo =>
    .error (Form.complaintsOf status ++ Form.complaintsOf category ++ Form.complaintsOf archivedToo)

namespace Endpoint

def takesBody : Endpoint → Bool
  | .assign _ | .assignAll | .convert _ | .create | .update _ | .conclude _ | .addVariant _
  | .updateVariant _ _ | .pin _ => true
  | _ => false

def success : Endpoint → Nat
  | .create | .addVariant _ => 201
  | .deleteVariant _ _ => 204
  | _ => 200

def operation (body : Body) (query : String) : Endpoint → Except (List Complaint) Operation
  | .assign key => (body.read DecisionRequest.form).map (.assign key)
  | .assignAll => (body.read DecisionRequest.form).map .assignAll
  | .convert key => (body.read ConversionReport.form).map (.convert key)
  | .create => (body.read ExperimentDraft.form).map .create
  | .list => (readFilter query).map .list
  | .getByKey key => .ok (.getByKey key)
  | .get id => .ok (.get id)
  | .update id => (body.read ExperimentChanges.form).map (.update id)
  | .start id => .ok (.start id)
  | .pause id => .ok (.pause id)
  | .conclude id => body.readConclusion.map fun c => .conclude id c.winner
  | .archive id => .ok (.archive id)
  | .addVariant id => (body.read VariantDraft.form).map (.addVariant id)
  | .updateVariant id variant => (body.read VariantChanges.form).map (.updateVariant id variant)
  | .deleteVariant id variant => .ok (.deleteVariant id variant)
  | .pin id => (body.read PinRequest.form).map (.pin id)
  | .statistics id => .ok (.statistics id)

end Endpoint
end Cohort.Http
