import Cohort.Proofs.Http.Bearers
import Cohort.Proofs.Http.Paths
import Cohort.Proofs.Http.Written
import Cohort.Proofs.Scene

-- What a request asks for, and how the outcome is told. Behind the paths, the tokens and the forms stands one service
-- call, whose store is the one that the request leaves.
namespace Cohort

namespace Http
open Text

def Request.Reaches (r : Request) (endpoint : Endpoint) : Prop :=
  ∃ pieces, r.path = pathOf pieces ∧ (∀ p ∈ pieces, '/' ∉ p.toList) ∧ Leads (upper r.method) pieces endpoint

-- What an endpoint makes of a body and a query that are well formed, and the status of success.
inductive Endpoint.Means (r : Request) : Endpoint → Operation → Nat → Prop where
  | assign {key : String} {request : DecisionRequest} (read : r.body.read DecisionRequest.form = .ok request) :
      Means r (.assign key) (.assign key request) 200
  | assignAll {request : DecisionRequest} (read : r.body.read DecisionRequest.form = .ok request) :
      Means r .assignAll (.assignAll request) 200
  | convert {key : String} {report : ConversionReport} (read : r.body.read ConversionReport.form = .ok report) :
      Means r (.convert key) (.convert key report) 200
  | create {draft : ExperimentDraft} (read : r.body.read ExperimentDraft.form = .ok draft) :
      Means r .create (.create draft) 201
  | list {filter : Store.Filter} (read : readFilter r.query = .ok filter) : Means r .list (.list filter) 200
  | getByKey {key : String} : Means r (.getByKey key) (.getByKey key) 200
  | get {id : String} : Means r (.get id) (.get id) 200
  | update {id : String} {changes : ExperimentChanges} (read : r.body.read ExperimentChanges.form = .ok changes) :
      Means r (.update id) (.update id changes) 200
  | start {id : String} : Means r (.start id) (.start id) 200
  | pause {id : String} : Means r (.pause id) (.pause id) 200
  | conclude {id : String} {conclusion : Conclusion} (read : r.body.readConclusion = .ok conclusion) :
      Means r (.conclude id) (.conclude id conclusion.winner) 200
  | archive {id : String} : Means r (.archive id) (.archive id) 200
  | addVariant {id : String} {draft : VariantDraft} (read : r.body.read VariantDraft.form = .ok draft) :
      Means r (.addVariant id) (.addVariant id draft) 201
  | updateVariant {id variant : String} {changes : VariantChanges}
      (read : r.body.read VariantChanges.form = .ok changes) :
      Means r (.updateVariant id variant) (.updateVariant id variant changes) 200
  | deleteVariant {id variant : String} : Means r (.deleteVariant id variant) (.deleteVariant id variant) 204
  | pin {id : String} {request : PinRequest} (read : r.body.read PinRequest.form = .ok request) :
      Means r (.pin id) (.pin id request) 200
  | statistics {id : String} : Means r (.statistics id) (.statistics id) 200

def Request.Calls (r : Request) (operation : Operation) (status : Nat) : Prop :=
  ∃ endpoint, r.Reaches endpoint ∧ endpoint.Means r operation status

def Request.service (r : Request) (workspace : RawText) (now : Moment) (operation : Operation) (s : Store) :
    Outcome Answer :=
  operation.runSent ⟨workspace, "", ""⟩ now r.body.value s

def statusOf : Fault.Kind → Option Nat
  | .notFound => some 404
  | .conflict => some 409
  | .invalidState | .subjectRequired => some 400
  | _ => none

end Http

def Answer.payload? : Answer → Option Http.Payload
  | .done => some .nothing
  | .recorded b => some (.json (.object [("recorded", .bool b)]))
  | answer =>
    match answer.render with
    | .ok value => if value.hasHalves then none else some (.json value.finitely)
    | .error _ => none

theorem Answer.unwritten_unfit {answer : Answer} (plain : answer.Plain) (unwritten : answer.payload? = none) :
    answer.Unfit := by
  by_contra fit
  obtain ⟨value, shown, whole⟩ := render_written plain fit
  cases answer <;> simp_all [payload?]

namespace Http
open Text

-- How the outcome of a service call is told, with this status for success.
inductive Tells (status : Nat) : Except Fault Answer → Response → Prop where
  | answered {answer : Answer} {payload : Payload} (written : answer.payload? = some payload) :
      Tells status (.ok answer) ⟨status, payload, false⟩
  | unwritten {answer : Answer} (unwritten : answer.payload? = none) (unfit : answer.Unfit) :
      Tells status (.ok answer) Response.failure
  | refused {fault : Fault} {code : Nat} {text : String} (known : statusOf fault.kind = some code)
      (whole : fault.message = .whole text) : Tells status (.error fault) (Response.detail code text)
  | unspoken {fault : Fault} {code : Nat} {points : List Nat} (known : statusOf fault.kind = some code)
      (halved : fault.message = .halved points) : Tells status (.error fault) Response.failure
  | failed {fault : Fault} (unknown : statusOf fault.kind = none) : Tells status (.error fault) Response.failure

theorem ofAnswer_payload (endpoint : Endpoint) (answer : Answer) : Response.ofAnswer endpoint answer =
    match answer.payload? with
    | some payload => ⟨endpoint.success, payload, false⟩
    | none => Response.failure := by
  have sent (rendered : Except Fault Json) :
      (match rendered with
        | .ok value => Response.ofValue endpoint.success value
        | .error _ => Response.failure) =
      match (match rendered with
        | .ok value => if value.hasHalves then none else some (.json value.finitely)
        | .error _ => none : Option Payload) with
      | some payload => ⟨endpoint.success, payload, false⟩
      | none => Response.failure := by
    cases rendered with
    | error fault => rfl
    | ok value => cases halved : value.hasHalves <;> simp [Response.ofValue, halved]
  have shown := sent answer.render
  cases answer with
  | done => rfl
  | recorded b => rfl
  | _ => exact shown

theorem ofAnswer_tells {endpoint : Endpoint} {answer : Answer} (plain : answer.Plain) :
    Tells endpoint.success (.ok answer) (Response.ofAnswer endpoint answer) := by
  rw [ofAnswer_payload]
  cases written : answer.payload? with
  | some payload => exact .answered written
  | none => exact .unwritten written (Answer.unwritten_unfit plain written)

theorem ofFault_tells (status : Nat) (fault : Fault) : Tells status (.error fault) (Response.ofFault fault) := by
  have told {code : Nat} (known : statusOf fault.kind = some code) :
      Tells status (.error fault) (Response.told code fault.message) := by
    cases spoken : fault.message with
    | whole text => exact .refused known spoken
    | halved points => exact .unspoken known spoken
  unfold Response.ofFault
  split
  all_goals rename_i kind
  · exact told (congrArg statusOf kind)
  · exact told (congrArg statusOf kind)
  · exact told (congrArg statusOf kind)
  · exact told (congrArg statusOf kind)
  · refine .failed ?_
    unfold statusOf
    split <;> simp_all

def Response.of (endpoint : Endpoint) : Except Fault Answer → Response
  | .ok answer => .ofAnswer endpoint answer
  | .error fault => .ofFault fault

def Request.bodyFor (r : Request) (endpoint : Endpoint) : Body := if endpoint.takesBody then r.body else .absent

def Request.reading (r : Request) (endpoint : Endpoint) : Except (List Complaint) Operation :=
  endpoint.operation (r.bodyFor endpoint) r.query

section Calls
variable {r : Request} {endpoint : Endpoint} {operation : Operation} {status : Nat} {tokens : Tokens}
  {workspace : RawText} {now : Moment} {s : Store}

open Operation (map_ok) in
theorem means_exact :
    endpoint.Means r operation status ↔ r.reading endpoint = .ok operation ∧ endpoint.success = status := by
  constructor
  · intro means
    cases means with
    | assign read | assignAll read | convert read | create read | list read | update read | conclude read
    | addVariant read | updateVariant read | pin read =>
      refine ⟨?_, rfl⟩
      simp only [Request.reading, Request.bodyFor, Endpoint.operation, Endpoint.takesBody, if_true, read]
      rfl
    | getByKey | get | start | pause | archive | deleteVariant | statistics => exact ⟨rfl, rfl⟩
  · rintro ⟨reading, rfl⟩
    cases endpoint with
      simp only [Request.reading, Request.bodyFor, Endpoint.operation, Endpoint.takesBody, if_true] at reading
    | assign | assignAll | convert | create | list | update | conclude | addVariant | updateVariant | pin =>
      obtain ⟨form, read, rfl⟩ := map_ok reading
      constructor
      exact read
    | getByKey | get | start | pause | archive | deleteVariant | statistics =>
      cases reading
      constructor

-- A body that is no JSON, or cannot be read at all, means nothing to the endpoints that look at it.

theorem read_readable {form : Form α} {body : Body} {a : α} (read : body.read form = .ok a) :
    body ≠ .malformed ∧ body ≠ .unreadable := by
  constructor <;> (rintro rfl; cases read)

theorem readConclusion_readable {body : Body} {conclusion : Conclusion} (read : body.readConclusion = .ok conclusion) :
    body ≠ .malformed ∧ body ≠ .unreadable := by
  constructor <;> (rintro rfl; cases read)

theorem Endpoint.Means.readable (means : endpoint.Means r operation status) :
    r.bodyFor endpoint ≠ .malformed ∧ r.bodyFor endpoint ≠ .unreadable := by
  cases means with
  | assign read | assignAll read | convert read | create read | update read | addVariant read | updateVariant read
  | pin read => exact read_readable read
  | conclude read => exact readConclusion_readable read
  | list _ | getByKey | get | start | pause | archive | deleteVariant | statistics => exact ⟨nofun, nofun⟩

-- Where no text is handed on as it is, what was sent makes no difference.
theorem runSent_unread (unread : operation.textNames = []) (data data' : Json) :
    operation.runSent ⟨workspace, "", ""⟩ now data s = operation.runSent ⟨workspace, "", ""⟩ now data' s := by
  simp only [Operation.runSent, unread, Garbled.namesIn, List.filter_nil]
  cases workspace <;> rfl

theorem Endpoint.Means.service (means : endpoint.Means r operation status) :
    operation.runSent ⟨workspace, "", ""⟩ now (r.bodyFor endpoint).value s = r.service workspace now operation s := by
  cases means with
  | assign _ | assignAll _ | convert _ | create _ | update _ | conclude _ | addVariant _ | updateVariant _
  | pin _ => rfl
  | list _ | getByKey | get | start | pause | archive | deleteVariant | statistics => exact runSent_unread rfl _ _

theorem serve_calls (opens : r.Opens tokens workspace) (means : endpoint.Means r operation status) :
    serve tokens now r endpoint s = (.of endpoint (r.service workspace now operation s).1,
      (r.service workspace now operation s).2) := by
  obtain ⟨formed, readable⟩ := means.readable
  obtain ⟨reading, _⟩ := means_exact.mp means
  rw [← means.service]
  unfold serve
  unfold Request.reading at reading
  unfold Request.bodyFor at *
  generalize (if endpoint.takesBody then r.body else .absent) = body at *
  cases ran : operation.runSent ⟨workspace, "", ""⟩ now body.value s with
  | mk outcome next =>
    cases body with
    | malformed => exact absurd rfl formed
    | unreadable => exact absurd rfl readable
    | absent | foreign _ | json _ =>
      simp only [authenticate_exact.mpr opens, reading, ran]
      cases outcome <;> rfl

theorem serve_changed (changed : (serve tokens now r endpoint s).2 ≠ s) :
    ∃ workspace operation status, r.Opens tokens workspace ∧ endpoint.Means r operation status := by
  unfold serve at changed
  generalize held : (if endpoint.takesBody then r.body else .absent) = body at changed
  cases body with
  | malformed | unreadable => exact absurd rfl changed
  | absent | foreign _ | json _ =>
    simp only at changed
    split at changed
    · exact absurd rfl changed
    · rename_i workspace granted
      split at changed
      · exact absurd rfl changed
      · rename_i operation reading
        rw [← held] at reading
        exact ⟨workspace, operation, _, authenticate_exact.mp granted, means_exact.mpr ⟨reading, rfl⟩⟩

theorem reaches_exact : r.Reaches endpoint ↔ route (upper r.method) r.path = .found endpoint := route_exact.symm

theorem respond_changed (changed : (respond tokens now r s).2 ≠ s) :
    ∃ workspace operation status, r.Opens tokens workspace ∧ r.Calls operation status := by
  have within : (answer tokens now r s).2 ≠ s := changed
  unfold answer at within
  split at within
  · rename_i endpoint found
    obtain ⟨workspace, operation, status, opens, means⟩ := serve_changed within
    exact ⟨workspace, operation, status, opens, endpoint, reaches_exact.mpr found, means⟩
  all_goals exact absurd rfl within

theorem Leads.not_head {pieces : List String} {method : String} (leads : Leads method pieces endpoint) :
    method ≠ "HEAD" := by
  cases leads <;> decide

theorem respond_calls (opens : r.Opens tokens workspace) (reaches : r.Reaches endpoint)
    (means : endpoint.Means r operation status) : respond tokens now r s =
      (.of endpoint (r.service workspace now operation s).1, (r.service workspace now operation s).2) := by
  have found := reaches_exact.mp reaches
  obtain ⟨_, _, _, leads⟩ := reaches
  simp only [respond, answer, found, serve_calls opens means, if_neg leads.not_head]

theorem respond_tells (sound : s.Sound) (opens : r.Opens tokens workspace) (calls : r.Calls operation status)
    (now : Moment) : Tells status (r.service workspace now operation s).1 (respond tokens now r s).1 ∧
      (respond tokens now r s).2 = (r.service workspace now operation s).2 := by
  obtain ⟨endpoint, reaches, means⟩ := calls
  obtain ⟨_, rfl⟩ := means_exact.mp means
  rw [respond_calls opens reaches means]
  refine ⟨?_, rfl⟩
  cases ran : (r.service workspace now operation s).1 with
  | ok answer => exact ofAnswer_tells (Operation.runSent_plain sound ran)
  | error fault => exact ofFault_tells _ fault

theorem Tells.error_code {fault : Fault} {response : Response} (tells : Tells status (.error fault) response) :
    response.status ∈ [400, 404, 409, 500] := by
  cases tells with
  | unspoken _ _ | failed _ => decide
  | @refused _ code text known _ =>
    have told : code ∈ [400, 404, 409, 500] := by
      unfold statusOf at known
      split at known <;> cases known <;> decide
    exact told

theorem Tells.code {outcome : Except Fault Answer} {response : Response} (tells : Tells status outcome response) :
    response.status = status ∨ response.status ∈ [400, 404, 409, 500] := by
  cases outcome with
  | error fault => exact .inr tells.error_code
  | ok answer =>
    cases tells with
    | answered _ => exact .inl rfl
    | unwritten _ _ => exact .inr (by decide)

theorem Request.Calls.success (calls : r.Calls operation status) : status ∈ [200, 201, 204] := by
  obtain ⟨_, _, means⟩ := calls
  cases means <;> decide

end Calls

end Http

theorem Garbled.namesIn_whole {data : Json} (whole : data.hasHalves = false) (names : List String) :
    namesIn names data = [] := by
  have plain : ∀ m ∈ data.members?.getD [], m.2.hasHalves = false := by
    cases data with
    | object members =>
      rw [Json.hasHalves, Json.membersHaveHalves_none] at whole
      exact fun m member => (whole m member).2
    | _ => exact fun m none => absurd none List.not_mem_nil
  rw [namesIn, List.filter_eq_nil_iff]
  intro name _
  unfold Form.isHalved
  split
  · rename_i text found
    have kept := plain _ (Json.lookup_mem found)
    rw [Json.hasHalves] at kept
    simpa using kept
  · nofun

theorem Operation.runSent_whole {data : Json} (whole : data.hasHalves = false) (operation : Operation)
    (workspace : String) (now : Moment) (s : Store) :
    operation.runSent ⟨.whole workspace, "", ""⟩ now data s = operation.run workspace now s := by
  simp only [runSent, Garbled.namesIn_whole whole]
  rfl

namespace Http
open Text

-- Behind a request stands one service call. What it leaves is what the request leaves, and what it comes to is told
-- with the status of the endpoint or of the error, unless it cannot be written. No other request changes anything.
theorem requests_reach_services {s : Store} (attained : Attained s) (tokens : Tokens) (now : Moment) (r : Request) :
    (∀ workspace operation status, r.Opens tokens workspace → r.Calls operation status →
      status ∈ [200, 201, 204] ∧ Tells status (r.service workspace now operation s).1 (respond tokens now r s).1 ∧
        (respond tokens now r s).2 = (r.service workspace now operation s).2) ∧
      (r.body.value.hasHalves = false → ∀ (workspace : String) (operation : Operation),
        r.service (.whole workspace) now operation s = operation.run workspace now s) ∧
      (∀ key, key ≠ "" → '/' ∉ key.toList →
        route "POST" (pathOf ["experiments", "assign", key]) = .found (.assign key) ∧
          route "POST" (pathOf ["experiments", "convert", key]) = .found (.convert key) ∧
          route "GET" (pathOf ["experiments", "key", key]) = .found (.getByKey key)) ∧
      ((respond tokens now r s).1.status ∈ [401, 405, 422] ∨ (∀ endpoint, ¬ r.Reaches endpoint) →
        (respond tokens now r s).2 = s) := by
  refine ⟨?_, ?_, ?_, ?_⟩
  · intro workspace operation status opens calls
    exact ⟨calls.success, respond_tells attained.sound opens calls now⟩
  · intro whole workspace operation
    exact Operation.runSent_whole whole operation workspace now s
  · intro key given apart
    have pieces (word : String) (plain : '/' ∉ word.toList) : ∀ p ∈ ["experiments", word, key], '/' ∉ p.toList := by
      simp [plain, apart]
    exact ⟨route_exact.mpr ⟨_, rfl, pieces "assign" (by decide), .assign given⟩,
      route_exact.mpr ⟨_, rfl, pieces "convert" (by decide), .convert given⟩,
      route_exact.mpr ⟨_, rfl, pieces "key" (by decide), .getByKey given⟩⟩
  · intro idle
    by_contra changed
    obtain ⟨workspace, operation, status, opens, calls⟩ := respond_changed changed
    rcases idle with refused | unreached
    · have success := calls.success
      have told := (respond_tells attained.sound opens calls now).1.code
      simp only [List.mem_cons, List.not_mem_nil, or_false] at refused success told
      omega
    · obtain ⟨endpoint, reaches, _⟩ := calls
      exact unreached endpoint reaches

-- A shop that tries its prices.

def shopOpen : Store := (Scene.empty.play Scene.shop).store

def shopTokens : Tokens := [(.whole "t", .whole "shop")]

theorem shop_opens {r : Request} (sent : r.authorization = some "Bearer t") : r.Opens shopTokens "shop" := by
  have spaceless : ∀ c, some 't' = some c → isSpacing c = false := by
    rintro c ⟨⟩
    decide
  have bears : Bears "Bearer t" "t" :=
    ⟨"Bearer".toList, [], [], by decide, by decide, by decide, nofun, spaceless, spaceless⟩
  exact ⟨_, "t", sent, bears, by decide, rfl, by decide⟩

def pausing : Request := ⟨"POST", "/experiments/id-1/pause", some "Bearer t", none⟩

theorem pausing_reaches_service : Attained shopOpen ∧ pausing.Opens shopTokens "shop" ∧
    pausing.Calls (.pause "id-1") 200 ∧ (respond shopTokens ⟨4⟩ pausing shopOpen).1.status = 200 ∧
    (respond shopTokens ⟨4⟩ pausing shopOpen).2 = ((Operation.pause "id-1").run "shop" ⟨4⟩ shopOpen).2 ∧
    (respond shopTokens ⟨4⟩ pausing shopOpen).2.experiments.map (·.status) = [.paused] ∧
    route "POST" (pathOf ["experiments", "convert", "stats"]) = .found (.convert "stats") := by
  have attained : Attained shopOpen := ⟨_, rfl⟩
  have opens : pausing.Opens shopTokens "shop" := shop_opens rfl
  have listed : ("pause", Endpoint.pause) ∈ deeds := by simp [deeds]
  have calls : pausing.Calls (.pause "id-1") 200 := by
    refine ⟨.pause "id-1", ⟨["experiments", "id-1", "pause"], by decide +kernel, by decide, ?_⟩, .pause⟩
    exact .deed listed (by decide) (by decide) (.inl rfl)
  obtain ⟨reached, whole, words, _⟩ := requests_reach_services attained shopTokens ⟨4⟩ pausing
  obtain ⟨_, _, left⟩ := reached _ _ _ opens calls
  refine ⟨attained, opens, calls, by decide +kernel, ?_, by decide +kernel, ?_⟩
  · rw [left, whole rfl]
  · exact (words "stats" (by decide) (by decide)).2.1

-- The shop after a note was left on its experiment.
def noted (note : Json) : Store :=
  (Scene.empty.play (Scene.shop ++ [(⟨4⟩, .perform "shop" (.update "id-1"
    ⟨none, none, none, none, none, none, some (some [("note", note)])⟩))])).store

def nested : Nat → Json
  | 0 => .null
  | depth + 1 => .array [nested depth]

def looking : Request := ⟨"GET", "/experiments/id-1", some "Bearer t", none⟩

-- Names a variant by half of a surrogate pair, and there is none of that name.
def halvedPin : Request :=
  ⟨"POST", "/experiments/id-1/override", some "Bearer t",
    some ⟨"application/json", "\x7b\"user_id\": \"u\", \"variant_id\": \"\\ud800\"\x7d"⟩⟩

def blankTokens : Tokens := [(.whole "", .whole "shop")]

-- What was found cannot be shown, and what was not found cannot be told; and the empty token opens nothing.
theorem some_answers_unsendable : looking.Opens shopTokens "shop" ∧ looking.Calls (.get "id-1") 200 ∧
    (∀ note ∈ [.string (.halved [0xD800]), nested 260], Attained (noted note) ∧
      (looking.service "shop" ⟨5⟩ (.get "id-1") (noted note)).1.isOk = true ∧
      (respond shopTokens ⟨5⟩ looking (noted note)).1.status = 500) ∧
    Attained shopOpen ∧ halvedPin.Opens shopTokens "shop" ∧
    (∃ operation fault, halvedPin.Calls operation 200 ∧
      (halvedPin.service "shop" ⟨4⟩ operation shopOpen).1 = .error fault ∧ fault.kind = .notFound) ∧
    (respond shopTokens ⟨4⟩ halvedPin shopOpen).1.status = 500 ∧
    Bears "Bearer " "" ∧ Json.lookup (.whole "") blankTokens = some "shop" ∧
    (respond blankTokens ⟨4⟩ { pausing with authorization := some "Bearer " } shopOpen).1.status = 401 := by
  refine ⟨shop_opens rfl, ?_, ?_, ⟨_, rfl⟩, shop_opens rfl, ?_, by decide +kernel, ?_, rfl, by decide +kernel⟩
  · exact ⟨.get "id-1", ⟨["experiments", "id-1"], by decide +kernel, by decide, .get (by decide)⟩, .get⟩
  · have unshown : ∀ note ∈ [.string (.halved [0xD800]), nested 260],
        (looking.service "shop" ⟨5⟩ (.get "id-1") (noted note)).1.isOk = true ∧
          (respond shopTokens ⟨5⟩ looking (noted note)).1.status = 500 := by decide +kernel
    exact fun note member => ⟨⟨_, rfl⟩, unshown note member⟩
  · have listed : ("override", Endpoint.pin) ∈ deeds := by simp [deeds]
    have leads : Leads "POST" ["experiments", "id-1", "override"] (.pin "id-1") :=
      .deed listed (by decide) (by decide) (.inl rfl)
    have reaches : halvedPin.Reaches (.pin "id-1") := ⟨_, by decide +kernel, by decide, leads⟩
    have untold : (match halvedPin.reading (.pin "id-1") with
        | .ok operation =>
          match (halvedPin.service "shop" ⟨4⟩ operation shopOpen).1 with
          | .ok _ => none
          | .error fault => some fault.kind
        | .error _ => none) = some .notFound := by decide +kernel
    split at untold
    · rename_i operation read
      split at untold
      · cases untold
      · rename_i fault failed
        exact ⟨operation, fault, ⟨_, reaches, means_exact.mpr ⟨read, rfl⟩⟩, failed, Option.some.inj untold⟩
    · cases untold
  · exact ⟨"Bearer".toList, [], [], by decide, by decide, by decide, nofun, nofun, nofun⟩

end Http
end Cohort
