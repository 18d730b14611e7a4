import Cohort.Proofs.Credit
import Cohort.Proofs.Http.Escapes
import Cohort.Proofs.Http.Requests

-- What becomes of an experiment whose key stands in a path. A route takes one piece for the key, and a key is free to
-- have slashes.
namespace Cohort.Http
open Text

-- A piece of a path that is sent as it is written: it is no step, and has none of the marks that cut an address.
structure Unmarked (piece : List Char) : Prop where
  filled : piece ≠ []
  still : piece ≠ ['.'] ∧ piece ≠ ['.', '.']
  uncut : '/' ∉ piece ∧ '?' ∉ piece ∧ '#' ∉ piece

theorem walk_still {pieces : List (List Char)} (still : ∀ p ∈ pieces, p ≠ ['.'] ∧ p ≠ ['.', '.'])
    (taken : List (List Char)) : walk taken pieces = taken.reverse ++ pieces := by
  induction pieces generalizing taken with
  | nil => simp [walk]
  | cons p rest ih =>
    obtain ⟨here, above⟩ := still p List.mem_cons_self
    have later := ih (fun q member => still q (List.mem_cons_of_mem p member)) (p :: taken)
    rw [walk, if_neg here, if_neg above, later, List.reverse_cons, List.append_assoc]
    rfl

theorem straight_still {path : List Char} (still : ∀ p ∈ splitOn '/' path, p ≠ ['.'] ∧ p ≠ ['.', '.']) :
    straight path = path := by
  rw [straight, walk_still still, List.reverse_nil, List.nil_append, splitOn_exact, List.intercalate_splitOn]

theorem mem_joined {pieces : List (List Char)} {c : Char} (member : c ∈ ['/'].intercalate pieces) :
    c = '/' ∨ ∃ p ∈ pieces, c ∈ p := by
  induction pieces with
  | nil => exact absurd member List.not_mem_nil
  | cons p rest ih =>
    cases rest with
    | nil =>
      rw [List.intercalate_singleton] at member
      exact .inr ⟨p, List.mem_cons_self, member⟩
    | cons q others =>
      rw [List.intercalate_cons_cons, List.mem_append, List.mem_append, List.mem_singleton] at member
      obtain (first | slash) | later := member
      · exact .inr ⟨p, List.mem_cons_self, first⟩
      · exact .inl slash
      · obtain slash | ⟨piece, among, found⟩ := ih later
        · exact .inl slash
        · exact .inr ⟨piece, List.mem_cons_of_mem p among, found⟩

theorem joined_front {pieces : List (List Char)} (given : pieces ≠ []) (unmarked : ∀ p ∈ pieces, Unmarked p) :
    ∃ c rest, c ≠ '/' ∧ ['/'].intercalate pieces = c :: rest := by
  obtain ⟨p, others, rfl⟩ := List.exists_cons_of_ne_nil given
  obtain ⟨filled, _, uncut⟩ := unmarked p List.mem_cons_self
  obtain ⟨c, rest, rfl⟩ := List.exists_cons_of_ne_nil filled
  have plain : c ≠ '/' := (List.ne_of_not_mem_cons uncut.1).symm
  cases others with
  | nil => exact ⟨c, rest, plain, List.intercalate_singleton⟩
  | cons q later => exact ⟨c, _, plain, List.intercalate_cons_cons⟩

theorem origin_none {c : Char} (plain : c ≠ '/') (rest : List Char) :
    Origin.read ('/' :: c :: rest) = (⟨none, none⟩, '/' :: c :: rest) := by
  have schemeless : schemed ('/' :: c :: rest) = (none, '/' :: c :: rest) := by simp [schemed]
  have hostless : hosted ('/' :: c :: rest) = (none, '/' :: c :: rest) := by simp [hosted, plain]
  simp only [Origin.read, schemeless, hostless]
  rfl

theorem sent_unmarked {pieces : List (List Char)} (given : pieces ≠ []) (unmarked : ∀ p ∈ pieces, Unmarked p)
    {r : Request} (written : r.target.toList = '/' :: ['/'].intercalate pieces) : r.sentPath = r.target.toList := by
  have letters : ∀ c ∈ '/' :: ['/'].intercalate pieces, c ≠ '?' ∧ c ≠ '#' := by
    intro c member
    obtain rfl | joined := List.mem_cons.mp member
    · decide
    · obtain rfl | ⟨p, among, found⟩ := mem_joined joined
      · decide
      · obtain ⟨_, unasked, untagged⟩ := (unmarked p among).uncut
        exact ⟨fun same => unasked (same ▸ found), fun same => untagged (same ▸ found)⟩
  have target : r.sentTarget = '/' :: ['/'].intercalate pieces := by
    rw [Request.sentTarget, written, List.takeWhile_eq_self_iff]
    simpa using fun c member => (letters c member).2
  have whole : r.sentTarget.takeWhile (· ≠ '?') = '/' :: ['/'].intercalate pieces := by
    rw [target, List.takeWhile_eq_self_iff]
    simpa using fun c member => (letters c member).1
  have level : straight ('/' :: ['/'].intercalate pieces) = '/' :: ['/'].intercalate pieces := by
    have apart : ∀ p ∈ pieces, '/' ∉ p := fun p among => (unmarked p among).uncut.1
    apply straight_still
    rw [splitOn, if_pos rfl, splitOn_exact, List.splitOn_intercalate '/' apart given]
    intro p member
    obtain rfl | among := List.mem_cons.mp member
    · decide
    · exact (unmarked p among).still
  obtain ⟨c, rest, plain, front⟩ := joined_front given unmarked
  have unled : ('/' :: c :: rest).dropWhile (· = '/') = c :: rest := by simp [plain]
  rw [Request.sentPath, whole, written, front, origin_none plain]
  rw [front] at level
  simp only [unled, level]
  rfl

theorem encode_filled {code : String} (filled : code ≠ "") : Percent.encode code ≠ "" := by
  intro empty
  have read : Percent.decode (Percent.encode code) = code := by
    simpa using Percent.decode_encoded (List.not_mem_nil : '%' ∉ []) code
  rw [empty] at read
  exact filled (read.symm.trans (by decide))

theorem encode_unmarked {code : String} (filled : code ≠ "") : Unmarked (Percent.encode code).toList where
  filled := fun empty => encode_filled filled (String.toList_eq_nil_iff.mp empty)
  still := by
    have letters := fun c => Percent.encode_letters (s := code) (c := c)
    constructor
    all_goals
      intro step
      have dot := letters '.' (by simp [step])
      revert dot
      decide
  uncut := by
    refine ⟨?_, ?_, ?_⟩
    all_goals
      intro member
      have letter := Percent.encode_letters member
      revert letter
      decide

theorem pathOf_named (word piece : String) :
    (pathOf ["experiments", word, piece]).toList = ("/experiments/" ++ word ++ "/").toList ++ piece.toList := by
  simp [pathOf_toList, String.toList_append]

def keyWords : List String := ["key", "assign", "convert"]

theorem keyWords_plain {word : String} (listed : word ∈ keyWords) :
    '%' ∉ ("/experiments/" ++ word ++ "/").toList ∧ Unmarked word.toList := by
  simp only [keyWords, List.mem_cons, List.not_mem_nil, or_false] at listed
  obtain rfl | rfl | rfl := listed
  all_goals exact ⟨by decide, by decide, by decide, by decide⟩

theorem plainPath_encoded {word code : String} (listed : word ∈ keyWords) (filled : code ≠ "") {r : Request}
    (target : r.target = pathOf ["experiments", word, Percent.encode code]) :
    r.plainPath = pathOf ["experiments", word, code] := by
  obtain ⟨plain, named⟩ := keyWords_plain listed
  have unmarked : ∀ p ∈ ["experiments", word, Percent.encode code].map String.toList, Unmarked p := by
    simp only [List.map_cons, List.map_nil, List.forall_mem_cons]
    exact ⟨⟨by decide, by decide, by decide⟩, named, encode_unmarked filled, fun _ none => absurd none List.not_mem_nil⟩
  have written := target ▸ pathOf_toList ["experiments", word, Percent.encode code]
  have sent := sent_unmarked (List.cons_ne_nil _ _) unmarked written
  rw [Request.plainPath, sent, target, pathOf_named, Percent.decode_encoded plain, ← pathOf_named, String.ofList_toList]

-- A server undoes the escapes once, so for it a key is escaped once. A test client undoes them itself as well, so to it
-- a key is told escaped twice; one without a percent sign may as well be escaped once.
def Request.Spells (r : Request) (word key : String) : Prop :=
  r.target = pathOf ["experiments", word, Percent.encode (Percent.encode key)] ∨
    '%' ∉ key.toList ∧ r.target = pathOf ["experiments", word, Percent.encode key]

theorem Request.Spells.path {word key : String} (listed : word ∈ keyWords) (filled : key ≠ "") {r : Request}
    (spells : r.Spells word key) : r.path = pathOf ["experiments", word, key] := by
  obtain ⟨plain, _⟩ := keyWords_plain listed
  unfold Request.path
  rcases spells with target | ⟨unescaped, target⟩
  · rw [plainPath_encoded listed (encode_filled filled) target, ← String.ofList_toList (s := pathOf _), pathOf_named,
      Percent.decode_encoded plain, ← pathOf_named, String.ofList_toList]
  · have single : '%' ∉ (pathOf ["experiments", word, key]).toList := by
      rw [pathOf_named, List.mem_append]
      exact not_or.mpr ⟨plain, unescaped⟩
    rw [plainPath_encoded listed filled target, ← String.ofList_toList (s := pathOf _), Percent.decode_plain single]

section Asks
variable {r : Request} {key : String} {operation : Operation}

inductive Request.Asks (r : Request) (key : String) : Operation → Prop where
  | getByKey (method : upper r.method = "GET") (path : r.path = pathOf ["experiments", "key", key]) :
      Asks r key (.getByKey key)
  | assign {request : DecisionRequest} (method : upper r.method = "POST")
      (path : r.path = pathOf ["experiments", "assign", key]) (read : r.body.read DecisionRequest.form = .ok request) :
      Asks r key (.assign key request)
  | convert {report : ConversionReport} (method : upper r.method = "POST")
      (path : r.path = pathOf ["experiments", "convert", key]) (read : r.body.read ConversionReport.form = .ok report) :
      Asks r key (.convert key report)

theorem Request.Asks.calls (asks : r.Asks key operation) (given : key ≠ "") (single : '/' ∉ key.toList) :
    r.Calls operation 200 := by
  have pieces (word : String) (plain : '/' ∉ word.toList) : ∀ p ∈ ["experiments", word, key], '/' ∉ p.toList := by
    simp [plain, single]
  cases asks with
  | getByKey method path => exact ⟨_, ⟨_, path, pieces "key" (by decide), method ▸ .getByKey given⟩, .getByKey⟩
  | assign method path read =>
    exact ⟨_, ⟨_, path, pieces "assign" (by decide), method ▸ .assign given⟩, .assign read⟩
  | convert method path read =>
    exact ⟨_, ⟨_, path, pieces "convert" (by decide), method ▸ .convert given⟩, .convert read⟩

theorem splitOn_two {mark : Char} {s : List Char} (member : mark ∈ s) :
    ∃ p q rest, splitOn mark s = p :: q :: rest := by
  have joined : [mark].intercalate (splitOn mark s) = s := by rw [splitOn_exact, List.intercalate_splitOn]
  match cut : splitOn mark s with
  | [] => exact absurd cut (splitOn_ne_nil mark s)
  | [p] =>
    rw [cut, List.intercalate_singleton] at joined
    have whole : p ∈ splitOn mark s := cut ▸ List.mem_singleton.mpr rfl
    exact absurd (joined ▸ member) (splitOn_apart whole)
  | p :: q :: rest => exact ⟨p, q, rest, rfl⟩

theorem pathOf_slashed (word : String) (slashed : '/' ∈ key.toList) : ∃ p q rest,
    pathOf ["experiments", word, key] = pathOf ("experiments" :: word :: p :: q :: rest) ∧
      ∀ piece ∈ p :: q :: rest, '/' ∉ piece.toList := by
  obtain ⟨p, q, rest, cut⟩ := splitOn_two slashed
  refine ⟨String.ofList p, String.ofList q, rest.map String.ofList, ?_, ?_⟩
  · apply String.toList_injective
    have joined : ['/'].intercalate (p :: q :: rest) = key.toList := by
      rw [← cut, splitOn_exact, List.intercalate_splitOn]
    simp [pathOf_toList, joined, Function.comp_def]
  · intro piece member
    rw [← List.map_cons, ← List.map_cons, ← cut] at member
    obtain ⟨letters, among, rfl⟩ := List.mem_map.mp member
    rw [String.toList_ofList]
    exact splitOn_apart among

theorem Leads.short {method word p q : String} {rest : List String} {endpoint : Endpoint}
    (leads : Leads method ("experiments" :: word :: p :: q :: rest) endpoint) : method = "PATCH" ∨ method = "DELETE" := by
  cases leads with
  | updateVariant => exact .inl rfl
  | deleteVariant => exact .inr rfl

theorem Request.Asks.unreached (asks : r.Asks key operation) (slashed : '/' ∈ key.toList) (endpoint : Endpoint) :
    ¬ r.Reaches endpoint := by
  intro reaches
  have closed (word : String) (plain : '/' ∉ word.toList) (path : r.path = pathOf ["experiments", word, key])
      (other : upper r.method ≠ "PATCH" ∧ upper r.method ≠ "DELETE") : False := by
    obtain ⟨p, q, rest, same, apart⟩ := pathOf_slashed word slashed
    have pieces : ∀ piece ∈ "experiments" :: word :: p :: q :: rest, '/' ∉ piece.toList := by
      simpa [plain] using apart
    have found := route_found.mp (reaches_exact.mp reaches)
    rw [path, same, endpoint?_pieces (List.cons_ne_nil _ _) pieces] at found
    exact (leads_of_endpointOf found).short.elim other.1 other.2
  cases asks with
  | getByKey method path => exact closed "key" (by decide) path (by simp [method])
  | assign method path read => exact closed "assign" (by decide) path (by simp [method])
  | convert method path read => exact closed "convert" (by decide) path (by simp [method])

def Request.Served (r : Request) (tokens : Tokens) (workspace : RawText) (now : Moment) (operation : Operation)
    (s : Store) : Prop :=
  r.Calls operation 200 ∧ Tells 200 (r.service workspace now operation s).1 (respond tokens now r s).1 ∧
    (respond tokens now r s).2 = (r.service workspace now operation s).2

def Request.Lost (r : Request) (tokens : Tokens) (now : Moment) (s : Store) : Prop :=
  (∀ endpoint, ¬ r.Reaches endpoint) ∧ (respond tokens now r s).1.status ∈ [307, 404, 405] ∧
    (respond tokens now r s).2 = s

theorem lost_unreached (unreached : ∀ endpoint, ¬ r.Reaches endpoint) (tokens : Tokens) (now : Moment) (s : Store) :
    r.Lost tokens now s := by
  refine ⟨unreached, ?_⟩
  cases led : route (upper r.method) r.path with
  | found endpoint => exact absurd (reaches_exact.mpr led) (unreached endpoint)
  | wrongMethod | redirected | nowhere =>
    unfold respond answer
    rw [led]
    refine ⟨?_, rfl⟩
    dsimp only
    split <;> decide

theorem Tells.success {status : Nat} {outcome : Except Fault Answer} {response : Response}
    (tells : Tells status outcome response) (told : response.status = status) (success : status ∈ [200, 201, 204]) :
    ∃ answer, outcome = .ok answer := by
  cases outcome with
  | ok answer => exact ⟨answer, rfl⟩
  | error fault =>
    have failure := tells.error_code
    simp only [told, List.mem_cons, List.not_mem_nil, or_false] at success failure
    omega

-- Nothing is created for a workspace, a name or a description that is not whole.
theorem service_created {r : Request} {workspace : RawText} {now : Moment} {draft : ExperimentDraft} {s : Store}
    {answer : Answer} (served : (r.service workspace now (.create draft) s).1 = .ok answer) :
    ∃ name view, workspace = .whole name ∧ (Catalogue.create s name now draft).1 = .ok view ∧
      (r.service workspace now (.create draft) s).2 = (Operation.run name now s (.create draft)).2 := by
  unfold Request.service Operation.runSent at served ⊢
  cases workspace with
  | halved points => cases served
  | whole name =>
    cases garbled : Garbled.namesIn (Operation.create draft).textNames r.body.value with
    | cons other rest =>
      simp only [garbled] at served
      cases served
    | nil =>
      simp only [garbled] at served ⊢
      obtain ⟨view, made, _⟩ := Operation.map_ok served
      exact ⟨name, view, rfl, made, rfl⟩

end Asks

-- A key without a slash leads to its experiment from the creation on; with a slash the experiment is there as well, but
-- no path leads to it.
theorem keys_reached_unless_slashed {played : List (Moment × Move)} {tokens : Tokens} {workspace : RawText}
    {now : Moment} {post : Request} {draft : ExperimentDraft} (opens : post.Opens tokens workspace)
    (creates : post.Calls (.create draft) 201)
    (created : (respond tokens now post (Scene.empty.play played).store).1.status = 201) :
    let key := draft.key.val
    (∀ word ∈ keyWords, ∀ r : Request,
      (r.target = pathOf ["experiments", word, Percent.encode key] → r.plainPath = pathOf ["experiments", word, key]) ∧
      (r.Spells word key → r.path = pathOf ["experiments", word, key])) ∧
    ∃ name, workspace = .whole name ∧
      let scene := (Scene.empty.play played).after now (.perform name (.create draft))
      (respond tokens now post (Scene.empty.play played).store).2 = scene.store ∧
        ∀ later : List (Moment × Move), let s := (scene.play later).store
          ∃ e, e.id = (Scene.empty.play played).store.nextId ∧
            (∀ time, Operation.run name time s (.getByKey key) = (.ok (.experiment (s.view e)), s)) ∧
            ∀ (r : Request) operation time, r.Opens tokens workspace → r.Asks key operation →
              ('/' ∉ key.toList → r.Served tokens workspace time operation s) ∧
              ('/' ∈ key.toList → r.Lost tokens time s) := by
  intro key
  have filled : key ≠ "" := draft.key.property
  refine ⟨fun word listed r => ⟨plainPath_encoded listed filled, fun spells => spells.path listed filled⟩, ?_⟩
  have ready := Scene.play_ready Scene.empty_ready played
  obtain ⟨tells, left⟩ := respond_tells ready.sound opens creates now
  obtain ⟨answer, served⟩ := tells.success created (by decide)
  obtain ⟨name, view, rfl, made, written⟩ := service_created served
  refine ⟨name, rfl, ?_⟩
  intro scene
  refine ⟨left.trans written, ?_⟩
  intro later s
  obtain ⟨present, built⟩ := Catalogue.create_row made
  have next : scene.Ready := (Scene.after_commits ready now (.perform name (.create draft))).2
  obtain ⟨e, there, id, own, named⟩ := Scene.key_stays next present later
  rw [built] at id own named
  have sound := (Scene.play_ready next later).sound
  have found : s.experimentByKey? name key = some e := by
    have same := sound.by_key there
    rwa [own, named] at same
  refine ⟨e, id, ?_, ?_⟩
  · intro time
    simp only [Operation.run, Catalogue.getByKey, Store.viewByKey?, found]
    rfl
  · intro r operation time open' asks
    constructor
    · intro single
      have calls := asks.calls draft.key.property single
      exact ⟨calls, respond_tells sound open' calls time⟩
    · intro slashed
      exact lost_unreached (asks.unreached slashed) tokens time s

-- Two experiments of the shop: no path has the key of the first, and the second has to be escaped twice.

def offering (key : String) : Request :=
  ⟨"POST", "/experiments", some "Bearer t",
    some ⟨"application/json", "\x7b\"key\": \"" ++ key ++ "\", \"name\": \"Price\"\x7d"⟩⟩

def asking (key : String) : Request :=
  ⟨"GET", pathOf ["experiments", "key", Percent.encode (Percent.encode key)], some "Bearer t", none⟩

def AskedFor (key : String) (status : Nat) : Prop :=
  ∃ draft : ExperimentDraft, draft.key.val = key ∧ (offering key).Opens shopTokens "shop" ∧
    (offering key).Calls (.create draft) 201 ∧ (respond shopTokens ⟨0⟩ (offering key) Store.empty).1.status = 201 ∧
    (asking key).Asks key (.getByKey key) ∧ ((asking key).Calls (.getByKey key) 200 ↔ '/' ∉ key.toList) ∧
    (respond shopTokens ⟨1⟩ (asking key) (respond shopTokens ⟨0⟩ (offering key) Store.empty).2).1.status = status

theorem offered_asked : AskedFor "half/price" 404 ∧ AskedFor "50%2F" 200 := by
  have reads : ∀ key ∈ ["half/price", "50%2F"], (match (offering key).body.read ExperimentDraft.form with
      | .ok draft => some draft.key.val
      | .error _ => none) = some key := by decide +kernel
  have offered : ∀ key ∈ ["half/price", "50%2F"],
      (respond shopTokens ⟨0⟩ (offering key) Store.empty).1.status = 201 := by decide +kernel
  have path : ∀ key ∈ ["half/price", "50%2F"], (offering key).path = pathOf ["experiments"] := by decide +kernel
  have posts : upper "POST" = "POST" := by decide
  have gets : upper "GET" = "GET" := by decide
  have each : ∀ key ∈ ["half/price", "50%2F"], ∀ status,
      (respond shopTokens ⟨1⟩ (asking key) (respond shopTokens ⟨0⟩ (offering key) Store.empty).2).1.status = status →
        AskedFor key status := by
    intro key listed status answered
    have made := reads key listed
    split at made
    · rename_i draft read
      have named : draft.key.val = key := Option.some.inj made
      have calls : (offering key).Calls (.create draft) 201 :=
        ⟨.create, ⟨_, path key listed, by decide, posts.symm ▸ .create (.inl rfl)⟩, .create read⟩
      have opens : (offering key).Opens shopTokens "shop" := shop_opens rfl
      have created := offered key listed
      obtain ⟨paths, name, same, _, later⟩ := @keys_reached_unless_slashed [] _ _ _ _ _ opens calls created
      obtain ⟨e, _, _, reached⟩ := later []
      have asks : (asking key).Asks key (.getByKey key) :=
        .getByKey gets (named ▸ (paths "key" (by decide) (asking draft.key.val)).2 (.inl rfl))
      obtain ⟨single, slashed⟩ := reached (asking key) (.getByKey key) ⟨1⟩ (shop_opens rfl) (named ▸ asks)
      rw [named] at single slashed
      refine ⟨draft, named, opens, calls, created, asks, ?_, answered⟩
      constructor
      · intro ⟨endpoint, reaches, _⟩ found
        exact (slashed found).1 endpoint reaches
      · exact fun absent => (single absent).1
    · cases made
  exact ⟨each _ (by decide) 404 (by decide +kernel), each _ (by decide) 200 (by decide +kernel)⟩

end Cohort.Http
