import Mathlib.Data.List.Basic
import Cohort.Http.Route

-- Which methods and paths lead to which endpoints. A path is known by the pieces between its slashes.
namespace Cohort.Text

theorem splitOn_exact (mark : Char) (s : List Char) : splitOn mark s = s.splitOn mark := by
  induction s with
  | nil => rfl
  | cons c rest ih =>
    have split : (c :: rest).splitOn mark =
        if c = mark then [] :: rest.splitOn mark else (rest.splitOn mark).modifyHead (c :: ·) := by
      simp only [List.splitOn_eq_splitOnP, List.splitOnP_cons_eq_if_modifyHead, beq_iff_eq]
    rw [split, ← ih, splitOn]
    split
    · rfl
    · split
      · rename_i pieces
        rw [pieces]
        rfl
      · rename_i pieces
        exact absurd pieces (splitOn_ne_nil mark rest)

theorem splitOn_apart {mark : Char} {s piece : List Char} (member : piece ∈ splitOn mark s) : mark ∉ piece := by
  induction s generalizing piece with
  | nil =>
    rw [List.mem_singleton.mp member]
    exact List.not_mem_nil
  | cons c rest ih =>
    unfold splitOn at member
    split at member
    · rcases List.mem_cons.mp member with rfl | later
      · exact List.not_mem_nil
      · exact ih later
    · rename_i apart
      split at member
      · rename_i first others pieces
        rw [pieces] at ih
        rcases List.mem_cons.mp member with rfl | later
        · rw [List.mem_cons, not_or]
          exact ⟨Ne.symm apart, ih List.mem_cons_self⟩
        · exact ih (List.mem_cons_of_mem _ later)
      · rename_i pieces
        exact absurd pieces (splitOn_ne_nil mark rest)

end Cohort.Text

namespace Cohort.Http

def pathOf (pieces : List String) : String := "/" ++ "/".intercalate pieces

-- A word at the end of a path may have a line feed behind it.
def Ends (w p : String) : Prop := p = w ∨ p = w ++ "\n"

def deeds : List (String × (String → Endpoint)) :=
  [("start", .start), ("pause", .pause), ("conclude", .conclude), ("archive", .archive), ("variants", .addVariant),
    ("override", .pin)]

-- The endpoints by method and pieces. Where a word stands in the place of an id the word is what counts.
inductive Leads : String → List String → Endpoint → Prop where
  | assign {key : String} (given : key ≠ "") : Leads "POST" ["experiments", "assign", key] (.assign key)
  | assignAll {last : String} (ends : Ends "assign" last) : Leads "POST" ["experiments", last] .assignAll
  | convert {key : String} (given : key ≠ "") : Leads "POST" ["experiments", "convert", key] (.convert key)
  | create {last : String} (ends : Ends "experiments" last) : Leads "POST" [last] .create
  | list {last : String} (ends : Ends "experiments" last) : Leads "GET" [last] .list
  | getByKey {key : String} (given : key ≠ "") : Leads "GET" ["experiments", "key", key] (.getByKey key)
  | get {id : String} (given : id ≠ "") : Leads "GET" ["experiments", id] (.get id)
  | update {id : String} (given : id ≠ "") : Leads "PATCH" ["experiments", id] (.update id)
  | deed {word id last : String} {endpoint : String → Endpoint} (listed : (word, endpoint) ∈ deeds) (given : id ≠ "")
      (free : id ≠ "assign" ∧ id ≠ "convert") (ends : Ends word last) :
      Leads "POST" ["experiments", id, last] (endpoint id)
  | updateVariant {id variant : String} (given : id ≠ "") (named : variant ≠ "") :
      Leads "PATCH" ["experiments", id, "variants", variant] (.updateVariant id variant)
  | deleteVariant {id variant : String} (given : id ≠ "") (named : variant ≠ "") :
      Leads "DELETE" ["experiments", id, "variants", variant] (.deleteVariant id variant)
  | statistics {id last : String} (given : id ≠ "") (free : id ≠ "key") (ends : Ends "stats" last) :
      Leads "GET" ["experiments", id, last] (.statistics id)

section Captures
variable {segments : List Segment} {pieces taken : List String} {w : String}

-- One equation for each way in which segments and pieces meet.

@[simp] theorem capture?_met : capture? [] [] = some [] := rfl

@[simp] theorem capture?_left {p : String} {rest : List String} : capture? [] (p :: rest) = none := rfl

@[simp] theorem capture?_missed {segment : Segment} : capture? (segment :: segments) [] = none := by
  cases segment <;> cases segments <;> rfl

@[simp] theorem capture?_ends {p : String} :
    capture? [.word w] [p] = if p = w ∨ p = w ++ "\n" then some [] else none := rfl

@[simp] theorem capture?_beyond {p q : String} {rest : List String} : capture? [.word w] (p :: q :: rest) = none :=
  ite_self none

@[simp] theorem capture?_steps {segment : Segment} {p : String} {rest : List String} :
    capture? (.word w :: segment :: segments) (p :: rest) =
      if p = w then capture? (segment :: segments) rest else none := rfl

@[simp] theorem capture?_takes {p : String} {rest : List String} : capture? (.capture :: segments) (p :: rest) =
    if p = "" then none else (capture? segments rest).map (p :: ·) := rfl

theorem capture?_nil : capture? [] pieces = some taken ↔ pieces = [] ∧ taken = [] := by
  cases pieces <;> simp [eq_comm]

theorem capture?_last : capture? [.word w] pieces = some taken ↔ ∃ p, Ends w p ∧ pieces = [p] ∧ taken = [] := by
  match pieces with
  | [] => simp
  | [p] =>
    simp only [capture?_ends, Option.ite_none_right_eq_some, Option.some.injEq, List.cons.injEq, and_true]
    exact ⟨fun ⟨ends, empty⟩ => ⟨p, ends, rfl, empty.symm⟩, fun ⟨_, ends, same, empty⟩ => ⟨same ▸ ends, empty.symm⟩⟩
  | p :: q :: rest => simp

theorem capture?_word {segment : Segment} : capture? (.word w :: segment :: segments) pieces = some taken ↔
    ∃ rest, pieces = w :: rest ∧ capture? (segment :: segments) rest = some taken := by
  cases pieces with
  | nil => simp
  | cons p rest =>
    by_cases hit : p = w
    · simp [hit]
    · simp [hit]

theorem capture?_capture : capture? (.capture :: segments) pieces = some taken ↔
    ∃ p rest others, p ≠ "" ∧ pieces = p :: rest ∧ capture? segments rest = some others ∧ taken = p :: others := by
  cases pieces with
  | nil => simp
  | cons p rest =>
    by_cases empty : p = ""
    · simp [empty]
    · simp only [capture?_takes, empty, if_false, Option.map_eq_some_iff]
      constructor
      · rintro ⟨others, fits, rfl⟩
        exact ⟨p, rest, others, empty, rfl, fits, rfl⟩
      · rintro ⟨_, _, others, _, same, fits, rfl⟩
        cases same
        exact ⟨others, fits, rfl⟩

variable {v : String} {endpoint : Endpoint}

theorem takes_word {e : Endpoint} (fits : capture? [.word w] pieces = some taken)
    (made : alone e taken = some endpoint) : ∃ last, Ends w last ∧ pieces = [last] ∧ endpoint = e := by
  obtain ⟨last, ends, rfl, rfl⟩ := capture?_last.mp fits
  exact ⟨last, ends, rfl, (Option.some.inj made).symm⟩

theorem takes_words {e : Endpoint} (fits : capture? [.word v, .word w] pieces = some taken)
    (made : alone e taken = some endpoint) : ∃ last, Ends w last ∧ pieces = [v, last] ∧ endpoint = e := by
  obtain ⟨rest, rfl, tail⟩ := capture?_word.mp fits
  obtain ⟨last, ends, rfl, same⟩ := takes_word tail made
  exact ⟨last, ends, rfl, same⟩

theorem takes_one {f : String → Endpoint} (fits : capture? [.word w, .capture] pieces = some taken)
    (made : one f taken = some endpoint) : ∃ p, p ≠ "" ∧ pieces = [w, p] ∧ endpoint = f p := by
  obtain ⟨rest, rfl, tail⟩ := capture?_word.mp fits
  obtain ⟨p, after, others, given, rfl, none, rfl⟩ := capture?_capture.mp tail
  obtain ⟨rfl, rfl⟩ := capture?_nil.mp none
  exact ⟨p, given, rfl, (Option.some.inj made).symm⟩

theorem takes_named {f : String → Endpoint} (fits : capture? [.word v, .word w, .capture] pieces = some taken)
    (made : one f taken = some endpoint) : ∃ p, p ≠ "" ∧ pieces = [v, w, p] ∧ endpoint = f p := by
  obtain ⟨rest, rfl, tail⟩ := capture?_word.mp fits
  obtain ⟨p, given, rfl, same⟩ := takes_one tail made
  exact ⟨p, given, rfl, same⟩

theorem takes_deed {f : String → Endpoint} (fits : capture? [.word v, .capture, .word w] pieces = some taken)
    (made : one f taken = some endpoint) :
    ∃ p last, p ≠ "" ∧ Ends w last ∧ pieces = [v, p, last] ∧ endpoint = f p := by
  obtain ⟨rest, rfl, tail⟩ := capture?_word.mp fits
  obtain ⟨p, after, others, given, rfl, word, rfl⟩ := capture?_capture.mp tail
  obtain ⟨last, ends, rfl, rfl⟩ := capture?_last.mp word
  exact ⟨p, last, given, ends, rfl, (Option.some.inj made).symm⟩

theorem takes_two {f : String → String → Endpoint}
    (fits : capture? [.word v, .capture, .word w, .capture] pieces = some taken)
    (made : two f taken = some endpoint) : ∃ p q, p ≠ "" ∧ q ≠ "" ∧ pieces = [v, p, w, q] ∧ endpoint = f p q := by
  obtain ⟨rest, rfl, tail⟩ := capture?_word.mp fits
  obtain ⟨p, after, others, given, rfl, second, rfl⟩ := capture?_capture.mp tail
  obtain ⟨third, rfl, last⟩ := capture?_word.mp second
  obtain ⟨q, after, others, named, rfl, none, rfl⟩ := capture?_capture.mp last
  obtain ⟨rfl, rfl⟩ := capture?_nil.mp none
  exact ⟨p, q, given, named, rfl, (Option.some.inj made).symm⟩

end Captures

theorem Ends.filled {w p : String} (ends : Ends w p) (word : w ≠ "") : p ≠ "" := by
  rcases ends with rfl | rfl
  · exact word
  · simp

def endpointOf (method : String) (pieces : List String) : Option Endpoint :=
  routes.findSome? fun r => if r.method = method then (capture? r.segments pieces).bind r.endpoint else none

theorem Leads.endpointOf {method : String} {pieces : List String} {endpoint : Endpoint}
    (leads : Leads method pieces endpoint) : endpointOf method pieces = some endpoint := by
  cases leads with
  | deed listed given free ends =>
    simp only [deeds, List.mem_cons, Prod.mk.injEq, List.not_mem_nil, or_false] at listed
    rcases listed with ⟨rfl, rfl⟩ | ⟨rfl, rfl⟩ | ⟨rfl, rfl⟩ | ⟨rfl, rfl⟩ | ⟨rfl, rfl⟩ | ⟨rfl, rfl⟩
    all_goals rcases ends with rfl | rfl <;> simp [Http.endpointOf, routes, one, free, given]
  | assignAll ends | create ends | list ends =>
    rcases ends with rfl | rfl <;> simp [Http.endpointOf, routes, alone]
  | statistics given free ends =>
    rcases ends with rfl | rfl <;> simp [Http.endpointOf, routes, one, free, given]
  | assign given | convert given | getByKey given | get given | update given =>
    simp [Http.endpointOf, routes, one, given]
  | updateVariant given named | deleteVariant given named =>
    simp [Http.endpointOf, routes, two, given, named]

theorem deeds_apart {word : String} {f : String → Endpoint} (listed : (word, f) ∈ deeds) :
    word ≠ "" ∧ ∀ id key, f id ≠ .assign key ∧ f id ≠ .convert key := by
  simp only [deeds, List.mem_cons, Prod.mk.injEq, List.not_mem_nil, or_false] at listed
  rcases listed with ⟨rfl, rfl⟩ | ⟨rfl, rfl⟩ | ⟨rfl, rfl⟩ | ⟨rfl, rfl⟩ | ⟨rfl, rfl⟩ | ⟨rfl, rfl⟩
  all_goals exact ⟨by decide, fun _ _ => ⟨nofun, nofun⟩⟩

-- The route of a deed comes to its turn only if the id is none of the words before it.
theorem Leads.of_deed {word id last : String} {f : String → Endpoint} (listed : (word, f) ∈ deeds) (given : id ≠ "")
    (ends : Ends word last) (found : Http.endpointOf "POST" ["experiments", id, last] = some (f id)) :
    Leads "POST" ["experiments", id, last] (f id) := by
  obtain ⟨filled, apart⟩ := deeds_apart listed
  refine .deed listed given ⟨?_, ?_⟩ ends
  · rintro rfl
    have first := (Leads.assign (ends.filled filled)).endpointOf
    exact (apart _ _).1 (Option.some.inj (found.symm.trans first))
  · rintro rfl
    have first := (Leads.convert (ends.filled filled)).endpointOf
    exact (apart _ _).2 (Option.some.inj (found.symm.trans first))

theorem Leads.of_statistics {id last : String} (given : id ≠ "") (ends : Ends "stats" last)
    (found : Http.endpointOf "GET" ["experiments", id, last] = some (.statistics id)) :
    Leads "GET" ["experiments", id, last] (.statistics id) := by
  refine .statistics given ?_ ends
  rintro rfl
  have first := (Leads.getByKey (ends.filled (by decide))).endpointOf
  cases found.symm.trans first

theorem leads_of_endpointOf {method : String} {pieces : List String} {endpoint : Endpoint}
    (found : endpointOf method pieces = some endpoint) : Leads method pieces endpoint := by
  obtain ⟨r, member, made⟩ := List.exists_of_findSome?_eq_some found
  simp only [Option.ite_none_right_eq_some, Option.bind_eq_some_iff] at made
  obtain ⟨rfl, taken, fits, made⟩ := made
  simp only [routes, List.mem_cons, List.not_mem_nil, or_false] at member
  rcases member with rfl | rfl | rfl | rfl | rfl | rfl | rfl | rfl | rfl | rfl | rfl | rfl | rfl | rfl | rfl | rfl | rfl
  · obtain ⟨key, given, rfl, rfl⟩ := takes_named fits made
    exact .assign given
  · obtain ⟨last, ends, rfl, rfl⟩ := takes_words fits made
    exact .assignAll ends
  · obtain ⟨key, given, rfl, rfl⟩ := takes_named fits made
    exact .convert given
  · obtain ⟨last, ends, rfl, rfl⟩ := takes_word fits made
    exact .create ends
  · obtain ⟨last, ends, rfl, rfl⟩ := takes_word fits made
    exact .list ends
  · obtain ⟨key, given, rfl, rfl⟩ := takes_named fits made
    exact .getByKey given
  · obtain ⟨id, given, rfl, rfl⟩ := takes_one fits made
    exact .get given
  · obtain ⟨id, given, rfl, rfl⟩ := takes_one fits made
    exact .update given
  · obtain ⟨id, last, given, ends, rfl, rfl⟩ := takes_deed fits made
    exact .of_deed (by simp [deeds]) given ends found
  · obtain ⟨id, last, given, ends, rfl, rfl⟩ := takes_deed fits made
    exact .of_deed (by simp [deeds]) given ends found
  · obtain ⟨id, last, given, ends, rfl, rfl⟩ := takes_deed fits made
    exact .of_deed (by simp [deeds]) given ends found
  · obtain ⟨id, last, given, ends, rfl, rfl⟩ := takes_deed fits made
    exact .of_deed (by simp [deeds]) given ends found
  · obtain ⟨id, last, given, ends, rfl, rfl⟩ := takes_deed fits made
    exact .of_deed (by simp [deeds]) given ends found
  · obtain ⟨id, variant, given, named, rfl, rfl⟩ := takes_two fits made
    exact .updateVariant given named
  · obtain ⟨id, variant, given, named, rfl, rfl⟩ := takes_two fits made
    exact .deleteVariant given named
  · obtain ⟨id, last, given, ends, rfl, rfl⟩ := takes_deed fits made
    exact .of_deed (by simp [deeds]) given ends found
  · obtain ⟨id, last, given, ends, rfl, rfl⟩ := takes_deed fits made
    exact .of_statistics given ends found

theorem pathOf_toList (pieces : List String) :
    (pathOf pieces).toList = '/' :: ['/'].intercalate (pieces.map String.toList) := by
  simp [pathOf, String.toList_append, String.toList_intercalate]

-- A path that begins with a slash is the path of its pieces, and of no others.
theorem takes_pieces {pieces : List String} (filled : pieces ≠ []) (apart : ∀ p ∈ pieces, '/' ∉ p.toList) (r : Route) :
    r.takes (pathOf pieces) = capture? r.segments pieces := by
  have split : (Text.splitOn '/' (['/'].intercalate (pieces.map String.toList))).map String.ofList = pieces := by
    rw [Text.splitOn_exact, List.splitOn_intercalate '/' (by simpa using apart) (by simpa using filled)]
    simp
  unfold Route.takes
  rw [pathOf_toList]
  simp only [split]

theorem path_pieces {path : String} {rest : List Char} (slash : path.toList = '/' :: rest) :
    ∃ pieces, pieces ≠ [] ∧ (∀ p ∈ pieces, '/' ∉ p.toList) ∧ path = pathOf pieces := by
  refine ⟨(Text.splitOn '/' rest).map String.ofList, by simp [Text.splitOn_ne_nil], ?_, ?_⟩
  · intro p member
    obtain ⟨piece, among, rfl⟩ := List.mem_map.mp member
    rw [String.toList_ofList]
    exact Text.splitOn_apart among
  · apply String.toList_injective
    rw [pathOf_toList, slash, Text.splitOn_exact]
    simp [Function.comp_def, List.intercalate_splitOn]

theorem takes_slash {r : Route} {path : String} {taken : List String} (fits : r.takes path = some taken) :
    ∃ rest, path.toList = '/' :: rest := by
  unfold Route.takes at fits
  split at fits
  · rename_i rest slash
    exact ⟨rest, slash⟩
  · cases fits

theorem endpoint?_pieces {pieces : List String} (filled : pieces ≠ []) (apart : ∀ p ∈ pieces, '/' ∉ p.toList)
    (method : String) : endpoint? method (pathOf pieces) = endpointOf method pieces := by
  simp only [endpoint?, endpointOf, takes_pieces filled apart]

theorem route_found {method path : String} {endpoint : Endpoint} :
    route method path = .found endpoint ↔ endpoint? method path = some endpoint := by
  unfold route
  cases endpoint? method path with
  | some other => simp
  | none =>
    simp only [reduceCtorEq, iff_false]
    split
    · nofun
    · split <;> nofun

theorem route_exact {method path : String} {endpoint : Endpoint} : route method path = .found endpoint ↔
    ∃ pieces, path = pathOf pieces ∧ (∀ p ∈ pieces, '/' ∉ p.toList) ∧ Leads method pieces endpoint := by
  rw [route_found]
  constructor
  · intro found
    obtain ⟨r, _, made⟩ := List.exists_of_findSome?_eq_some found
    simp only [Option.ite_none_right_eq_some, Option.bind_eq_some_iff] at made
    obtain ⟨_, taken, fits, _⟩ := made
    obtain ⟨rest, slash⟩ := takes_slash fits
    obtain ⟨pieces, filled, apart, rfl⟩ := path_pieces slash
    rw [endpoint?_pieces filled apart] at found
    exact ⟨pieces, rfl, apart, leads_of_endpointOf found⟩
  · rintro ⟨pieces, rfl, apart, leads⟩
    have filled : pieces ≠ [] := by cases leads <;> simp
    rw [endpoint?_pieces filled apart]
    exact leads.endpointOf

end Cohort.Http
