import Mathlib.Data.List.TakeWhile
import Cohort.Http.Exchange

-- Whom a request comes from. The header says so with a token, and the token opens one workspace.
namespace Cohort

namespace Text
variable {drops : Char → Bool}

theorem head?_dropWhile {s : List Char} {c : Char} (first : (s.dropWhile drops).head? = some c) : drops c = false := by
  have kept := List.head?_dropWhile_not drops s
  rw [first] at kept
  exact kept

theorem trimOf_splits (drops : Char → Bool) (s : List Char) : ∃ before after, s = before ++ trimOf drops s ++ after ∧
    (∀ c ∈ before ++ after, drops c = true) ∧ (∀ c, (trimOf drops s).head? = some c → drops c = false) ∧
    ∀ c, (trimOf drops s).getLast? = some c → drops c = false := by
  have middle : s.dropWhile drops = trimOf drops s ++ ((s.dropWhile drops).reverse.takeWhile drops).reverse := by
    rw [trimOf, ← List.reverse_append, List.takeWhile_append_dropWhile, List.reverse_reverse]
  refine ⟨s.takeWhile drops, ((s.dropWhile drops).reverse.takeWhile drops).reverse, ?_, ?_, ?_, ?_⟩
  · rw [List.append_assoc, ← middle, List.takeWhile_append_dropWhile]
  · intro c member
    rcases List.mem_append.mp member with front | back
    · exact List.mem_takeWhile_imp front
    · exact List.mem_takeWhile_imp (List.mem_reverse.mp back)
  · intro c first
    apply head?_dropWhile (s := s)
    rw [middle, List.head?_append, first]
    rfl
  · intro c last
    rw [trimOf, List.getLast?_reverse] at last
    exact head?_dropWhile last

theorem dropWhile_front {front rest : List Char} (dropped : ∀ c ∈ front, drops c = true)
    (kept : ∀ c, rest.head? = some c → drops c = false) : (front ++ rest).dropWhile drops = rest := by
  rw [List.dropWhile_append_of_pos dropped]
  cases rest with
  | nil => rfl
  | cons c others => exact List.dropWhile_cons_of_neg (by simp [kept c rfl])

theorem trimOf_between {before t after : List Char} (dropped : ∀ c ∈ before ++ after, drops c = true)
    (first : ∀ c, t.head? = some c → drops c = false) (last : ∀ c, t.getLast? = some c → drops c = false) :
    trimOf drops (before ++ t ++ after) = t := by
  have back : ∀ c ∈ after.reverse, drops c = true :=
    fun c member => dropped c (List.mem_append_right before (List.mem_reverse.mp member))
  cases t with
  | nil =>
    have none : (before ++ [] ++ after).dropWhile drops = [] :=
      List.dropWhile_eq_nil_iff.mpr (by simpa using dropped)
    rw [trimOf, none]
    rfl
  | cons c rest =>
    have front : (before ++ (c :: rest ++ after)).dropWhile drops = c :: rest ++ after :=
      dropWhile_front (fun b member => dropped b (List.mem_append_left after member)) fun _ head => first _ head
    rw [trimOf, List.append_assoc, front, List.reverse_append, dropWhile_front back, List.reverse_reverse]
    intro d ends
    rw [List.head?_reverse] at ends
    exact last d ends

end Text

namespace Http
open Text

def Bears (header token : String) : Prop :=
  ∃ scheme before after, header.toList = scheme ++ ' ' :: (before ++ token.toList ++ after) ∧ ' ' ∉ scheme ∧
    sameLetters (String.ofList scheme) "bearer" = true ∧ (∀ c ∈ before ++ after, isSpacing c = true) ∧
    (∀ c, token.toList.head? = some c → isSpacing c = false) ∧
    ∀ c, token.toList.getLast? = some c → isSpacing c = false

theorem bears_exact {header token : String} (filled : token ≠ "") : Bears header token ↔
    sameLetters (String.ofList (header.toList.takeWhile (· ≠ ' '))) "bearer" = true ∧
      String.ofList (trimOf isSpacing ((header.toList.dropWhile (· ≠ ' ')).drop 1)) = token := by
  constructor
  · rintro ⟨scheme, before, after, written, unspaced, bearer, spaces, first, last⟩
    have letters : ∀ c ∈ scheme, decide (c ≠ ' ') = true := by
      intro c member
      simp only [ne_eq, decide_eq_true_eq]
      rintro rfl
      exact unspaced member
    have cut : (header.toList.takeWhile (· ≠ ' ')) = scheme := by
      rw [written, List.takeWhile_append_of_pos letters, List.takeWhile_cons_of_neg (by simp), List.append_nil]
    have left : header.toList.dropWhile (· ≠ ' ') = ' ' :: (before ++ token.toList ++ after) := by
      rw [written]
      exact dropWhile_front letters fun c head => by cases head; rfl
    rw [cut, left]
    refine ⟨bearer, ?_⟩
    rw [List.drop_one, List.tail_cons, trimOf_between spaces first last, String.ofList_toList]
  · rintro ⟨bearer, rfl⟩
    have whole := List.takeWhile_append_dropWhile (p := fun c : Char => decide (c ≠ ' ')) (l := header.toList)
    cases left : header.toList.dropWhile (· ≠ ' ') with
    | nil =>
      rw [left] at filled
      exact absurd rfl filled
    | cons c rest =>
      have space : c = ' ' := by
        have kept := head?_dropWhile (c := c) (congrArg List.head? left)
        simpa using kept
      subst space
      rw [left] at whole
      obtain ⟨before, after, split, spaces, first, last⟩ := trimOf_splits isSpacing rest
      refine ⟨_, before, after, ?_, ?_, bearer, spaces, ?_, ?_⟩
      · simp only [List.drop_one, List.tail_cons, String.toList_ofList]
        rw [← split]
        exact whole.symm
      · intro member
        have letter := List.mem_takeWhile_imp member
        simp at letter
      · simpa using first
      · simpa using last

def Request.Opens (r : Request) (tokens : Tokens) (workspace : RawText) : Prop :=
  ∃ header token, r.authorization = some header ∧ Bears header token ∧ token ≠ "" ∧
    Json.lookup (.whole token) tokens = some workspace ∧ workspace ≠ .whole ""

theorem workspace?_some {tokens : Tokens} {token : String} {workspace : RawText} :
    tokens.workspace? token = some workspace ↔
      token ≠ "" ∧ Json.lookup (.whole token) tokens = some workspace ∧ workspace ≠ .whole "" := by
  unfold Tokens.workspace?
  by_cases empty : token = ""
  · simp [empty]
  · simp [empty, Option.filter_eq_some_iff]

theorem authenticate_exact {tokens : Tokens} {r : Request} {workspace : RawText} :
    authenticate tokens r.authorization = .granted workspace ↔ r.Opens tokens workspace := by
  constructor
  · intro granted
    unfold authenticate at granted
    simp only at granted
    split at granted
    · cases granted
    · rename_i bearer
      split at granted
      · rename_i opened found
        cases granted
        obtain ⟨filled, known, named⟩ := workspace?_some.mp found
        cases sent : r.authorization with
        | none => exact absurd (by rw [sent]; rfl) filled
        | some header =>
          rw [sent] at bearer filled known
          exact ⟨header, _, sent, (bears_exact filled).mpr ⟨by simpa using bearer, rfl⟩, filled, known, named⟩
      · cases granted
  · rintro ⟨header, token, sent, bears, filled, known, named⟩
    obtain ⟨bearer, borne⟩ := (bears_exact filled).mp bears
    have found := workspace?_some.mpr ⟨filled, known, named⟩
    simp only [authenticate, sent, Option.getD_some, bearer, borne, found]
    rfl

end Http
end Cohort
