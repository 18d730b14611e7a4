import Mathlib.Data.List.TakeDrop
import Mathlib.Data.List.TakeWhile
import Mathlib.Data.Nat.Digits.Defs
import Cohort.Calendar.Reading

-- Every day has one date, and a time is read from its text as it was, with its zone.
namespace Cohort

structure Dated.Shown (t : Dated) : Prop where
  wall : t.wall.micros < Moment.limit
  zone : ∀ n, t.offset = some n → n.natAbs < 1440

namespace Calendar
open Text

theorem inMonths_exact {lengths : List Nat} {n : Nat} (month : Nat) (inside : n < lengths.sum) :
    ∃ i length, lengths[i]? = some length ∧ (inMonths n month lengths).1 = month + i ∧
      ∃ k, (inMonths n month lengths).2 = k + 1 ∧ k < length ∧ n = (lengths.take i).sum + k := by
  induction lengths generalizing n month with
  | nil => exact absurd inside (Nat.not_lt_zero n)
  | cons length rest ih =>
    rw [inMonths]
    split
    · rename_i early
      exact ⟨0, length, rfl, rfl, n, rfl, early, (Nat.zero_add n).symm⟩
    · rename_i late
      rw [List.sum_cons] at inside
      have later : n - length < rest.sum := by omega
      obtain ⟨i, own, found, place, k, day, bound, split⟩ := ih (month + 1) later
      refine ⟨i + 1, own, found, by omega, k, day, bound, ?_⟩
      rw [List.take_succ_cons, List.sum_cons]
      omega

theorem sum_monthLengths (year : Nat) : (monthLengths year).sum = if isLeap year then 366 else 365 := by
  unfold monthLengths
  cases isLeap year with
  | false | true => rfl

theorem monthLengths_le {year length i : Nat} (found : (monthLengths year)[i]? = some length) :
    i < 12 ∧ length ≤ 31 := by
  have inside : i < 12 := (List.getElem?_eq_some_iff.mp found).1
  have member := List.mem_of_getElem? found
  refine ⟨inside, ?_⟩
  simp only [monthLengths, List.mem_cons, List.not_mem_nil, or_false] at member
  split at member
  · omega
  · omega

theorem isLeap_exact {year : Nat} : isLeap year = true ↔ year % 4 = 0 ∧ (year % 100 ≠ 0 ∨ year % 400 = 0) := by
  simp [isLeap]

-- The year that lies so many cycles of 400, 100, 4 and 1 years after the first.
section Cycles
variable {q c f o : Nat} (centuries : c ≤ 3) (fours : f ≤ 24) (ones : o ≤ 3)
include centuries fours ones

theorem daysBefore_cycles :
    daysBefore (400 * q + 100 * c + 4 * f + o + 1) = 146097 * q + 36524 * c + 1461 * f + 365 * o := by
  have byFour : (400 * q + 100 * c + 4 * f + o) / 4 = 100 * q + 25 * c + f := by omega
  have byHundred : (400 * q + 100 * c + 4 * f + o) / 100 = 4 * q + c := by omega
  have byCycle : (400 * q + 100 * c + 4 * f + o) / 400 = q := by omega
  rw [daysBefore, Nat.add_sub_cancel, byFour, byHundred, byCycle]
  omega

theorem isLeap_cycles : isLeap (400 * q + 100 * c + 4 * f + o + 1) = true ↔ o = 3 ∧ (f ≠ 24 ∨ c = 3) := by
  rw [isLeap_exact]
  omega

end Cycles

theorem ofDays_splits (n : Nat) : ∃ r, n = daysBefore (Date.ofDays n).year + r ∧
    r < (monthLengths (Date.ofDays n).year).sum ∧
    inMonths r 1 (monthLengths (Date.ofDays n).year) = ((Date.ofDays n).month, (Date.ofDays n).day) := by
  let a := n % 146097
  let c := min (a / 36524) 3
  let b := a - 36524 * c
  let f := b / 1461
  let d := b % 1461
  let o := min (d / 365) 3
  have centuries : c ≤ 3 := Nat.min_le_right _ _
  -- the last century of a cycle is longer by one day
  have within : b ≤ 36524 ∧ (b = 36524 → c = 3) := by omega
  have fours : f ≤ 24 := by omega
  have ones : o ≤ 3 := Nat.min_le_right _ _
  have year : (Date.ofDays n).year = 400 * (n / 146097) + 100 * c + 4 * f + o + 1 := rfl
  refine ⟨d - 365 * o, ?_, ?_, rfl⟩
  · rw [year, daysBefore_cycles centuries fours ones]
    omega
  · rw [year, sum_monthLengths]
    split
    · omega
    · rename_i common
      rw [isLeap_cycles centuries fours ones] at common
      omega

theorem ofDays_exact (n : Nat) :
    (Date.ofDays n).real = true ∧ (Date.ofDays n).days = n ∧ (Date.ofDays n).month ≤ 12 ∧ (Date.ofDays n).day ≤ 31 := by
  obtain ⟨r, whole, inside, place⟩ := ofDays_splits n
  obtain ⟨i, length, found, month, k, day, bound, rest⟩ := inMonths_exact 1 inside
  rw [place] at month day
  replace month : (Date.ofDays n).month = 1 + i := month
  replace day : (Date.ofDays n).day = k + 1 := day
  obtain ⟨last, most⟩ := monthLengths_le found
  refine ⟨?_, ?_, by omega, by omega⟩
  · rw [Date.real, month, day, Nat.add_sub_cancel_left, found]
    simp only [Bool.and_eq_true, decide_eq_true_eq]
    omega
  · rw [Date.days, month, day, Nat.add_sub_cancel_left, Nat.add_sub_cancel]
    show daysBefore (Date.ofDays n).year + ((monthLengths (Date.ofDays n).year).take i).sum + k = n
    omega

theorem ofDays_year {n : Nat} (inside : n < 3652059) : 1 ≤ (Date.ofDays n).year ∧ (Date.ofDays n).year ≤ 9999 := by
  simp only [Date.ofDays]
  omega

theorem ofMicros_exact {n : Nat} (inside : n < microsPerDay) : (Clock.ofMicros n).real = true ∧
    (Clock.ofMicros n).micros = n ∧ (Clock.ofMicros n).micro < 1000000 := by
  have day : microsPerDay = 86400000000 := rfl
  refine ⟨?_, ?_, Nat.mod_lt _ (by decide)⟩
  · simp only [Clock.real, Bool.and_eq_true, decide_eq_true_eq]
    simp only [Clock.ofMicros]
    omega
  · simp only [Clock.ofMicros, Clock.micros]
    omega

theorem of_date_clock (m : Moment) : Moment.of m.date m.clock = m := by
  obtain ⟨_, days, _⟩ := ofDays_exact (m.micros / microsPerDay)
  obtain ⟨_, micros, _⟩ := ofMicros_exact (Nat.mod_lt m.micros (by decide : 0 < microsPerDay))
  rw [Moment.of, Moment.date, Moment.clock, days, micros, Nat.mul_comm, Nat.div_add_mod]

section Digits
variable {k n : Nat}

theorem padded_digits : ∀ c ∈ (padded k n).toList, isDigit c = true := by
  intro c member
  simp only [padded, String.toList_ofList, List.mem_append, List.mem_replicate] at member
  rcases member with ⟨_, rfl⟩ | member
  · rfl
  · have digit := Nat.isDigit_of_mem_toDigits (by decide) (by decide) member
    simpa [isDigit, Char.isDigit, Char.le_def] using digit

theorem value_padded : digitsValue (padded k n).toList = n := by
  have zeros (count : Nat) : (List.replicate count '0').foldl (fun n c => 10 * n + digitValue c) 0 = 0 := by
    induction count with
    | zero => rfl
    | succ count ih => exact ih
  simp only [padded, String.toList_ofList, digitsValue, List.foldl_append, zeros]
  exact Nat.ofDigitChars_ten_toDigits

variable (fits : n < 10 ^ k) (wide : 0 < k)
include fits wide

theorem length_padded : (padded k n).toList.length = k := by
  have short := (Nat.length_toDigits_le_iff (by decide) wide).mpr fits
  simp only [padded, String.toList_ofList, List.length_append, List.length_replicate]
  omega

theorem fixed_padded (rest : List Char) : fixed k ((padded k n).toList ++ rest) = some (n, rest) := by
  have long := length_padded fits wide
  have first : ((padded k n).toList ++ rest).take k = (padded k n).toList := List.take_left' long
  have last : ((padded k n).toList ++ rest).drop k = rest := List.drop_left' long
  simp only [fixed, first, last, long, value_padded, List.all_eq_true.mpr padded_digits, and_self, if_true]

end Digits

theorem readDate_written {d : Date} (real : d.real = true) (year : d.year ≤ 9999) (month : d.month ≤ 12)
    (day : d.day ≤ 31) (rest : List Char) : readDate ((padded 4 d.year).toList ++ '-' ::
      ((padded 2 d.month).toList ++ '-' :: ((padded 2 d.day).toList ++ rest))) = some (d, rest) := by
  have years := fixed_padded (show d.year < 10 ^ 4 by omega) (by decide)
  have months := fixed_padded (show d.month < 10 ^ 2 by omega) (by decide)
  have days := fixed_padded (show d.day < 10 ^ 2 by omega) (by decide)
  simp [readDate, years, months, days, expect, real]

-- What may stand behind a time of day: no digit, and no mark of a fraction.
def Closed (rest : List Char) : Prop := ∀ c, rest.head? = some c → isDigit c = false ∧ c ≠ '.' ∧ c ≠ ','

theorem closed_cons {c : Char} (plain : isDigit c = false ∧ c ≠ '.' ∧ c ≠ ',') (rest : List Char) :
    Closed (c :: rest) := by
  intro first same
  cases same
  exact plain

def fractionText (micro : Nat) : String := if micro = 0 then "" else "." ++ padded 6 micro

theorem readFraction_written {micro : Nat} (small : micro < 1000000) {rest : List Char} (closed : Closed rest) :
    readFraction ((fractionText micro).toList ++ rest) = some (micro, rest) := by
  unfold fractionText
  split
  · rename_i zero
    subst zero
    cases rest with
    | nil => rfl
    | cons c rest =>
      obtain ⟨_, point, comma⟩ := closed c rfl
      simp [readFraction, point, comma]
  · have stops : rest.takeWhile isDigit = [] ∧ rest.dropWhile isDigit = rest := by
      cases rest with
      | nil => exact ⟨rfl, rfl⟩
      | cons c rest => simp [(closed c rfl).1]
    have span : ((padded 6 micro).toList ++ rest).span isDigit = ((padded 6 micro).toList, rest) := by
      rw [List.span_eq_takeWhile_dropWhile, List.takeWhile_append_of_pos padded_digits,
        List.dropWhile_append_of_pos padded_digits, stops.1, stops.2, List.append_nil]
    have long : (padded 6 micro).toList.length = 6 := length_padded small (by decide)
    have filled : ((padded 6 micro).toList ++ List.replicate 6 '0').take 6 = (padded 6 micro).toList :=
      List.take_left' long
    have value : digitsValue (padded 6 micro).toList = micro := value_padded
    have front : ("." ++ padded 6 micro).toList ++ rest = '.' :: ((padded 6 micro).toList ++ rest) := by
      rw [String.toList_append]
      rfl
    rw [front, readFraction, if_pos (by decide), span]
    generalize (padded 6 micro).toList = ds at long filled value
    cases ds with
    | nil => cases long
    | cons d ds => simp only [filled, value]

theorem readClock_written {c : Clock} (real : c.real = true) (small : c.micro < 1000000) {rest : List Char}
    (closed : Closed rest) : readClock ((padded 2 c.hour).toList ++ ':' :: ((padded 2 c.minute).toList ++
      ':' :: ((padded 2 c.second).toList ++ ((fractionText c.micro).toList ++ rest)))) = some (c, rest) := by
  have within := real
  simp only [Clock.real, Bool.and_eq_true, decide_eq_true_eq] at within
  have hours := fixed_padded (show c.hour < 10 ^ 2 by omega) (by decide)
  have minutes := fixed_padded (show c.minute < 10 ^ 2 by omega) (by decide)
  have seconds := fixed_padded (show c.second < 10 ^ 2 by omega) (by decide)
  simp [readClock, hours, minutes, seconds, expect, readFraction_written small closed, real]

theorem readZone_written {hours minutes : Nat} (hour : hours < 24) (minute : minutes < 60) :
    readZone ('+' :: ((padded 2 hours).toList ++ ':' :: (padded 2 minutes).toList)) =
      some (some (60 * hours + minutes : Int)) ∧
    readZone ('-' :: ((padded 2 hours).toList ++ ':' :: (padded 2 minutes).toList)) =
      some (some (-(60 * hours + minutes : Int))) := by
  have first := fixed_padded (show hours < 10 ^ 2 by omega) (by decide)
  have last := fixed_padded (show minutes < 10 ^ 2 by omega) (by decide) []
  rw [List.append_nil] at last
  constructor
  · simp [readZone, first, last, hour, minute]
  · simp [readZone, first, last, hour, minute]

def zoneText : Option Int → String
  | none => ""
  | some 0 => "Z"
  | some n => (if n < 0 then "-" else "+") ++ padded 2 (n.natAbs / 60) ++ ":" ++ padded 2 (n.natAbs % 60)

theorem zoneText_away {n : Int} (away : n ≠ 0) : (zoneText (some n)).toList =
    (if n < 0 then '-' else '+') :: ((padded 2 (n.natAbs / 60)).toList ++ ':' :: (padded 2 (n.natAbs % 60)).toList) := by
  have spelled : zoneText (some n) =
      (if n < 0 then "-" else "+") ++ padded 2 (n.natAbs / 60) ++ ":" ++ padded 2 (n.natAbs % 60) := by
    unfold zoneText
    split
    · contradiction
    · rename_i zero
      exact absurd (Option.some.inj zero) away
    · rename_i same
      rw [Option.some.inj same]
  rw [spelled]
  split
  · simp [String.toList_append]
  · simp [String.toList_append]

theorem zoneText_read {offset : Option Int} (within : ∀ n, offset = some n → n.natAbs < 1440) :
    Closed (zoneText offset).toList ∧ readZone (zoneText offset).toList = some offset := by
  cases offset with
  | none => exact ⟨nofun, rfl⟩
  | some n =>
    by_cases away : n = 0
    · subst away
      exact ⟨closed_cons (by decide) [], rfl⟩
    · have bound := within n rfl
      have hours : n.natAbs / 60 < 24 := by omega
      have minutes : n.natAbs % 60 < 60 := by omega
      obtain ⟨ahead, behind⟩ := readZone_written hours minutes
      rw [zoneText_away away]
      split
      · have whole : -(60 * (n.natAbs / 60 : Nat) + (n.natAbs % 60 : Nat) : Int) = n := by omega
        rw [whole] at behind
        exact ⟨closed_cons (by decide) _, behind⟩
      · have whole : (60 * (n.natAbs / 60 : Nat) + (n.natAbs % 60 : Nat) : Int) = n := by omega
        rw [whole] at ahead
        exact ⟨closed_cons (by decide) _, ahead⟩

theorem text_parts (t : Dated) : t.text.toList = (padded 4 t.wall.date.year).toList ++ '-' ::
    ((padded 2 t.wall.date.month).toList ++ '-' :: ((padded 2 t.wall.date.day).toList ++ 'T' ::
      ((padded 2 t.wall.clock.hour).toList ++ ':' :: ((padded 2 t.wall.clock.minute).toList ++
        ':' :: ((padded 2 t.wall.clock.second).toList ++
          ((fractionText t.wall.clock.micro).toList ++ (zoneText t.offset).toList)))))) := by
  have parts : t.text = t.wall.text ++ zoneText t.offset := rfl
  have fraction : (if t.wall.clock.micro = 0 then "" else "." ++ padded 6 t.wall.clock.micro) =
      fractionText t.wall.clock.micro := rfl
  rw [parts, Moment.text]
  simp only [fraction, String.toList_append, List.append_assoc, show "-".toList = ['-'] from rfl,
    show ":".toList = [':'] from rfl, show "T".toList = ['T'] from rfl, List.cons_append, List.nil_append]

theorem read_text {t : Dated} (shown : t.Shown) : read t.text = .ok t := by
  have day : t.wall.micros / microsPerDay < 3652059 := Nat.div_lt_of_lt_mul (Nat.mul_comm _ _ ▸ shown.wall)
  obtain ⟨real, _, month, days⟩ := ofDays_exact (t.wall.micros / microsPerDay)
  obtain ⟨positive, year⟩ := ofDays_year day
  obtain ⟨clock, _, small⟩ := ofMicros_exact (Nat.mod_lt t.wall.micros (by decide : 0 < microsPerDay))
  obtain ⟨closed, zone⟩ := zoneText_read shown.zone
  have dated : readDated t.text.toList = some (t.wall.date, t.wall.clock, t.offset) := by
    have date := readDate_written (d := t.wall.date) real year month days
    have time := readClock_written (c := t.wall.clock) clock small closed
    rw [text_parts, readDated, date]
    simp [isSeparator, time, zone]
  have counted : t.wall.date.year ≠ 0 := Nat.ne_of_gt positive
  rw [read, dated]
  simp [counted, of_date_clock]

end Calendar
end Cohort
