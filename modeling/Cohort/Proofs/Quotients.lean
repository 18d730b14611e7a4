import Mathlib.Algebra.Group.Nat.Defs
import Cohort.Decimal.Quotient

-- A quotient of whole numbers is rounded once, so it is in order with zero and one as the numbers are.
namespace Cohort.Decimal
open Float.Model

theorem bias_exact : (Format.binary64.exponentBias : Int) + (Format.binary64.mantissaBitsWithoutImplicit : Int) = 1075 :=
  rfl

section Patterns
variable (b : BitVec Format.binary64.numBits)

theorem exponent_toNat : (UnpackedFloat.unpackExponent b).toNat = b.toNat / 2 ^ 52 % 2 ^ 11 := by
  show b.toNat >>> 52 % 2 ^ 11 = _
  rw [Nat.shiftRight_eq_div_pow]

theorem mantissa_toNat : (UnpackedFloat.unpackMantissa b).toNat = b.toNat % 2 ^ 52 := by
  show b.toNat >>> 0 % 2 ^ 52 = _
  rw [Nat.shiftRight_zero]

theorem sign_positive {b : BitVec Format.binary64.numBits} (small : b.toNat < 2 ^ 63) :
    UnpackedFloat.Sign.ofBitVec (UnpackedFloat.unpackSign b) = .positive := by
  have clear : UnpackedFloat.unpackSign b = 0#1 := by
    apply BitVec.eq_of_toNat_eq
    show b.toNat >>> 63 % 2 ^ 1 = 0
    rw [Nat.shiftRight_eq_div_pow]
    omega
  rw [clear]
  rfl

-- What a pattern without a sign stands for.
inductive Reads (n : Nat) : UnpackedFloat → Prop where
  | zero (none : n = 0) : Reads n (.zero .positive)
  | small {m : Nat} {e : Int} (some : 0 < m) (mantissa : m = n) (exponent : e = -1074) (bound : n < 2 ^ 52) :
      Reads n (.finite .positive m e some)
  | usual {m : Nat} {e : Int} (some : 0 < m) (mantissa : m = 2 ^ 52 + n % 2 ^ 52)
      (exponent : e = (n / 2 ^ 52 : Nat) - 1075) (filled : 2 ^ 52 ≤ n) (bound : n < 2047 * 2 ^ 52) :
      Reads n (.finite .positive m e some)
  | infinite (full : n = 2047 * 2 ^ 52) : Reads n (.infinity .positive)

theorem unpack_reads {b : BitVec Format.binary64.numBits} (bound : b.toNat ≤ 2047 * 2 ^ 52) :
    Reads b.toNat (UnpackedFloat.unpack Format.binary64 b) := by
  have exponent := exponent_toNat b
  have mantissa := mantissa_toNat b
  have full : UnpackedFloat.unpackExponent b = -1#_ ↔ b.toNat / 2 ^ 52 = 2047 := by
    rw [← BitVec.toNat_inj, exponent]
    show _ = 2047 ↔ _
    omega
  have least : UnpackedFloat.unpackExponent b = 0#_ ↔ b.toNat / 2 ^ 52 = 0 := by
    rw [← BitVec.toNat_inj, exponent]
    show _ = 0 ↔ _
    omega
  have bare : UnpackedFloat.unpackMantissa b = 0#_ ↔ b.toNat % 2 ^ 52 = 0 := by
    rw [← BitVec.toNat_inj, mantissa]
    rfl
  have sign := sign_positive (show b.toNat < 2 ^ 63 by omega)
  unfold UnpackedFloat.unpack
  dsimp only
  rw [sign, bias_exact]
  by_cases top : b.toNat / 2 ^ 52 = 2047
  · rw [if_pos (full.mpr top), if_pos (bare.mpr (by omega))]
    exact .infinite (by omega)
  · rw [if_neg (mt full.mp top)]
    by_cases bottom : b.toNat / 2 ^ 52 = 0
    · rw [if_pos (least.mpr bottom)]
      by_cases none : b.toNat % 2 ^ 52 = 0
      · rw [dif_pos (bare.mpr none)]
        exact .zero (by omega)
      · rw [dif_neg (mt bare.mp none)]
        exact .small _ (by omega) (by omega) (by omega)
    · rw [if_neg (mt least.mp bottom)]
      refine .usual _ ?_ (by omega) (by omega) (by omega)
      rw [BitVec.toNat_append, ← Nat.shiftLeft_add_eq_or_of_lt (BitVec.isLt _), mantissa]
      rfl

end Patterns

theorem packComponents_toNat (exponent : BitVec 11) (mantissa : BitVec 52) :
    (UnpackedFloat.packComponents Format.binary64 .positive exponent mantissa).toNat =
      exponent.toNat * 2 ^ 52 + mantissa.toNat := by
  have high : (UnpackedFloat.Sign.positive.toBitVec ++ exponent).toNat = exponent.toNat := by
    rw [BitVec.toNat_append, ← Nat.shiftLeft_add_eq_or_of_lt exponent.isLt]
    show 0 <<< 11 + exponent.toNat = _
    rw [Nat.zero_shiftLeft, Nat.zero_add]
  unfold UnpackedFloat.packComponents
  rw [BitVec.toNat_append, ← Nat.shiftLeft_add_eq_or_of_lt mantissa.isLt, high, Nat.shiftLeft_eq]

-- What a pattern stands for is packed into that pattern again.
theorem Reads.packed {n : Nat} {x : UnpackedFloat} (reads : Reads n x) : (x.pack Format.binary64).toNat = n := by
  have bits : Format.binary64.mantissaBits = 53 := rfl
  unfold UnpackedFloat.pack
  cases reads with
  | zero none => exact (packComponents_toNat 0 0).trans none.symm
  | infinite full => exact (packComponents_toNat (-1#11) 0).trans full.symm
  | @small m e some mantissa exponent bound =>
    subst mantissa exponent
    have low : m.log2 < 52 := (Nat.log2_lt (Nat.ne_of_gt some)).mpr bound
    dsimp only
    rw [Int.add_assoc, bias_exact, bits, if_neg (by decide), if_neg (by omega), packComponents_toNat]
    show 0 * 2 ^ 52 + m % 2 ^ 52 = m
    omega
  | @usual m e some mantissa exponent filled bound =>
    have high : m.log2 = 52 := (Nat.log2_eq_iff (Nat.ne_of_gt some)).mpr (by omega)
    have biased : (e + 1075).toNat = n / 2 ^ 52 := by omega
    dsimp only
    rw [Int.add_assoc, bias_exact, bits, biased, high, if_neg, if_pos rfl, packComponents_toNat]
    · show n / 2 ^ 52 % 2 ^ 11 * 2 ^ 52 + m % 2 ^ 52 = n
      omega
    · show ¬ 2 ^ 11 ≤ n / 2 ^ 52 + 1
      omega

theorem ofBits_reads {n : Nat} (bound : n ≤ 2047 * 2 ^ 52) : Reads n (Float.ofBits (UInt64.ofNat n)).toModel.unpack := by
  have same : (UInt64.ofNat n).toBitVec.toNat = n := by
    show n % 2 ^ 64 = n
    omega
  have reads := unpack_reads (b := (UInt64.ofNat n).toBitVec) (by omega)
  have kept : (Float.ofBits (UInt64.ofNat n)).toModel.unpack =
      UnpackedFloat.unpack Format.binary64 (UInt64.ofNat n).toBitVec :=
    congrArg (UnpackedFloat.unpack Format.binary64) (BitVec.eq_of_toNat_eq reads.packed)
  rw [kept]
  rwa [same] at reads

theorem then_compare {e f : Int} {a b m n : Nat} (less : m < n → e < f ∨ e = f ∧ a < b)
    (same : m = n → e = f ∧ a = b) (more : n < m → f < e ∨ f = e ∧ b < a) :
    (compare e f).then (compare a b) = compare m n := by
  rcases Nat.lt_trichotomy m n with h | h | h
  · rw [Nat.compare_eq_lt.mpr h]
    rcases less h with first | ⟨rfl, second⟩
    · simp [Int.compare_eq_lt.mpr first]
    · simp [Nat.compare_eq_lt.mpr second]
  · obtain ⟨rfl, rfl⟩ := same h
    simp [h]
  · rw [Nat.compare_eq_gt.mpr h]
    rcases more h with first | ⟨rfl, second⟩
    · simp [Int.compare_eq_gt.mpr first]
    · simp [Nat.compare_eq_gt.mpr second]

theorem Reads.compare {m n : Nat} {x y : UnpackedFloat} (first : Reads m x) (second : Reads n y) :
    x.compare y = some (Ord.compare m n) := by
  have less (h : m < n) : Ord.compare m n = .lt := Nat.compare_eq_lt.mpr h
  have more (h : n < m) : Ord.compare m n = .gt := Nat.compare_eq_gt.mpr h
  have same (h : m = n) : Ord.compare m n = .eq := Nat.compare_eq_eq.mpr h
  cases first with
  | zero none =>
    cases second with
    | zero none' => rw [same (by omega)]; rfl
    | small | usual | infinite => rw [less (by omega)]; rfl
  | infinite full =>
    cases second with
    | infinite full' => rw [same (by omega)]; rfl
    | small | usual | zero => rw [more (by omega)]; rfl
  | small | usual =>
    cases second with
    | zero none => rw [more (by omega)]; rfl
    | infinite full => rw [less (by omega)]; rfl
    | small | usual => exact congrArg some (then_compare (by omega) (by omega) (by omega))

theorem ofBits_le {m n : Nat} (less : m ≤ n) (bound : n ≤ 2047 * 2 ^ 52) :
    Float.ofBits (UInt64.ofNat m) ≤ Float.ofBits (UInt64.ofNat n) := by
  have order := (ofBits_reads (Nat.le_trans less bound)).compare (ofBits_reads bound)
  show Float.le _ _ = true
  refine decide_eq_true ?_
  show UnpackedFloat.le _ _ = true
  rw [UnpackedFloat.le, order]
  simpa [Nat.isLE_compare] using less

theorem ofBits_lt {m n : Nat} (less : m < n) (bound : n ≤ 2047 * 2 ^ 52) :
    Float.ofBits (UInt64.ofNat m) < Float.ofBits (UInt64.ofNat n) := by
  have order := (ofBits_reads (Nat.le_trans (Nat.le_of_lt less) bound)).compare (ofBits_reads bound)
  show Float.lt _ _ = true
  refine decide_eq_true ?_
  show UnpackedFloat.lt _ _ = true
  rw [UnpackedFloat.lt, order, Nat.compare_eq_lt.mpr less]
  rfl

theorem le_halvedEven (n count : Nat) : n / 2 ^ count ≤ halvedEven n count := by
  simp only [halvedEven, Nat.pow_eq]
  split <;> omega

theorem halvedEven_le {n count k : Nat} (bound : n ≤ k * 2 ^ count) : halvedEven n count ≤ k := by
  have unit : 0 < 2 ^ count := Nat.two_pow_pos count
  have parts := Nat.div_add_mod n (2 ^ count)
  have least : n / 2 ^ count ≤ k := Nat.div_le_of_le_mul (by rwa [Nat.mul_comm])
  simp only [halvedEven, Nat.pow_eq]
  split
  · exact least
  all_goals
    rename_i order
    have left : n % 2 ^ count ≠ 0 := by
      intro none
      rw [none, Nat.mul_zero, Nat.compare_eq_lt.mpr unit] at order
      cases order
    have below : n / 2 ^ count < k := by
      refine Nat.div_lt_of_lt_mul (Nat.lt_of_le_of_ne (by rwa [Nat.mul_comm]) ?_)
      rintro rfl
      exact left (Nat.mul_mod_right _ _)
    omega

theorem zero_pattern : (0.0 : Float) = Float.ofBits (UInt64.ofNat 0) := by rfl

theorem one_pattern : (1.0 : Float) = Float.ofBits (UInt64.ofNat (1023 * 2 ^ 52)) := by rfl

namespace Wide
variable {x : Wide}

theorem steps_le (x : Wide) : x.steps ≤ 2 ^ 53 := by
  have digits : x.bits < 2 ^ (x.bits.log2 + 1) := Nat.lt_log2_self
  have enough : x.bits.log2 + x.scale - 52 ≤ x.grid := Int.le_max_left _ _
  unfold steps
  split
  · apply halvedEven_le
    rw [← Nat.pow_add]
    exact Nat.le_trans (Nat.le_of_lt digits) (Nat.pow_le_pow_right (by decide) (by omega))
  · have product : x.bits * 2 ^ (x.scale - x.grid).toNat ≤ 2 ^ (x.bits.log2 + 1 + (x.scale - x.grid).toNat) := by
      rw [Nat.pow_add]
      exact Nat.mul_le_mul_right _ (Nat.le_of_lt digits)
    exact Nat.le_trans product (Nat.pow_le_pow_right (by decide) (by omega))

-- A number below one has its first digit behind the point.
theorem pattern_le_one (below : x.bits.log2 + x.scale < 0) : x.pattern ≤ 1023 * 2 ^ 52 := by
  have steps := x.steps_le
  have grid : x.grid ≤ -53 := by
    unfold Wide.grid
    omega
  simp only [pattern, Nat.pow_eq]
  have places : (x.grid + 1074).toNat ≤ 1021 := by omega
  omega

theorem pattern_positive (filled : 2 ^ (-1074 - x.scale).toNat ≤ x.bits) : 0 < x.pattern := by
  have least : -1074 ≤ x.grid := Int.le_max_right _ _
  have some : 0 < x.bits := Nat.lt_of_lt_of_le (Nat.two_pow_pos _) filled
  simp only [pattern, Nat.pow_eq]
  by_cases lowest : x.grid = -1074
  · suffices 0 < x.steps by omega
    unfold steps
    rw [lowest]
    split
    · exact Nat.lt_of_lt_of_le (Nat.div_pos filled (Nat.two_pow_pos _)) (le_halvedEven _ _)
    · exact Nat.mul_pos some (Nat.two_pow_pos _)
  · have places : 1 ≤ (x.grid + 1074).toNat := by omega
    omega

theorem toFloat_nonneg (x : Wide) : 0.0 ≤ x.toFloat := by
  rw [zero_pattern]
  exact ofBits_le (Nat.zero_le _) (Nat.min_le_right _ _)

theorem toFloat_positive (filled : 0 < x.pattern) : 0.0 < x.toFloat := by
  rw [zero_pattern]
  exact ofBits_lt (Nat.lt_min.mpr ⟨filled, by decide⟩) (Nat.min_le_right _ _)

theorem toFloat_le_one (bound : x.pattern ≤ 1023 * 2 ^ 52) : x.toFloat ≤ 1.0 := by
  rw [one_pattern]
  exact ofBits_le (Nat.le_trans (Nat.min_le_left _ _) bound) (by decide)

end Wide

section Quotient
variable {a b : Nat}

theorem quotientBits_lt (less : a < b) (room : Nat) : quotientBits a b room < 2 ^ (room + 1) := by
  have kept : a * 2 ^ room / b < 2 ^ room :=
    Nat.div_lt_of_lt_mul (Nat.mul_lt_mul_of_pos_right less (Nat.two_pow_pos room))
  simp only [quotientBits, Nat.pow_eq, Nat.pow_succ]
  split <;> omega

theorem quotientBits_self (filled : 0 < a) (room : Nat) : quotientBits a a room = 2 ^ (room + 1) := by
  simp only [quotientBits, Nat.pow_eq, Nat.mul_div_cancel_left _ filled, Nat.mul_mod_right, if_true, Nat.pow_succ]
  omega

theorem quotientBits_positive (some : 0 < a) (room : Nat) : 0 < quotientBits a b room := by
  have filled : 0 < a * 2 ^ room := Nat.mul_pos some (Nat.two_pow_pos room)
  have parts := Nat.div_add_mod (a * 2 ^ room) b
  simp only [quotientBits, Nat.pow_eq]
  split
  · rename_i even
    rw [even, Nat.add_zero] at parts
    have least : 0 < a * 2 ^ room / b := Nat.pos_of_mul_pos_left (parts ▸ filled)
    omega
  · omega

theorem quotientBits_bound (some : 0 < a) (filled : 0 < b) {k m : Nat} (next : m = k + 1) (bound : b ≤ 2 ^ m)
    (room : Nat) : 2 ^ (room - k) ≤ quotientBits a b room := by
  rcases Nat.lt_or_ge k room with more | few
  · have least : 2 ^ (room - k - 1) ≤ a * 2 ^ room / b := by
      refine (Nat.le_div_iff_mul_le filled).mpr ?_
      calc 2 ^ (room - k - 1) * b ≤ 2 ^ (room - k - 1) * 2 ^ m := Nat.mul_le_mul_left _ bound
        _ = 2 ^ room := by rw [← Nat.pow_add]; congr 1; omega
        _ ≤ a * 2 ^ room := Nat.le_mul_of_pos_left _ some
    have double : 2 ^ (room - k) = 2 * 2 ^ (room - k - 1) := by
      rw [Nat.mul_comm, ← Nat.pow_succ]
      congr 1
      omega
    rw [double]
    exact Nat.le_trans (Nat.mul_le_mul_left 2 least) (Nat.le_add_right _ _)
  · rw [Nat.sub_eq_zero_of_le few]
    exact quotientBits_positive some room

theorem quotient_zero (b : Nat) : quotient 0 b = 0.0 := if_pos rfl

theorem quotient_nonneg (a b : Nat) : 0.0 ≤ quotient a b := by
  unfold quotient
  split
  · rw [zero_pattern]
    exact ofBits_le (Nat.le_refl 0) (by decide)
  · exact Wide.toFloat_nonneg _

theorem quotient_le_one (bound : a ≤ b) : quotient a b ≤ 1.0 := by
  unfold quotient
  split
  · rw [zero_pattern, one_pattern]
    exact ofBits_le (Nat.zero_le _) (by decide)
  · rename_i some
    have filled : 0 < a := Nat.pos_of_ne_zero some
    apply Wide.toFloat_le_one
    rcases Nat.lt_or_eq_of_le bound with less | rfl
    · apply Wide.pattern_le_one
      have few := (Nat.log2_lt (Nat.ne_of_gt (quotientBits_positive filled _))).mpr
        (quotientBits_lt less (55 + b.log2 - a.log2))
      simp only
      omega
    · rw [Nat.add_sub_cancel, quotientBits_self filled]
      decide

-- The least double above zero is `2^-1074`.
theorem quotient_positive (some : 0 < a) (filled : 0 < b) (bound : b ≤ 2 ^ 1074) : 0.0 < quotient a b := by
  unfold quotient
  rw [if_neg (Nat.ne_of_gt some)]
  apply Wide.toFloat_positive
  apply Wide.pattern_positive
  have places (room : Nat) : (-1074 - (-(room : Int) - 1)).toNat = room - 1073 := by omega
  simp only [places]
  exact quotientBits_bound (m := 1074) some filled rfl bound _

end Quotient
end Cohort.Decimal
