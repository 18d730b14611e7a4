import Mathlib.Data.List.Basic
import Cohort.Text.Percent

-- What is escaped is read back. The reader works on the bytes of a text, and the bytes of an escaped text are the
-- escapes of the bytes.
namespace Cohort.Text.Percent

def bytesOf (s : List Char) : List UInt8 := s.flatMap String.utf8EncodeChar

theorem bytesOf_exact (s : String) : s.toUTF8.data.toList = bytesOf s.toList := by
  have encoded : s.toUTF8 = s.toList.utf8Encode := String.utf8Encode_toList.symm
  rw [encoded]
  simp [List.utf8Encode, bytesOf]

theorem bytesOf_append (s t : List Char) : bytesOf (s ++ t) = bytesOf s ++ bytesOf t := List.flatMap_append

theorem textOfBytes_bytesOf (s : List Char) : textOfBytes ⟨(bytesOf s).toArray⟩ = String.ofList s := by
  have encoded : (⟨(bytesOf s).toArray⟩ : ByteArray) = s.utf8Encode :=
    ByteArray.ext (by simp [List.utf8Encode, bytesOf])
  rw [encoded, textOfBytes, String.fromUTF8?, dif_pos ByteArray.isValidUTF8_utf8Encode]
  rfl

theorem high_bytes {c : Char} (high : ¬ c.val.toNat ≤ 127) : ∀ b ∈ String.utf8EncodeChar c, 128 ≤ b.toNat := by
  unfold String.utf8EncodeChar
  simp only [if_neg high]
  intro b member
  split at member
  · simp only [List.mem_cons, List.not_mem_nil, or_false] at member
    obtain rfl | rfl := member <;> simp only [UInt8.toNat_ofNat'] <;> omega
  · split at member
    · simp only [List.mem_cons, List.not_mem_nil, or_false] at member
      obtain rfl | rfl | rfl := member <;> simp only [UInt8.toNat_ofNat'] <;> omega
    · simp only [List.mem_cons, List.not_mem_nil, or_false] at member
      obtain rfl | rfl | rfl | rfl := member <;> simp only [UInt8.toNat_ofNat'] <;> omega

-- The byte of a percent sign is found in no other character: those of several bytes are all from the upper half.
theorem plain_bytes {c : Char} (plain : c ≠ '%') : (37 : UInt8) ∉ String.utf8EncodeChar c := by
  intro member
  by_cases low : c.val.toNat ≤ 127
  · have single : String.utf8EncodeChar c = [UInt8.ofNat c.val.toNat] := if_pos low
    rw [single, List.mem_singleton] at member
    have value : 37 = c.val.toNat % 256 := congrArg UInt8.toNat member
    have code : c.toNat = 37 := by
      show c.val.toNat = 37
      omega
    exact plain (Char.toNat_inj.mp code)
  · exact absurd (high_bytes low 37 member) (by decide)

theorem unescape_plain {b : UInt8} (plain : b ≠ 37) (rest : List UInt8) : unescape (b :: rest) = b :: unescape rest := by
  match rest with
  | [] => rfl
  | [_] => rfl
  | _ :: _ :: _ => simp [unescape, plain]

theorem unescape_literal {bytes : List UInt8} (plain : 37 ∉ bytes) (rest : List UInt8) :
    unescape (bytes ++ rest) = bytes ++ unescape rest := by
  induction bytes with
  | nil => rfl
  | cons b others ih =>
    rw [List.mem_cons, not_or] at plain
    rw [List.cons_append, unescape_plain (Ne.symm plain.1), ih plain.2, List.cons_append]

def digit (n : Nat) : Char := (Nat.digitChar n).toUpper

theorem digit_exact : ∀ n < 16, isHex (digit n) = true ∧ hexValue (digit n) = n ∧
    String.utf8EncodeChar (digit n) = [UInt8.ofNat (digit n).toNat] ∧
    Char.ofNat (UInt8.ofNat (digit n).toNat).toNat = digit n := by decide

theorem escapeByte_exact (b : UInt8) : escapeByte b = ['%', digit (b.toNat / 16), digit (b.toNat % 16)] := by
  have each : ∀ n < 256, escapeByte (UInt8.ofNat n) = ['%', digit (n / 16), digit (n % 16)] := by decide +kernel
  have spelled := each b.toNat b.toNat_lt
  rwa [UInt8.ofNat_toNat] at spelled

theorem unescape_hex {high low : UInt8} (first : isHex (Char.ofNat high.toNat) = true)
    (second : isHex (Char.ofNat low.toNat) = true) (rest : List UInt8) :
    unescape (37 :: high :: low :: rest) =
      UInt8.ofNat (16 * hexValue (Char.ofNat high.toNat) + hexValue (Char.ofNat low.toNat)) :: unescape rest := by
  rw [unescape, if_pos (by simp only [first, second]; rfl)]

theorem unescape_escaped (b : UInt8) (rest : List UInt8) :
    unescape (bytesOf (escapeByte b) ++ rest) = b :: unescape rest := by
  have bound := b.toNat_lt
  obtain ⟨hex, value, spelled, kept⟩ := digit_exact (b.toNat / 16) (by omega)
  obtain ⟨hex', value', spelled', kept'⟩ := digit_exact (b.toNat % 16) (by omega)
  have bytes : bytesOf (escapeByte b) =
      [37, UInt8.ofNat (digit (b.toNat / 16)).toNat, UInt8.ofNat (digit (b.toNat % 16)).toNat] := by
    rw [escapeByte_exact, bytesOf, List.flatMap_cons, List.flatMap_cons, List.flatMap_cons, spelled, spelled']
    rfl
  rw [bytes]
  show unescape (37 :: _ :: _ :: rest) = _
  rw [unescape_hex (kept.symm ▸ hex) (kept'.symm ▸ hex'), kept, kept', value, value', Nat.div_add_mod,
    UInt8.ofNat_toNat]

theorem unescape_encoded (bytes rest : List UInt8) :
    unescape (bytesOf (bytes.flatMap escapeByte) ++ rest) = bytes ++ unescape rest := by
  induction bytes with
  | nil => rfl
  | cons b others ih =>
    rw [List.flatMap_cons, bytesOf_append, List.append_assoc, unescape_escaped, ih, List.cons_append]

theorem decode_bytes (s : String) :
    decode s = textOfBytes ⟨(unescape (bytesOf s.toList)).toArray⟩ := by
  rw [decode, bytesOf_exact]

theorem plain_text {s : List Char} (plain : '%' ∉ s) : (37 : UInt8) ∉ bytesOf s := by
  rw [bytesOf, List.mem_flatMap]
  intro ⟨c, member, found⟩
  exact plain_bytes (fun same => plain (same ▸ member)) found

-- In front of the escaped part there may stand text without a percent sign, which is read as it is.
theorem decode_encoded {front : List Char} (plain : '%' ∉ front) (s : String) :
    decode (String.ofList (front ++ (encode s).toList)) = String.ofList (front ++ s.toList) := by
  have escaped := unescape_encoded (bytesOf s.toList) []
  rw [List.append_nil, unescape, List.append_nil] at escaped
  rw [decode_bytes, String.toList_ofList, bytesOf_append, unescape_literal (plain_text plain), encode,
    String.toList_ofList, bytesOf_exact, escaped, ← bytesOf_append, textOfBytes_bytesOf]

theorem decode_plain {s : List Char} (plain : '%' ∉ s) : decode (String.ofList s) = String.ofList s := by
  have read := unescape_literal (plain_text plain) []
  rw [List.append_nil, unescape, List.append_nil] at read
  rw [decode_bytes, String.toList_ofList, read, textOfBytes_bytesOf]

-- What an escape is written with: none of the marks that cut an address.
theorem encode_letters {s : String} {c : Char} (member : c ∈ (encode s).toList) : c = '%' ∨ isHex c = true := by
  rw [encode, String.toList_ofList, List.mem_flatMap] at member
  obtain ⟨b, _, written⟩ := member
  have bound := b.toNat_lt
  rw [escapeByte_exact] at written
  simp only [List.mem_cons, List.not_mem_nil, or_false] at written
  obtain rfl | rfl | rfl := written
  · exact .inl rfl
  · exact .inr (digit_exact _ (by omega)).1
  · exact .inr (digit_exact _ (by omega)).1

end Cohort.Text.Percent
