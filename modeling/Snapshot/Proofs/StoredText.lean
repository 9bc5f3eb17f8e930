import Snapshot.SmallText

/-!
# Stored text

What the two ways of reading text make of the bytes of a text.  A text of any length is
read up to its first null character, and a small text that fits is read as it is.
-/

namespace Snapshot

namespace Utf8

/-- The part of a text before its first null character. -/
def beforeNull (text : String) : String :=
  String.ofList (text.toList.takeWhile (· != '\x00'))

theorem ofNat_ne_zero {number : Nat} (nonzero : number % 256 ≠ 0) : (0 : UInt8) ≠ UInt8.ofNat number := by
  intro zero
  have same := congrArg UInt8.toNat zero
  rw [UInt8.toNat_ofNat'] at same
  exact nonzero same.symm

/-- Only the null character has a zero byte in its encoding. -/
theorem zero_not_mem_encodeChar {char : Char} (other : char ≠ '\x00') :
    (0 : UInt8) ∉ String.utf8EncodeChar char := by
  fun_cases String.utf8EncodeChar char with
  | case1 number small =>
      have nonzero : number ≠ 0 := by
        intro zero
        apply other
        apply Char.ext
        exact UInt32.toNat_inj.mp zero
      rw [List.mem_singleton]
      exact ofNat_ne_zero (by omega)
  | case2 number =>
      simp only [List.mem_cons, List.not_mem_nil, or_false, not_or]
      exact ⟨ofNat_ne_zero (by omega), ofNat_ne_zero (by omega)⟩
  | case3 number =>
      simp only [List.mem_cons, List.not_mem_nil, or_false, not_or]
      exact ⟨ofNat_ne_zero (by omega), ofNat_ne_zero (by omega), ofNat_ne_zero (by omega)⟩
  | case4 number =>
      simp only [List.mem_cons, List.not_mem_nil, or_false, not_or]
      exact ⟨ofNat_ne_zero (by omega), ofNat_ne_zero (by omega), ofNat_ne_zero (by omega),
        ofNat_ne_zero (by omega)⟩

theorem encodeChar_null : String.utf8EncodeChar '\x00' = [0] := by
  rfl

/-- The bytes of a text before its first zero byte are the bytes of the part before its
first null character. -/
theorem beforeZero_encode (text : String) :
    Bytes.beforeZero (encode text) = encode (beforeNull text) := by
  rw [encode_eq_flatMap, encode_eq_flatMap, beforeNull, String.toList_ofList]
  induction text.toList with
  | nil => rfl
  | cons char chars ih =>
      rw [Bytes.beforeZero] at ih ⊢
      rw [List.flatMap_cons]
      by_cases null : char = '\x00'
      · rw [null, encodeChar_null, List.takeWhile_cons_of_neg (by simp)]
        rfl
      · have nonzero : ∀ byte ∈ String.utf8EncodeChar char, (byte != 0) = true := by
          intro byte member
          have other : byte ≠ 0 := fun zero => zero_not_mem_encodeChar null (zero ▸ member)
          simpa using other
        rw [List.takeWhile_append_of_pos nonzero, ih, List.takeWhile_cons_of_pos (by simpa using null),
          List.flatMap_cons]

theorem decodeLossy_beforeZero_encode (text : String) :
    decodeLossy (Bytes.beforeZero (encode text)) = beforeNull text := by
  rw [beforeZero_encode, decodeLossy_encode]

theorem wellFormedAfter_encodeChar_append (text : String) (char : Char) (rest : Bytes) :
    wellFormedAfter text (String.utf8EncodeChar char ++ rest) =
      wellFormedAfter (text.push char) rest := by
  have front := leading?_encodeChar_append char rest
  rw [wellFormedAfter]
  split
  · next found same =>
      rw [front] at same
      cases same
      rw [List.drop_append_of_le_length (by simp), List.drop_of_length_le (by simp)]
      rfl
  · next none =>
      rw [front] at none
      cases none

theorem wellFormedAfter_nil (text : String) : wellFormedAfter text [] = text := by
  rw [wellFormedAfter]
  split
  · next found same => cases same
  · rfl

theorem wellFormedAfter_encodeChars (text : String) (chars : List Char) :
    wellFormedAfter text (chars.flatMap String.utf8EncodeChar) = text ++ String.ofList chars := by
  induction chars generalizing text with
  | nil =>
      rw [List.flatMap_nil, wellFormedAfter_nil]
      simp
  | cons char chars ih =>
      rw [List.flatMap_cons, wellFormedAfter_encodeChar_append, ih]
      apply String.ext
      simp

/-- Well-formed bytes are their own longest well-formed prefix. -/
theorem wellFormedPrefix_encode (text : String) : wellFormedPrefix (encode text) = text := by
  rw [wellFormedPrefix, encode_eq_flatMap, wellFormedAfter_encodeChars]
  simp

theorem wellFormedAfter_encodeChars_append (text : String) (chars : List Char) (rest : Bytes) :
    wellFormedAfter text (chars.flatMap String.utf8EncodeChar ++ rest) =
      wellFormedAfter (text ++ String.ofList chars) rest := by
  induction chars generalizing text with
  | nil => simp
  | cons char chars ih =>
      rw [List.flatMap_cons, List.append_assoc, wellFormedAfter_encodeChar_append, ih]
      congr 1
      apply String.ext
      simp

theorem exists_rest_of_wellFormedAfter (text : String) (bytes : Bytes) :
    ∃ rest, encode text ++ bytes = encode (wellFormedAfter text bytes) ++ rest ∧
      leading? rest = none := by
  fun_induction wellFormedAfter text bytes with
  | case1 text bytes char found ih =>
      rw [encode_push, List.append_assoc, ← eq_of_leading? found] at ih
      exact ih
  | case2 text bytes found => exact ⟨bytes, rfl, found⟩

/-- The longest well-formed prefix ends where no further character starts. -/
theorem wellFormedPrefix_eq_iff {bytes : Bytes} {text : String} :
    wellFormedPrefix bytes = text ↔
      ∃ rest, bytes = encode text ++ rest ∧ leading? rest = none := by
  constructor
  · rintro rfl
    obtain ⟨rest, split, ended⟩ := exists_rest_of_wellFormedAfter "" bytes
    exact ⟨rest, by simpa [wellFormedPrefix] using split, ended⟩
  · rintro ⟨rest, rfl, ended⟩
    rw [wellFormedPrefix, encode_eq_flatMap, wellFormedAfter_encodeChars_append, wellFormedAfter]
    split
    · next char found =>
        rw [ended] at found
        cases found
    · simp

end Utf8

/-- A small text is read back as it was stored. -/
theorem SmallText.ofBytes_encode {capacity : Nat} (value : SmallText capacity) :
    SmallText.ofBytes capacity (Utf8.encode value.text) = value := by
  obtain ⟨text, fits⟩ := value
  have whole : (Utf8.encode text).take capacity = Utf8.encode text :=
    List.take_of_length_le (by rw [Utf8.length_encode]; exact fits)
  simp only [SmallText.ofBytes, whole, Utf8.wellFormedPrefix_encode]

end Snapshot
