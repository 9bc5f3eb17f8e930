import Snapshot.Bytes

/-!
# UTF-8

Text is stored as UTF-8.  Stored bytes need not be well formed, and there are two
ways to make text of them: `decodeLossy` puts one replacement character for each
maximal ill-formed part, and `wellFormedPrefix` stops before the first such part.
A byte string starts with at most one character, and that character's encoding is
then exactly the part of the byte string that it takes up.
-/

namespace Snapshot

namespace Utf8

/-- The stored bytes of a text. -/
def encode (text : String) : Bytes :=
  text.toByteArray.data.toList

theorem encode_eq_flatMap (text : String) :
    encode text = text.toList.flatMap String.utf8EncodeChar := by
  rw [encode, ← String.utf8Encode_toList, List.utf8Encode, List.data_toByteArray]

@[simp] theorem length_encode (text : String) :
    (encode text).length = text.utf8ByteSize := by
  rfl

@[simp] theorem encode_empty : encode "" = [] := by
  simp [encode_eq_flatMap]

@[simp] theorem encode_push (text : String) (char : Char) :
    encode (text.push char) = encode text ++ String.utf8EncodeChar char := by
  simp [encode_eq_flatMap]

theorem encode_inj {first second : String} :
    encode first = encode second ↔ first = second := by
  constructor
  · intro same
    apply String.toByteArray_inj.mp
    apply ByteArray.ext
    exact Array.toList_inj.mp same
  · rintro rfl
    rfl

/-- The character at the front of a byte string, when its encoding stands there. -/
def leading? (bytes : Bytes) : Option Char :=
  (bytes.take 4).toByteArray.utf8DecodeChar? 0

theorem leading?_encodeChar_append (char : Char) (rest : Bytes) :
    leading? (String.utf8EncodeChar char ++ rest) = some char := by
  have short : (String.utf8EncodeChar char).length ≤ 4 := by
    rw [String.length_utf8EncodeChar]
    exact char.utf8Size_le_four
  rw [leading?, List.take_append, List.take_of_length_le short, List.toByteArray_append]
  exact ByteArray.utf8DecodeChar?_utf8EncodeChar_append

theorem eq_of_leading? {bytes : Bytes} {char : Char} (found : leading? bytes = some char) :
    bytes = String.utf8EncodeChar char ++ bytes.drop char.utf8Size := by
  obtain ⟨tail, split⟩ := ByteArray.exists_of_utf8DecodeChar?_eq_some found
  have front : bytes.take 4 = String.utf8EncodeChar char ++ tail.data.toList := by
    have data := congrArg (fun array : ByteArray => array.data.toList) split
    simpa using data
  have whole : bytes = String.utf8EncodeChar char ++ (tail.data.toList ++ bytes.drop 4) := by
    rw [← List.append_assoc, ← front, List.take_append_drop]
  have size := String.length_utf8EncodeChar char
  conv => rhs; rw [whole]
  rw [List.drop_append_of_le_length (by omega), List.drop_of_length_le (by omega)]
  simpa using whole

theorem leading?_eq_some_iff {bytes : Bytes} {char : Char} :
    leading? bytes = some char ↔ ∃ rest, bytes = String.utf8EncodeChar char ++ rest := by
  constructor
  · intro found
    exact ⟨_, eq_of_leading? found⟩
  · rintro ⟨rest, rfl⟩
    exact leading?_encodeChar_append char rest

theorem utf8Size_le_of_leading? {bytes : Bytes} {char : Char}
    (found : leading? bytes = some char) : char.utf8Size ≤ bytes.length := by
  have whole := congrArg List.length (eq_of_leading? found)
  rw [List.length_append, String.length_utf8EncodeChar] at whole
  omega

/-- What may follow a lead byte: the length of the sequence and the range of its
second byte.  Every later byte lies in `0x80` to `0xBF`. -/
structure Continuation where
  length : Nat
  low : UInt8
  high : UInt8
  deriving DecidableEq, Repr

/-- The sequences of two to four bytes that a lead byte can open.  The second byte
is narrowed where a shorter form exists, a surrogate would be encoded, or the code
point would be too large. -/
def continuation? (lead : UInt8) : Option Continuation :=
  if lead < 0xC2 then
    none
  else if lead < 0xE0 then
    some ⟨2, 0x80, 0xBF⟩
  else if lead = 0xE0 then
    some ⟨3, 0xA0, 0xBF⟩
  else if lead = 0xED then
    some ⟨3, 0x80, 0x9F⟩
  else if lead < 0xF0 then
    some ⟨3, 0x80, 0xBF⟩
  else if lead = 0xF0 then
    some ⟨4, 0x90, 0xBF⟩
  else if lead < 0xF4 then
    some ⟨4, 0x80, 0xBF⟩
  else if lead = 0xF4 then
    some ⟨4, 0x80, 0x8F⟩
  else
    none

/-- A byte that can stand third or fourth in a sequence. -/
def isTrailing (byte : UInt8) : Bool :=
  0x80 ≤ byte && byte ≤ 0xBF

/-- The length of the ill-formed part at the front of a byte string that starts
with no character: the longest start of a possible sequence, and one byte where
there is none. -/
def illFormedLength : Bytes → Nat
  | [] => 0
  | [_] => 1
  | lead :: second :: rest =>
      match continuation? lead with
      | none => 1
      | some next =>
          if next.low ≤ second ∧ second ≤ next.high then
            2 + ((rest.take (next.length - 2)).takeWhile isTrailing).length
          else
            1

theorem illFormedLength_pos {bytes : Bytes} (nonempty : bytes ≠ []) :
    0 < illFormedLength bytes := by
  fun_cases illFormedLength bytes with
  | case1 => exact absurd rfl nonempty
  | case2 => decide
  | case3 => decide
  | case4 => omega
  | case5 => decide

/-- The first character read from a nonempty byte string, with a replacement
character for an ill-formed part, and the bytes after it. -/
def first (bytes : Bytes) : Char × Bytes :=
  match leading? bytes with
  | some char => (char, bytes.drop char.utf8Size)
  | none => ('\uFFFD', bytes.drop (illFormedLength bytes))

theorem length_first_lt {bytes : Bytes} (nonempty : bytes ≠ []) :
    (first bytes).2.length < bytes.length := by
  have some_byte := List.length_pos_iff.mpr nonempty
  unfold first
  split
  · next char found =>
      have size := char.utf8Size_pos
      simp only [List.length_drop]
      omega
  · have size := illFormedLength_pos nonempty
    simp only [List.length_drop]
    omega

/-- The text read so far, continued by the lossy decoding of the remaining bytes. -/
def decodeLossyAfter (text : String) (bytes : Bytes) : String :=
  if _ : bytes = [] then
    text
  else
    decodeLossyAfter (text.push (first bytes).1) (first bytes).2
termination_by bytes.length
decreasing_by exact length_first_lt (by assumption)

/-- The text of a byte string: each character kept in order, and each maximal
ill-formed part replaced by one replacement character. -/
def decodeLossy (bytes : Bytes) : String :=
  decodeLossyAfter "" bytes

theorem decodeLossyAfter_nil (text : String) : decodeLossyAfter text [] = text := by
  rw [decodeLossyAfter, dif_pos rfl]

theorem decodeLossyAfter_of_ne_nil (text : String) {bytes : Bytes} (nonempty : bytes ≠ []) :
    decodeLossyAfter text bytes =
      decodeLossyAfter (text.push (first bytes).1) (first bytes).2 := by
  rw [decodeLossyAfter, dif_neg nonempty]

theorem decodeLossyAfter_eq (text : String) (bytes : Bytes) :
    decodeLossyAfter text bytes = text ++ decodeLossy bytes := by
  unfold decodeLossy
  induction size : bytes.length using Nat.strongRecOn generalizing text bytes with
  | ind size ih =>
      subst size
      by_cases nonempty : bytes = []
      · subst nonempty
        simp [decodeLossyAfter_nil]
      · have rest := ih _ (length_first_lt nonempty)
        rw [decodeLossyAfter_of_ne_nil text nonempty, decodeLossyAfter_of_ne_nil "" nonempty,
          rest _ _ rfl, rest ("".push _) _ rfl]
        rw [← String.append_singleton, ← String.append_singleton, String.append_assoc,
          String.empty_append]

@[simp] theorem decodeLossy_nil : decodeLossy [] = "" := by
  rw [decodeLossy, decodeLossyAfter_nil]

theorem decodeLossy_of_ne_nil {bytes : Bytes} (nonempty : bytes ≠ []) :
    decodeLossy bytes = String.singleton (first bytes).1 ++ decodeLossy (first bytes).2 := by
  rw [decodeLossy, decodeLossyAfter_of_ne_nil "" nonempty, decodeLossyAfter_eq]
  rfl

theorem decodeLossy_encodeChar_append (char : Char) (rest : Bytes) :
    decodeLossy (String.utf8EncodeChar char ++ rest) =
      String.singleton char ++ decodeLossy rest := by
  have nonempty : String.utf8EncodeChar char ++ rest ≠ [] := by simp
  have front := leading?_encodeChar_append char rest
  rw [decodeLossy_of_ne_nil nonempty]
  simp only [first, front]
  rw [List.drop_append_of_le_length (by simp), List.drop_of_length_le (by simp)]
  rfl

/-- Well-formed bytes are read back as the text they encode. -/
theorem decodeLossy_encode (text : String) : decodeLossy (encode text) = text := by
  apply String.ext
  rw [encode_eq_flatMap]
  generalize text.toList = chars
  induction chars with
  | nil => simp
  | cons char chars ih =>
      rw [List.flatMap_cons, decodeLossy_encodeChar_append]
      simp [ih]

/-- The text read so far, continued by the characters before the first ill-formed
part. -/
def wellFormedAfter (text : String) (bytes : Bytes) : String :=
  match _ : leading? bytes with
  | some char => wellFormedAfter (text.push char) (bytes.drop char.utf8Size)
  | none => text
termination_by bytes.length
decreasing_by
  next found =>
  have enough := utf8Size_le_of_leading? found
  have size := char.utf8Size_pos
  simp only [List.length_drop]
  omega

/-- The text of the longest well-formed prefix of a byte string. -/
def wellFormedPrefix (bytes : Bytes) : String :=
  wellFormedAfter "" bytes

theorem encode_wellFormedAfter (text : String) (bytes : Bytes) :
    encode (wellFormedAfter text bytes) <+: encode text ++ bytes := by
  fun_induction wellFormedAfter text bytes with
  | case1 text bytes char found ih =>
      rw [encode_push, List.append_assoc, ← eq_of_leading? found] at ih
      exact ih
  | case2 text bytes found => exact List.prefix_append _ _

/-- The text of the well-formed prefix encodes to a prefix of the bytes. -/
theorem encode_wellFormedPrefix (bytes : Bytes) :
    encode (wellFormedPrefix bytes) <+: bytes := by
  simpa [wellFormedPrefix] using encode_wellFormedAfter "" bytes

end Utf8

end Snapshot
