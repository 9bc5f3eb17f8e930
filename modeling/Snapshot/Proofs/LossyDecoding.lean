import Mathlib.Data.List.Basic
import Mathlib.Data.List.TakeWhile
import Snapshot.Utf8

/-!
# Lossy decoding

Bytes that are not well formed are read with replacement characters.  The reading is told here
without the decoder: a character where its encoding stands, and one replacement character for
each maximal ill-formed part, which is the longest front with which the encoding of some character
begins, or a single byte where there is none.  The decoder gives this reading and no other.

That the table of lead bytes says which bytes can follow each other is shown from the encoding of
code points.
-/

namespace Snapshot

namespace Utf8

/-! ## The encoding of characters -/

/-- The numbers that encode a code point. -/
def codeUnits (point : Nat) : List Nat :=
  if point ≤ 0x7F then
    [point]
  else if point ≤ 0x7FF then
    [0xC0 + point / 64, 0x80 + point % 64]
  else if point ≤ 0xFFFF then
    [0xE0 + point / 4096, 0x80 + point / 64 % 64, 0x80 + point % 64]
  else
    [0xF0 + point / 262144, 0x80 + point / 4096 % 64, 0x80 + point / 64 % 64, 0x80 + point % 64]

/-- Characters are the code points that are not surrogates. -/
theorem toNat_char (char : Char) :
    char.toNat < 0xD800 ∨ 0xDFFF < char.toNat ∧ char.toNat < 0x110000 :=
  char.valid

theorem map_toNat_encodeChar (char : Char) :
    (String.utf8EncodeChar char).map UInt8.toNat = codeUnits char.toNat := by
  have valid := toNat_char char
  unfold String.utf8EncodeChar codeUnits
  rw [Char.toNat_val]
  dsimp only
  generalize char.toNat = point at valid ⊢
  split
  · simp only [List.map_cons, List.map_nil, UInt8.toNat_ofNat', List.cons.injEq, and_true]
    omega
  split
  · simp only [List.map_cons, List.map_nil, UInt8.toNat_ofNat', List.cons.injEq, and_true]
    omega
  split
  · simp only [List.map_cons, List.map_nil, UInt8.toNat_ofNat', List.cons.injEq, and_true]
    omega
  · simp only [List.map_cons, List.map_nil, UInt8.toNat_ofNat', List.cons.injEq, and_true]
    omega

theorem exists_char (point : Nat) {bytes : Bytes} (valid : point.isValidChar)
    (units : bytes.map UInt8.toNat = codeUnits point) :
    ∃ char, String.utf8EncodeChar char = bytes := by
  refine ⟨Char.ofNatAux point valid, ?_⟩
  apply List.map_injective_iff.mpr (fun _ _ => UInt8.toNat_inj.mp)
  rw [map_toNat_encodeChar, units]
  rfl

/-- The first two bytes of a character of several bytes, and their number. -/
structure Opens (lead second length : Nat) : Prop where
  length_eq : length = 2 ∧ 0xC2 ≤ lead ∧ lead ≤ 0xDF ∨ length = 3 ∧ 0xE0 ≤ lead ∧ lead ≤ 0xEF ∨
    length = 4 ∧ 0xF0 ≤ lead ∧ lead ≤ 0xF4
  trailing : 0x80 ≤ second ∧ second ≤ 0xBF
  /-- Two bytes would do for what is less. -/
  three : lead = 0xE0 → 0xA0 ≤ second
  /-- What is greater is a surrogate. -/
  surrogate : lead = 0xED → second ≤ 0x9F
  /-- Three bytes would do for what is less. -/
  four : lead = 0xF0 → 0x90 ≤ second
  /-- What is greater is no code point. -/
  greatest : lead = 0xF4 → second ≤ 0x8F

/-- The table of lead bytes tells which two bytes open a character. -/
theorem opens_iff {lead second : UInt8} {length : Nat} :
    Opens lead.toNat second.toNat length ↔ ∃ next, continuation? lead = some next ∧
      next.length = length ∧ next.low ≤ second ∧ second ≤ next.high := by
  fun_cases continuation? lead
  all_goals
    simp only [UInt8.lt_iff_toNat_lt, ← UInt8.toNat_inj, UInt8.reduceToNat] at *
    simp only [reduceCtorEq, false_and, exists_false, Option.some.injEq, exists_eq_left',
      UInt8.le_iff_toNat_le, UInt8.reduceToNat]
    -- At most one row of the table is left, and all that remains are inequalities.
    constructor
    · rintro ⟨length_eq, trailing, three, surrogate, four, greatest⟩
      omega
    · intro row
      constructor <;> first | exact row.elim | omega

theorem isTrailing_iff {byte : UInt8} :
    isTrailing byte = true ↔ 0x80 ≤ byte.toNat ∧ byte.toNat ≤ 0xBF := by
  simp [isTrailing, UInt8.le_iff_toNat_le]

theorem opens_of_encodeChar {char : Char} {lead second : UInt8} {rest : Bytes}
    (encoded : String.utf8EncodeChar char = lead :: second :: rest) :
    Opens lead.toNat second.toNat (rest.length + 2) ∧ ∀ byte ∈ rest, isTrailing byte = true := by
  have valid := toNat_char char
  have units := map_toNat_encodeChar char
  rw [encoded] at units
  generalize char.toNat = point at units valid
  simp only [isTrailing_iff]
  unfold codeUnits at units
  split at units
  · cases units
  split at units
  · simp only [List.map_cons, List.cons.injEq, List.map_eq_nil_iff] at units
    obtain ⟨leads, seconds, rfl⟩ := units
    simp only [List.length_nil, List.not_mem_nil, false_imp_iff, implies_true, and_true]
    constructor <;> omega
  split at units
  · simp only [List.map_cons, List.cons.injEq, List.map_eq_cons_iff, List.map_eq_nil_iff] at units
    obtain ⟨leads, seconds, third, _, rfl, thirds, rfl⟩ := units
    simp only [List.length_cons, List.length_nil, List.mem_singleton, forall_eq]
    refine ⟨?_, by omega⟩
    constructor <;> omega
  · simp only [List.map_cons, List.cons.injEq, List.map_eq_cons_iff, List.map_eq_nil_iff] at units
    obtain ⟨leads, seconds, third, _, rfl, thirds, fourth, _, rfl, fourths, rfl⟩ := units
    simp only [List.length_cons, List.length_nil, List.mem_cons, forall_eq_or_imp,
      List.not_mem_nil, false_imp_iff, implies_true, and_true]
    refine ⟨?_, by omega⟩
    constructor <;> omega

theorem exists_char_of_opens {lead second : UInt8} {rest : Bytes}
    (opens : Opens lead.toNat second.toNat (rest.length + 2))
    (continued : ∀ byte ∈ rest, isTrailing byte = true) :
    ∃ char, String.utf8EncodeChar char = lead :: second :: rest := by
  obtain ⟨length_eq, trailing, three, surrogate, four, greatest⟩ := opens
  simp only [isTrailing_iff] at continued
  match rest with
  | [] =>
      rw [List.length_nil] at length_eq
      apply exists_char ((lead.toNat - 0xC0) * 64 + (second.toNat - 0x80))
      · left
        omega
      · rw [codeUnits, if_neg (by omega), if_pos (by omega)]
        simp only [List.map_cons, List.map_nil, List.cons.injEq, and_true]
        omega
  | [third] =>
      have next := continued third (by simp)
      simp only [List.length_cons, List.length_nil] at length_eq
      apply exists_char ((lead.toNat - 0xE0) * 4096 + (second.toNat - 0x80) * 64 +
        (third.toNat - 0x80))
      · unfold Nat.isValidChar
        omega
      · rw [codeUnits, if_neg (by omega), if_neg (by omega), if_pos (by omega)]
        simp only [List.map_cons, List.map_nil, List.cons.injEq, and_true]
        omega
  | [third, fourth] =>
      have next := continued third (by simp)
      have last := continued fourth (by simp)
      simp only [List.length_cons, List.length_nil] at length_eq
      apply exists_char ((lead.toNat - 0xF0) * 262144 + (second.toNat - 0x80) * 4096 +
        (third.toNat - 0x80) * 64 + (fourth.toNat - 0x80))
      · right
        omega
      · rw [codeUnits, if_neg (by omega), if_neg (by omega), if_neg (by omega)]
        simp only [List.map_cons, List.map_nil, List.cons.injEq, and_true]
        omega
  | _ :: _ :: _ :: _ =>
      simp only [List.length_cons] at length_eq
      omega

/-! ## Ill-formed parts -/

/-- Bytes with which the encoding of some character begins. -/
def StartsCharacter (part : Bytes) : Prop :=
  ∃ char, part <+: String.utf8EncodeChar char

/-- Two bytes or more start a character if the first two open it and only trailing bytes follow,
no more of them than it has. -/
theorem startsCharacter_iff {lead second : UInt8} {rest : Bytes} :
    StartsCharacter (lead :: second :: rest) ↔
      ∃ length, Opens lead.toNat second.toNat length ∧ rest.length + 2 ≤ length ∧
        ∀ byte ∈ rest, isTrailing byte = true := by
  constructor
  · rintro ⟨char, more, encoded⟩
    rw [List.cons_append, List.cons_append] at encoded
    obtain ⟨opens, trailing⟩ := opens_of_encodeChar encoded.symm
    refine ⟨_, opens, ?_, fun byte mem => trailing byte (List.mem_append_left _ mem)⟩
    rw [List.length_append]
    omega
  · rintro ⟨length, opens, short, trailing⟩
    -- What the character still lacks is made up of the least trailing bytes.
    have missing : (List.replicate (length - (rest.length + 2)) (0x80 : UInt8)).length =
        length - (rest.length + 2) := List.length_replicate
    have whole : (rest ++ List.replicate (length - (rest.length + 2)) 0x80).length + 2 = length := by
      rw [List.length_append, missing]
      omega
    have continued : ∀ byte ∈ rest ++ List.replicate (length - (rest.length + 2)) 0x80,
        isTrailing byte = true := by
      intro byte mem
      rcases List.mem_append.mp mem with inside | added
      · exact trailing byte inside
      · rw [List.eq_of_mem_replicate added]
        rfl
    rw [← whole] at opens
    obtain ⟨char, encoded⟩ := exists_char_of_opens opens continued
    exact ⟨char, _, encoded.symm⟩

/-- A maximal ill-formed part at the front of bytes: no character stands there, and the part is the
longest front that starts one, or a single byte where there is none. -/
structure IsIllFormedFront (part bytes : Bytes) : Prop where
  front : part <+: bytes
  nonempty : part ≠ []
  unreadable : ∀ char, ¬String.utf8EncodeChar char <+: bytes
  start : StartsCharacter part ∨ part.length = 1
  longest : ∀ other, other <+: bytes → StartsCharacter other → other.length ≤ part.length

theorem IsIllFormedFront.length_le {first second bytes : Bytes}
    (left : IsIllFormedFront first bytes) (right : IsIllFormedFront second bytes) :
    first.length ≤ second.length := by
  rcases left.start with start | single
  · exact right.longest first left.front start
  · rw [single]
    exact List.length_pos_iff.mpr right.nonempty

/-- There is one maximal ill-formed part. -/
theorem IsIllFormedFront.unique {first second bytes : Bytes}
    (left : IsIllFormedFront first bytes) (right : IsIllFormedFront second bytes) :
    first = second := by
  have same := Nat.le_antisymm (left.length_le right) (right.length_le left)
  rw [List.prefix_iff_eq_take.mp left.front, List.prefix_iff_eq_take.mp right.front, same]

theorem illFormedLength_le (bytes : Bytes) : illFormedLength bytes ≤ bytes.length := by
  fun_cases illFormedLength bytes with
  | case1 => exact Nat.le_refl _
  | case2 => exact Nat.le_refl _
  | case3 => simp
  | case4 lead second rest next found range =>
      have some_trailing := (List.takeWhile_prefix isTrailing
        (l := rest.take (next.length - 2))).length_le
      rw [List.length_take] at some_trailing
      simp only [List.length_cons]
      omega
  | case5 => simp

/-- What the decoder passes over starts a character, or is a single byte. -/
theorem take_illFormedLength (bytes : Bytes) :
    StartsCharacter (bytes.take (illFormedLength bytes)) ∨ illFormedLength bytes ≤ 1 := by
  fun_cases illFormedLength bytes with
  | case1 => exact Or.inr (Nat.zero_le _)
  | case2 => exact Or.inr (Nat.le_refl _)
  | case3 => exact Or.inr (Nat.le_refl _)
  | case4 lead second rest next found range =>
      left
      have opens := opens_iff.mpr ⟨next, found, rfl, range⟩
      have some_byte : 2 ≤ next.length := by
        rcases opens.length_eq with two | three | four <;> omega
      have inside := List.takeWhile_prefix isTrailing (l := rest.take (next.length - 2))
      have short := inside.length_le
      have passed := List.prefix_iff_eq_take.mp (inside.trans (List.take_prefix _ _))
      rw [Nat.add_comm, List.take_succ_cons, List.take_succ_cons, ← passed, startsCharacter_iff]
      rw [List.length_take] at short
      exact ⟨next.length, opens, by omega, fun byte mem => List.mem_takeWhile_imp mem⟩
  | case5 => exact Or.inr (Nat.le_refl _)

/-- Fronts that start a character are within the ill-formed part. -/
theorem length_le_illFormedLength {bytes part : Bytes} (front : part <+: bytes)
    (start : StartsCharacter part) : part.length ≤ illFormedLength bytes := by
  match part, bytes with
  | [], _ => exact Nat.zero_le _
  | [_], bytes =>
      exact illFormedLength_pos fun nothing => by
        rw [nothing] at front
        exact absurd front.length_le (by simp)
  | first :: next :: more, [] => exact absurd front.length_le (by simp)
  | first :: next :: more, [_] => exact absurd front.length_le (by simp)
  | first :: next :: more, lead :: second :: rest =>
      obtain ⟨rfl, tail⟩ := List.cons_prefix_cons.mp front
      obtain ⟨rfl, inside⟩ := List.cons_prefix_cons.mp tail
      obtain ⟨length, opens, short, trailing⟩ := startsCharacter_iff.mp start
      obtain ⟨promised, found, rfl, low, high⟩ := opens_iff.mp opens
      have within : more <+: rest.take (promised.length - 2) := by
        rw [List.prefix_take_iff]
        exact ⟨inside, by omega⟩
      obtain ⟨others, split⟩ := within
      rw [illFormedLength, found]
      simp only
      rw [if_pos ⟨low, high⟩, ← split, List.takeWhile_append_of_pos trailing]
      simp only [List.length_cons, List.length_append]
      omega

/-- Where no character stands, the decoder passes over the maximal ill-formed part. -/
theorem isIllFormedFront_take {bytes : Bytes} (nonempty : bytes ≠ [])
    (unreadable : leading? bytes = none) :
    IsIllFormedFront (bytes.take (illFormedLength bytes)) bytes := by
  have size : (bytes.take (illFormedLength bytes)).length = illFormedLength bytes := by
    rw [List.length_take, Nat.min_eq_left (illFormedLength_le bytes)]
  have some_byte := illFormedLength_pos nonempty
  refine ⟨List.take_prefix _ _, ?_, ?_, ?_, ?_⟩
  · rw [ne_eq, ← List.length_eq_zero_iff, size]
    omega
  · rintro char ⟨rest, split⟩
    have found := leading?_eq_some_iff.mpr ⟨rest, split.symm⟩
    rw [unreadable] at found
    cases found
  · rw [size]
    rcases take_illFormedLength bytes with start | single
    · exact Or.inl start
    · exact Or.inr (by omega)
  · intro other front start
    rw [size]
    exact length_le_illFormedLength front start

/-! ## Readings -/

/-- How bytes are read as text: a character where its encoding stands, and one replacement
character for each maximal ill-formed part. -/
inductive LossyReading : Bytes → String → Prop where
  | nil : LossyReading [] ""
  | char {rest : Bytes} {text : String} (char : Char) (reading : LossyReading rest text) :
      LossyReading (String.utf8EncodeChar char ++ rest) (String.singleton char ++ text)
  | illFormed {part rest : Bytes} {text : String} (front : IsIllFormedFront part (part ++ rest))
      (reading : LossyReading rest text) :
      LossyReading (part ++ rest) (String.singleton '\uFFFD' ++ text)

theorem decodeLossy_illFormed_append {part rest : Bytes}
    (front : IsIllFormedFront part (part ++ rest)) :
    decodeLossy (part ++ rest) = String.singleton '\uFFFD' ++ decodeLossy rest := by
  have nonempty : part ++ rest ≠ [] := by simp [front.nonempty]
  have unreadable : leading? (part ++ rest) = none := by
    rw [Option.eq_none_iff_forall_ne_some]
    intro char found
    obtain ⟨after, split⟩ := leading?_eq_some_iff.mp found
    exact front.unreadable char ⟨after, split.symm⟩
  have passed := (isIllFormedFront_take nonempty unreadable).unique front
  have split := List.take_append_drop (illFormedLength (part ++ rest)) (part ++ rest)
  rw [passed] at split
  rw [decodeLossy_of_ne_nil nonempty, first, unreadable]
  simp only
  rw [List.append_cancel_left split]

/-- The decoder gives the reading of every byte string, and there is no other. -/
theorem lossyReading_iff {bytes : Bytes} {text : String} :
    LossyReading bytes text ↔ text = decodeLossy bytes := by
  constructor
  · intro reading
    induction reading with
    | nil => rw [decodeLossy_nil]
    | char char reading ih => rw [decodeLossy_encodeChar_append, ih]
    | illFormed front reading ih => rw [decodeLossy_illFormed_append front, ih]
  · rintro rfl
    induction size : bytes.length using Nat.strongRecOn generalizing bytes with
    | ind size ih =>
        subst size
        by_cases nonempty : bytes = []
        · rw [nonempty, decodeLossy_nil]
          exact .nil
        · have rest := ih _ (length_first_lt nonempty) rfl
          rw [decodeLossy_of_ne_nil nonempty]
          cases found : leading? bytes with
          | some char =>
              rw [first, found] at rest ⊢
              have reading := LossyReading.char char rest
              rw [← eq_of_leading? found] at reading
              exact reading
          | none =>
              rw [first, found] at rest ⊢
              have split := List.take_append_drop (illFormedLength bytes) bytes
              have front := isIllFormedFront_take nonempty found
              have reading := LossyReading.illFormed (by rw [split]; exact front) rest
              rw [split] at reading
              exact reading

end Utf8

end Snapshot
