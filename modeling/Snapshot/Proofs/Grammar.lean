import Snapshot.Proofs.Decoder

/-!
# The stored form

Which byte strings are well formed for a layout, a step or a routine, and what the
first violation of a byte string is, both said without a decoder.  A decoder for a
form takes exactly its well-formed strings off the front of its input, and stops
with the failure of the first violation.
-/

namespace Snapshot

namespace Bytes

/-- So many parts of a form, one after another. -/
def IsRun (stored : Bytes → Prop) (count : Nat) (bytes : Bytes) : Prop :=
  ∃ parts : List Bytes, parts.length = count ∧ bytes = parts.flatten ∧
    ∀ part ∈ parts, stored part

/-- Fewer parts of a form than there should be, and then a violation. -/
def BreaksRun (stored : Bytes → Prop) (violates : Bytes → Failure → Prop) (count : Nat)
    (bytes : Bytes) (failure : Failure) : Prop :=
  ∃ (parts : List Bytes) (rest : Bytes), parts.length < count ∧
    bytes = parts.flatten ++ rest ∧ (∀ part ∈ parts, stored part) ∧ violates rest failure

/-- The bytes end too early. -/
def RunsOut (count : Nat) (bytes : Bytes) (failure : Failure) : Prop :=
  bytes.length < count ∧ failure = .stream .unexpectedEnd

/-- An accepted length in front. -/
def HasLength (limit : UInt32) (count : Nat) (bytes rest : Bytes) : Prop :=
  count ≤ limit.toNat ∧ bytes = ofNat 4 count ++ rest

/-- No length in front, or one that exceeds the limit. -/
def BreaksLength (limit : UInt32) (bytes : Bytes) (failure : Failure) : Prop :=
  RunsOut 4 bytes failure ∨
    ∃ (count : Nat) (rest : Bytes), limit.toNat < count ∧ count ≤ Limits.largestLength ∧
      bytes = ofNat 4 count ++ rest ∧ failure = .lengthLimit count limit.toNat

/-- A length and as many bytes. -/
def IsPayload (limit : UInt32) (bytes : Bytes) : Prop :=
  ∃ (count : Nat) (rest : Bytes), HasLength limit count bytes rest ∧ rest.length = count

def BreaksPayload (limit : UInt32) (bytes : Bytes) (failure : Failure) : Prop :=
  BreaksLength limit bytes failure ∨
    ∃ (count : Nat) (rest : Bytes), HasLength limit count bytes rest ∧
      RunsOut count rest failure

end Bytes

open Bytes

namespace Layout

/-- The well-formed byte strings of a layout. -/
def IsStored (limits : Limits) : Layout → Bytes → Prop
  | .unit, bytes => bytes = []
  | .scalar kind, bytes => bytes.length = kind.width
  | .bool, bytes => bytes.length = 1
  | .text, bytes => IsPayload limits.text bytes
  | .smallText _, bytes => IsPayload limits.text bytes
  | .array item length, bytes => IsRun (IsStored limits item) length bytes
  | .list item, bytes =>
      ∃ count rest, HasLength limits.collection count bytes rest ∧
        IsRun (IsStored limits item) count rest
  | .deque item, bytes =>
      ∃ count rest, HasLength limits.collection count bytes rest ∧
        IsRun (IsStored limits item) count rest

/-- The first violation of a byte string that does not start with a well-formed one. -/
def Violates (limits : Limits) : Layout → Bytes → Failure → Prop
  | .unit, _, _ => False
  | .scalar kind, bytes, failure => RunsOut kind.width bytes failure
  | .bool, bytes, failure => RunsOut 1 bytes failure
  | .text, bytes, failure => BreaksPayload limits.text bytes failure
  | .smallText _, bytes, failure => BreaksPayload limits.text bytes failure
  | .array item length, bytes, failure =>
      BreaksRun (IsStored limits item) (Violates limits item) length bytes failure
  | .list item, bytes, failure =>
      BreaksLength limits.collection bytes failure ∨
        ∃ count rest, HasLength limits.collection count bytes rest ∧
          BreaksRun (IsStored limits item) (Violates limits item) count rest failure
  | .deque item, bytes, failure =>
      BreaksLength limits.collection bytes failure ∨
        ∃ count rest, HasLength limits.collection count bytes rest ∧
          BreaksRun (IsStored limits item) (Violates limits item) count rest failure

end Layout

namespace Step

/-- The well-formed byte strings of a present step. -/
def IsStoredPresent (limits : Limits) : Step → Bytes → Prop
  | .value layout, front => layout.IsStored limits front
  | .field layout _, front => layout.IsStored limits front
  | .block layout _, front => layout.IsStored limits front
  | .blocks item _, front => (Layout.list item).IsStored limits front
  | .units, front => ∃ count, HasLength limits.collection count front []
  | .bytes length, front => front.length = length
  | .bytesField length _, front => front.length = length
  | .variant enumeration, front =>
      front.length = enumeration.scalar.width ∧
        ∃ found, enumeration.ofRepr? (enumeration.scalar.decode front) = some found
  | .marker _, front => IsPayload limits.text front
  | .expect _, front => IsPayload limits.text front
  | .lend _, front => front = []
  | .invalidate _, _ => False
  | .abandon _, front => front = []

/-- The first violation of a byte string where a present step is expected. -/
def ViolatesPresent (limits : Limits) : Step → Bytes → Failure → Prop
  | .value layout, front, failure => layout.Violates limits front failure
  | .field layout _, front, failure => layout.Violates limits front failure
  | .block layout _, front, failure => layout.Violates limits front failure
  | .blocks item _, front, failure => (Layout.list item).Violates limits front failure
  | .units, front, failure => BreaksLength limits.collection front failure
  | .bytes length, front, failure => RunsOut length front failure
  | .bytesField length _, front, failure => RunsOut length front failure
  | .variant enumeration, front, failure =>
      RunsOut enumeration.scalar.width front failure ∨
        ∃ stored rest, front = stored ++ rest ∧ stored.length = enumeration.scalar.width ∧
          enumeration.ofRepr? (enumeration.scalar.decode stored) = none ∧
          failure = enumeration.unknown (enumeration.scalar.decode stored)
  | .marker _, front, failure => BreaksPayload limits.text front failure
  | .expect _, front, failure => BreaksPayload limits.text front failure
  | .lend _, _, _ => False
  | .invalidate reason, _, failure => failure = .invalid reason
  | .abandon _, _, _ => False

/-- The well-formed byte strings of a step in state of the given version: nothing for
an absent step. -/
def IsStored (version : UInt32) (limits : Limits) (step : Step) (bytes : Bytes) : Prop :=
  if step.isPresent version then step.IsStoredPresent limits bytes else bytes = []

def Violates (version : UInt32) (limits : Limits) (step : Step) (bytes : Bytes)
    (failure : Failure) : Prop :=
  step.isPresent version = true ∧ step.ViolatesPresent limits bytes failure

end Step

namespace Routine

/-- The well-formed byte strings of a routine. -/
def IsStored (version : UInt32) (limits : Limits) : Routine → Bytes → Prop
  | [], bytes => bytes = []
  | step :: steps, bytes =>
      ∃ front back, bytes = front ++ back ∧ step.IsStored version limits front ∧
        IsStored version limits steps back

/-- The first violation of a byte string that does not start with a well-formed one. -/
def Violates (version : UInt32) (limits : Limits) : Routine → Bytes → Failure → Prop
  | [], _, _ => False
  | step :: steps, bytes, failure =>
      step.Violates version limits bytes failure ∨
        ∃ front back, bytes = front ++ back ∧ step.IsStored version limits front ∧
          Violates version limits steps back failure

end Routine

namespace Decoder

variable {α β : Type}

theorem take_eq_ok_iff {count : Nat} {bytes rest : Bytes} {taken : Fixed UInt8 count} :
    take count bytes = .ok (taken, rest) ↔ bytes = taken.items ++ rest := by
  unfold take
  constructor
  · intro done
    split at done
    · cases done
      exact (List.take_append_drop count bytes).symm
    · cases done
  · rintro rfl
    have size := taken.length_eq
    rw [dif_pos (by simp [size])]
    simp [← size]

theorem take_eq_error_iff {count : Nat} {bytes : Bytes} {failure : Failure} :
    take count bytes = .error failure ↔ RunsOut count bytes failure := by
  unfold take RunsOut
  constructor
  · intro failed
    split at failed
    · cases failed
    · next short =>
        cases failed
        exact ⟨Nat.lt_of_not_le short, rfl⟩
  · rintro ⟨short, rfl⟩
    rw [dif_neg (Nat.not_le_of_lt short)]

theorem bytes_eq_ok_iff {count : Nat} {bytes stored rest : Bytes} :
    Decoder.bytes count bytes = .ok (stored, rest) ↔
      stored.length = count ∧ bytes = stored ++ rest := by
  rw [Decoder.bytes, map_eq_ok_iff]
  constructor
  · rintro ⟨taken, done, rfl⟩
    exact ⟨taken.length_eq, take_eq_ok_iff.mp done⟩
  · rintro ⟨size, split⟩
    exact ⟨⟨stored, size⟩, take_eq_ok_iff.mpr split, rfl⟩

theorem bytes_eq_error_iff {count : Nat} {bytes : Bytes} {failure : Failure} :
    Decoder.bytes count bytes = .error failure ↔ RunsOut count bytes failure := by
  rw [Decoder.bytes, map_eq_error_iff, take_eq_error_iff]

theorem within_eq_ok_iff {limit : UInt32} {count found : Nat} {bytes rest : Bytes} :
    within limit count bytes = .ok (found, rest) ↔
      count ≤ limit.toNat ∧ found = count ∧ bytes = rest := by
  unfold within
  by_cases exceeds : limit.toNat < count
  · simp [exceeds, fail, Nat.not_le_of_lt exceeds]
  · simp [exceeds, succeed, Nat.le_of_not_lt exceeds, eq_comm]

theorem within_eq_error_iff {limit : UInt32} {count : Nat} {bytes : Bytes} {failure : Failure} :
    within limit count bytes = .error failure ↔
      limit.toNat < count ∧ failure = .lengthLimit count limit.toNat := by
  unfold within
  by_cases exceeds : limit.toNat < count
  · simp [exceeds, fail, eq_comm]
  · simp [exceeds, succeed]

/-- Four bytes are the stored form of the number they make. -/
theorem ofNat_toNat_of_length {stored : Bytes} {count : Nat} (size : stored.length = count) :
    ofNat count (Bytes.toNat stored) = stored := by
  rw [← size]
  exact Bytes.ofNat_toNat stored

theorem length_eq_ok_iff {limit : UInt32} {bytes rest : Bytes} {count : Nat} :
    length limit bytes = .ok (count, rest) ↔ HasLength limit count bytes rest := by
  rw [length, andThen_eq_ok_iff]
  constructor
  · rintro ⟨stored, between, taken, accepted⟩
    obtain ⟨size, rfl⟩ := bytes_eq_ok_iff.mp taken
    obtain ⟨small, rfl, rfl⟩ := within_eq_ok_iff.mp accepted
    exact ⟨small, by rw [ofNat_toNat_of_length size]⟩
  · rintro ⟨small, rfl⟩
    have same : Bytes.toNat (ofNat 4 count) = count :=
      Bytes.toNat_ofNat_of_lt (Nat.lt_of_le_of_lt small limit.toNat_lt)
    refine ⟨ofNat 4 count, rest, bytes_eq_ok_iff.mpr ⟨Bytes.length_ofNat 4 count, rfl⟩, ?_⟩
    rw [same]
    exact within_eq_ok_iff.mpr ⟨small, rfl, rfl⟩

theorem length_eq_error_iff {limit : UInt32} {bytes : Bytes} {failure : Failure} :
    length limit bytes = .error failure ↔ BreaksLength limit bytes failure := by
  rw [length, andThen_eq_error_iff, bytes_eq_error_iff]
  refine or_congr Iff.rfl ?_
  constructor
  · rintro ⟨stored, rest, taken, refused⟩
    obtain ⟨size, rfl⟩ := bytes_eq_ok_iff.mp taken
    obtain ⟨exceeds, rfl⟩ := within_eq_error_iff.mp refused
    have bound := Bytes.toNat_lt stored
    rw [size] at bound
    have small : Bytes.toNat stored ≤ Limits.largestLength := Nat.le_of_lt_succ bound
    exact ⟨Bytes.toNat stored, rest, exceeds, small, by rw [ofNat_toNat_of_length size], rfl⟩
  · rintro ⟨count, rest, exceeds, small, rfl, rfl⟩
    have same : Bytes.toNat (ofNat 4 count) = count :=
      Bytes.toNat_ofNat_of_lt (Nat.lt_succ_of_le small)
    refine ⟨ofNat 4 count, rest, bytes_eq_ok_iff.mpr ⟨Bytes.length_ofNat 4 count, rfl⟩, ?_⟩
    rw [same]
    exact within_eq_error_iff.mpr ⟨exceeds, rfl⟩

/-- The decoder takes exactly the well-formed strings of a form off the front of its
input, and fails exactly with the violations of the form. -/
structure Recognizes (decoder : Decoder α) (stored : Bytes → Prop)
    (violates : Bytes → Failure → Prop) : Prop where
  takes : ∀ bytes rest, (∃ value, decoder bytes = .ok (value, rest)) ↔
    ∃ front, bytes = front ++ rest ∧ stored front
  fails : ∀ bytes failure, decoder bytes = .error failure ↔ violates bytes failure

variable {decoder : Decoder α} {stored : Bytes → Prop} {violates : Bytes → Failure → Prop}

/-- Every input either starts with a well-formed string or has a first violation. -/
theorem Recognizes.starts_or_violates (recognizes : Recognizes decoder stored violates)
    (bytes : Bytes) :
    (∃ front rest, bytes = front ++ rest ∧ stored front) ∨ ∃ failure, violates bytes failure := by
  cases outcome : decoder bytes with
  | ok result =>
      obtain ⟨value, rest⟩ := result
      obtain ⟨front, split, whole⟩ := (recognizes.takes bytes rest).mp ⟨value, outcome⟩
      exact Or.inl ⟨front, rest, split, whole⟩
  | error failure => exact Or.inr ⟨failure, (recognizes.fails bytes failure).mp outcome⟩

theorem Recognizes.congr (recognizes : Recognizes decoder stored violates)
    {stored' : Bytes → Prop} {violates' : Bytes → Failure → Prop}
    (same : ∀ bytes, stored bytes ↔ stored' bytes)
    (fail : ∀ bytes failure, violates bytes failure ↔ violates' bytes failure) :
    Recognizes decoder stored' violates' := by
  obtain rfl : stored = stored' := funext fun bytes => propext (same bytes)
  obtain rfl : violates = violates' :=
    funext fun bytes => funext fun failure => propext (fail bytes failure)
  exact recognizes

theorem Recognizes.map (recognizes : Recognizes decoder stored violates) (change : α → β) :
    Recognizes (decoder.map change) stored violates where
  takes := by
    intro bytes rest
    rw [← recognizes.takes]
    constructor
    · rintro ⟨_, done⟩
      obtain ⟨value, taken, _⟩ := map_eq_ok_iff.mp done
      exact ⟨value, taken⟩
    · rintro ⟨value, taken⟩
      exact ⟨change value, map_of_ok taken⟩
  fails := by
    intro bytes failure
    rw [map_eq_error_iff, recognizes.fails]

/-- One form after another. -/
theorem Recognizes.andThen (recognizes : Recognizes decoder stored violates)
    {next : α → Decoder β} {stored' : Bytes → Prop} {violates' : Bytes → Failure → Prop}
    (follows : ∀ value, Recognizes (next value) stored' violates') :
    Recognizes (decoder.andThen next)
      (fun bytes => ∃ front back, bytes = front ++ back ∧ stored front ∧ stored' back)
      (fun bytes failure => violates bytes failure ∨
        ∃ front back, bytes = front ++ back ∧ stored front ∧ violates' back failure) where
  takes := by
    intro bytes rest
    constructor
    · rintro ⟨value, done⟩
      obtain ⟨middle, between, taken, finished⟩ := andThen_eq_ok_iff.mp done
      obtain ⟨front, rfl, first⟩ := (recognizes.takes _ _).mp ⟨middle, taken⟩
      obtain ⟨back, rfl, second⟩ := ((follows middle).takes _ _).mp ⟨value, finished⟩
      exact ⟨front ++ back, (List.append_assoc _ _ _).symm, front, back, rfl, first, second⟩
    · rintro ⟨_, rfl, front, back, rfl, first, second⟩
      rw [List.append_assoc]
      obtain ⟨middle, taken⟩ :=
        (recognizes.takes (front ++ (back ++ rest)) (back ++ rest)).mpr ⟨front, rfl, first⟩
      obtain ⟨value, finished⟩ :=
        ((follows middle).takes (back ++ rest) rest).mpr ⟨back, rfl, second⟩
      exact ⟨value, andThen_eq_ok_iff.mpr ⟨middle, back ++ rest, taken, finished⟩⟩
  fails := by
    intro bytes failure
    rw [andThen_eq_error_iff, recognizes.fails]
    refine or_congr Iff.rfl ?_
    constructor
    · rintro ⟨middle, between, taken, failed⟩
      obtain ⟨front, rfl, first⟩ := (recognizes.takes _ _).mp ⟨middle, taken⟩
      exact ⟨front, between, rfl, first, ((follows middle).fails _ _).mp failed⟩
    · rintro ⟨front, back, rfl, first, failed⟩
      obtain ⟨middle, taken⟩ := (recognizes.takes (front ++ back) back).mpr ⟨front, rfl, first⟩
      exact ⟨middle, back, taken, ((follows middle).fails _ _).mpr failed⟩

/-- A form that depends on the length in front of it. -/
theorem recognizes_afterLength (limit : UInt32) {next : Nat → Decoder β}
    {stored : Nat → Bytes → Prop} {violates : Nat → Bytes → Failure → Prop}
    (follows : ∀ count, Recognizes (next count) (stored count) (violates count)) :
    Recognizes ((length limit).andThen next)
      (fun bytes => ∃ count rest, HasLength limit count bytes rest ∧ stored count rest)
      (fun bytes failure => BreaksLength limit bytes failure ∨
        ∃ count rest, HasLength limit count bytes rest ∧ violates count rest failure) where
  takes := by
    intro bytes rest
    constructor
    · rintro ⟨value, done⟩
      obtain ⟨count, between, taken, finished⟩ := andThen_eq_ok_iff.mp done
      obtain ⟨within, rfl⟩ := length_eq_ok_iff.mp taken
      obtain ⟨back, rfl, second⟩ := ((follows count).takes _ _).mp ⟨value, finished⟩
      exact ⟨ofNat 4 count ++ back, (List.append_assoc _ _ _).symm, count, back,
        ⟨within, rfl⟩, second⟩
    · rintro ⟨_, rfl, count, back, ⟨within, rfl⟩, second⟩
      obtain ⟨value, finished⟩ :=
        ((follows count).takes (back ++ rest) rest).mpr ⟨back, rfl, second⟩
      refine ⟨value, andThen_eq_ok_iff.mpr ⟨count, back ++ rest, ?_, finished⟩⟩
      exact length_eq_ok_iff.mpr ⟨within, List.append_assoc _ _ _⟩
  fails := by
    intro bytes failure
    rw [andThen_eq_error_iff, length_eq_error_iff]
    refine or_congr Iff.rfl (exists_congr fun count => exists_congr fun rest => ?_)
    rw [length_eq_ok_iff, (follows count).fails]

theorem take_recognizes (count : Nat) :
    Recognizes (take count) (fun bytes => bytes.length = count) (RunsOut count) where
  takes := by
    intro bytes rest
    constructor
    · rintro ⟨taken, done⟩
      exact ⟨taken.items, take_eq_ok_iff.mp done, taken.length_eq⟩
    · rintro ⟨front, rfl, size⟩
      exact ⟨⟨front, size⟩, take_eq_ok_iff.mpr rfl⟩
  fails := fun _ _ => take_eq_error_iff

theorem bytes_recognizes (count : Nat) :
    Recognizes (Decoder.bytes count) (fun bytes => bytes.length = count) (RunsOut count) :=
  (take_recognizes count).map Fixed.items

theorem succeed_recognizes (value : α) :
    Recognizes (succeed value) (· = []) (fun _ _ => False) where
  takes := by
    intro bytes rest
    constructor
    · rintro ⟨_, done⟩
      cases done
      exact ⟨[], rfl, rfl⟩
    · rintro ⟨_, rfl, rfl⟩
      exact ⟨value, rfl⟩
  fails := by
    intro bytes failure
    constructor
    · intro failed
      cases failed
    · exact False.elim

theorem payload_recognizes (limit : UInt32) :
    Recognizes (payload limit) (IsPayload limit) (BreaksPayload limit) :=
  recognizes_afterLength limit bytes_recognizes

theorem isRun_zero {bytes : Bytes} : IsRun stored 0 bytes ↔ bytes = [] := by
  constructor
  · rintro ⟨parts, none, rfl, _⟩
    rw [List.length_eq_zero_iff.mp none]
    rfl
  · rintro rfl
    exact ⟨[], rfl, rfl, by simp⟩

theorem isRun_succ {count : Nat} {bytes : Bytes} :
    IsRun stored (count + 1) bytes ↔
      ∃ front back, bytes = front ++ back ∧ stored front ∧ IsRun stored count back := by
  constructor
  · rintro ⟨parts, size, rfl, each⟩
    cases parts with
    | nil => cases size
    | cons part parts =>
        obtain ⟨first, later⟩ := List.forall_mem_cons.mp each
        exact ⟨part, parts.flatten, rfl, first, parts, Nat.succ.inj size, rfl, later⟩
  · rintro ⟨front, back, rfl, first, parts, rfl, rfl, later⟩
    exact ⟨front :: parts, rfl, rfl, List.forall_mem_cons.mpr ⟨first, later⟩⟩

theorem breaksRun_succ {count : Nat} {bytes : Bytes} {failure : Failure} :
    BreaksRun stored violates (count + 1) bytes failure ↔
      violates bytes failure ∨
        ∃ front back, bytes = front ++ back ∧ stored front ∧
          BreaksRun stored violates count back failure := by
  constructor
  · rintro ⟨parts, rest, few, rfl, each, failed⟩
    cases parts with
    | nil => exact Or.inl failed
    | cons part parts =>
        obtain ⟨first, later⟩ := List.forall_mem_cons.mp each
        refine Or.inr ⟨part, parts.flatten ++ rest, List.append_assoc _ _ _, first, ?_⟩
        exact ⟨parts, rest, Nat.lt_of_succ_lt_succ few, rfl, later, failed⟩
  · rintro (failed | ⟨front, back, rfl, first, parts, rest, few, rfl, later, failed⟩)
    · exact ⟨[], bytes, Nat.succ_pos _, rfl, by simp, failed⟩
    · exact ⟨front :: parts, rest, Nat.succ_lt_succ few, (List.append_assoc _ _ _).symm,
        List.forall_mem_cons.mpr ⟨first, later⟩, failed⟩

theorem fixed_recognizes (recognizes : Recognizes decoder stored violates) (count : Nat) :
    Recognizes (fixed decoder count) (IsRun stored count) (BreaksRun stored violates count) := by
  induction count with
  | zero =>
      refine (succeed_recognizes Fixed.empty).congr (fun bytes => isRun_zero.symm) ?_
      intro bytes failure
      constructor
      · exact False.elim
      · rintro ⟨parts, rest, few, _⟩
        exact absurd few (Nat.not_lt_zero _)
  | succ count ih =>
      exact (recognizes.andThen fun first => ih.map (Fixed.cons first)).congr
        (fun bytes => isRun_succ.symm) (fun bytes failure => breaksRun_succ.symm)

theorem times_recognizes (recognizes : Recognizes decoder stored violates) (count : Nat) :
    Recognizes (times decoder count) (IsRun stored count) (BreaksRun stored violates count) :=
  (fixed_recognizes recognizes count).map Fixed.items

theorem units_recognizes (limit : UInt32) :
    Recognizes (length limit) (fun bytes => ∃ count, HasLength limit count bytes [])
      (BreaksLength limit) where
  takes := by
    intro bytes rest
    constructor
    · rintro ⟨count, done⟩
      obtain ⟨within, rfl⟩ := length_eq_ok_iff.mp done
      exact ⟨ofNat 4 count, rfl, count, within, (List.append_nil _).symm⟩
    · rintro ⟨_, rfl, count, within, rfl⟩
      exact ⟨count, length_eq_ok_iff.mpr ⟨within, by rw [List.append_nil]⟩⟩
  fails := fun _ _ => length_eq_error_iff

theorem variant_recognizes (enumeration : Enumeration) :
    Recognizes (Decoder.variant enumeration)
      (fun bytes => bytes.length = enumeration.scalar.width ∧
        ∃ found, enumeration.ofRepr? (enumeration.scalar.decode bytes) = some found)
      (fun bytes failure => RunsOut enumeration.scalar.width bytes failure ∨
        ∃ stored rest, bytes = stored ++ rest ∧ stored.length = enumeration.scalar.width ∧
          enumeration.ofRepr? (enumeration.scalar.decode stored) = none ∧
          failure = enumeration.unknown (enumeration.scalar.decode stored)) where
  takes := by
    intro bytes rest
    constructor
    · rintro ⟨value, done⟩
      obtain ⟨stored, between, taken, accepted⟩ := andThen_eq_ok_iff.mp done
      obtain ⟨size, rfl⟩ := bytes_eq_ok_iff.mp taken
      obtain ⟨known, rfl⟩ := ofOption_eq_ok_iff.mp accepted
      exact ⟨stored, rfl, size, value, known⟩
    · rintro ⟨front, rfl, size, value, known⟩
      exact ⟨value, andThen_eq_ok_iff.mpr
        ⟨front, rest, bytes_eq_ok_iff.mpr ⟨size, rfl⟩, ofOption_eq_ok_iff.mpr ⟨known, rfl⟩⟩⟩
  fails := by
    intro bytes failure
    refine andThen_eq_error_iff.trans (or_congr bytes_eq_error_iff ?_)
    constructor
    · rintro ⟨stored, between, taken, refused⟩
      obtain ⟨size, rfl⟩ := bytes_eq_ok_iff.mp taken
      obtain ⟨unknown, reason⟩ := ofOption_eq_error_iff.mp refused
      exact ⟨stored, between, rfl, size, unknown, reason⟩
    · rintro ⟨front, rest, rfl, size, unknown, reason⟩
      exact ⟨front, rest, bytes_eq_ok_iff.mpr ⟨size, rfl⟩,
        ofOption_eq_error_iff.mpr ⟨unknown, reason⟩⟩

theorem fail_recognizes (failure : Failure) :
    Recognizes (fail failure : Decoder α) (fun _ => False) (fun _ reason => reason = failure) where
  takes := by
    intro bytes rest
    simp [fail]
  fails := by
    intro bytes reason
    simp [fail, eq_comm]

end Decoder

open Decoder

/-- Decoding along a layout is reading its stored form. -/
theorem Layout.decode_recognizes (limits : Limits) (layout : Layout) :
    Recognizes (layout.decode limits) (layout.IsStored limits) (layout.Violates limits) := by
  induction layout with
  | unit => exact succeed_recognizes ()
  | scalar kind => exact (bytes_recognizes kind.width).map _
  | bool => exact (bytes_recognizes 1).map _
  | text => exact (payload_recognizes limits.text).map _
  | smallText capacity => exact (payload_recognizes limits.text).map _
  | array item length ih => exact fixed_recognizes ih length
  | list item ih =>
      exact recognizes_afterLength limits.collection fun count => times_recognizes ih count
  | deque item ih =>
      exact (recognizes_afterLength limits.collection fun count =>
        times_recognizes ih count).map Deque.ofList

namespace Step

theorem decodePresent_recognizes (limits : Limits) (step : Step) :
    Recognizes (step.decodePresent limits) (step.IsStoredPresent limits)
      (step.ViolatesPresent limits) := by
  cases step with
  | value layout => exact (layout.decode_recognizes limits).map _
  | field layout gate => exact (layout.decode_recognizes limits).map _
  | block layout plain => exact (layout.decode_recognizes limits).map _
  | blocks item plain => exact ((Layout.list item).decode_recognizes limits).map _
  | units => exact (units_recognizes limits.collection).map _
  | bytes length => exact (take_recognizes length).map _
  | bytesField length gate => exact (take_recognizes length).map _
  | variant enumeration => exact (variant_recognizes enumeration).map _
  | lend text => exact succeed_recognizes _
  | marker expected => exact (payload_recognizes limits.text).map _
  | expect expected => exact (payload_recognizes limits.text).map _
  | invalidate reason => exact fail_recognizes _
  | abandon reason => exact succeed_recognizes _

theorem decode_recognizes (version : UInt32) (limits : Limits) (step : Step) :
    Recognizes (step.decode version limits) (step.IsStored version limits)
      (step.Violates version limits) := by
  cases present : step.isPresent version with
  | true =>
      have form := step.decodePresent_recognizes limits
      unfold decode IsStored Violates
      rw [present]
      exact form.congr (fun bytes => Iff.rfl) (fun bytes failure => by simp)
  | false =>
      unfold decode IsStored Violates
      rw [present]
      exact (succeed_recognizes _).congr (fun bytes => Iff.rfl) (fun bytes failure => by simp)

end Step

/-- Decoding a routine is reading its stored form. -/
theorem Routine.decode_recognizes (version : UInt32) (limits : Limits) (routine : Routine) :
    Recognizes (routine.decode version limits) (routine.IsStored version limits)
      (routine.Violates version limits) := by
  induction routine with
  | nil => exact succeed_recognizes _
  | cons step steps ih =>
      exact (step.decode_recognizes version limits).andThen fun first => ih.map _

end Snapshot
