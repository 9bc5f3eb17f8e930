import Snapshot.Proofs.Presence

/-!
# Decoding

The reference for reading.  A decoder walks over a byte string from left to right; it
yields a value and the bytes after it, or stops at the first violation.  A decoder
knows neither streams nor sessions, and reads nothing in chunks.
-/

namespace Snapshot

namespace Fixed

variable {α β : Type} {length : Nat}

def empty : Fixed α 0 :=
  ⟨[], rfl⟩

/-- A further item in front. -/
def cons (first : α) (rest : Fixed α length) : Fixed α (length + 1) :=
  ⟨first :: rest.items, congrArg (· + 1) rest.length_eq⟩

def map (change : α → β) (items : Fixed α length) : Fixed β length :=
  ⟨items.items.map change, by rw [List.length_map, items.length_eq]⟩

@[simp] theorem items_cons (first : α) (rest : Fixed α length) :
    (cons first rest).items = first :: rest.items :=
  rfl

theorem exists_ofList? {items : List α} (same : items.length = length) :
    ∃ fixed : Fixed α length, ofList? length items = some fixed := by
  exact ⟨⟨items, same⟩, by rw [ofList?, dif_pos same]⟩

end Fixed

/-- The failure of reading a number that stands for no variant. -/
def Enumeration.unknown (enumeration : Enumeration) (number : enumeration.scalar.Value) :
    Failure :=
  .invalidEnum enumeration.name (toString (enumeration.kind.toInt number))

/-- Takes a value off the front of a byte string, or tells what is wrong there. -/
abbrev Decoder (α : Type) : Type :=
  Bytes → Except Failure (α × Bytes)

namespace Decoder

variable {α β γ : Type}

/-- Yields a value and takes nothing. -/
def succeed (value : α) : Decoder α :=
  fun bytes => .ok (value, bytes)

def fail (failure : Failure) : Decoder α :=
  fun _ => .error failure

/-- The value, if there is one. -/
def ofOption (failure : Failure) : Option α → Decoder α
  | some value => succeed value
  | none => fail failure

/-- One decoder after another, the second chosen by the value of the first. -/
def andThen (first : Decoder α) (next : α → Decoder β) : Decoder β :=
  fun bytes =>
    match first bytes with
    | .ok (value, rest) => next value rest
    | .error failure => .error failure

def map (change : α → β) (decoder : Decoder α) : Decoder β :=
  decoder.andThen fun value => succeed (change value)

theorem ofOption_eq_ok_iff {failure : Failure} {found : Option α} {bytes rest : Bytes}
    {value : α} :
    ofOption failure found bytes = .ok (value, rest) ↔ found = some value ∧ bytes = rest := by
  cases found with
  | none => simp [ofOption, fail]
  | some found => simp [ofOption, succeed]

theorem ofOption_eq_error_iff {failure reason : Failure} {found : Option α} {bytes : Bytes} :
    ofOption failure found bytes = .error reason ↔ found = none ∧ reason = failure := by
  cases found with
  | none => simp [ofOption, fail, eq_comm]
  | some found => simp [ofOption, succeed]

theorem andThen_eq_ok_iff {first : Decoder α} {next : α → Decoder β} {bytes rest : Bytes}
    {value : β} :
    first.andThen next bytes = .ok (value, rest) ↔
      ∃ middle between, first bytes = .ok (middle, between) ∧
        next middle between = .ok (value, rest) := by
  unfold andThen
  cases first bytes with
  | ok result =>
      obtain ⟨middle, between⟩ := result
      constructor
      · intro done
        exact ⟨middle, between, rfl, done⟩
      · rintro ⟨_, _, same, done⟩
        cases same
        exact done
  | error failure =>
      constructor
      · intro done
        cases done
      · rintro ⟨_, _, same, _⟩
        cases same

theorem andThen_eq_error_iff {first : Decoder α} {next : α → Decoder β} {bytes : Bytes}
    {failure : Failure} :
    first.andThen next bytes = .error failure ↔
      first bytes = .error failure ∨
        ∃ middle between, first bytes = .ok (middle, between) ∧
          next middle between = .error failure := by
  unfold andThen
  cases first bytes with
  | ok result =>
      obtain ⟨middle, between⟩ := result
      constructor
      · intro failed
        exact Or.inr ⟨middle, between, rfl, failed⟩
      · rintro (failed | ⟨_, _, same, failed⟩)
        · cases failed
        · cases same
          exact failed
  | error first =>
      constructor
      · intro failed
        cases failed
        exact Or.inl rfl
      · rintro (failed | ⟨_, _, same, _⟩)
        · cases failed
          rfl
        · cases same

theorem andThen_of_ok {first : Decoder α} {next : α → Decoder β} {bytes rest : Bytes}
    {value : α} (done : first bytes = .ok (value, rest)) :
    first.andThen next bytes = next value rest := by
  rw [andThen, done]

theorem andThen_of_error {first : Decoder α} {next : α → Decoder β} {bytes : Bytes}
    {failure : Failure} (failed : first bytes = .error failure) :
    first.andThen next bytes = .error failure := by
  rw [andThen, failed]

theorem map_of_ok {change : α → β} {decoder : Decoder α} {bytes rest : Bytes} {value : α}
    (done : decoder bytes = .ok (value, rest)) :
    decoder.map change bytes = .ok (change value, rest) :=
  andThen_of_ok done

theorem andThen_assoc (first : Decoder α) (second : α → Decoder β) (third : β → Decoder γ) :
    (first.andThen second).andThen third =
      first.andThen fun value => (second value).andThen third := by
  funext bytes
  simp only [andThen]
  cases first bytes with
  | ok result => rfl
  | error failure => rfl

theorem map_eq_ok_iff {change : α → β} {decoder : Decoder α} {bytes rest : Bytes} {value : β} :
    decoder.map change bytes = .ok (value, rest) ↔
      ∃ source, decoder bytes = .ok (source, rest) ∧ change source = value := by
  rw [map, andThen_eq_ok_iff]
  constructor
  · rintro ⟨source, between, done, same⟩
    cases same
    exact ⟨source, done, rfl⟩
  · rintro ⟨source, done, rfl⟩
    exact ⟨source, rest, done, rfl⟩

@[simp] theorem map_eq_error_iff {change : α → β} {decoder : Decoder α} {bytes : Bytes}
    {failure : Failure} :
    decoder.map change bytes = .error failure ↔ decoder bytes = .error failure := by
  rw [map, andThen_eq_error_iff]
  constructor
  · rintro (failed | ⟨_, _, _, failed⟩)
    · exact failed
    · cases failed
  · exact Or.inl

/-- The next `count` bytes. -/
def take (count : Nat) : Decoder (Fixed UInt8 count) :=
  fun bytes =>
    if enough : count ≤ bytes.length then
      .ok (⟨bytes.take count, by rw [List.length_take, Nat.min_eq_left enough]⟩,
        bytes.drop count)
    else
      .error (.stream .unexpectedEnd)

/-- The next `count` bytes as a byte string. -/
def bytes (count : Nat) : Decoder Bytes :=
  (take count).map Fixed.items

/-- A length, unless it exceeds the limit. -/
def within (limit : UInt32) (count : Nat) : Decoder Nat :=
  if limit.toNat < count then fail (.lengthLimit count limit.toNat) else succeed count

/-- A length of four bytes, refused where it exceeds the limit. -/
def length (limit : UInt32) : Decoder Nat :=
  (bytes 4).andThen fun stored => within limit (Bytes.toNat stored)

/-- A length and as many bytes. -/
def payload (limit : UInt32) : Decoder Bytes :=
  (length limit).andThen bytes

/-- As many items as a sequence of fixed length has. -/
def fixed (item : Decoder α) : (count : Nat) → Decoder (Fixed α count)
  | 0 => succeed .empty
  | count + 1 => item.andThen fun first => (fixed item count).map (.cons first)

/-- A list of `count` items. -/
def times (item : Decoder α) (count : Nat) : Decoder (List α) :=
  (fixed item count).map Fixed.items

/-- A number that stands for a variant. -/
def variant (enumeration : Enumeration) : Decoder enumeration.Variant :=
  (bytes enumeration.scalar.width).andThen fun stored =>
    ofOption (enumeration.unknown (enumeration.scalar.decode stored))
      (enumeration.ofRepr? (enumeration.scalar.decode stored))

/-! ## Laws -/

@[simp] theorem succeed_andThen (value : α) (next : α → Decoder β) :
    (succeed value).andThen next = next value :=
  rfl

@[simp] theorem map_succeed (change : α → β) (value : α) :
    (succeed value).map change = succeed (change value) :=
  rfl

theorem map_andThen (decoder : Decoder α) (change : α → β) (next : β → Decoder γ) :
    (decoder.map change).andThen next = decoder.andThen fun value => next (change value) := by
  rw [map, andThen_assoc]
  rfl

theorem andThen_map (decoder : Decoder α) (next : α → Decoder β) (change : β → γ) :
    (decoder.andThen next).map change = decoder.andThen fun value => (next value).map change := by
  rw [map, andThen_assoc]
  rfl

theorem map_map (decoder : Decoder α) (first : α → β) (second : β → γ) :
    (decoder.map first).map second = decoder.map fun value => second (first value) := by
  rw [map, map_andThen]
  rfl

theorem map_id (decoder : Decoder α) : (decoder.map fun value => value) = decoder := by
  funext bytes
  rw [map, andThen]
  cases decoder bytes with
  | ok result => rfl
  | error failure => rfl

theorem bytes_eq (count : Nat) (input : Bytes) :
    bytes count input =
      if count ≤ input.length then .ok (input.take count, input.drop count)
      else .error (.stream .unexpectedEnd) := by
  rw [bytes, map, andThen, take]
  by_cases enough : count ≤ input.length
  · rw [dif_pos enough, if_pos enough]
    rfl
  · rw [dif_neg enough, if_neg enough]

theorem bytes_of_le {count : Nat} {input : Bytes} (enough : count ≤ input.length) :
    bytes count input = .ok (input.take count, input.drop count) := by
  rw [bytes_eq, if_pos enough]

theorem bytes_of_lt {count : Nat} {input : Bytes} (short : input.length < count) :
    bytes count input = .error (.stream .unexpectedEnd) := by
  rw [bytes_eq, if_neg (Nat.not_le_of_lt short)]

/-- Decoders for any number of parts, where decoding some parts and then some more is
decoding all of them. -/
structure IsAdditive (pieces : Nat → Decoder (List α)) : Prop where
  zero : pieces 0 = succeed []
  add : ∀ first second,
    pieces (first + second) =
      (pieces first).andThen fun front => (pieces second).map (front ++ ·)

theorem bytes_isAdditive : IsAdditive bytes where
  zero := by
    funext input
    rw [bytes_of_le (Nat.zero_le _)]
    rfl
  add := by
    intro first second
    funext input
    by_cases enough : first ≤ input.length
    · rw [andThen_of_ok (bytes_of_le enough)]
      by_cases whole : second ≤ (input.drop first).length
      · rw [map_of_ok (bytes_of_le whole), bytes_of_le (by rw [List.length_drop] at whole; omega),
          List.take_add, List.drop_drop]
      · have short := Nat.lt_of_not_le whole
        have failed := bytes_of_lt short
        rw [map_eq_error_iff.mpr failed, bytes_of_lt (by rw [List.length_drop] at short; omega)]
    · have short := Nat.lt_of_not_le enough
      rw [andThen_of_error (bytes_of_lt short), bytes_of_lt (by omega)]

theorem map_injective {change : α → β} (injective : ∀ {first second}, change first = change second →
    first = second) {first second : Decoder α} (same : first.map change = second.map change) :
    first = second := by
  funext input
  have outcome := congrFun same input
  simp only [map, andThen] at outcome
  cases left : first input with
  | ok taken =>
      cases right : second input with
      | ok found =>
          simp only [left, right, succeed, Except.ok.injEq, Prod.mk.injEq] at outcome
          rw [Prod.ext (injective outcome.1) outcome.2]
      | error failure => simp [left, right, succeed] at outcome
  | error failure =>
      cases right : second input with
      | ok found => simp [left, right, succeed] at outcome
      | error reason =>
          simp only [left, right, Except.error.injEq] at outcome
          rw [outcome]

theorem bytes_andThen_congr {count : Nat} {first second : Bytes → Decoder α}
    (same : ∀ stored : Bytes, stored.length = count → first stored = second stored) :
    (bytes count).andThen first = (bytes count).andThen second := by
  funext input
  by_cases enough : count ≤ input.length
  · have whole : (input.take count).length = count := by simp [enough]
    rw [andThen_of_ok (bytes_of_le enough), andThen_of_ok (bytes_of_le enough), same _ whole]
  · have short := bytes_of_lt (Nat.lt_of_not_le enough)
    rw [andThen_of_error short, andThen_of_error short]

theorem times_zero (item : Decoder α) : times item 0 = succeed [] :=
  rfl

theorem times_succ (item : Decoder α) (count : Nat) :
    times item (count + 1) = item.andThen fun first => (times item count).map (first :: ·) := by
  simp only [times, fixed, andThen_map, map_map, Fixed.items_cons]

theorem times_isAdditive (item : Decoder α) : IsAdditive (times item) where
  zero := rfl
  add := by
    intro first second
    induction first with
    | zero => rw [Nat.zero_add, times_zero, succeed_andThen]; exact (map_id _).symm
    | succ first ih =>
        rw [Nat.succ_add, times_succ, ih, times_succ, andThen_assoc]
        simp only [andThen_map, map_andThen, map_map, List.cons_append]

/-- Items of one size are decoded like one block. -/
theorem times_bytes (size : Nat) (ofItem : Bytes → α) (count : Nat) :
    times ((bytes size).map ofItem) count =
      (bytes (count * size)).map fun stored => (Bytes.groups size count stored).map ofItem := by
  induction count with
  | zero =>
      rw [Nat.zero_mul, bytes_isAdditive.zero, times_zero]
      rfl
  | succ count ih =>
      rw [times_succ, ih, Nat.succ_mul, Nat.add_comm (count * size), bytes_isAdditive.add,
        andThen_map, map_andThen]
      apply bytes_andThen_congr
      rintro stored rfl
      simp only [map_map, Bytes.groups_succ, List.map_cons, List.take_left, List.drop_left]

end Decoder

open Decoder in
/-- The value that the front of a byte string stores. -/
def Layout.decode (limits : Limits) : (layout : Layout) → Decoder layout.Value
  | .unit => succeed ()
  | .scalar kind => (bytes kind.width).map kind.decode
  | .bool => (bytes 1).map fun stored => stored.headD 0 != 0
  | .text => (payload limits.text).map fun stored => Utf8.decodeLossy (Bytes.beforeZero stored)
  | .smallText capacity => (payload limits.text).map (SmallText.ofBytes capacity)
  | .array item length => fixed (decode limits item) length
  | .list item => (length limits.collection).andThen (times (decode limits item))
  | .deque item =>
      ((length limits.collection).andThen (times (decode limits item))).map Deque.ofList

namespace Layout

open Decoder in
/-- The value of a plain layout is stored in one block. -/
theorem decode_of_isPlain {layout : Layout} (plain : layout.isPlain = true) (limits : Limits) :
    layout.decode limits = (bytes layout.size).map layout.ofBlock := by
  induction layout with
  | unit =>
      rw [size, bytes_isAdditive.zero]
      rfl
  | scalar kind => rfl
  | array item length ih =>
      apply map_injective Fixed.ext
      rw [map_map]
      have items := times_bytes item.size item.ofBlock length
      rw [← ih plain] at items
      exact items
  | bool => cases plain
  | text => cases plain
  | smallText capacity => cases plain
  | list item => cases plain
  | deque item => cases plain

theorem length_flatMap_encode {item : Layout} (size : ∀ value, (item.encode value).length = item.size)
    (values : List item.Value) :
    (values.flatMap item.encode).length = values.length * item.size := by
  induction values with
  | nil => simp
  | cons value values ih =>
      rw [List.flatMap_cons, List.length_append, size, ih, List.length_cons, Nat.succ_mul,
        Nat.add_comm]

theorem length_encode_of_isPlain {layout : Layout} (plain : layout.isPlain = true)
    (value : layout.Value) : (layout.encode value).length = layout.size := by
  induction layout with
  | unit => rfl
  | scalar kind => exact kind.length_encode value
  | array item length ih =>
      have whole := length_flatMap_encode (ih plain) value.items
      rw [value.length_eq] at whole
      exact whole
  | bool => cases plain
  | text => cases plain
  | smallText capacity => cases plain
  | list item => cases plain
  | deque item => cases plain

end Layout

namespace Step

/-- The steps that transfer the same bytes in both modes, with markers that can be read
back and defaults of the right length. -/
def IsSymmetric : Step → Prop
  | .bytesField length gate => gate.default.length = length
  | .marker expected => expected.utf8ByteSize ≤ markerCapacity
  | .expect expected => expected.utf8ByteSize ≤ markerCapacity
  | .lend _ => False
  | .invalidate _ => False
  | .abandon _ => False
  | _ => True

open Decoder in
/-- What a present step stores: whether it is accepted, which only a marker may not be,
and the value. -/
def decodePresent (limits : Limits) : (step : Step) → Decoder (Bool × step.Value)
  | .value layout => (layout.decode limits).map (true, ·)
  | .field layout _ => (layout.decode limits).map (true, ·)
  | .block layout _ => (layout.decode limits).map (true, ·)
  | .blocks item _ => ((Layout.list item).decode limits).map (true, ·)
  | .units => (length limits.collection).map (true, ·)
  | .bytes length => (take length).map (true, ·)
  | .bytesField length _ => (take length).map (true, ·)
  | .variant enumeration => (Decoder.variant enumeration).map (true, ·)
  | .marker expected =>
      (payload limits.text).map fun stored =>
        ((SmallText.ofBytes markerCapacity stored).text = expected, ())
  | .expect expected =>
      (payload limits.text).map fun stored =>
        ((SmallText.ofBytes markerCapacity stored).text = expected, ())
  | .lend _ => succeed (false, ())
  | .invalidate reason => fail (.invalid reason)
  | .abandon _ => succeed (false, ())

/-- What a step stores in state of the given version.  An absent step stores nothing
and has its default. -/
def decode (version : UInt32) (limits : Limits) (step : Step) : Decoder (Bool × step.Value) :=
  if step.isPresent version then
    step.decodePresent limits
  else
    .succeed (true, step.absentValue step.blank)

end Step

open Decoder in
/-- What the steps of a routine store, one after another. -/
def Routine.decode (version : UInt32) (limits : Limits) :
    (routine : Routine) → Decoder (List Bool × routine.Values)
  | [] => succeed ([], ())
  | step :: steps =>
      (step.decode version limits).andThen fun first =>
        (decode version limits steps).map fun rest =>
          (first.1 :: rest.1, (first.2, rest.2))

end Snapshot
