import Snapshot.Proofs.VersionGates

/-!
# Normal values

Decoding normalises.  Whatever the bytes are, a decoded text has no null character, a small
text and the number of items of a collection are within the limits, and a queue is in one
piece.  A normal value is what it is after it was saved and restored.  Only its texts may be
beyond the limits, because a replacement character can take up more bytes than the
ill-formed part that it stands for.  Numbers and sequences of numbers are decoded without
loss: their encoding is what was decoded.
-/

namespace Snapshot

open Decoder

namespace Utf8

theorem zero_not_mem_beforeZero (bytes : Bytes) : (0 : UInt8) ∉ Bytes.beforeZero bytes := by
  intro member
  have nonzero := List.all_eq_true.mp List.all_takeWhile 0 member
  simp at nonzero

/-- A byte string without zero bytes does not start with a null character. -/
theorem leading?_ne_null {bytes : Bytes} (nonzero : (0 : UInt8) ∉ bytes) {char : Char}
    (found : leading? bytes = some char) : char ≠ '\x00' := by
  rintro rfl
  rw [eq_of_leading? found, encodeChar_null] at nonzero
  exact nonzero List.mem_cons_self

theorem first_ne_null {bytes : Bytes} (nonzero : (0 : UInt8) ∉ bytes) :
    (first bytes).1 ≠ '\x00' := by
  unfold first
  split
  · next char found => exact leading?_ne_null nonzero found
  · show '\uFFFD' ≠ '\x00'
    decide

theorem zero_not_mem_first {bytes : Bytes} (nonzero : (0 : UInt8) ∉ bytes) :
    (0 : UInt8) ∉ (first bytes).2 := by
  unfold first
  split
  · exact fun member => nonzero (List.mem_of_mem_drop member)
  · exact fun member => nonzero (List.mem_of_mem_drop member)

/-- Null characters come from zero bytes only. -/
theorem null_not_mem_decodeLossy {bytes : Bytes} (nonzero : (0 : UInt8) ∉ bytes) :
    '\x00' ∉ (decodeLossy bytes).toList := by
  induction size : bytes.length using Nat.strongRecOn generalizing bytes with
  | ind size ih =>
      subst size
      by_cases nonempty : bytes = []
      · subst nonempty
        simp
      · have rest := ih _ (length_first_lt nonempty) (zero_not_mem_first nonzero) rfl
        rw [decodeLossy_of_ne_nil nonempty]
        simpa using ⟨(first_ne_null nonzero).symm, rest⟩

theorem beforeNull_of_not_mem {text : String} (absent : '\x00' ∉ text.toList) :
    beforeNull text = text := by
  have other : ∀ char ∈ text.toList, (char != '\x00') = true := by
    intro char member
    have present : char ≠ '\x00' := fun null => absent (null ▸ member)
    simpa using present
  have whole : (text.toList ++ []).takeWhile (· != '\x00') = text.toList ++ [] :=
    List.takeWhile_append_of_pos other
  rw [List.append_nil] at whole
  rw [beforeNull, whole, String.ofList_toList]

end Utf8

/-! ## What decoders yield -/

namespace Decoder

variable {α β : Type} {decoder : Decoder α} {normal : α → Prop} {stored : α → Bytes}

/-- All values of the decoder are normal. -/
structure Yields (decoder : Decoder α) (normal : α → Prop) : Prop where
  of_ok : ∀ {bytes rest : Bytes} {value : α}, decoder bytes = .ok (value, rest) → normal value

/-- The decoder takes exactly the stored form of the value that it yields. -/
structure Restates (decoder : Decoder α) (stored : α → Bytes) : Prop where
  of_ok : ∀ {bytes rest : Bytes} {value : α}, decoder bytes = .ok (value, rest) →
    bytes = stored value ++ rest

theorem Yields.andThen (yields : decoder.Yields normal) {next : α → Decoder β}
    {normal' : β → Prop} (follows : ∀ value, normal value → (next value).Yields normal') :
    (decoder.andThen next).Yields normal' := by
  constructor
  intro bytes rest value done
  obtain ⟨middle, between, taken, finished⟩ := andThen_eq_ok_iff.mp done
  exact (follows middle (yields.of_ok taken)).of_ok finished

theorem Yields.map (yields : decoder.Yields normal) {change : α → β} {normal' : β → Prop}
    (changes : ∀ value, normal value → normal' (change value)) :
    (decoder.map change).Yields normal' := by
  constructor
  intro bytes rest value done
  obtain ⟨source, taken, rfl⟩ := map_eq_ok_iff.mp done
  exact changes source (yields.of_ok taken)

theorem length_yields (limit : UInt32) : (length limit).Yields (· ≤ limit.toNat) :=
  ⟨fun done => (length_eq_ok_iff.mp done).1⟩

theorem payload_yields (limit : UInt32) :
    (payload limit).Yields fun bytes => bytes.length ≤ limit.toNat := by
  refine (length_yields limit).andThen fun count within => ⟨fun done => ?_⟩
  rw [(bytes_eq_ok_iff.mp done).1]
  exact within

theorem fixed_yields (yields : decoder.Yields normal) (count : Nat) :
    (fixed decoder count).Yields fun values => ∀ value ∈ values.items, normal value := by
  induction count with
  | zero =>
      constructor
      intro bytes rest values done
      cases done
      exact fun value member => absurd member List.not_mem_nil
  | succ count ih =>
      refine yields.andThen fun first known => ih.map fun rest others => ?_
      exact List.forall_mem_cons.mpr ⟨known, others⟩

theorem times_yields (yields : decoder.Yields normal) (count : Nat) :
    (times decoder count).Yields fun values =>
      values.length = count ∧ ∀ value ∈ values, normal value :=
  (fixed_yields yields count).map fun values each => ⟨values.length_eq, each⟩

theorem counted_yields (limit : UInt32) (yields : decoder.Yields normal) :
    ((length limit).andThen (times decoder)).Yields fun values =>
      values.length ≤ limit.toNat ∧ ∀ value ∈ values, normal value := by
  refine (length_yields limit).andThen fun count within => ⟨fun done => ?_⟩
  obtain ⟨rfl, each⟩ := (times_yields yields count).of_ok done
  exact ⟨within, each⟩

theorem take_restates (count : Nat) : (take count).Restates Fixed.items :=
  ⟨take_eq_ok_iff.mp⟩

theorem length_restates (limit : UInt32) : (length limit).Restates (Bytes.ofNat 4) :=
  ⟨fun done => (length_eq_ok_iff.mp done).2⟩

theorem Restates.map (restates : decoder.Restates stored) {change : α → β} {stored' : β → Bytes}
    (same : ∀ value, stored' (change value) = stored value) :
    (decoder.map change).Restates stored' := by
  constructor
  intro bytes rest value done
  obtain ⟨source, taken, rfl⟩ := map_eq_ok_iff.mp done
  rw [restates.of_ok taken, same]

theorem fixed_restates (restates : decoder.Restates stored) (count : Nat) :
    (fixed decoder count).Restates fun values => values.items.flatMap stored := by
  induction count with
  | zero =>
      constructor
      intro bytes rest values done
      cases done
      rfl
  | succ count ih =>
      constructor
      intro bytes rest values done
      obtain ⟨first, between, taken, finished⟩ := andThen_eq_ok_iff.mp done
      obtain ⟨others, last, rfl⟩ := map_eq_ok_iff.mp finished
      rw [restates.of_ok taken, ih.of_ok last, ← List.append_assoc, Fixed.items_cons,
        List.flatMap_cons]

theorem times_restates (restates : decoder.Restates stored) (count : Nat) :
    (times decoder count).Restates fun values => values.flatMap stored :=
  (fixed_restates restates count).map fun _ => rfl

/-- A list is restated with the number of its items in front. -/
theorem counted_restates (limit : UInt32) (restates : decoder.Restates stored) :
    ((length limit).andThen (times decoder)).Restates fun values =>
      Bytes.ofNat 4 values.length ++ values.flatMap stored := by
  constructor
  intro bytes rest values done
  obtain ⟨count, between, counted, finished⟩ := andThen_eq_ok_iff.mp done
  have anything : decoder.Yields fun _ => True := ⟨fun _ => trivial⟩
  obtain ⟨rfl, _⟩ := (times_yields anything count).of_ok finished
  rw [(length_restates limit).of_ok counted, (times_restates restates _).of_ok finished,
    List.append_assoc]

end Decoder

/-! ## Values -/

namespace Layout

/-- A value that decoding can yield. -/
def IsNormal (limits : Limits) : (layout : Layout) → layout.Value → Prop
  | .unit, _ => True
  | .scalar _, _ => True
  | .bool, _ => True
  | .text, value => '\x00' ∉ value.toList
  | .smallText _, value => value.text.utf8ByteSize ≤ limits.text.toNat
  | .array item _, values => ∀ value ∈ values.items, IsNormal limits item value
  | .list item, values =>
      values.length ≤ limits.collection.toNat ∧ ∀ value ∈ values, IsNormal limits item value
  | .deque item, queue =>
      queue.back = [] ∧ queue.front.length ≤ limits.collection.toNat ∧
        ∀ value ∈ queue.front, IsNormal limits item value

/-- Every text in the value, small texts apart, is within the limit. -/
def TextsFit (limits : Limits) : (layout : Layout) → layout.Value → Prop
  | .unit, _ => True
  | .scalar _, _ => True
  | .bool, _ => True
  | .text, value => value.utf8ByteSize ≤ limits.text.toNat
  | .smallText _, _ => True
  | .array item _, values => ∀ value ∈ values.items, TextsFit limits item value
  | .list item, values => ∀ value ∈ values, TextsFit limits item value
  | .deque item, queue => ∀ value ∈ queue.toList, TextsFit limits item value

/-- Numbers, and sequences of numbers of any length and nesting. -/
def isNumeric : Layout → Bool
  | .unit => true
  | .scalar _ => true
  | .bool => false
  | .text => false
  | .smallText _ => false
  | .array item _ => item.isNumeric
  | .list item => item.isNumeric
  | .deque item => item.isNumeric

theorem isNumeric_of_isPlain {layout : Layout} (plain : layout.isPlain = true) :
    layout.isNumeric = true := by
  induction layout with
  | unit => rfl
  | scalar kind => rfl
  | array item length ih => exact ih plain
  | bool => cases plain
  | text => cases plain
  | smallText capacity => cases plain
  | list item => cases plain
  | deque item => cases plain

theorem textsFit_of_isNumeric (limits : Limits) {layout : Layout}
    (numeric : layout.isNumeric = true) (value : layout.Value) : layout.TextsFit limits value := by
  induction layout with
  | unit => trivial
  | scalar kind => trivial
  | array item length ih => exact fun own _ => ih numeric own
  | list item ih => exact fun own _ => ih numeric own
  | deque item ih => exact fun own _ => ih numeric own
  | bool => cases numeric
  | text => cases numeric
  | smallText capacity => cases numeric

theorem smallText_isNormal {limit : UInt32} {stored : Bytes}
    (within : stored.length ≤ limit.toNat) (capacity : Nat) :
    (SmallText.ofBytes capacity stored).text.utf8ByteSize ≤ limit.toNat := by
  have shorter := (Utf8.encode_wellFormedPrefix (stored.take capacity)).length_le
  rw [Utf8.length_encode, List.length_take] at shorter
  exact Nat.le_trans (Nat.le_trans shorter (Nat.min_le_right _ _)) within

/-- Decoding yields normal values. -/
theorem decode_yields (limits : Limits) (layout : Layout) :
    (layout.decode limits).Yields (layout.IsNormal limits) := by
  induction layout with
  | unit => exact ⟨fun _ => trivial⟩
  | scalar kind => exact ⟨fun _ => trivial⟩
  | bool => exact ⟨fun _ => trivial⟩
  | text =>
      refine (payload_yields limits.text).map fun stored _ => ?_
      exact Utf8.null_not_mem_decodeLossy (Utf8.zero_not_mem_beforeZero stored)
  | smallText capacity =>
      exact (payload_yields limits.text).map fun stored within => smallText_isNormal within capacity
  | array item length ih => exact fixed_yields ih length
  | list item ih => exact counted_yields limits.collection ih
  | deque item ih => exact (counted_yields limits.collection ih).map fun _ normal => ⟨rfl, normal⟩

theorem map_restored_of_isNormal {limits : Limits} {item : Layout} {values : List item.Value}
    (same : ∀ value, item.IsNormal limits value → item.restored value = value)
    (normal : ∀ value ∈ values, item.IsNormal limits value) :
    values.map item.restored = values := by
  have each : values.map item.restored = values.map id :=
    List.map_congr_left fun value inside => same value (normal value inside)
  rw [each, List.map_id]

/-- A normal value is the same after it was saved and restored. -/
theorem restored_of_isNormal {limits : Limits} {layout : Layout} {value : layout.Value}
    (normal : layout.IsNormal limits value) : layout.restored value = value := by
  induction layout with
  | unit => rfl
  | scalar kind => rfl
  | bool => rfl
  | text => exact Utf8.beforeNull_of_not_mem normal
  | smallText capacity => rfl
  | array item length ih => exact Fixed.ext (map_restored_of_isNormal (fun _ => ih) normal)
  | list item ih => exact map_restored_of_isNormal (fun _ => ih) normal.2
  | deque item ih =>
      obtain ⟨front, back⟩ := value
      obtain ⟨rfl, _, each⟩ := normal
      have items := map_restored_of_isNormal (fun _ => ih) each
      simp only [restored, Deque.toList, List.append_nil, items]
      rfl

/-- Of a normal value only texts can be beyond the limits. -/
theorem fits_iff_of_isNormal {limits : Limits} {layout : Layout} {value : layout.Value}
    (normal : layout.IsNormal limits value) :
    layout.Fits limits value ↔ layout.TextsFit limits value := by
  induction layout with
  | unit => exact Iff.rfl
  | scalar kind => exact Iff.rfl
  | bool => exact Iff.rfl
  | text => exact Iff.rfl
  | smallText capacity => exact ⟨fun _ => trivial, fun _ => normal⟩
  | array item length ih =>
      exact forall_congr' fun value => forall_congr' fun inside => ih (normal value inside)
  | list item ih =>
      obtain ⟨small, each⟩ := normal
      have items := forall_congr' fun own => forall_congr' fun inside => ih (each own inside)
      exact ⟨fun fits => items.mp fits.2, fun fits => ⟨small, items.mpr fits⟩⟩
  | deque item ih =>
      obtain ⟨front, back⟩ := value
      obtain ⟨rfl, small, each⟩ := normal
      have items := forall_congr' fun own => forall_congr' fun inside => ih (each own inside)
      simp only [Fits, TextsFit, Deque.toList, Deque.size, List.append_nil, List.length_nil,
        Nat.add_zero]
      exact ⟨fun fits => items.mp fits.2, fun fits => ⟨small, items.mpr fits⟩⟩

/-- Numbers are decoded without loss. -/
theorem decode_restates (limits : Limits) {layout : Layout} (numeric : layout.isNumeric = true) :
    (layout.decode limits).Restates layout.encode := by
  induction layout with
  | unit =>
      constructor
      intro bytes rest value done
      cases done
      rfl
  | scalar kind =>
      constructor
      intro bytes rest value done
      obtain ⟨stored, taken, rfl⟩ := map_eq_ok_iff.mp done
      obtain ⟨size, rfl⟩ := bytes_eq_ok_iff.mp taken
      rw [encode, kind.encode_decode size]
  | array item length ih => exact fixed_restates (ih numeric) length
  | list item ih => exact counted_restates limits.collection (ih numeric)
  | deque item ih =>
      refine (counted_restates limits.collection (ih numeric)).map fun values => ?_
      rw [encode, Deque.toList_ofList]
      rfl
  | bool => cases numeric
  | text => cases numeric
  | smallText capacity => cases numeric

end Layout

/-! ## Steps and routines -/

namespace Step

/-- A value that decoding can yield where the step is accepted. -/
def IsNormal (limits : Limits) : (step : Step) → step.Value → Prop
  | .value layout, given => layout.IsNormal limits given
  | .field layout _, given => layout.IsNormal limits given
  | .blocks _ _, given => given.length ≤ limits.collection.toNat
  | .units, given => given ≤ limits.collection.toNat
  | .marker expected, _ => expected.utf8ByteSize ≤ limits.text.toNat
  | .expect expected, _ => expected.utf8ByteSize ≤ limits.text.toNat
  | _, _ => True

/-- Every text in the value, small texts apart, is within the limit. -/
def TextsFit (limits : Limits) : (step : Step) → step.Value → Prop
  | .value layout, given => layout.TextsFit limits given
  | .field layout _, given => layout.TextsFit limits given
  | _, _ => True

/-- The steps that transfer numbers, sequences of numbers, and bytes. -/
def isNumeric : Step → Bool
  | .value layout => layout.isNumeric
  | .field layout _ => layout.isNumeric
  | .block _ _ => true
  | .blocks _ _ => true
  | .units => true
  | .bytes _ => true
  | .bytesField _ _ => true
  | _ => false

variable {limits : Limits} {step : Step} {given : step.Value}

theorem marker_isNormal {limit : UInt32} {stored : Bytes} {expected : String}
    (within : stored.length ≤ limit.toNat)
    (same : (SmallText.ofBytes markerCapacity stored).text = expected) :
    expected.utf8ByteSize ≤ limit.toNat := by
  rw [← same]
  exact Layout.smallText_isNormal within markerCapacity

theorem decodePresent_yields (limits : Limits) (step : Step) :
    (step.decodePresent limits).Yields fun outcome =>
      outcome.1 = true → step.IsNormal limits outcome.2 := by
  cases step with
  | value layout => exact (layout.decode_yields limits).map fun value normal _ => normal
  | field layout gate => exact (layout.decode_yields limits).map fun value normal _ => normal
  | blocks item plain =>
      exact ((Layout.list item).decode_yields limits).map fun value normal _ => normal.1
  | units => exact (length_yields limits.collection).map fun count within _ => within
  | marker expected =>
      exact (payload_yields limits.text).map fun stored within same =>
        marker_isNormal within (of_decide_eq_true same)
  | expect expected =>
      exact (payload_yields limits.text).map fun stored within same =>
        marker_isNormal within (of_decide_eq_true same)
  | _ => exact ⟨fun _ _ => trivial⟩

theorem restored_of_isNormal (normal : step.IsNormal limits given) :
    step.restored given = given := by
  cases step with
  | value layout => exact Layout.restored_of_isNormal normal
  | field layout gate => exact Layout.restored_of_isNormal normal
  | _ => rfl

theorem fits_iff_of_isNormal (normal : step.IsNormal limits given) :
    step.Fits limits given ↔ step.TextsFit limits given := by
  cases step with
  | value layout => exact Layout.fits_iff_of_isNormal normal
  | field layout gate => exact Layout.fits_iff_of_isNormal normal
  | blocks item plain => exact ⟨fun _ => trivial, fun _ => normal⟩
  | units => exact ⟨fun _ => trivial, fun _ => normal⟩
  | marker expected => exact ⟨fun _ => trivial, fun _ => normal⟩
  | expect expected => exact ⟨fun _ => trivial, fun _ => normal⟩
  | _ => exact Iff.rfl

theorem textsFit_of_isNumeric (limits : Limits) {step : Step} (numeric : step.isNumeric = true)
    (given : step.Value) : step.TextsFit limits given := by
  cases step with
  | value layout => exact Layout.textsFit_of_isNumeric limits numeric given
  | field layout gate => exact Layout.textsFit_of_isNumeric limits numeric given
  | _ => trivial

theorem decodePresent_restates (limits : Limits) {step : Step} (numeric : step.isNumeric = true) :
    (step.decodePresent limits).Restates fun outcome => step.encode outcome.2 := by
  cases step with
  | value layout => exact (Layout.decode_restates limits numeric).map fun _ => rfl
  | field layout gate => exact (Layout.decode_restates limits numeric).map fun _ => rfl
  | block layout plain =>
      exact (Layout.decode_restates limits (Layout.isNumeric_of_isPlain plain)).map fun _ => rfl
  | blocks item plain =>
      have number : item.isNumeric = true := Layout.isNumeric_of_isPlain plain
      have numbers : (Layout.list item).isNumeric = true := number
      exact (Layout.decode_restates limits numbers).map fun _ => rfl
  | units => exact (length_restates limits.collection).map fun _ => rfl
  | bytes length => exact (take_restates length).map fun _ => rfl
  | bytesField length gate => exact (take_restates length).map fun _ => rfl
  | variant enumeration => cases numeric
  | lend text => cases numeric
  | marker expected => cases numeric
  | expect expected => cases numeric
  | invalidate reason => cases numeric
  | abandon reason => cases numeric

end Step

namespace Routine

/-- Values that decoding can yield where all steps are accepted. -/
def IsNormal (limits : Limits) : (routine : Routine) → routine.Values → Prop
  | [], _ => True
  | step :: steps, (given, rest) => step.IsNormal limits given ∧ IsNormal limits steps rest

/-- Every text in the values, small texts apart, is within the limit. -/
def TextsFit (limits : Limits) : (routine : Routine) → routine.Values → Prop
  | [], _ => True
  | step :: steps, (given, rest) => step.TextsFit limits given ∧ TextsFit limits steps rest

variable {version : UInt32} {limits : Limits} {routine : Routine} {given : routine.Values}

theorem decode_yields (introduced : ∀ step ∈ routine, step.isPresent version = true) :
    (routine.decode version limits).Yields fun outcome =>
      (∀ answer ∈ outcome.1, answer = true) → routine.IsNormal limits outcome.2 := by
  induction routine with
  | nil => exact ⟨fun _ _ => trivial⟩
  | cons step steps ih =>
      obtain ⟨present, others⟩ := List.forall_mem_cons.mp introduced
      have front := step.decodePresent_yields limits
      rw [decode, Step.decode, if_pos present]
      refine front.andThen fun first normal => (ih others).map fun rest later accepted => ?_
      obtain ⟨own, behind⟩ := List.forall_mem_cons.mp accepted
      exact ⟨normal own, later behind⟩

/-- Normal values are the same after they were saved and restored. -/
theorem restored_of_isNormal (introduced : ∀ step ∈ routine, step.isPresent version = true)
    (normal : routine.IsNormal limits given) : routine.restored version given = given := by
  induction routine with
  | nil => rfl
  | cons step steps ih =>
      obtain ⟨value, rest⟩ := given
      obtain ⟨present, others⟩ := List.forall_mem_cons.mp introduced
      rw [restored, if_pos present, Step.restored_of_isNormal normal.1, ih others normal.2]

/-- Of normal values only texts can be beyond the limits. -/
theorem fits_iff_of_isNormal (introduced : ∀ step ∈ routine, step.isPresent version = true)
    (normal : routine.IsNormal limits given) :
    routine.Fits version limits given ↔ routine.TextsFit limits given := by
  induction routine with
  | nil => exact Iff.rfl
  | cons step steps ih =>
      obtain ⟨value, rest⟩ := given
      obtain ⟨present, others⟩ := List.forall_mem_cons.mp introduced
      rw [Fits, TextsFit, ih others normal.2, ← Step.fits_iff_of_isNormal normal.1]
      exact and_congr_left fun _ => ⟨fun fits => fits present, fun fits _ => fits⟩

theorem textsFit_of_isNumeric (limits : Limits) (numeric : ∀ step ∈ routine, step.isNumeric = true)
    (given : routine.Values) : routine.TextsFit limits given := by
  induction routine with
  | nil => trivial
  | cons step steps ih =>
      obtain ⟨number, numbers⟩ := List.forall_mem_cons.mp numeric
      exact ⟨step.textsFit_of_isNumeric limits number given.1, ih numbers given.2⟩

/-- Numbers and bytes are decoded without loss. -/
theorem decode_restates (introduced : ∀ step ∈ routine, step.isPresent version = true)
    (numeric : ∀ step ∈ routine, step.isNumeric = true) :
    (routine.decode version limits).Restates fun outcome => routine.encode outcome.2 := by
  induction routine with
  | nil =>
      constructor
      intro bytes rest outcome done
      cases done
      rfl
  | cons step steps ih =>
      obtain ⟨present, others⟩ := List.forall_mem_cons.mp introduced
      obtain ⟨number, numbers⟩ := List.forall_mem_cons.mp numeric
      constructor
      intro bytes rest outcome done
      rw [decode, Step.decode, if_pos present] at done
      obtain ⟨first, between, taken, finished⟩ := andThen_eq_ok_iff.mp done
      obtain ⟨behind, last, rfl⟩ := map_eq_ok_iff.mp finished
      rw [(Step.decodePresent_restates limits number).of_ok taken, (ih others numbers).of_ok last,
        ← List.append_assoc]
      rfl

end Routine

end Snapshot
