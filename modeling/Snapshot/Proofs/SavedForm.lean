import Snapshot.Proofs.Decoder
import Snapshot.Proofs.Output
import Snapshot.Proofs.Presence
import Snapshot.Proofs.StoredText

/-!
# Decoding what was saved

In front of any further bytes, the decoder takes the saved form of a value off exactly,
and yields the value again up to what its type does not keep: a text ends before its
first null character, and a queue comes back in one piece.  The only obstacle is a
length beyond the reader's limits, and the first such length is the failure.
-/

namespace Snapshot

namespace Decoder

variable {α β γ : Type}

/-- The outcome of decoding a saved form, in which a length may exceed the limits. -/
def outcome (excess : Option Failure) (value : α) (rest : Bytes) : Except Failure (α × Bytes) :=
  match excess with
  | none => .ok (value, rest)
  | some failure => .error failure

/-- The failure of reading a length beyond the limit. -/
def exceeds? (limit : UInt32) (count : Nat) : Option Failure :=
  if limit.toNat < count then some (.lengthLimit count limit.toNat) else none

theorem exceeds?_eq_none_iff {limit : UInt32} {count : Nat} :
    exceeds? limit count = none ↔ count ≤ limit.toNat := by
  unfold exceeds?
  by_cases exceeds : limit.toNat < count
  · simp [exceeds, Nat.not_le_of_lt exceeds]
  · simp [exceeds, Nat.le_of_not_lt exceeds]

theorem andThen_eq_outcome {first : Decoder α} {next : α → Decoder β} {bytes between rest : Bytes}
    {early late : Option Failure} {value : α} {result : β}
    (front : first bytes = outcome early value between)
    (back : next value between = outcome late result rest) :
    first.andThen next bytes = outcome (early.or late) result rest := by
  cases early with
  | none => exact (andThen_of_ok front).trans back
  | some failure => exact andThen_of_error front

theorem map_eq_outcome {decoder : Decoder α} {bytes rest : Bytes} {excess : Option Failure}
    {value : α} (decoded : decoder bytes = outcome excess value rest) (change : α → β) :
    decoder.map change bytes = outcome excess (change value) rest := by
  cases excess with
  | none => exact map_of_ok decoded
  | some failure => exact map_eq_error_iff.mpr decoded

theorem bytes_append {count : Nat} {stored : Bytes} (size : stored.length = count)
    (rest : Bytes) : bytes count (stored ++ rest) = outcome none stored rest := by
  subst size
  rw [bytes_of_le (by simp), List.take_left, List.drop_left]
  rfl

theorem take_append {count : Nat} (stored : Fixed UInt8 count) (rest : Bytes) :
    take count (stored.items ++ rest) = outcome none stored rest := by
  have size := stored.length_eq
  rw [take, dif_pos (by simp [size])]
  refine congrArg Except.ok (Prod.ext (Fixed.ext ?_) ?_)
  · simp [← size]
  · simp [← size]

theorem length_append (limit : UInt32) {count : Nat} (small : count ≤ Limits.largestLength)
    (rest : Bytes) :
    length limit (Bytes.ofNat 4 count ++ rest) = outcome (exceeds? limit count) count rest := by
  have same : Bytes.toNat (Bytes.ofNat 4 count) = count :=
    Bytes.toNat_ofNat_of_lt (Nat.lt_succ_of_le small)
  rw [length, andThen_of_ok (bytes_append (Bytes.length_ofNat 4 count) rest), same, within, exceeds?]
  split
  · rfl
  · rfl

theorem payload_append (limit : UInt32) {stored : Bytes}
    (small : stored.length ≤ Limits.largestLength) (rest : Bytes) :
    payload limit (Bytes.ofNat 4 stored.length ++ (stored ++ rest)) =
      outcome (exceeds? limit stored.length) stored rest := by
  have whole := andThen_eq_outcome (length_append limit small (stored ++ rest))
    (bytes_append rfl rest)
  rw [Option.or_none] at whole
  exact whole

theorem text_append (limit : UInt32) {text : String}
    (small : text.utf8ByteSize ≤ Limits.largestLength) (rest : Bytes) :
    payload limit (Bytes.ofNat 4 text.utf8ByteSize ++ (Utf8.encode text ++ rest)) =
      outcome (exceeds? limit text.utf8ByteSize) (Utf8.encode text) rest := by
  rw [← Utf8.length_encode] at small
  have whole := payload_append limit small rest
  rw [Utf8.length_encode] at whole
  exact whole

theorem variant_append {enumeration : Enumeration} (faithful : enumeration.IsFaithful)
    (found : enumeration.Variant) (rest : Bytes) :
    variant enumeration (enumeration.scalar.encode (enumeration.toRepr found) ++ rest) =
      outcome none found rest := by
  have size := enumeration.scalar.length_encode (enumeration.toRepr found)
  have number : enumeration.scalar.decode
      (enumeration.scalar.encode (enumeration.toRepr found)) = enumeration.toRepr found :=
    enumeration.scalar.decode_encode _
  have known := (congrArg enumeration.ofRepr? number).trans (faithful found)
  rw [variant, andThen_of_ok (bytes_append size rest), known]
  rfl

/-- Item after item comes back, up to the first one with a length beyond the limits. -/
theorem times_append {item : Decoder β} {stored : α → Bytes} {excess : α → Option Failure}
    {restored : α → β} {values : List α}
    (each : ∀ value ∈ values, ∀ rest,
      item (stored value ++ rest) = outcome (excess value) (restored value) rest) (rest : Bytes) :
    times item values.length (values.flatMap stored ++ rest) =
      outcome (values.findSome? excess) (values.map restored) rest := by
  induction values with
  | nil => rfl
  | cons value values ih =>
      obtain ⟨first, later⟩ := List.forall_mem_cons.mp each
      have front := first (values.flatMap stored ++ rest)
      have back := map_eq_outcome (ih later) (restored value :: ·)
      have whole : (item.andThen fun first => (times item values.length).map (first :: ·))
          (stored value ++ (values.flatMap stored ++ rest)) = _ := andThen_eq_outcome front back
      rw [List.length_cons, times_succ, List.flatMap_cons, List.append_assoc, whole]
      cases failed : excess value with
      | none => simp [failed]
      | some failure => simp [failed, outcome]

/-- A list comes back with the number of its items in front. -/
theorem counted_append (limit : UInt32) {item : Decoder β} {stored : α → Bytes}
    {excess : α → Option Failure} {restored : α → β} {values : List α}
    (small : values.length ≤ Limits.largestLength)
    (each : ∀ value ∈ values, ∀ rest,
      item (stored value ++ rest) = outcome (excess value) (restored value) rest) (rest : Bytes) :
    (length limit).andThen (times item)
        (Bytes.ofNat 4 values.length ++ values.flatMap stored ++ rest) =
      outcome ((exceeds? limit values.length).or (values.findSome? excess))
        (values.map restored) rest := by
  have items := times_append each rest
  rw [List.append_assoc]
  exact andThen_eq_outcome (length_append limit small _) items

theorem fixed_append {count : Nat} {item : Decoder β} {stored : α → Bytes}
    {excess : α → Option Failure} {restored : α → β} (values : Fixed α count)
    (each : ∀ value ∈ values.items, ∀ rest,
      item (stored value ++ rest) = outcome (excess value) (restored value) rest) (rest : Bytes) :
    fixed item count (values.items.flatMap stored ++ rest) =
      outcome (values.items.findSome? excess) (values.map restored) rest := by
  have list := times_append each rest
  rw [values.length_eq, times] at list
  cases decoded : fixed item count (values.items.flatMap stored ++ rest) with
  | ok result =>
      obtain ⟨found, between⟩ := result
      rw [map_of_ok decoded] at list
      cases failed : values.items.findSome? excess with
      | none =>
          rw [failed] at list
          obtain ⟨same, rfl⟩ := Prod.mk.inj (Except.ok.inj list)
          exact congrArg (fun found => Except.ok (found, between)) (Fixed.ext same)
      | some failure =>
          rw [failed] at list
          cases list
  | error failure =>
      rw [map_eq_error_iff.mpr decoded] at list
      cases failed : values.items.findSome? excess with
      | none =>
          rw [failed] at list
          cases list
      | some first =>
          rw [failed] at list
          cases list
          rfl

/-- Items that come back whatever the limits. -/
theorem times_append_exact {item : Decoder α} {stored : α → Bytes} {values : List α}
    (each : ∀ value ∈ values, ∀ rest, item (stored value ++ rest) = outcome none value rest)
    (rest : Bytes) :
    times item values.length (values.flatMap stored ++ rest) = outcome none values rest := by
  have whole : times item values.length (values.flatMap stored ++ rest) =
      outcome (values.findSome? fun _ => none) (values.map id) rest := times_append each rest
  rw [List.map_id, List.findSome?_eq_none_iff.mpr fun _ _ => rfl] at whole
  exact whole

theorem fixed_append_exact {count : Nat} {item : Decoder α} {stored : α → Bytes}
    (values : Fixed α count)
    (each : ∀ value ∈ values.items, ∀ rest, item (stored value ++ rest) = outcome none value rest)
    (rest : Bytes) :
    fixed item count (values.items.flatMap stored ++ rest) = outcome none values rest := by
  have whole : fixed item count (values.items.flatMap stored ++ rest) =
      outcome (values.items.findSome? fun _ => none) (values.map id) rest :=
    fixed_append values each rest
  have same : values.map id = values := Fixed.ext (List.map_id values.items)
  rw [same, List.findSome?_eq_none_iff.mpr fun _ _ => rfl] at whole
  exact whole

end Decoder

open Decoder

namespace Layout

/-- Every length in the value is within the limits. -/
def Fits (limits : Limits) : (layout : Layout) → layout.Value → Prop
  | .unit, _ => True
  | .scalar _, _ => True
  | .bool, _ => True
  | .text, value => value.utf8ByteSize ≤ limits.text.toNat
  | .smallText _, value => value.text.utf8ByteSize ≤ limits.text.toNat
  | .array item _, values => ∀ value ∈ values.items, Fits limits item value
  | .list item, values =>
      values.length ≤ limits.collection.toNat ∧ ∀ value ∈ values, Fits limits item value
  | .deque item, queue =>
      queue.size ≤ limits.collection.toNat ∧ ∀ value ∈ queue.toList, Fits limits item value

/-- The failure of reading the first length that is not within the limits. -/
def excess? (limits : Limits) : (layout : Layout) → layout.Value → Option Failure
  | .unit, _ => none
  | .scalar _, _ => none
  | .bool, _ => none
  | .text, value => exceeds? limits.text value.utf8ByteSize
  | .smallText _, value => exceeds? limits.text value.text.utf8ByteSize
  | .array item _, values => values.items.findSome? (excess? limits item)
  | .list item, values =>
      (exceeds? limits.collection values.length).or (values.findSome? (excess? limits item))
  | .deque item, queue =>
      (exceeds? limits.collection queue.size).or (queue.toList.findSome? (excess? limits item))

/-- What a value is after it was saved and restored. -/
def restored : (layout : Layout) → layout.Value → layout.Value
  | .unit, value => value
  | .scalar _, value => value
  | .bool, value => value
  | .text, value => Utf8.beforeNull value
  | .smallText _, value => value
  | .array item _, values => values.map (restored item)
  | .list item, values => values.map (restored item)
  | .deque item, queue => .ofList (queue.toList.map (restored item))

theorem findSome?_eq_none_iff_forall {α : Type} {excess : α → Option Failure} {fits : α → Prop}
    (same : ∀ value, excess value = none ↔ fits value) (values : List α) :
    values.findSome? excess = none ↔ ∀ value ∈ values, fits value := by
  rw [List.findSome?_eq_none_iff]
  exact forall_congr' fun value => imp_congr_right fun _ => same value

theorem excess?_eq_none_iff {limits : Limits} {layout : Layout} {value : layout.Value} :
    layout.excess? limits value = none ↔ layout.Fits limits value := by
  induction layout with
  | unit => exact ⟨fun _ => trivial, fun _ => rfl⟩
  | scalar kind => exact ⟨fun _ => trivial, fun _ => rfl⟩
  | bool => exact ⟨fun _ => trivial, fun _ => rfl⟩
  | text => exact exceeds?_eq_none_iff
  | smallText capacity => exact exceeds?_eq_none_iff
  | array item length ih => exact findSome?_eq_none_iff_forall (fun _ => ih) value.items
  | list item ih =>
      rw [excess?, Option.or_eq_none_iff, exceeds?_eq_none_iff]
      exact and_congr_right fun _ => findSome?_eq_none_iff_forall (fun _ => ih) value
  | deque item ih =>
      rw [excess?, Option.or_eq_none_iff, exceeds?_eq_none_iff]
      exact and_congr_right fun _ => findSome?_eq_none_iff_forall (fun _ => ih) value.toList

theorem concat_flatMap_outputs {item : Layout} {values : List item.Value}
    (same : ∀ value ∈ values, Output.concat (item.outputs value) = item.encode value) :
    Output.concat (values.flatMap item.outputs) = values.flatMap item.encode := by
  rw [Output.concat_flatMap, List.flatMap_def, List.flatMap_def, List.map_congr_left same]

/-- Where every length can be expressed, saving puts out the encoding of the value. -/
theorem concat_outputs {layout : Layout} {value : layout.Value}
    (unrefused : Output.Unrefused (layout.outputs value)) :
    Output.concat (layout.outputs value) = layout.encode value := by
  induction layout with
  | unit => rfl
  | scalar kind => exact List.append_nil _
  | bool => rfl
  | text => exact Output.concat_text (Output.unrefused_text.mp unrefused)
  | smallText capacity => exact Output.concat_text (Output.unrefused_text.mp unrefused)
  | array item length ih =>
      have each := Output.unrefused_flatMap.mp unrefused
      exact concat_flatMap_outputs fun value inside => ih (each value inside)
  | list item ih =>
      obtain ⟨small, each⟩ := Output.unrefused_cons_length.mp unrefused
      have items := concat_flatMap_outputs fun value inside =>
        ih (Output.unrefused_flatMap.mp each value inside)
      rw [outputs, Output.concat_cons, Output.bytes_length small, items]
      rfl
  | deque item ih =>
      obtain ⟨small, each⟩ := Output.unrefused_cons_length.mp unrefused
      have items := concat_flatMap_outputs fun value inside =>
        ih (Output.unrefused_flatMap.mp each value inside)
      rw [outputs, Output.concat_cons, Output.bytes_length small, items]
      rfl

/-- The decoder takes off exactly the encoding of a value. -/
theorem decode_encode (limits : Limits) {layout : Layout} {value : layout.Value}
    (unrefused : Output.Unrefused (layout.outputs value)) (rest : Bytes) :
    layout.decode limits (layout.encode value ++ rest) =
      outcome (layout.excess? limits value) (layout.restored value) rest := by
  induction layout generalizing rest with
  | unit => rfl
  | scalar kind =>
      have stored := map_eq_outcome (bytes_append (kind.length_encode value) rest) kind.decode
      rw [kind.decode_encode] at stored
      exact stored
  | bool => cases value <;> rfl
  | text =>
      have small := Output.unrefused_text.mp unrefused
      have stored := map_eq_outcome (text_append limits.text small rest)
        fun stored => Utf8.decodeLossy (Bytes.beforeZero stored)
      rw [Utf8.decodeLossy_beforeZero_encode] at stored
      rw [encode, List.append_assoc]
      exact stored
  | smallText capacity =>
      have small := Output.unrefused_text.mp unrefused
      have stored := map_eq_outcome (text_append limits.text small rest)
        (SmallText.ofBytes capacity)
      rw [SmallText.ofBytes_encode] at stored
      rw [encode, List.append_assoc]
      exact stored
  | array item length ih =>
      have each := Output.unrefused_flatMap.mp unrefused
      exact fixed_append value (fun item inside rest => ih (each item inside) rest) rest
  | list item ih =>
      obtain ⟨small, each⟩ := Output.unrefused_cons_length.mp unrefused
      exact counted_append limits.collection small (fun value inside rest =>
        ih (Output.unrefused_flatMap.mp each value inside) rest) rest
  | deque item ih =>
      obtain ⟨small, each⟩ := Output.unrefused_cons_length.mp unrefused
      rw [← Deque.length_toList] at small
      have items := counted_append limits.collection small (fun value inside rest =>
        ih (Output.unrefused_flatMap.mp each value inside) rest) rest
      rw [Deque.length_toList] at items
      exact map_eq_outcome items Deque.ofList

/-- A plain value comes back as it is, whatever the limits. -/
theorem decode_encode_of_isPlain (limits : Limits) {layout : Layout}
    (plain : layout.isPlain = true) (value : layout.Value) (rest : Bytes) :
    layout.decode limits (layout.encode value ++ rest) = outcome none value rest := by
  induction layout generalizing rest with
  | unit => rfl
  | scalar kind =>
      have stored := map_eq_outcome (bytes_append (kind.length_encode value) rest) kind.decode
      rw [kind.decode_encode] at stored
      exact stored
  | array item length ih =>
      exact fixed_append_exact value (fun item _ rest => ih plain item rest) rest
  | bool => cases plain
  | text => cases plain
  | smallText capacity => cases plain
  | list item => cases plain
  | deque item => cases plain

end Layout

namespace Step

/-- Every length in the value is within the limits. -/
def Fits (limits : Limits) : (step : Step) → step.Value → Prop
  | .value layout, given => layout.Fits limits given
  | .field layout _, given => layout.Fits limits given
  | .blocks _ _, given => given.length ≤ limits.collection.toNat
  | .units, given => given ≤ limits.collection.toNat
  | .marker expected, _ => expected.utf8ByteSize ≤ limits.text.toNat
  | .expect expected, _ => expected.utf8ByteSize ≤ limits.text.toNat
  | _, _ => True

/-- The failure of reading the first length that is not within the limits. -/
def excess? (limits : Limits) : (step : Step) → step.Value → Option Failure
  | .value layout, given => layout.excess? limits given
  | .field layout _, given => layout.excess? limits given
  | .blocks _ _, given => exceeds? limits.collection given.length
  | .units, given => exceeds? limits.collection given
  | .marker expected, _ => exceeds? limits.text expected.utf8ByteSize
  | .expect expected, _ => exceeds? limits.text expected.utf8ByteSize
  | _, _ => none

/-- What a value is after a step saved it and restored it. -/
def restored : (step : Step) → step.Value → step.Value
  | .value layout, given => layout.restored given
  | .field layout _, given => layout.restored given
  | _, given => given

/-- Every variant of the step's enumeration is read back from its representation. -/
def IsFaithful : Step → Prop
  | .variant enumeration => enumeration.IsFaithful
  | _ => True

theorem excess?_eq_none_iff {limits : Limits} {step : Step} {given : step.Value} :
    step.excess? limits given = none ↔ step.Fits limits given := by
  cases step with
  | value layout => exact Layout.excess?_eq_none_iff
  | field layout gate => exact Layout.excess?_eq_none_iff
  | blocks item plain => exact exceeds?_eq_none_iff
  | units => exact exceeds?_eq_none_iff
  | marker expected => exact exceeds?_eq_none_iff
  | expect expected => exact exceeds?_eq_none_iff
  | _ => exact ⟨fun _ => trivial, fun _ => rfl⟩

theorem decodePresent_value (limits : Limits) {layout : Layout} {given : layout.Value}
    (unrefused : Output.Unrefused (layout.outputs given)) (rest : Bytes) :
    (layout.decode limits).map (true, ·) (Output.concat (layout.outputs given) ++ rest) =
      outcome (layout.excess? limits given) (true, layout.restored given) rest := by
  rw [Layout.concat_outputs unrefused]
  exact map_eq_outcome (Layout.decode_encode limits unrefused rest) (true, ·)

theorem decodePresent_marker (limits : Limits) {expected : String}
    (short : expected.utf8ByteSize ≤ markerCapacity) (rest : Bytes) :
    (marker expected).decodePresent limits
        (Output.concat ((marker expected).outputs ()) ++ rest) =
      outcome (exceeds? limits.text expected.utf8ByteSize) (true, ()) rest := by
  have small : expected.utf8ByteSize ≤ Limits.largestLength := Nat.le_trans short (by decide)
  have same := SmallText.ofBytes_encode ⟨expected, short⟩
  have stored := map_eq_outcome (text_append limits.text small rest) fun stored =>
    (decide ((SmallText.ofBytes markerCapacity stored).text = expected), ())
  rw [same, decide_eq_true rfl] at stored
  rw [outputs, if_neg (Nat.not_lt_of_le short), Output.concat_text small, List.append_assoc]
  exact stored

/-- The decoder takes off exactly what a symmetric step puts out. -/
theorem decodePresent_outputs (limits : Limits) {step : Step} (symmetric : step.IsSymmetric)
    (faithful : step.IsFaithful) {given : step.Value}
    (unrefused : Output.Unrefused (step.outputs given)) (rest : Bytes) :
    step.decodePresent limits (Output.concat (step.outputs given) ++ rest) =
      outcome (step.excess? limits given) (true, step.restored given) rest := by
  cases step with
  | value layout => exact decodePresent_value limits unrefused rest
  | field layout gate => exact decodePresent_value limits unrefused rest
  | block layout plain =>
      have stored := Layout.decode_encode_of_isPlain limits plain given rest
      rw [outputs, Output.concat_block]
      exact map_eq_outcome stored (true, ·)
  | blocks item plain =>
      obtain ⟨small, _⟩ := Output.unrefused_cons_length.mp unrefused
      have items : times (item.decode limits) given.length (given.flatMap item.encode ++ rest) =
          outcome none given rest := times_append_exact
        (fun value _ rest => Layout.decode_encode_of_isPlain limits plain value rest) rest
      have whole := andThen_eq_outcome (length_append limits.collection small _) items
      rw [Option.or_none] at whole
      rw [outputs, Output.concat_cons, Output.bytes_length small, Output.concat_block,
        List.append_assoc]
      exact map_eq_outcome whole (true, ·)
  | units =>
      obtain ⟨small, _⟩ := Output.unrefused_cons_length.mp unrefused
      rw [outputs, Output.concat_cons, Output.bytes_length small, List.append_assoc]
      exact map_eq_outcome (length_append limits.collection small rest) (true, ·)
  | bytes length =>
      rw [outputs, Output.concat_block]
      exact map_eq_outcome (take_append given rest) (true, ·)
  | bytesField length gate =>
      rw [outputs, Output.concat_block]
      exact map_eq_outcome (take_append given rest) (true, ·)
  | variant enumeration =>
      rw [outputs, Output.concat_block]
      exact map_eq_outcome (variant_append faithful given rest) (true, ·)
  | marker expected => exact decodePresent_marker limits symmetric rest
  | expect expected => exact decodePresent_marker limits symmetric rest
  | lend text => cases symmetric
  | invalidate reason => cases symmetric
  | abandon reason => cases symmetric

/-- An absent step is decoded from nothing. -/
theorem decode_outputs (version : UInt32) (limits : Limits) {step : Step}
    (symmetric : step.IsSymmetric) (faithful : step.IsFaithful) {given : step.Value}
    (unrefused : step.isPresent version = true → Output.Unrefused (step.outputs given))
    (rest : Bytes) :
    step.decode version limits
        (Output.concat (if step.isPresent version then step.outputs given else []) ++ rest) =
      outcome (if step.isPresent version then step.excess? limits given else none)
        (true, if step.isPresent version then step.restored given else step.absentValue step.blank)
        rest := by
  by_cases present : step.isPresent version = true
  · have stored := decodePresent_outputs limits symmetric faithful (unrefused present) rest
    rw [decode, if_pos present, if_pos present, if_pos present, if_pos present]
    exact stored
  · rw [decode, if_neg present, if_neg present, if_neg present, if_neg present]
    rfl

end Step

namespace Routine

/-- Every length in the present values is within the limits. -/
def Fits (version : UInt32) (limits : Limits) : (routine : Routine) → routine.Values → Prop
  | [], _ => True
  | step :: steps, (given, rest) =>
      (step.isPresent version = true → step.Fits limits given) ∧ Fits version limits steps rest

/-- The failure of reading the first length that is not within the limits. -/
def excess? (version : UInt32) (limits : Limits) :
    (routine : Routine) → routine.Values → Option Failure
  | [], _ => none
  | step :: steps, (given, rest) =>
      (if step.isPresent version then step.excess? limits given else none).or
        (excess? version limits steps rest)

/-- What the values are after they were saved and restored: present ones come back and
absent ones have their defaults. -/
def restored (version : UInt32) : (routine : Routine) → routine.Values → routine.Values
  | [], _ => ()
  | step :: steps, (given, rest) =>
      (if step.isPresent version then step.restored given else step.absentValue step.blank,
        restored version steps rest)

theorem excess?_eq_none_iff {version : UInt32} {limits : Limits} {routine : Routine}
    {given : routine.Values} :
    routine.excess? version limits given = none ↔ routine.Fits version limits given := by
  induction routine with
  | nil => exact ⟨fun _ => trivial, fun _ => rfl⟩
  | cons step steps ih =>
      obtain ⟨value, rest⟩ := given
      rw [excess?, Option.or_eq_none_iff, ih]
      refine and_congr_left fun _ => ?_
      by_cases present : step.isPresent version = true
      · rw [if_pos present, Step.excess?_eq_none_iff]
        exact ⟨fun fits _ => fits, fun fits => fits present⟩
      · rw [if_neg present]
        exact ⟨fun _ found => absurd found present, fun _ => rfl⟩

theorem outputs_keepValue (kept : Bool) {step : Step} {steps : Routine} (given : step.Value)
    (rest : steps.Values) :
    (keepIf kept step steps).outputs (keepValue kept given rest) =
      (if kept then step.outputs given else []) ++ steps.outputs rest := by
  cases kept with
  | true => rfl
  | false => rfl

theorem outputs_keep_cons (version : UInt32) {step : Step} {steps : Routine} (given : step.Value)
    (rest : steps.Values) :
    (present version (step :: steps)).outputs (keep version (step :: steps) (given, rest)) =
      (if step.isPresent version then step.outputs given else []) ++
        (present version steps).outputs (keep version steps rest) :=
  outputs_keepValue (step.isPresent version) given (keep version steps rest)

/-- The decoder of a routine takes off exactly what its present steps put out. -/
theorem decode_outputs (version : UInt32) (limits : Limits) {routine : Routine}
    (symmetric : ∀ step ∈ routine, step.IsSymmetric)
    (faithful : ∀ step ∈ routine, step.IsFaithful) {given : routine.Values}
    (unrefused : Output.Unrefused
      ((routine.present version).outputs (routine.keep version given))) (rest : Bytes) :
    routine.decode version limits
        (Output.concat ((routine.present version).outputs (routine.keep version given)) ++ rest) =
      outcome (routine.excess? version limits given)
        (routine.map fun _ => true, routine.restored version given) rest := by
  induction routine with
  | nil => rfl
  | cons step steps ih =>
      obtain ⟨value, values⟩ := given
      obtain ⟨first, later⟩ := List.forall_mem_cons.mp symmetric
      obtain ⟨known, others⟩ := List.forall_mem_cons.mp faithful
      rw [outputs_keep_cons] at unrefused ⊢
      obtain ⟨own, behind⟩ := Output.unrefused_append.mp unrefused
      have front := step.decode_outputs version limits first known
        (fun present => by rw [if_pos present] at own; exact own)
        (Output.concat ((present version steps).outputs (keep version steps values)) ++ rest)
      have back := ih later others behind
      rw [Output.concat_append, List.append_assoc]
      exact andThen_eq_outcome front (map_eq_outcome back _)

end Routine

end Snapshot
