import Snapshot.Proofs.Output

/-!
# What saving refuses

A saving session is refused for two reasons: a prefix cannot express the length it stands for,
or the routine invalidates the session.  The refusals among the outputs of a routine are told
from the lengths in its values and from its own steps alone.  A value that begins with a length
beyond reach puts out nothing at all.
-/

namespace Snapshot

namespace Output

/-- The failure that stands in place of this output. -/
def failure? : Output → Option Failure
  | .refusal failure => some failure
  | _ => none

/-- The failures that stand between the blocks, in order. -/
def refusals (outputs : List Output) : List Failure :=
  outputs.filterMap failure?

/-- The failure for a length that four bytes cannot express. -/
def beyondPrefix? (count : Nat) : Option Failure :=
  if count ≤ Limits.largestLength then
    none
  else
    some (.lengthLimit count Limits.largestLength)

@[simp] theorem refusals_nil : refusals [] = [] :=
  rfl

@[simp] theorem refusals_append (front back : List Output) :
    refusals (front ++ back) = refusals front ++ refusals back :=
  List.filterMap_append

@[simp] theorem refusals_block (stored : Bytes) (outputs : List Output) :
    refusals (.block stored :: outputs) = refusals outputs :=
  rfl

@[simp] theorem refusals_flag (truth : Bool) (outputs : List Output) :
    refusals (.flag truth :: outputs) = refusals outputs :=
  rfl

@[simp] theorem refusals_refusal (failure : Failure) (outputs : List Output) :
    refusals (.refusal failure :: outputs) = failure :: refusals outputs :=
  rfl

@[simp] theorem refusals_length (count : Nat) (outputs : List Output) :
    refusals (length count :: outputs) =
      [count].filterMap beyondPrefix? ++ refusals outputs := by
  by_cases small : count ≤ Limits.largestLength
  · simp [length, beyondPrefix?, small]
  · simp [length, beyondPrefix?, small]

theorem refusals_text (value : String) :
    refusals (text value) = [value.utf8ByteSize].filterMap beyondPrefix? := by
  rw [text, refusals_length, refusals_block, refusals_nil, List.append_nil]

/-- Item by item, the refusals come from the lengths if they do so within each item. -/
theorem refusals_flatMap {α : Type} {outputs : α → List Output} {lengths : α → List Nat}
    (each : ∀ item, refusals (outputs item) = (lengths item).filterMap beyondPrefix?)
    (items : List α) :
    refusals (items.flatMap outputs) = (items.flatMap lengths).filterMap beyondPrefix? := by
  rw [refusals, List.filterMap_flatMap, List.filterMap_flatMap]
  exact congrArg (fun parts => items.flatMap parts) (funext each)

theorem unrefused_iff {outputs : List Output} : Unrefused outputs ↔ refusals outputs = [] := by
  rw [refusals, List.filterMap_eq_nil_iff]
  constructor
  · intro unrefused output inside
    cases output with
    | refusal failure => exact absurd inside (unrefused failure)
    | _ => rfl
  · intro each failure inside
    cases each _ inside

theorem length_of_lt {count : Nat} (long : Limits.largestLength < count) :
    length count = .refusal (.lengthLimit count Limits.largestLength) := by
  rw [length, if_neg (Nat.not_le_of_lt long)]

end Output

open Output

/-- The length prefixes of a stored value in the order in which they stand. -/
def Layout.lengths : (layout : Layout) → layout.Value → List Nat
  | .unit, _ => []
  | .scalar _, _ => []
  | .bool, _ => []
  | .text, value => [value.utf8ByteSize]
  | .smallText _, value => [value.text.utf8ByteSize]
  | .array item _, values => values.items.flatMap (lengths item)
  | .list item, values => values.length :: values.flatMap (lengths item)
  | .deque item, queue => queue.size :: queue.toList.flatMap (lengths item)

/-- The length prefixes that a step stores. -/
def Step.lengths : (step : Step) → step.Value → List Nat
  | .value layout, given => layout.lengths given
  | .field layout _, given => layout.lengths given
  | .blocks _ _, given => [given.length]
  | .units, given => [given]
  | .lend text, _ => [text.utf8ByteSize]
  | .marker expected, _ => [expected.utf8ByteSize]
  | .expect expected, _ => [expected.utf8ByteSize]
  | _, _ => []

/-- The length prefixes that a routine stores. -/
def Routine.lengths : (routine : Routine) → routine.Values → List Nat
  | [], _ => []
  | step :: steps, (given, rest) => step.lengths given ++ lengths steps rest

namespace Layout

theorem refusals_outputs (layout : Layout) (value : layout.Value) :
    refusals (layout.outputs value) = (layout.lengths value).filterMap beyondPrefix? := by
  induction layout with
  | unit => rfl
  | scalar kind => rfl
  | bool => rfl
  | text => exact refusals_text value
  | smallText capacity => exact refusals_text value.text
  | array item length ih => exact refusals_flatMap ih value.items
  | list item ih =>
      rw [outputs, refusals_length, refusals_flatMap ih, ← List.filterMap_append]
      rfl
  | deque item ih =>
      rw [outputs, refusals_length, refusals_flatMap ih, ← List.filterMap_append]
      rfl

/-- Whether a value states any length is a matter of its layout. -/
theorem lengths_eq_nil_of {layout : Layout} {value : layout.Value} (silent : layout.lengths value = [])
    (other : layout.Value) : layout.lengths other = [] := by
  induction layout with
  | unit => rfl
  | scalar kind => rfl
  | bool => rfl
  | text => cases silent
  | smallText capacity => cases silent
  | list item ih => cases silent
  | deque item ih => cases silent
  | array item size ih =>
      refine List.flatMap_eq_nil_iff.mpr fun later inside => ?_
      have filled : 0 < value.items.length := by
        rw [value.length_eq, ← other.length_eq]
        exact List.length_pos_of_mem inside
      obtain ⟨first, present⟩ := List.exists_mem_of_length_pos filled
      exact ih (List.flatMap_eq_nil_iff.mp silent first present) later

/-- A value that states a length begins with the first one that it states. -/
theorem outputs_of_lengths {layout : Layout} {value : layout.Value} {count : Nat}
    {counts : List Nat} (states : layout.lengths value = count :: counts) :
    ∃ rest, layout.outputs value = length count :: rest := by
  induction layout generalizing counts with
  | unit => cases states
  | scalar kind => cases states
  | bool => cases states
  | text =>
      cases states
      exact ⟨_, rfl⟩
  | smallText capacity =>
      cases states
      exact ⟨_, rfl⟩
  | list item ih =>
      cases states
      exact ⟨_, rfl⟩
  | deque item ih =>
      cases states
      exact ⟨_, rfl⟩
  | array item size ih =>
      obtain ⟨items, sized⟩ := value
      cases items with
      | nil => cases states
      | cons first others =>
          cases stated : item.lengths first with
          | nil =>
              have silent : others.flatMap item.lengths = [] :=
                List.flatMap_eq_nil_iff.mpr fun later _ => lengths_eq_nil_of stated later
              rw [lengths, List.flatMap_cons, stated, silent] at states
              cases states
          | cons head tail =>
              rw [lengths, List.flatMap_cons, stated] at states
              cases states
              obtain ⟨rest, begins⟩ := ih stated
              rw [outputs, List.flatMap_cons, begins]
              exact ⟨_, rfl⟩

end Layout

namespace Step

/-- The failures that a step meets whatever it is saved to.  The lengths of markers are small: a
marker that is not is misuse, and nothing of it is saved. -/
def refusals : (step : Step) → step.Value → List Failure
  | .invalidate reason, _ => [.invalid reason]
  | .marker _, _ => []
  | .expect _, _ => []
  | step, given => (step.lengths given).filterMap beyondPrefix?

theorem refusals_marker (expected : String) :
    Output.refusals (if markerCapacity < expected.utf8ByteSize then [] else text expected) =
      [] := by
  split
  · rfl
  · next short =>
      have small : expected.utf8ByteSize ≤ Limits.largestLength :=
        Nat.le_trans (Nat.le_of_not_lt short) (by decide)
      rw [refusals_text, List.filterMap_cons, beyondPrefix?, if_pos small, List.filterMap_nil]

theorem refusals_outputs (step : Step) (given : step.Value) :
    Output.refusals (step.outputs given) = step.refusals given := by
  cases step with
  | value layout => exact layout.refusals_outputs given
  | field layout gate => exact layout.refusals_outputs given
  | blocks item plain => exact (refusals_length _ _).trans (List.append_nil _)
  | units => exact (refusals_length _ _).trans (List.append_nil _)
  | lend lent => exact refusals_text lent
  | marker expected => exact refusals_marker expected
  | expect expected => exact refusals_marker expected
  | _ => rfl

variable {σ : Type} [ByteStream σ] {session : Session σ} {count : Nat}

theorem run_of_outputs_eq (writing : session.mode = .write) {step : Step} {given : step.Value}
    {rest : List Output} (long : Limits.largestLength < count)
    (begins : step.outputs given = length count :: rest) :
    (step.run given session).2 = session.fail (.lengthLimit count Limits.largestLength) := by
  rw [run_of_writing writing, begins, length_of_lt long, Session.putAll_cons, Session.put,
    Session.putAll_of_hasFailed (Session.hasFailed_fail _ _)]

/-- A step of a saving session that begins with a length beyond reach does nothing but fail, or
is misuse and does nothing. -/
theorem run_of_overlong (writing : session.mode = .write) {step : Step} {given : step.Value}
    {counts : List Nat} (states : step.lengths given = count :: counts)
    (long : Limits.largestLength < count) :
    (step.run given session).2 = session.fail (.lengthLimit count Limits.largestLength) ∨
      step.run given session = ((.refused .markerTooLong, given), session) := by
  have overlong : markerCapacity < count := Nat.lt_trans (by decide) long
  cases step with
  | value layout =>
      obtain ⟨rest, begins⟩ := Layout.outputs_of_lengths states
      exact Or.inl (run_of_outputs_eq writing long begins)
  | field layout gate =>
      obtain ⟨rest, begins⟩ := Layout.outputs_of_lengths states
      exact Or.inl (run_of_outputs_eq writing long begins)
  | blocks item plain =>
      cases states
      exact Or.inl (run_of_outputs_eq writing long rfl)
  | units =>
      cases states
      exact Or.inl (run_of_outputs_eq writing long rfl)
  | lend lent =>
      cases states
      exact Or.inl (run_of_outputs_eq writing long rfl)
  | marker expected =>
      cases states
      rw [run_marker, Session.marker, if_pos overlong]
      exact Or.inr rfl
  | expect expected =>
      cases states
      rw [run_expect, Session.expectMarker, Session.marker, if_pos overlong]
      exact Or.inr rfl
  | _ => cases states

end Step

namespace Routine

/-- The failures that a routine meets whatever it is saved to, in order. -/
def refusals : (routine : Routine) → routine.Values → List Failure
  | [], _ => []
  | step :: steps, (given, rest) => step.refusals given ++ refusals steps rest

/-- What is refused is told by the lengths in the values and the steps that invalidate. -/
theorem refusals_outputs (routine : Routine) (given : routine.Values) :
    Output.refusals (routine.outputs given) = routine.refusals given := by
  induction routine with
  | nil => rfl
  | cons step steps ih => rw [outputs, Output.refusals_append, step.refusals_outputs, ih, refusals]

end Routine

end Snapshot
