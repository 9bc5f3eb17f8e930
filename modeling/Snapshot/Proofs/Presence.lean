import Snapshot.Routine

/-!
# Present fields

Which steps of a routine concern state of a given version.  A gated step whose field
was introduced later is absent: it reads nothing and yields the default.
-/

namespace Snapshot

namespace Step

/-- Whether state of the given version carries what the step transfers. -/
def isPresent (version : UInt32) : Step → Bool
  | .field _ gate => gate.isPresent version
  | .bytesField _ gate => gate.isPresent version
  | _ => true

/-- The value of a step that holds nothing. -/
def blank : (step : Step) → step.Value
  | .value layout => layout.blank
  | .field layout _ => layout.blank
  | .block layout _ => layout.blank
  | .blocks _ _ => []
  | .units => 0
  | .bytes length => .replicate length 0
  | .bytesField length _ => .replicate length 0
  | .variant enumeration => enumeration.default
  | .lend _ => ()
  | .marker _ => ()
  | .expect _ => ()
  | .invalidate _ => ()
  | .abandon _ => ()

/-- What an absent step leaves in a destination: the default, or the destination's
own contents where the default does not fit. -/
def absentValue : (step : Step) → step.Value → step.Value
  | .field _ gate, _ => gate.default
  | .bytesField length gate, given => (Fixed.ofList? length gate.default).getD given
  | .value _, given => given
  | .block _ _, given => given
  | .blocks _ _, given => given
  | .units, given => given
  | .bytes _, given => given
  | .variant _, given => given
  | .lend _, given => given
  | .marker _, given => given
  | .expect _, given => given
  | .invalidate _, given => given
  | .abandon _, given => given

end Step

namespace Routine

/-- The steps, with a further one in front if it is kept. -/
def keepIf (kept : Bool) (step : Step) (steps : Routine) : Routine :=
  match kept with
  | true => step :: steps
  | false => steps

/-- The values, with a further one in front if it is kept. -/
def keepValue : (kept : Bool) → {step : Step} → {steps : Routine} → step.Value → steps.Values →
    (keepIf kept step steps).Values
  | true, _, _, given, rest => (given, rest)
  | false, _, _, _, rest => rest

/-- The routine without the gated fields that state of the given version lacks. -/
def present (version : UInt32) : Routine → Routine
  | [] => []
  | step :: steps => keepIf (step.isPresent version) step (present version steps)

/-- The values of the steps that are present. -/
def keep (version : UInt32) :
    (routine : Routine) → routine.Values → (routine.present version).Values
  | [], _ => ()
  | step :: steps, (given, rest) =>
      keepValue (step.isPresent version) given (keep version steps rest)

theorem mem_present {version : UInt32} {routine : Routine} {step : Step} :
    step ∈ routine.present version ↔ step ∈ routine ∧ step.isPresent version = true := by
  induction routine with
  | nil => simp [present]
  | cons first steps ih =>
      unfold present keepIf
      cases kept : first.isPresent version with
      | true =>
          rw [List.mem_cons, List.mem_cons, ih]
          constructor
          · rintro (rfl | ⟨later, found⟩)
            · exact ⟨Or.inl rfl, kept⟩
            · exact ⟨Or.inr later, found⟩
          · rintro ⟨rfl | later, found⟩
            · exact Or.inl rfl
            · exact Or.inr ⟨later, found⟩
      | false =>
          rw [List.mem_cons, ih]
          constructor
          · rintro ⟨later, found⟩
            exact ⟨Or.inr later, found⟩
          · rintro ⟨rfl | later, found⟩
            · rw [kept] at found
              cases found
            · exact ⟨later, found⟩

end Routine

end Snapshot
