import Snapshot.Proofs.Restoration
import Snapshot.Proofs.SavedForm
import Snapshot.Proofs.SavedMemory

/-!
# Round trips

What a routine saved, at any place of a memory, is restored by the same routine from
there.  State of an older version was saved without the later fields; restoring it
yields the defaults of these fields.  A routine that puts out nothing is a case of its
own, because the cursor may then stand far behind the data.
-/

namespace Snapshot

/-! ## Values that put out nothing -/

namespace Layout

/-- A value that puts out nothing is the only one of its layout, and reads nothing. -/
theorem restore_of_silent {σ : Type} [ByteStream σ] {layout : Layout} {value : layout.Value}
    (silent : layout.outputs value = []) (old : layout.Value) (session : Session σ) :
    session.restore layout old = (layout.restored value, session) := by
  induction layout generalizing session with
  | array item length ih =>
      have each := List.flatMap_eq_nil_iff.mp silent
      apply Session.eachFixed_of_unmoved
      intro result member old
      obtain ⟨own, inside, rfl⟩ := List.mem_map.mp member
      exact ih (each own inside) old session
  | _ => cases silent

theorem fits_of_silent {layout : Layout} {value : layout.Value} (silent : layout.outputs value = [])
    (limits : Limits) : layout.Fits limits value := by
  induction layout with
  | array item length ih =>
      have each := List.flatMap_eq_nil_iff.mp silent
      exact fun own inside => ih (each own inside)
  | _ => cases silent

end Layout

namespace Step

variable {σ : Type} [ByteStream σ] {session : Session σ}

/-- Among the symmetric steps only values and fields can put out nothing. -/
theorem perform_of_silent {step : Step} (symmetric : step.IsSymmetric)
    (reading : session.mode = .read) {given : step.Value}
    (silent : step.isPresent session.version = true → step.outputs given = []) (old : step.Value) :
    step.perform old session =
      ((true, if step.isPresent session.version then step.restored given
        else step.absentValue step.blank), session) := by
  by_cases present : step.isPresent session.version = true
  · have nothing := silent present
    rw [if_pos present]
    cases step with
    | value layout =>
        simp only [perform, run, Session.transfer, reading]
        rw [Layout.restore_of_silent nothing]
        rfl
    | field layout gate =>
        rw [isPresent] at present
        simp only [perform, run, Session.transferField, Session.transfer, reading, present]
        rw [if_neg (by simp), Layout.restore_of_silent nothing]
        rfl
    | marker expected =>
        rw [outputs, if_neg (Nat.not_lt_of_le symmetric)] at nothing
        cases nothing
    | expect expected =>
        rw [outputs, if_neg (Nat.not_lt_of_le symmetric)] at nothing
        cases nothing
    | abandon reason => cases symmetric
    | _ => cases nothing
  · rw [if_neg present]
    exact perform_of_absent symmetric reading (by simpa using present) old

theorem fits_of_silent {step : Step} (symmetric : step.IsSymmetric) {given : step.Value}
    (silent : step.outputs given = []) (limits : Limits) : step.Fits limits given := by
  cases step with
  | value layout => exact Layout.fits_of_silent silent limits
  | field layout gate => exact Layout.fits_of_silent silent limits
  | marker expected =>
      rw [outputs, if_neg (Nat.not_lt_of_le symmetric)] at silent
      cases silent
  | expect expected =>
      rw [outputs, if_neg (Nat.not_lt_of_le symmetric)] at silent
      cases silent
  | abandon reason => cases symmetric
  | _ => cases silent

end Step

namespace Routine

variable {σ : Type} [ByteStream σ] {session : Session σ}

/-- Where a routine puts out nothing, its present steps do not either. -/
theorem silent_cons {version : UInt32} {step : Step} {steps : Routine} {given : step.Value}
    {rest : steps.Values}
    (silent : (present version (step :: steps)).outputs
      (keep version (step :: steps) (given, rest)) = []) :
    (step.isPresent version = true → step.outputs given = []) ∧
      (present version steps).outputs (keep version steps rest) = [] := by
  rw [outputs_keep_cons] at silent
  obtain ⟨own, later⟩ := List.append_eq_nil_iff.mp silent
  exact ⟨fun present => by rw [if_pos present] at own; exact own, later⟩

theorem perform_of_silent {routine : Routine} (symmetric : ∀ step ∈ routine, step.IsSymmetric)
    (reading : session.mode = .read) {given : routine.Values}
    (silent : (routine.present session.version).outputs (routine.keep session.version given) = [])
    (old : routine.Values) :
    routine.perform old session =
      ((routine.map fun _ => true, routine.restored session.version given), session) := by
  induction routine with
  | nil => rfl
  | cons step steps ih =>
      obtain ⟨value, rest⟩ := given
      obtain ⟨first, later⟩ := List.forall_mem_cons.mp symmetric
      obtain ⟨own, behind⟩ := silent_cons silent
      have front := step.perform_of_silent first reading own old.1
      rw [perform_cons, front, ih later behind old.2]
      rfl

theorem fits_of_silent {routine : Routine} (symmetric : ∀ step ∈ routine, step.IsSymmetric)
    {version : UInt32} {given : routine.Values}
    (silent : (routine.present version).outputs (routine.keep version given) = [])
    (limits : Limits) : routine.Fits version limits given := by
  induction routine with
  | nil => trivial
  | cons step steps ih =>
      obtain ⟨value, rest⟩ := given
      obtain ⟨first, later⟩ := List.forall_mem_cons.mp symmetric
      obtain ⟨own, behind⟩ := silent_cons silent
      exact ⟨fun present => step.fits_of_silent first (own present) limits, ih later behind⟩

/-- A memory that holds what the present steps put out restores the routine's values. -/
theorem perform_of_holds {routine : Routine} (symmetric : ∀ step ∈ routine, step.IsSymmetric)
    (faithful : ∀ step ∈ routine, step.IsFaithful) {given : routine.Values} {allocator : Allocator}
    (grants : ∀ size, allocator.grants size = true) {version : UInt32} (limits : Limits)
    {start memory : Memory}
    (unrefused : Output.Unrefused
      ((routine.present version).outputs (routine.keep version given)))
    (holds : start.Holds
      (Output.concat ((routine.present version).outputs (routine.keep version given))) memory)
    (old : routine.Values) :
    let loaded := routine.perform old
      (Session.start allocator (memory.seek start.cursor) .read version limits)
    loaded.2.failure = routine.excess? version limits given ∧
      (loaded.2.failure = none →
        loaded.1 = (routine.map fun _ => true, routine.restored version given) ∧
          loaded.2.position = memory.cursor) := by
  intro loaded
  obtain ⟨rest, supplied⟩ := holds.supplies
  have decoded := routine.decode_outputs version limits symmetric faithful unrefused rest
  generalize written : Output.concat
    ((routine.present version).outputs (routine.keep version given)) = bytes at *
  have faces : Session.Faces ⟨version, limits, start.cursor + (bytes ++ rest).length⟩
      (Session.start allocator (memory.seek start.cursor) .read version limits) (bytes ++ rest) :=
    ⟨rfl, rfl, rfl, rfl, grants, supplied, rfl⟩
  have follows : Session.Follows ⟨version, limits, start.cursor + (bytes ++ rest).length⟩
      (fun session : Session Memory => routine.perform old session)
      (routine.decode version limits) := perform_follows symmetric old
  cases excess : routine.excess? version limits given with
  | none =>
      rw [excess] at decoded
      obtain ⟨same, reached⟩ := follows.takes faces decoded
      refine ⟨reached.sound, fun _ => ⟨same, ?_⟩⟩
      have stop : loaded.2.position + rest.length = start.cursor + (bytes ++ rest).length :=
        reached.stop_eq
      rw [List.length_append] at stop
      rw [holds.cursor_eq]
      omega
  | some failure =>
      rw [excess] at decoded
      have failed := follows.fails faces decoded
      refine ⟨failed, fun sound => ?_⟩
      rw [show loaded.2.failure = some failure from failed] at sound
      cases sound

/-- Where the present steps put out nothing, nothing is read, wherever the cursor stands. -/
theorem perform_of_stored {routine : Routine} (symmetric : ∀ step ∈ routine, step.IsSymmetric)
    (faithful : ∀ step ∈ routine, step.IsFaithful) {given : routine.Values} {allocator : Allocator}
    (grants : ∀ size, allocator.grants size = true) {version : UInt32} (limits : Limits)
    {start memory : Memory}
    (unrefused : Output.Unrefused
      ((routine.present version).outputs (routine.keep version given)))
    (stored : start.Stored
      ((routine.present version).outputs (routine.keep version given)) memory)
    (old : routine.Values) :
    let loaded := routine.perform old
      (Session.start allocator (memory.seek start.cursor) .read version limits)
    loaded.2.failure = routine.excess? version limits given ∧
      (loaded.2.failure = none →
        loaded.1 = (routine.map fun _ => true, routine.restored version given) ∧
          loaded.2.position = memory.cursor) := by
  intro loaded
  rcases stored with ⟨silent, rfl⟩ | holds
  · have fits := fits_of_silent symmetric silent limits
    have unmoved : loaded = ((routine.map fun _ => true, routine.restored version given),
        Session.start allocator memory .read version limits) :=
      perform_of_silent symmetric rfl silent old
    rw [excess?_eq_none_iff.mpr fits, unmoved]
    exact ⟨rfl, fun _ => ⟨rfl, rfl⟩⟩
  · exact perform_of_holds symmetric faithful grants limits unrefused holds old

/-- A routine restores its values from a memory in which its present steps stored them. -/
theorem restores {routine : Routine} (symmetric : ∀ step ∈ routine, step.IsSymmetric)
    (faithful : ∀ step ∈ routine, step.IsFaithful) {given : routine.Values} (old : routine.Values)
    {allocator : Allocator} (grants : ∀ size, allocator.grants size = true) {version : UInt32}
    (limits : Limits) {start memory : Memory}
    (unrefused : Output.Unrefused
      ((routine.present version).outputs (routine.keep version given)))
    (stored : start.Stored
      ((routine.present version).outputs (routine.keep version given)) memory) :
    let loaded := routine.run old
      (Session.start allocator (memory.seek start.cursor) .read version limits)
    (loaded.2.failure = none ↔ routine.Fits version limits given) ∧
      (loaded.2.failure = none →
        loaded.1.2 = routine.restored version given ∧
          (∀ reply ∈ loaded.1.1, reply.isAccepted = true) ∧ loaded.2.finish = .ok () ∧
          loaded.2.position = memory.cursor) := by
  intro loaded
  obtain ⟨failure, restored⟩ :=
    perform_of_stored symmetric faithful grants limits unrefused stored old
  have outcome : loaded.2.failure = routine.excess? version limits given := failure
  refine ⟨by rw [outcome, excess?_eq_none_iff], fun unfailed => ?_⟩
  obtain ⟨same, position⟩ := restored unfailed
  obtain ⟨answers, values⟩ := Prod.mk.inj same
  have accepted : ∀ answer ∈ loaded.1.1.map Reply.isAccepted, answer = true := by
    intro answer member
    rw [answers] at member
    obtain ⟨_, _, yes⟩ := List.mem_map.mp member
    exact yes.symm
  have unmarked : loaded.2.mismatch = none := mismatch_of_accepted accepted
  refine ⟨values, ?_, ?_, position⟩
  · intro reply member
    exact accepted _ (List.mem_map_of_mem member)
  · rw [Session.finish, unfailed, unmarked]

/-- What a routine saved at any place of a memory is restored from there.  The writer of
the given version leaves out the fields that were introduced later.  Restoring succeeds
exactly if every stored length is within the reader's limits, and then yields every
saved value and the defaults of the absent fields, accepts every marker, and ends where
saving ended, whatever the destinations held. -/
theorem round_trip {routine : Routine} (symmetric : ∀ step ∈ routine, step.IsSymmetric)
    (faithful : ∀ step ∈ routine, step.IsFaithful) (given old : routine.Values)
    {allocator : Allocator} (grants : ∀ size, allocator.grants size = true) (version : UInt32)
    (writing reading : Limits) (memory : Memory) :
    let saved := ((routine.present version).run (routine.keep version given)
      (Session.start allocator memory .write version writing)).2
    let loaded := routine.run old
      (Session.start allocator (saved.stream.seek memory.cursor) .read version reading)
    saved.finish = .ok () →
      (loaded.2.failure = none ↔ routine.Fits version reading given) ∧
        (loaded.2.failure = none →
          loaded.1.2 = routine.restored version given ∧
            (∀ reply ∈ loaded.1.1, reply.isAccepted = true) ∧ loaded.2.finish = .ok () ∧
            loaded.2.position = saved.position) := by
  intro saved loaded finished
  have sound := Session.sound_of_finish finished
  have put : saved = (Session.start allocator memory .write version writing).putAll
      ((routine.present version).outputs (routine.keep version given)) := run_of_writing rfl _ _
  rw [put] at sound
  obtain ⟨unrefused, stored⟩ := Session.putAll_of_sound sound
  rw [← put] at stored
  exact restores symmetric faithful old grants reading unrefused stored

/-- State of an older version, saved behind the end of a memory: the later field has its
default, and the text ends before its null character. -/
theorem round_trip_of_older_state :
    let routine : Routine :=
      [.field (.scalar .u8) ⟨5, 9⟩, .value .text, .value (.list .bool), .marker "END"]
    let given : routine.Values := (7#8, "a\x00b", [true], (), ())
    let old : routine.Values := (0#8, "old", [], (), ())
    let memory : Memory := ⟨#[1], 3, 0⟩
    let saved := ((routine.present 4).run (routine.keep 4 given)
      (Session.start .unbounded memory .write 4 .standard)).2
    let loaded := routine.run old
      (Session.start .unbounded (saved.stream.seek memory.cursor) .read 4 .standard)
    saved.finish = .ok () ∧ loaded.2.finish = .ok () ∧
      loaded.1.2 = (9#8, "a", [true], (), ()) := by
  intro routine given old memory saved loaded
  have symmetric : ∀ step ∈ routine, step.IsSymmetric := by
    simp [routine, Step.IsSymmetric, markerCapacity]
    decide
  have faithful : ∀ step ∈ routine, step.IsFaithful := by
    simp [routine, Step.IsFaithful]
  have grants : ∀ size, Allocator.unbounded.grants size = true := fun _ => rfl
  have finished : saved.finish = .ok () := rfl
  have fits : routine.Fits 4 .standard given := excess?_eq_none_iff.mp rfl
  have expected : routine.restored 4 given = (9#8, "a", [true], (), ()) := rfl
  have trip := round_trip symmetric faithful given old grants 4 .standard .standard memory finished
  obtain ⟨values, _, finish, _⟩ := trip.2 (trip.1.mpr fits)
  -- Unfolding the run would evaluate it.
  have left : loaded.1.2 = routine.restored 4 given := by with_reducible exact values
  exact ⟨finished, finish, left.trans expected⟩

end Routine

end Snapshot
