import Snapshot.Proofs.DeviceCalls
import Snapshot.Proofs.FailedSession
import Snapshot.Proofs.StreamAgreement

/-!
# Interruptions and partial transfers

A patient device may split every transfer at any place and interrupt it any number of times.
No session on such a device can be told from one on a memory of the same data, as long as the
memory has room for what is saved.
-/

namespace Snapshot

/-- A patient device and a memory that stands as it does on the same data. -/
structure Memory.StandsBeside (memory : Memory) (device : Device) : Prop where
  stands : memory.StandsOn device.data device.cursor
  patient : device.IsPatient

theorem Device.readByte_eq (device : Device) : ByteStream.readByte device =
    ((ByteStream.read 1 device).1.byte, (ByteStream.read 1 device).2) :=
  rfl

/-- A memory and a patient device stay level until a read passes the end. -/
def Matching.memoryDevice : Matching Memory Device where
  Level := Memory.StandsBeside
  Near _ _ := True
  near := fun _ => trivial
  position_eq := fun beside => beside.stands.cursor_eq.trans beside.patient.position_eq.symm
  read := by
    rintro memory device ⟨stands, patient⟩ count
    rcases Nat.lt_or_ge device.data.size (device.cursor + count) with short | enough
    · rw [stands.read_of_lt short]
      exact Or.inr ⟨.unexpectedEnd, rfl, patient.read_of_lt short, trivial⟩
    · obtain ⟨delivered, further⟩ := stands.read_of_le enough
      obtain ⟨next, outcome, calm, data, cursor⟩ := patient.read_of_le enough
      rw [outcome]
      rw [← data, ← cursor] at further
      exact Or.inl ⟨_, delivered, rfl, further, calm⟩
  byte_eq := Supply.readByte_eq
  byte_eq_second := Device.readByte_eq

/-! ## Saving -/

/-- More room is refused only if a request for it is. -/
theorem Allocator.exists_refused {allocator : Allocator} {size capacity count : Nat}
    (none : allocator.reserve? size capacity count = none) :
    ∃ request, allocator.grants request = false := by
  unfold reserve? at none
  split at none
  · cases none
  · split at none
    · cases none
    · next refused => exact ⟨_, by simpa using refused⟩

namespace Memory

/-- Bytes are stored, or there are no addresses or no memory for them. -/
theorem write_cases (allocator : Allocator) (bytes : Bytes) (memory : Memory) :
    (∃ next, ByteStream.write allocator bytes memory = (.ok (), next) ∧ memory.Holds bytes next) ∨
      (ByteStream.write allocator bytes memory = (.error .invalidInput, memory) ∧
        addressLimit ≤ memory.cursor + bytes.length) ∨
      ByteStream.write allocator bytes memory = (.error .outOfMemory, memory) ∧
        ∃ request, allocator.grants request = false := by
  cases outcome : memory.write allocator bytes with
  | mk answer next =>
      have written : ByteStream.write allocator bytes memory = (answer, next) := outcome
      cases answer with
      | ok done => exact Or.inl ⟨next, written, write_of_ok outcome⟩
      | error fault =>
          rw [written]
          simp only [write] at outcome
          split at outcome
          · next beyond =>
              cases outcome
              exact Or.inr (Or.inl ⟨rfl, beyond⟩)
          · split at outcome
            · next refused =>
                cases outcome
                exact Or.inr (Or.inr ⟨rfl, Allocator.exists_refused refused⟩)
            · cases outcome

/-- A patient device stores what the memory stores. -/
theorem StandsBeside.write {memory next : Memory} {device : Device}
    (beside : memory.StandsBeside device) (allocator : Allocator) {bytes : Bytes}
    (holds : memory.Holds bytes next) :
    ∃ device', ByteStream.write allocator bytes device = (.ok (), device') ∧
      next.StandsBeside device' := by
  obtain ⟨⟨data_eq, cursor_eq, inside, addressed⟩, patient⟩ := beside
  obtain ⟨device', outcome, calm, data, cursor⟩ := patient.write allocator bytes
  refine ⟨device', outcome, ⟨?_, ?_, calm.inside, ?_⟩, calm⟩
  · rw [holds.data_eq, data, data_eq, cursor_eq]
  · rw [holds.cursor_eq, cursor, cursor_eq]
  · have reached := holds.addressed
    rw [holds.cursor_eq, cursor_eq] at reached
    rw [data, Storage.size_store]
    exact Nat.max_lt.mpr ⟨addressed, reached⟩

end Memory

/-- A marker that is written is accepted if the session is sound behind it. -/
theorem Session.marker_answer_of_writing {σ : Type} [ByteStream σ] {session : Session σ}
    (writing : session.mode = .write) (expected : String) :
    (session.marker expected).1 =
      if markerCapacity < expected.utf8ByteSize then .error .markerTooLong
      else .ok !(session.marker expected).2.hasFailed := by
  unfold marker
  split
  · rfl
  · rw [writing]
    rfl

/-- What a saving session answers is decided by its failure and its mismatch behind the step. -/
theorem Step.run_answer_congr {σ τ : Type} [ByteStream σ] [ByteStream τ] {first : Session σ}
    {second : Session τ} (writing : first.mode = .write) (writing' : second.mode = .write)
    (step : Step) (given : step.Value)
    (failure_eq : (step.run given first).2.failure = (step.run given second).2.failure)
    (mismatch_eq : (step.run given first).2.mismatch = (step.run given second).2.mismatch) :
    (step.run given first).1 = (step.run given second).1 := by
  have values := (step.run_value_of_writing writing given).trans
    (step.run_value_of_writing writing' given).symm
  refine Prod.ext ?_ values
  cases step with
  | bytesField length gate =>
      rw [run_bytesField, run_bytesField]
      simp [Session.transferBytesField, writing, writing']
  | lend lent =>
      rw [run_lend, run_lend]
      simp only [Session.lendText, writing, writing']
  | marker expected =>
      rw [run_marker, run_marker] at failure_eq
      have failed_eq : (first.marker expected).2.hasFailed = (second.marker expected).2.hasFailed :=
        congrArg Option.isSome failure_eq
      rw [run_marker, run_marker, Session.marker_answer_of_writing writing,
        Session.marker_answer_of_writing writing', failed_eq]
  | expect expected =>
      rw [run_expect, run_expect, Session.expectMarker_next, Session.expectMarker_next]
        at failure_eq mismatch_eq
      have failed_eq : (first.marker expected).2.hasFailed = (second.marker expected).2.hasFailed :=
        congrArg Option.isSome failure_eq
      rw [run_expect, run_expect, Session.expectMarker_eq, Session.expectMarker_eq,
        Session.marker_answer_of_writing writing, Session.marker_answer_of_writing writing',
        failed_eq]
      simp only [Session.checkedMarker, Session.markerFailure]
      rw [show (first.marker expected).2.failure = _ from failure_eq,
        show (first.marker expected).2.mismatch = _ from mismatch_eq]
  | _ => rfl

namespace Session

/-- A session has failed because a memory had no room for bytes up to the given end: a request
was refused, or there is no address for them. -/
def LacksRoom (stop : Nat) (session : Session Memory) : Prop :=
  session.failure = some (.stream .outOfMemory) ∧ (∃ size, session.allocator.grants size = false) ∨
    session.failure = some (.stream .invalidInput) ∧ addressLimit ≤ stop

theorem LacksRoom.mono {stop further : Nat} {session : Session Memory}
    (lacks : session.LacksRoom stop) (le : stop ≤ further) : session.LacksRoom further := by
  rcases lacks with refused | ⟨failed, beyond⟩
  · exact Or.inl refused
  · exact Or.inr ⟨failed, Nat.le_trans beyond le⟩

theorem LacksRoom.hasFailed {stop : Nat} {session : Session Memory}
    (lacks : session.LacksRoom stop) : session.hasFailed = true := by
  rcases lacks with ⟨failed, _⟩ | ⟨failed, _⟩
  · exact hasFailed_of_failure failed
  · exact hasFailed_of_failure failed

/-- Sessions that have saved alike, onto a memory and a device that are level while the sessions
are sound. -/
structure SavesBeside (memory : Session Memory) (device : Session Device) : Prop where
  writing : memory.mode = .write
  writing_second : device.mode = .write
  failure_eq : memory.failure = device.failure
  mismatch_eq : memory.mismatch = device.mismatch
  log_eq : memory.log = device.log
  level : memory.failure = none → memory.stream.StandsBeside device.stream

theorem cursor_writeBytes_le (bytes : Bytes) (memory : Session Memory) :
    (memory.writeBytes bytes).stream.cursor ≤ memory.stream.cursor + bytes.length := by
  by_cases failed : memory.hasFailed = true
  · rw [writeBytes_of_hasFailed failed]
    exact Nat.le_add_right _ _
  · have sound : memory.failure = none := by simpa using failed
    rcases Memory.write_cases memory.allocator bytes memory.stream with
      ⟨next, written, holds⟩ | ⟨faulted, _⟩ | ⟨faulted, _⟩
    · rw [writeBytes_of_ok sound (by rw [written]), written]
      exact Nat.le_of_eq holds.cursor_eq
    · rw [writeBytes_of_error sound (by rw [faulted]), faulted]
      exact Nat.le_add_right _ _
    · rw [writeBytes_of_error sound (by rw [faulted]), faulted]
      exact Nat.le_add_right _ _

/-- The cursor moves on by no more than what is put out. -/
theorem cursor_putAll_le (outputs : List Output) (memory : Session Memory) :
    (memory.putAll outputs).stream.cursor ≤
      memory.stream.cursor + (Output.concat outputs).length := by
  induction outputs generalizing memory with
  | nil => exact Nat.le_refl _
  | cons output outputs ih =>
      have own : (memory.put output).stream.cursor ≤
          memory.stream.cursor + output.bytes.length := by
        cases output with
        | block stored => exact cursor_writeBytes_le stored memory
        | flag truth => exact cursor_writeBytes_le _ memory
        | refusal failure => exact Nat.le_refl _
      have rest := ih (memory.put output)
      rw [Output.concat_cons, List.length_append]
      exact Nat.le_trans rest (by omega)

namespace SavesBeside

variable {memory : Session Memory} {device : Session Device}

theorem resembles (beside : memory.SavesBeside device) : memory.Resembles device where
  failure_eq := beside.failure_eq
  mismatch_eq := beside.mismatch_eq
  log_eq := beside.log_eq
  finish_eq := finish_congr beside.failure_eq beside.mismatch_eq
  position_eq := fun sound => Matching.memoryDevice.position_eq (beside.level sound)

theorem hasFailed_eq (beside : memory.SavesBeside device) : memory.hasFailed = device.hasFailed := by
  rw [hasFailed, hasFailed, beside.failure_eq]

theorem fail (beside : memory.SavesBeside device) (failure : Failure) :
    (memory.fail failure).SavesBeside (device.fail failure) where
  writing := beside.writing
  writing_second := beside.writing_second
  failure_eq := congrArg (·.or (some failure)) beside.failure_eq
  mismatch_eq := beside.mismatch_eq
  log_eq := beside.log_eq
  level := fun sound => absurd sound (failure_fail_ne_none failure memory)

/-- Bytes are written to both, or the memory has no room for them. -/
theorem writeBytes (beside : memory.SavesBeside device) (bytes : Bytes) :
    (memory.writeBytes bytes).SavesBeside (device.writeBytes bytes) ∨
      (memory.writeBytes bytes).LacksRoom (memory.stream.cursor + bytes.length) := by
  by_cases failed : memory.hasFailed = true
  · rw [writeBytes_of_hasFailed failed,
      writeBytes_of_hasFailed (beside.hasFailed_eq.symm.trans failed)]
    exact Or.inl beside
  · have sound : memory.failure = none := by simpa using failed
    have sound' := beside.failure_eq.symm.trans sound
    rcases Memory.write_cases memory.allocator bytes memory.stream with
      ⟨next, written, holds⟩ | ⟨faulted, beyond⟩ | ⟨faulted, refused⟩
    · obtain ⟨device', written', level⟩ := (beside.level sound).write device.allocator holds
      rw [writeBytes_of_ok sound (by rw [written]), writeBytes_of_ok sound' (by rw [written']),
        written, written']
      exact Or.inl ⟨beside.writing, beside.writing_second, beside.failure_eq, beside.mismatch_eq,
        beside.log_eq, fun _ => level⟩
    · rw [writeBytes_of_error sound (by rw [faulted])]
      exact Or.inr (Or.inr ⟨rfl, beyond⟩)
    · rw [writeBytes_of_error sound (by rw [faulted])]
      exact Or.inr (Or.inl ⟨rfl, refused⟩)

theorem put (beside : memory.SavesBeside device) (output : Output) :
    (memory.put output).SavesBeside (device.put output) ∨
      (memory.put output).LacksRoom (memory.stream.cursor + output.bytes.length) := by
  cases output with
  | block stored => exact beside.writeBytes stored
  | flag truth => exact beside.writeBytes [if truth then 1 else 0]
  | refusal failure => exact Or.inl (beside.fail failure)

theorem putAll (beside : memory.SavesBeside device) (outputs : List Output) :
    (memory.putAll outputs).SavesBeside (device.putAll outputs) ∨
      (memory.putAll outputs).LacksRoom
        (memory.stream.cursor + (Output.concat outputs).length) := by
  induction outputs generalizing memory device with
  | nil => exact Or.inl beside
  | cons output outputs ih =>
      have reached := cursor_putAll_le [output] memory
      rw [Output.concat_cons, List.length_append]
      rcases beside.put output with still | lacks
      · rcases ih still with still | lacks
        · exact Or.inl still
        · refine Or.inr (lacks.mono ?_)
          simp only [putAll_cons, putAll_nil, Output.concat_cons, Output.concat_nil,
            List.append_nil] at reached
          omega
      · rw [putAll_cons, putAll_of_hasFailed lacks.hasFailed]
        exact Or.inr (lacks.mono (by omega))

end SavesBeside

end Session

namespace Routine

/-- A routine saves alike onto both, or the memory has no room for what it puts out. -/
theorem savesBeside {memory : Session Memory} {device : Session Device}
    (beside : memory.SavesBeside device) (routine : Routine) (given : routine.Values) :
    ((routine.run given memory).1 = (routine.run given device).1 ∧
        ∀ count, (routine.after given count memory).SavesBeside
          (routine.after given count device)) ∨
      (routine.run given memory).2.LacksRoom
        (memory.stream.cursor + (Output.concat (routine.outputs given)).length) := by
  induction routine generalizing memory device with
  | nil => exact Or.inl ⟨rfl, fun count => by cases count <;> exact beside⟩
  | cons step steps ih =>
      have front := step.run_of_writing beside.writing given.1
      have front' := step.run_of_writing beside.writing_second given.1
      have reached := Session.cursor_putAll_le (step.outputs given.1) memory
      have own := beside.putAll (step.outputs given.1)
      rw [← front] at reached
      rw [← front, ← front'] at own
      rw [outputs, Output.concat_append, List.length_append]
      rcases own with still | lacks
      · rcases ih still given.2 with ⟨same, later⟩ | lacks
        · refine Or.inl ⟨?_, fun count => ?_⟩
          · have answer := step.run_answer_congr beside.writing beside.writing_second given.1
              still.failure_eq still.mismatch_eq
            rw [run_cons, run_cons]
            dsimp only
            rw [answer, same]
          · cases count with
            | zero => exact beside
            | succ count => exact later count
        · exact Or.inr (lacks.mono (by omega))
      · have stays : (run (step :: steps) given memory).2 = (step.run given.1 memory).2 :=
          (run_moves steps given.2 _).eq_of_hasFailed lacks.hasFailed
        rw [stays]
        exact Or.inr (lacks.mono (by omega))

/-- What a session on a device has in common with one on a memory that stands as it does:
every step answers alike and leaves the same value, the sessions look the same behind every
step, and if they end without failure then both streams end with the same data and cursor. -/
structure Imitates (routine : Routine) (given : routine.Values) (memory : Session Memory)
    (device : Session Device) : Prop where
  runsAlike : routine.RunsAlike given memory device
  data_eq : (routine.run given memory).2.failure = none →
    (routine.run given device).2.stream.data = (routine.run given memory).2.stream.data
  cursor_eq : (routine.run given memory).2.failure = none →
    (routine.run given device).2.stream.cursor = (routine.run given memory).2.stream.cursor

/-- Partial transfers and interruptions are invisible.  Take a device that stands on its data
and tells its position, with any bound of at least one on what a call moves, and any script of
calls that move something or are interrupted.  Each of its transfers ends, and in either mode a
routine cannot tell it from a memory with the same data and cursor.  Only a memory that has no
room for what is saved fails where the device does not. -/
theorem interruptions_are_invisible {device : Device} (patient : device.IsPatient)
    (addressed : device.data.size < addressLimit) {memory : Memory}
    (data_eq : memory.data = device.data) (cursor_eq : memory.cursor = device.cursor)
    (routine : Routine) (given : routine.Values) (allocator : Allocator) (mode : Mode)
    (version : UInt32) (limits : Limits) :
    let onMemory := Session.start allocator memory mode version limits
    let onDevice := Session.start allocator device mode version limits
    (∀ reached : Device, reached.Ends) ∧
      (routine.Imitates given onMemory onDevice ∨
        mode = .write ∧ (routine.run given onMemory).2.LacksRoom
          (memory.cursor + (Output.concat (routine.outputs given)).length)) := by
  intro onMemory onDevice
  have level : memory.StandsBeside device := ⟨⟨data_eq, cursor_eq, patient.inside, addressed⟩, patient⟩
  have imitates : routine.RunsAlike given onMemory onDevice →
      ((routine.run given onMemory).2.failure = none →
        (routine.run given onMemory).2.stream.StandsBeside (routine.run given onDevice).2.stream) →
      routine.Imitates given onMemory onDevice := by
    intro alike ends
    exact ⟨alike, fun sound => (ends sound).stands.data_eq.symm,
      fun sound => (ends sound).stands.cursor_eq.symm⟩
  refine ⟨Device.ends, ?_⟩
  cases mode with
  | read =>
      have together : Matching.memoryDevice.Together onMemory onDevice :=
        Matching.together_start level allocator version limits
      have last := together.after routine given routine.length
      rw [after_length, after_length] at last
      exact Or.inl (imitates (together.runsAlike routine given) last.level)
  | write =>
      have beside : onMemory.SavesBeside onDevice :=
        ⟨rfl, rfl, rfl, rfl, rfl, fun _ => level⟩
      rcases savesBeside beside routine given with ⟨same, later⟩ | lacks
      · have last := later routine.length
        rw [after_length, after_length] at last
        exact Or.inl (imitates ⟨same, fun count => (later count).resembles⟩ last.level)
      · exact Or.inr ⟨rfl, lacks⟩

/-- A device that is interrupted, moves one byte, and then moves two at a call reads and writes
a number of four bytes as a memory does. -/
theorem interruptions_are_invisible_inside_number :
    let routine : Routine := [.value (.scalar .u32)]
    let device : Device := ⟨#[1, 2, 3, 4, 5], 1, [.fail .interrupted, .move 1], some 2, true⟩
    let loaded := routine.run (0#32, ()) (Session.start .unbounded device .read 0 .standard)
    let saved := (routine.run (0x09080706#32, ())
      (Session.start .unbounded device .write 0 .standard)).2
    (loaded.1.2 = (0x05040302#32, ()) ∧ loaded.2.stream.cursor = 5) ∧
      saved.finish = .ok () ∧ saved.stream.data = #[1, 6, 7, 8, 9] ∧ saved.stream.cursor = 5 := by
  intro routine device loaded saved
  have patient : device.IsPatient := by
    refine ⟨rfl, by simp [device], ?_, by decide⟩
    simp [device, Device.Patient]
  have addressed : device.data.size < addressLimit := by decide
  let memory : Memory := ⟨#[1, 2, 3, 4, 5], 1, 0⟩
  have data_eq : memory.data = device.data := rfl
  have cursor_eq : memory.cursor = device.cursor := rfl
  have invisible := interruptions_are_invisible patient addressed data_eq cursor_eq routine
  constructor
  · rcases (invisible (0#32, ()) .unbounded .read 0 .standard).2 with imitates | ⟨writing, _⟩
    · exact ⟨(congrArg Prod.snd imitates.runsAlike.answers_eq).symm, imitates.cursor_eq rfl⟩
    · cases writing
  · rcases (invisible (0x09080706#32, ()) .unbounded .write 0 .standard).2 with imitates | ⟨_, lacks⟩
    · exact ⟨(imitates.runsAlike.resembles 1).finish_eq.symm, imitates.data_eq rfl,
        imitates.cursor_eq rfl⟩
    · have sound := lacks.hasFailed
      cases sound

end Routine

end Snapshot
