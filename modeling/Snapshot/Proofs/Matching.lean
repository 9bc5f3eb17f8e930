import Snapshot.Proofs.Course
import Snapshot.Proofs.SideBySide

/-!
# Matching streams

Streams of two kinds match if level ones deliver the same to every read, or fail in the same
way.  Sessions that read from level streams are never told apart, whatever routine they run,
although the streams need not stay level behind a failed read.
-/

namespace Snapshot

/-- A relation of streams under which they are read alike.  What is left of it behind a failed
read may be less. -/
structure Matching (σ τ : Type) [ByteStream σ] [ByteStream τ] where
  Level : σ → τ → Prop
  Near : σ → τ → Prop
  near : ∀ {first second}, Level first second → Near first second
  position_eq : ∀ {first second}, Level first second →
    ByteStream.position first = ByteStream.position second
  /-- Both reads deliver the same bytes, or both fail in the same fault. -/
  read : ∀ {first second}, Level first second → ∀ count,
    (∃ bytes, (ByteStream.read count first).1 = .full bytes ∧
        (ByteStream.read count second).1 = .full bytes ∧
        Level (ByteStream.read count first).2 (ByteStream.read count second).2) ∨
      ∃ fault, (ByteStream.read count first).1.fault = some fault ∧
        (ByteStream.read count second).1.fault = some fault ∧
        Near (ByteStream.read count first).2 (ByteStream.read count second).2
  /-- Single bytes are read like any others. -/
  byte_eq : ∀ first : σ, ByteStream.readByte first =
    ((ByteStream.read 1 first).1.byte, (ByteStream.read 1 first).2)
  byte_eq_second : ∀ second : τ, ByteStream.readByte second =
    ((ByteStream.read 1 second).1.byte, (ByteStream.read 1 second).2)

/-- What can be seen of sessions on different streams is the same.  The positions agree as long
as the sessions have not failed. -/
structure Session.Resembles {σ τ : Type} [ByteStream σ] [ByteStream τ] (first : Session σ)
    (second : Session τ) : Prop where
  failure_eq : first.failure = second.failure
  mismatch_eq : first.mismatch = second.mismatch
  log_eq : first.log = second.log
  finish_eq : first.finish = second.finish
  position_eq : first.failure = none → first.position = second.position

/-- A routine runs alike in two sessions: each step answers the same and leaves the same value,
and behind each step the sessions look the same. -/
structure Routine.RunsAlike {σ τ : Type} [ByteStream σ] [ByteStream τ] (routine : Routine)
    (given : routine.Values) (first : Session σ) (second : Session τ) : Prop where
  answers_eq : (routine.run given first).1 = (routine.run given second).1
  resembles : ∀ count,
    (routine.after given count first).Resembles (routine.after given count second)

theorem Session.finish_congr {σ τ : Type} {first : Session σ} {second : Session τ}
    (failure_eq : first.failure = second.failure) (mismatch_eq : first.mismatch = second.mismatch) :
    first.finish = second.finish := by
  rw [finish, finish, failure_eq, mismatch_eq]

namespace Session

variable {σ : Type}

theorem failure_fail_ne_none (failure : Failure) (session : Session σ) :
    (session.fail failure).failure ≠ none := by
  intro sound
  have failed := hasFailed_fail failure session
  simp [hasFailed, sound] at failed

variable [ByteStream σ] {session : Session σ}

theorem readBytes_of_full {buffer bytes : Bytes} (sound : session.failure = none)
    (delivered : (ByteStream.read buffer.length session.stream).1 = .full bytes) :
    session.readBytes buffer =
      (bytes, { session with stream := (ByteStream.read buffer.length session.stream).2 }) := by
  have size := ByteStream.length_read buffer.length session.stream (by rw [delivered]; rfl)
  rw [delivered] at size
  rw [readBytes, if_neg (by simp [hasFailed, sound]), withStream_eq, delivered]
  exact Prod.ext (Delivery.onto_of_length_eq size) rfl

theorem readBytes_of_fault {buffer : Bytes} {fault : Fault} (sound : session.failure = none)
    (faulted : (ByteStream.read buffer.length session.stream).1.fault = some fault) :
    session.readBytes buffer =
      (Bytes.zeros buffer.length,
        fail (.stream fault)
          { session with stream := (ByteStream.read buffer.length session.stream).2 }) := by
  rw [readBytes, if_neg (by simp [hasFailed, sound]), withStream_eq]
  simp only [faulted]

theorem readFlag_of_ok {byte : UInt8} (sound : session.failure = none)
    (delivered : (ByteStream.readByte session.stream).1 = .ok byte) :
    session.readFlag =
      (byte != 0, { session with stream := (ByteStream.readByte session.stream).2 }) := by
  rw [readFlag, if_neg (by simp [hasFailed, sound]), withStream_eq, delivered]

theorem readFlag_of_error {fault : Fault} (sound : session.failure = none)
    (faulted : (ByteStream.readByte session.stream).1 = .error fault) :
    session.readFlag =
      (false, fail (.stream fault)
        { session with stream := (ByteStream.readByte session.stream).2 }) := by
  rw [readFlag, if_neg (by simp [hasFailed, sound]), withStream_eq, faulted]

end Session

namespace Matching

open Session

variable {σ τ : Type} [ByteStream σ] [ByteStream τ] {matching : Matching σ τ}
  {first : Session σ} {second : Session τ}

/-- Sessions that read alike, on streams that are level while the sessions are sound. -/
structure Together (matching : Matching σ τ) (first : Session σ) (second : Session τ) : Prop where
  alike : Alike first second
  allocator_eq : first.allocator = second.allocator
  near : matching.Near first.stream second.stream
  level : first.failure = none → matching.Level first.stream second.stream

namespace Together

theorem resembles (together : matching.Together first second) : first.Resembles second where
  failure_eq := together.alike.failure_eq
  mismatch_eq := together.alike.mismatch_eq
  log_eq := together.alike.log_eq
  finish_eq := finish_congr together.alike.failure_eq together.alike.mismatch_eq
  position_eq := fun sound => matching.position_eq (together.level sound)

theorem withStream (together : matching.Together first second) {left : σ} {right : τ}
    (level : matching.Level left right) :
    matching.Together { first with stream := left } { second with stream := right } :=
  ⟨together.alike.withStream left right, together.allocator_eq, matching.near level,
    fun _ => level⟩

theorem fail (together : matching.Together first second) (failure : Failure) :
    matching.Together (first.fail failure) (second.fail failure) where
  alike := together.alike.fail failure
  allocator_eq := together.allocator_eq
  near := together.near
  level := fun sound => absurd sound (failure_fail_ne_none failure first)

/-- Behind a fault the streams are only near each other. -/
theorem fault (together : matching.Together first second) {left : σ} {right : τ}
    (near : matching.Near left right) (failure : Failure) :
    matching.Together (Session.fail failure { first with stream := left })
      (Session.fail failure { second with stream := right }) where
  alike := (together.alike.withStream left right).fail failure
  allocator_eq := together.allocator_eq
  near := near
  level := fun sound => absurd sound (failure_fail_ne_none failure _)

theorem readBytes (together : matching.Together first second) (buffer : Bytes) :
    (first.readBytes buffer).1 = (second.readBytes buffer).1 ∧
      matching.Together (first.readBytes buffer).2 (second.readBytes buffer).2 := by
  by_cases failed : first.hasFailed = true
  · rw [readBytes_of_hasFailed failed,
      readBytes_of_hasFailed (together.alike.hasFailed_eq.symm.trans failed)]
    exact ⟨rfl, together⟩
  · have sound : first.failure = none := by simpa using failed
    have sound' := together.alike.failure_eq.symm.trans sound
    rcases matching.read (together.level sound) buffer.length with
      ⟨bytes, delivered, delivered', level⟩ | ⟨fault, faulted, faulted', near⟩
    · rw [readBytes_of_full sound delivered, readBytes_of_full sound' delivered']
      exact ⟨rfl, together.withStream level⟩
    · rw [readBytes_of_fault sound faulted, readBytes_of_fault sound' faulted']
      exact ⟨rfl, together.fault near (.stream fault)⟩

theorem readFlag (together : matching.Together first second) :
    first.readFlag.1 = second.readFlag.1 ∧
      matching.Together first.readFlag.2 second.readFlag.2 := by
  by_cases failed : first.hasFailed = true
  · rw [readFlag_of_hasFailed failed,
      readFlag_of_hasFailed (together.alike.hasFailed_eq.symm.trans failed)]
    exact ⟨rfl, together⟩
  · have sound : first.failure = none := by simpa using failed
    have sound' := together.alike.failure_eq.symm.trans sound
    have single := matching.byte_eq first.stream
    have single' := matching.byte_eq_second second.stream
    rcases matching.read (together.level sound) 1 with
      ⟨bytes, delivered, delivered', level⟩ | ⟨fault, faulted, faulted', near⟩
    · rw [readFlag_of_ok sound (by rw [single, delivered]; rfl),
        readFlag_of_ok sound' (by rw [single', delivered']; rfl), single, single']
      exact ⟨rfl, together.withStream level⟩
    · have byte : (ByteStream.read 1 first.stream).1.byte = .error fault := by
        rw [Delivery.byte, faulted]
      have byte' : (ByteStream.read 1 second.stream).1.byte = .error fault := by
        rw [Delivery.byte, faulted']
      rw [readFlag_of_error sound (by rw [single, byte]),
        readFlag_of_error sound' (by rw [single', byte']), single, single']
      exact ⟨rfl, together.fault near (.stream fault)⟩

end Together

/-- Sessions on matching streams, which never part. -/
def coupling (matching : Matching σ τ) : Coupling σ τ where
  Together := matching.Together
  Parted _ _ := False
  akin := fun together => together.alike.toAkin
  position_eq := fun together sound => matching.position_eq (together.level sound)
  parted_moves := fun parted _ _ => parted
  fail := Together.fail
  report := fun together event =>
    ⟨together.alike.report event, together.allocator_eq, together.near, together.level⟩
  recordMismatch := by
    intro first second together sound found expected
    have same : first.position = second.position := matching.position_eq (together.level sound)
    exact ⟨together.alike.recordMismatch same found expected, together.allocator_eq,
      together.near, together.level⟩
  readBytes := fun together buffer => Or.inr (together.readBytes buffer)
  readFlag := fun together => Or.inr together.readFlag
  reserve := by
    intro first second together _ size capacity count
    rw [together.allocator_eq]
    exact Or.inl rfl

/-- Behind any number of steps the sessions are still together. -/
theorem Together.after (together : matching.Together first second) (routine : Routine)
    (given : routine.Values) (count : Nat) :
    matching.Together (routine.after given count first) (routine.after given count second) := by
  have still : matching.coupling.Together (routine.after given count first)
      (routine.after given count second) :=
    routine.together_after (fun _ _ parted => parted) together given count
  exact still

/-- Routines run alike on matching streams. -/
theorem Together.runsAlike (together : matching.Together first second) (routine : Routine)
    (given : routine.Values) : routine.RunsAlike given first second where
  answers_eq := by
    have beside : matching.coupling.Together first second := together
    exact routine.answers_eq_of_together (fun _ _ parted => parted) beside given
  resembles := fun count => (together.after routine given count).resembles

/-- Sessions that start on level streams are together. -/
theorem together_start {left : σ} {right : τ} (level : matching.Level left right)
    (allocator : Allocator) (version : UInt32) (limits : Limits) :
    matching.Together (Session.start allocator left .read version limits)
      (Session.start allocator right .read version limits) :=
  ⟨⟨⟨rfl, rfl, rfl, rfl, rfl⟩, rfl, rfl⟩, rfl, matching.near level, fun _ => level⟩

end Matching

end Snapshot
