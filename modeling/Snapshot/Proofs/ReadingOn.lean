import Snapshot.Proofs.Availability
import Snapshot.Proofs.Interruptions
import Snapshot.Proofs.StreamAgreement

/-!
# Reading on

What a session reads next depends neither on what it has logged nor on the mismatches that it has
met.  Two sessions that came to the same place of a stream in different ways are therefore not
told apart by what they read on, if it does not matter to the stream how the reads were split that
led there.  That is so of memory, and of whatever stream matches a memory: of slices, of files and
of devices that are only slow.
-/

namespace Snapshot

namespace Session

variable {σ : Type}

/-- The session with other records. -/
def withRecords (mismatch : Option Mismatch) (log : Array Event) (session : Session σ) :
    Session σ :=
  { session with mismatch := mismatch, log := log }

variable [ByteStream σ]

theorem readBytes_withRecords (mismatch : Option Mismatch) (log : Array Event) (buffer : Bytes)
    (session : Session σ) :
    (session.withRecords mismatch log).readBytes buffer =
      ((session.readBytes buffer).1, (session.readBytes buffer).2.withRecords mismatch log) := by
  have failed_eq : (session.withRecords mismatch log).hasFailed = session.hasFailed := rfl
  rw [readBytes, readBytes, failed_eq]
  split
  · rfl
  · rw [withStream_eq, withStream_eq]
    dsimp only [withRecords]
    split
    · rfl
    · rfl

theorem readFlag_withRecords (mismatch : Option Mismatch) (log : Array Event)
    (session : Session σ) :
    (session.withRecords mismatch log).readFlag =
      (session.readFlag.1, session.readFlag.2.withRecords mismatch log) := by
  have failed_eq : (session.withRecords mismatch log).hasFailed = session.hasFailed := rfl
  rw [readFlag, readFlag, failed_eq]
  split
  · rfl
  · rw [withStream_eq, withStream_eq]
    dsimp only [withRecords]
    cases (ByteStream.readByte session.stream).1 with
    | ok byte => rfl
    | error fault => rfl

end Session

/-! ## Sessions that differ in their records -/

/-- A routine reads the same in two sessions: each step answers the same and leaves the same value,
and behind each step the failures are the same, and so are the positions unless the sessions have
failed. -/
structure Routine.ReadsAlike {σ τ : Type} [ByteStream σ] [ByteStream τ] (routine : Routine)
    (given : routine.Values) (first : Session σ) (second : Session τ) : Prop where
  answers_eq : (routine.run given first).1 = (routine.run given second).1
  failure_eq : ∀ count,
    (routine.after given count first).failure = (routine.after given count second).failure
  position_eq : ∀ count, (routine.after given count first).failure = none →
    (routine.after given count first).position = (routine.after given count second).position

namespace Matching

open Session

variable {σ τ : Type} [ByteStream σ] [ByteStream τ] {matching : Matching σ τ}
  {first : Session σ} {second : Session τ}

/-- Sessions that are together apart from their records. -/
def TogetherAhead (matching : Matching σ τ) (first : Session σ) (second : Session τ) : Prop :=
  ∃ mismatch log, matching.Together first (second.withRecords mismatch log)

/-- Sessions on matching streams, whatever they have recorded. -/
def couplingAhead (matching : Matching σ τ) : Coupling σ τ where
  Together := matching.TogetherAhead
  Parted _ _ := False
  akin := by
    rintro first second ⟨mismatch, log, together⟩
    exact ⟨together.alike.reading, together.alike.reading_second, together.alike.version_eq,
      together.alike.limits_eq, together.alike.failure_eq⟩
  position_eq := by
    rintro first second ⟨mismatch, log, together⟩ sound
    exact matching.position_eq (together.level sound)
  parted_moves := fun parted _ _ => parted
  fail := by
    rintro first second ⟨mismatch, log, together⟩ failure
    exact ⟨mismatch, log, together.fail failure⟩
  report := by
    rintro first second ⟨mismatch, log, together⟩ event
    exact ⟨mismatch, log.push event, matching.coupling.report together event⟩
  recordMismatch := by
    rintro first second ⟨mismatch, log, together⟩ sound found expected
    exact ⟨_, _, matching.coupling.recordMismatch together sound found expected⟩
  readBytes := by
    rintro first second ⟨mismatch, log, together⟩ buffer
    have agrees := together.readBytes buffer
    rw [readBytes_withRecords] at agrees
    exact Or.inr ⟨agrees.1, mismatch, log, agrees.2⟩
  readFlag := by
    rintro first second ⟨mismatch, log, together⟩
    have agrees := together.readFlag
    rw [readFlag_withRecords] at agrees
    exact Or.inr ⟨agrees.1, mismatch, log, agrees.2⟩
  reserve := by
    rintro first second ⟨mismatch, log, together⟩ sound size capacity count
    exact matching.coupling.reserve together sound size capacity count

/-- Whatever the sessions have recorded, routines read on alike. -/
theorem TogetherAhead.readsAlike (together : matching.TogetherAhead first second)
    (routine : Routine) (given : routine.Values) : routine.ReadsAlike given first second := by
  have beside : matching.couplingAhead.Together first second := together
  have still := routine.together_after (fun _ _ parted => parted) beside given
  exact ⟨routine.answers_eq_of_together (fun _ _ parted => parted) beside given,
    fun count => (matching.couplingAhead.akin (still count)).failure_eq,
    fun count sound => matching.couplingAhead.position_eq (still count) sound⟩

end Matching

/-! ## Streams to which it does not matter how reads are split -/

/-- However the reads were split that delivered the same bytes, what the stream has ahead behind
them is read the same. -/
def ByteStream.SplitsFreely {σ : Type} [ByteStream σ] (state : σ) : Prop :=
  ∃ matching : Matching σ σ, ∀ {bytes : Bytes} {first second : σ},
    Delivers state bytes first → Delivers state bytes second → matching.Level first second

namespace Matching

variable {ρ σ : Type} [ByteStream ρ] [ByteStream σ]

/-- A stream matches itself, if single bytes are read like any others. -/
def self (single : ∀ state : σ, ByteStream.readByte state =
    ((ByteStream.read 1 state).1.byte, (ByteStream.read 1 state).2)) : Matching σ σ where
  Level first second := first = second
  Near first second := first = second
  near := id
  position_eq := congrArg ByteStream.position
  read := by
    rintro state _ rfl count
    cases outcome : (ByteStream.read count state).1.fault with
    | some fault => exact Or.inr ⟨fault, rfl, rfl, rfl⟩
    | none =>
        have full : (ByteStream.read count state).1 =
            .full (ByteStream.read count state).1.bytes := by
          rw [Delivery.full, ← outcome]
        exact Or.inl ⟨_, full, full, rfl⟩
  byte_eq := single
  byte_eq_second := single

/-- Streams that match the same stream match each other. -/
def beside (matching : Matching ρ σ) : Matching σ σ where
  Level first second := ∃ model, matching.Level model first ∧ matching.Level model second
  Near first second := ∃ model, matching.Near model first ∧ matching.Near model second
  near := by
    rintro first second ⟨model, left, right⟩
    exact ⟨model, matching.near left, matching.near right⟩
  position_eq := by
    rintro first second ⟨model, left, right⟩
    exact (matching.position_eq left).symm.trans (matching.position_eq right)
  read := by
    rintro first second ⟨model, left, right⟩ count
    rcases matching.read left count with
      ⟨bytes, here, there, further⟩ | ⟨fault, here, there, near⟩
    · rcases matching.read right count with ⟨bytes', here', there', further'⟩ | ⟨fault, here', _, _⟩
      · have same : bytes' = bytes := congrArg Delivery.bytes (here'.symm.trans here)
        rw [same] at there'
        exact Or.inl ⟨bytes, there, there', _, further, further'⟩
      · rw [here] at here'
        cases here'
    · rcases matching.read right count with ⟨bytes', here', _, _⟩ | ⟨fault', here', there', near'⟩
      · rw [here'] at here
        cases here
      · have same : fault' = fault := Option.some.inj (here'.symm.trans here)
        rw [same] at there'
        exact Or.inr ⟨fault, there, there', _, near, near'⟩
  byte_eq := matching.byte_eq_second
  byte_eq_second := matching.byte_eq_second

end Matching

namespace Memory

theorem next_read_of_full {memory : Memory} {count : Nat} {bytes : Bytes}
    (delivered : (ByteStream.read count memory).1 = .full bytes) :
    (ByteStream.read count memory).2 = { memory with cursor := memory.cursor + count } := by
  obtain ⟨data, cursor, spare⟩ := memory
  change (Memory.read count ⟨data, cursor, spare⟩).1 = _ at delivered
  change (Memory.read count ⟨data, cursor, spare⟩).2 = _
  simp only [Memory.read] at delivered ⊢
  split at delivered
  · next within => rw [if_pos within]
  · cases congrArg Delivery.fault delivered

/-- Reads that succeed move the cursor over what they deliver, and change nothing else. -/
theorem eq_of_delivers {memory next : Memory} {bytes : Bytes}
    (reached : Delivers memory bytes next) :
    next = { memory with cursor := memory.cursor + bytes.length } := by
  induction reached with
  | refl => rfl
  | @tail front more between count reached delivered ih =>
      rw [next_read_of_full delivered, ih, List.length_append, length_of_full delivered,
        ← Nat.add_assoc]

/-- To a memory it does not matter how reads are split. -/
theorem splitsFreely (memory : Memory) : ByteStream.SplitsFreely memory := by
  refine ⟨.self Supply.readByte_eq, ?_⟩
  intro bytes first second left right
  exact (eq_of_delivers left).trans (eq_of_delivers right).symm

/-- Nor does it matter to a stream that matches a memory. -/
theorem splitsFreely_of_level {σ : Type} [ByteStream σ] (matching : Matching Memory σ)
    {memory : Memory} {state : σ} (level : matching.Level memory state) :
    ByteStream.SplitsFreely state := by
  refine ⟨matching.beside, ?_⟩
  intro bytes first second left right
  obtain ⟨before, reached, first_level⟩ := matching.delivers level left
  obtain ⟨before', reached', second_level⟩ := matching.delivers level right
  have same : before' = before := (eq_of_delivers reached').trans (eq_of_delivers reached).symm
  subst same
  exact ⟨before', first_level, second_level⟩

end Memory

theorem Slice.splitsFreely {slice : Slice} (inside : slice.cursor ≤ slice.data.size)
    (addressed : slice.data.size < addressLimit) : ByteStream.SplitsFreely slice := by
  have stands : (Memory.mk slice.data slice.cursor 0).StandsOn slice.data slice.cursor :=
    ⟨rfl, rfl, inside, addressed⟩
  exact Memory.splitsFreely_of_level .memorySlice stands

theorem File.splitsFreely {file : File} (inside : file.cursor ≤ file.data.size)
    (addressed : file.data.size < addressLimit) : ByteStream.SplitsFreely file := by
  have stands : (Memory.mk file.data file.cursor 0).StandsOn file.data file.cursor :=
    ⟨rfl, rfl, inside, addressed⟩
  exact Memory.splitsFreely_of_level .memoryFile stands

/-- Where the calls to a device stop does not matter as long as each moves a byte or is only
interrupted. -/
theorem Device.splitsFreely {device : Device} (patient : device.IsPatient)
    (addressed : device.data.size < addressLimit) : ByteStream.SplitsFreely device := by
  have stands : (Memory.mk device.data device.cursor 0).StandsOn device.data device.cursor :=
    ⟨rfl, rfl, patient.inside, addressed⟩
  exact Memory.splitsFreely_of_level .memoryDevice ⟨stands, patient⟩

end Snapshot
