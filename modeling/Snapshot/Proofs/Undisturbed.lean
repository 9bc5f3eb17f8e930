import Snapshot.Proofs.Course
import Snapshot.Proofs.FailedSession
import Snapshot.Stream.Bounded
import Snapshot.Stream.Device
import Snapshot.Stream.File
import Snapshot.Stream.Memory
import Snapshot.Stream.Slice

/-!
# What a session leaves alone

Saving leaves every value with its owner as it was, and loading leaves the bytes that are
loaded as they were.  Both follow from the moves of a session: one that writes never reads,
one that reads never writes, and what holds over each read of a stream holds over them all.
-/

namespace Snapshot

/-! ## Reads -/

/-- A relation between the states of a stream that holds over each read, and hence over any
number of them. -/
structure ByteStream.HoldsOverReads {σ : Type} [ByteStream σ] (relation : σ → σ → Prop) :
    Prop where
  refl : ∀ stream, relation stream stream
  trans : ∀ {first middle last}, relation first middle → relation middle last →
    relation first last
  read : ∀ count stream, relation stream (ByteStream.read count stream).2
  readByte : ∀ stream, relation stream (ByteStream.readByte stream).2

/-- The data is the same, and the position is not behind the earlier one. -/
def Memory.Advances (earlier later : Memory) : Prop :=
  later.data = earlier.data ∧ ByteStream.position earlier ≤ ByteStream.position later

/-- The data is the same, and the position is not behind the earlier one. -/
def Slice.Advances (earlier later : Slice) : Prop :=
  later.data = earlier.data ∧ ByteStream.position earlier ≤ ByteStream.position later

theorem Memory.read_advances (count : Nat) (memory : Memory) :
    memory.Advances (memory.read count).2 := by
  obtain ⟨data, cursor, spare⟩ := memory
  rw [read]
  split
  · exact ⟨rfl, Nat.le_add_right cursor count⟩
  · exact ⟨rfl, Nat.le_refl cursor⟩

theorem Memory.advances_holds : ByteStream.HoldsOverReads Memory.Advances where
  refl _ := ⟨rfl, Nat.le_refl _⟩
  trans front back := ⟨back.1.trans front.1, Nat.le_trans front.2 back.2⟩
  read := read_advances
  readByte := read_advances 1

theorem Slice.read_advances (count : Nat) (slice : Slice) :
    slice.Advances (slice.read count).2 := by
  rw [read]
  split
  · exact ⟨rfl, Nat.le_add_right slice.cursor count⟩
  · exact ⟨rfl, Nat.le_refl slice.cursor⟩

theorem Slice.advances_holds : ByteStream.HoldsOverReads Slice.Advances where
  refl _ := ⟨rfl, Nat.le_refl _⟩
  trans front back := ⟨back.1.trans front.1, Nat.le_trans front.2 back.2⟩
  read := read_advances
  readByte := read_advances 1

/-- What every read leaves alone is the same after any number of them. -/
theorem ByteStream.holdsOverReads_of_eq {σ α : Type} [ByteStream σ] {view : σ → α}
    (read : ∀ count stream, view (ByteStream.read count stream).2 = view stream)
    (readByte : ∀ stream, view (ByteStream.readByte stream).2 = view stream) :
    ByteStream.HoldsOverReads fun earlier later : σ => view later = view earlier where
  refl _ := rfl
  trans front back := back.trans front
  read := read
  readByte := readByte

theorem File.data_read (count : Nat) (file : File) : (file.read count).2.data = file.data := by
  obtain ⟨data, cursor⟩ := file
  rw [read]
  split
  · rfl
  · rfl

theorem Device.data_readLoop (limit : Option Nat) (data : Storage) (seekable : Bool)
    (wanted cursor : Nat) (script : List Response) (got : Storage) :
    (readLoop limit data seekable wanted cursor script got).2.data = data := by
  fun_induction readLoop limit data seekable wanted cursor script got with
  | case1 => rfl
  | case2 => rfl
  | case3 wanted cursor script got _ bound rest called moved _ ih => exact ih
  | case4 wanted cursor script got _ rest called ih => exact ih
  | case5 => rfl

theorem Device.data_read (count : Nat) (device : Device) :
    (device.read count).2.data = device.data := by
  rw [read_eq]
  exact data_readLoop device.limit device.data device.seekable count device.cursor device.script #[]

variable {σ : Type} [ByteStream σ]

theorem Transfers.relates {relation : σ → σ → Prop} (holds : ByteStream.HoldsOverReads relation)
    {before after : σ} {fault : Option Fault}
    (transferred : Transfers before .read fault after) : relation before after := by
  cases transferred with
  | read count => exact holds.read count before
  | readByte => exact holds.readByte before

/-- What holds over each read holds over the moves of a session that reads. -/
theorem Session.Moves.relates {relation : σ → σ → Prop}
    (holds : ByteStream.HoldsOverReads relation) {marks : Bool} {first last : Session σ}
    (moves : Session.Moves marks .read first last) : relation first.stream last.stream :=
  moves.preserves (fun transferred related => holds.trans related (transferred.relates holds))
    (holds.refl first.stream)

/-! ## Absent fields and attempts -/

/-- A step for a field that the state lacks leaves the session alone. -/
theorem Step.next_of_absent {session : Session σ} (reading : session.mode = .read) {step : Step}
    (absent : step.isPresent session.version = false) (given : step.Value) :
    (step.run given session).2 = session := by
  cases step with
  | field layout gate =>
      have skipped : session.mode = .read ∧ gate.isPresent session.version = false :=
        ⟨reading, absent⟩
      rw [run, Session.transferField, if_pos skipped]
  | bytesField length gate =>
      have skipped : session.mode = .read ∧ gate.isPresent session.version = false :=
        ⟨reading, absent⟩
      rw [run_bytesField, Session.transferBytesField, if_pos skipped]
      split
      · rfl
      · rfl
  | _ => cases absent

namespace Routine

/-- A routine that is attempted ends at a point of its course. -/
theorem exists_after_eq_attempt (routine : Routine) (given : routine.Values)
    (session : Session σ) :
    ∃ count, (routine.attempt given session).2 = routine.after given count session := by
  induction routine generalizing session with
  | nil => exact ⟨0, rfl⟩
  | cons step steps ih =>
      cases answer : (step.run given.1 session).1.1.failure? with
      | some failure =>
          rw [attempt_cons_of_failure answer]
          exact ⟨1, by cases steps <;> rfl⟩
      | none =>
          obtain ⟨count, same⟩ := ih given.2 (step.run given.1 session).2
          rw [attempt_cons_of_none answer]
          exact ⟨count + 1, same⟩

theorem run_values_of_writing {session : Session σ} (writing : session.mode = .write)
    (routine : Routine) (given : routine.Values) : (routine.run given session).1.2 = given := by
  induction routine generalizing session with
  | nil => rfl
  | cons step steps ih =>
      have kept := (step.run_moves given.1 session).settings.1.trans writing
      rw [run_cons, step.run_value_of_writing writing, ih kept]

theorem attempt_values_of_writing {session : Session σ} (writing : session.mode = .write)
    (routine : Routine) (given : routine.Values) :
    (routine.attempt given session).1.2 = given := by
  induction routine generalizing session with
  | nil => rfl
  | cons step steps ih =>
      have kept := (step.run_moves given.1 session).settings.1.trans writing
      cases answer : (step.run given.1 session).1.1.failure? with
      | some failure =>
          rw [attempt_cons_of_failure answer, step.run_value_of_writing writing]
      | none =>
          rw [attempt_cons_of_none answer, step.run_value_of_writing writing, ih kept]

/-! ## The whole routine -/

/-- What a routine leaves alone, at every point of its course. -/
structure LeavesAlone (routine : Routine) (given : routine.Values) (session : Session σ) :
    Prop where
  /-- The settings of a session are fixed. -/
  settings : ∀ count, (routine.after given count session).mode = session.mode ∧
    (routine.after given count session).version = session.version ∧
    (routine.after given count session).limits = session.limits
  /-- Saving leaves every value as it is, whether the routine runs to its end or breaks off. -/
  values : session.mode = .write →
    (routine.run given session).1.2 = given ∧ (routine.attempt given session).1.2 = given
  /-- Saving records no mismatch and logs nothing. -/
  unmarked : session.mode = .write → ∀ count,
    (routine.after given count session).mismatch = session.mismatch ∧
      (routine.after given count session).log = session.log
  /-- What holds over each read of the stream holds between any two points of loading. -/
  reads : session.mode = .read → ∀ relation : σ → σ → Prop, ByteStream.HoldsOverReads relation →
    ∀ {early late}, early ≤ late →
      relation (routine.after given early session).stream (routine.after given late session).stream
  /-- Loading leaves the session alone at a field that the state lacks. -/
  absent : session.mode = .read → ∀ index : Fin routine.length,
    (routine.get index).isPresent session.version = false →
      routine.after given (index.val + 1) session = routine.after given index.val session
  /-- A routine that breaks off does so at a point of its course. -/
  attempts : ∃ count, (routine.attempt given session).2 = routine.after given count session
  /-- A failed session stays as it is. -/
  failed : ∀ {early late}, early ≤ late →
    (routine.after given early session).hasFailed = true →
      routine.after given late session = routine.after given early session

theorem leavesAlone (routine : Routine) (given : routine.Values) (session : Session σ) :
    routine.LeavesAlone given session where
  settings count := by
    obtain ⟨mode, version, limits, _⟩ := (routine.after_moves given count session).settings
    exact ⟨mode, version, limits⟩
  values writing :=
    ⟨routine.run_values_of_writing writing given, routine.attempt_values_of_writing writing given⟩
  unmarked writing count := by
    have moves := routine.after_moves given count session
    rw [writing] at moves
    exact moves.quiet
  reads reading relation holds early late ordered := by
    have moves := routine.after_moves_after given ordered session
    rw [reading] at moves
    exact moves.relates holds
  absent reading index lacking := by
    obtain ⟨mode, version, _⟩ := (routine.after_moves given index.val session).settings
    rw [after_succ]
    exact Step.next_of_absent (mode.trans reading) (by rw [version]; exact lacking) _
  attempts := routine.exists_after_eq_attempt given session
  failed ordered failed := (routine.after_moves_after given ordered session).eq_of_hasFailed failed

/-- Saving does not disturb what is saved, and loading does not disturb what is loaded.  For
every session over any stream, the mode, the version and the limits are fixed.  Saving leaves
every value as it is and records no mismatch, also where a transfer fails.  Loading leaves the
data of a memory, a slice, a file and a device as it is, and of any other stream whatever each
of its reads leaves alone; on a memory and a slice the position never goes back.  At an absent
field, and once the session has failed, nothing moves at all. -/
theorem saving_and_loading_disturb_nothing (routine : Routine) (given : routine.Values) :
    (∀ {σ : Type} [ByteStream σ] (session : Session σ), routine.LeavesAlone given session) ∧
    (∀ session : Session Memory, session.mode = .read → ∀ {early late}, early ≤ late →
      (routine.after given early session).stream.Advances
        (routine.after given late session).stream) ∧
    (∀ session : Session Slice, session.mode = .read → ∀ {early late}, early ≤ late →
      (routine.after given early session).stream.Advances
        (routine.after given late session).stream) ∧
    (∀ session : Session File, session.mode = .read → ∀ {early late}, early ≤ late →
      (routine.after given late session).stream.data =
        (routine.after given early session).stream.data) ∧
    (∀ session : Session Device, session.mode = .read → ∀ {early late}, early ≤ late →
      (routine.after given late session).stream.data =
        (routine.after given early session).stream.data) := by
  have leaves {σ : Type} [ByteStream σ] (session : Session σ) := routine.leavesAlone given session
  refine ⟨leaves, ?_, ?_, ?_, ?_⟩
  · exact fun session reading _ _ ordered =>
      (leaves session).reads reading _ Memory.advances_holds ordered
  · exact fun session reading _ _ ordered =>
      (leaves session).reads reading _ Slice.advances_holds ordered
  · have kept := ByteStream.holdsOverReads_of_eq File.data_read (File.data_read 1)
    exact fun session reading _ _ ordered => (leaves session).reads reading _ kept ordered
  · have kept := ByteStream.holdsOverReads_of_eq Device.data_read (Device.data_read 1)
    exact fun session reading _ _ ordered => (leaves session).reads reading _ kept ordered

/-- A text is loaded, a field is absent, and a marker is cut off: the bytes are as before, the
position stands behind the text, and it stays there.  Saving the same values to a store that is
too small leaves them as they are. -/
theorem saving_and_loading_disturb_nothing_around_absent_field :
    let routine : Routine := [.value .text, .field .bool ⟨5, true⟩, .marker "TIMR"]
    let given : routine.Values := ("old", false, (), ())
    let loading := Session.start .unbounded (Memory.ofBytes [2, 0, 0, 0, 72, 105, 4, 0]) .read 4
      .standard
    let saving := Session.start .unbounded (Bounded.empty 6) .write 4 .standard
    (loading.mode = .read ∧ loading.stream.Advances (routine.after given 3 loading).stream ∧
      (routine.after given 2 loading = routine.after given 1 loading) ∧
      (routine.after given 1 loading).position = 6 ∧ (routine.after given 3 loading).position = 6 ∧
      (routine.after given 3 loading).failure = some (.stream .unexpectedEnd)) ∧
    (saving.mode = .write ∧ (routine.run given saving).1.2 = given ∧
      (routine.run given saving).2.mismatch = none ∧
      (routine.run given saving).2.failure = some (.stream .writeZero)) := by
  intro routine given loading saving
  obtain ⟨leaves, memory, _⟩ := saving_and_loading_disturb_nothing routine given
  have loaded := leaves loading
  have saved := leaves saving
  refine ⟨⟨rfl, memory loading rfl (Nat.zero_le 3), loaded.absent rfl ⟨1, by decide⟩ rfl, ?_, ?_, ?_⟩,
    rfl, (saved.values rfl).1, ?_, ?_⟩
  · decide +kernel
  · decide +kernel
  · decide +kernel
  · have unmarked := (saved.unmarked rfl routine.length).1
    rw [after_length] at unmarked
    exact unmarked
  · decide +kernel

end Routine

end Snapshot
