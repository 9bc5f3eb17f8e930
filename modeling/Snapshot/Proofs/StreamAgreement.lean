import Snapshot.Proofs.Matching
import Snapshot.Proofs.Supply
import Snapshot.Stream.File
import Snapshot.Stream.Memory
import Snapshot.Stream.Slice

/-!
# Agreement of memory, slices and files

Memory, slices and files tell in different ways whether a read stays within their data, and
after a read that does not, the cursor of a file stands elsewhere.  No session that reads can
tell them apart by its values, failures, mismatches or log.
-/

namespace Snapshot

/-- A memory of the given data, all of which have addresses, with its cursor on them. -/
structure Memory.StandsOn (memory : Memory) (data : Storage) (cursor : Nat) : Prop where
  data_eq : memory.data = data
  cursor_eq : memory.cursor = cursor
  inside : cursor ≤ data.size
  addressed : data.size < addressLimit

namespace Memory.StandsOn

variable {memory : Memory} {data : Storage} {cursor count : Nat}

/-- What is left of the data is read. -/
theorem read_of_le (stands : memory.StandsOn data cursor) (enough : cursor + count ≤ data.size) :
    (ByteStream.read count memory).1 = .full (Storage.bytesAt data cursor count) ∧
      (ByteStream.read count memory).2.StandsOn data (cursor + count) := by
  obtain ⟨rfl, rfl, inside, addressed⟩ := stands
  have within : memory.cursor + count < addressLimit ∧ memory.cursor + count ≤ memory.data.size :=
    ⟨Nat.lt_of_le_of_lt enough addressed, enough⟩
  have outcome : ByteStream.read count memory = _ := if_pos within
  rw [outcome]
  exact ⟨rfl, rfl, rfl, enough, addressed⟩

/-- A read past the end changes nothing. -/
theorem read_of_lt (stands : memory.StandsOn data cursor) (short : data.size < cursor + count) :
    ByteStream.read count memory = (.failed .unexpectedEnd, memory) := by
  obtain ⟨rfl, rfl, inside, addressed⟩ := stands
  exact if_neg fun within => Nat.not_le_of_lt short within.2

theorem ofBytes {bytes : Bytes} (addressable : bytes.length < addressLimit) :
    (Memory.ofBytes bytes).StandsOn bytes.toArray 0 :=
  ⟨rfl, rfl, Nat.zero_le _, addressable⟩

end Memory.StandsOn

namespace Slice

theorem read_of_le {slice : Slice} {count : Nat}
    (enough : slice.cursor + count ≤ slice.data.size) :
    ByteStream.read count slice = (.full (Storage.bytesAt slice.data slice.cursor count),
      { slice with cursor := slice.cursor + count }) :=
  if_pos (by omega)

theorem read_of_lt {slice : Slice} {count : Nat} (inside : slice.cursor ≤ slice.data.size)
    (short : slice.data.size < slice.cursor + count) :
    ByteStream.read count slice = (.failed .unexpectedEnd, slice) :=
  if_neg (by omega)

end Slice

namespace File

theorem readByte_eq (file : File) : ByteStream.readByte file =
    ((ByteStream.read 1 file).1.byte, (ByteStream.read 1 file).2) :=
  rfl

theorem read_of_le {file : File} {count : Nat}
    (enough : file.cursor + count ≤ file.data.size) :
    ByteStream.read count file = (.full (Storage.bytesAt file.data file.cursor count),
      { file with cursor := file.cursor + count }) :=
  if_pos (by omega)

/-- A read past the end moves the cursor to the end. -/
theorem read_of_lt {file : File} {count : Nat} (inside : file.cursor ≤ file.data.size)
    (short : file.data.size < file.cursor + count) :
    ByteStream.read count file =
      (.failed .unexpectedEnd, { file with cursor := file.data.size }) :=
  if_neg (by omega)

end File

namespace Matching

/-- A memory and a slice of the same data stay level whatever is read. -/
def memorySlice : Matching Memory Slice where
  Level memory slice := memory.StandsOn slice.data slice.cursor
  Near memory slice := memory.StandsOn slice.data slice.cursor
  near := id
  position_eq := fun stands => stands.cursor_eq
  read := by
    intro memory slice stands count
    rcases Nat.lt_or_ge slice.data.size (slice.cursor + count) with short | enough
    · rw [stands.read_of_lt short, Slice.read_of_lt stands.inside short]
      exact Or.inr ⟨.unexpectedEnd, rfl, rfl, stands⟩
    · obtain ⟨delivered, further⟩ := stands.read_of_le enough
      rw [Slice.read_of_le enough]
      exact Or.inl ⟨_, delivered, rfl, further⟩
  byte_eq := Supply.readByte_eq
  byte_eq_second := Supply.readByte_eq

/-- A memory and a file of the same data stay level until a read passes the end. -/
def memoryFile : Matching Memory File where
  Level memory file := memory.StandsOn file.data file.cursor
  Near _ _ := True
  near := fun _ => trivial
  position_eq := fun stands => stands.cursor_eq
  read := by
    intro memory file stands count
    rcases Nat.lt_or_ge file.data.size (file.cursor + count) with short | enough
    · rw [stands.read_of_lt short, File.read_of_lt stands.inside short]
      exact Or.inr ⟨.unexpectedEnd, rfl, rfl, trivial⟩
    · obtain ⟨delivered, further⟩ := stands.read_of_le enough
      rw [File.read_of_le enough]
      exact Or.inl ⟨_, delivered, rfl, further⟩
  byte_eq := Supply.readByte_eq
  byte_eq_second := File.readByte_eq

end Matching

/-- Memory, slices and files agree.  Whatever routine reads them, over whatever destinations, at
whatever version, limits and refusals of memory, every step answers the same and leaves the same
value, and behind every step the failure, the mismatch with its position, the log and the outcome
are the same.  The positions agree until the session fails, and those of memory and slice even
then. -/
theorem Routine.streams_agree (routine : Routine) (given : routine.Values) (allocator : Allocator)
    (version : UInt32) (limits : Limits) {bytes : Bytes}
    (addressable : bytes.length < addressLimit) :
    let memory := Session.start allocator (Memory.ofBytes bytes) .read version limits
    let slice := Session.start allocator (Slice.ofBytes bytes) .read version limits
    let file := Session.start allocator (File.ofBytes bytes) .read version limits
    routine.RunsAlike given memory slice ∧ routine.RunsAlike given memory file ∧
      ∀ count, (routine.after given count memory).position =
        (routine.after given count slice).position := by
  intro memory slice file
  have stands := Memory.StandsOn.ofBytes addressable
  have beside : Matching.memorySlice.Together memory slice :=
    Matching.together_start stands allocator version limits
  have beside' : Matching.memoryFile.Together memory file :=
    Matching.together_start stands allocator version limits
  exact ⟨beside.runsAlike routine given, beside'.runsAlike routine given,
    fun count => (beside.after routine given count).near.cursor_eq⟩

/-- Three bytes where four are asked for: the sessions fail alike, and only the file has moved. -/
theorem Routine.streams_agree_past_end :
    let routine : Routine := [.value (.scalar .u8), .value (.scalar .u32)]
    let given : routine.Values := (7#8, 9#32, ())
    let memory := Session.start .unbounded (Memory.ofBytes [5, 6, 7]) .read 0 .standard
    let slice := Session.start .unbounded (Slice.ofBytes [5, 6, 7]) .read 0 .standard
    let file := Session.start .unbounded (File.ofBytes [5, 6, 7]) .read 0 .standard
    ((routine.run given memory).1.2 = (5#8, 0#32, ()) ∧
        (routine.after given 2 memory).failure = some (.stream .unexpectedEnd)) ∧
      ((routine.run given slice).1.2 = (5#8, 0#32, ()) ∧ (routine.after given 2 slice).position = 1) ∧
      (routine.run given file).1.2 = (5#8, 0#32, ()) ∧
      (routine.after given 2 file).failure = some (.stream .unexpectedEnd) ∧
      (routine.after given 2 file).position = 3 := by
  intro routine given memory slice file
  have addressable : ([5, 6, 7] : Bytes).length < addressLimit := by decide
  obtain ⟨likeSlice, likeFile, positions⟩ :=
    streams_agree routine given .unbounded 0 .standard addressable
  have values : (routine.run given memory).1.2 = (5#8, 0#32, ()) := rfl
  have failed : (routine.after given 2 memory).failure = some (.stream .unexpectedEnd) := rfl
  have place : (routine.after given 2 memory).position = 1 := rfl
  exact ⟨⟨values, failed⟩,
    ⟨(congrArg Prod.snd likeSlice.answers_eq).symm.trans values, (positions 2).symm.trans place⟩,
    (congrArg Prod.snd likeFile.answers_eq).symm.trans values,
    (likeFile.resembles 2).failure_eq.symm.trans failed, rfl⟩

end Snapshot
