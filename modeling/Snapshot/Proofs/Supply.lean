import Snapshot.Stream.Memory
import Snapshot.Stream.Slice

/-!
# Supplies

A stream supplies a byte string when reading delivers exactly these bytes, in order,
and ends where they end.  Memory and slices supply what stands after their cursors;
of memory that is larger than its addresses, only the addressed part is supplied.
-/

namespace Snapshot

/-- Streams that are read like a byte string.  A read of more bytes than are left
fails, and single bytes are read like any others. -/
class Supply (σ : Type) [ByteStream σ] where
  Supplies : σ → Bytes → Prop
  read_of_le : ∀ {state : σ} {bytes : Bytes} {count : Nat}, Supplies state bytes →
    count ≤ bytes.length →
      (ByteStream.read count state).1 = .full (bytes.take count) ∧
        Supplies (ByteStream.read count state).2 (bytes.drop count) ∧
        ByteStream.position (ByteStream.read count state).2 =
          ByteStream.position state + count
  read_of_lt : ∀ {state : σ} {bytes : Bytes} {count : Nat}, Supplies state bytes →
    bytes.length < count → (ByteStream.read count state).1 = .failed .unexpectedEnd
  readByte_eq : ∀ state : σ, ByteStream.readByte state =
    ((ByteStream.read 1 state).1.byte, (ByteStream.read 1 state).2)

/-- An allocator that grants everything never refuses more room. -/
theorem Allocator.exists_reserve? {allocator : Allocator}
    (grants : ∀ size, allocator.grants size = true) (size capacity count : Nat) :
    ∃ room, allocator.reserve? size capacity count = some room := by
  unfold reserve?
  split
  · exact ⟨_, rfl⟩
  · exact ⟨_, if_pos (grants _)⟩

namespace Memory

/-- The bytes after the cursor that have an address. -/
def remaining (memory : Memory) : Bytes :=
  (memory.data.toList.take (addressLimit - 1)).drop memory.cursor

theorem length_remaining (memory : Memory) :
    memory.remaining.length = min (addressLimit - 1) memory.data.size - memory.cursor := by
  simp [remaining]

/-- The cursor stands on the data or right behind it. -/
def OnData (memory : Memory) : Prop :=
  memory.cursor ≤ memory.data.size ∧ memory.cursor < addressLimit

theorem read_of_le {memory : Memory} {count : Nat} (onData : memory.OnData)
    (enough : count ≤ memory.remaining.length) :
    memory.read count =
      (.full (memory.remaining.take count), { memory with cursor := memory.cursor + count }) := by
  obtain ⟨data, cursor, spare⟩ := memory
  have size := length_remaining ⟨data, cursor, spare⟩
  have behind := onData.1
  have addressed := onData.2
  dsimp only at size behind addressed
  have inside : cursor + count < addressLimit ∧ cursor + count ≤ data.size := by omega
  have bytes : Storage.bytesAt data cursor count =
      (remaining ⟨data, cursor, spare⟩).take count := by
    rw [Storage.bytesAt_eq, remaining, List.drop_take, List.take_take]
    congr 1
    dsimp only
    omega
  simp only [read]
  rw [if_pos inside, bytes]

theorem read_of_lt {memory : Memory} {count : Nat} (onData : memory.OnData)
    (short : memory.remaining.length < count) :
    memory.read count = (.failed .unexpectedEnd, memory) := by
  obtain ⟨data, cursor, spare⟩ := memory
  have size := length_remaining ⟨data, cursor, spare⟩
  have behind := onData.1
  have addressed := onData.2
  dsimp only at size behind addressed
  simp only [read]
  rw [if_neg (by omega)]

instance : Supply Memory where
  Supplies memory bytes := memory.OnData ∧ memory.remaining = bytes
  read_of_le := by
    rintro memory _ count ⟨onData, rfl⟩ enough
    have outcome : ByteStream.read count memory = _ := read_of_le onData enough
    have size := length_remaining memory
    have behind := onData.1
    have addressed := onData.2
    rw [outcome]
    refine ⟨rfl, ⟨⟨?_, ?_⟩, ?_⟩, rfl⟩
    · dsimp only
      omega
    · dsimp only
      omega
    · simp [remaining, List.drop_drop]
  read_of_lt := by
    rintro memory _ count ⟨onData, rfl⟩ short
    have outcome : ByteStream.read count memory = _ := read_of_lt onData short
    rw [outcome]
  readByte_eq := fun _ => rfl

theorem supplies_ofBytes {bytes : Bytes} (small : bytes.length < addressLimit) :
    Supply.Supplies (ofBytes bytes) bytes := by
  refine ⟨⟨Nat.zero_le _, Nat.two_pow_pos 64⟩, ?_⟩
  have whole : bytes.length ≤ addressLimit - 1 := by omega
  simp [ofBytes, remaining, List.take_of_length_le whole]

end Memory

namespace Slice

theorem length_remaining (slice : Slice) :
    slice.remaining.length = slice.data.size - slice.cursor := by
  simp [remaining]

instance : Supply Slice where
  Supplies slice bytes := slice.remaining = bytes
  read_of_le := by
    rintro slice _ count rfl enough
    rw [length_remaining] at enough
    have outcome : ByteStream.read count slice = _ := if_pos enough
    have bytes := Storage.bytesAt_eq slice.data slice.cursor count
    rw [outcome, bytes]
    refine ⟨rfl, ?_, rfl⟩
    simp [remaining, List.drop_drop]
  read_of_lt := by
    rintro slice _ count rfl short
    rw [length_remaining] at short
    have outcome : ByteStream.read count slice = _ := if_neg (Nat.not_le_of_lt short)
    rw [outcome]
  readByte_eq := fun _ => rfl

theorem supplies_ofBytes (bytes : Bytes) : Supply.Supplies (ofBytes bytes) bytes := by
  change (ofBytes bytes).remaining = bytes
  simp [ofBytes, remaining]

end Slice

end Snapshot
