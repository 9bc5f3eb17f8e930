import Snapshot.Stream.Basic
import Snapshot.Stream.Storage

/-!
# Memory

A growable stream in memory.  Writing overwrites at the cursor and extends the
data past its end; the cursor may stand beyond the end, where reads fail and
writes fill the gap with zeros.  A transfer that cannot be carried out changes
neither the data nor the cursor.  Spare room after the data lets most writes do
without a request for memory, and shows in nothing else.
-/

namespace Snapshot

/-- The number of positions that a cursor can address. -/
def addressLimit : Nat :=
  Nat.pow 2 64

/-- Bytes in memory with a cursor.  Up to `spare` bytes can be added to the data
before memory is requested. -/
structure Memory where
  data : Storage
  cursor : Nat
  spare : Nat
  deriving DecidableEq

namespace Memory

def empty : Memory :=
  ⟨#[], 0, 0⟩

/-- The given bytes, to be read from the start. -/
def ofBytes (bytes : Bytes) : Memory :=
  ⟨bytes.toArray, 0, 0⟩

def toBytes (memory : Memory) : Bytes :=
  memory.data.toList

def size (memory : Memory) : Nat :=
  memory.data.size

def isEmpty (memory : Memory) : Bool :=
  memory.data.isEmpty

/-- The same bytes with the cursor elsewhere. -/
def seek (position : Nat) (memory : Memory) : Memory :=
  { memory with cursor := position }

def rewind (memory : Memory) : Memory :=
  memory.seek 0

/-- The same bytes and cursor, without spare room. -/
def copy (memory : Memory) : Memory :=
  { memory with spare := 0 }

/-- The same number of bytes, each replaced according to its position. -/
def mapBytes (change : Nat → UInt8 → UInt8) (memory : Memory) : Memory :=
  { memory with data := memory.data.mapIdx change }

/-- The next `count` bytes, unless they reach past the end. -/
def read (count : Nat) : Memory → Delivery × Memory
  | ⟨data, cursor, spare⟩ =>
      if cursor + count < addressLimit ∧ cursor + count ≤ data.size then
        (.full (Storage.bytesAt data cursor count), ⟨data, cursor + count, spare⟩)
      else
        (.failed .unexpectedEnd, ⟨data, cursor, spare⟩)

/-- Stores the bytes at the cursor, unless they reach past the last address or the
room for them is refused. -/
def write (allocator : Allocator) (bytes : Bytes) : Memory → Except Fault Unit × Memory
  | ⟨data, cursor, spare⟩ =>
      if addressLimit ≤ cursor + bytes.length then
        (.error .invalidInput, ⟨data, cursor, spare⟩)
      else
        match allocator.reserve? 1 (data.size + spare) (cursor + bytes.length) with
        | none => (.error .outOfMemory, ⟨data, cursor, spare⟩)
        | some capacity =>
            let stored := Storage.store bytes cursor data
            (.ok (), ⟨stored, cursor + bytes.length, capacity - stored.size⟩)

theorem length_read_le (count : Nat) (memory : Memory) :
    (memory.read count).1.bytes.length ≤ count := by
  unfold read
  split
  split
  · exact Storage.length_bytesAt_le _ _ _
  · exact Nat.zero_le _

theorem length_read (count : Nat) (memory : Memory)
    (complete : (memory.read count).1.fault = none) :
    (memory.read count).1.bytes.length = count := by
  unfold read at complete ⊢
  split
  split
  · next inside => exact Storage.length_bytesAt_of_le inside.2
  · next outside => simp [outside, Delivery.failed] at complete

instance : ByteStream Memory where
  read := read
  write := write
  position := cursor
  length_read_le := length_read_le
  length_read := length_read

end Memory

end Snapshot
