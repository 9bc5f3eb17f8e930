import Snapshot.Stream.Basic
import Snapshot.Stream.Storage

/-!
# Files

An in-memory file.  A read that would pass the end delivers nothing and moves the
cursor to the end of the data; a write beyond the end fills the gap with zeros,
also when nothing is written.
-/

namespace Snapshot

/-- A file's bytes with a cursor. -/
structure File where
  data : Storage
  cursor : Nat
  deriving DecidableEq

namespace File

/-- The given bytes, to be read from the start. -/
def ofBytes (bytes : Bytes) : File :=
  ⟨bytes.toArray, 0⟩

def seek (position : Nat) (file : File) : File :=
  { file with cursor := position }

/-- The next `count` bytes, or a cursor at the end of the data. -/
def read (count : Nat) : File → Delivery × File
  | ⟨data, cursor⟩ =>
      if count ≤ data.size - cursor then
        (.full (Storage.bytesAt data cursor count), ⟨data, cursor + count⟩)
      else
        (.failed .unexpectedEnd, ⟨data, data.size⟩)

/-- Stores the bytes at the cursor. -/
def write (_ : Allocator) (bytes : Bytes) : File → Except Fault Unit × File
  | ⟨data, cursor⟩ =>
      (.ok (), ⟨Storage.store bytes cursor data, cursor + bytes.length⟩)

theorem length_read_le (count : Nat) (file : File) :
    (file.read count).1.bytes.length ≤ count := by
  unfold read
  split
  split
  · exact Storage.length_bytesAt_le _ _ _
  · exact Nat.zero_le _

theorem length_read (count : Nat) (file : File)
    (complete : (file.read count).1.fault = none) :
    (file.read count).1.bytes.length = count := by
  unfold read at complete ⊢
  split
  split
  · next inside => exact (Storage.length_bytesAt _ _ _).trans (Nat.min_eq_left inside)
  · next outside => simp [outside, Delivery.failed] at complete

instance : ByteStream File where
  read := read
  write := write
  position := cursor
  length_read_le := length_read_le
  length_read := length_read

end File

end Snapshot
