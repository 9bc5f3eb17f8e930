import Snapshot.Stream.Basic
import Snapshot.Stream.Storage

/-!
# Slices

A read-only stream over given bytes.  A read that would pass the end fails and
leaves the cursor where it is; every write fails.
-/

namespace Snapshot

/-- Borrowed bytes with a cursor. -/
structure Slice where
  data : Storage
  cursor : Nat
  deriving DecidableEq

namespace Slice

/-- The given bytes, to be read from the start. -/
def ofBytes (bytes : Bytes) : Slice :=
  ⟨bytes.toArray, 0⟩

/-- The bytes not yet read. -/
def remaining (slice : Slice) : Bytes :=
  slice.data.toList.drop slice.cursor

/-- The next `count` bytes, unless fewer remain. -/
def read (count : Nat) (slice : Slice) : Delivery × Slice :=
  if count ≤ slice.data.size - slice.cursor then
    (.full (Storage.bytesAt slice.data slice.cursor count),
      { slice with cursor := slice.cursor + count })
  else
    (.failed .unexpectedEnd, slice)

/-- A slice is never written. -/
def write (_ : Allocator) (_ : Bytes) (slice : Slice) : Except Fault Unit × Slice :=
  (.error .unsupported, slice)

theorem length_read_le (count : Nat) (slice : Slice) :
    (slice.read count).1.bytes.length ≤ count := by
  unfold read
  split
  · exact Storage.length_bytesAt_le _ _ _
  · exact Nat.zero_le _

theorem length_read (count : Nat) (slice : Slice)
    (complete : (slice.read count).1.fault = none) :
    (slice.read count).1.bytes.length = count := by
  unfold read at complete ⊢
  split
  · next inside => exact (Storage.length_bytesAt _ _ _).trans (Nat.min_eq_left inside)
  · next outside => simp [outside, Delivery.failed] at complete

instance : ByteStream Slice where
  read := read
  write := write
  position := cursor
  length_read_le := length_read_le
  length_read := length_read

end Slice

end Snapshot
