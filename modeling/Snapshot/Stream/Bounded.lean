import Snapshot.Stream.Basic
import Snapshot.Stream.Storage

/-!
# Bounded stores

A store that only takes bytes, up to a capacity.  A write that does not fit stores
nothing and fails; every read fails.
-/

namespace Snapshot

/-- What was stored so far, and how much can be. -/
structure Bounded where
  capacity : Nat
  data : Storage
  deriving DecidableEq

namespace Bounded

def empty (capacity : Nat) : Bounded :=
  ⟨capacity, #[]⟩

/-- A bounded store is never read. -/
def read (_ : Nat) (store : Bounded) : Delivery × Bounded :=
  (.failed .unsupported, store)

/-- Appends the bytes, if all of them fit. -/
def write (_ : Allocator) (bytes : Bytes) : Bounded → Except Fault Unit × Bounded
  | ⟨capacity, data⟩ =>
      if data.size + bytes.length ≤ capacity then
        (.ok (), ⟨capacity, data ++ bytes⟩)
      else
        (.error .writeZero, ⟨capacity, data⟩)

instance : ByteStream Bounded where
  read := read
  write := write
  position := fun store => store.data.size
  length_read_le := by simp [read, Delivery.failed]
  length_read := by simp [read, Delivery.failed]

end Bounded

end Snapshot
