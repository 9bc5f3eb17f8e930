import Snapshot.Allocator
import Snapshot.Bytes
import Snapshot.Fault

/-!
# Byte streams

A byte stream is a state with reading, writing and a position.  Transfers are all
or nothing for their caller: a read that does not fail delivers every byte it was
asked for.  A read that fails may still have delivered a part, which lands in the
front of the caller's buffer.
-/

namespace Snapshot

/-- What a read puts into the front of the buffer, and why it stopped early. -/
structure Delivery where
  bytes : Bytes
  fault : Option Fault
  deriving DecidableEq, Repr

namespace Delivery

/-- A read that delivers everything. -/
def full (bytes : Bytes) : Delivery :=
  ⟨bytes, none⟩

/-- A read that delivers nothing. -/
def failed (fault : Fault) : Delivery :=
  ⟨[], some fault⟩

/-- The buffer after the read: delivered bytes in front, old contents behind. -/
def onto (delivery : Delivery) (buffer : Bytes) : Bytes :=
  delivery.bytes ++ buffer.drop delivery.bytes.length

/-- The outcome of a read of one byte. -/
def byte (delivery : Delivery) : Except Fault UInt8 :=
  match delivery.fault with
  | some fault => .error fault
  | none => .ok (delivery.bytes.headD 0)

theorem onto_of_length_eq {delivery : Delivery} {buffer : Bytes}
    (same : delivery.bytes.length = buffer.length) :
    delivery.onto buffer = delivery.bytes := by
  simp [onto, same]

theorem length_onto {delivery : Delivery} {buffer : Bytes}
    (fits : delivery.bytes.length ≤ buffer.length) :
    (delivery.onto buffer).length = buffer.length := by
  simp [onto]
  omega

end Delivery

/-- The operations of a byte stream with states `σ`.  The position serves for
diagnostics only. -/
class ByteStream (σ : Type) where
  read : Nat → σ → Delivery × σ
  write : Allocator → Bytes → σ → Except Fault Unit × σ
  readByte : σ → Except Fault UInt8 × σ :=
    fun state =>
      match read 1 state with
      | (delivery, state) => (delivery.byte, state)
  writeByte : Allocator → UInt8 → σ → Except Fault Unit × σ :=
    fun allocator byte state => write allocator [byte] state
  position : σ → Nat
  /-- No read delivers more than it was asked for. -/
  length_read_le : ∀ count state, (read count state).1.bytes.length ≤ count
  /-- A read that does not fail delivers what it was asked for. -/
  length_read : ∀ count state, (read count state).1.fault = none →
    (read count state).1.bytes.length = count

end Snapshot
