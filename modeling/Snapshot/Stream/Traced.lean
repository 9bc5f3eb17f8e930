import Snapshot.Stream.Basic

/-!
# Traced streams

A stream that records every transfer and lets chosen ones fail.  A transfer that is
made to fail is recorded and does not reach the stream inside.
-/

namespace Snapshot

/-- A recorded transfer. -/
inductive Transfer where
  | read (count : Nat)
  | write (count : Nat)
  | readByte
  | writeByte
  deriving DecidableEq, Repr

/-- A stream, the faults by the index of the transfer that they strike, and the
transfers so far. -/
structure Traced (σ : Type) where
  inner : σ
  faults : List (Nat × Fault)
  transfers : Array Transfer

namespace Traced

variable {σ : Type}

/-- A stream of which nothing has been recorded. -/
def ofStream (inner : σ) (faults : List (Nat × Fault)) : Traced σ :=
  ⟨inner, faults, #[]⟩

/-- The same record around a changed stream. -/
def mapInner (change : σ → σ) (traced : Traced σ) : Traced σ :=
  { traced with inner := change traced.inner }

/-- Records a transfer and carries it out, unless a fault is due. -/
def perform {α : Type} (transfer : Transfer) (refuse : Fault → α) (act : σ → α × σ) :
    Traced σ → α × Traced σ
  | ⟨inner, faults, transfers⟩ =>
      match faults.lookup transfers.size with
      | some fault => (refuse fault, ⟨inner, faults, transfers.push transfer⟩)
      | none =>
          match act inner with
          | (answer, inner) => (answer, ⟨inner, faults, transfers.push transfer⟩)

theorem perform_cases {α : Type} {P : α → Prop} (transfer : Transfer) (refuse : Fault → α)
    (act : σ → α × σ) (traced : Traced σ) (refused : ∀ fault, P (refuse fault))
    (carried : P (act traced.inner).1) : P (traced.perform transfer refuse act).1 := by
  unfold perform
  split
  split
  · exact refused _
  · exact carried

variable [ByteStream σ]

def read (count : Nat) (traced : Traced σ) : Delivery × Traced σ :=
  traced.perform (.read count) .failed (ByteStream.read count)

def write (allocator : Allocator) (bytes : Bytes) (traced : Traced σ) :
    Except Fault Unit × Traced σ :=
  traced.perform (.write bytes.length) .error (ByteStream.write allocator bytes)

def readByte (traced : Traced σ) : Except Fault UInt8 × Traced σ :=
  traced.perform .readByte .error ByteStream.readByte

def writeByte (allocator : Allocator) (byte : UInt8) (traced : Traced σ) :
    Except Fault Unit × Traced σ :=
  traced.perform .writeByte .error (ByteStream.writeByte allocator byte)

theorem length_read_le (count : Nat) (traced : Traced σ) :
    (traced.read count).1.bytes.length ≤ count := by
  refine perform_cases (P := fun delivery : Delivery => delivery.bytes.length ≤ count) _ _ _ _ ?_ ?_
  · simp [Delivery.failed]
  · exact ByteStream.length_read_le count traced.inner

theorem length_read (count : Nat) (traced : Traced σ) :
    (traced.read count).1.fault = none → (traced.read count).1.bytes.length = count := by
  refine perform_cases
    (P := fun delivery : Delivery => delivery.fault = none → delivery.bytes.length = count) _ _ _ _ ?_ ?_
  · simp [Delivery.failed]
  · exact ByteStream.length_read count traced.inner

instance : ByteStream (Traced σ) where
  read := read
  write := write
  readByte := readByte
  writeByte := writeByte
  position := fun traced => ByteStream.position traced.inner
  length_read_le := length_read_le
  length_read := length_read

end Traced

end Snapshot
