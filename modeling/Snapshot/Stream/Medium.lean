import Snapshot.Stream.Bounded
import Snapshot.Stream.Device
import Snapshot.Stream.File
import Snapshot.Stream.Memory
import Snapshot.Stream.Slice
import Snapshot.Stream.Traced

/-!
# Media

One type for a stream whose kind is chosen at run time.  Each operation is that of
the stream inside.
-/

namespace Snapshot

/-- A stream of one of the kinds. -/
inductive Medium where
  | memory (stream : Memory)
  | slice (stream : Slice)
  | file (stream : File)
  | device (stream : Device)
  | traced (stream : Traced Memory)
  | bounded (stream : Bounded)

namespace Medium

/-- Applies an operation to the stream inside. -/
@[inline] def operate {α : Type} (act : {σ : Type} → [ByteStream σ] → σ → α × σ) :
    Medium → α × Medium
  | .memory stream => match act stream with | (answer, stream) => (answer, .memory stream)
  | .slice stream => match act stream with | (answer, stream) => (answer, .slice stream)
  | .file stream => match act stream with | (answer, stream) => (answer, .file stream)
  | .device stream => match act stream with | (answer, stream) => (answer, .device stream)
  | .traced stream => match act stream with | (answer, stream) => (answer, .traced stream)
  | .bounded stream => match act stream with | (answer, stream) => (answer, .bounded stream)

/-- What every stream answers, every medium answers. -/
theorem operate_answers {α : Type} {P : α → Prop}
    (act : {σ : Type} → [ByteStream σ] → σ → α × σ) (medium : Medium)
    (answers : ∀ {σ : Type} [ByteStream σ] (stream : σ), P (act stream).1) :
    P (operate act medium).1 := by
  cases medium with
  | memory stream => exact answers stream
  | slice stream => exact answers stream
  | file stream => exact answers stream
  | device stream => exact answers stream
  | traced stream => exact answers stream
  | bounded stream => exact answers stream

def position : Medium → Nat
  | .memory stream => ByteStream.position stream
  | .slice stream => ByteStream.position stream
  | .file stream => ByteStream.position stream
  | .device stream => ByteStream.position stream
  | .traced stream => ByteStream.position stream
  | .bounded stream => ByteStream.position stream

instance : ByteStream Medium where
  read := fun count => operate (ByteStream.read count)
  write := fun allocator bytes => operate (ByteStream.write allocator bytes)
  readByte := operate ByteStream.readByte
  writeByte := fun allocator byte => operate (ByteStream.writeByte allocator byte)
  position := position
  length_read_le := fun count medium =>
    operate_answers (P := fun delivery : Delivery => delivery.bytes.length ≤ count) _ medium
      fun stream => ByteStream.length_read_le count stream
  length_read := fun count medium =>
    operate_answers
      (P := fun delivery : Delivery =>
        delivery.fault = none → delivery.bytes.length = count) _ medium
      fun stream => ByteStream.length_read count stream

end Medium

end Snapshot
