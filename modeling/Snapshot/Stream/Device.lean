import Snapshot.Stream.Basic
import Snapshot.Stream.Storage

/-!
# Devices

A device moves a part of what it is asked for at each call, and a call may fail.
A transfer repeats calls until all is moved.  It tries again after an interruption,
ends with the fault of a call that fails otherwise, and takes a call that moves
nothing for the end of the data or of the room.  What was moved before a fault stays
moved.
-/

namespace Snapshot

/-- What a device does at one call. -/
inductive Response where
  | move (count : Nat)
  | fail (fault : Fault)
  deriving DecidableEq, Repr

/-- A device: its bytes and its position, the responses to the next calls, the most
that a later call moves, and whether it can tell its position. -/
structure Device where
  data : Storage
  cursor : Nat
  script : List Response
  limit : Option Nat
  seekable : Bool
  deriving DecidableEq

namespace Device

/-- A device at the start of the given bytes. -/
def ofBytes (bytes : Bytes) (script : List Response) (limit : Option Nat)
    (seekable : Bool) : Device :=
  ⟨bytes.toArray, 0, script, limit, seekable⟩

def seek (position : Nat) (device : Device) : Device :=
  { device with cursor := position }

/-- The position, or zero where the device cannot tell it. -/
def position (device : Device) : Nat :=
  if device.seekable then device.cursor else 0

/-- The most that the next call moves, if there is a bound, and the responses after
it. -/
def nextCall (limit : Option Nat) :
    List Response → Except Fault (Option Nat) × List Response
  | .move count :: script => (.ok (some count), script)
  | .fail fault :: script => (.error fault, script)
  | [] => (.ok limit, [])

theorem length_script_le {limit : Option Nat} {script rest : List Response}
    {answer : Except Fault (Option Nat)} (called : nextCall limit script = (answer, rest)) :
    rest.length ≤ script.length := by
  unfold nextCall at called
  split at called <;> simp only [Prod.mk.injEq] at called <;> simp [← called.2]

theorem length_script_lt {limit : Option Nat} {script rest : List Response} {fault : Fault}
    (called : nextCall limit script = (.error fault, rest)) :
    rest.length < script.length := by
  unfold nextCall at called
  split at called <;> simp only [Prod.mk.injEq] at called <;> simp_all

/-- A count cut down to a bound. -/
def capped (bound : Option Nat) (count : Nat) : Nat :=
  match bound with
  | some most => min count most
  | none => count

theorem capped_le (bound : Option Nat) (count : Nat) : capped bound count ≤ count := by
  cases bound with
  | none => exact Nat.le_refl count
  | some most => exact Nat.min_le_left count most

/-- The front of a byte string, cut down to a bound. -/
def front (bound : Option Nat) (bytes : Bytes) : Bytes :=
  match bound with
  | some most => bytes.take most
  | none => bytes

theorem length_front (bound : Option Nat) (bytes : Bytes) :
    (front bound bytes).length = capped bound bytes.length := by
  cases bound with
  | none => rfl
  | some most => simp [front, capped, Nat.min_comm]

/-- Reads until `wanted` more bytes are there.  `got` are those already read. -/
def readLoop (limit : Option Nat) (data : Storage) (seekable : Bool)
    (wanted cursor : Nat) (script : List Response) (got : Storage) : Delivery × Device :=
  if wanted = 0 then
    (.full got.toList, ⟨data, cursor, script, limit, seekable⟩)
  else
    match _ : nextCall limit script with
    | (.ok bound, script) =>
        let moved := min (capped bound wanted) (data.size - cursor)
        if moved = 0 then
          (⟨got.toList, some .unexpectedEnd⟩, ⟨data, cursor, script, limit, seekable⟩)
        else
          readLoop limit data seekable (wanted - moved) (cursor + moved) script
            (got ++ data.extract cursor (cursor + moved))
    | (.error fault, script) =>
        if fault = .interrupted then
          readLoop limit data seekable wanted cursor script got
        else
          (⟨got.toList, some fault⟩, ⟨data, cursor, script, limit, seekable⟩)
termination_by script.length + wanted
decreasing_by
  · next called _ =>
      have shorter := length_script_le called
      omega
  · next called _ =>
      have shorter := length_script_lt called
      omega

/-- Reads exactly `count` bytes, or fails. -/
def read (count : Nat) : Device → Delivery × Device
  | ⟨data, cursor, script, limit, seekable⟩ =>
      readLoop limit data seekable count cursor script #[]

/-- Writes until no bytes are left. -/
def writeLoop (limit : Option Nat) (seekable : Bool) (bytes : Bytes) (cursor : Nat)
    (script : List Response) (data : Storage) : Except Fault Unit × Device :=
  if _ : bytes = [] then
    (.ok (), ⟨data, cursor, script, limit, seekable⟩)
  else
    match _ : nextCall limit script with
    | (.ok bound, script) =>
        let piece := front bound bytes
        if piece = [] then
          (.error .writeZero,
            ⟨Storage.extend cursor data, cursor, script, limit, seekable⟩)
        else
          writeLoop limit seekable (bytes.drop piece.length) (cursor + piece.length) script
            (Storage.store piece cursor data)
    | (.error fault, script) =>
        if fault = .interrupted then
          writeLoop limit seekable bytes cursor script data
        else
          (.error fault, ⟨data, cursor, script, limit, seekable⟩)
termination_by script.length + bytes.length
decreasing_by
  · next nonempty called moved =>
      have shorter := length_script_le called
      have filled := List.length_pos_iff.mpr nonempty
      have progress : 0 < (front bound bytes).length := List.length_pos_iff.mpr moved
      simp only [List.length_drop]
      omega
  · next called _ =>
      have shorter := length_script_lt called
      omega

/-- Writes all the bytes, or fails. -/
def write (_ : Allocator) (bytes : Bytes) : Device → Except Fault Unit × Device
  | ⟨data, cursor, script, limit, seekable⟩ =>
      writeLoop limit seekable bytes cursor script data

theorem read_eq (count : Nat) (device : Device) :
    device.read count = readLoop device.limit device.data device.seekable count
      device.cursor device.script #[] :=
  rfl

theorem length_readLoop_le (limit : Option Nat) (data : Storage) (seekable : Bool)
    (wanted cursor : Nat) (script : List Response) (got : Storage) :
    (readLoop limit data seekable wanted cursor script got).1.bytes.length ≤
      got.size + wanted := by
  fun_induction readLoop limit data seekable wanted cursor script got with
  | case1 => simp [Delivery.full]
  | case2 => simp
  | case3 wanted cursor script got _ bound rest called moved _ ih =>
      have few := capped_le bound wanted
      simp only [Array.size_append, Array.size_extract] at ih
      omega
  | case4 wanted cursor script got _ rest called ih => exact ih
  | case5 => simp

theorem length_readLoop (limit : Option Nat) (data : Storage) (seekable : Bool)
    (wanted cursor : Nat) (script : List Response) (got : Storage)
    (complete : (readLoop limit data seekable wanted cursor script got).1.fault = none) :
    (readLoop limit data seekable wanted cursor script got).1.bytes.length =
      got.size + wanted := by
  fun_induction readLoop limit data seekable wanted cursor script got with
  | case1 => simp [Delivery.full]
  | case2 => simp at complete
  | case3 wanted cursor script got _ bound rest called moved _ ih =>
      have few := capped_le bound wanted
      have rest := ih complete
      simp only [Array.size_append, Array.size_extract] at rest
      omega
  | case4 wanted cursor script got _ rest called ih => exact ih complete
  | case5 => simp at complete

instance : ByteStream Device where
  read := read
  write := write
  position := position
  length_read_le := fun count device => by
    simpa [read_eq] using length_readLoop_le device.limit device.data device.seekable
      count device.cursor device.script #[]
  length_read := fun count device complete => by
    simpa [read_eq] using length_readLoop device.limit device.data device.seekable
      count device.cursor device.script #[] complete

end Device

end Snapshot
