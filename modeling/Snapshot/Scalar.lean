import Snapshot.Bytes

/-!
# Scalars

The numbers that are stored as they stand: integers of one to sixteen bytes,
signed or not, and the two floating-point formats.  A value is the bit pattern
itself, so no rounding and no change of sign takes place on the way to the bytes
and back.
-/

namespace Snapshot

/-- The number of bytes of a stored integer. -/
inductive Width where
  | one
  | two
  | four
  | eight
  | sixteen
  deriving DecidableEq, Repr

/-- The width as a count of bytes. -/
def Width.bytes : Width → Nat
  | .one => 1
  | .two => 2
  | .four => 4
  | .eight => 8
  | .sixteen => 16

/-- A kind of integer. -/
structure IntegerKind where
  signed : Bool
  width : Width
  deriving DecidableEq, Repr

/-- A kind of number that is stored as its bit pattern. -/
inductive Scalar where
  | integer (kind : IntegerKind)
  | single
  | double
  deriving DecidableEq, Repr

namespace Scalar

/-- The unsigned integers of one byte. -/
def u8 : Scalar := .integer ⟨false, .one⟩

/-- The unsigned integers of four bytes. -/
def u32 : Scalar := .integer ⟨false, .four⟩

/-- The number of bytes of a stored value. -/
def width : Scalar → Nat
  | .integer kind => kind.width.bytes
  | .single => 4
  | .double => 8

/-- A value is the bit pattern of its bytes. -/
abbrev Value (kind : Scalar) : Type :=
  BitVec (8 * kind.width)

/-- The stored bytes, least significant first. -/
def encode (kind : Scalar) (value : kind.Value) : Bytes :=
  Bytes.ofNat kind.width value.toNat

/-- The value stored in the given bytes. -/
def decode (kind : Scalar) (bytes : Bytes) : kind.Value :=
  BitVec.ofNat _ (Bytes.toNat bytes)

@[simp] theorem length_encode (kind : Scalar) (value : kind.Value) :
    (kind.encode value).length = kind.width := by
  simp [encode]

theorem two_pow_width (kind : Scalar) : Nat.pow 2 (8 * kind.width) = Nat.pow 256 kind.width :=
  Nat.pow_mul 2 8 kind.width

@[simp] theorem decode_encode (kind : Scalar) (value : kind.Value) :
    kind.decode (kind.encode value) = value := by
  have small : value.toNat < Nat.pow 256 kind.width := by
    rw [← two_pow_width]
    exact value.isLt
  simp [encode, decode, Bytes.toNat_ofNat_of_lt small]

theorem encode_decode (kind : Scalar) {bytes : Bytes} (full : bytes.length = kind.width) :
    kind.encode (kind.decode bytes) = bytes := by
  have small := Bytes.toNat_lt bytes
  rw [full, ← two_pow_width] at small
  have kept : (kind.decode bytes).toNat = Bytes.toNat bytes := by
    rw [decode, BitVec.toNat_ofNat]
    exact Nat.mod_eq_of_lt small
  rw [encode, kept, ← full]
  exact Bytes.ofNat_toNat bytes

theorem decode_zeros (kind : Scalar) (count : Nat) :
    kind.decode (Bytes.zeros count) = 0 := by
  simp [decode, Bytes.toNat_zeros]

end Scalar

namespace IntegerKind

/-- The integer that a bit pattern stands for. -/
def toInt (kind : IntegerKind) (value : (Scalar.integer kind).Value) : Int :=
  if kind.signed then value.toInt else value.toNat

/-- The bit pattern of an integer, taken modulo the range of the kind. -/
def ofInt (kind : IntegerKind) (number : Int) : (Scalar.integer kind).Value :=
  BitVec.ofInt _ number

end IntegerKind

end Snapshot
