/-!
# Byte strings

A byte string is a list of bytes.  Numbers of a fixed width are stored least
significant byte first, so a number below `256 ^ width` and its `width` bytes
determine each other.  A run of equal-sized records is cut back into its records
by `groups`.
-/

namespace Snapshot

/-- A finite string of bytes. -/
abbrev Bytes := List UInt8

namespace Bytes

/-- A string of zero bytes. -/
def zeros (count : Nat) : Bytes :=
  List.replicate count 0

@[simp] theorem length_zeros (count : Nat) : (zeros count).length = count := by
  simp [zeros]

/-- The part of a byte string before its first zero byte. -/
def beforeZero (bytes : Bytes) : Bytes :=
  bytes.takeWhile (· != 0)

/-- The `width` low bytes of a number, least significant first. -/
def ofNat : (width : Nat) → Nat → Bytes
  | 0, _ => []
  | width + 1, number => UInt8.ofNat number :: ofNat width (number / 256)

/-- The number whose bytes, least significant first, are the given ones. -/
def toNat : Bytes → Nat
  | [] => 0
  | byte :: rest => byte.toNat + 256 * toNat rest

@[simp] theorem length_ofNat (width number : Nat) :
    (ofNat width number).length = width := by
  induction width generalizing number with
  | zero => rfl
  | succ width ih => simp [ofNat, ih]

theorem toNat_lt (bytes : Bytes) : toNat bytes < Nat.pow 256 bytes.length := by
  induction bytes with
  | nil => simp [toNat]
  | cons byte rest ih =>
      have low := byte.toNat_lt
      have whole : Nat.pow 256 (rest.length + 1) = Nat.pow 256 rest.length * 256 := rfl
      rw [toNat, List.length_cons, whole]
      omega

theorem toNat_ofNat (width number : Nat) :
    toNat (ofNat width number) = number % Nat.pow 256 width := by
  induction width generalizing number with
  | zero => simp [ofNat, toNat, Nat.mod_one]
  | succ width ih =>
      have low : (UInt8.ofNat number).toNat = number % 256 := by
        rw [UInt8.toNat_ofNat']
      have whole : Nat.pow 256 (width + 1) = 256 * Nat.pow 256 width := Nat.pow_succ'
      rw [ofNat, toNat, ih, low, whole, Nat.mod_mul]

theorem toNat_ofNat_of_lt {width number : Nat} (small : number < Nat.pow 256 width) :
    toNat (ofNat width number) = number := by
  rw [toNat_ofNat, Nat.mod_eq_of_lt small]

theorem ofNat_toNat (bytes : Bytes) : ofNat bytes.length (toNat bytes) = bytes := by
  induction bytes with
  | nil => rfl
  | cons byte rest ih =>
      have low := byte.toNat_lt
      have quotient : (byte.toNat + 256 * toNat rest) / 256 = toNat rest := by omega
      have head : UInt8.ofNat (byte.toNat + 256 * toNat rest) = byte := by
        apply UInt8.toNat_inj.mp
        rw [UInt8.toNat_ofNat']
        omega
      simp only [List.length_cons, toNat, ofNat, quotient, ih, head]

theorem toNat_zeros (count : Nat) : toNat (zeros count) = 0 := by
  induction count with
  | zero => rfl
  | succ count ih =>
      simp only [zeros, List.replicate_succ, toNat] at ih ⊢
      simp [ih]

/-- The groups found so far, followed by `count` further groups of `size` bytes. -/
def groupsAfter (size : Nat) : Nat → List Bytes → Bytes → List Bytes
  | 0, found, _ => found.reverse
  | count + 1, found, bytes =>
      groupsAfter size count (bytes.take size :: found) (bytes.drop size)

/-- The first `count` groups of `size` bytes each. -/
def groups (size count : Nat) (bytes : Bytes) : List Bytes :=
  groupsAfter size count [] bytes

theorem groupsAfter_eq (size count : Nat) (found : List Bytes) (bytes : Bytes) :
    groupsAfter size count found bytes = found.reverse ++ groups size count bytes := by
  unfold groups
  induction count generalizing found bytes with
  | zero => simp [groupsAfter]
  | succ count ih =>
      rw [groupsAfter, ih, groupsAfter, ih [bytes.take size]]
      simp

@[simp] theorem groups_zero (size : Nat) (bytes : Bytes) : groups size 0 bytes = [] :=
  rfl

@[simp] theorem groups_succ (size count : Nat) (bytes : Bytes) :
    groups size (count + 1) bytes =
      bytes.take size :: groups size count (bytes.drop size) := by
  rw [groups, groupsAfter, groupsAfter_eq]
  rfl

@[simp] theorem length_groups (size count : Nat) (bytes : Bytes) :
    (groups size count bytes).length = count := by
  induction count generalizing bytes with
  | zero => rfl
  | succ count ih => simp [ih]

end Bytes

end Snapshot
