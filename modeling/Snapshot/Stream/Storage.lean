import Snapshot.Bytes

/-!
# Storage

The bytes behind a stream, kept in an array.  Storing bytes at a position first
extends the array with zeros until they fit and then overwrites them in place.
-/

namespace Snapshot

/-- The bytes behind a stream. -/
abbrev Storage := Array UInt8

namespace Storage

/-- The `count` bytes at a position, fewer where the storage ends before. -/
def bytesAt (storage : Storage) (position count : Nat) : Bytes :=
  (storage.extract position (position + count)).toList

theorem bytesAt_eq (storage : Storage) (position count : Nat) :
    bytesAt storage position count = (storage.toList.drop position).take count := by
  simp [bytesAt, List.extract]

theorem length_bytesAt (storage : Storage) (position count : Nat) :
    (bytesAt storage position count).length = min count (storage.size - position) := by
  simp [bytesAt_eq]

theorem length_bytesAt_le (storage : Storage) (position count : Nat) :
    (bytesAt storage position count).length ≤ count := by
  rw [length_bytesAt]
  exact Nat.min_le_left _ _

theorem length_bytesAt_of_le {storage : Storage} {position count : Nat}
    (fits : position + count ≤ storage.size) :
    (bytesAt storage position count).length = count := by
  rw [length_bytesAt]
  omega

/-- The storage with zeros at its end up to the given size. -/
def extend (size : Nat) (storage : Storage) : Storage :=
  storage ++ Array.replicate (size - storage.size) 0

@[simp] theorem size_extend (size : Nat) (storage : Storage) :
    (extend size storage).size = max storage.size size := by
  simp [extend]
  omega

theorem toList_extend (size : Nat) (storage : Storage) :
    (extend size storage).toList = storage.toList ++ Bytes.zeros (size - storage.size) := by
  simp [extend, Bytes.zeros]

/-- The storage with the bytes from a position on replaced, as far as it reaches. -/
def overwrite : Bytes → Nat → Storage → Storage
  | [], _, storage => storage
  | byte :: bytes, position, storage =>
      overwrite bytes (position + 1) (storage.setIfInBounds position byte)

@[simp] theorem size_overwrite (bytes : Bytes) (position : Nat) (storage : Storage) :
    (overwrite bytes position storage).size = storage.size := by
  induction bytes generalizing position storage with
  | nil => rfl
  | cons byte bytes ih => simp [overwrite, ih]

theorem toList_overwrite {bytes : Bytes} {position : Nat} {storage : Storage}
    (fits : position + bytes.length ≤ storage.size) :
    (overwrite bytes position storage).toList =
      storage.toList.take position ++ bytes ++
        storage.toList.drop (position + bytes.length) := by
  induction bytes generalizing position storage with
  | nil => simp [overwrite]
  | cons byte bytes ih =>
      simp only [List.length_cons] at fits
      have inside : position < storage.size := by omega
      have front : (storage.toList.set position byte).take (position + 1) =
          storage.toList.take position ++ [byte] := by
        rw [List.take_succ_eq_append_getElem (by simpa using inside), List.take_set_of_le (by omega)]
        simp
      rw [overwrite, ih (by simpa using by omega), Array.toList_setIfInBounds, front,
        List.drop_set_of_lt (by omega), List.length_cons, List.append_assoc, List.append_assoc,
        List.append_assoc, Nat.add_assoc, Nat.add_comm 1]
      rfl

/-- The storage after the bytes are stored at a position. -/
def store (bytes : Bytes) (position : Nat) (storage : Storage) : Storage :=
  overwrite bytes position (extend (position + bytes.length) storage)

@[simp] theorem size_store (bytes : Bytes) (position : Nat) (storage : Storage) :
    (store bytes position storage).size = max storage.size (position + bytes.length) := by
  simp [store]

theorem toList_store (bytes : Bytes) (position : Nat) (storage : Storage) :
    (store bytes position storage).toList =
      (extend (position + bytes.length) storage).toList.take position ++ bytes ++
        storage.toList.drop (position + bytes.length) := by
  have fits : position + bytes.length ≤ (extend (position + bytes.length) storage).size := by
    rw [size_extend]
    exact Nat.le_max_right _ _
  rw [store, toList_overwrite fits, toList_extend]
  simp [List.drop_append, Bytes.zeros]

end Storage

end Snapshot
