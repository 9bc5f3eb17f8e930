import Snapshot.Proofs.SavedMemory

/-!
# What a memory holds

A memory is a file that grows.  A write that succeeds puts its bytes at the cursor, fills a gap in
front of them with zeros and leaves every other byte as it is, and one that fails changes nothing.
Hence a byte of the memory is the last one that was written to its position, or else the original
one, or else zero.
-/

namespace Snapshot

namespace Storage

variable {bytes : Bytes} {position index : Nat} {storage : Storage}

/-- The byte at a position, zero where the storage ends before. -/
def byteAt (storage : Storage) (position : Nat) : UInt8 :=
  storage[position]?.getD 0

theorem getElem?_eq_byteAt (inside : index < storage.size) :
    storage[index]? = some (storage.byteAt index) := by
  rw [byteAt, Array.getElem?_eq_getElem inside]
  rfl

theorem byteAt_of_le (behind : storage.size ≤ index) : storage.byteAt index = 0 := by
  rw [byteAt, Array.getElem?_eq_none behind]
  rfl

theorem getElem?_store_of_lt (before : index < position) :
    (store bytes position storage)[index]? = some (storage.byteAt index) := by
  rw [← Array.getElem?_toList, toList_store, take_extend (Nat.le_add_right _ _), List.append_assoc,
    List.append_assoc]
  rcases Nat.lt_or_ge index storage.size with old | gap
  · have inside : index < (storage.toList.take position).length := by
      rw [List.length_take, Array.length_toList]
      omega
    rw [List.getElem?_append_left inside, List.getElem?_take_of_lt before, Array.getElem?_toList,
      getElem?_eq_byteAt old]
  · have front : (storage.toList.take position).length = storage.size := by
      rw [List.length_take, Array.length_toList]
      omega
    have zero : index - storage.size < (Bytes.zeros (position - storage.size)).length := by
      rw [Bytes.length_zeros]
      omega
    rw [List.getElem?_append_right (by omega), front, List.getElem?_append_left zero, Bytes.zeros,
      List.getElem?_replicate_of_lt (by omega), byteAt_of_le gap]

theorem getElem?_store_add {offset : Nat} (inside : offset < bytes.length) :
    (store bytes position storage)[position + offset]? = bytes[offset]? := by
  have front := length_take_extend (Nat.le_add_right position bytes.length) storage
  rw [← Array.getElem?_toList, toList_store, List.append_assoc,
    List.getElem?_append_right (by omega), front, Nat.add_sub_cancel_left,
    List.getElem?_append_left inside]

theorem getElem?_store_of_le (behind : position + bytes.length ≤ index) :
    (store bytes position storage)[index]? = storage[index]? := by
  have back := congrArg (fun list => list[index - (position + bytes.length)]?)
    (drop_store bytes position storage)
  simp only [List.getElem?_drop, Nat.add_sub_cancel' behind, Array.getElem?_toList] at back
  exact back

end Storage

/-- The byte that a block at a position puts at an index, if it reaches there. -/
def Bytes.placed (bytes : Bytes) (position index : Nat) : Option UInt8 :=
  if position ≤ index then bytes[index - position]? else none

/-- Storing overwrites the bytes that it reaches and no others. -/
theorem Storage.byteAt_store (bytes : Bytes) (position index : Nat) (storage : Storage) :
    (store bytes position storage).byteAt index =
      (bytes.placed position index).getD (storage.byteAt index) := by
  rcases Nat.lt_or_ge index position with before | reached
  · rw [Bytes.placed, if_neg (Nat.not_le_of_lt before), byteAt, getElem?_store_of_lt before]
    rfl
  · rw [Bytes.placed, if_pos reached]
    rcases Nat.lt_or_ge (index - position) bytes.length with inside | behind
    · have placed : (store bytes position storage)[position + (index - position)]? =
          bytes[index - position]? := getElem?_store_add inside
      rw [Nat.add_sub_cancel' reached] at placed
      rw [byteAt, placed, List.getElem?_eq_getElem inside]
      rfl
    · rw [byteAt, getElem?_store_of_le (by omega), List.getElem?_eq_none behind]
      rfl

namespace Memory

/-! ## One transfer -/

/-- The allocator refuses the room that the bytes need behind the cursor. -/
def IsRefused (allocator : Allocator) (bytes : Bytes) (memory : Memory) : Prop :=
  allocator.reserve? 1 (memory.size + memory.spare) (memory.cursor + bytes.length) = none

/-- The memory after bytes were written at its cursor. -/
structure Wrote (before : Memory) (bytes : Bytes) (after : Memory) : Prop where
  size_eq : after.size = max before.size (before.cursor + bytes.length)
  cursor_eq : after.cursor = before.cursor + bytes.length
  written : ∀ offset, offset < bytes.length →
    after.data[before.cursor + offset]? = bytes[offset]?
  /-- A gap between the old end and the cursor is filled, also where no byte is written. -/
  gap : ∀ index, before.size ≤ index → index < before.cursor → after.data[index]? = some 0
  kept : ∀ index, index < before.size →
    index < before.cursor ∨ before.cursor + bytes.length ≤ index →
      after.data[index]? = before.data[index]?

/-- The outcome of a write: the bytes are stored, or nothing has changed. -/
structure StoresOrFails (allocator : Allocator) (bytes : Bytes) (memory : Memory)
    (outcome : Except Fault Unit × Memory) : Prop where
  overflow : addressLimit ≤ memory.cursor + bytes.length →
    outcome = (.error .invalidInput, memory)
  refused : memory.cursor + bytes.length < addressLimit → memory.IsRefused allocator bytes →
    outcome = (.error .outOfMemory, memory)
  stored : memory.cursor + bytes.length < addressLimit → ¬memory.IsRefused allocator bytes →
    outcome.1 = .ok () ∧ memory.Wrote bytes outcome.2

/-- The outcome of a read: the bytes from the cursor on, or nothing has changed. -/
structure DeliversOrFails (count : Nat) (memory : Memory) (outcome : Delivery × Memory) :
    Prop where
  inside : memory.cursor + count < addressLimit ∧ memory.cursor + count ≤ memory.size →
    outcome = (.full ((memory.toBytes.drop memory.cursor).take count),
      memory.seek (memory.cursor + count))
  outside : ¬(memory.cursor + count < addressLimit ∧ memory.cursor + count ≤ memory.size) →
    outcome = (.failed .unexpectedEnd, memory) ∧ ∀ buffer, outcome.1.onto buffer = buffer

variable {allocator : Allocator} {bytes : Bytes} {memory next : Memory}

theorem write_of_le (overflow : addressLimit ≤ memory.cursor + bytes.length) :
    memory.write allocator bytes = (.error .invalidInput, memory) :=
  if_pos overflow

theorem write_of_refused (room : memory.cursor + bytes.length < addressLimit)
    (refused : memory.IsRefused allocator bytes) :
    memory.write allocator bytes = (.error .outOfMemory, memory) := by
  obtain ⟨data, cursor, spare⟩ := memory
  rw [IsRefused] at refused
  simp only [write]
  rw [if_neg (Nat.not_le_of_lt room)]
  simp only [size] at refused
  rw [refused]

theorem write_of_granted (room : memory.cursor + bytes.length < addressLimit)
    (granted : ¬memory.IsRefused allocator bytes) :
    ∃ next, memory.write allocator bytes = (.ok (), next) := by
  obtain ⟨data, cursor, spare⟩ := memory
  simp only [write]
  rw [if_neg (Nat.not_le_of_lt room)]
  cases reserved : allocator.reserve? 1 (data.size + spare) (cursor + bytes.length) with
  | none => exact absurd reserved granted
  | some capacity => exact ⟨_, rfl⟩

theorem Holds.wrote (holds : memory.Holds bytes next) : memory.Wrote bytes next where
  size_eq := by
    rw [size, holds.data_eq, Storage.size_store]
    rfl
  cursor_eq := holds.cursor_eq
  written := by
    intro offset inside
    rw [holds.data_eq, Storage.getElem?_store_add inside]
  gap := by
    intro index behind before
    rw [holds.data_eq, Storage.getElem?_store_of_lt before, Storage.byteAt_of_le behind]
  kept := by
    intro index old outside
    rw [holds.data_eq]
    rcases outside with before | behind
    · rw [Storage.getElem?_store_of_lt before, Storage.getElem?_eq_byteAt old]
    · exact Storage.getElem?_store_of_le behind

theorem write_storesOrFails (allocator : Allocator) (bytes : Bytes) (memory : Memory) :
    memory.StoresOrFails allocator bytes (memory.write allocator bytes) where
  overflow := write_of_le
  refused := write_of_refused
  stored := by
    intro room granted
    obtain ⟨next, done⟩ := write_of_granted room granted
    rw [done]
    exact ⟨rfl, (write_of_ok done).wrote⟩

theorem read_deliversOrFails (count : Nat) (memory : Memory) :
    memory.DeliversOrFails count (memory.read count) where
  inside := by
    intro within
    obtain ⟨data, cursor, spare⟩ := memory
    have outcome : read count ⟨data, cursor, spare⟩ = _ := if_pos within
    rw [outcome, Storage.bytesAt_eq]
    rfl
  outside := by
    intro beyond
    obtain ⟨data, cursor, spare⟩ := memory
    have outcome : read count ⟨data, cursor, spare⟩ = _ := if_neg beyond
    rw [outcome]
    exact ⟨rfl, fun _ => rfl⟩

/-- Bytes that can be written in one piece can be written in two. -/
theorem write_append {front back : Bytes}
    (whole : memory.write allocator (front ++ back) = (.ok (), next))
    (granted : ¬memory.IsRefused allocator front)
    (granted' : ¬(memory.write allocator front).2.IsRefused allocator back) :
    ∃ middle last, memory.write allocator front = (.ok (), middle) ∧
      middle.write allocator back = (.ok (), last) ∧
      last.data = next.data ∧ last.cursor = next.cursor := by
  have holds := write_of_ok whole
  have room := holds.addressed
  rw [holds.cursor_eq, List.length_append] at room
  obtain ⟨middle, first⟩ := write_of_granted (by omega) granted
  have between := write_of_ok first
  rw [first] at granted'
  obtain ⟨last, second⟩ := write_of_granted
    (by rw [between.cursor_eq]; omega) granted'
  have parts := between.trans (write_of_ok second)
  exact ⟨middle, last, first, second, parts.data_eq.trans holds.data_eq.symm,
    parts.cursor_eq.trans holds.cursor_eq.symm⟩

/-! ## Writes and seeks in a row -/

/-- One use of a memory as a file. -/
inductive Edit where
  | write (bytes : Bytes)
  | seek (position : Nat)

/-- Carries out edits up to the first write that fails. -/
def edit (allocator : Allocator) : List Edit → Memory → Except Fault Unit × Memory
  | [], memory => (.ok (), memory)
  | .seek position :: edits, memory => edit allocator edits (memory.seek position)
  | .write bytes :: edits, memory =>
      match memory.write allocator bytes with
      | (.ok (), memory) => edit allocator edits memory
      | (.error fault, memory) => (.error fault, memory)

/-- The byte that edits from a cursor on wrote last to an index, if one did. -/
def lastWritten : List Edit → (cursor index : Nat) → Option UInt8
  | [], _, _ => none
  | .seek position :: edits, _, index => lastWritten edits position index
  | .write bytes :: edits, cursor, index =>
      (lastWritten edits (cursor + bytes.length) index).or (bytes.placed cursor index)

/-- The end that the writes among edits reach from a cursor on. -/
def reach : List Edit → (cursor : Nat) → Nat
  | [], _ => 0
  | .seek position :: edits, _ => reach edits position
  | .write bytes :: edits, cursor =>
      max (cursor + bytes.length) (reach edits (cursor + bytes.length))

/-- What edits make of the data, byte by byte. -/
theorem edit_contents {edits : List Edit} {last : Memory}
    (done : memory.edit allocator edits = (.ok (), last)) :
    last.size = max memory.size (reach edits memory.cursor) ∧
      ∀ index, last.data.byteAt index =
        (lastWritten edits memory.cursor index).getD (memory.data.byteAt index) := by
  induction edits generalizing memory with
  | nil =>
      cases done
      exact ⟨(Nat.max_zero _).symm, fun _ => rfl⟩
  | cons edit edits ih =>
      cases edit with
      | seek position => exact ih done
      | write bytes =>
          rw [Memory.edit] at done
          split at done
          · next next written =>
              have holds := write_of_ok written
              obtain ⟨size, contents⟩ := ih done
              rw [holds.cursor_eq] at size contents
              rw [holds.wrote.size_eq, Nat.max_assoc] at size
              refine ⟨size, fun index => ?_⟩
              rw [contents, holds.data_eq, Storage.byteAt_store, lastWritten, Option.getD_or]
          · cases done

/-- What is read behind edits is what they left, byte by byte. -/
theorem read_of_edit {edits : List Edit} {last : Memory}
    (done : memory.edit allocator edits = (.ok (), last)) {position count : Nat}
    (inside : position + count ≤ last.size) (addressed : position + count < addressLimit) :
    ∃ bytes : Bytes, (last.seek position).read count =
        (.full bytes, last.seek (position + count)) ∧
      bytes.length = count ∧ ∀ offset, offset < count → bytes[offset]? =
        some ((lastWritten edits memory.cursor (position + offset)).getD
          (memory.data.byteAt (position + offset))) := by
  obtain ⟨_, contents⟩ := edit_contents done
  refine ⟨_, (read_deliversOrFails count (last.seek position)).inside ⟨addressed, inside⟩, ?_, ?_⟩
  · change ((last.toBytes.drop position).take count).length = count
    rw [List.length_take, List.length_drop, toBytes, Array.length_toList]
    rw [size] at inside
    omega
  · intro offset within
    change ((last.toBytes.drop position).take count)[offset]? = _
    rw [List.getElem?_take_of_lt within, List.getElem?_drop, toBytes, Array.getElem?_toList,
      ← contents, Storage.getElem?_eq_byteAt (Nat.lt_of_lt_of_le (by omega) inside)]

/-- A memory does what a file does that grows on demand. -/
structure IsGrowableFile (allocator : Allocator) (memory : Memory) : Prop where
  write : ∀ bytes, memory.StoresOrFails allocator bytes (memory.write allocator bytes)
  read : ∀ count, memory.DeliversOrFails count (memory.read count)
  /-- As long as no room is refused, it does not matter in how many pieces bytes are written. -/
  write_append : ∀ (front back : Bytes) (next : Memory),
    memory.write allocator (front ++ back) = (.ok (), next) →
      ¬memory.IsRefused allocator front →
        ¬(memory.write allocator front).2.IsRefused allocator back →
          ∃ middle last, memory.write allocator front = (.ok (), middle) ∧
            middle.write allocator back = (.ok (), last) ∧
            last.data = next.data ∧ last.cursor = next.cursor
  /-- Behind edits that succeed there are as many bytes as were there or were reached. -/
  size_edit : ∀ (edits : List Edit) (last : Memory),
    memory.edit allocator edits = (.ok (), last) →
      last.size = max memory.size (reach edits memory.cursor)
  /-- Each byte that is read behind them is the one written last, or the original one, or zero. -/
  read_edit : ∀ (edits : List Edit) (last : Memory),
    memory.edit allocator edits = (.ok (), last) → ∀ position count,
      position + count ≤ last.size → position + count < addressLimit →
        ∃ bytes : Bytes, (last.seek position).read count =
            (.full bytes, last.seek (position + count)) ∧
          bytes.length = count ∧ ∀ offset, offset < count → bytes[offset]? =
            some ((lastWritten edits memory.cursor (position + offset)).getD
              (memory.data.byteAt (position + offset)))

/-- A memory is a file that grows.  Whatever it holds and wherever its cursor stands, a write
stores its bytes and changes nothing else, or it fails and changes nothing at all, and a read
delivers the bytes behind the cursor exactly where they are all there.  Hence bytes may be written
in pieces, and whatever was written in whatever order, the last byte written to a position is the
one that is read from it. -/
theorem behaves_as_growable_file (allocator : Allocator) (memory : Memory) :
    memory.IsGrowableFile allocator where
  write bytes := write_storesOrFails allocator bytes memory
  read count := read_deliversOrFails count memory
  write_append _ _ _ whole granted granted' := Memory.write_append whole granted granted'
  size_edit _ _ done := (edit_contents done).1
  read_edit _ _ done _ _ inside addressed := read_of_edit done inside addressed

/-- Two bytes behind a gap, and then one over an original byte.  For a byte far behind them the
allocator refuses the room. -/
theorem behaves_as_growable_file_across_gap :
    let memory : Memory := ⟨#[1, 2, 3], 5, 0⟩
    let edits : List Edit := [.write [7, 8], .seek 2, .write [9]]
    ∃ last, memory.edit (.below 10) edits = (.ok (), last) ∧
      ((last.seek 0).read 7).1 = .full [1, 2, 9, 0, 0, 7, 8] ∧
      (last.seek 20).write (.below 10) [1] = (.error .outOfMemory, last.seek 20) := by
  intro memory edits
  have done : memory.edit (.below 10) edits = (.ok (), ⟨#[1, 2, 9, 0, 0, 7, 8], 3, 1⟩) :=
    rfl
  refine ⟨_, done, ?_, ?_⟩
  · obtain ⟨bytes, delivered, length, contents⟩ :=
      (behaves_as_growable_file (.below 10) memory).read_edit edits _ done 0 7 (by decide)
        (by decide)
    have same : bytes = [1, 2, 9, 0, 0, 7, 8] := by
      apply List.ext_getElem?
      intro offset
      rcases Nat.lt_or_ge offset 7 with inside | behind
      · rw [contents offset inside]
        revert offset
        decide +kernel
      · rw [List.getElem?_eq_none (by omega), List.getElem?_eq_none behind]
    rw [delivered, same]
  · have far : (⟨#[1, 2, 9, 0, 0, 7, 8], 20, 1⟩ : Memory).StoresOrFails (.below 10) [1] _ :=
      (behaves_as_growable_file (.below 10) _).write [1]
    exact far.refused (by decide) rfl

end Memory

end Snapshot
