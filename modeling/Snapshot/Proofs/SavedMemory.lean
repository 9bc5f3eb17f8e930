import Snapshot.Proofs.Output
import Snapshot.Proofs.Supply

/-!
# Memory after saving

What a session puts out to memory is stored in one piece at the cursor, as if it had been
one block.  Only an address beyond the last one or a refusal of memory can prevent it.
After the cursor is set back, the memory supplies these bytes first.
-/

namespace Snapshot

namespace Storage

theorem take_extend {position size : Nat} (fits : position ≤ size) (storage : Storage) :
    (extend size storage).toList.take position =
      storage.toList.take position ++ Bytes.zeros (position - storage.size) := by
  rw [toList_extend, List.take_append, Bytes.zeros, List.take_replicate, Array.length_toList]
  congr 2
  omega

theorem length_take_extend {position size : Nat} (fits : position ≤ size) (storage : Storage) :
    ((extend size storage).toList.take position).length = position := by
  rw [List.length_take, Array.length_toList, size_extend]
  omega

/-- What stands in front of stored bytes, with these bytes. -/
theorem take_store (bytes : Bytes) (position : Nat) (storage : Storage) :
    (store bytes position storage).toList.take (position + bytes.length) =
      (extend (position + bytes.length) storage).toList.take position ++ bytes := by
  have front := length_take_extend (Nat.le_add_right position bytes.length) storage
  rw [toList_store, List.take_left' (by rw [List.length_append, front])]

/-- What stands behind stored bytes. -/
theorem drop_store (bytes : Bytes) (position : Nat) (storage : Storage) :
    (store bytes position storage).toList.drop (position + bytes.length) =
      storage.toList.drop (position + bytes.length) := by
  have front := length_take_extend (Nat.le_add_right position bytes.length) storage
  rw [toList_store, List.drop_left' (by rw [List.length_append, front])]

/-- Storing bytes right behind others is storing both at once. -/
theorem store_store (first second : Bytes) (position : Nat) (storage : Storage) :
    store second (position + first.length) (store first position storage) =
      store (first ++ second) position storage := by
  have gap : position + first.length - (store first position storage).size = 0 := by
    rw [size_store]
    omega
  have front : (extend (position + first.length + second.length)
      (store first position storage)).toList.take (position + first.length) =
      (extend (position + first.length) storage).toList.take position ++ first := by
    rw [take_extend (Nat.le_add_right _ _), take_store, gap]
    exact List.append_nil _
  have back : (store first position storage).toList.drop (position + first.length + second.length) =
      storage.toList.drop (position + first.length + second.length) := by
    rw [← List.drop_drop, drop_store, List.drop_drop]
  apply Array.toList_inj.mp
  rw [toList_store, front, back, toList_store, take_extend (Nat.le_add_right _ _),
    take_extend (Nat.le_add_right _ _), List.length_append, Nat.add_assoc]
  simp only [List.append_assoc]

end Storage

namespace Memory

/-- The memory after bytes were stored at its cursor. -/
structure Holds (start : Memory) (bytes : Bytes) (memory : Memory) : Prop where
  data_eq : memory.data = Storage.store bytes start.cursor start.data
  cursor_eq : memory.cursor = start.cursor + bytes.length
  addressed : memory.cursor < addressLimit

/-- The memory after outputs.  Where there are none, nothing happened to it. -/
def Stored (start : Memory) (outputs : List Output) (memory : Memory) : Prop :=
  outputs = [] ∧ memory = start ∨ start.Holds (Output.concat outputs) memory

/-- The bytes from a position to the cursor. -/
def since (position : Nat) (memory : Memory) : Bytes :=
  Storage.bytesAt memory.data position (memory.cursor - position)

theorem write_of_ok {allocator : Allocator} {bytes : Bytes} {memory next : Memory}
    (done : memory.write allocator bytes = (.ok (), next)) : memory.Holds bytes next := by
  obtain ⟨data, cursor, spare⟩ := memory
  simp only [write] at done
  split at done
  · cases done
  · next room =>
      split at done
      · cases done
      · cases done
        exact ⟨rfl, rfl, Nat.lt_of_not_le room⟩

theorem write_of_lt {allocator : Allocator} (grants : ∀ size, allocator.grants size = true)
    {bytes : Bytes} {memory : Memory} (room : memory.cursor + bytes.length < addressLimit) :
    ∃ next, memory.write allocator bytes = (.ok (), next) := by
  obtain ⟨data, cursor, spare⟩ := memory
  obtain ⟨capacity, reserved⟩ := Allocator.exists_reserve? grants 1 (data.size + spare)
    (cursor + bytes.length)
  simp only [write]
  rw [if_neg (Nat.not_le_of_lt room), reserved]
  exact ⟨_, rfl⟩

theorem Holds.trans {start memory next : Memory} {stored bytes : Bytes}
    (holds : start.Holds stored memory) (further : memory.Holds bytes next) :
    start.Holds (stored ++ bytes) next := by
  constructor
  · rw [further.data_eq, holds.cursor_eq, holds.data_eq, Storage.store_store]
  · rw [further.cursor_eq, holds.cursor_eq, List.length_append, Nat.add_assoc]
  · exact further.addressed

/-- With the cursor set back, the memory supplies the stored bytes first. -/
theorem Holds.supplies {start memory : Memory} {bytes : Bytes} (holds : start.Holds bytes memory) :
    ∃ rest, Supply.Supplies (memory.seek start.cursor) (bytes ++ rest) := by
  have addressed := holds.addressed
  have size : start.cursor + bytes.length ≤ memory.data.size := by
    rw [holds.data_eq, Storage.size_store]
    exact Nat.le_max_right _ _
  rw [holds.cursor_eq] at addressed
  have onData : (memory.seek start.cursor).OnData := by
    constructor
    · exact Nat.le_trans (Nat.le_add_right _ _) size
    · exact Nat.lt_of_le_of_lt (Nat.le_add_right _ _) addressed
  have front : (memory.data.toList.take (addressLimit - 1)).take (start.cursor + bytes.length) =
      (Storage.extend (start.cursor + bytes.length) start.data).toList.take start.cursor ++ bytes := by
    rw [List.take_take, Nat.min_eq_left (by omega), holds.data_eq, Storage.take_store]
  have split := List.take_append_drop (start.cursor + bytes.length)
    (memory.data.toList.take (addressLimit - 1))
  rw [front, List.append_assoc] at split
  have behind := congrArg (List.drop start.cursor) split
  rw [List.drop_left' (Storage.length_take_extend (Nat.le_add_right _ _) _)] at behind
  exact ⟨_, onData, behind.symm⟩

theorem Holds.since_eq {start memory : Memory} {bytes : Bytes}
    (holds : start.Holds bytes memory) : memory.since start.cursor = bytes := by
  have behind := Storage.length_take_extend (Nat.le_add_right start.cursor bytes.length) start.data
  rw [since, holds.cursor_eq, Nat.add_sub_cancel_left, holds.data_eq, Storage.bytesAt_eq,
    List.take_drop, Storage.take_store, List.drop_left' behind]

theorem Stored.since_eq {start memory : Memory} {outputs : List Output}
    (stored : start.Stored outputs memory) :
    memory.since start.cursor = Output.concat outputs := by
  rcases stored with ⟨rfl, rfl⟩ | holds
  · rw [since, Nat.sub_self, Storage.bytesAt_eq, List.take_zero]
    rfl
  · exact holds.since_eq

end Memory

namespace Session

variable {session : Session Memory}

theorem writeBytes_of_sound {bytes : Bytes} (sound : (session.writeBytes bytes).failure = none) :
    session.stream.Holds bytes (session.writeBytes bytes).stream := by
  by_cases failed : session.hasFailed = true
  · rw [writeBytes_of_hasFailed failed] at sound
    simp [hasFailed, sound] at failed
  · rw [writeBytes, if_neg failed, withStream_eq] at sound ⊢
    cases outcome : session.stream.write session.allocator bytes with
    | mk answer next =>
        have written : ByteStream.write session.allocator bytes session.stream = (answer, next) :=
          outcome
        rw [written] at sound ⊢
        cases answer with
        | ok value => exact Memory.write_of_ok outcome
        | error fault => simp [fail] at sound

theorem writeBytes_of_lt (unfailed : session.failure = none)
    (grants : ∀ size, session.allocator.grants size = true) {bytes : Bytes}
    (room : session.stream.cursor + bytes.length < addressLimit) :
    ∃ next, session.writeBytes bytes = { session with stream := next } ∧
      session.stream.Holds bytes next := by
  obtain ⟨next, outcome⟩ := Memory.write_of_lt grants room
  have written : ByteStream.write session.allocator bytes session.stream = (.ok (), next) := outcome
  refine ⟨next, ?_, Memory.write_of_ok outcome⟩
  rw [writeBytes, if_neg (by simp [hasFailed, unfailed]), withStream_eq, written]

theorem put_of_sound {output : Output} (sound : (session.put output).failure = none) :
    Output.Unrefused [output] ∧ session.stream.Holds output.bytes (session.put output).stream := by
  have unrefused : Output.Unrefused [output] := by
    rintro failure member
    obtain rfl := List.mem_singleton.mp member
    simp [put, fail] at sound
  rw [put_eq_writeBytes (fun _ _ _ => rfl) unrefused] at sound ⊢
  exact ⟨unrefused, writeBytes_of_sound sound⟩

theorem sound_of_putAll {outputs : List Output}
    (sound : (session.putAll outputs).failure = none) : session.failure = none := by
  cases state : session.failure with
  | none => rfl
  | some failure =>
      rw [putAll_of_hasFailed (hasFailed_of_failure state), state] at sound
      cases sound

/-- A session that is sound after all outputs refused none of them, and stored them in
one piece at the cursor. -/
theorem putAll_of_sound {outputs : List Output}
    (sound : (session.putAll outputs).failure = none) :
    Output.Unrefused outputs ∧ session.stream.Stored outputs (session.putAll outputs).stream := by
  induction outputs generalizing session with
  | nil => exact ⟨Output.unrefused_nil, Or.inl ⟨rfl, rfl⟩⟩
  | cons output outputs ih =>
      rw [putAll_cons] at sound ⊢
      obtain ⟨first, front⟩ := put_of_sound (sound_of_putAll sound)
      obtain ⟨later, back⟩ := ih sound
      refine ⟨Output.unrefused_append.mpr ⟨first, later⟩, Or.inr ?_⟩
      rcases back with ⟨rfl, _⟩ | back
      · rw [Output.concat_cons, Output.concat_nil, List.append_nil]
        exact front
      · exact front.trans back

/-- With memory and addresses enough, everything is put out. -/
theorem putAll_sound (unfailed : session.failure = none)
    (grants : ∀ size, session.allocator.grants size = true) {outputs : List Output}
    (unrefused : Output.Unrefused outputs)
    (room : session.stream.cursor + (Output.concat outputs).length < addressLimit) :
    (session.putAll outputs).failure = none := by
  induction outputs generalizing session with
  | nil => exact unfailed
  | cons output outputs ih =>
      obtain ⟨first, later⟩ := Output.unrefused_append.mp
        (show Output.Unrefused ([output] ++ outputs) from unrefused)
      rw [Output.concat_cons, List.length_append] at room
      obtain ⟨next, written, holds⟩ := writeBytes_of_lt unfailed grants
        (show session.stream.cursor + output.bytes.length < addressLimit by omega)
      rw [putAll_cons, put_eq_writeBytes (fun _ _ _ => rfl) first, written]
      refine ih unfailed grants later ?_
      change next.cursor + _ < _
      rw [holds.cursor_eq]
      omega

end Session

end Snapshot
