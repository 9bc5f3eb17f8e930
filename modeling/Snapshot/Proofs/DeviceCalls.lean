import Snapshot.Proofs.SavedMemory
import Snapshot.Stream.Device

/-!
# Calls of a device

However a device splits its transfers, the number of its calls is bounded by the length of its
script and the number of bytes to move.  A patient device never gives up: it moves something at
every call that is not interrupted, so that only the end of its data ends a read early.
-/

namespace Snapshot

namespace Storage

theorem bytesAt_add (storage : Storage) (position first second : Nat) :
    bytesAt storage position (first + second) =
      bytesAt storage position first ++ bytesAt storage (position + first) second := by
  rw [bytesAt_eq, bytesAt_eq, bytesAt_eq, List.take_add, List.drop_drop]

/-- Storing nothing on the data or right behind them changes nothing. -/
theorem store_nil {storage : Storage} {position : Nat} (inside : position ≤ storage.size) :
    store [] position storage = storage := by
  apply Array.toList_inj.mp
  rw [store, overwrite, toList_extend, List.length_nil, Nat.add_zero, Nat.sub_eq_zero_of_le inside]
  exact List.append_nil _

end Storage

namespace Device

/-! ## The number of calls -/

/-- Reads as `readLoop` does, unless that takes more than the given number of calls. -/
def readWithin (limit : Option Nat) (data : Storage) (seekable : Bool) :
    (calls wanted cursor : Nat) → List Response → Storage → Option (Delivery × Device)
  | 0, wanted, cursor, script, got =>
      if wanted = 0 then
        some (.full got.toList, ⟨data, cursor, script, limit, seekable⟩)
      else
        none
  | calls + 1, wanted, cursor, script, got =>
      if wanted = 0 then
        some (.full got.toList, ⟨data, cursor, script, limit, seekable⟩)
      else
        match nextCall limit script with
        | (.ok bound, script) =>
            let moved := min (capped bound wanted) (data.size - cursor)
            if moved = 0 then
              some (⟨got.toList, some .unexpectedEnd⟩, ⟨data, cursor, script, limit, seekable⟩)
            else
              readWithin limit data seekable calls (wanted - moved) (cursor + moved) script
                (got ++ data.extract cursor (cursor + moved))
        | (.error fault, script) =>
            if fault = .interrupted then
              readWithin limit data seekable calls wanted cursor script got
            else
              some (⟨got.toList, some fault⟩, ⟨data, cursor, script, limit, seekable⟩)

/-- Writes as `writeLoop` does, unless that takes more than the given number of calls. -/
def writeWithin (limit : Option Nat) (seekable : Bool) :
    (calls : Nat) → Bytes → (cursor : Nat) → List Response → Storage →
      Option (Except Fault Unit × Device)
  | 0, bytes, cursor, script, data =>
      if bytes = [] then
        some (.ok (), ⟨data, cursor, script, limit, seekable⟩)
      else
        none
  | calls + 1, bytes, cursor, script, data =>
      if bytes = [] then
        some (.ok (), ⟨data, cursor, script, limit, seekable⟩)
      else
        match nextCall limit script with
        | (.ok bound, script) =>
            let piece := front bound bytes
            if piece = [] then
              some (.error .writeZero,
                ⟨Storage.extend cursor data, cursor, script, limit, seekable⟩)
            else
              writeWithin limit seekable calls (bytes.drop piece.length) (cursor + piece.length)
                script (Storage.store piece cursor data)
        | (.error fault, script) =>
            if fault = .interrupted then
              writeWithin limit seekable calls bytes cursor script data
            else
              some (.error fault, ⟨data, cursor, script, limit, seekable⟩)

theorem readWithin_eq (limit : Option Nat) (data : Storage) (seekable : Bool)
    (wanted cursor : Nat) (script : List Response) (got : Storage) :
    ∀ calls, script.length + wanted ≤ calls →
      readWithin limit data seekable calls wanted cursor script got =
        some (readLoop limit data seekable wanted cursor script got) := by
  fun_induction readLoop limit data seekable wanted cursor script got with
  | case1 =>
      intro calls _
      cases calls with
      | zero => rw [readWithin, if_pos rfl]
      | succ calls => rw [readWithin, if_pos rfl]
  | case2 wanted cursor script got more bound rest called moved stuck =>
      intro calls enough
      obtain ⟨calls, rfl⟩ : ∃ fewer, calls = fewer + 1 := ⟨calls - 1, by omega⟩
      rw [readWithin, if_neg more, called]
      exact if_pos stuck
  | case3 wanted cursor script got more bound rest called moved progress ih =>
      intro calls enough
      obtain ⟨calls, rfl⟩ : ∃ fewer, calls = fewer + 1 := ⟨calls - 1, by omega⟩
      have shorter := length_script_le called
      rw [readWithin, if_neg more, called]
      exact (if_neg progress).trans (ih _ (by omega))
  | case4 wanted cursor script got more rest called ih =>
      intro calls enough
      obtain ⟨calls, rfl⟩ : ∃ fewer, calls = fewer + 1 := ⟨calls - 1, by omega⟩
      have shorter := length_script_lt called
      rw [readWithin, if_neg more, called]
      exact (if_pos rfl).trans (ih _ (by omega))
  | case5 wanted cursor script got more fault rest called other =>
      intro calls enough
      obtain ⟨calls, rfl⟩ : ∃ fewer, calls = fewer + 1 := ⟨calls - 1, by omega⟩
      rw [readWithin, if_neg more, called]
      exact if_neg other

theorem writeWithin_eq (limit : Option Nat) (seekable : Bool) (bytes : Bytes) (cursor : Nat)
    (script : List Response) (data : Storage) :
    ∀ calls, script.length + bytes.length ≤ calls →
      writeWithin limit seekable calls bytes cursor script data =
        some (writeLoop limit seekable bytes cursor script data) := by
  fun_induction writeLoop limit seekable bytes cursor script data with
  | case1 =>
      intro calls _
      cases calls with
      | zero => rw [writeWithin, if_pos rfl]
      | succ calls => rw [writeWithin, if_pos rfl]
  | case2 bytes cursor script data more bound rest called piece stuck =>
      intro calls enough
      have some_byte := List.length_pos_iff.mpr more
      obtain ⟨calls, rfl⟩ : ∃ fewer, calls = fewer + 1 := ⟨calls - 1, by omega⟩
      rw [writeWithin, if_neg more, called]
      exact if_pos stuck
  | case3 bytes cursor script data more bound rest called piece progress ih =>
      intro calls enough
      have some_byte := List.length_pos_iff.mpr more
      have some_piece := List.length_pos_iff.mpr progress
      obtain ⟨calls, rfl⟩ : ∃ fewer, calls = fewer + 1 := ⟨calls - 1, by omega⟩
      have shorter := length_script_le called
      rw [writeWithin, if_neg more, called]
      refine (if_neg progress).trans (ih _ ?_)
      rw [List.length_drop]
      omega
  | case4 bytes cursor script data more rest called ih =>
      intro calls enough
      have some_byte := List.length_pos_iff.mpr more
      obtain ⟨calls, rfl⟩ : ∃ fewer, calls = fewer + 1 := ⟨calls - 1, by omega⟩
      have shorter := length_script_lt called
      rw [writeWithin, if_neg more, called]
      exact (if_pos rfl).trans (ih _ (by omega))
  | case5 bytes cursor script data more fault rest called other =>
      intro calls enough
      have some_byte := List.length_pos_iff.mpr more
      obtain ⟨calls, rfl⟩ : ∃ fewer, calls = fewer + 1 := ⟨calls - 1, by omega⟩
      rw [writeWithin, if_neg more, called]
      exact if_neg other

/-- Every transfer ends within as many calls as the script has responses and the transfer has
bytes, whatever the device does at each of them. -/
structure Ends (device : Device) : Prop where
  read : ∀ count, readWithin device.limit device.data device.seekable
    (device.script.length + count) count device.cursor device.script #[] =
      some (device.read count)
  write : ∀ allocator bytes, writeWithin device.limit device.seekable
    (device.script.length + bytes.length) bytes device.cursor device.script device.data =
      some (device.write allocator bytes)

theorem ends (device : Device) : device.Ends where
  read := fun _ => readWithin_eq _ _ _ _ _ _ _ _ (Nat.le_refl _)
  write := fun _ _ => writeWithin_eq _ _ _ _ _ _ _ (Nat.le_refl _)

/-! ## Patient devices -/

/-- A call that moves something, or is to be tried again. -/
def Patient : Response → Prop
  | .move count => 0 < count
  | .fail fault => fault = .interrupted

/-- A device that stands on its data, tells its position, and never gives up. -/
structure IsPatient (device : Device) : Prop where
  seekable : device.seekable = true
  limit : device.limit ≠ some 0
  script : ∀ response ∈ device.script, Patient response
  inside : device.cursor ≤ device.data.size

variable {limit : Option Nat} {script rest : List Response}

theorem nextCall_ok_of_patient (moving : limit ≠ some 0)
    (patient : ∀ response ∈ script, Patient response) {bound : Option Nat}
    (called : nextCall limit script = (.ok bound, rest)) :
    bound ≠ some 0 ∧ ∀ response ∈ rest, Patient response := by
  cases script with
  | nil =>
      cases called
      exact ⟨moving, patient⟩
  | cons response script =>
      obtain ⟨first, later⟩ := List.forall_mem_cons.mp patient
      cases response with
      | move count =>
          cases called
          exact ⟨fun nothing => Nat.ne_of_gt first (Option.some.inj nothing), later⟩
      | fail fault => cases called

theorem nextCall_error_of_patient (patient : ∀ response ∈ script, Patient response)
    {fault : Fault} (called : nextCall limit script = (.error fault, rest)) :
    fault = .interrupted ∧ ∀ response ∈ rest, Patient response := by
  cases script with
  | nil => cases called
  | cons response script =>
      obtain ⟨first, later⟩ := List.forall_mem_cons.mp patient
      cases response with
      | move count => cases called
      | fail cause =>
          cases called
          exact ⟨first, later⟩

theorem capped_pos {bound : Option Nat} (moving : bound ≠ some 0) {count : Nat} (more : count ≠ 0) :
    0 < capped bound count := by
  cases bound with
  | none => exact Nat.pos_of_ne_zero more
  | some most =>
      have some_byte : most ≠ 0 := fun nothing => moving (congrArg some nothing)
      simp only [capped]
      omega

theorem front_append_drop (bound : Option Nat) (bytes : Bytes) :
    front bound bytes ++ bytes.drop (front bound bytes).length = bytes := by
  cases bound with
  | none => simp [front]
  | some most =>
      have size : (front (some most) bytes).length = min most bytes.length := List.length_take
      rcases Nat.le_total most bytes.length with shorter | longer
      · rw [size, Nat.min_eq_left shorter]
        exact List.take_append_drop most bytes
      · rw [size, Nat.min_eq_right longer, List.drop_length, List.append_nil]
        exact List.take_of_length_le longer

/-- What is left of the data is read, in however many pieces. -/
theorem readLoop_of_le (moving : limit ≠ some 0) (data : Storage) (seekable : Bool)
    (wanted cursor : Nat) (script : List Response) (got : Storage)
    (patient : ∀ response ∈ script, Patient response) (enough : cursor + wanted ≤ data.size) :
    ∃ rest, (∀ response ∈ rest, Patient response) ∧
      readLoop limit data seekable wanted cursor script got =
        (.full (got.toList ++ Storage.bytesAt data cursor wanted),
          ⟨data, cursor + wanted, rest, limit, seekable⟩) := by
  fun_induction readLoop limit data seekable wanted cursor script got with
  | case1 cursor script got =>
      refine ⟨script, patient, ?_⟩
      rw [Storage.bytesAt_eq, List.take_zero, List.append_nil]
      rfl
  | case2 wanted cursor script got more bound rest called moved stuck =>
      have some_byte := capped_pos (nextCall_ok_of_patient moving patient called).1 more
      omega
  | case3 wanted cursor script got more bound rest called moved progress ih =>
      have few := capped_le bound wanted
      obtain ⟨last, calm, outcome⟩ :=
        ih (nextCall_ok_of_patient moving patient called).2 (by omega)
      refine ⟨last, calm, outcome.trans ?_⟩
      have whole : wanted = moved + (wanted - moved) := by omega
      have pieces : Storage.bytesAt data cursor wanted = Storage.bytesAt data cursor moved ++
          Storage.bytesAt data (cursor + moved) (wanted - moved) := by
        conv => lhs; rw [whole]
        exact Storage.bytesAt_add data cursor moved (wanted - moved)
      rw [pieces, Array.toList_append, List.append_assoc, Nat.add_assoc, ← whole]
      rfl
  | case4 wanted cursor script got more rest called ih =>
      exact ih (nextCall_error_of_patient patient called).2 enough
  | case5 wanted cursor script got more fault rest called other =>
      exact absurd (nextCall_error_of_patient patient called).1 other

/-- A read past the end of the data ends there, in however many pieces. -/
theorem readLoop_of_lt (moving : limit ≠ some 0) (data : Storage) (seekable : Bool)
    (wanted cursor : Nat) (script : List Response) (got : Storage)
    (patient : ∀ response ∈ script, Patient response) (inside : cursor ≤ data.size)
    (short : data.size < cursor + wanted) :
    (readLoop limit data seekable wanted cursor script got).1.fault = some .unexpectedEnd := by
  fun_induction readLoop limit data seekable wanted cursor script got with
  | case1 cursor script got => omega
  | case2 => rfl
  | case3 wanted cursor script got more bound rest called moved progress ih =>
      have few := capped_le bound wanted
      exact ih (nextCall_ok_of_patient moving patient called).2 (by omega) (by omega)
  | case4 wanted cursor script got more rest called ih =>
      exact ih (nextCall_error_of_patient patient called).2 inside short
  | case5 wanted cursor script got more fault rest called other =>
      exact absurd (nextCall_error_of_patient patient called).1 other

/-- All bytes are written in one piece, in however many calls. -/
theorem writeLoop_of_patient (moving : limit ≠ some 0) (seekable : Bool) (bytes : Bytes)
    (cursor : Nat) (script : List Response) (data : Storage)
    (patient : ∀ response ∈ script, Patient response) (inside : cursor ≤ data.size) :
    ∃ rest, (∀ response ∈ rest, Patient response) ∧
      writeLoop limit seekable bytes cursor script data =
        (.ok (), ⟨Storage.store bytes cursor data, cursor + bytes.length, rest, limit, seekable⟩) := by
  fun_induction writeLoop limit seekable bytes cursor script data with
  | case1 cursor script data =>
      refine ⟨script, patient, ?_⟩
      rw [Storage.store_nil inside]
      rfl
  | case2 bytes cursor script data more bound rest called piece stuck =>
      have filled := List.length_pos_iff.mpr more
      have some_byte := capped_pos (nextCall_ok_of_patient moving patient called).1
        (Nat.ne_of_gt filled)
      rw [← length_front] at some_byte
      exact absurd stuck (List.length_pos_iff.mp some_byte)
  | case3 bytes cursor script data more bound rest called piece progress ih =>
      have reached : cursor + piece.length ≤ (Storage.store piece cursor data).size := by
        rw [Storage.size_store]
        exact Nat.le_max_right _ _
      obtain ⟨last, calm, outcome⟩ :=
        ih (nextCall_ok_of_patient moving patient called).2 reached
      refine ⟨last, calm, outcome.trans ?_⟩
      have whole : piece ++ bytes.drop piece.length = bytes := front_append_drop bound bytes
      have size := congrArg List.length whole
      rw [List.length_append] at size
      rw [Storage.store_store, whole, Nat.add_assoc, size]
  | case4 bytes cursor script data more rest called ih =>
      exact ih (nextCall_error_of_patient patient called).2 inside
  | case5 bytes cursor script data more fault rest called other =>
      exact absurd (nextCall_error_of_patient patient called).1 other

namespace IsPatient

variable {device : Device}

theorem position_eq (patient : device.IsPatient) : ByteStream.position device = device.cursor :=
  if_pos patient.seekable

theorem read_of_le (patient : device.IsPatient) {count : Nat}
    (enough : device.cursor + count ≤ device.data.size) :
    ∃ next, ByteStream.read count device =
        (.full (Storage.bytesAt device.data device.cursor count), next) ∧
      next.IsPatient ∧ next.data = device.data ∧ next.cursor = device.cursor + count := by
  obtain ⟨rest, calm, outcome⟩ := readLoop_of_le patient.limit device.data device.seekable count
    device.cursor device.script #[] patient.script enough
  exact ⟨_, outcome, ⟨patient.seekable, patient.limit, calm, enough⟩, rfl, rfl⟩

theorem read_of_lt (patient : device.IsPatient) {count : Nat}
    (short : device.data.size < device.cursor + count) :
    (ByteStream.read count device).1.fault = some .unexpectedEnd :=
  readLoop_of_lt patient.limit device.data device.seekable count device.cursor device.script #[]
    patient.script patient.inside short

theorem write (patient : device.IsPatient) (allocator : Allocator) (bytes : Bytes) :
    ∃ next, ByteStream.write allocator bytes device = (.ok (), next) ∧ next.IsPatient ∧
      next.data = Storage.store bytes device.cursor device.data ∧
      next.cursor = device.cursor + bytes.length := by
  obtain ⟨rest, calm, outcome⟩ := writeLoop_of_patient patient.limit device.seekable bytes
    device.cursor device.script device.data patient.script patient.inside
  refine ⟨_, outcome, ⟨patient.seekable, patient.limit, calm, ?_⟩, rfl, rfl⟩
  rw [Storage.size_store]
  exact Nat.le_max_right _ _

end IsPatient

end Device

end Snapshot
