import Snapshot.Proofs.Output
import Snapshot.Proofs.Supply

/-!
# Panics

A call panics where it asserts what does not hold, or where an index, a copy, a sum or a
difference is out of range.  The operations here test for that each time, and their results
carry what is known of them.  Memory and slices are read and written with every index tested,
and no test ever fails.
-/

namespace Snapshot

/-- What makes a call panic. -/
inductive Panic where
  /-- The caller does not meet a condition of the call. -/
  | assertion
  /-- A range reaches outside of what it is taken from. -/
  | range
  /-- Items are copied over a buffer of another length. -/
  | copy
  /-- A sum or a difference is no machine word. -/
  | overflow
  /-- A text is larger than its capacity. -/
  | capacity
  /-- Bytes that were found to be well formed are not. -/
  | illFormed
  deriving DecidableEq, Repr

/-! ## Operations that test their arguments -/

namespace Tested

/-- Panics unless the condition holds. -/
def demand (condition : Prop) [Decidable condition] : Except Panic Unit :=
  if condition then .ok () else .error .assertion

/-- The difference of two numbers, unless it is negative. -/
def subtract (whole part : Nat) : Except Panic { rest : Nat // rest + part = whole } :=
  if fits : part ≤ whole then
    .ok ⟨whole - part, Nat.sub_add_cancel fits⟩
  else
    .error .overflow

/-- The sum of two numbers, unless no machine word can hold it. -/
def add (first second : Nat) : Except Panic { sum : Nat // sum = first + second } :=
  if first + second < addressLimit then
    .ok ⟨first + second, rfl⟩
  else
    .error .overflow

variable {α : Type}

/-- The item at an index. -/
def item (items : List α) (index : Nat) : Except Panic α :=
  match items[index]? with
  | some found => .ok found
  | none => .error .range

/-- The items from `start` up to `stop`. -/
def window (items : List α) (start stop : Nat) : Except Panic (Fixed α (stop - start)) :=
  if inside : start ≤ stop ∧ stop ≤ items.length then
    .ok ⟨(items.take stop).drop start, by simp [Nat.min_eq_left inside.2]⟩
  else
    .error .range

/-- The items, with those of a window put back at `start`. -/
def putBack {count : Nat} (items : List α) (start : Nat) (window : Fixed α count) : List α :=
  items.take start ++ window.items ++ items.drop (start + count)

/-- Copies items over a buffer, which has to be of the same length. -/
def copyOver {length : Nat} (_ : Fixed α length) (source : List α) :
    Except Panic (Fixed α length) :=
  match Fixed.ofList? length source with
  | some copied => .ok copied
  | none => .error .copy

theorem demand_of {condition : Prop} [Decidable condition] (holds : condition) :
    demand condition = .ok () := by
  rw [demand, if_pos holds]

theorem demand_of_not {condition : Prop} [Decidable condition] (fails : ¬condition) :
    demand condition = .error .assertion := by
  rw [demand, if_neg fails]

theorem subtract_of_eq {whole part rest : Nat} (split : rest + part = whole) :
    subtract whole part = .ok ⟨rest, split⟩ := by
  subst split
  rw [subtract, dif_pos (Nat.le_add_left part rest)]
  exact congrArg Except.ok (Subtype.ext (Nat.add_sub_cancel rest part))

theorem add_of_lt {first second sum : Nat} (joined : sum = first + second)
    (fits : sum < addressLimit) : add first second = .ok ⟨sum, joined⟩ := by
  subst joined
  rw [add, if_pos fits]

theorem window_of_le {items : List α} {start stop : Nat} (ordered : start ≤ stop)
    (inside : stop ≤ items.length) :
    ∃ found, window items start stop = .ok found ∧ found.items = (items.take stop).drop start :=
  ⟨_, dif_pos ⟨ordered, inside⟩, rfl⟩

theorem copyOver_of_length {length : Nat} (buffer : Fixed α length) {source : List α}
    (same : source.length = length) : copyOver buffer source = .ok ⟨source, same⟩ := by
  rw [copyOver, Fixed.ofList?, dif_pos same]

theorem copyOver_of_ne {length : Nat} (buffer : Fixed α length) {source : List α}
    (other : source.length ≠ length) : copyOver buffer source = .error .copy := by
  rw [copyOver, Fixed.ofList?, dif_neg other]

theorem length_putBack {items : List α} {start count : Nat} (window : Fixed α count)
    (inside : start + count ≤ items.length) :
    (putBack items start window).length = items.length := by
  simp only [putBack, List.length_append, List.length_take, window.length_eq, List.length_drop]
  omega

theorem length_putBack_enlarged {values : List α} {stop : Nat} (blank : α)
    (additional : { count : Nat // count + values.length = stop })
    (window : Fixed α (stop - values.length)) :
    (putBack (values ++ List.replicate additional blank) values.length window).length = stop := by
  have whole := additional.property
  have size : (values ++ List.replicate additional.val blank).length = stop := by
    rw [List.length_append, List.length_replicate]
    omega
  rw [length_putBack window (by omega), size]

end Tested

open Tested

/-! ## Streams -/

/-- Reads into a buffer, all of it or with a fault. -/
def ByteStream.fill {σ : Type} [ByteStream σ] {length : Nat} (buffer : Fixed UInt8 length)
    (stream : σ) : Except Fault (Fixed UInt8 length) × σ :=
  let outcome := ByteStream.read length stream
  match outcome.1.fault with
  | some fault => (.error fault, outcome.2)
  | none =>
      (.ok ⟨outcome.1.onto buffer.items,
        (Delivery.length_onto (by
          rw [buffer.length_eq]
          exact ByteStream.length_read_le length stream)).trans buffer.length_eq⟩, outcome.2)

/-- A stream that can be used with every index tested.  While its positions are addresses no
test fails, and they stay addresses. -/
class TestedStream (σ : Type) [ByteStream σ] where
  IsAddressed : σ → Prop
  read : {length : Nat} → Fixed UInt8 length → σ →
    Except Panic (Except Fault (Fixed UInt8 length) × σ)
  write : Allocator → Bytes → σ → Except Panic (Except Fault Unit × σ)
  read_eq : ∀ {length : Nat} (buffer : Fixed UInt8 length) {stream : σ}, IsAddressed stream →
    read buffer stream = .ok (ByteStream.fill buffer stream)
  write_eq : ∀ (allocator : Allocator) (bytes : Bytes) {stream : σ}, IsAddressed stream →
    write allocator bytes stream = .ok (ByteStream.write allocator bytes stream)
  isAddressed_read : ∀ (count : Nat) {stream : σ}, IsAddressed stream →
    IsAddressed (ByteStream.read count stream).2
  isAddressed_write : ∀ (allocator : Allocator) (bytes : Bytes) {stream : σ},
    IsAddressed stream → IsAddressed (ByteStream.write allocator bytes stream).2
  readByte_eq : ∀ stream : σ, ByteStream.readByte stream =
    ((ByteStream.read 1 stream).1.byte, (ByteStream.read 1 stream).2)
  writesSingly : ByteStream.WritesSingly σ

theorem ByteStream.fill_of_full {σ : Type} [ByteStream σ] {length : Nat}
    (buffer filled : Fixed UInt8 length) {stream next : σ}
    (complete : ByteStream.read length stream = (.full filled.items, next)) :
    ByteStream.fill buffer stream = (.ok filled, next) := by
  have same : filled.items.length = buffer.items.length :=
    filled.length_eq.trans buffer.length_eq.symm
  unfold fill
  simp only [complete, Delivery.full]
  refine Prod.ext (congrArg Except.ok (Fixed.ext ?_)) rfl
  exact Delivery.onto_of_length_eq same

theorem ByteStream.fill_of_failed {σ : Type} [ByteStream σ] {length : Nat}
    (buffer : Fixed UInt8 length) {stream next : σ} {fault : Fault}
    (failed : ByteStream.read length stream = (.failed fault, next)) :
    ByteStream.fill buffer stream = (.error fault, next) := by
  unfold fill
  simp only [failed, Delivery.failed]

namespace Memory

/-- Reads the next bytes. -/
def readTested {length : Nat} (buffer : Fixed UInt8 length) :
    Memory → Except Panic (Except Fault (Fixed UInt8 length) × Memory)
  | ⟨data, cursor, spare⟩ =>
      if cursor + length < addressLimit ∧ cursor + length ≤ data.size then do
        let piece ← window data.toList cursor (cursor + length)
        let filled ← copyOver buffer piece.items
        return (.ok filled, ⟨data, cursor + length, spare⟩)
      else
        return (.error .unexpectedEnd, ⟨data, cursor, spare⟩)

/-- The data extended up to `stop` where it ends before, and its capacity then. -/
def enlargeTested (allocator : Allocator) (stop : Nat) (data : Storage) (spare : Nat) :
    Except Panic (Option (Storage × Nat)) :=
  if data.size < stop then do
    let additional ← subtract stop data.size
    match allocator.reserve? 1 (data.size + spare) (data.size + additional) with
    | none => return none
    | some capacity => return some (Storage.extend stop data, capacity)
  else
    return some (data, data.size + spare)

/-- Stores the bytes at the cursor. -/
def writeTested (allocator : Allocator) (bytes : Bytes) :
    Memory → Except Panic (Except Fault Unit × Memory)
  | ⟨data, cursor, spare⟩ =>
      if addressLimit ≤ cursor + bytes.length then
        return (.error .invalidInput, ⟨data, cursor, spare⟩)
      else do
        let some (extended, capacity) ←
            enlargeTested allocator (cursor + bytes.length) data spare
          | return (.error .outOfMemory, ⟨data, cursor, spare⟩)
        let target ← window extended.toList cursor (cursor + bytes.length)
        let copied ← copyOver target bytes
        let stored := (putBack extended.toList cursor copied).toArray
        return (.ok (), ⟨stored, cursor + bytes.length, capacity - stored.size⟩)

theorem readTested_eq {length : Nat} (buffer : Fixed UInt8 length) (memory : Memory) :
    memory.readTested buffer = .ok (ByteStream.fill buffer memory) := by
  obtain ⟨data, cursor, spare⟩ := memory
  rw [readTested]
  split
  · next inside =>
      have stored : cursor + length ≤ data.toList.length := by
        rw [Array.length_toList]
        exact inside.2
      obtain ⟨piece, found, items⟩ := window_of_le (Nat.le_add_right cursor length) stored
      have same : piece.items.length = length := by
        rw [piece.length_eq, Nat.add_sub_cancel_left]
      have complete : ByteStream.read length (⟨data, cursor, spare⟩ : Memory) =
          (.full piece.items, ⟨data, cursor + length, spare⟩) := by
        have bytes := Storage.bytesAt_eq data cursor length
        rw [items, List.drop_take, Nat.add_sub_cancel_left, ← bytes]
        exact if_pos inside
      rw [found, ByteStream.fill_of_full buffer ⟨piece.items, same⟩ complete]
      simp only [bind, Except.bind, copyOver_of_length buffer same]
      rfl
  · next outside =>
      have failed : ByteStream.read length (⟨data, cursor, spare⟩ : Memory) =
          (.failed .unexpectedEnd, ⟨data, cursor, spare⟩) := if_neg outside
      rw [ByteStream.fill_of_failed buffer failed]
      rfl

theorem enlargeTested_eq (allocator : Allocator) (stop : Nat) (data : Storage) (spare : Nat) :
    enlargeTested allocator stop data spare =
      .ok ((allocator.reserve? 1 (data.size + spare) stop).map
        fun capacity => (Storage.extend stop data, capacity)) := by
  unfold enlargeTested
  split
  · next short =>
      have whole : data.size + (stop - data.size) = stop := by omega
      rw [subtract_of_eq (Nat.sub_add_cancel (Nat.le_of_lt short))]
      simp only [bind, Except.bind, whole]
      cases allocator.reserve? 1 (data.size + spare) stop <;> rfl
  · next enough =>
      have unchanged : Storage.extend stop data = data := by
        simp [Storage.extend, Nat.sub_eq_zero_of_le (Nat.le_of_not_lt enough)]
      have room := allocator.reserve?_of_le 1
        (Nat.le_trans (Nat.le_of_not_lt enough) (Nat.le_add_right data.size spare))
      rw [room, Option.map_some, unchanged]
      rfl

theorem toList_putBack_extend {bytes : Bytes} {cursor : Nat} (data : Storage)
    (copied : Fixed UInt8 (cursor + bytes.length - cursor)) (same : copied.items = bytes) :
    putBack (Storage.extend (cursor + bytes.length) data).toList cursor copied =
      (Storage.store bytes cursor data).toList := by
  have stop : cursor + (cursor + bytes.length - cursor) = cursor + bytes.length := by omega
  have behind : (Storage.extend (cursor + bytes.length) data).toList.drop (cursor + bytes.length) =
      data.toList.drop (cursor + bytes.length) := by
    simp [Storage.toList_extend, List.drop_append, Bytes.zeros]
  rw [putBack, Storage.toList_store, same, stop, behind]

theorem writeTested_eq (allocator : Allocator) (bytes : Bytes) (memory : Memory) :
    memory.writeTested allocator bytes = .ok (memory.write allocator bytes) := by
  obtain ⟨data, cursor, spare⟩ := memory
  rw [writeTested, write]
  split
  · rfl
  · rw [enlargeTested_eq]
    cases allocator.reserve? 1 (data.size + spare) (cursor + bytes.length) with
    | none => rfl
    | some capacity =>
        have stored : cursor + bytes.length ≤
            (Storage.extend (cursor + bytes.length) data).toList.length := by
          have size := Storage.size_extend (cursor + bytes.length) data
          have same : (Storage.extend (cursor + bytes.length) data).toList.length = _ :=
            Array.length_toList
          omega
        obtain ⟨target, found, _⟩ := window_of_le (Nat.le_add_right cursor bytes.length) stored
        have same : bytes.length = cursor + bytes.length - cursor := by omega
        have whole := toList_putBack_extend data ⟨bytes, same⟩ rfl
        simp only [bind, Except.bind, Option.map_some, found, copyOver_of_length target same, whole,
          Array.toArray_toList]
        rfl

instance : TestedStream Memory where
  IsAddressed _ := True
  read := readTested
  write := writeTested
  read_eq := fun buffer memory _ => readTested_eq buffer memory
  write_eq := fun allocator bytes memory _ => writeTested_eq allocator bytes memory
  isAddressed_read := fun _ _ _ => trivial
  isAddressed_write := fun _ _ _ _ => trivial
  readByte_eq := Supply.readByte_eq
  writesSingly := fun _ _ _ => rfl

end Memory

namespace Slice

/-- The data is no longer than a machine word can tell, and the position is one. -/
def IsAddressed (slice : Slice) : Prop :=
  slice.cursor < addressLimit ∧ slice.data.size < addressLimit

/-- Reads the next bytes. -/
def readTested {length : Nat} (buffer : Fixed UInt8 length) (slice : Slice) :
    Except Panic (Except Fault (Fixed UInt8 length) × Slice) := do
  let rest ← window slice.data.toList (min slice.cursor slice.data.size) slice.data.size
  if rest.items.length < length then
    return (.error .unexpectedEnd, slice)
  else
    let piece ← window rest.items 0 length
    let filled ← copyOver buffer piece.items
    let cursor ← add slice.cursor length
    return (.ok filled, { slice with cursor := cursor })

theorem add_lt_of_isAddressed {slice : Slice} (addressed : slice.IsAddressed) {length : Nat}
    (inside : length ≤ slice.data.size - slice.cursor) :
    slice.cursor + length < addressLimit := by
  obtain ⟨position, size⟩ := addressed
  omega

theorem readTested_eq {length : Nat} (buffer : Fixed UInt8 length) {slice : Slice}
    (addressed : slice.IsAddressed) :
    slice.readTested buffer = .ok (ByteStream.fill buffer slice) := by
  have whole : slice.data.size ≤ slice.data.toList.length :=
    Nat.le_of_eq Array.length_toList.symm
  obtain ⟨rest, found, items⟩ := window_of_le (Nat.min_le_right slice.cursor slice.data.size) whole
  have left : rest.items.length = slice.data.size - slice.cursor := by
    rw [rest.length_eq]
    omega
  unfold readTested
  rw [found]
  simp only [bind, Except.bind]
  split
  · next short =>
      have failed : ByteStream.read length slice = (.failed .unexpectedEnd, slice) :=
        if_neg (by omega)
      rw [ByteStream.fill_of_failed buffer failed]
      rfl
  · next enough =>
      have inside : length ≤ slice.data.size - slice.cursor := by omega
      obtain ⟨piece, taken, front⟩ := window_of_le (Nat.zero_le length) (Nat.le_of_not_lt enough)
      have same : piece.items.length = length := piece.length_eq
      have bytes : piece.items = Storage.bytesAt slice.data slice.cursor length := by
        rw [front, items, List.drop_zero, Storage.bytesAt_eq,
          List.take_of_length_le (Nat.le_of_eq Array.length_toList)]
        rcases Nat.le_total slice.cursor slice.data.size with within | beyond
        · rw [Nat.min_eq_left within]
        · obtain rfl : length = 0 := by omega
          rw [List.take_zero, List.take_zero]
      have complete : ByteStream.read length slice =
          (.full piece.items, { slice with cursor := slice.cursor + length }) := by
        rw [bytes]
        exact if_pos inside
      rw [taken, ByteStream.fill_of_full buffer ⟨piece.items, same⟩ complete]
      simp only [copyOver_of_length buffer same,
        add_of_lt rfl (add_lt_of_isAddressed addressed inside)]
      rfl

instance : TestedStream Slice where
  IsAddressed := IsAddressed
  read := readTested
  write := fun allocator bytes slice => .ok (slice.write allocator bytes)
  read_eq := fun buffer _ addressed => readTested_eq buffer addressed
  write_eq := fun _ _ _ _ => rfl
  isAddressed_read := by
    intro count slice addressed
    change (slice.read count).2.IsAddressed
    rw [read]
    split
    · next inside => exact ⟨add_lt_of_isAddressed addressed inside, addressed.2⟩
    · exact addressed
  isAddressed_write := fun _ _ _ addressed => addressed
  readByte_eq := Supply.readByte_eq
  writesSingly := fun _ _ _ => rfl

end Slice

end Snapshot
