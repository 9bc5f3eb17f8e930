import Snapshot.Proofs.BulkTransfer
import Snapshot.Stream.Bounded

/-!
# The ring layout of a deque

The items of a deque stand in a ring, so that they come as two runs, a front and a back.  Saving
goes over both, behind one length; restoring reads a list and makes a deque of it.  Neither shows
where the two runs meet: a deque is transferred as the list of its items is.  This holds of items
of every layout, and of items of any other type whose values are saved and restored by some use
of the session.
-/

namespace Snapshot

/-- A type of items that collections are made of: the bytes that an item takes up in memory, the
blank one that is read into, and how one is saved and restored.  Both may be any use of the
session, and both may change the item. -/
structure ItemKind (σ α : Type) where
  size : Nat
  blank : α
  save : α → Session σ → α × Session σ
  restore : α → Session σ → α × Session σ

namespace ItemKind

variable {σ α : Type} [ByteStream σ]

/-- Restores a list, chunk by chunk. -/
def readList (kind : ItemKind σ α) (session : Session σ) : List α × Session σ :=
  match session.readLength session.limits.collection with
  | (length, session) =>
      session.readChunks kind.size length
        (fun count session => session.each kind.restore (List.replicate count kind.blank))

/-- Transfers a list of such items. -/
def transferList (kind : ItemKind σ α) (values : List α) (session : Session σ) :
    List α × Session σ :=
  match session.mode with
  | .write => (session.writeLength values.length).each kind.save values
  | .read => kind.readList session

/-- Transfers a deque of such items. -/
def transferDeque (kind : ItemKind σ α) (queue : Deque α) (session : Session σ) :
    Deque α × Session σ :=
  match session.mode with
  | .write =>
      match (session.writeLength queue.size).each kind.save queue.front with
      | (front, session) =>
          match session.each kind.save queue.back with
          | (back, session) => (⟨front, back⟩, session)
  | .read =>
      match kind.readList session with
      | (items, session) => (.ofList items, session)

end ItemKind

namespace Session

variable {σ α β : Type}

/-- An operation is applied to two runs of items as to one. -/
theorem each_append (act : α → Session σ → β × Session σ) (front back : List α)
    (session : Session σ) :
    session.each act (front ++ back) =
      ((session.each act front).1 ++ ((session.each act front).2.each act back).1,
        ((session.each act front).2.each act back).2) := by
  induction front generalizing session with
  | nil => rfl
  | cons item front ih => rw [List.cons_append, each_cons, ih, each_cons, List.cons_append]

/-- Saving without a change is what is left of an operation that gives its items back. -/
theorem each_unchanged (act : α → Session σ → Session σ) (items : List α) (session : Session σ) :
    session.each (fun item session => (item, act item session)) items =
      (items, items.foldl (fun session item => act item session) session) := by
  induction items generalizing session with
  | nil => rfl
  | cons item items ih => rw [each_cons, ih, List.foldl_cons]

end Session

namespace ItemKind

variable {σ α : Type} [ByteStream σ] {session : Session σ}

/-- Restoring a list forgets what it held. -/
theorem transferList_of_reading (reading : session.mode = .read) (kind : ItemKind σ α)
    (values : List α) : kind.transferList values session = kind.readList session := by
  rw [transferList, reading]

/-- A deque is saved as the list of its items. -/
theorem transferDeque_of_writing (writing : session.mode = .write) (kind : ItemKind σ α)
    (queue : Deque α) :
    ((kind.transferDeque queue session).1.toList, (kind.transferDeque queue session).2) =
      kind.transferList queue.toList session := by
  have items := Session.each_append kind.save queue.front queue.back
    (session.writeLength queue.size)
  rw [transferDeque, transferList, writing, Deque.length_toList]
  exact items.symm

/-- A deque is restored as a list. -/
theorem transferDeque_of_reading (reading : session.mode = .read) (kind : ItemKind σ α)
    (old : Deque α) (values : List α) :
    ((kind.transferDeque old session).1.toList, (kind.transferDeque old session).2) =
      kind.transferList values session := by
  rw [transferDeque, transferList_of_reading reading, reading]
  dsimp only
  rw [Deque.toList_ofList]

end ItemKind

namespace Layout

/-- The values of a layout as items. -/
def itemKind (σ : Type) [ByteStream σ] (item : Layout) : ItemKind σ item.Value where
  size := item.size
  blank := item.blank
  save := fun value session => (value, session.save item value)
  restore := Session.restore item

variable {σ : Type} [ByteStream σ]

theorem transfer_list (item : Layout) (values : List item.Value) (session : Session σ) :
    session.transfer (.list item) values = (item.itemKind σ).transferList values session := by
  unfold Session.transfer ItemKind.transferList
  cases session.mode with
  | read => rfl
  | write => exact (Session.each_unchanged (fun value session => session.save item value) _ _).symm

theorem transfer_deque (item : Layout) (queue : Deque item.Value) (session : Session σ) :
    session.transfer (.deque item) queue = (item.itemKind σ).transferDeque queue session := by
  unfold Session.transfer ItemKind.transferDeque
  cases session.mode with
  | read => rfl
  | write =>
      have unchanged := Session.each_unchanged (σ := σ) fun (value : item.Value) session =>
        session.save item value
      simp only [itemKind, unchanged]
      rfl

/-- The value with all its deques, at any depth, laid out in one run. -/
def unroll : (layout : Layout) → layout.Value → layout.Value
  | .unit, value => value
  | .scalar _, value => value
  | .bool, value => value
  | .text, value => value
  | .smallText _, value => value
  | .array item _, values => ⟨values.items.map (unroll item), by simp [values.length_eq]⟩
  | .list item, values => values.map (unroll item)
  | .deque item, queue => .ofList (queue.toList.map (unroll item))

/-- What a value puts out does not tell how its deques are laid out, at any depth. -/
theorem outputs_unroll (layout : Layout) (value : layout.Value) :
    layout.outputs (layout.unroll value) = layout.outputs value := by
  induction layout with
  | unit => rfl
  | scalar kind => rfl
  | bool => rfl
  | text => rfl
  | smallText capacity => rfl
  | array item length ih => simp only [unroll, outputs, List.flatMap_map, ih]
  | list item ih => simp only [unroll, outputs, List.flatMap_map, ih, List.length_map]
  | deque item ih =>
      simp only [unroll, outputs, ← Deque.length_toList, Deque.toList_ofList, List.flatMap_map, ih,
        List.length_map]

end Layout

namespace Deque

/-- How the items of a deque are laid out does not show in a transfer. -/
structure LayoutIsUnseen : Prop where
  /-- A deque is saved as the list of its items, on any stream and whatever fails. -/
  saved : ∀ {σ : Type} [ByteStream σ] (item : Layout) (queue : Deque item.Value)
    (session : Session σ), session.mode = .write →
    session.transfer (.deque item) queue =
      (queue, (session.transfer (.list item) queue.toList).2)
  /-- It puts out the same blocks of bytes one after another. -/
  emitted : ∀ {σ : Type} [ByteStream σ] (item : Layout) (queue : Deque item.Value)
    (session : Session σ), session.mode = .write →
    (session.transfer (.deque item) queue).2 =
        session.putAll ((Layout.deque item).outputs queue) ∧
      (session.transfer (.list item) queue.toList).2 =
        session.putAll ((Layout.list item).outputs queue.toList) ∧
      (Layout.deque item).outputs queue = (Layout.list item).outputs queue.toList
  /-- A deque is restored as a list, whatever both held before. -/
  restored : ∀ {σ : Type} [ByteStream σ] (item : Layout) (old : Deque item.Value)
    (values : List item.Value) (session : Session σ), session.mode = .read →
    ((session.transfer (.deque item) old).1.toList, (session.transfer (.deque item) old).2) =
      session.transfer (.list item) values
  /-- Deques of items that hold deques themselves are saved alike as soon as they hold the same. -/
  at_any_depth : ∀ {σ : Type} [ByteStream σ] (item : Layout) (first second : Deque item.Value)
    (session : Session σ), session.mode = .write →
    (Layout.deque item).unroll first = (Layout.deque item).unroll second →
    (session.transfer (.deque item) first).2 = (session.transfer (.deque item) second).2
  /-- Items of any other type are saved in the same order, and each is left as a list leaves it. -/
  saved_of_kind : ∀ {σ α : Type} [ByteStream σ] (kind : ItemKind σ α) (queue : Deque α)
    (session : Session σ), session.mode = .write →
    ((kind.transferDeque queue session).1.toList, (kind.transferDeque queue session).2) =
      kind.transferList queue.toList session
  /-- Items of any other type are restored as in a list. -/
  restored_of_kind : ∀ {σ α : Type} [ByteStream σ] (kind : ItemKind σ α) (old : Deque α)
    (values : List α) (session : Session σ), session.mode = .read →
    ((kind.transferDeque old session).1.toList, (kind.transferDeque old session).2) =
      kind.transferList values session

/-- A deque is transferred as the list of its items is: it makes the same transfers with the same
bytes and meets the same failure, on every stream, and it is restored to the same items, whatever
it held and however that was laid out. -/
theorem layout_is_unseen : LayoutIsUnseen where
  saved item queue session writing := by
    have alike := ItemKind.transferDeque_of_writing writing (item.itemKind _) queue
    rw [← Layout.transfer_deque, ← Layout.transfer_list] at alike
    have unchanged : (session.transfer (.deque item) queue).1 = queue := by
      rw [Session.transfer, writing]
    rw [← alike]
    exact Prod.ext unchanged rfl
  emitted item queue session writing := by
    refine ⟨Session.transfer_of_writing writing _ _, Session.transfer_of_writing writing _ _, ?_⟩
    rw [Layout.outputs, Layout.outputs, length_toList]
  restored item old values session reading := by
    rw [Layout.transfer_deque, Layout.transfer_list]
    exact ItemKind.transferDeque_of_reading reading (item.itemKind _) old values
  at_any_depth item first second session writing same := by
    rw [Session.transfer_of_writing writing, Session.transfer_of_writing writing,
      ← Layout.outputs_unroll, same, Layout.outputs_unroll]
  saved_of_kind kind queue _ writing := kind.transferDeque_of_writing writing queue
  restored_of_kind kind old values _ reading := kind.transferDeque_of_reading reading old values

/-- Three bytes in two runs.  A store of six bytes has room for the length and the first run, and
the state that is read back breaks off at the same place. -/
theorem layout_is_unseen_on_full_store :
    let queue : Deque (Layout.scalar .u8).Value := ⟨[1, 2], [3]⟩
    let writer := Session.start .unbounded (Bounded.empty 6) .write 1 .standard
    let reader :=
      Session.start .unbounded (Memory.ofBytes [3, 0, 0, 0, 1, 2]) .read 1 .standard
    (writer.mode = .write ∧ reader.mode = .read) ∧
    writer.transfer (.deque (.scalar .u8)) queue =
        (queue, (writer.transfer (.list (.scalar .u8)) [1, 2, 3]).2) ∧
      (writer.transfer (.list (.scalar .u8)) [1, 2, 3]).2.failure =
        some (.stream .writeZero) ∧
      (writer.transfer (.list (.scalar .u8)) [1, 2, 3]).2.stream.data = #[3, 0, 0, 0, 1, 2] ∧
    ((reader.transfer (.deque (.scalar .u8)) queue).1.toList,
        (reader.transfer (.deque (.scalar .u8)) queue).2) =
        reader.transfer (.list (.scalar .u8)) [9] ∧
      (reader.transfer (.list (.scalar .u8)) [9]).1 = [] ∧
      (reader.transfer (.list (.scalar .u8)) [9]).2.failure =
        some (.stream .unexpectedEnd) := by
  intro queue writer reader
  have saved := layout_is_unseen.saved (.scalar .u8) queue writer rfl
  have restored := layout_is_unseen.restored (.scalar .u8) queue [9] reader rfl
  refine ⟨⟨rfl, rfl⟩, saved, ?_, ?_, restored, ?_, ?_⟩
  all_goals decide +kernel

end Deque

end Snapshot
