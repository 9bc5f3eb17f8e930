import Snapshot.Scalar
import Snapshot.SmallText

/-!
# Layouts

A layout is the shape of a stored value: a number, a truth value, a text, or a
sequence of values of one layout.  `Layout.Value` gives the values of a layout,
`blank` the value that stands for nothing, and `encode` the stored bytes.  The
plain layouts are those whose values are blocks of bytes of one fixed size, and
`ofBlock` reads such a block back.
-/

namespace Snapshot

/-- A sequence of a fixed length. -/
structure Fixed (α : Type) (length : Nat) where
  items : List α
  length_eq : items.length = length

namespace Fixed

variable {α : Type} {length : Nat}

theorem ext {first second : Fixed α length} (same : first.items = second.items) :
    first = second := by
  cases first
  cases second
  cases same
  rfl

/-- The sequence that repeats one item. -/
def replicate (length : Nat) (item : α) : Fixed α length :=
  ⟨List.replicate length item, by simp⟩

/-- The list as a sequence of the given length, when it has that length. -/
def ofList? (length : Nat) (items : List α) : Option (Fixed α length) :=
  if same : items.length = length then
    some ⟨items, same⟩
  else
    none

end Fixed

/-- A double-ended queue.  Its items are those of the front followed by those of
the back; where the two meet is an accident of its history. -/
structure Deque (α : Type) where
  front : List α
  back : List α

namespace Deque

variable {α : Type}

/-- The items in order. -/
def toList (queue : Deque α) : List α :=
  queue.front ++ queue.back

/-- The queue of the given items, all of them in the front. -/
def ofList (items : List α) : Deque α :=
  ⟨items, []⟩

def size (queue : Deque α) : Nat :=
  queue.front.length + queue.back.length

@[simp] theorem toList_ofList (items : List α) : (ofList items).toList = items := by
  simp [ofList, toList]

@[simp] theorem length_toList (queue : Deque α) : queue.toList.length = queue.size := by
  simp [toList, size]

end Deque

/-- The shapes of stored values. -/
inductive Layout where
  | unit
  | scalar (kind : Scalar)
  | bool
  | text
  | smallText (capacity : Nat)
  | array (item : Layout) (length : Nat)
  | list (item : Layout)
  | deque (item : Layout)
  deriving DecidableEq, Repr

namespace Layout

/-- The values of a layout. -/
@[reducible] def Value : Layout → Type
  | .unit => Unit
  | .scalar kind => kind.Value
  | .bool => Bool
  | .text => String
  | .smallText capacity => SmallText capacity
  | .array item length => Fixed item.Value length
  | .list item => List item.Value
  | .deque item => Deque item.Value

/-- The value that holds nothing: zero, false, empty, and item by item in arrays. -/
def blank : (layout : Layout) → layout.Value
  | .unit => ()
  | .scalar _ => 0#_
  | .bool => false
  | .text => ""
  | .smallText capacity => .empty capacity
  | .array item length => .replicate length (blank item)
  | .list _ => []
  | .deque _ => .ofList []

/-- The bytes that a value takes up in memory, apart from what it points to. -/
def size : Layout → Nat
  | .unit => 0
  | .scalar kind => kind.width
  | .bool => 1
  | .text => 24
  | .smallText capacity => (capacity + 7) / 4 * 4
  | .array item length => length * item.size
  | .list _ => 24
  | .deque _ => 32

/-- Whether every value is a block of `size` bytes and every such block a value. -/
def isPlain : Layout → Bool
  | .unit => true
  | .scalar _ => true
  | .array item _ => item.isPlain
  | _ => false

/-- The stored bytes of a value: numbers as they are, one byte for a truth value,
and a length of four bytes before texts and sequences of variable length. -/
def encode : (layout : Layout) → layout.Value → Bytes
  | .unit, _ => []
  | .scalar kind, value => kind.encode value
  | .bool, flag => [if flag then 1 else 0]
  | .text, value => Bytes.ofNat 4 value.utf8ByteSize ++ Utf8.encode value
  | .smallText _, value => Bytes.ofNat 4 value.text.utf8ByteSize ++ Utf8.encode value.text
  | .array item _, values => values.items.flatMap (encode item)
  | .list item, values => Bytes.ofNat 4 values.length ++ values.flatMap (encode item)
  | .deque item, queue => Bytes.ofNat 4 queue.size ++ queue.toList.flatMap (encode item)

/-- The value of a plain layout that a block of bytes holds. -/
def ofBlock : (layout : Layout) → Bytes → layout.Value
  | .unit, _ => ()
  | .scalar kind, bytes => kind.decode bytes
  | .array item length, bytes =>
      ⟨(Bytes.groups item.size length bytes).map (ofBlock item), by simp⟩
  | .bool, _ => false
  | .text, _ => ""
  | .smallText capacity, _ => .empty capacity
  | .list _, _ => []
  | .deque _, _ => .ofList []

end Layout

end Snapshot
