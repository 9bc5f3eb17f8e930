import Snapshot.Enumeration
import Snapshot.Layout
import Snapshot.Session.Text
import Snapshot.VersionedField

/-!
# Values

Values are saved and restored along their layout, item by item, with a length
prefix before sequences of variable length.  Plain values can also be moved as one
block.  Restoring is given the destination's old contents, because bytes are read
into them; `transfer` and its companions save or restore as the session demands.
-/

namespace Snapshot

namespace Session

/-- Applies an operation to each item in order. -/
def eachFixed {σ α β : Type} {length : Nat} (act : α → Session σ → β × Session σ)
    (items : Fixed α length) (session : Session σ) : Fixed β length × Session σ :=
  let result := session.each act items.items
  (⟨result.1, by simp [result, items.length_eq]⟩, result.2)

variable {σ : Type} [ByteStream σ]

/-- Reads into a buffer of fixed length. -/
def readFixed {length : Nat} (buffer : Fixed UInt8 length) (session : Session σ) :
    Fixed UInt8 length × Session σ :=
  let result := session.readBytes buffer.items
  (⟨result.1, by simp [result, buffer.length_eq]⟩, result.2)

/-- Saves a value. -/
def save : (layout : Layout) → layout.Value → Session σ → Session σ
  | .unit, _, session => session.writeBytes []
  | .scalar kind, value, session => session.writeBytes (kind.encode value)
  | .bool, flag, session => session.writeFlag flag
  | .text, value, session => session.writeText value
  | .smallText _, value, session => session.writeText value.text
  | .array item _, values, session =>
      values.items.foldl (fun session value => save item value session) session
  | .list item, values, session =>
      values.foldl (fun session value => save item value session)
        (session.writeLength values.length)
  | .deque item, queue, session =>
      queue.back.foldl (fun session value => save item value session)
        (queue.front.foldl (fun session value => save item value session)
          (session.writeLength queue.size))

/-- Reads a list of elements, each into a blank one.  `readItem` reads one element
of the given layout. -/
def readList (item : Layout)
    (readItem : item.Value → Session σ → item.Value × Session σ)
    (session : Session σ) : List item.Value × Session σ :=
  match session.readLength session.limits.collection with
  | (length, session) =>
      session.readChunks item.size length
        (fun count session => session.each readItem (List.replicate count item.blank))

/-- Restores a value into a destination. -/
def restore : (layout : Layout) → layout.Value → Session σ → layout.Value × Session σ
  | .unit, _, session =>
      match session.readBytes [] with
      | (_, session) => ((), session)
  | .scalar kind, old, session =>
      match session.readBytes (kind.encode old) with
      | (bytes, session) => (kind.decode bytes, session)
  | .bool, _, session => session.readFlag
  | .text, _, session => session.readText
  | .smallText capacity, _, session => session.readSmallText capacity
  | .array item _, old, session =>
      session.eachFixed (restore item) old
  | .list item, _, session => session.readList item (restore item)
  | .deque item, _, session =>
      match session.readList item (restore item) with
      | (items, session) => (.ofList items, session)

/-- Saves a value, or restores it. -/
def transfer (layout : Layout) (value : layout.Value) (session : Session σ) :
    layout.Value × Session σ :=
  match session.mode with
  | .write => (value, session.save layout value)
  | .read => session.restore layout value

/-- Like `transfer`, for a field that older state lacks: restoring such state yields
the default and reads nothing. -/
def transferField (layout : Layout) (field : VersionedField layout.Value)
    (value : layout.Value) (session : Session σ) : layout.Value × Session σ :=
  if session.mode = .read ∧ field.isPresent session.version = false then
    (field.default, session)
  else
    session.transfer layout value

/-- Transfers a buffer of bytes as it is. -/
def transferBytes {length : Nat} (buffer : Fixed UInt8 length) (session : Session σ) :
    Fixed UInt8 length × Session σ :=
  match session.mode with
  | .write => (buffer, session.writeBytes buffer.items)
  | .read => session.readFixed buffer

/-- Like `transferBytes`, for a field that older state lacks.  A default of another
length than the buffer is misuse. -/
def transferBytesField {length : Nat} (field : VersionedField Bytes)
    (buffer : Fixed UInt8 length) (session : Session σ) :
    (Except Misuse Unit × Fixed UInt8 length) × Session σ :=
  if session.mode = .read ∧ field.isPresent session.version = false then
    match Fixed.ofList? length field.default with
    | some default => ((.ok (), default), session)
    | none => ((.error .defaultLength, buffer), session)
  else
    match session.transferBytes buffer with
    | (buffer, session) => ((.ok (), buffer), session)

/-- Transfers a plain value as one block. -/
def transferBlock (layout : Layout) (value : layout.Value) (session : Session σ) :
    layout.Value × Session σ :=
  match session.mode with
  | .write => (value, session.writeBytes (layout.encode value))
  | .read =>
      match session.readBytes (layout.encode value) with
      | (bytes, session) => (layout.ofBlock bytes, session)

/-- Transfers a list of plain values: a length prefix, then blocks of many values
each. -/
def transferBlocks (item : Layout) (values : List item.Value) (session : Session σ) :
    List item.Value × Session σ :=
  match session.mode with
  | .write =>
      (values, (session.writeLength values.length).writeBytes (values.flatMap item.encode))
  | .read =>
      match session.readLength session.limits.collection with
      | (length, session) =>
          session.readChunks item.size length fun count session =>
            match session.readBytes (Bytes.zeros (count * item.size)) with
            | (bytes, session) =>
                ((Bytes.groups item.size count bytes).map item.ofBlock, session)

/-- Transfers a list of values without content, of which there is only the number.
It is transferred like any list of plain values, in blocks of no bytes. -/
def transferUnits (count : Nat) (session : Session σ) : Nat × Session σ :=
  match session.mode with
  | .write => (count, (session.writeLength count).writeBytes [])
  | .read =>
      match session.readLength session.limits.collection with
      | (length, session) =>
          match session.inChunks 0 length
              (fun chunk count session => (count + chunk, (session.readBytes []).2)) 0 0 0 with
          | (count, session) => (if session.hasFailed then 0 else count, session)

/-- Transfers a variant as its representation.  A number that stands for no variant
fails the session; in a failed session the default is restored. -/
def transferVariant (enumeration : Enumeration) (variant : enumeration.Variant)
    (session : Session σ) : enumeration.Variant × Session σ :=
  match session.mode with
  | .write =>
      (variant, session.writeBytes (enumeration.scalar.encode (enumeration.toRepr variant)))
  | .read =>
      match session.readBytes (enumeration.scalar.encode (enumeration.toRepr variant)) with
      | (bytes, session) =>
          let number := enumeration.scalar.decode bytes
          match enumeration.ofRepr? number with
          | some found => (if session.hasFailed then enumeration.default else found, session)
          | none =>
              (enumeration.default,
                session.fail
                  (.invalidEnum enumeration.name (toString (enumeration.kind.toInt number))))

end Session

end Snapshot
