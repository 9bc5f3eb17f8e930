import Snapshot.Proofs.Course
import Snapshot.Proofs.TestedReading

/-!
# Where a call panics

Every step of a routine once more, with every index, copy, sum and difference tested and with
its assertions.  A call that does what its contract forbids panics, and no other call does:
it gives what the step itself gives, over memory and slices alike.
-/

namespace Snapshot

/-- The uses of a session that the contract of a step forbids: to lend a text while reading, a
marker that is too long, and, for an absent field of bytes, a default of another length. -/
inductive Step.Misused (mode : Mode) (version : UInt32) : Step → Misuse → Prop where
  | lend {text : String} (reading : mode = .read) :
      Misused mode version (.lend text) .textWhileReading
  | marker {expected : String} (long : markerCapacity < expected.utf8ByteSize) :
      Misused mode version (.marker expected) .markerTooLong
  | expect {expected : String} (long : markerCapacity < expected.utf8ByteSize) :
      Misused mode version (.expect expected) .markerTooLong
  | bytesField {length : Nat} {gate : VersionedField Bytes} (reading : mode = .read)
      (absent : gate.isPresent version = false) (other : gate.default.length ≠ length) :
      Misused mode version (.bytesField length gate) .defaultLength

/-- A step that keeps to its contract. -/
def Step.IsAllowed (mode : Mode) (version : UInt32) (step : Step) : Prop :=
  ∀ misuse, ¬step.Misused mode version misuse

/-- How a call panics that is misused. -/
def Misuse.panic : Misuse → Panic
  | .textWhileReading => .assertion
  | .markerTooLong => .assertion
  | .defaultLength => .copy

variable {σ : Type} [ByteStream σ] [TestedStream σ]

namespace Tested

variable {α β : Type}

/-! ## Sequences -/

/-- Applies an operation to each item in order, with as many results. -/
def each (act : α → Tested σ β) : (items : List α) → Tested σ (Fixed β items.length)
  | [] => return ⟨[], rfl⟩
  | item :: items => do
      let result ← act item
      let results ← each act items
      return ⟨result :: results.items, congrArg Nat.succ results.length_eq⟩

/-- Applies an operation to each item in order. -/
def eachFixed {length : Nat} (act : α → Tested σ β) (items : Fixed α length) :
    Tested σ (Fixed β length) := do
  let results ← each act items.items
  return ⟨results.items, results.length_eq.trans items.length_eq⟩

/-- Reads a list of elements, each into a blank one of its chunk. -/
def readList (item : Layout) (readItem : item.Value → Tested σ item.Value) :
    Tested σ (List item.Value) := do
  let session ← get
  let length ← readLength session.limits.collection
  readVector item.size length item.blank (eachFixed readItem)

/-- Reads the bytes of a chunk of plain values. -/
def fillBlocks (item : Layout) {count : Nat} (chunk : Fixed item.Value count) :
    Tested σ (Fixed item.Value count) := do
  let bytes ← readInto ⟨chunk.items.flatMap item.encode, rfl⟩
  return ⟨(Bytes.groups item.size count bytes.items).map item.ofBlock, by simp⟩

/-- Reads a list of plain values, a chunk at a time. -/
def readBlocks (item : Layout) : Tested σ (List item.Value) := do
  let session ← get
  let length ← readLength session.limits.collection
  readVector item.size length item.blank (fillBlocks item)

/-- Reads the bytes of a chunk of values without content: there are none. -/
def fillUnits {count : Nat} (chunk : Fixed Unit count) : Tested σ (Fixed Unit count) := do
  let _ ← readInto (.replicate 0 0)
  return chunk

/-- Reads a list of values without content. -/
def readUnits : Tested σ Nat := do
  let session ← get
  let length ← readLength session.limits.collection
  let units ← readVector 0 length () fillUnits
  return units.length

/-- Restores a value into a destination. -/
def restore : (layout : Layout) → layout.Value → Tested σ layout.Value
  | .unit, _ => do
      let _ ← readInto (.replicate 0 0)
      return ()
  | .scalar kind, old => do
      let bytes ← readInto ⟨kind.encode old, rfl⟩
      return kind.decode bytes.items
  | .bool, _ => readFlag
  | .text, _ => readText
  | .smallText capacity, _ => readSmallText capacity
  | .array item _, old => eachFixed (restore item) old
  | .list item, _ => readList item (restore item)
  | .deque item, _ => do
      let items ← readList item (restore item)
      return .ofList items

/-- Restores a plain value from one block. -/
def readBlock (layout : Layout) (old : layout.Value) : Tested σ layout.Value := do
  let bytes ← readInto ⟨layout.encode old, rfl⟩
  return layout.ofBlock bytes.items

/-- Restores a variant from its representation. -/
def readVariant (enumeration : Enumeration) (old : enumeration.Variant) :
    Tested σ enumeration.Variant := do
  let bytes ← readInto ⟨enumeration.scalar.encode (enumeration.toRepr old), rfl⟩
  let number := enumeration.scalar.decode bytes.items
  match enumeration.ofRepr? number with
  | some found =>
      let session ← get
      return if session.hasFailed then enumeration.default else found
  | none =>
      modify (Session.fail
        (.invalidEnum enumeration.name (toString (enumeration.kind.toInt number))))
      return enumeration.default

/-! ## Saving -/

/-- Writes bytes. -/
def writeBytes (bytes : Bytes) : Tested σ Unit :=
  fun session =>
    if session.hasFailed then
      .ok ((), session)
    else do
      let (outcome, stream) ← TestedStream.write session.allocator bytes session.stream
      match outcome with
      | .ok () => return ((), { session with stream := stream })
      | .error fault =>
          return ((), Session.fail (.stream fault) { session with stream := stream })

/-- Puts out one thing. -/
def put : Output → Tested σ Unit
  | .block bytes => writeBytes bytes
  | .flag truth => writeBytes [if truth then 1 else 0]
  | .refusal failure => modify (Session.fail failure)

/-- Puts out one thing after another. -/
def putAll : List Output → Tested σ Unit
  | [] => return ()
  | output :: outputs => do
      put output
      putAll outputs

/-- Puts out what is saved and leaves the value, or restores it. -/
def exchange (outputs : List Output) (given : α) (read : Tested σ α) : Tested σ α := do
  let session ← get
  match session.mode with
  | .write =>
      putAll outputs
      return given
  | .read => read

/-! ## Steps -/

/-- Writes a text that is only on loan, which has to be in order to write it. -/
def lendText (text : String) : Tested σ Unit := do
  let session ← get
  demand (session.mode = .write)
  putAll (Output.text text)

/-- Reads a marker and compares it. -/
def readMarker (expected : String) : Tested σ Bool := do
  let found ← readSmallText markerCapacity
  let session ← get
  if session.hasFailed then
    return false
  else if found.text = expected then
    return true
  else
    modify (Session.recordMismatch found.text expected)
    return false

/-- Writes or reads a marker, which has to be short enough to be read back. -/
def marker (expected : String) : Tested σ Bool := do
  demand (expected.utf8ByteSize ≤ markerCapacity)
  let session ← get
  match session.mode with
  | .write =>
      lendText expected
      let session ← get
      return !session.hasFailed
  | .read => readMarker expected

/-- Carries out a step. -/
def run : (step : Step) → step.Value → Tested σ (Reply × step.Value)
  | .value layout, given => do
      let left ← exchange (layout.outputs given) given (restore layout given)
      return (.done, left)
  | .field layout gate, given => do
      let session ← get
      if session.mode = .read ∧ gate.isPresent session.version = false then
        return (.done, gate.default)
      else
        let left ← exchange (layout.outputs given) given (restore layout given)
        return (.done, left)
  | .block layout _, given => do
      let left ← exchange [.block (layout.encode given)] given (readBlock layout given)
      return (.done, left)
  | .blocks item _, given => do
      let left ← exchange [.length given.length, .block (given.flatMap item.encode)] given
        (readBlocks item)
      return (.done, left)
  | .units, given => do
      let left ← exchange [.length given, .block []] given readUnits
      return (.done, left)
  | .bytes _, given => do
      let left ← exchange [.block given.items] given (readInto given)
      return (.done, left)
  | .bytesField _ gate, given => do
      let session ← get
      if session.mode = .read ∧ gate.isPresent session.version = false then
        let copied ← copyOver given gate.default
        return (.done, copied)
      else
        let left ← exchange [.block given.items] given (readInto given)
        return (.done, left)
  | .variant enumeration, given => do
      let left ← exchange [.block (enumeration.scalar.encode (enumeration.toRepr given))] given
        (readVariant enumeration given)
      return (.done, left)
  | .lend text, _ => do
      lendText text
      return (.done, ())
  | .marker expected, _ => do
      let accepted ← marker expected
      return (.matched accepted, ())
  | .expect expected, _ => do
      let accepted ← marker expected
      let session ← get
      return (.checked (if accepted then .ok () else .error session.markerFailure), ())
  | .invalidate reason, _ => do
      modify (Session.invalidate reason)
      return (.done, ())
  | .abandon reason, _ => return (.checked (.error (.invalid reason)), ())

/-- Carries out every step, up to the first that panics. -/
def runAll : (routine : Routine) → routine.Values → Tested σ (List Reply × routine.Values)
  | [], _ => return ([], ())
  | step :: steps, (given, rest) => do
      let (reply, left) ← run step given
      let (replies, rest) ← runAll steps rest
      return (reply :: replies, (left, rest))

/-! ## No test fails while restoring -/

variable {session : Session σ}

theorem each_yields {twin : α → Tested σ β} {act : α → Session σ → β × Session σ}
    (acts : ∀ item {session : Session σ}, TestedStream.IsAddressed session.stream →
      Yields (twin item) session (act item session)) (items : List α)
    (addressed : TestedStream.IsAddressed session.stream) :
    ∃ filled : Fixed β items.length, filled.items = (session.each act items).1 ∧
      Yields (each twin items) session (filled, (session.each act items).2) := by
  induction items generalizing session with
  | nil => exact ⟨⟨[], rfl⟩, rfl, .pure addressed _⟩
  | cons item items ih =>
      have first := acts item addressed
      obtain ⟨filled, same, rest⟩ := ih first.addressed
      rw [Session.each_cons]
      exact ⟨⟨_ :: filled.items, congrArg Nat.succ filled.length_eq⟩, congrArg (_ :: ·) same,
        first.bind (rest.bind (.pure rest.addressed _))⟩

theorem eachFixed_yields {twin : α → Tested σ β} {act : α → Session σ → β × Session σ}
    (acts : ∀ item {session : Session σ}, TestedStream.IsAddressed session.stream →
      Yields (twin item) session (act item session)) {length : Nat} (items : Fixed α length)
    (addressed : TestedStream.IsAddressed session.stream) :
    Yields (eachFixed twin items) session (session.eachFixed act items) := by
  obtain ⟨filled, same, read⟩ := each_yields acts items.items addressed
  have results : (session.eachFixed act items).1 =
      ⟨filled.items, filled.length_eq.trans items.length_eq⟩ :=
    Fixed.ext same.symm
  have whole : session.eachFixed act items = (_, (session.each act items.items).2) :=
    Prod.ext results rfl
  rw [whole]
  exact read.bind (.pure read.addressed _)

theorem readList_yields {item : Layout} {twin : item.Value → Tested σ item.Value}
    {readItem : item.Value → Session σ → item.Value × Session σ}
    (acts : ∀ old {session : Session σ}, TestedStream.IsAddressed session.stream →
      Yields (twin old) session (readItem old session))
    (addressed : TestedStream.IsAddressed session.stream) :
    Yields (readList item twin) session (session.readList item readItem) := by
  have length := readLength_yields addressed session.limits.collection
  have small := readLength_lt session session.limits.collection
  have fills : FillsChunks item.blank (eachFixed twin)
      fun count session => session.each readItem (List.replicate count item.blank) := by
    rintro width _ rfl session addressed
    have read := eachFixed_yields acts (.replicate width item.blank) addressed
    exact ⟨_, rfl, read⟩
  unfold readList Session.readList
  exact .get (length.bind (readVector_yields fills small length.addressed))

theorem restore_yields (layout : Layout) (old : layout.Value)
    (addressed : TestedStream.IsAddressed session.stream) :
    Yields (restore layout old) session (session.restore layout old) := by
  induction layout generalizing session with
  | unit =>
      have read := readInto_yields addressed (.replicate 0 0)
      exact read.map fun _ => ()
  | scalar kind =>
      have read := readInto_yields addressed ⟨kind.encode old, rfl⟩
      exact read.map fun bytes => kind.decode bytes.items
  | bool => exact readFlag_yields addressed
  | text => exact readText_yields addressed
  | smallText capacity => exact readSmallText_yields addressed capacity
  | array item length ih => exact eachFixed_yields (fun old _ => ih old) old addressed
  | list item ih => exact readList_yields (fun old _ => ih old) addressed
  | deque item ih =>
      have read := readList_yields (fun old _ => ih old) addressed
      exact read.map Deque.ofList

theorem readBlock_yields {layout : Layout} {old : layout.Value} (reading : session.mode = .read)
    (addressed : TestedStream.IsAddressed session.stream) :
    Yields (readBlock layout old) session (session.transferBlock layout old) := by
  have read := readInto_yields addressed ⟨layout.encode old, rfl⟩
  rw [Session.transferBlock, reading]
  exact read.map fun bytes => layout.ofBlock bytes.items

theorem fillBlocks_fillsChunks {item : Layout} (plain : item.isPlain = true) :
    FillsChunks (σ := σ) item.blank (fillBlocks item) fun count session =>
      ((Bytes.groups item.size count
          (session.readBytes (Bytes.zeros (count * item.size))).1).map item.ofBlock,
        (session.readBytes (Bytes.zeros (count * item.size))).2) := by
  rintro width _ rfl session addressed
  have size := Layout.length_flatMap_encode (Layout.length_encode_of_isPlain plain)
    (List.replicate width item.blank)
  rw [List.length_replicate] at size
  obtain ⟨filled, same, read⟩ := readInto_yields_readBytes addressed
    ⟨(List.replicate width item.blank).flatMap item.encode, rfl⟩
    ((Bytes.length_zeros (width * item.size)).trans size.symm)
  refine ⟨⟨(Bytes.groups item.size width filled.items).map item.ofBlock, by simp⟩, ?_, ?_⟩
  · rw [same]
  · exact read.bind (.pure read.addressed _)

theorem readBlocks_yields {item : Layout} (plain : item.isPlain = true) {values : List item.Value}
    (reading : session.mode = .read) (addressed : TestedStream.IsAddressed session.stream) :
    Yields (readBlocks item) session (session.transferBlocks item values) := by
  have length := readLength_yields addressed session.limits.collection
  have small := readLength_lt session session.limits.collection
  rw [Session.transferBlocks, reading]
  exact .get (length.bind
    (readVector_yields (fillBlocks_fillsChunks plain) small length.addressed))

theorem fillUnits_fillsChunks :
    FillsChunks (σ := σ) () fillUnits fun count session =>
      (List.replicate count (), (session.readBytes []).2) := by
  rintro width _ rfl session addressed
  have read := readInto_yields addressed (.replicate 0 0)
  exact ⟨.replicate width (), rfl, read.bind (.pure read.addressed _)⟩

theorem readUnits_yields {count : Nat} (reading : session.mode = .read)
    (addressed : TestedStream.IsAddressed session.stream) :
    Yields readUnits session (session.transferUnits count) := by
  have length := readLength_yields addressed session.limits.collection
  have small := readLength_lt session session.limits.collection
  rw [Session.transferUnits, reading]
  refine .get (length.bind ?_)
  generalize session.readLength session.limits.collection = outcome at length small ⊢
  obtain ⟨stored, opened⟩ := outcome
  dsimp only at length small ⊢
  generalize filled : opened.inChunks 0 stored (fun chunk count session =>
    (count + chunk, (session.readBytes []).2)) 0 0 0 = outcome
  obtain ⟨count, last⟩ := outcome
  have counted : ∀ units : List Unit, id units.length = units.length := fun _ => rfl
  obtain ⟨units, same, read⟩ := exists_readVector_yields List.length counted
    fillUnits_fillsChunks (by simp) small length.addressed filled
  dsimp only
  exact same.symm ▸ read.map List.length

theorem readVariant_yields {enumeration : Enumeration} {old : enumeration.Variant}
    (reading : session.mode = .read) (addressed : TestedStream.IsAddressed session.stream) :
    Yields (readVariant enumeration old) session (session.transferVariant enumeration old) := by
  have read := readInto_yields addressed
    ⟨enumeration.scalar.encode (enumeration.toRepr old), rfl⟩
  rw [Session.transferVariant, reading]
  refine read.bind ?_
  dsimp only [Session.readFixed]
  cases enumeration.ofRepr? (enumeration.scalar.decode
      (session.readBytes (enumeration.scalar.encode (enumeration.toRepr old))).1) with
  | some found => exact .get (.pure read.addressed _)
  | none => exact .modify (.pure (by exact read.addressed) _)

/-! ## No test fails while saving -/

theorem writeBytes_yields (bytes : Bytes) (addressed : TestedStream.IsAddressed session.stream) :
    Yields (writeBytes bytes) session ((), session.writeBytes bytes) := by
  have next := TestedStream.isAddressed_write session.allocator bytes addressed
  by_cases failed : session.hasFailed = true
  · rw [Session.writeBytes_of_hasFailed failed]
    exact ⟨if_pos failed, addressed⟩
  · have written : writeBytes bytes session = _ := if_neg failed
    have sound : session.failure = none := by simpa using failed
    rw [TestedStream.write_eq session.allocator bytes addressed] at written
    cases outcome : (ByteStream.write session.allocator bytes session.stream).1 with
    | ok value =>
        rw [Session.writeBytes_of_ok sound outcome]
        refine ⟨written.trans ?_, next⟩
        simp only [bind, Except.bind, outcome]
        rfl
    | error fault =>
        rw [Session.writeBytes_of_error sound outcome]
        refine ⟨written.trans ?_, next⟩
        simp only [bind, Except.bind, outcome]
        rw [Session.fail_of_sound (by exact sound)]
        rfl

theorem put_yields (output : Output) (addressed : TestedStream.IsAddressed session.stream) :
    Yields (put output) session ((), session.put output) := by
  cases output with
  | block bytes => exact writeBytes_yields bytes addressed
  | flag truth =>
      have unrefused : Output.Unrefused [.flag truth] := by simp [Output.Unrefused]
      rw [Session.put_eq_writeBytes TestedStream.writesSingly unrefused]
      exact writeBytes_yields _ addressed
  | refusal failure => exact ⟨rfl, addressed⟩

theorem putAll_yields (outputs : List Output)
    (addressed : TestedStream.IsAddressed session.stream) :
    Yields (putAll outputs) session ((), session.putAll outputs) := by
  induction outputs generalizing session with
  | nil => exact .pure addressed ()
  | cons output outputs ih =>
      have first := put_yields output addressed
      exact first.bind (ih first.addressed)

theorem exchange_of_writing (writing : session.mode = .write) (outputs : List Output) (given : α)
    (read : Tested σ α) (addressed : TestedStream.IsAddressed session.stream) :
    Yields (exchange outputs given read) session (given, session.putAll outputs) := by
  have written := putAll_yields outputs addressed
  unfold exchange
  refine .get ?_
  rw [writing]
  exact written.bind (.pure written.addressed given)

theorem exchange_of_reading (reading : session.mode = .read) (outputs : List Output) (given : α)
    {read : Tested σ α} {outcome : α × Session σ} (restored : Yields read session outcome) :
    Yields (exchange outputs given read) session outcome := by
  unfold exchange
  refine .get ?_
  rw [reading]
  exact restored

/-! ## Steps -/

theorem lendText_yields (writing : session.mode = .write) (text : String)
    (addressed : TestedStream.IsAddressed session.stream) :
    Yields (lendText text) session ((), session.putAll (Output.text text)) :=
  .get (.test (demand_of writing) (putAll_yields (Output.text text) addressed))

theorem readMarker_yields (expected : String)
    (addressed : TestedStream.IsAddressed session.stream) :
    Yields (readMarker expected) session (session.readMarker expected) := by
  have read := readSmallText_yields addressed markerCapacity
  unfold readMarker Session.readMarker
  refine read.bind (.get ?_)
  dsimp only
  split
  · exact .pure read.addressed false
  · split
    · exact .pure read.addressed true
    · exact .modify (.pure (by exact read.addressed) false)

/-- A marker that is short enough is written or read. -/
theorem marker_yields {expected : String} (fits : expected.utf8ByteSize ≤ markerCapacity)
    (addressed : TestedStream.IsAddressed session.stream) :
    ∃ accepted, (session.marker expected).1 = .ok accepted ∧
      Yields (marker expected) session (accepted, (session.marker expected).2) := by
  unfold marker Session.marker
  rw [if_neg (Nat.not_lt_of_le fits)]
  cases mode : session.mode with
  | write =>
      have written := lendText_yields mode expected addressed
      rw [← Session.writeText_eq_putAll] at written
      refine ⟨_, rfl, .test (demand_of fits) (.get ?_)⟩
      rw [mode]
      exact written.bind (.get (.pure written.addressed _))
  | read =>
      refine ⟨_, rfl, .test (demand_of fits) (.get ?_)⟩
      rw [mode]
      exact readMarker_yields expected addressed

theorem marker_panics {expected : String} (long : markerCapacity < expected.utf8ByteSize) :
    Panics (marker expected) session .assertion :=
  .test (demand_of_not (Nat.not_le_of_lt long)) _

/-- A step that only puts out or restores. -/
theorem exchange_yields (step : Step) {given : step.Value} {read : Tested σ step.Value}
    (replied : (step.run given session).1.1 = .done)
    (reads : session.mode = .read →
      Yields read session ((step.run given session).1.2, (step.run given session).2))
    (addressed : TestedStream.IsAddressed session.stream) :
    Yields (exchange (step.outputs given) given read >>= fun left => Pure.pure (Reply.done, left))
      session (step.run given session) := by
  cases mode : session.mode with
  | write =>
      have whole : step.run given session = ((.done, given), session.putAll (step.outputs given)) :=
        Prod.ext (Prod.ext replied (step.run_value_of_writing mode given))
          (step.run_of_writing mode given)
      rw [whole]
      exact (exchange_of_writing mode _ given read addressed).map fun left => (Reply.done, left)
  | read =>
      have whole : ((.done, (step.run given session).1.2), (step.run given session).2) =
          step.run given session :=
        Prod.ext (Prod.ext replied.symm rfl) rfl
      have exchanged := exchange_of_reading mode (step.outputs given) given (reads mode)
      rw [← whole]
      exact exchanged.map fun left => (Reply.done, left)

theorem transfer_yields {layout : Layout} {given : layout.Value} (reading : session.mode = .read)
    (addressed : TestedStream.IsAddressed session.stream) :
    Yields (restore layout given) session (session.transfer layout given) := by
  rw [Session.transfer, reading]
  exact restore_yields layout given addressed

theorem transferBytes_yields {length : Nat} {given : Fixed UInt8 length}
    (reading : session.mode = .read) (addressed : TestedStream.IsAddressed session.stream) :
    Yields (readInto given) session (session.transferBytes given) := by
  rw [Session.transferBytes, reading]
  exact readInto_yields addressed given

theorem runValue_yields (layout : Layout) (given : layout.Value)
    (addressed : TestedStream.IsAddressed session.stream) :
    Yields (run (.value layout) given) session ((Step.value layout).run given session) :=
  exchange_yields (.value layout) rfl (fun reading => transfer_yields reading addressed) addressed

theorem runBytes_yields {length : Nat} (given : Fixed UInt8 length)
    (addressed : TestedStream.IsAddressed session.stream) :
    Yields (run (.bytes length) given) session ((Step.bytes length).run given session) :=
  exchange_yields (.bytes length) rfl (fun reading => transferBytes_yields reading addressed)
    addressed

theorem runField_yields {layout : Layout} (gate : VersionedField layout.Value)
    (given : layout.Value) (addressed : TestedStream.IsAddressed session.stream) :
    Yields (run (.field layout gate) given) session
      ((Step.field layout gate).run given session) := by
  by_cases absent : session.mode = .read ∧ gate.isPresent session.version = false
  · have outcome : (Step.field layout gate).run given session =
        ((.done, gate.default), session) := by
      rw [Step.run, Session.transferField, if_pos absent]
    rw [outcome]
    refine .get ?_
    rw [if_pos absent]
    exact .pure addressed _
  · have outcome : (Step.field layout gate).run given session =
        (Step.value layout).run given session := by
      rw [Step.run, Step.run, Session.transferField, if_neg absent]
    rw [outcome]
    refine .get ?_
    rw [if_neg absent]
    exact runValue_yields layout given addressed

theorem runBytesField_yields {length : Nat} {gate : VersionedField Bytes}
    (given : Fixed UInt8 length)
    (allowed : (Step.bytesField length gate).IsAllowed session.mode session.version)
    (addressed : TestedStream.IsAddressed session.stream) :
    Yields (run (.bytesField length gate) given) session
      ((Step.bytesField length gate).run given session) := by
  by_cases absent : session.mode = .read ∧ gate.isPresent session.version = false
  · have same : gate.default.length = length :=
      Decidable.of_not_not fun other => allowed _ (.bytesField absent.1 absent.2 other)
    have outcome : (Step.bytesField length gate).run given session =
        ((.done, ⟨gate.default, same⟩), session) := by
      rw [Step.run_bytesField, Session.transferBytesField, if_pos absent, Fixed.ofList?,
        dif_pos same]
      rfl
    rw [outcome]
    refine .get ?_
    rw [if_pos absent]
    exact .test (copyOver_of_length given same) (.pure addressed _)
  · have outcome : (Step.bytesField length gate).run given session =
        (Step.bytes length).run given session := by
      rw [Step.run_bytesField, Session.transferBytesField, if_neg absent]
      rfl
    rw [outcome]
    refine .get ?_
    rw [if_neg absent]
    exact runBytes_yields given addressed

theorem runExpect_yields {expected : String} (fits : expected.utf8ByteSize ≤ markerCapacity)
    (given : Unit) (addressed : TestedStream.IsAddressed session.stream) :
    Yields (run (.expect expected) given) session ((Step.expect expected).run given session) := by
  obtain ⟨accepted, answered, checked⟩ := marker_yields fits addressed
  have whole : session.marker expected = (.ok accepted, (session.marker expected).2) :=
    Prod.ext answered rfl
  rw [Step.run_expect, Session.expectMarker, whole]
  refine checked.bind (.get ?_)
  cases accepted with
  | true => exact .pure checked.addressed _
  | false => exact .pure checked.addressed _

/-- A step that keeps to its contract passes every test and gives what the step itself gives. -/
theorem run_yields {step : Step} (given : step.Value)
    (allowed : step.IsAllowed session.mode session.version)
    (addressed : TestedStream.IsAddressed session.stream) :
    Yields (run step given) session (step.run given session) := by
  cases step with
  | value layout => exact runValue_yields layout given addressed
  | field layout gate => exact runField_yields gate given addressed
  | block layout plain =>
      exact exchange_yields (.block layout plain) rfl
        (fun reading => readBlock_yields reading addressed) addressed
  | blocks item plain =>
      exact exchange_yields (.blocks item plain) rfl
        (fun reading => readBlocks_yields plain reading addressed) addressed
  | units =>
      exact exchange_yields .units rfl (fun reading => readUnits_yields reading addressed) addressed
  | bytes length => exact runBytes_yields given addressed
  | bytesField length gate => exact runBytesField_yields given allowed addressed
  | variant enumeration =>
      exact exchange_yields (.variant enumeration) rfl
        (fun reading => readVariant_yields reading addressed) addressed
  | lend text =>
      cases mode : session.mode with
      | write =>
          have lent := lendText_yields mode text addressed
          rw [← Session.writeText_eq_putAll] at lent
          rw [Step.run_lend, Session.lendText, mode]
          exact lent.map fun _ => (Reply.done, ())
      | read => exact absurd (.lend mode) (allowed .textWhileReading)
  | marker expected =>
      have fits := Nat.le_of_not_lt fun long => allowed _ (.marker long)
      obtain ⟨accepted, answered, checked⟩ := marker_yields fits addressed
      rw [Step.run_marker, answered]
      exact checked.map fun accepted => (Reply.matched accepted, ())
  | expect expected =>
      have fits := Nat.le_of_not_lt fun long => allowed _ (.expect long)
      exact runExpect_yields fits given addressed
  | invalidate reason => exact .modify (.pure (by exact addressed) _)
  | abandon reason => exact .pure addressed _

/-- A step that does what its contract forbids panics. -/
theorem run_panics {step : Step} (given : step.Value) {misuse : Misuse}
    (misused : step.Misused session.mode session.version misuse) :
    Panics (run step given) session misuse.panic := by
  cases misused with
  | lend reading =>
      have other : ¬session.mode = .write := by
        rw [reading]
        decide
      exact .bind (.get (.test (demand_of_not other) _)) _
  | marker long => exact .bind (marker_panics long) _
  | expect long => exact .bind (marker_panics long) _
  | bytesField reading absent other =>
      refine .get ?_
      rw [if_pos ⟨reading, absent⟩]
      exact .test (copyOver_of_ne given other) _

end Tested

namespace Step

variable {session : Session σ}

omit [TestedStream σ] in
theorem refused_of_misused {step : Step} (given : step.Value) {misuse : Misuse}
    (misused : step.Misused session.mode session.version misuse) :
    (step.run given session).1.1 = .refused misuse := by
  cases misused with
  | lend reading =>
      rw [run_lend, Session.lendText, reading]
      rfl
  | marker long =>
      rw [run_marker, Session.marker, if_pos long]
      rfl
  | expect long =>
      rw [run_expect, Session.expectMarker, Session.marker, if_pos long]
      rfl
  | bytesField reading absent other =>
      rw [run_bytesField, Session.transferBytesField, if_pos ⟨reading, absent⟩, Fixed.ofList?,
        dif_neg other]
      rfl

omit [TestedStream σ] in
theorem marker_of_fits (session : Session σ) {expected : String}
    (fits : ¬markerCapacity < expected.utf8ByteSize) :
    ∃ accepted next, session.marker expected = (.ok accepted, next) := by
  rw [Session.marker, if_neg fits]
  cases session.mode with
  | write => exact ⟨_, _, rfl⟩
  | read => exact ⟨_, _, rfl⟩

omit [TestedStream σ] in
theorem misused_of_refused {step : Step} {given : step.Value} {misuse : Misuse}
    (refused : (step.run given session).1.1 = .refused misuse) :
    step.Misused session.mode session.version misuse := by
  cases step with
  | lend text =>
      rw [run_lend, Session.lendText] at refused
      cases mode : session.mode with
      | write =>
          rw [mode] at refused
          cases refused
      | read =>
          rw [mode] at refused
          cases refused
          exact .lend rfl
  | marker expected =>
      rw [run_marker] at refused
      by_cases long : markerCapacity < expected.utf8ByteSize
      · rw [Session.marker, if_pos long] at refused
        cases refused
        exact .marker long
      · obtain ⟨accepted, next, answered⟩ := marker_of_fits session long
        rw [answered] at refused
        cases refused
  | expect expected =>
      rw [run_expect] at refused
      by_cases long : markerCapacity < expected.utf8ByteSize
      · rw [Session.expectMarker, Session.marker, if_pos long] at refused
        cases refused
        exact .expect long
      · obtain ⟨accepted, next, answered⟩ := marker_of_fits session long
        rw [Session.expectMarker, answered] at refused
        cases accepted <;> cases refused
  | bytesField length gate =>
      rw [run_bytesField, Session.transferBytesField] at refused
      by_cases absent : session.mode = .read ∧ gate.isPresent session.version = false
      · rw [if_pos absent] at refused
        by_cases same : gate.default.length = length
        · rw [Fixed.ofList?, dif_pos same] at refused
          cases refused
        · rw [Fixed.ofList?, dif_neg same] at refused
          cases refused
          exact .bytesField absent.1 absent.2 same
      · rw [if_neg absent] at refused
        cases refused
  | _ => cases refused

end Step

namespace Routine

variable {session : Session σ}

/-- The calls of a routine that panic are those that do what their contract forbids. -/
structure PanicsWhereDocumented (routine : Routine) (given : routine.Values)
    (session : Session σ) : Prop where
  /-- What a step itself refuses is what its contract forbids. -/
  refused : ∀ (index : Fin routine.length) (misuse : Misuse),
    ((routine.get index).run (routine.valueAt given index)
      (routine.after given index.val session)).1.1 = .refused misuse ↔
      (routine.get index).Misused session.mode session.version misuse
  /-- At every point of the course a call that its contract forbids panics. -/
  panics : ∀ (index : Fin routine.length) (misuse : Misuse),
    (routine.get index).Misused session.mode session.version misuse →
      Tested.run (routine.get index) (routine.valueAt given index)
        (routine.after given index.val session) = .error misuse.panic
  /-- Every other call passes every test and gives what the step itself gives. -/
  passes : ∀ index : Fin routine.length,
    (routine.get index).IsAllowed session.mode session.version →
      Tested.run (routine.get index) (routine.valueAt given index)
          (routine.after given index.val session) =
        .ok ((routine.get index).run (routine.valueAt given index)
          (routine.after given index.val session))
  /-- A routine of such calls does not panic. -/
  whole : (∀ step ∈ routine, step.IsAllowed session.mode session.version) →
    Tested.runAll routine given session = .ok (routine.run given session)
  /-- Any other routine panics at its first call that is not of them. -/
  first : ∀ (front back : Routine) (step : Step) (misuse : Misuse), routine = front ++ step :: back →
    (∀ earlier ∈ front, earlier.IsAllowed session.mode session.version) →
      step.Misused session.mode session.version misuse →
        Tested.runAll routine given session = .error misuse.panic

theorem runAll_yields {routine : Routine} (given : routine.Values)
    (allowed : ∀ step ∈ routine, step.IsAllowed session.mode session.version)
    (addressed : TestedStream.IsAddressed session.stream) :
    Tested.Yields (Tested.runAll routine given) session (routine.run given session) := by
  induction routine generalizing session with
  | nil => exact .pure addressed _
  | cons step steps ih =>
      obtain ⟨first, later⟩ := List.forall_mem_cons.mp allowed
      have front := Tested.run_yields given.1 first addressed
      obtain ⟨mode, version, _⟩ := (step.run_moves given.1 session).settings
      have back := ih given.2 (by rw [mode, version]; exact later) front.addressed
      exact front.bind (back.bind (.pure back.addressed _))

/-- The first step that its contract forbids ends the run: the steps before it pass, and they
change neither the mode nor the version that its contract is about. -/
theorem runAll_panics {routine front back : Routine} {step : Step} {misuse : Misuse}
    (split : routine = front ++ step :: back) (given : routine.Values)
    (allowed : ∀ earlier ∈ front, earlier.IsAllowed session.mode session.version)
    (misused : step.Misused session.mode session.version misuse)
    (addressed : TestedStream.IsAddressed session.stream) :
    Tested.Panics (Tested.runAll routine given) session misuse.panic := by
  induction routine generalizing front session with
  | nil => cases front <;> cases split
  | cons head steps ih =>
      cases front with
      | nil =>
          cases split
          exact .bind (Tested.run_panics given.1 misused) _
      | cons earlier front =>
          cases split
          obtain ⟨first, later⟩ := List.forall_mem_cons.mp allowed
          have passed := Tested.run_yields given.1 first addressed
          obtain ⟨mode, version, _⟩ := (head.run_moves given.1 session).settings
          have panics := ih rfl given.2 (by rw [mode, version]; exact later)
            (by rw [mode, version]; exact misused) passed.addressed
          exact .after passed (.bind panics _)

theorem isAddressed_of_transfers {before after : σ} {mode : Mode} {fault : Option Fault}
    (transferred : Transfers before mode fault after)
    (addressed : TestedStream.IsAddressed before) : TestedStream.IsAddressed after := by
  cases transferred with
  | read count => exact TestedStream.isAddressed_read count addressed
  | readByte =>
      rw [TestedStream.readByte_eq]
      exact TestedStream.isAddressed_read 1 addressed
  | write allocator bytes => exact TestedStream.isAddressed_write allocator bytes addressed
  | writeByte allocator byte =>
      rw [TestedStream.writesSingly]
      exact TestedStream.isAddressed_write allocator [byte] addressed

theorem panicsWhereDocumented (routine : Routine) (given : routine.Values)
    (addressed : TestedStream.IsAddressed session.stream) :
    routine.PanicsWhereDocumented given session where
  refused index misuse := by
    obtain ⟨mode, version, _⟩ := (routine.after_moves given index.val session).settings
    rw [← mode, ← version]
    exact ⟨Step.misused_of_refused, Step.refused_of_misused _⟩
  panics index misuse misused := by
    obtain ⟨mode, version, _⟩ := (routine.after_moves given index.val session).settings
    exact Tested.run_panics _ (by rw [mode, version]; exact misused)
  passes index allowed := by
    have moves := routine.after_moves given index.val session
    obtain ⟨mode, version, _⟩ := moves.settings
    exact (Tested.run_yields _ (by rw [mode, version]; exact allowed)
      (moves.preserves isAddressed_of_transfers addressed)).run_eq
  whole allowed := (runAll_yields given allowed addressed).run_eq
  first _ _ _ _ split allowed misused := runAll_panics split given allowed misused addressed

/-- Panics happen only where the contract says so.  Over memory with its cursor anywhere and
over every slice, whatever the bytes, the limits and the version, a call panics exactly where it
lends a text while reading, where its marker is longer than a marker may be, and where the
default of an absent field of bytes has another length.  Everywhere else no index, copy, sum or
difference is out of range, a cut text fits its capacity and is well formed, and the call gives
what the step itself gives. -/
theorem panics_only_where_documented (routine : Routine) (given : routine.Values) :
    (∀ session : Session Memory, routine.PanicsWhereDocumented given session) ∧
      ∀ session : Session Slice, session.stream.IsAddressed →
        routine.PanicsWhereDocumented given session :=
  ⟨fun _ => routine.panicsWhereDocumented given trivial,
    fun _ addressed => routine.panicsWhereDocumented given addressed⟩

/-- A small text is cut inside a character and read; to lend a text while reading panics, and so
does a default of one byte for a field of two. -/
theorem panics_only_where_documented_behind_cut_text :
    let routine : Routine := [.value (.smallText 2), .lend "x", .bytesField 2 ⟨5, [1]⟩]
    let given : routine.Values := (.empty 2, (), ⟨[0, 0], rfl⟩, ())
    let session := Session.start .unbounded (Slice.ofBytes [4, 0, 0, 0, 65, 195, 169, 66]) .read 4
      .standard
    session.stream.IsAddressed ∧
      (∃ next, Tested.run (.value (.smallText 2)) (.empty 2) session =
        .ok ((.done, ⟨"A", by decide⟩), next)) ∧
      Tested.run (.lend "x") () (routine.after given 1 session) = .error .assertion ∧
      Tested.run (.bytesField 2 ⟨5, [1]⟩) ⟨[0, 0], rfl⟩ (routine.after given 2 session) =
        .error .copy := by
  intro routine given session
  have addressed : session.stream.IsAddressed := ⟨by decide, by decide⟩
  have story := (panics_only_where_documented routine given).2 session addressed
  refine ⟨addressed, ?_, ?_, ?_⟩
  · have passed := story.passes ⟨0, by decide⟩ (fun misuse misused => by cases misused)
    have kept : (session.readSmallText 2).1 = ⟨"A", by decide⟩ := by
      decide +kernel
    exact ⟨_, passed.trans (congrArg Except.ok (Prod.ext (Prod.ext rfl kept) rfl))⟩
  · exact story.panics ⟨1, by decide⟩ .textWhileReading (.lend rfl)
  · exact story.panics ⟨2, by decide⟩ .defaultLength (.bytesField rfl rfl (by decide))

end Routine

end Snapshot
