import Snapshot.Proofs.Moves

/-!
# What saving puts out

Saving never looks at the stream.  What a value, a step or a routine puts out is known
beforehand: a list of blocks, of single bytes for truth values, and of refusals where a
length cannot be expressed.  A session that saves puts them out in order and does
nothing else.
-/

namespace Snapshot

/-- One thing that a saving session puts out. -/
inductive Output where
  | block (bytes : Bytes)
  | flag (flag : Bool)
  | refusal (failure : Failure)

namespace Output

/-- The bytes that reach the stream. -/
def bytes : Output → Bytes
  | .block bytes => bytes
  | .flag truth => [if truth then 1 else 0]
  | .refusal _ => []

/-- A length prefix, where four bytes can express the length. -/
def length (count : Nat) : Output :=
  if count ≤ Limits.largestLength then
    .block (Bytes.ofNat 4 count)
  else
    .refusal (.lengthLimit count Limits.largestLength)

/-- A length prefix and the bytes of a text. -/
def text (text : String) : List Output :=
  [length text.utf8ByteSize, .block (Utf8.encode text)]

/-- The bytes of all outputs, one after another. -/
def concat (outputs : List Output) : Bytes :=
  outputs.flatMap bytes

/-- Nothing is refused. -/
def Unrefused (outputs : List Output) : Prop :=
  ∀ failure, .refusal failure ∉ outputs

@[simp] theorem concat_nil : concat [] = [] :=
  rfl

@[simp] theorem concat_cons (output : Output) (outputs : List Output) :
    concat (output :: outputs) = output.bytes ++ concat outputs :=
  rfl

@[simp] theorem concat_append (front back : List Output) :
    concat (front ++ back) = concat front ++ concat back :=
  List.flatMap_append

@[simp] theorem concat_block (stored : Bytes) : concat [.block stored] = stored :=
  List.append_nil stored

theorem concat_flatMap {α : Type} (outputs : α → List Output) (items : List α) :
    concat (items.flatMap outputs) = items.flatMap fun item => concat (outputs item) := by
  induction items with
  | nil => rfl
  | cons item items ih => rw [List.flatMap_cons, concat_append, ih, List.flatMap_cons]

theorem unrefused_nil : Unrefused [] := by
  intro failure member
  cases member

theorem unrefused_append {front back : List Output} :
    Unrefused (front ++ back) ↔ Unrefused front ∧ Unrefused back := by
  constructor
  · intro unrefused
    exact ⟨fun failure member => unrefused failure (List.mem_append_left back member),
      fun failure member => unrefused failure (List.mem_append_right front member)⟩
  · rintro ⟨first, second⟩ failure member
    rcases List.mem_append.mp member with early | late
    · exact first failure early
    · exact second failure late

theorem unrefused_or_exists (output : Output) :
    Unrefused [output] ∨ ∃ failure, output = .refusal failure := by
  cases output with
  | block stored => simp [Unrefused]
  | flag truth => simp [Unrefused]
  | refusal failure => exact Or.inr ⟨failure, rfl⟩

theorem unrefused_flatMap {α : Type} {outputs : α → List Output} {items : List α} :
    Unrefused (items.flatMap outputs) ↔ ∀ item ∈ items, Unrefused (outputs item) := by
  constructor
  · intro unrefused item inside failure member
    exact unrefused failure (List.mem_flatMap.mpr ⟨item, inside, member⟩)
  · intro each failure member
    obtain ⟨item, inside, refused⟩ := List.mem_flatMap.mp member
    exact each item inside failure refused

theorem unrefused_length {count : Nat} :
    Unrefused [length count] ↔ count ≤ Limits.largestLength := by
  unfold length
  constructor
  · intro unrefused
    by_cases small : count ≤ Limits.largestLength
    · exact small
    · exact absurd (by rw [if_neg small]; exact List.mem_singleton_self _) (unrefused _)
  · intro small failure member
    rw [if_pos small] at member
    cases List.mem_singleton.mp member

theorem bytes_length {count : Nat} (small : count ≤ Limits.largestLength) :
    (length count).bytes = Bytes.ofNat 4 count := by
  rw [length, if_pos small]
  rfl

theorem unrefused_cons_length {count : Nat} {outputs : List Output} :
    Unrefused (length count :: outputs) ↔
      count ≤ Limits.largestLength ∧ Unrefused outputs := by
  have split : length count :: outputs = [length count] ++ outputs := rfl
  rw [split, unrefused_append, unrefused_length]

theorem unrefused_text {value : String} :
    Unrefused (text value) ↔ value.utf8ByteSize ≤ Limits.largestLength := by
  rw [text, unrefused_cons_length]
  constructor
  · exact And.left
  · intro small
    refine ⟨small, fun failure member => ?_⟩
    cases List.mem_singleton.mp member

theorem concat_text {value : String} (small : value.utf8ByteSize ≤ Limits.largestLength) :
    concat (text value) = Bytes.ofNat 4 value.utf8ByteSize ++ Utf8.encode value := by
  rw [text, concat_cons, bytes_length small]
  exact congrArg (_ ++ ·) (List.append_nil _)

end Output

open Output

/-- What saving a value puts out. -/
def Layout.outputs : (layout : Layout) → layout.Value → List Output
  | .unit, _ => [.block []]
  | .scalar kind, value => [.block (kind.encode value)]
  | .bool, truth => [.flag truth]
  | .text, value => Output.text value
  | .smallText _, value => Output.text value.text
  | .array item _, values => values.items.flatMap (outputs item)
  | .list item, values => length values.length :: values.flatMap (outputs item)
  | .deque item, queue => length queue.size :: queue.toList.flatMap (outputs item)

/-- What a step puts out. -/
def Step.outputs : (step : Step) → step.Value → List Output
  | .value layout, given => layout.outputs given
  | .field layout _, given => layout.outputs given
  | .block layout _, given => [.block (layout.encode given)]
  | .blocks item _, given => [length given.length, .block (given.flatMap item.encode)]
  | .units, given => [length given, .block []]
  | .bytes _, given => [.block given.items]
  | .bytesField _ _, given => [.block given.items]
  | .variant enumeration, given =>
      [.block (enumeration.scalar.encode (enumeration.toRepr given))]
  | .lend lent, _ => text lent
  | .marker expected, _ => if markerCapacity < expected.utf8ByteSize then [] else text expected
  | .expect expected, _ => if markerCapacity < expected.utf8ByteSize then [] else text expected
  | .invalidate reason, _ => [.refusal (.invalid reason)]
  | .abandon _, _ => []

/-- What a routine puts out, whatever the version. -/
def Routine.outputs : (routine : Routine) → routine.Values → List Output
  | [], _ => []
  | step :: steps, (given, rest) => step.outputs given ++ outputs steps rest

/-- Single bytes are written like any others. -/
def ByteStream.WritesSingly (σ : Type) [ByteStream σ] : Prop :=
  ∀ (allocator : Allocator) (byte : UInt8) (state : σ),
    writeByte allocator byte state = write allocator [byte] state

namespace Session

variable {σ : Type} [ByteStream σ]

theorem writeBytes_of_ok {session : Session σ} {bytes : Bytes} (sound : session.failure = none)
    (written : (ByteStream.write session.allocator bytes session.stream).1 = .ok ()) :
    session.writeBytes bytes =
      { session with stream := (ByteStream.write session.allocator bytes session.stream).2 } := by
  rw [writeBytes, if_neg (by simp [hasFailed, sound]), withStream_eq, written]

theorem writeBytes_of_error {session : Session σ} {bytes : Bytes} {fault : Fault}
    (sound : session.failure = none)
    (faulted : (ByteStream.write session.allocator bytes session.stream).1 = .error fault) :
    session.writeBytes bytes =
      { session with
        stream := (ByteStream.write session.allocator bytes session.stream).2
        failure := some (.stream fault) } := by
  rw [writeBytes, if_neg (by simp [hasFailed, sound]), withStream_eq, faulted]
  dsimp only
  rw [fail_of_sound (by exact sound)]

/-- Puts out one thing. -/
def put : Output → Session σ → Session σ
  | .block bytes, session => session.writeBytes bytes
  | .flag truth, session => session.writeFlag truth
  | .refusal failure, session => session.fail failure

/-- Puts out one thing after another. -/
def putAll (outputs : List Output) (session : Session σ) : Session σ :=
  outputs.foldl (fun session output => session.put output) session

@[simp] theorem putAll_nil (session : Session σ) : session.putAll [] = session :=
  rfl

@[simp] theorem putAll_cons (output : Output) (outputs : List Output) (session : Session σ) :
    session.putAll (output :: outputs) = (session.put output).putAll outputs :=
  rfl

@[simp] theorem putAll_append (front back : List Output) (session : Session σ) :
    session.putAll (front ++ back) = (session.putAll front).putAll back :=
  List.foldl_append

theorem put_of_hasFailed {session : Session σ} (failed : session.hasFailed = true)
    (output : Output) : session.put output = session := by
  cases output with
  | block stored => exact writeBytes_of_hasFailed failed stored
  | flag truth => exact writeFlag_of_hasFailed failed truth
  | refusal failure => exact fail_of_hasFailed failed failure

theorem putAll_of_hasFailed {session : Session σ} (failed : session.hasFailed = true)
    (outputs : List Output) : session.putAll outputs = session := by
  induction outputs with
  | nil => rfl
  | cons output outputs ih => rw [putAll_cons, put_of_hasFailed failed, ih]

/-- A block, or a truth value, is written as its bytes. -/
theorem put_eq_writeBytes (single : ByteStream.WritesSingly σ) {output : Output}
    (unrefused : Unrefused [output]) (session : Session σ) :
    session.put output = session.writeBytes output.bytes := by
  cases output with
  | block stored => rfl
  | flag truth =>
      have same (byte : UInt8) :
          (ByteStream.writeByte session.allocator byte : σ → Except Fault Unit × σ) =
            ByteStream.write session.allocator [byte] :=
        funext (single session.allocator byte)
      rw [put, writeFlag, same]
      rfl
  | refusal failure => exact absurd (List.mem_singleton_self _) (unrefused failure)

theorem mismatch_put (output : Output) (session : Session σ) :
    (session.put output).mismatch = session.mismatch := by
  cases output with
  | block stored => exact (writeBytes_moves stored session).mismatch_eq
  | flag truth => exact (writeFlag_moves truth session).mismatch_eq
  | refusal failure => rfl

/-- Saving meets no marker that is not the expected one. -/
theorem mismatch_putAll (outputs : List Output) (session : Session σ) :
    (session.putAll outputs).mismatch = session.mismatch := by
  induction outputs generalizing session with
  | nil => rfl
  | cons output outputs ih => rw [putAll_cons, ih, mismatch_put]

theorem writeLength_eq_put (count : Nat) (session : Session σ) :
    session.writeLength count = session.put (length count) := by
  unfold writeLength length
  split
  · rfl
  · rfl

theorem writeText_eq_putAll (value : String) (session : Session σ) :
    session.writeText value = session.putAll (text value) := by
  rw [writeText, writeLength_eq_put]
  rfl

theorem foldl_eq_putAll {α : Type} {act : Session σ → α → Session σ} {outputs : α → List Output}
    (acts : ∀ session item, act session item = session.putAll (outputs item)) (items : List α)
    (session : Session σ) : items.foldl act session = session.putAll (items.flatMap outputs) := by
  induction items generalizing session with
  | nil => rfl
  | cons item items ih => rw [List.foldl_cons, acts, ih, List.flatMap_cons, putAll_append]

/-- Saving a value is putting out its outputs. -/
theorem save_eq_putAll (layout : Layout) (value : layout.Value) (session : Session σ) :
    session.save layout value = session.putAll (layout.outputs value) := by
  induction layout generalizing session with
  | unit => rfl
  | scalar kind => rfl
  | bool => rfl
  | text => exact writeText_eq_putAll value session
  | smallText capacity => exact writeText_eq_putAll value.text session
  | array item length ih =>
      exact foldl_eq_putAll (fun session value => ih value session) value.items session
  | list item ih =>
      rw [save, writeLength_eq_put]
      exact foldl_eq_putAll (fun session value => ih value session) value _
  | deque item ih =>
      have items := foldl_eq_putAll (fun session value => ih value session) value.toList
        (session.put (length value.size))
      rw [save, writeLength_eq_put, ← List.foldl_append]
      exact items

theorem marker_of_writing {session : Session σ} (writing : session.mode = .write)
    (expected : String) :
    (session.marker expected).2 = session.putAll
      (if markerCapacity < expected.utf8ByteSize then [] else text expected) := by
  unfold marker
  split
  · rfl
  · rw [writing]
    exact writeText_eq_putAll expected session

/-- Checking a marker leaves the session as reading or writing it does. -/
theorem expectMarker_next (expected : String) (session : Session σ) :
    (session.expectMarker expected).2 = (session.marker expected).2 := by
  unfold expectMarker
  split
  all_goals
    next outcome => rw [outcome]

end Session

variable {σ : Type} [ByteStream σ] {session : Session σ}

/-- A step of a saving session puts out its outputs. -/
theorem Step.run_of_writing (writing : session.mode = .write) (step : Step)
    (given : step.Value) : (step.run given session).2 = session.putAll (step.outputs given) := by
  cases step with
  | value layout =>
      simp only [run, Session.transfer, writing]
      exact Session.save_eq_putAll layout given session
  | field layout gate =>
      simp only [run, Session.transferField, Session.transfer, writing]
      exact Session.save_eq_putAll layout given session
  | block layout plain =>
      simp only [run, Session.transferBlock, writing]
      rfl
  | blocks item plain =>
      simp only [run, Session.transferBlocks, writing, Session.writeLength_eq_put]
      rfl
  | units =>
      simp only [run, Session.transferUnits, writing, Session.writeLength_eq_put]
      rfl
  | bytes length =>
      simp only [run, Session.transferBytes, writing]
      rfl
  | bytesField length gate =>
      rw [run_bytesField]
      simp only [Session.transferBytesField, Session.transferBytes, writing]
      rfl
  | variant enumeration =>
      simp only [run, Session.transferVariant, writing]
      rfl
  | lend lent =>
      rw [run_lend]
      simp only [Session.lendText, writing]
      exact Session.writeText_eq_putAll lent session
  | marker expected =>
      rw [run_marker]
      exact Session.marker_of_writing writing expected
  | expect expected =>
      rw [run_expect, Session.expectMarker_next]
      exact Session.marker_of_writing writing expected
  | invalidate reason => rfl
  | abandon reason => rfl

/-- A routine of a saving session puts out its outputs, whatever the version. -/
theorem Routine.run_of_writing (writing : session.mode = .write) (routine : Routine)
    (given : routine.Values) :
    (routine.run given session).2 = session.putAll (routine.outputs given) := by
  induction routine generalizing session with
  | nil => rfl
  | cons step steps ih =>
      have front := step.run_of_writing writing given.1
      have kept := (step.run_moves given.1 session).settings.1
      have back := ih (kept.trans writing) given.2
      rw [outputs, Session.putAll_append, ← front]
      exact back

end Snapshot
