import Snapshot.Proofs.BulkTransfer
import Snapshot.Proofs.KeptText
import Snapshot.Proofs.ReadingOn
import Snapshot.Proofs.Refusals
import Snapshot.Proofs.WholeText

/-!
# The forms of a text

A text is transferred as a whole, on loan, into a small text, as a marker, or as a list of its
bytes.  All forms save the same bytes.  Restoring, each form takes the length and the payload off
the stream in its own way and makes something else of it, and yet all of them leave the stream in
the same place, so that what follows is read the same whichever was used.
-/

namespace Snapshot

/-! ## What two forms make of a payload -/

theorem Bytes.beforeZero_prefix {front bytes : Bytes} (inside : front <+: bytes) :
    beforeZero front <+: beforeZero bytes := by
  obtain ⟨rest, rfl⟩ := inside
  unfold beforeZero
  rw [List.takeWhile_append]
  split
  · next whole =>
      rw [(List.takeWhile_prefix _).eq_of_length whole]
      exact List.prefix_append _ _
  · exact List.prefix_refl _

namespace Utf8

/-- A well-formed front is decoded to its text, whatever stands behind it. -/
theorem decodeLossy_encode_append (text : String) (rest : Bytes) :
    decodeLossy (encode text ++ rest) = text ++ decodeLossy rest := by
  apply String.ext
  rw [encode_eq_flatMap, String.toList_append]
  generalize text.toList = chars
  induction chars with
  | nil => simp
  | cons char chars ih =>
      rw [List.flatMap_cons, List.append_assoc, decodeLossy_encodeChar_append]
      simp [ih]

/-- A text with which a payload begins is, before its first null character, a front of the text
that the payload is read as. -/
theorem beforeNull_prefix_decodeLossy {text : String} {payload : Bytes}
    (front : encode text <+: payload) :
    (beforeNull text).toList <+: (decodeLossy (Bytes.beforeZero payload)).toList := by
  have inside := Bytes.beforeZero_prefix front
  rw [beforeZero_encode] at inside
  obtain ⟨rest, split⟩ := inside
  rw [← split, decodeLossy_encode_append, String.toList_append]
  exact List.prefix_append _ _

end Utf8

/-! ## Bytes as numbers -/

namespace Bytes

/-- The bytes as numbers of one byte each. -/
def numbers (bytes : Bytes) : List Scalar.u8.Value :=
  bytes.map fun byte => BitVec.ofNat _ byte.toNat

@[simp] theorem length_numbers (bytes : Bytes) : bytes.numbers.length = bytes.length :=
  List.length_map _

theorem numbers_cons (byte : UInt8) (bytes : Bytes) :
    numbers (byte :: bytes) = Scalar.u8.decode [byte] :: numbers bytes :=
  rfl

theorem flatMap_encode_numbers (bytes : Bytes) :
    bytes.numbers.flatMap (Layout.scalar .u8).encode = bytes := by
  induction bytes with
  | nil => rfl
  | cons byte bytes ih =>
      have single : (Layout.scalar .u8).encode (Scalar.u8.decode [byte]) = [byte] :=
        Scalar.encode_decode .u8 rfl
      rw [numbers_cons, List.flatMap_cons, ih, single]
      rfl

theorem map_ofBlock_groups (bytes : Bytes) :
    (groups 1 bytes.length bytes).map (Layout.scalar .u8).ofBlock = bytes.numbers := by
  induction bytes with
  | nil => rfl
  | cons byte bytes ih =>
      rw [List.length_cons, groups_succ, List.map_cons, numbers_cons]
      exact congrArg (Scalar.u8.decode [byte] :: ·) ih

end Bytes

namespace Session

variable {σ : Type} [ByteStream σ] {session next : Session σ}

/-! ## Saving -/

/-- All forms in which a session can save a text put out the same. -/
structure SavesFormsAlike (session : Session σ) (text : String) : Prop where
  whole : (session.transfer .text text).2 = session.putAll (Output.text text)
  lent : (session.lendText text).2 = session.putAll (Output.text text)
  small : ∀ (capacity : Nat) (fits : text.utf8ByteSize ≤ capacity),
    (session.transfer (.smallText capacity) ⟨text, fits⟩).2 = session.putAll (Output.text text)
  marker : text.utf8ByteSize ≤ markerCapacity →
    (session.marker text).2 = session.putAll (Output.text text)
  numbers : (session.transferBlocks (.scalar .u8) (Utf8.encode text).numbers).2 =
    session.putAll (Output.text text)
  /-- The stored form is the length and the bytes of the text. -/
  stored : text.utf8ByteSize ≤ Limits.largestLength →
    Output.concat (Output.text text) = Bytes.ofNat 4 (Utf8.encode text).length ++ Utf8.encode text

theorem savesFormsAlike (writing : session.mode = .write) (text : String) :
    session.SavesFormsAlike text where
  whole := transfer_of_writing writing .text text
  lent := by
    rw [lendText, writing]
    exact writeText_eq_putAll text session
  small capacity fits := transfer_of_writing writing (.smallText capacity) ⟨text, fits⟩
  marker fits := by
    rw [marker_of_writing writing, if_neg (Nat.not_lt_of_le fits)]
  numbers := by
    rw [transferBlocks, writing]
    dsimp only
    rw [Bytes.length_numbers, Bytes.flatMap_encode_numbers, Utf8.length_encode, writeLength_eq_put]
    rfl
  stored small := by
    rw [Output.concat_text small, Utf8.length_encode]

/-! ## Restoring -/

/-- The session has read the bytes without failure, and beside its records nothing else has
changed. -/
structure StandsBehind (session : Session σ) (bytes : Bytes) (next : Session σ) : Prop where
  sound : next.failure = none
  passed : ∃ stream, Delivers session.stream bytes stream ∧
    next = { session with stream := stream, mismatch := next.mismatch, log := next.log }
  position_eq : ByteStream.CountsReads σ → next.position = session.position + bytes.length
  /-- What the stream has ahead is what it had behind the bytes. -/
  ahead : ∀ rest, EndsAfter session.stream (bytes ++ rest) → EndsAfter next.stream rest

theorem standsBehind_of_passed {bytes : Bytes} {stream : σ} (sound : session.failure = none)
    (delivered : Delivers session.stream bytes stream)
    (passed : next = { session with stream := stream, mismatch := next.mismatch, log := next.log }) :
    session.StandsBehind bytes next := by
  have stream_eq : next.stream = stream := by rw [passed]
  refine ⟨?_, ⟨stream, delivered, passed⟩, ?_, ?_⟩
  · rw [passed]
    exact sound
  · intro counts
    rw [position, stream_eq]
    exact delivered.position_eq counts
  · intro rest ended
    rw [stream_eq]
    exact ended.after delivered

theorem Consumes.standsBehind {bytes : Bytes} (consumed : session.Consumes bytes next)
    (sound : session.failure = none) : session.StandsBehind bytes next := by
  obtain ⟨stream, delivered, rfl⟩ := consumed
  exact standsBehind_of_passed sound delivered rfl

theorem KeepsLongestFront.standsBehind {capacity : Nat} {payload : Bytes}
    {outcome : SmallText capacity × Session σ} (keeps : session.KeepsLongestFront capacity payload outcome)
    (sound : session.failure = none) :
    session.StandsBehind (Bytes.ofNat 4 payload.length ++ payload) outcome.2 := by
  obtain ⟨stream, delivered, passed⟩ := keeps.consumed
  have unmarked : outcome.2.mismatch = session.mismatch := by rw [passed]
  refine standsBehind_of_passed sound delivered ?_
  rw [unmarked]
  exact passed

/-- Behind the same bytes routines read on alike, if it does not matter how they were read. -/
theorem StandsBehind.readsAlike {bytes : Bytes} {first second : Session σ}
    (left : session.StandsBehind bytes first) (right : session.StandsBehind bytes second)
    (reading : session.mode = .read) (free : ByteStream.SplitsFreely session.stream)
    (routine : Routine) (given : routine.Values) : routine.ReadsAlike given first second := by
  obtain ⟨matching, level⟩ := free
  obtain ⟨stream, delivered, passed⟩ := left.passed
  obtain ⟨stream', delivered', passed'⟩ := right.passed
  have together : matching.TogetherAhead first second := by
    refine ⟨first.mismatch, first.log, ?_⟩
    rw [passed, passed']
    exact ⟨⟨⟨reading, reading, rfl, rfl, rfl⟩, rfl, rfl⟩, rfl, matching.near (level delivered delivered'),
      fun _ => level delivered delivered'⟩
  exact together.readsAlike routine given

/-! ### Without bounds on memory -/

/-- An operation yields what it yields with all the memory it may ask for, and leaves the session
alike, unless it lacks memory. -/
theorem lacksMemory_or_unbounded {α : Type} {act : Session σ → α × Session σ}
    (keeps : beforeRefusal.Keeps act act) (reading : session.mode = .read) :
    (act session).2.LacksMemory ∨
      (act session).1 = (act session.unbounded).1 ∧
        (act session.unbounded).2 = (act session).2.unbounded := by
  have together : beforeRefusal.Together session session.unbounded := ⟨reading, rfl⟩
  rcases keeps.agrees together with lacking | ⟨same, _, still⟩
  · exact Or.inl lacking
  · exact Or.inr ⟨same, still⟩

/-- What a session with all memory consumed, the session itself consumed. -/
theorem consumes_of_unbounded {bytes : Bytes} (kept : next.allocator = session.allocator)
    (consumed : session.unbounded.Consumes bytes next.unbounded) : session.Consumes bytes next := by
  obtain ⟨stream, delivered, passed⟩ := consumed
  refine ⟨stream, delivered, ?_⟩
  cases next
  cases session
  cases kept
  cases passed
  rfl

/-! ### Bytes as numbers -/

omit [ByteStream σ] in
theorem readChunks_map {α β : Type} {readChunk : Nat → Session σ → List α × Session σ}
    {mapped : Nat → Session σ → List β × Session σ} (change : α → β)
    (maps : ∀ count session, mapped count session =
      ((readChunk count session).1.map change, (readChunk count session).2))
    (size total : Nat) (session : Session σ) :
    session.readChunks size total mapped =
      ((session.readChunks size total readChunk).1.map change,
        (session.readChunks size total readChunk).2) := by
  have step : ∀ count (collected : Array α) session,
      (collected.map change ++ (mapped count session).1, (mapped count session).2) =
        ((collected ++ (readChunk count session).1).map change, (readChunk count session).2) := by
    intro count collected session
    rw [maps]
    refine Prod.ext (Array.ext' ?_) rfl
    simp
  have shown : session.inChunks size total
      (fun count (collected : Array β) session =>
        (collected ++ (mapped count session).1, (mapped count session).2)) 0 0 (#[].map change) =
      ((session.inChunks size total
          (fun count (collected : Array α) session =>
            (collected ++ (readChunk count session).1, (readChunk count session).2)) 0 0
          #[]).1.map change,
        (session.inChunks size total
          (fun count (collected : Array α) session =>
            (collected ++ (readChunk count session).1, (readChunk count session).2)) 0 0 #[]).2) :=
    Coupling.inChunks_view (Array.map change) step size total 0 0 #[] session
  rw [Array.map_empty] at shown
  rw [readChunks_eq, readChunks_eq, shown]
  dsimp only
  split
  · rfl
  · rw [Array.toList_map]

/-- A list of bytes is restored as a payload that is counted by the limit for collections. -/
theorem transferBlocks_of_reading (reading : session.mode = .read) (old : List Scalar.u8.Value) :
    session.transferBlocks (.scalar .u8) old =
      ((session.readCounted session.limits.collection).1.numbers,
        (session.readCounted session.limits.collection).2) := by
  rw [transferBlocks, reading]
  refine readChunks_map _ ?_ _ _ _
  intro count session
  have size := length_readBytes (Bytes.zeros count) session
  rw [Bytes.length_zeros] at size
  have whole := Bytes.map_ofBlock_groups (session.readBytes (Bytes.zeros count)).1
  rw [size] at whole
  have one : count * (Layout.scalar .u8).size = count := Nat.mul_one count
  dsimp only
  rw [one]
  exact Prod.ext whole rfl

/-! ### Form by form -/

theorem readCounted_keeps {coupling : Coupling σ σ} (limit : UInt32) :
    coupling.Keeps (fun session => session.readCounted limit)
      (fun session => session.readCounted limit) :=
  (Coupling.readLength_keeps limit).andThen fun length =>
    Coupling.readChunks_keeps (fun count => Coupling.readBytes_keeps (Bytes.zeros count))
      (fun count => readBytes_moves (Bytes.zeros count))
      (fun count => readBytes_moves (Bytes.zeros count)) 1 length

variable {payload : Bytes} (sound : session.failure = none)
  (offers : Offers session.stream (Bytes.ofNat 4 payload.length ++ payload))

include sound offers

/-- A payload that is counted by a limit is read whole, unless memory for it is refused. -/
theorem readCounted_of_text (reading : session.mode = .read) {limit : UInt32}
    (within : payload.length ≤ limit.toNat) :
    (session.readCounted limit).2.LacksMemory ∨
      (session.readCounted limit).1 = payload ∧
        session.StandsBehind (Bytes.ofNat 4 payload.length ++ payload)
          (session.readCounted limit).2 := by
  have keeps : beforeRefusal.Keeps (fun session : Session σ => session.readCounted limit)
      (fun session => session.readCounted limit) := readCounted_keeps limit
  rcases lacksMemory_or_unbounded keeps reading with lacking | ⟨same, still⟩
  · exact Or.inl lacking
  · have ahead : Offers session.unbounded.stream
        (Bytes.ofNat 4 payload.length ++ (payload ++ [])) := by
      rw [List.append_nil]
      exact offers
    have unfailed : session.unbounded.failure = none := sound
    have kept := (keeps.reads session reading).settings.2.2.2
    obtain ⟨stored, consumed⟩ := readCounted_of_offers unfailed (fun _ => rfl) within ahead
    rw [still] at consumed
    exact Or.inr ⟨same.trans stored, (consumes_of_unbounded kept consumed).standsBehind sound⟩

/-- A small text of any capacity leaves the session behind the payload. -/
theorem readSmallText_of_text (within : payload.length ≤ session.limits.text.toNat)
    (capacity : Nat) :
    IsLongestFront capacity payload (session.readSmallText capacity).1.text ∧
      session.StandsBehind (Bytes.ofNat 4 payload.length ++ payload)
        (session.readSmallText capacity).2 := by
  have ahead : Offers session.stream (Bytes.ofNat 4 payload.length ++ (payload ++ [])) := by
    rw [List.append_nil]
    exact offers
  have keeps : session.KeepsLongestFront capacity payload (session.readSmallText capacity) :=
    readSmallText_of_offers sound within ahead
  exact ⟨keeps.kept, keeps.standsBehind sound⟩

/-- So does a marker, whether it is the expected one or not. -/
theorem marker_of_text (reading : session.mode = .read)
    (within : payload.length ≤ session.limits.text.toNat) {expected : String}
    (fits : expected.utf8ByteSize ≤ markerCapacity) :
    session.StandsBehind (Bytes.ofNat 4 payload.length ++ payload) (session.marker expected).2 := by
  obtain ⟨-, behind⟩ := readSmallText_of_text sound offers within markerCapacity
  have unfailed := hasFailed_eq_false.mpr behind.sound
  rw [marker_of_reading reading fits, readMarker]
  dsimp only
  rw [unfailed, if_neg Bool.false_ne_true]
  split
  · exact behind
  · obtain ⟨stream, delivered, passed⟩ := behind.passed
    refine standsBehind_of_passed sound delivered ?_
    rw [recordMismatch, report, passed]

end Session

/-! ## All forms together -/

/-- A form in which a text is restored, with what its destination holds before. -/
inductive TextForm where
  | whole (old : String)
  | small (capacity : Nat) (old : SmallText capacity)
  | marker (expected : String) (fits : expected.utf8ByteSize ≤ markerCapacity)
  | numbers (old : List Scalar.u8.Value)

namespace TextForm

/-- The forms that make room for the payload before they read it. -/
def AsksForMemory : TextForm → Prop
  | .whole _ => True
  | .numbers _ => True
  | .small _ _ => False
  | .marker _ _ => False

variable {σ : Type} [ByteStream σ]

/-- The session after a text was transferred in this form. -/
def leave (session : Session σ) : TextForm → Session σ
  | .whole old => (session.transfer .text old).2
  | .small capacity old => (session.transfer (.smallText capacity) old).2
  | .marker expected _ => (session.marker expected).2
  | .numbers old => (session.transferBlocks (.scalar .u8) old).2

theorem allocator_leave (session : Session σ) (form : TextForm) :
    (form.leave session).allocator = session.allocator := by
  cases form with
  | whole old => exact (Session.transferValue_moves .text old session).settings.2.2.2
  | small capacity old =>
      exact (Session.transferValue_moves (.smallText capacity) old session).settings.2.2.2
  | marker expected fits => exact (Session.marker_moves expected session).settings.2.2.2
  | numbers old => exact (Session.transferBlocks_moves (.scalar .u8) old session).settings.2.2.2

end TextForm

namespace Session

variable {σ τ : Type} [ByteStream σ] [ByteStream τ]

/-- The forms restore one payload in one place, each to what it makes of it. -/
structure ReadsFormsAlike (session : Session σ) (payload : Bytes) : Prop where
  /-- Every form takes the length and the payload off the stream, whatever its bytes are and
  however many of them the form keeps.  Only memory may be missing. -/
  aligned : ∀ form : TextForm,
    session.StandsBehind (Bytes.ofNat 4 payload.length ++ payload) (form.leave session) ∨
      form.AsksForMemory ∧ (form.leave session).LacksMemory
  aligned_of_grants : (∀ request, session.allocator.grants request = true) →
    ∀ form : TextForm,
      session.StandsBehind (Bytes.ofNat 4 payload.length ++ payload) (form.leave session)
  /-- Whatever routine reads on, it reads the same behind every form. -/
  onward : ByteStream.SplitsFreely session.stream → ∀ first second : TextForm,
    (first.leave session).failure = none → (second.leave session).failure = none →
      ∀ (routine : Routine) (given : routine.Values),
        routine.ReadsAlike given (first.leave session) (second.leave session)
  /-- As a list of bytes the payload is restored as it is. -/
  numbers_eq : ∀ old : List Scalar.u8.Value,
    (session.transferBlocks (.scalar .u8) old).2.failure = none →
      (session.transferBlocks (.scalar .u8) old).1 = payload.numbers
  /-- A small text of any capacity is, before its first null character, a front of the text. -/
  front : ∀ (old : String) (capacity : Nat) (small : SmallText capacity),
    (session.transfer .text old).2.failure = none →
      (Utf8.beforeNull (session.transfer (.smallText capacity) small).1.text).toList <+:
        (session.transfer .text old).1.toList

section Reading

variable {session : Session σ} {payload : Bytes}

omit [ByteStream σ] in
theorem LacksMemory.failure_ne_none (lacking : session.LacksMemory) : session.failure ≠ none := by
  obtain ⟨count, request, failed, _⟩ := lacking
  rw [failed]
  exact Option.some_ne_none _

theorem transfer_text_of_reading (reading : session.mode = .read) (old : String) :
    session.transfer .text old =
      (Utf8.decodeLossy (Bytes.beforeZero (session.readCounted session.limits.text).1),
        (session.readCounted session.limits.text).2) := by
  rw [transfer, reading]
  rfl

theorem transfer_smallText_of_reading (reading : session.mode = .read) (capacity : Nat)
    (old : SmallText capacity) :
    session.transfer (.smallText capacity) old = session.readSmallText capacity := by
  rw [transfer, reading]
  rfl

/-- Every form leaves the session behind the payload, or lacks memory for it. -/
theorem leave_standsBehind (reading : session.mode = .read) (sound : session.failure = none)
    (within_text : payload.length ≤ session.limits.text.toNat)
    (within_collection : payload.length ≤ session.limits.collection.toNat)
    (offers : Offers session.stream (Bytes.ofNat 4 payload.length ++ payload)) (form : TextForm) :
    session.StandsBehind (Bytes.ofNat 4 payload.length ++ payload) (form.leave session) ∨
      form.AsksForMemory ∧ (form.leave session).LacksMemory := by
  cases form with
  | whole old =>
      rw [TextForm.leave, transfer_text_of_reading reading]
      rcases readCounted_of_text sound offers reading within_text with lacking | ⟨_, behind⟩
      · exact Or.inr ⟨trivial, lacking⟩
      · exact Or.inl behind
  | small capacity old =>
      rw [TextForm.leave, transfer_smallText_of_reading reading]
      exact Or.inl (readSmallText_of_text sound offers within_text capacity).2
  | marker expected fits => exact Or.inl (marker_of_text sound offers reading within_text fits)
  | numbers old =>
      rw [TextForm.leave, transferBlocks_of_reading reading]
      rcases readCounted_of_text sound offers reading within_collection with lacking | ⟨_, behind⟩
      · exact Or.inr ⟨trivial, lacking⟩
      · exact Or.inl behind

theorem readsFormsAlike (reading : session.mode = .read) (sound : session.failure = none)
    (within_text : payload.length ≤ session.limits.text.toNat)
    (within_collection : payload.length ≤ session.limits.collection.toNat)
    (offers : Offers session.stream (Bytes.ofNat 4 payload.length ++ payload)) :
    session.ReadsFormsAlike payload := by
  have aligned := leave_standsBehind reading sound within_text within_collection offers
  have behind : ∀ form : TextForm, (form.leave session).failure = none →
      session.StandsBehind (Bytes.ofNat 4 payload.length ++ payload) (form.leave session) := by
    intro form unfailed
    rcases aligned form with behind | ⟨_, lacking⟩
    · exact behind
    · exact absurd unfailed lacking.failure_ne_none
  refine ⟨aligned, ?_, ?_, ?_, ?_⟩
  · intro grants form
    rcases aligned form with behind | ⟨_, count, request, _, refused⟩
    · exact behind
    · rw [TextForm.allocator_leave, grants] at refused
      cases refused
  · intro free first second left right routine given
    exact (behind first left).readsAlike (behind second right) reading free routine given
  · intro old unfailed
    rw [transferBlocks_of_reading reading] at unfailed ⊢
    rcases readCounted_of_text sound offers reading within_collection with lacking | ⟨stored, _⟩
    · exact absurd unfailed lacking.failure_ne_none
    · exact congrArg Bytes.numbers stored
  · intro old capacity small unfailed
    rw [transfer_text_of_reading reading] at unfailed ⊢
    rw [transfer_smallText_of_reading reading]
    rcases readCounted_of_text sound offers reading within_text with lacking | ⟨stored, _⟩
    · exact absurd unfailed lacking.failure_ne_none
    · obtain ⟨longest, _⟩ := readSmallText_of_text sound offers within_text capacity
      rw [stored]
      exact Utf8.beforeNull_prefix_decodeLossy longest.front

end Reading

/-- With all the memory that is asked for, every form is followed by the same. -/
theorem ReadsFormsAlike.onward_of_grants {session : Session σ} {payload : Bytes}
    (alike : session.ReadsFormsAlike payload)
    (grants : ∀ request, session.allocator.grants request = true)
    (free : ByteStream.SplitsFreely session.stream) (first second : TextForm) (routine : Routine)
    (given : routine.Values) :
    routine.ReadsAlike given (first.leave session) (second.leave session) := by
  have behind := alike.aligned_of_grants grants
  exact alike.onward free first second (behind first).sound (behind second).sound routine given

/-- The forms of a text have one stored form and one alignment.  A session that saves puts out the
same for a text in every form.  A session that restores any payload within both limits, from a
stream that has all of it on offer, is left unfailed in the same place by every form, and reads on
the same behind each. -/
theorem text_forms_share_one_layout {writer : Session τ} (writing : writer.mode = .write)
    (text : String) {reader : Session σ} (reading : reader.mode = .read)
    (sound : reader.failure = none) {payload : Bytes}
    (within_text : payload.length ≤ reader.limits.text.toNat)
    (within_collection : payload.length ≤ reader.limits.collection.toNat)
    (offers : Offers reader.stream (Bytes.ofNat 4 payload.length ++ payload)) :
    writer.SavesFormsAlike text ∧ reader.ReadsFormsAlike payload :=
  ⟨savesFormsAlike writing text,
    readsFormsAlike reading sound within_text within_collection offers⟩

/-- A payload with a zero byte, a byte that no character starts with, and a byte behind it, on
every kind of stream.  The device is interrupted and moves two bytes at a call. -/
theorem text_forms_share_one_layout_of_stray_byte :
    let writer := start .unbounded (Memory.ofBytes []) .write 1 .standard
    let payload : Bytes := [0x61, 0x00, 0xFF, 0x62]
    let bytes : Bytes := Bytes.ofNat 4 payload.length ++ payload ++ [7]
    let reader := start .unbounded (Memory.ofBytes bytes) .read 1 .standard
    let slice := start .unbounded (Slice.ofBytes bytes) .read 1 .standard
    let file := start .unbounded (File.ofBytes bytes) .read 1 .standard
    let device := start .unbounded
      (Device.ofBytes bytes [.fail .interrupted, .move 1] (some 2) true) .read 1 .standard
    (writer.mode = .write ∧ reader.mode = .read ∧ reader.failure = none ∧
      payload.length ≤ reader.limits.text.toNat ∧
      payload.length ≤ reader.limits.collection.toNat ∧
      Offers reader.stream (Bytes.ofNat 4 payload.length ++ payload)) ∧
    (writer.transfer .text "a\x00b").2 = (writer.marker "a\x00b").2 ∧
    (∀ form : TextForm, (form.leave reader).failure = none ∧ (form.leave reader).position = 8 ∧
      (form.leave slice).position = 8) ∧
    (∀ (first second : TextForm) (routine : Routine) (given : routine.Values),
      routine.ReadsAlike given (first.leave reader) (second.leave reader) ∧
        routine.ReadsAlike given (first.leave slice) (second.leave slice) ∧
        routine.ReadsAlike given (first.leave file) (second.leave file) ∧
        routine.ReadsAlike given (first.leave device) (second.leave device)) ∧
    (reader.transferBlocks (.scalar .u8) []).1.map BitVec.toNat = [97, 0, 255, 98] ∧
    (reader.transfer .text "").1 = "a" := by
  intro writer payload bytes reader slice file device
  have ended : EndsAfter (Memory.ofBytes bytes) bytes :=
    Supply.endsAfter (Memory.supplies_ofBytes (by decide))
  have stands : (Memory.ofBytes bytes).StandsOn bytes.toArray 0 :=
    ⟨rfl, rfl, Nat.zero_le _, by decide⟩
  have level_slice : Matching.memorySlice.Level (Memory.ofBytes bytes) slice.stream := stands
  have level_file : Matching.memoryFile.Level (Memory.ofBytes bytes) file.stream := stands
  have beside : (Memory.ofBytes bytes).StandsBeside device.stream :=
    ⟨stands, rfl, by simp [device, start, Device.ofBytes],
      by simp [device, start, Device.ofBytes, Device.Patient], Nat.zero_le _⟩
  have writing : writer.mode = .write := rfl
  have within_text : payload.length ≤ Limits.standard.text.toNat := by decide
  have within_collection : payload.length ≤ Limits.standard.collection.toNat := by decide
  have alike : ∀ {σ : Type} [ByteStream σ] (stream : σ), EndsAfter stream bytes →
      writer.SavesFormsAlike "a\x00b" ∧
        (start .unbounded stream .read 1 .standard).ReadsFormsAlike payload := by
    intro σ _ stream ended
    exact text_forms_share_one_layout writing "a\x00b" rfl rfl within_text within_collection
      ended.offers.of_append
  have on_slice : EndsAfter slice.stream bytes := Matching.memorySlice.endsAfter level_slice ended
  have on_file : EndsAfter file.stream bytes := Matching.memoryFile.endsAfter level_file ended
  have on_device : EndsAfter device.stream bytes := Matching.memoryDevice.endsAfter beside ended
  obtain ⟨saves, reads⟩ := alike _ ended
  obtain ⟨_, reads_slice⟩ := alike _ on_slice
  obtain ⟨_, reads_file⟩ := alike _ on_file
  obtain ⟨_, reads_device⟩ := alike _ on_device
  have behind := reads.aligned_of_grants fun _ => rfl
  have behind_slice := reads_slice.aligned_of_grants fun _ => rfl
  have done := (behind (.numbers [])).sound
  rw [TextForm.leave] at done
  have numbers := reads.numbers_eq [] done
  refine ⟨⟨rfl, rfl, rfl, within_text, within_collection, ended.offers.of_append⟩, ?_, ?_, ?_, ?_,
    ?_⟩
  · exact saves.whole.trans (saves.marker (by decide)).symm
  · intro form
    exact ⟨(behind form).sound, (behind form).position_eq Memory.countsReads,
      (behind_slice form).position_eq Slice.countsReads⟩
  · intro first second routine given
    have free_slice : ByteStream.SplitsFreely slice.stream :=
      Slice.splitsFreely stands.inside stands.addressed
    have free_file : ByteStream.SplitsFreely file.stream :=
      File.splitsFreely stands.inside stands.addressed
    have free_device : ByteStream.SplitsFreely device.stream :=
      Device.splitsFreely beside.patient stands.addressed
    exact ⟨reads.onward_of_grants (fun _ => rfl) (Memory.splitsFreely _) first second routine given,
      reads_slice.onward_of_grants (fun _ => rfl) free_slice first second routine given,
      reads_file.onward_of_grants (fun _ => rfl) free_file first second routine given,
      reads_device.onward_of_grants (fun _ => rfl) free_device first second routine given⟩
  · rw [numbers]
    rfl
  · decide +kernel

end Session

end Snapshot
