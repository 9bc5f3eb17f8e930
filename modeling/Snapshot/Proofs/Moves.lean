import Snapshot.Routine

/-!
# Moves of a session

Whatever a session is asked to do comes down to moves of a few kinds: a transfer on
its stream that succeeds, a failure, or an entry in the log.  Every move starts from
a session that has not failed.  Hence a failed session moves no further, and the
failure on record is the one in which its last move ended.
-/

namespace Snapshot

/-- The fault in which an attempt ended, if it did. -/
def faultOf? {α : Type} : Except Fault α → Option Fault
  | .ok _ => none
  | .error fault => some fault

/-- One transfer on a stream: the fault in which it ends, if any, and the state
after it.  Reading sessions only read and writing sessions only write. -/
inductive Transfers {σ : Type} [ByteStream σ] (before : σ) : Mode → Option Fault → σ → Prop where
  | read (count : Nat) :
      Transfers before .read (ByteStream.read count before).1.fault
        (ByteStream.read count before).2
  | readByte :
      Transfers before .read (faultOf? (ByteStream.readByte before).1)
        (ByteStream.readByte before).2
  | write (allocator : Allocator) (bytes : Bytes) :
      Transfers before .write (faultOf? (ByteStream.write allocator bytes before).1)
        (ByteStream.write allocator bytes before).2
  | writeByte (allocator : Allocator) (byte : UInt8) :
      Transfers before .write (faultOf? (ByteStream.writeByte allocator byte before).1)
        (ByteStream.writeByte allocator byte before).2

namespace Session

variable {σ : Type}

@[simp] theorem hasFailed_eq_false {session : Session σ} :
    session.hasFailed = false ↔ session.failure = none := by
  simp [hasFailed]

theorem hasFailed_of_failure {session : Session σ} {failure : Failure}
    (failed : session.failure = some failure) : session.hasFailed = true := by
  simp [hasFailed, failed]

theorem sound_of_finish {session : Session σ} (finished : session.finish = .ok ()) :
    session.failure = none := by
  cases state : session.failure with
  | none => rfl
  | some failure =>
      rw [finish, state] at finished
      cases finished

theorem fail_of_sound {session : Session σ} (sound : session.failure = none)
    (failure : Failure) : session.fail failure = { session with failure := some failure } := by
  simp [fail, sound]

variable [ByteStream σ]

/-- A session fails: a transfer ended in a fault, or something was refused although
the stream is in order. -/
inductive Fails (mode : Mode) (session : Session σ) : Failure → Session σ → Prop where
  | fault {fault : Fault} {stream : σ}
      (transferred : Transfers session.stream mode (some fault) stream) :
      Fails mode session (.stream fault)
        { session with stream := stream, failure := some (.stream fault) }
  | refusal {failure : Failure} (other : failure.isStream = false) :
      Fails mode session failure { session with failure := some failure }

/-- One move of a session that has not failed.  Only where markers are read can one be
found to differ. -/
inductive Move : (marks : Bool) → Mode → Session σ → Session σ → Prop where
  | transfer {marks : Bool} {mode : Mode} {session : Session σ} {stream : σ}
      (sound : session.failure = none)
      (transferred : Transfers session.stream mode none stream) :
      Move marks mode session { session with stream := stream }
  | fail {marks : Bool} {mode : Mode} {session next : Session σ} {failure : Failure}
      (sound : session.failure = none) (failed : Fails mode session failure next) :
      Move marks mode session next
  | truncate {marks : Bool} {session : Session σ} (sound : session.failure = none)
      (length capacity : Nat) :
      Move marks .read session (session.report (.truncated length capacity))
  | mismatch {session : Session σ} (sound : session.failure = none)
      {found expected : String} (differ : found ≠ expected) :
      Move true .read session (session.recordMismatch found expected)

/-- Finitely many moves. -/
inductive Moves (marks : Bool) (mode : Mode) : Session σ → Session σ → Prop where
  | refl (session : Session σ) : Moves marks mode session session
  | tail {first middle last : Session σ} :
      Moves marks mode first middle → Move marks mode middle last → Moves marks mode first last

namespace Moves

variable {marks : Bool} {mode : Mode} {first middle last : Session σ}

theorem single (move : Move marks mode first last) : Moves marks mode first last :=
  .tail (.refl first) move

theorem trans (front : Moves marks mode first middle) (back : Moves marks mode middle last) :
    Moves marks mode first last := by
  induction back with
  | refl => exact front
  | tail before move ih => exact .tail ih move

end Moves

/-- A move starts from a session that has not failed. -/
theorem Move.sound {marks : Bool} {mode : Mode} {session next : Session σ}
    (move : Move marks mode session next) : session.failure = none := by
  cases move with
  | transfer sound => exact sound
  | fail sound => exact sound
  | truncate sound => exact sound
  | mismatch sound => exact sound

/-- A failed session moves no further. -/
theorem Moves.eq_of_hasFailed {marks : Bool} {mode : Mode} {first last : Session σ}
    (moves : Moves marks mode first last) (failed : first.hasFailed = true) : last = first := by
  induction moves with
  | refl => rfl
  | tail before move ih =>
      have sound := move.sound
      rw [ih] at sound
      simp [hasFailed, sound] at failed

theorem Moves.sound_before {marks : Bool} {mode : Mode} {first last : Session σ}
    (moves : Moves marks mode first last) (sound : last.failure = none) :
    first.failure = none := by
  cases state : first.failure with
  | none => rfl
  | some failure =>
      rw [moves.eq_of_hasFailed (hasFailed_of_failure state), state] at sound
      cases sound

/-- A session that failed on the way was sound up to one last move, and that move
put the failure on record. -/
theorem Moves.exists_fails {marks : Bool} {mode : Mode} {first last : Session σ} {failure : Failure}
    (moves : Moves marks mode first last) (sound : first.failure = none)
    (failed : last.failure = some failure) :
    ∃ before, Moves marks mode first before ∧ before.failure = none ∧
      Fails mode before failure last := by
  cases moves with
  | refl => rw [sound] at failed; cases failed
  | @tail middle _ before move =>
      refine ⟨middle, before, move.sound, ?_⟩
      cases move with
      | transfer sound => rw [sound] at failed; cases failed
      | fail sound fails =>
          cases fails with
          | fault transferred => cases failed; exact .fault transferred
          | refusal other => cases failed; exact .refusal other
      | truncate sound => rw [report, sound] at failed; cases failed
      | mismatch sound => rw [recordMismatch, report, sound] at failed; cases failed

/-- Where no marker is read, the latest mismatch stays. -/
theorem Moves.mismatch_eq {mode : Mode} {first last : Session σ}
    (moves : Moves false mode first last) : last.mismatch = first.mismatch := by
  induction moves with
  | refl => rfl
  | tail before move ih =>
      cases move with
      | transfer sound transferred => exact ih
      | fail sound failed =>
          cases failed with
          | fault transferred => exact ih
          | refusal other => exact ih
      | truncate sound length capacity => exact ih

/-- A session that writes logs nothing, and its latest mismatch stays. -/
theorem Moves.quiet {marks : Bool} {first last : Session σ}
    (moves : Moves marks .write first last) :
    last.mismatch = first.mismatch ∧ last.log = first.log := by
  generalize writing : Mode.write = mode at moves
  induction moves with
  | refl => exact ⟨rfl, rfl⟩
  | tail before move ih =>
      cases move with
      | transfer sound transferred => exact ih
      | fail sound failed =>
          cases failed with
          | fault transferred => exact ih
          | refusal other => exact ih
      | truncate sound length capacity => cases writing
      | mismatch sound differ => cases writing

theorem Moves.weaken {marks : Bool} {mode : Mode} {first last : Session σ}
    (moves : Moves marks mode first last) : Moves true mode first last := by
  induction moves with
  | refl => exact .refl _
  | tail before move ih =>
      refine .tail ih ?_
      cases move with
      | transfer sound transferred => exact .transfer sound transferred
      | fail sound failed => exact .fail sound failed
      | truncate sound length capacity => exact .truncate sound length capacity
      | mismatch sound differ => exact .mismatch sound differ

/-- What every transfer preserves of a stream holds behind any number of moves: the other moves
leave the stream alone. -/
theorem Moves.preserves {holds : σ → Prop} {marks : Bool} {mode : Mode}
    (transfers : ∀ {before after : σ} {fault : Option Fault},
      Transfers before mode fault after → holds before → holds after)
    {first last : Session σ} (moves : Moves marks mode first last) (start : holds first.stream) :
    holds last.stream := by
  induction moves with
  | refl => exact start
  | tail before move ih =>
      cases move with
      | transfer sound transferred => exact transfers transferred ih
      | fail sound failed =>
          cases failed with
          | fault transferred => exact transfers transferred ih
          | refusal other => exact ih
      | truncate sound length capacity => exact ih
      | mismatch sound differ => exact ih

/-! ## The moves of each operation -/

theorem fail_moves {failure : Failure} (other : failure.isStream = false) (mode : Mode)
    (session : Session σ) : Moves false mode session (session.fail failure) := by
  cases state : session.failure with
  | none =>
      rw [fail_of_sound state]
      exact .single (.fail state (.refusal other))
  | some first =>
      rw [fail_of_hasFailed (hasFailed_of_failure state)]
      exact .refl session

/-- What a session does with the outcome of a transfer. -/
theorem transfer_moves {mode : Mode} {session : Session σ} (sound : session.failure = none)
    {fault : Option Fault} {stream : σ} (transferred : Transfers session.stream mode fault stream)
    {next : Session σ}
    (done : fault = none → next = { session with stream := stream })
    (failed : ∀ cause, fault = some cause →
      next = fail (.stream cause) { session with stream := stream }) :
    Moves false mode session next := by
  cases fault with
  | none =>
      rw [done rfl]
      exact .single (.transfer sound transferred)
  | some cause =>
      rw [failed cause rfl, fail_of_sound (by exact sound)]
      exact .single (.fail sound (.fault transferred))

/-- What a session does with the outcome of an attempt. -/
theorem attempt_moves {α : Type} {mode : Mode} {session : Session σ}
    (sound : session.failure = none) {answer : Except Fault α} {stream : σ}
    (transferred : Transfers session.stream mode (faultOf? answer) stream) {next : Session σ}
    (done : ∀ value, answer = .ok value → next = { session with stream := stream })
    (failed : ∀ fault, answer = .error fault →
      next = fail (.stream fault) { session with stream := stream }) :
    Moves false mode session next := by
  refine transfer_moves sound transferred ?_ ?_
  · intro unfaulted
    cases answer with
    | ok value => exact done value rfl
    | error fault => cases unfaulted
  · intro cause faulted
    cases answer with
    | ok value => cases faulted
    | error fault =>
        obtain rfl : fault = cause := Option.some.inj faulted
        exact failed fault rfl

theorem writeBytes_moves (bytes : Bytes) (session : Session σ) :
    Moves false .write session (session.writeBytes bytes) := by
  unfold writeBytes
  split
  · exact .refl session
  · next unfailed =>
      have sound : session.failure = none := by simpa using unfailed
      rw [withStream_eq]
      refine attempt_moves sound (.write session.allocator bytes) ?_ ?_
      · intro value done
        rw [done]
      · intro fault failed
        rw [failed]

theorem writeFlag_moves (flag : Bool) (session : Session σ) :
    Moves false .write session (session.writeFlag flag) := by
  unfold writeFlag
  split
  · exact .refl session
  · next unfailed =>
      have sound : session.failure = none := by simpa using unfailed
      rw [withStream_eq]
      refine attempt_moves sound (.writeByte session.allocator (if flag then 1 else 0)) ?_ ?_
      · intro value done
        rw [done]
      · intro fault failed
        rw [failed]

theorem readBytes_moves (buffer : Bytes) (session : Session σ) :
    Moves false .read session (session.readBytes buffer).2 := by
  unfold readBytes
  split
  · exact .refl session
  · next unfailed =>
      have sound : session.failure = none := by simpa using unfailed
      rw [withStream_eq]
      refine transfer_moves sound (.read buffer.length) ?_ ?_
      · intro done
        dsimp only
        rw [done]
      · intro cause failed
        dsimp only
        rw [failed]

theorem readFlag_moves (session : Session σ) : Moves false .read session session.readFlag.2 := by
  unfold readFlag
  split
  · exact .refl session
  · next unfailed =>
      have sound : session.failure = none := by simpa using unfailed
      rw [withStream_eq]
      refine attempt_moves sound .readByte ?_ ?_
      · intro byte done
        rw [done]
      · intro fault failed
        rw [failed]

theorem writeLength_moves (length : Nat) (session : Session σ) :
    Moves false .write session (session.writeLength length) := by
  unfold writeLength
  split
  · exact writeBytes_moves _ session
  · exact fail_moves rfl .write session

theorem readLength_moves (limit : UInt32) (session : Session σ) :
    Moves false .read session (session.readLength limit).2 := by
  have front := readBytes_moves (Bytes.zeros 4) session
  unfold readLength
  dsimp only
  split
  · exact front.trans (fail_moves rfl .read _)
  · exact front

/-- Chunk after chunk moves a session if each chunk does. -/
theorem inChunks_moves {β : Type} (size total : Nat)
    (fill : Nat → β → Session σ → β × Session σ) {mode : Mode}
    (fills : ∀ count collected session, Moves false mode session (fill count collected session).2)
    (held capacity : Nat) (collected : β) (session : Session σ) :
    Moves false mode session (session.inChunks size total fill held capacity collected).2 := by
  fun_induction inChunks size total fill held capacity collected session with
  | case1 => exact fail_moves rfl mode _
  | case2 held capacity collected session _ count room reserved next session' filled ih =>
      have front := fills count collected session
      rw [filled] at front
      exact front.trans ih
  | case3 => exact .refl _

theorem readChunks_moves {α : Type} (size total : Nat)
    (readChunk : Nat → Session σ → List α × Session σ)
    (reads : ∀ count session, Moves false .read session (readChunk count session).2)
    (session : Session σ) :
    Moves false .read session (session.readChunks size total readChunk).2 := by
  have chunks := inChunks_moves size total
    (fun count (collected : Array α) session =>
      (collected ++ (readChunk count session).1, (readChunk count session).2))
    (fun count _ session => reads count session) 0 0 #[] session
  rw [readChunks_eq]
  dsimp only
  split
  · exact chunks
  · exact chunks

theorem each_moves {α β : Type} {mode : Mode} {act : α → Session σ → β × Session σ}
    (acts : ∀ item session, Moves false mode session (act item session).2) (items : List α)
    (session : Session σ) : Moves false mode session (each act items session).2 := by
  induction items generalizing session with
  | nil => exact .refl session
  | cons item items ih =>
      rw [each_cons]
      exact (acts item session).trans (ih _)

omit [ByteStream σ] in
/-- An operation that leaves the session alone, whatever its item, leaves it alone for a
sequence. -/
theorem each_of_unmoved {α β : Type} {act : α → Session σ → β × Session σ} {results : List β}
    {session : Session σ}
    (acts : ∀ result ∈ results, ∀ item, act item session = (result, session)) (items : List α)
    (same : items.length = results.length) : each act items session = (results, session) := by
  induction items generalizing results with
  | nil =>
      rw [List.eq_nil_of_length_eq_zero same.symm]
      rfl
  | cons item items ih =>
      cases results with
      | nil => cases same
      | cons result results =>
          obtain ⟨first, later⟩ := List.forall_mem_cons.mp acts
          rw [each_cons, first item, ih later (Nat.succ.inj same)]

omit [ByteStream σ] in
theorem eachFixed_of_unmoved {α β : Type} {length : Nat} {act : α → Session σ → β × Session σ}
    {results : Fixed β length} {session : Session σ}
    (acts : ∀ result ∈ results.items, ∀ item, act item session = (result, session))
    (items : Fixed α length) : session.eachFixed act items = (results, session) := by
  have sizes : items.items.length = results.items.length :=
    items.length_eq.trans results.length_eq.symm
  have whole := each_of_unmoved acts items.items sizes
  have left := congrArg Prod.fst whole
  have unmoved := congrArg Prod.snd whole
  exact Prod.ext (Fixed.ext left) unmoved

theorem foldl_moves {α : Type} {mode : Mode} {act : Session σ → α → Session σ}
    (acts : ∀ session item, Moves false mode session (act session item)) (items : List α)
    (session : Session σ) : Moves false mode session (items.foldl act session) := by
  induction items generalizing session with
  | nil => exact .refl session
  | cons item items ih => exact (acts session item).trans (ih _)

theorem skip_moves (count : Nat) (session : Session σ) :
    Moves false .read session (session.skip count) := by
  fun_induction skip count session with
  | case1 count session _ ih => exact (readBytes_moves _ session).trans ih
  | case2 => exact .refl _

/-! ## Texts and markers -/

theorem writeText_moves (text : String) (session : Session σ) :
    Moves false .write session (session.writeText text) :=
  (writeLength_moves _ session).trans (writeBytes_moves _ _)

theorem readText_moves (session : Session σ) : Moves false .read session session.readText.2 :=
  (readLength_moves _ session).trans
    (readChunks_moves 1 _ (fun count session => session.readBytes (Bytes.zeros count))
      (fun count session => readBytes_moves (Bytes.zeros count) session) _)

theorem reportTruncation_moves (length capacity : Nat) (session : Session σ) :
    Moves false .read session (session.reportTruncation length capacity) := by
  unfold reportTruncation
  split
  · next truncated => exact .single (.truncate (by simpa using truncated.2) length capacity)
  · exact .refl session

theorem readSmallText_moves (capacity : Nat) (session : Session σ) :
    Moves false .read session (session.readSmallText capacity).2 := by
  have front := readLength_moves session.limits.text session
  have kept := front.trans (readBytes_moves
    (Bytes.zeros (min (session.readLength session.limits.text).1 capacity)) _)
  exact (kept.trans (reportTruncation_moves _ _ _)).trans (skip_moves _ _)

theorem readMarker_moves (expected : String) (session : Session σ) :
    Moves true .read session (session.readMarker expected).2 := by
  have front := (readSmallText_moves markerCapacity session).weaken
  unfold readMarker
  dsimp only
  split
  · exact front
  · next unfailed =>
      split
      · exact front
      · next differ => exact .tail front (.mismatch (by simpa using unfailed) differ)

theorem marker_moves (expected : String) (session : Session σ) :
    Moves true session.mode session (session.marker expected).2 := by
  unfold marker
  split
  · exact .refl session
  · split
    · next writing =>
        rw [writing]
        exact (writeText_moves expected session).weaken
    · next reading =>
        rw [reading]
        exact readMarker_moves expected session

theorem expectMarker_moves (expected : String) (session : Session σ) :
    Moves true session.mode session (session.expectMarker expected).2 := by
  have front := marker_moves expected session
  unfold expectMarker
  split
  all_goals
    next outcome =>
      rw [outcome] at front
      exact front

theorem lendText_moves (text : String) (session : Session σ) :
    Moves false session.mode session (session.lendText text).2 := by
  unfold lendText
  split
  · next writing =>
      rw [writing]
      exact writeText_moves text session
  · exact .refl session

/-! ## Values -/

theorem save_moves (layout : Layout) (value : layout.Value) (session : Session σ) :
    Moves false .write session (session.save layout value) := by
  induction layout generalizing session with
  | unit => exact writeBytes_moves _ session
  | scalar kind => exact writeBytes_moves _ session
  | bool => exact writeFlag_moves _ session
  | text => exact writeText_moves _ session
  | smallText capacity => exact writeText_moves _ session
  | array item length ih => exact foldl_moves (fun session item => ih item session) _ session
  | list item ih =>
      exact (writeLength_moves _ session).trans
        (foldl_moves (fun session item => ih item session) _ _)
  | deque item ih =>
      have front := (writeLength_moves value.size session).trans
        (foldl_moves (fun session item => ih item session) value.front _)
      exact front.trans (foldl_moves (fun session item => ih item session) value.back _)

theorem readList_moves {item : Layout}
    {readItem : item.Value → Session σ → item.Value × Session σ}
    (reads : ∀ old session, Moves false .read session (readItem old session).2)
    (session : Session σ) : Moves false .read session (session.readList item readItem).2 :=
  (readLength_moves _ session).trans
    (readChunks_moves item.size _
      (fun count session => session.each readItem (List.replicate count item.blank))
      (fun _ session => each_moves reads _ session) _)

theorem restore_moves (layout : Layout) (old : layout.Value) (session : Session σ) :
    Moves false .read session (session.restore layout old).2 := by
  induction layout generalizing session with
  | unit => exact readBytes_moves _ session
  | scalar kind => exact readBytes_moves _ session
  | bool => exact readFlag_moves session
  | text => exact readText_moves session
  | smallText capacity => exact readSmallText_moves capacity session
  | array item length ih => exact each_moves (fun old session => ih old session) _ session
  | list item ih => exact readList_moves (fun old session => ih old session) session
  | deque item ih => exact readList_moves (fun old session => ih old session) session

theorem transferValue_moves (layout : Layout) (value : layout.Value) (session : Session σ) :
    Moves false session.mode session (session.transfer layout value).2 := by
  unfold transfer
  split
  · next writing =>
      rw [writing]
      exact save_moves layout value session
  · next reading =>
      rw [reading]
      exact restore_moves layout value session

theorem transferField_moves (layout : Layout) (field : VersionedField layout.Value)
    (value : layout.Value) (session : Session σ) :
    Moves false session.mode session (session.transferField layout field value).2 := by
  unfold transferField
  split
  · exact .refl session
  · exact transferValue_moves layout value session

theorem transferBytes_moves {length : Nat} (buffer : Fixed UInt8 length)
    (session : Session σ) : Moves false session.mode session (session.transferBytes buffer).2 := by
  unfold transferBytes
  split
  · next writing =>
      rw [writing]
      exact writeBytes_moves _ session
  · next reading =>
      rw [reading]
      exact readBytes_moves _ session

theorem transferBytesField_moves {length : Nat} (field : VersionedField Bytes)
    (buffer : Fixed UInt8 length) (session : Session σ) :
    Moves false session.mode session (session.transferBytesField field buffer).2 := by
  unfold transferBytesField
  split
  · split <;> exact .refl session
  · exact transferBytes_moves buffer session

theorem transferBlock_moves (layout : Layout) (value : layout.Value) (session : Session σ) :
    Moves false session.mode session (session.transferBlock layout value).2 := by
  unfold transferBlock
  split
  · next writing =>
      rw [writing]
      exact writeBytes_moves _ session
  · next reading =>
      rw [reading]
      exact readBytes_moves _ session

theorem transferBlocks_moves (item : Layout) (values : List item.Value)
    (session : Session σ) :
    Moves false session.mode session (session.transferBlocks item values).2 := by
  unfold transferBlocks
  split
  · next writing =>
      rw [writing]
      exact (writeLength_moves _ session).trans (writeBytes_moves _ _)
  · next reading =>
      rw [reading]
      exact (readLength_moves session.limits.collection session).trans
        (readChunks_moves item.size _
          (fun count session =>
            ((Bytes.groups item.size count
                (session.readBytes (Bytes.zeros (count * item.size))).1).map item.ofBlock,
              (session.readBytes (Bytes.zeros (count * item.size))).2))
          (fun _ session => readBytes_moves _ session) _)

theorem transferUnits_moves (count : Nat) (session : Session σ) :
    Moves false session.mode session (session.transferUnits count).2 := by
  unfold transferUnits
  split
  · next writing =>
      rw [writing]
      exact (writeLength_moves _ session).trans (writeBytes_moves _ _)
  · next reading =>
      rw [reading]
      exact (readLength_moves session.limits.collection session).trans
        (inChunks_moves 0 _
          (fun chunk (count : Nat) session => (count + chunk, (session.readBytes []).2))
          (fun _ _ session => readBytes_moves [] session) 0 0 0 _)

theorem transferVariant_moves (enumeration : Enumeration) (variant : enumeration.Variant)
    (session : Session σ) :
    Moves false session.mode session (session.transferVariant enumeration variant).2 := by
  unfold transferVariant
  split
  · next writing =>
      rw [writing]
      exact writeBytes_moves _ session
  · next reading =>
      have front := readBytes_moves
        (enumeration.scalar.encode (enumeration.toRepr variant)) session
      rw [reading]
      dsimp only
      split
      · exact front
      · exact front.trans (fail_moves rfl .read _)

end Session

/-! ## The moves of a routine -/

variable {σ : Type} [ByteStream σ]

/-- What a step answers when the session's own operation may be misused. -/
def Reply.ofExcept {α : Type} (reply : α → Reply) : Except Misuse α → Reply
  | .ok answer => reply answer
  | .error misuse => .refused misuse

namespace Step

theorem run_bytesField {length : Nat} (field : VersionedField Bytes)
    (given : Fixed UInt8 length) (session : Session σ) :
    (bytesField length field).run given session =
      ((.ofExcept (fun _ => .done) (session.transferBytesField field given).1.1,
        (session.transferBytesField field given).1.2),
        (session.transferBytesField field given).2) := by
  simp only [run]
  split <;> next outcome => rw [outcome]; rfl

theorem run_lend (text : String) (given : Unit) (session : Session σ) :
    (lend text).run given session =
      ((.ofExcept (fun _ => .done) (session.lendText text).1, ()),
        (session.lendText text).2) := by
  simp only [run]
  split <;> next outcome => rw [outcome]; rfl

theorem run_marker (expected : String) (given : Unit) (session : Session σ) :
    (marker expected).run given session =
      ((.ofExcept .matched (session.marker expected).1, ()), (session.marker expected).2) := by
  simp only [run]
  split <;> next outcome => rw [outcome]; rfl

theorem run_expect (expected : String) (given : Unit) (session : Session σ) :
    (expect expected).run given session =
      ((.ofExcept .checked (session.expectMarker expected).1, ()),
        (session.expectMarker expected).2) := by
  simp only [run]
  split <;> next outcome => rw [outcome]; rfl

end Step

/-- The steps that read markers. -/
def Step.marks : Step → Bool
  | .marker _ => true
  | .expect _ => true
  | _ => false

/-- Every step is a sequence of moves. -/
theorem Step.run_moves (step : Step) (given : step.Value) (session : Session σ) :
    Session.Moves step.marks session.mode session (step.run given session).2 := by
  cases step with
  | value layout => exact Session.transferValue_moves layout given session
  | field layout field => exact Session.transferField_moves layout field given session
  | block layout plain => exact Session.transferBlock_moves layout given session
  | blocks item plain => exact Session.transferBlocks_moves item given session
  | units => exact Session.transferUnits_moves given session
  | bytes length => exact Session.transferBytes_moves given session
  | bytesField length field =>
      rw [run_bytesField]
      exact Session.transferBytesField_moves field given session
  | variant enumeration => exact Session.transferVariant_moves enumeration given session
  | lend text =>
      rw [run_lend]
      exact Session.lendText_moves text session
  | marker expected =>
      rw [run_marker]
      exact Session.marker_moves expected session
  | expect expected =>
      rw [run_expect]
      exact Session.expectMarker_moves expected session
  | invalidate reason => exact Session.fail_moves rfl session.mode session
  | abandon reason => exact .refl session

/-- A move keeps the mode, the version, the limits and the allocator. -/
theorem Session.Moves.settings {marks : Bool} {mode : Mode} {first last : Session σ}
    (moves : Session.Moves marks mode first last) :
    last.mode = first.mode ∧ last.version = first.version ∧ last.limits = first.limits ∧
      last.allocator = first.allocator := by
  induction moves with
  | refl => exact ⟨rfl, rfl, rfl, rfl⟩
  | tail before move ih =>
      cases move with
      | transfer sound transferred => exact ih
      | fail sound failed =>
          cases failed with
          | fault transferred => exact ih
          | refusal other => exact ih
      | truncate sound length capacity => exact ih
      | mismatch sound differ => exact ih

/-- Every routine is a sequence of moves. -/
theorem Routine.run_moves (routine : Routine) (given : routine.Values) (session : Session σ) :
    Session.Moves true session.mode session (routine.run given session).2 := by
  induction routine generalizing session with
  | nil => exact .refl session
  | cons step steps ih =>
      have front := (step.run_moves given.1 session).weaken
      have back := ih given.2 (step.run given.1 session).2
      rw [front.settings.1] at back
      exact front.trans back

end Snapshot
