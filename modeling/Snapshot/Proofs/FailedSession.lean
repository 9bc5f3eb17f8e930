import Snapshot.Proofs.Moves
import Snapshot.Proofs.Presence
import Snapshot.Proofs.StoredText
import Snapshot.Stream.Memory

/-!
# Failed sessions

A failed session stays as it is: whatever a routine still asks of it, the failure,
the stream, the latest mismatch and the log are those of before.  What is read then
is blank, except that an absent field gets its default, and what is written stays
with its owner unchanged.
-/

namespace Snapshot

namespace Bytes

theorem take_zeros (count total : Nat) :
    (zeros total).take count = zeros (min count total) := by
  simp [zeros, List.take_replicate]

theorem drop_zeros (count total : Nat) : (zeros total).drop count = zeros (total - count) := by
  simp [zeros, List.drop_replicate]

/-- The groups of a string of zero bytes are strings of zero bytes. -/
theorem exists_zeros_of_mem_groups {size count total : Nat} {group : Bytes}
    (member : group ∈ groups size count (zeros total)) : ∃ length, group = zeros length := by
  induction count generalizing total with
  | zero => simp at member
  | succ count ih =>
      rw [groups_succ, take_zeros, drop_zeros] at member
      rcases List.mem_cons.mp member with head | later
      · exact ⟨_, head⟩
      · exact ih later

end Bytes

theorem Layout.ofBlock_zeros {layout : Layout} (plain : layout.isPlain = true) (count : Nat) :
    layout.ofBlock (Bytes.zeros count) = layout.blank := by
  induction layout generalizing count with
  | unit => rfl
  | scalar kind => exact kind.decode_zeros count
  | array item length ih =>
      apply Fixed.ext
      have blanks : ∀ value ∈ (Bytes.groups item.size length (Bytes.zeros count)).map item.ofBlock,
          value = item.blank := by
        intro value member
        obtain ⟨group, inside, rfl⟩ := List.mem_map.mp member
        obtain ⟨zeros, rfl⟩ := Bytes.exists_zeros_of_mem_groups inside
        exact ih plain zeros
      have size : ((Bytes.groups item.size length (Bytes.zeros count)).map item.ofBlock).length =
          length := by simp
      exact List.eq_replicate_iff.mpr ⟨size, blanks⟩
  | bool => cases plain
  | text => cases plain
  | smallText capacity => cases plain
  | list item => cases plain
  | deque item => cases plain

namespace Session

variable {σ : Type} [ByteStream σ] {session : Session σ}

theorem readSmallText_of_hasFailed (failed : session.hasFailed = true) (capacity : Nat) :
    session.readSmallText capacity = (.empty capacity, session) := by
  have nothing : SmallText.ofBytes capacity [] = .empty capacity :=
    SmallText.ofBytes_encode (.empty capacity)
  have unreported : session.reportTruncation 0 capacity = session := by
    rw [reportTruncation, if_neg (by simp)]
  rw [readSmallText, readLength_of_hasFailed failed]
  dsimp only
  rw [readBytes_of_hasFailed failed]
  simp only [Nat.zero_min, Bytes.length_zeros, Nat.zero_sub]
  rw [unreported, skip_of_hasFailed failed]
  simp [Bytes.zeros, nothing]

theorem readList_of_hasFailed (failed : session.hasFailed = true) (item : Layout)
    (readItem : item.Value → Session σ → item.Value × Session σ) :
    session.readList item readItem = ([], session) := by
  rw [readList, readLength_of_hasFailed failed]
  dsimp only
  rw [readChunks_of_hasFailed failed]

/-- A failed session restores blanks. -/
theorem restore_of_hasFailed (failed : session.hasFailed = true) (layout : Layout)
    (old : layout.Value) : session.restore layout old = (layout.blank, session) := by
  induction layout with
  | unit =>
      rw [restore, readBytes_of_hasFailed failed]
  | scalar kind =>
      rw [restore, readBytes_of_hasFailed failed]
      dsimp only
      rw [kind.decode_zeros]
      rfl
  | bool => exact readFlag_of_hasFailed failed
  | text => exact readText_of_hasFailed failed
  | smallText capacity => exact readSmallText_of_hasFailed failed capacity
  | array item length ih =>
      apply eachFixed_of_unmoved
      intro result member old
      rw [List.eq_of_mem_replicate member]
      exact ih old
  | list item ih => exact readList_of_hasFailed failed item (restore item)
  | deque item ih =>
      rw [restore, readList_of_hasFailed failed]
      rfl

theorem readFixed_of_hasFailed (failed : session.hasFailed = true) {length : Nat}
    (buffer : Fixed UInt8 length) : (session.readFixed buffer).1 = .replicate length 0 := by
  apply Fixed.ext
  simp only [readFixed, readBytes_of_hasFailed failed]
  exact congrArg Bytes.zeros buffer.length_eq

theorem marker_of_hasFailed (failed : session.hasFailed = true) (expected : String) :
    session.marker expected =
      (if markerCapacity < expected.utf8ByteSize then .error .markerTooLong else .ok false,
        session) := by
  unfold marker
  split
  · rfl
  · cases session.mode with
    | write =>
        simp only [writeMarker]
        rw [writeText_of_hasFailed failed, failed]
        rfl
    | read =>
        simp only [readMarker]
        rw [readSmallText_of_hasFailed failed]
        dsimp only
        rw [if_pos failed]

theorem expectMarker_of_failure {failure : Failure} (failed : session.failure = some failure)
    (expected : String) :
    session.expectMarker expected =
      (if markerCapacity < expected.utf8ByteSize then .error .markerTooLong
        else .ok (.error failure), session) := by
  rw [expectMarker, marker_of_hasFailed (hasFailed_of_failure failed)]
  by_cases long : markerCapacity < expected.utf8ByteSize
  · rw [if_pos long, if_pos long]
  · rw [if_neg long, if_neg long]
    simp [markerFailure, failed]

end Session

namespace Step

/-- What a step leaves in its value when the session has failed before. -/
def valueAfterFailure (step : Step) (mode : Mode) (version : UInt32) (given : step.Value) :
    step.Value :=
  match mode with
  | .write => given
  | .read => if step.isPresent version then step.blank else step.absentValue given

/-- What a step answers when the session has failed before. -/
def replyAfterFailure (mode : Mode) (version : UInt32) (failure : Failure) : Step → Reply
  | .bytesField length gate =>
      if mode = .read ∧ gate.isPresent version = false ∧ gate.default.length ≠ length then
        .refused .defaultLength
      else
        .done
  | .lend _ => if mode = .write then .done else .refused .textWhileReading
  | .marker expected =>
      if markerCapacity < expected.utf8ByteSize then .refused .markerTooLong else .matched false
  | .expect expected =>
      if markerCapacity < expected.utf8ByteSize then .refused .markerTooLong
      else .checked (.error failure)
  | .abandon reason => .checked (.error (.invalid reason))
  | _ => .done

variable {σ : Type} [ByteStream σ] {session : Session σ}

/-- Writing leaves every value as it is. -/
theorem run_value_of_writing (writing : session.mode = .write) (step : Step)
    (given : step.Value) : (step.run given session).1.2 = given := by
  cases step with
  | value layout => simp only [run, Session.transfer, writing]
  | field layout gate => simp [run, Session.transferField, Session.transfer, writing]
  | block layout plain => simp only [run, Session.transferBlock, writing]
  | blocks item plain => simp only [run, Session.transferBlocks, writing]
  | units => simp only [run, Session.transferUnits, writing]
  | bytes length => simp only [run, Session.transferBytes, writing]
  | bytesField length gate =>
      rw [run_bytesField]
      simp [Session.transferBytesField, Session.transferBytes, writing]
  | variant enumeration => simp only [run, Session.transferVariant, writing]
  | lend text => rfl
  | marker expected => rfl
  | expect expected => rfl
  | invalidate reason => rfl
  | abandon reason => rfl

/-- Reading from a failed session blanks every value, absent fields apart. -/
theorem run_value_of_failed_reading (failed : session.hasFailed = true)
    (reading : session.mode = .read) (step : Step) (given : step.Value) :
    (step.run given session).1.2 =
      if step.isPresent session.version then step.blank else step.absentValue given := by
  cases step with
  | value layout =>
      simp only [run, Session.transfer, reading]
      rw [Session.restore_of_hasFailed failed]
      rfl
  | field layout gate =>
      simp only [run, Session.transferField, Session.transfer, reading]
      cases present : gate.isPresent session.version with
      | false => simp [isPresent, absentValue, present]
      | true =>
          rw [Session.restore_of_hasFailed failed]
          simp [isPresent, blank, present]
  | block layout plain =>
      simp only [run, Session.transferBlock, reading]
      rw [Session.readBytes_of_hasFailed failed]
      exact Layout.ofBlock_zeros plain _
  | blocks item plain =>
      simp only [run, Session.transferBlocks, reading]
      rw [Session.readLength_of_hasFailed failed]
      dsimp only
      rw [Session.readChunks_of_hasFailed failed]
      rfl
  | units =>
      simp only [run, Session.transferUnits, reading]
      rw [Session.readLength_of_hasFailed failed]
      dsimp only
      rw [Session.inChunks_of_hasFailed failed]
      simp [failed, isPresent, blank]
  | bytes length =>
      simp only [run, Session.transferBytes, reading]
      exact Session.readFixed_of_hasFailed failed given
  | bytesField length gate =>
      rw [run_bytesField]
      simp only [Session.transferBytesField, Session.transferBytes, reading]
      cases present : gate.isPresent session.version with
      | false =>
          cases fits : Fixed.ofList? length gate.default <;>
            simp [isPresent, absentValue, present, fits]
      | true =>
          simp only [isPresent, present]
          exact Session.readFixed_of_hasFailed failed given
  | variant enumeration =>
      simp only [run, Session.transferVariant, reading]
      rw [Session.readBytes_of_hasFailed failed]
      dsimp only
      split <;> simp [failed, isPresent, blank]
  | lend text => rfl
  | marker expected => rfl
  | expect expected => rfl
  | invalidate reason => rfl
  | abandon reason => rfl

theorem run_reply_of_failure {failure : Failure} (failed : session.failure = some failure)
    (step : Step) (given : step.Value) :
    (step.run given session).1.1 =
      step.replyAfterFailure session.mode session.version failure := by
  have hasFailed := Session.hasFailed_of_failure failed
  cases step with
  | value layout => rfl
  | field layout gate => rfl
  | block layout plain => rfl
  | blocks item plain => rfl
  | units => rfl
  | bytes length => rfl
  | bytesField length gate =>
      rw [run_bytesField]
      simp only [Session.transferBytesField, replyAfterFailure, Fixed.ofList?]
      by_cases absent : session.mode = .read ∧ gate.isPresent session.version = false
      · by_cases fits : gate.default.length = length
        · simp [absent, fits, Reply.ofExcept]
        · simp [absent, fits, Reply.ofExcept]
      · rw [if_neg absent, if_neg (fun misused => absent ⟨misused.1, misused.2.1⟩)]
        rfl
  | variant enumeration => rfl
  | lend text =>
      rw [run_lend]
      cases mode : session.mode with
      | read => simp [Session.lendText, replyAfterFailure, mode, Reply.ofExcept]
      | write => simp [Session.lendText, replyAfterFailure, mode, Reply.ofExcept]
  | marker expected =>
      rw [run_marker, Session.marker_of_hasFailed hasFailed]
      simp only [replyAfterFailure]
      split <;> rfl
  | expect expected =>
      rw [run_expect, Session.expectMarker_of_failure failed]
      simp only [replyAfterFailure]
      split <;> rfl
  | invalidate reason => rfl
  | abandon reason => rfl

/-- What a step does in a failed session. -/
theorem run_of_failure {failure : Failure} (failed : session.failure = some failure)
    (step : Step) (given : step.Value) :
    step.run given session =
      ((step.replyAfterFailure session.mode session.version failure,
        step.valueAfterFailure session.mode session.version given), session) := by
  have hasFailed := Session.hasFailed_of_failure failed
  refine Prod.ext (Prod.ext (step.run_reply_of_failure failed given) ?_)
    ((step.run_moves given session).eq_of_hasFailed hasFailed)
  cases mode : session.mode with
  | read => exact step.run_value_of_failed_reading hasFailed mode given
  | write => exact step.run_value_of_writing mode given

end Step

variable {σ : Type} [ByteStream σ] {session : Session σ}

namespace Routine

/-- What a routine leaves in its values when the session has failed before. -/
def valuesAfterFailure (mode : Mode) (version : UInt32) :
    (routine : Routine) → routine.Values → routine.Values
  | [], _ => ()
  | step :: steps, (given, rest) =>
      (step.valueAfterFailure mode version given, valuesAfterFailure mode version steps rest)

/-- What a routine does in a failed session. -/
theorem run_of_failure {failure : Failure} (failed : session.failure = some failure)
    (routine : Routine) (given : routine.Values) :
    routine.run given session =
      ((routine.map (Step.replyAfterFailure session.mode session.version failure),
        routine.valuesAfterFailure session.mode session.version given), session) := by
  induction routine with
  | nil => rfl
  | cons step steps ih =>
      obtain ⟨value, rest⟩ := given
      simp only [run]
      rw [step.run_of_failure failed value]
      dsimp only
      rw [ih rest]
      rfl

end Routine

/-- The failure of a session is final.  Once it is on record, no routine changes the
session in any respect: not its failure or latest mismatch, not its log, and not its
stream, of which no operation is used.  Restored values become blank except that an
absent field gets its default, saved values stay, markers are not accepted, and the
session finishes with that failure.  The failure is the first one: up to the move
that put it on record every move succeeded. -/
theorem Session.failure_is_final (routine : Routine) (given : routine.Values)
    (session : Session σ) :
    (∀ failure, session.failure = some failure →
      routine.run given session =
          ((routine.map (Step.replyAfterFailure session.mode session.version failure),
            routine.valuesAfterFailure session.mode session.version given), session) ∧
        session.finish = .error failure) ∧
    (session.failure = none → ∀ failure, (routine.run given session).2.failure = some failure →
      ∃ before, Session.Moves true session.mode session before ∧ before.failure = none ∧
        Session.Fails session.mode before failure (routine.run given session).2) := by
  constructor
  · intro failure failed
    refine ⟨routine.run_of_failure failed given, ?_⟩
    simp [finish, failed]
  · intro sound failure failed
    exact (routine.run_moves given session).exists_fails sound failed

/-- A read of four bytes from a stream of two fails the session for good. -/
theorem Session.failure_is_final_after_short_read :
    let start := Session.start .unbounded (Memory.ofBytes [1, 2]) .read 4 .standard
    let failed := (Routine.run [.value (.scalar .u32)] (7#32, ()) start).2
    (start.failure = none ∧ failed.failure = some (.stream .unexpectedEnd)) ∧
      (∃ before, Session.Moves true .read start before ∧ before.failure = none ∧
        Session.Fails .read before (.stream .unexpectedEnd) failed) ∧
      Routine.run [.field .text ⟨5, "none"⟩, .value (.list .bool), .marker "TIMR"]
          ("old", [true], (), ()) failed =
        (([.done, .done, .matched false], ("none", [], (), ())), failed) ∧
      failed.finish = .error (.stream .unexpectedEnd) := by
  intro start failed
  have sound : start.failure = none := rfl
  have failure : failed.failure = some (.stream .unexpectedEnd) := rfl
  have first := (Session.failure_is_final [.value (.scalar .u32)] (7#32, ()) start).2 sound _ failure
  have later := (Session.failure_is_final [.field .text ⟨5, "none"⟩, .value (.list .bool), .marker "TIMR"]
    ("old", [true], (), ()) failed).1 _ failure
  exact ⟨⟨sound, failure⟩, first, later.1, later.2⟩

end Snapshot
