import Snapshot.Proofs.Course
import Snapshot.Proofs.Decoder
import Snapshot.Stream.Device

/-!
# Destinations

What a destination held before leaves no trace.  Old contents are handed to the stream only
as a buffer, and of a buffer only its length counts: a read that succeeds overwrites it and
a read that fails blanks it.  Hence two runs that differ in the old contents alone go the
same way step by step, whatever the stream does.
-/

namespace Snapshot

namespace Session

variable {σ α β : Type} [ByteStream σ]

/-- Of a buffer only the length counts. -/
theorem readBytes_congr {first second : Bytes} (same : first.length = second.length)
    (session : Session σ) : session.readBytes first = session.readBytes second := by
  by_cases failed : session.hasFailed = true
  · rw [readBytes_of_hasFailed failed, readBytes_of_hasFailed failed, same]
  · rw [readBytes, if_neg failed, readBytes, if_neg failed, same, withStream_eq]
    dsimp only
    cases faulted : (ByteStream.read second.length session.stream).1.fault with
    | none =>
        have complete := ByteStream.length_read second.length session.stream faulted
        rw [Delivery.onto_of_length_eq complete,
          Delivery.onto_of_length_eq (complete.trans same.symm)]
    | some fault => rfl

omit [ByteStream σ] in
theorem each_congr {act : α → Session σ → β × Session σ}
    (acts : ∀ first second session, act first session = act second session)
    {first second : List α} (same : first.length = second.length) (session : Session σ) :
    each act first session = each act second session := by
  induction first generalizing second session with
  | nil => rw [List.eq_nil_of_length_eq_zero same.symm]
  | cons item items ih =>
      cases second with
      | nil => cases same
      | cons other others =>
          rw [each_cons, each_cons, acts item other, ih (Nat.succ.inj same)]

omit [ByteStream σ] in
theorem eachFixed_congr {length : Nat} {act : α → Session σ → β × Session σ}
    (acts : ∀ first second session, act first session = act second session)
    (first second : Fixed α length) (session : Session σ) :
    session.eachFixed act first = session.eachFixed act second := by
  have items := each_congr acts (first.length_eq.trans second.length_eq.symm) session
  have left := congrArg Prod.fst items
  have moved := congrArg Prod.snd items
  exact Prod.ext (Fixed.ext left) moved

/-- Restoring does not depend on what the destination held. -/
theorem restore_congr (layout : Layout) (first second : layout.Value) (session : Session σ) :
    session.restore layout first = session.restore layout second := by
  induction layout generalizing session with
  | unit => rfl
  | scalar kind =>
      have same := (kind.length_encode first).trans (kind.length_encode second).symm
      rw [restore, restore, readBytes_congr same]
  | bool => rfl
  | text => rfl
  | smallText capacity => rfl
  | array item length ih => exact eachFixed_congr ih first second session
  | list item ih => rfl
  | deque item ih => rfl

theorem readFixed_congr {length : Nat} (first second : Fixed UInt8 length)
    (session : Session σ) : session.readFixed first = session.readFixed second := by
  have bytes := readBytes_congr (first.length_eq.trans second.length_eq.symm) session
  have left := congrArg Prod.fst bytes
  have moved := congrArg Prod.snd bytes
  exact Prod.ext (Fixed.ext left) moved

theorem transferBytes_congr {length : Nat} {session : Session σ} (reading : session.mode = .read)
    (first second : Fixed UInt8 length) :
    session.transferBytes first = session.transferBytes second := by
  rw [transferBytes, transferBytes, reading]
  exact readFixed_congr first second session

theorem transferBlock_congr {layout : Layout} (plain : layout.isPlain = true)
    {session : Session σ} (reading : session.mode = .read) (first second : layout.Value) :
    session.transferBlock layout first = session.transferBlock layout second := by
  have same := (Layout.length_encode_of_isPlain plain first).trans
    (Layout.length_encode_of_isPlain plain second).symm
  rw [transferBlock, transferBlock, reading]
  dsimp only
  rw [readBytes_congr same]

theorem transferVariant_congr {enumeration : Enumeration} {session : Session σ}
    (reading : session.mode = .read) (first second : enumeration.Variant) :
    session.transferVariant enumeration first = session.transferVariant enumeration second := by
  have same := (enumeration.scalar.length_encode (enumeration.toRepr first)).trans
    (enumeration.scalar.length_encode (enumeration.toRepr second)).symm
  rw [transferVariant, transferVariant, reading]
  dsimp only
  rw [readBytes_congr same]

end Session

variable {σ : Type} [ByteStream σ] {session : Session σ}

/-- Whether a reply is that of misuse. -/
def Reply.isRefused : Reply → Bool
  | .refused _ => true
  | _ => false

/-- What one step does does not depend on what its destination held, except that a refused
step leaves it as it is. -/
theorem Step.run_congr (reading : session.mode = .read) (step : Step)
    (first second : step.Value) :
    (step.run first session).1.1 = (step.run second session).1.1 ∧
      (step.run first session).2 = (step.run second session).2 ∧
      ((step.run first session).1.1.isRefused = false →
        (step.run first session).1.2 = (step.run second session).1.2) := by
  have whole : step.run first session = step.run second session →
      (step.run first session).1.1 = (step.run second session).1.1 ∧
        (step.run first session).2 = (step.run second session).2 ∧
        ((step.run first session).1.1.isRefused = false →
          (step.run first session).1.2 = (step.run second session).1.2) := by
    intro same
    rw [same]
    exact ⟨rfl, rfl, fun _ => rfl⟩
  cases step with
  | value layout =>
      apply whole
      rw [run, run, Session.transfer, Session.transfer, reading]
      dsimp only
      rw [Session.restore_congr layout first second]
  | field layout gate =>
      apply whole
      rw [run, run, Session.transferField, Session.transferField, Session.transfer,
        Session.transfer, reading]
      dsimp only
      rw [Session.restore_congr layout first second]
  | block layout plain =>
      apply whole
      rw [run, run, Session.transferBlock_congr plain reading first second]
  | blocks item plain =>
      apply whole
      rw [run, run, Session.transferBlocks, Session.transferBlocks, reading]
  | units =>
      apply whole
      rw [run, run, Session.transferUnits, Session.transferUnits, reading]
  | bytes length =>
      apply whole
      rw [run, run, Session.transferBytes_congr reading first second]
  | bytesField length gate =>
      by_cases absent : session.mode = .read ∧ gate.isPresent session.version = false
      · rw [run_bytesField, run_bytesField, Session.transferBytesField,
          Session.transferBytesField, if_pos absent, if_pos absent]
        cases Fixed.ofList? length gate.default with
        | some default => exact ⟨rfl, rfl, fun _ => rfl⟩
        | none => exact ⟨rfl, rfl, fun accepted => by cases accepted⟩
      · apply whole
        rw [run_bytesField, run_bytesField, Session.transferBytesField,
          Session.transferBytesField, if_neg absent, if_neg absent,
          Session.transferBytes_congr reading first second]
  | variant enumeration =>
      apply whole
      rw [run, run, Session.transferVariant_congr reading first second]
  | lend text => exact whole rfl
  | marker expected => exact whole rfl
  | expect expected => exact whole rfl
  | invalidate reason => exact whole rfl
  | abandon reason => exact whole rfl

namespace Routine

theorem reading_after_step (reading : session.mode = .read) (step : Step) (given : step.Value) :
    (step.run given session).2.mode = .read :=
  (step.run_moves given session).settings.1.trans reading

theorem after_congr (reading : session.mode = .read) (routine : Routine)
    (first second : routine.Values) (count : Nat) :
    routine.after first count session = routine.after second count session := by
  induction routine generalizing count session with
  | nil => rfl
  | cons step steps ih =>
      cases count with
      | zero => rfl
      | succ count =>
          obtain ⟨_, same, _⟩ := step.run_congr reading first.1 second.1
          have later := ih (reading_after_step reading step first.1) first.2 second.2 count
          rw [same] at later
          rw [after, after, same]
          exact later

theorem replies_congr (reading : session.mode = .read) (routine : Routine)
    (first second : routine.Values) :
    (routine.run first session).1.1 = (routine.run second session).1.1 := by
  induction routine generalizing session with
  | nil => rfl
  | cons step steps ih =>
      obtain ⟨reply, same, _⟩ := step.run_congr reading first.1 second.1
      have later := ih (reading_after_step reading step first.1) first.2 second.2
      rw [same] at later
      simp only [run]
      rw [reply, same, later]

theorem valueAt_congr (reading : session.mode = .read) (routine : Routine)
    (first second : routine.Values) (index : Fin routine.length)
    (accepted : ∀ reply, (routine.run first session).1.1[index.val]? = some reply →
      reply.isRefused = false) :
    routine.valueAt (routine.run first session).1.2 index =
      routine.valueAt (routine.run second session).1.2 index := by
  induction routine generalizing session with
  | nil => exact index.elim0
  | cons step steps ih =>
      obtain ⟨_, same, value⟩ := step.run_congr reading first.1 second.1
      cases index with
      | mk index inside =>
          cases index with
          | zero => exact value (accepted _ rfl)
          | succ index =>
              have later := ih (reading_after_step reading step first.1) first.2 second.2
                ⟨index, Nat.lt_of_succ_lt_succ inside⟩ accepted
              rw [same] at later
              simp only [run]
              rw [same]
              exact later

/-- Old contents leave no trace.  Two runs of a routine that start from the same reading
session, and differ in what the destinations held, answer the same and have the same session
behind every step: the same stream, failure, mismatch and log, also after a failure.  Every
destination ends with the same value, except that one is left as it is by a step that was
refused. -/
theorem old_contents_leave_no_trace (reading : session.mode = .read) (routine : Routine)
    (first second : routine.Values) :
    (routine.run first session).1.1 = (routine.run second session).1.1 ∧
      (∀ count, routine.after first count session = routine.after second count session) ∧
      (routine.run first session).2 = (routine.run second session).2 ∧
      ∀ index : Fin routine.length,
        (∀ reply, (routine.run first session).1.1[index.val]? = some reply →
          reply.isRefused = false) →
        routine.valueAt (routine.run first session).1.2 index =
          routine.valueAt (routine.run second session).1.2 index := by
  have sessions := after_congr reading routine first second
  refine ⟨replies_congr reading routine first second, sessions, ?_, ?_⟩
  · rw [← after_length, ← after_length]
    exact sessions routine.length
  · exact fun index accepted => valueAt_congr reading routine first second index accepted

/-- A device delivers one byte of a number and then fails: nothing of either destination is
left, and the steps after the failure agree as well. -/
theorem old_contents_leave_no_trace_of_broken_device :
    let routine : Routine := [.value (.scalar .u32), .value .text, .bytes 2]
    let session := Session.start .unbounded
      (Device.ofBytes [1, 2, 3] [.move 1, .fail .timedOut] none true) .read 4 .standard
    let first : routine.Values := (7#32, "old", ⟨[1, 2], rfl⟩, ())
    let second : routine.Values := (0#32, "other", ⟨[8, 9], rfl⟩, ())
    session.mode = .read ∧
      (routine.run first session).1.1 = (routine.run second session).1.1 ∧
      (∀ count, routine.after first count session = routine.after second count session) ∧
      (routine.run first session).2 = (routine.run second session).2 ∧
      ∀ index : Fin routine.length,
        routine.valueAt (routine.run first session).1.2 index =
          routine.valueAt (routine.run second session).1.2 index := by
  intro routine session first second
  have reading : session.mode = .read := rfl
  have replies : (routine.run first session).1.1 = [.done, .done, .done] := rfl
  obtain ⟨same, between, last, values⟩ :=
    old_contents_leave_no_trace reading routine first second
  refine ⟨reading, same, between, last, fun index => values index ?_⟩
  intro reply found
  rw [replies] at found
  have answered : reply = .done := by
    simpa using List.mem_of_getElem? found
  rw [answered]
  rfl

end Routine

end Snapshot
