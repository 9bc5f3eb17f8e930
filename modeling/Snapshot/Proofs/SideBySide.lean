import Snapshot.Proofs.Coupling
import Snapshot.Proofs.Course

/-!
# Routines side by side

Everything that a routine does while reading keeps every coupling.  Two runs of a routine
whose sessions start together hence agree step by step until they part, and a step that they
finish together leaves the same value.
-/

namespace Snapshot

namespace Session

variable {σ : Type} [ByteStream σ]

/-- What checking a marker answers, from what reading it answered. -/
def checkedMarker (answer : Except Misuse Bool) (session : Session σ) :
    Except Misuse (Except Failure Unit) :=
  match answer with
  | .error misuse => .error misuse
  | .ok true => .ok (.ok ())
  | .ok false => .ok (.error session.markerFailure)

theorem expectMarker_eq (expected : String) (session : Session σ) :
    session.expectMarker expected =
      ((session.marker expected).2.checkedMarker (session.marker expected).1,
        (session.marker expected).2) := by
  rw [expectMarker]
  cases session.marker expected with
  | mk answer next =>
      cases answer with
      | error misuse => rfl
      | ok accepted => cases accepted <;> rfl

/-- Holds a text that was read in place of a marker against the marker. -/
def checkText (found expected : String) (session : Session σ) :
    Except Failure Unit × Session σ :=
  match session.failure with
  | some failure => (.error failure, session)
  | none =>
      if found = expected then
        (.ok (), session)
      else
        (.error (.markerMismatch ⟨session.position, found, expected⟩),
          session.recordMismatch found expected)

section CheckText

variable {session : Session σ} {found expected : String}

theorem checkText_of_failure {failure : Failure} (failed : session.failure = some failure) :
    session.checkText found expected = (.error failure, session) := by
  rw [checkText, failed]

theorem checkText_of_eq (sound : session.failure = none) (same : found = expected) :
    session.checkText found expected = (.ok (), session) := by
  rw [checkText, sound]
  exact if_pos same

theorem checkText_of_ne (sound : session.failure = none) (differ : found ≠ expected) :
    session.checkText found expected =
      (.error (.markerMismatch ⟨session.position, found, expected⟩),
        session.recordMismatch found expected) := by
  rw [checkText, sound]
  exact if_neg differ

theorem checkText_moves (found expected : String) (session : Session σ) :
    Moves true .read session (session.checkText found expected).2 := by
  unfold checkText
  split
  · exact .refl session
  · next sound =>
      split
      · exact .refl session
      · next differ => exact .single (.mismatch sound differ)

/-- In a reading session a marker is expected by reading a small text and checking it. -/
theorem expectMarker_of_reading (reading : session.mode = .read)
    (fits : expected.utf8ByteSize ≤ markerCapacity) :
    session.expectMarker expected =
      (.ok ((session.readSmallText markerCapacity).2.checkText
          (session.readSmallText markerCapacity).1.text expected).1,
        ((session.readSmallText markerCapacity).2.checkText
          (session.readSmallText markerCapacity).1.text expected).2) := by
  rw [expectMarker, marker, if_neg (Nat.not_lt_of_le fits), reading]
  dsimp only [readMarker]
  generalize session.readSmallText markerCapacity = stored
  cases failure : stored.2.failure with
  | some failure' =>
      rw [if_pos (by simp [hasFailed, failure]), checkText_of_failure failure]
      simp only [markerFailure, failure]
  | none =>
      rw [if_neg (by simp [hasFailed, failure])]
      by_cases same : stored.1.text = expected
      · rw [if_pos same, checkText_of_eq failure same]
      · rw [if_neg same, checkText_of_ne failure same]
        simp only [markerFailure, recordMismatch, report, failure]

end CheckText

end Session

namespace Session.Coupling

variable {σ τ : Type} [ByteStream σ] [ByteStream τ] {coupling : Coupling σ τ}

/-! ## Texts -/

theorem readText_keeps :
    coupling.Keeps (fun session => session.readText) (fun session => session.readText) := by
  have payload : ∀ length, coupling.Keeps
      (readChunks 1 length fun count session => session.readBytes (Bytes.zeros count))
      (readChunks 1 length fun count session => session.readBytes (Bytes.zeros count)) :=
    readChunks_keeps (fun count => readBytes_keeps (Bytes.zeros count))
      (fun count => readBytes_moves (Bytes.zeros count))
      (fun count => readBytes_moves (Bytes.zeros count)) 1
  have limited := fun limits : Limits => ((readLength_keeps limits.text).andThen payload).map
    fun stored => Utf8.decodeLossy (Bytes.beforeZero stored)
  exact .of_shared Akin.limits_eq limited

theorem reportTruncation_keeps (length capacity : Nat) :
    coupling.Keeps (fun session => ((), session.reportTruncation length capacity))
      (fun session => ((), session.reportTruncation length capacity)) where
  agrees := by
    intro first second together
    have failed := (coupling.akin together).hasFailed_eq
    refine Or.inr ⟨rfl, ?_⟩
    unfold reportTruncation
    rw [failed]
    split
    · exact coupling.report together _
    · exact together
  reads := .of_moves (reportTruncation_moves length capacity)
  reads_second := .of_moves (reportTruncation_moves length capacity)

theorem readSmallText_keeps (capacity : Nat) :
    coupling.Keeps (fun session => session.readSmallText capacity)
      (fun session => session.readSmallText capacity) := by
  have dropped : ∀ length, coupling.Keeps
      (fun session => ((), (session.reportTruncation length capacity).skip (length - capacity)))
      (fun session => ((), (session.reportTruncation length capacity).skip (length - capacity))) :=
    fun length => (reportTruncation_keeps length capacity).andThen
      fun _ => skip_keeps (length - capacity)
  have limited := fun limits : Limits => (readLength_keeps limits.text).andThen fun length =>
    (readBytes_keeps (Bytes.zeros (min length capacity))).andThen fun stored =>
      (dropped length).map fun _ => SmallText.ofBytes capacity stored
  exact .of_shared Akin.limits_eq limited

/-! ## Values -/

theorem readList_keeps {item : Layout} {readItem : item.Value → Session σ → item.Value × Session σ}
    {readItem' : item.Value → Session τ → item.Value × Session τ}
    (items : ∀ old, coupling.Keeps (readItem old) (readItem' old))
    (moves : ∀ old session, Moves false .read session (readItem old session).2)
    (moves' : ∀ old session, Moves false .read session (readItem' old session).2) :
    coupling.Keeps (fun session => session.readList item readItem)
      (fun session => session.readList item readItem') := by
  have elements := fun length => readChunks_keeps
    (fun count => each_keeps items (List.replicate count item.blank))
    (fun count session => each_moves moves (List.replicate count item.blank) session)
    (fun count session => each_moves moves' (List.replicate count item.blank) session)
    item.size length
  have limited := fun limits : Limits => (readLength_keeps limits.collection).andThen elements
  exact .of_shared Akin.limits_eq limited

theorem restore_keeps (layout : Layout) (old : layout.Value) :
    coupling.Keeps (fun session => session.restore layout old)
      (fun session => session.restore layout old) := by
  induction layout with
  | unit => exact (readBytes_keeps []).map fun _ => ()
  | scalar kind => exact (readBytes_keeps (kind.encode old)).map kind.decode
  | bool => exact readFlag_keeps
  | text => exact readText_keeps
  | smallText capacity => exact readSmallText_keeps capacity
  | array item length ih => exact eachFixed_keeps ih old
  | list item ih => exact readList_keeps ih (restore_moves item) (restore_moves item)
  | deque item ih =>
      exact (readList_keeps ih (restore_moves item) (restore_moves item)).map Deque.ofList

theorem transfer_keeps (layout : Layout) (value : layout.Value) :
    coupling.Keeps (fun session => session.transfer layout value)
      (fun session => session.transfer layout value) := by
  refine (restore_keeps layout value).of_eq ?_ ?_
  · intro session reading
    rw [transfer, reading]
  · intro session reading
    rw [transfer, reading]

theorem transferField_keeps (layout : Layout) (field : VersionedField layout.Value)
    (value : layout.Value) :
    coupling.Keeps (fun session => session.transferField layout field value)
      (fun session => session.transferField layout field value) :=
  (transfer_keeps layout value).gated field (.succeed field.default)

theorem readFixed_keeps {length : Nat} (buffer : Fixed UInt8 length) :
    coupling.Keeps (fun session => session.readFixed buffer)
      (fun session => session.readFixed buffer) where
  agrees := by
    intro first second together
    rcases coupling.readBytes together buffer.items with parted | ⟨same, still⟩
    · exact Or.inl parted
    · exact Or.inr ⟨Fixed.ext same, still⟩
  reads := .of_moves (readBytes_moves buffer.items)
  reads_second := .of_moves (readBytes_moves buffer.items)

theorem transferBytes_keeps {length : Nat} (buffer : Fixed UInt8 length) :
    coupling.Keeps (fun session => session.transferBytes buffer)
      (fun session => session.transferBytes buffer) := by
  refine (readFixed_keeps buffer).of_eq ?_ ?_
  · intro session reading
    rw [transferBytes, reading]
  · intro session reading
    rw [transferBytes, reading]

/-- An absent field is given its default, if that has the length of the buffer. -/
theorem absentBytes_keeps {length : Nat} (default : Bytes) (buffer : Fixed UInt8 length) :
    coupling.Keeps
      (fun session =>
        match Fixed.ofList? length default with
        | some default => ((Except.ok (), default), session)
        | none => ((Except.error Misuse.defaultLength, buffer), session))
      (fun session =>
        match Fixed.ofList? length default with
        | some default => ((Except.ok (), default), session)
        | none => ((Except.error Misuse.defaultLength, buffer), session)) := by
  cases Fixed.ofList? length default with
  | some default => exact .succeed (Except.ok (), default)
  | none => exact .succeed (Except.error Misuse.defaultLength, buffer)

theorem transferBytesField_keeps {length : Nat} (field : VersionedField Bytes)
    (buffer : Fixed UInt8 length) :
    coupling.Keeps (fun session => session.transferBytesField field buffer)
      (fun session => session.transferBytesField field buffer) :=
  ((transferBytes_keeps buffer).map fun left => (Except.ok (), left)).gated field
    (absentBytes_keeps field.default buffer)

theorem transferBlock_keeps (layout : Layout) (value : layout.Value) :
    coupling.Keeps (fun session => session.transferBlock layout value)
      (fun session => session.transferBlock layout value) := by
  refine ((readBytes_keeps (layout.encode value)).map layout.ofBlock).of_eq ?_ ?_
  · intro session reading
    rw [transferBlock, reading]
  · intro session reading
    rw [transferBlock, reading]

theorem transferBlocks_keeps (item : Layout) (values : List item.Value) :
    coupling.Keeps (fun session => session.transferBlocks item values)
      (fun session => session.transferBlocks item values) := by
  have block : ∀ count, coupling.Keeps
      (fun session => session.readBytes (Bytes.zeros (count * item.size)))
      (fun session => session.readBytes (Bytes.zeros (count * item.size))) :=
    fun count => readBytes_keeps (Bytes.zeros (count * item.size))
  have elements := fun length => readChunks_keeps
    (fun count => (block count).map fun stored =>
      (Bytes.groups item.size count stored).map item.ofBlock)
    (fun count => readBytes_moves (Bytes.zeros (count * item.size)))
    (fun count => readBytes_moves (Bytes.zeros (count * item.size))) item.size length
  have limited := fun limits : Limits => (readLength_keeps limits.collection).andThen elements
  refine (Keeps.of_shared Akin.limits_eq limited).of_eq ?_ ?_
  · intro session reading
    rw [transferBlocks, reading]
  · intro session reading
    rw [transferBlocks, reading]

theorem transferUnits_keeps (count : Nat) :
    coupling.Keeps (fun session => session.transferUnits count)
      (fun session => session.transferUnits count) := by
  have counts : ∀ length, coupling.Keeps
      (inChunks 0 length
        (fun chunk count session => (count + chunk, (session.readBytes []).2)) 0 0 0)
      (inChunks 0 length
        (fun chunk count session => (count + chunk, (session.readBytes []).2)) 0 0 0) :=
    fun length => inChunks_keeps
      (fun chunk count : Nat => (readBytes_keeps []).map fun _ => count + chunk)
      (fun _ _ => readBytes_moves []) (fun _ _ => readBytes_moves []) 0 0 0
  have kept : ∀ count : Nat, coupling.Keeps
      (fun session => (if session.hasFailed then 0 else count, session))
      (fun session => (if session.hasFailed then 0 else count, session)) :=
    fun count => .tell fun akin => by rw [akin.hasFailed_eq]
  have limited := fun limits : Limits =>
    (readLength_keeps limits.collection).andThen fun length => (counts length).andThen kept
  refine (Keeps.of_shared Akin.limits_eq limited).of_eq ?_ ?_
  · intro session reading
    rw [transferUnits, reading]
  · intro session reading
    rw [transferUnits, reading]

/-- A number is taken for the variant that it represents, if there is one. -/
theorem judgeVariant_keeps (enumeration : Enumeration) (stored : Bytes) :
    coupling.Keeps
      (fun session =>
        match enumeration.ofRepr? (enumeration.scalar.decode stored) with
        | some found => (if session.hasFailed then enumeration.default else found, session)
        | none => (enumeration.default, session.fail
            (.invalidEnum enumeration.name
              (toString (enumeration.kind.toInt (enumeration.scalar.decode stored))))))
      (fun session =>
        match enumeration.ofRepr? (enumeration.scalar.decode stored) with
        | some found => (if session.hasFailed then enumeration.default else found, session)
        | none => (enumeration.default, session.fail
            (.invalidEnum enumeration.name
              (toString (enumeration.kind.toInt (enumeration.scalar.decode stored)))))) := by
  cases enumeration.ofRepr? (enumeration.scalar.decode stored) with
  | none => exact .refuse enumeration.default rfl
  | some found => exact .tell fun akin => by rw [akin.hasFailed_eq]

theorem transferVariant_keeps (enumeration : Enumeration) (variant : enumeration.Variant) :
    coupling.Keeps (fun session => session.transferVariant enumeration variant)
      (fun session => session.transferVariant enumeration variant) := by
  refine ((readBytes_keeps (enumeration.scalar.encode (enumeration.toRepr variant))).andThen
    (judgeVariant_keeps enumeration)).of_eq ?_ ?_
  · rintro ⟨⟩ rfl
    rfl
  · rintro ⟨⟩ rfl
    rfl

/-! ## Markers -/

theorem readMarker_keeps (expected : String) :
    coupling.Keeps (fun session => session.readMarker expected)
      (fun session => session.readMarker expected) := by
  have compared : ∀ found : SmallText markerCapacity, coupling.Keeps
      (fun session =>
        if session.hasFailed then
          (false, session)
        else if found.text = expected then
          (true, session)
        else
          (false, session.recordMismatch found.text expected))
      (fun session =>
        if session.hasFailed then
          (false, session)
        else if found.text = expected then
          (true, session)
        else
          (false, session.recordMismatch found.text expected)) := by
    intro found
    refine .unlessFailed false ?_ ?_ ?_
    · intro first second together sound
      split
      · exact Or.inr ⟨rfl, together⟩
      · exact Or.inr ⟨rfl, coupling.recordMismatch together sound found.text expected⟩
    · intro session sound
      split
      · exact .refl session
      · next differ => exact .single (.mismatch sound differ)
    · intro session sound
      split
      · exact .refl session
      · next differ => exact .single (.mismatch sound differ)
  exact (readSmallText_keeps markerCapacity).andThen compared

theorem marker_keeps (expected : String) :
    coupling.Keeps (fun session => session.marker expected)
      (fun session => session.marker expected) := by
  by_cases long : markerCapacity < expected.utf8ByteSize
  · refine (Keeps.succeed (.error .markerTooLong)).of_eq ?_ ?_
    · intro session _
      rw [marker, if_pos long]
    · intro session _
      rw [marker, if_pos long]
  · refine ((readMarker_keeps expected).map Except.ok).of_eq ?_ ?_
    · intro session reading
      rw [marker, if_neg long, reading]
    · intro session reading
      rw [marker, if_neg long, reading]

theorem checkText_keeps (found expected : String) :
    coupling.Keeps (fun session => session.checkText found expected)
      (fun session => session.checkText found expected) where
  agrees := by
    intro first second together
    have failures := (coupling.akin together).failure_eq
    cases failure : first.failure with
    | some failure' =>
        have failure_second := failures.symm.trans failure
        rw [checkText_of_failure failure, checkText_of_failure failure_second]
        exact Or.inr ⟨rfl, together⟩
    | none =>
        have sound_second := failures.symm.trans failure
        by_cases same : found = expected
        · rw [checkText_of_eq failure same, checkText_of_eq sound_second same]
          exact Or.inr ⟨rfl, together⟩
        · rw [checkText_of_ne failure same, checkText_of_ne sound_second same,
            coupling.position_eq together failure]
          exact Or.inr ⟨rfl, coupling.recordMismatch together failure found expected⟩
  reads := .of_moves (checkText_moves found expected)
  reads_second := .of_moves (checkText_moves found expected)

theorem expectMarker_keeps (expected : String) :
    coupling.Keeps (fun session => session.expectMarker expected)
      (fun session => session.expectMarker expected) := by
  by_cases long : markerCapacity < expected.utf8ByteSize
  · refine (Keeps.succeed (.error .markerTooLong)).of_eq ?_ ?_
    · intro session _
      rw [expectMarker, marker, if_pos long]
    · intro session _
      rw [expectMarker, marker, if_pos long]
  · have fits := Nat.le_of_not_lt long
    refine (((readSmallText_keeps markerCapacity).andThen fun found =>
      checkText_keeps found.text expected).map Except.ok).of_eq ?_ ?_
    · intro session reading
      exact expectMarker_of_reading reading fits
    · intro session reading
      exact expectMarker_of_reading reading fits

theorem lendText_keeps (text : String) :
    coupling.Keeps (fun session => session.lendText text)
      (fun session => session.lendText text) := by
  refine (Keeps.succeed (.error .textWhileReading)).of_eq ?_ ?_
  · intro session reading
    rw [lendText, reading]
  · intro session reading
    rw [lendText, reading]

end Session.Coupling

/-! ## Steps and routines -/

variable {σ τ : Type} [ByteStream σ] [ByteStream τ] {coupling : Session.Coupling σ τ}

open Session.Coupling

/-- Every step keeps every coupling. -/
theorem Step.run_keeps (step : Step) (given : step.Value) :
    coupling.Keeps (fun session => step.run given session)
      (fun session => step.run given session) := by
  cases step with
  | value layout => exact (transfer_keeps layout given).map (Reply.done, ·)
  | field layout gate => exact (transferField_keeps layout gate given).map (Reply.done, ·)
  | block layout plain => exact (transferBlock_keeps layout given).map (Reply.done, ·)
  | blocks item plain => exact (transferBlocks_keeps item given).map (Reply.done, ·)
  | units => exact (transferUnits_keeps given).map (Reply.done, ·)
  | bytes length => exact (transferBytes_keeps given).map (Reply.done, ·)
  | bytesField length gate =>
      refine ((transferBytesField_keeps gate given).map fun left =>
        (Reply.ofExcept (fun _ => .done) left.1, left.2)).of_eq ?_ ?_
      · intro session _
        exact run_bytesField gate given session
      · intro session _
        exact run_bytesField gate given session
  | variant enumeration => exact (transferVariant_keeps enumeration given).map (Reply.done, ·)
  | lend text =>
      refine ((lendText_keeps text).map fun answer =>
        (Reply.ofExcept (fun _ => .done) answer, ())).of_eq ?_ ?_
      · intro session _
        exact run_lend text given session
      · intro session _
        exact run_lend text given session
  | marker expected =>
      refine ((marker_keeps expected).map fun answer =>
        (Reply.ofExcept .matched answer, ())).of_eq ?_ ?_
      · intro session _
        exact run_marker expected given session
      · intro session _
        exact run_marker expected given session
  | expect expected =>
      refine ((expectMarker_keeps expected).map fun answer =>
        (Reply.ofExcept .checked answer, ())).of_eq ?_ ?_
      · intro session _
        exact run_expect expected given session
      · intro session _
        exact run_expect expected given session
  | invalidate reason => exact .refuse (Reply.done, ()) rfl
  | abandon reason => exact .succeed (Reply.checked (.error (.invalid reason)), ())

namespace Routine

/-- Behind a step, an attempt breaks off or goes on with the other steps. -/
theorem continue_keeps {step : Step} {steps : Routine} (rest : steps.Values)
    (others : coupling.Keeps (fun session => steps.attempt rest session)
      (fun session => steps.attempt rest session)) (outcome : Reply × step.Value) :
    coupling.Keeps
      (fun session =>
        match outcome.1.failure? with
        | some failure => ((Except.error failure, (outcome.2, rest)), session)
        | none =>
            (((steps.attempt rest session).1.1, (outcome.2, (steps.attempt rest session).1.2)),
              (steps.attempt rest session).2))
      (fun session =>
        match outcome.1.failure? with
        | some failure => ((Except.error failure, (outcome.2, rest)), session)
        | none =>
            (((steps.attempt rest session).1.1, (outcome.2, (steps.attempt rest session).1.2)),
              (steps.attempt rest session).2)) := by
  cases outcome.1.failure? with
  | some failure => exact .succeed (Except.error failure, (outcome.2, rest))
  | none => exact others.map fun left => (left.1, (outcome.2, left.2))

/-- An attempt keeps every coupling: until the sessions part, both go the same way. -/
theorem attempt_keeps (routine : Routine) (given : routine.Values) :
    coupling.Keeps (fun session => routine.attempt given session)
      (fun session => routine.attempt given session) := by
  induction routine with
  | nil => exact .succeed (Except.ok (), ())
  | cons step steps ih =>
      exact (step.run_keeps given.1).andThen (continue_keeps given.2 (ih given.2))

/-- A step behind which the sessions cannot have parted leaves the same value in both. -/
theorem valueAt_attempt_of_together {routine : Routine} {given : routine.Values}
    {first : Session σ} {second : Session τ} (together : coupling.Together first second)
    (done : (routine.attempt given first).1.1 = .ok ()) (index : Fin routine.length)
    (joint : ∀ other, ¬coupling.Parted (routine.after given (index + 1) first) other) :
    routine.valueAt (routine.attempt given first).1.2 index =
      routine.valueAt (routine.attempt given second).1.2 index := by
  induction routine generalizing first second with
  | nil => exact index.elim0
  | cons step steps ih =>
      rcases (step.run_keeps given.1).agrees together with parted | ⟨same, still⟩
      · have reading := (coupling.akin together).reading
        have moves := after_moves steps given.2 index (step.run given.1 first).2
        rw [(step.run_moves given.1 first).settings.1, reading] at moves
        exact absurd (coupling.parted_moves parted moves (.refl _)) (joint _)
      · cases reply : (step.run given.1 first).1.1.failure? with
        | some failure =>
            rw [attempt_cons_of_failure reply] at done
            cases done
        | none =>
            have reply' := reply
            rw [same] at reply'
            rw [attempt_cons_of_none reply] at done ⊢
            rw [attempt_cons_of_none reply']
            obtain ⟨index, inside⟩ := index
            cases index with
            | zero => exact congrArg Prod.snd same
            | succ index =>
                exact ih still done ⟨index, Nat.lt_of_succ_lt_succ inside⟩ joint

end Routine

/-! ## Sessions that never part -/

section NeverParted

variable {first : Session σ} {second : Session τ}

/-- A step answers the same in both sessions and leaves them together. -/
theorem Step.agrees_of_together (never : ∀ first second, ¬coupling.Parted first second)
    (together : coupling.Together first second) (step : Step) (given : step.Value) :
    (step.run given first).1 = (step.run given second).1 ∧
      coupling.Together (step.run given first).2 (step.run given second).2 := by
  rcases (step.run_keeps given).agrees together with parted | agree
  · exact absurd parted (never _ _)
  · exact agree

namespace Routine

/-- Behind any number of steps the sessions are still together. -/
theorem together_after (never : ∀ first second, ¬coupling.Parted first second)
    (together : coupling.Together first second) (routine : Routine) (given : routine.Values)
    (count : Nat) :
    coupling.Together (routine.after given count first) (routine.after given count second) := by
  induction routine generalizing count first second with
  | nil => cases count <;> exact together
  | cons step steps ih =>
      cases count with
      | zero => exact together
      | succ count => exact ih (step.agrees_of_together never together given.1).2 given.2 count

/-- Every step answers the same in both sessions and leaves the same value. -/
theorem answers_eq_of_together (never : ∀ first second, ¬coupling.Parted first second)
    (together : coupling.Together first second) (routine : Routine) (given : routine.Values) :
    (routine.run given first).1 = (routine.run given second).1 := by
  induction routine generalizing first second with
  | nil => rfl
  | cons step steps ih =>
      obtain ⟨same, still⟩ := step.agrees_of_together never together given.1
      have rest := ih still given.2
      rw [run_cons, run_cons]
      dsimp only
      rw [same, rest]

end Routine

end NeverParted

end Snapshot
