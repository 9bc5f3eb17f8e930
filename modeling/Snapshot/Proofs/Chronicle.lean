import Snapshot.Proofs.Output
import Snapshot.Stream.Memory

/-!
# The chronicle of a session

Whatever is done with a session is written down use by use, with the session that each use
found.  From the chronicle alone it can be told which failure came first and which markers
differed, and the session keeps to it: its failure, its latest mismatch, the errors in its
log and its outcome all tell the same story.
-/

namespace Snapshot

/-- Whether a reply says that a marker was not accepted. -/
def Reply.isRejection : Reply → Bool
  | .matched accepted => !accepted
  | .checked (.error _) => true
  | _ => false

/-- What can be done with an open session: a step with a value of its own, or something
with the stream that the session has no part in. -/
inductive Use (σ : Type) where
  | step (step : Step) (given : step.Value)
  | stream (act : σ → σ)

variable {σ : Type}

/-- The marker that a use writes or reads. -/
def Use.marker? : Use σ → Option String
  | .step (.marker expected) _ => some expected
  | .step (.expect expected) _ => some expected
  | .step _ _ => none
  | .stream _ => none

variable [ByteStream σ]

/-- Carries out a use. -/
def Use.run : Use σ → Session σ → Reply × Session σ
  | .step taken given, session => ((taken.run given session).1.1, (taken.run given session).2)
  | .stream act, session => (.done, (session.withStream fun stream => ((), act stream)).2)

/-- What there is to record of a marker: that something else was found, if the marker was
rejected and the session behind it is sound. -/
def Session.difference? (rejected : Bool) (found expected : String) (after : Session σ) :
    Option Mismatch :=
  if rejected = true ∧ after.failure = none then
    some ⟨after.position, found, expected⟩
  else
    none

/-- One use in a chronicle, with the session that it found. -/
structure Entry (σ : Type) where
  use : Use σ
  before : Session σ

namespace Entry

/-- What the use answered. -/
def reply (entry : Entry σ) : Reply :=
  (entry.use.run entry.before).1

/-- The session behind the use. -/
def after (entry : Entry σ) : Session σ :=
  (entry.use.run entry.before).2

/-- The failure that the use brought about in a session that had none. -/
def failure? (entry : Entry σ) : Option Failure :=
  match entry.before.failure with
  | none => entry.after.failure
  | some _ => none

/-- What the use found in place of its marker, if it is a marker that was rejected by a
sound session. -/
def mismatch? (entry : Entry σ) : Option Mismatch :=
  entry.use.marker?.bind fun expected =>
    entry.after.difference? entry.reply.isRejection
      (entry.before.readSmallText markerCapacity).1.text expected

/-- A checked marker is accepted as a marker is.  The reason for which it is not accepted is
the failure of the session, or else what this very check found. -/
structure ChecksMarker (entry : Entry σ) (expected : String) : Prop where
  accepted : entry.reply = .checked (.ok ()) ↔ (entry.before.marker expected).1 = .ok true
  after_eq : entry.after = (entry.before.marker expected).2
  rejected : ∀ failure, entry.reply = .checked (.error failure) →
    (entry.before.marker expected).1 = .ok false ∧
      (entry.after.failure = some failure ∨
        entry.after.failure = none ∧ ∃ found,
          entry.mismatch? = some ⟨entry.after.position, found, expected⟩ ∧
            failure = .markerMismatch ⟨entry.after.position, found, expected⟩)

end Entry

namespace Session

/-- The session behind a series of uses. -/
def behind (uses : List (Use σ)) (session : Session σ) : Session σ :=
  uses.foldl (fun session use => (use.run session).2) session

/-- What was done with a session, use by use. -/
def chronicle : List (Use σ) → Session σ → List (Entry σ)
  | [], _ => []
  | use :: uses, session => ⟨use, session⟩ :: chronicle uses (use.run session).2

omit [ByteStream σ] in
/-- The errors in the log. -/
def errors (session : Session σ) : List Event :=
  session.log.toList.filter fun event => event.severity = .error

theorem Fails.failure_eq {mode : Mode} {session next : Session σ} {failure : Failure}
    (fails : Fails mode session failure next) : next.failure = some failure := by
  cases fails with
  | fault transferred => rfl
  | refusal other => rfl

/-! ## Errors in the log -/

omit [ByteStream σ] in
theorem errors_report (event : Event) (session : Session σ) :
    (session.report event).errors =
      session.errors ++ [event].filter fun event => event.severity = .error := by
  simp [errors, report]

theorem errors_recordMismatch (found expected : String) (session : Session σ) :
    (session.recordMismatch found expected).errors =
      session.errors ++ [.markerMismatch ⟨session.position, found, expected⟩] :=
  errors_report _ session

/-- Where no marker is read, no error is logged. -/
theorem Moves.errors_eq {mode : Mode} {first last : Session σ}
    (moves : Moves false mode first last) : last.errors = first.errors := by
  induction moves with
  | refl => rfl
  | @tail middle _ before move ih =>
      cases move with
      | transfer sound transferred => exact ih
      | fail sound failed =>
          cases failed with
          | fault transferred => exact ih
          | refusal other => exact ih
      | truncate sound length capacity =>
          rw [errors_report, ih]
          exact List.append_nil _

/-- What a marker leaves behind where it is not accepted and the session is sound. -/
structure RecordsOnly (mismatch : Option Mismatch) (before after : Session σ) : Prop where
  mismatch_eq : after.mismatch = mismatch.or before.mismatch
  errors_eq : after.errors = before.errors ++ mismatch.toList.map .markerMismatch

omit [ByteStream σ] in
theorem RecordsOnly.none_of_eq {before after : Session σ}
    (mismatch_eq : after.mismatch = before.mismatch) (errors_eq : after.errors = before.errors) :
    RecordsOnly none before after :=
  ⟨mismatch_eq, errors_eq.trans (List.append_nil _).symm⟩

theorem Moves.recordsNothing {mode : Mode} {first last : Session σ}
    (moves : Moves false mode first last) : RecordsOnly none first last :=
  .none_of_eq moves.mismatch_eq moves.errors_eq

/-- Reading a marker records a mismatch exactly where it rejects the marker and the session is
sound. -/
theorem readMarker_records (expected : String) (session : Session σ) :
    RecordsOnly
      ((session.readMarker expected).2.difference? (!(session.readMarker expected).1)
        (session.readSmallText markerCapacity).1.text expected)
      session (session.readMarker expected).2 := by
  have front := (readSmallText_moves markerCapacity session).recordsNothing
  unfold readMarker difference?
  dsimp only
  split
  · next failed =>
      have unsound : (session.readSmallText markerCapacity).2.failure ≠ none := by
        intro sound
        simp [hasFailed, sound] at failed
      rw [if_neg fun both => unsound both.2]
      exact front
  · next unfailed =>
      split
      · exact front
      · next differ =>
          have sound : (session.readSmallText markerCapacity).2.failure = none := by
            simpa using unfailed
          have errors := errors_recordMismatch (session.readSmallText markerCapacity).1.text
            expected (session.readSmallText markerCapacity).2
          rw [(readSmallText_moves markerCapacity session).errors_eq] at errors
          rw [if_pos ⟨rfl, sound⟩]
          exact ⟨rfl, errors⟩

/-- A marker records a mismatch exactly where it is rejected and the session is sound. -/
theorem marker_records (expected : String) (session : Session σ) :
    RecordsOnly
      ((session.marker expected).2.difference?
        (Reply.ofExcept .matched (session.marker expected).1).isRejection
        (session.readSmallText markerCapacity).1.text expected)
      session (session.marker expected).2 := by
  unfold marker
  split
  · exact .none_of_eq rfl rfl
  · cases session.mode with
    | write =>
        -- A marker that is written and rejected has failed the session.
        have written := (writeText_moves expected session).recordsNothing
        dsimp only [writeMarker, Reply.ofExcept, Reply.isRejection, difference?]
        split
        · next both => simp [hasFailed, both.2] at both
        · exact written
    | read => exact readMarker_records expected session

end Session

/-! ## Entries -/

/-- Checking a marker answers as the marker does. -/
theorem Session.expectMarker_answer (expected : String) (session : Session σ) :
    (session.expectMarker expected).1 =
      match (session.marker expected).1 with
      | .error misuse => .error misuse
      | .ok true => .ok (.ok ())
      | .ok false => .ok (.error (session.marker expected).2.markerFailure) := by
  unfold expectMarker
  cases outcome : session.marker expected with
  | mk answer next =>
      cases answer with
      | error misuse => rfl
      | ok accepted => cases accepted <;> rfl

namespace Entry

theorem run_of_expect {entry : Entry σ} {expected : String} {given : Unit}
    (checks : entry.use = .step (.expect expected) given) :
    entry.reply = .ofExcept .checked (entry.before.expectMarker expected).1 ∧
      entry.after = (entry.before.marker expected).2 := by
  rw [reply, after, checks]
  dsimp only [Use.run]
  rw [Step.run_expect, Session.expectMarker_next]
  exact ⟨rfl, rfl⟩

theorem isRejection_of_expect {entry : Entry σ} {expected : String} {given : Unit}
    (checks : entry.use = .step (.expect expected) given) :
    entry.reply.isRejection =
      (Reply.ofExcept .matched (entry.before.marker expected).1).isRejection := by
  rw [(run_of_expect checks).1, Session.expectMarker_answer]
  cases (entry.before.marker expected).1 with
  | error misuse => rfl
  | ok accepted => cases accepted <;> rfl

theorem mismatch?_of_expect {entry : Entry σ} {expected : String} {given : Unit}
    (checks : entry.use = .step (.expect expected) given) :
    entry.mismatch? = (entry.before.marker expected).2.difference?
      (Reply.ofExcept .matched (entry.before.marker expected).1).isRejection
      (entry.before.readSmallText markerCapacity).1.text expected := by
  rw [mismatch?, isRejection_of_expect checks, (run_of_expect checks).2, checks]
  rfl

/-- A use records what it found in place of its marker, and nothing else. -/
theorem records (entry : Entry σ) : Session.RecordsOnly entry.mismatch? entry.before entry.after := by
  obtain ⟨use, before⟩ := entry
  cases use with
  | stream act => exact .none_of_eq rfl rfl
  | step taken given =>
      have moves := taken.run_moves given before
      cases taken with
      | marker expected =>
          have recorded := Session.marker_records expected before
          rw [mismatch?, reply, after]
          dsimp only [Use.run, Use.marker?]
          rw [Step.run_marker]
          exact recorded
      | expect expected =>
          rw [mismatch?_of_expect rfl, (run_of_expect rfl).2]
          exact Session.marker_records expected before
      | _ => exact moves.recordsNothing

/-- A use keeps the failure that the session has. -/
theorem failure_eq (entry : Entry σ) :
    entry.after.failure = entry.before.failure.or entry.failure? := by
  unfold failure?
  cases failed : entry.before.failure with
  | none => rfl
  | some failure =>
      obtain ⟨use, before⟩ := entry
      cases use with
      | stream act => exact failed
      | step taken given =>
          have stays := (taken.run_moves given before).eq_of_hasFailed
            (Session.hasFailed_of_failure failed)
          exact (congrArg Session.failure stays).trans failed

/-- A use brings about a failure exactly where its last move fails. -/
theorem failure?_eq_some_iff {entry : Entry σ} {failure : Failure} :
    entry.failure? = some failure ↔
      ∃ middle, Session.Moves true entry.before.mode entry.before middle ∧
        middle.failure = none ∧ Session.Fails entry.before.mode middle failure entry.after := by
  constructor
  · intro failed
    unfold failure? at failed
    split at failed
    · next sound =>
        obtain ⟨use, before⟩ := entry
        cases use with
        | stream act =>
            have still : (after ⟨.stream act, before⟩).failure = none := sound
            rw [still] at failed
            cases failed
        | step taken given =>
            exact (taken.run_moves given before).weaken.exists_fails sound failed
    · cases failed
  · rintro ⟨middle, moves, sound, fails⟩
    rw [failure?, moves.sound_before sound]
    exact fails.failure_eq

/-- A step that fails the session for a reason of the caller's own does so. -/
theorem failure?_of_invalidate {entry : Entry σ} {reason : String} {given : Unit}
    (invalidates : entry.use = .step (.invalidate reason) given)
    (sound : entry.before.failure = none) : entry.failure? = some (.invalid reason) := by
  rw [failure?, sound, after, invalidates]
  dsimp only [Use.run, Step.run, Session.invalidate, Session.fail]
  rw [sound]
  rfl

/-- A sound session records no mismatch exactly where the marker was not rejected. -/
theorem mismatch?_eq_none_iff {entry : Entry σ} (sound : entry.after.failure = none) :
    entry.mismatch? = none ↔
      (entry.use.marker?.isSome = true → entry.reply.isRejection = false) := by
  unfold mismatch? Session.difference?
  cases entry.use.marker? with
  | none => simp
  | some expected => simp [sound]

theorem checksMarker {entry : Entry σ} {expected : String} {given : Unit}
    (checks : entry.use = .step (.expect expected) given) : entry.ChecksMarker expected where
  accepted := by
    rw [(run_of_expect checks).1, Session.expectMarker_answer]
    cases (entry.before.marker expected).1 with
    | error misuse => simp [Reply.ofExcept]
    | ok accepted => cases accepted <;> simp [Reply.ofExcept]
  after_eq := (run_of_expect checks).2
  rejected := by
    intro failure replied
    have recorded := entry.records.mismatch_eq
    rw [(run_of_expect checks).1, Session.expectMarker_answer] at replied
    cases answer : (entry.before.marker expected).1 with
    | error misuse =>
        rw [answer] at replied
        cases replied
    | ok accepted =>
        cases accepted with
        | true =>
            rw [answer] at replied
            cases replied
        | false =>
            refine ⟨rfl, ?_⟩
            rw [answer] at replied
            dsimp only [Reply.ofExcept] at replied
            rw [← (run_of_expect checks).2, Session.markerFailure] at replied
            cases failed : entry.after.failure with
            | some first =>
                rw [failed] at replied
                cases replied
                exact Or.inl rfl
            | none =>
                have found : entry.mismatch? = some ⟨entry.after.position,
                    (entry.before.readSmallText markerCapacity).1.text, expected⟩ := by
                  rw [mismatch?_of_expect checks, answer, ← (run_of_expect checks).2,
                    Session.difference?, if_pos ⟨rfl, failed⟩]
                rw [recorded, found, failed] at replied
                cases replied
                exact Or.inr ⟨rfl, _, found, rfl⟩

end Entry

/-! ## The whole chronicle -/

namespace Session

theorem behind_cons (use : Use σ) (uses : List (Use σ)) (session : Session σ) :
    session.behind (use :: uses) = (Entry.after ⟨use, session⟩).behind uses :=
  rfl

theorem chronicle_cons (use : Use σ) (uses : List (Use σ)) (session : Session σ) :
    session.chronicle (use :: uses) =
      ⟨use, session⟩ :: (Entry.after ⟨use, session⟩).chronicle uses :=
  rfl

theorem chronicle_uses (uses : List (Use σ)) (session : Session σ) :
    (session.chronicle uses).map Entry.use = uses := by
  induction uses generalizing session with
  | nil => rfl
  | cons use uses ih => rw [chronicle_cons, List.map_cons, ih]

/-- The failure on record is that of before, or else the first in the chronicle. -/
theorem behind_failure (uses : List (Use σ)) (session : Session σ) :
    (session.behind uses).failure =
      session.failure.or ((session.chronicle uses).filterMap Entry.failure?).head? := by
  induction uses generalizing session with
  | nil => simp [behind, chronicle]
  | cons use uses ih =>
      rw [behind_cons, ih, Entry.failure_eq, Option.or_assoc, chronicle_cons, List.filterMap_cons]
      cases Entry.failure? ⟨use, session⟩ <;> rfl

/-- The errors in the log grow by the mismatches of the chronicle, and the latest mismatch is
the last of them. -/
theorem behind_records (uses : List (Use σ)) (session : Session σ) :
    (session.behind uses).errors =
        session.errors ++
          ((session.chronicle uses).filterMap Entry.mismatch?).map .markerMismatch ∧
      (session.behind uses).mismatch =
        ((session.chronicle uses).filterMap Entry.mismatch?).getLast?.or session.mismatch := by
  induction uses generalizing session with
  | nil => simp [behind, chronicle]
  | cons use uses ih =>
      have first := Entry.records ⟨use, session⟩
      obtain ⟨errors, mismatch⟩ := ih (Entry.after ⟨use, session⟩)
      rw [first.errors_eq] at errors
      rw [first.mismatch_eq] at mismatch
      rw [behind_cons, chronicle_cons, List.filterMap_cons, errors, mismatch]
      cases Entry.mismatch? ⟨use, session⟩ with
      | none => exact ⟨by simp, rfl⟩
      | some found => exact ⟨by simp, by simp [List.getLast?_cons]⟩

/-- As long as no use brings about a failure, the session is sound. -/
theorem sound_of_chronicle {uses : List (Use σ)} {session : Session σ}
    (sound : session.failure = none)
    (unfailed : ∀ entry ∈ session.chronicle uses, entry.failure? = none) :
    ∀ entry ∈ session.chronicle uses,
      entry.before.failure = none ∧ entry.after.failure = none := by
  induction uses generalizing session with
  | nil => exact fun entry inside => absurd inside List.not_mem_nil
  | cons use uses ih =>
      rw [chronicle_cons] at unfailed ⊢
      obtain ⟨first, later⟩ := List.forall_mem_cons.mp unfailed
      have still : (Entry.after ⟨use, session⟩).failure = none := by
        rw [Entry.failure_eq, first, sound]
        rfl
      exact List.forall_mem_cons.mpr ⟨⟨sound, still⟩, ih still later⟩

/-- A session that writes logs nothing whatever is done with it. -/
theorem behind_quiet {session : Session σ} (writing : session.mode = .write)
    (uses : List (Use σ)) :
    (session.behind uses).mismatch = session.mismatch ∧
      (session.behind uses).log = session.log := by
  induction uses generalizing session with
  | nil => exact ⟨rfl, rfl⟩
  | cons use uses ih =>
      rw [behind_cons]
      cases use with
      | stream act => exact ih writing
      | step taken given =>
          have moves := taken.run_moves given session
          have kept := moves.settings.1
          rw [writing] at moves
          obtain ⟨mismatch, log⟩ := ih (kept.trans writing)
          exact ⟨mismatch.trans moves.quiet.1, log.trans moves.quiet.2⟩

/-- What a session shows agrees with what was done with it. -/
structure TellsOneStory (uses : List (Use σ)) (session : Session σ) : Prop where
  /-- The failure on record is the first that a use brought about. -/
  failure_eq : (session.behind uses).failure =
    ((session.chronicle uses).filterMap Entry.failure?).head?
  /-- A use brings about a failure exactly where it ends with a move that fails. -/
  fails_iff : ∀ entry ∈ session.chronicle uses, ∀ failure, entry.failure? = some failure ↔
    ∃ middle, Moves true entry.before.mode entry.before middle ∧ middle.failure = none ∧
      Fails entry.before.mode middle failure entry.after
  /-- There is one error in the log for each mismatch, and no other. -/
  errors_eq : (session.behind uses).errors =
    ((session.chronicle uses).filterMap Entry.mismatch?).map .markerMismatch
  /-- The latest mismatch is the content of the last error. -/
  mismatch_eq : (session.behind uses).mismatch.map .markerMismatch =
    (session.behind uses).errors.getLast?
  /-- The outcome is good exactly where nothing failed, the caller did not fail the session
  and no marker was rejected. -/
  finish_ok_iff : (session.behind uses).finish = .ok () ↔
    (∀ entry ∈ session.chronicle uses, entry.failure? = none) ∧
      (∀ reason, .step (.invalidate reason) () ∉ uses) ∧
      ∀ entry ∈ session.chronicle uses, entry.use.marker?.isSome = true →
        entry.reply.isRejection = false
  /-- Otherwise it is the first failure, or else the mismatch of the last marker that
  differed. -/
  finish_eq : (session.behind uses).finish =
    match ((session.chronicle uses).filterMap Entry.failure?).head?,
      ((session.chronicle uses).filterMap Entry.mismatch?).getLast? with
    | some failure, _ => .error failure
    | none, some mismatch => .error (.markerMismatch mismatch)
    | none, none => .ok ()
  /-- A session that writes has no mismatch and logs no error. -/
  quiet : session.mode = .write →
    (session.behind uses).mismatch = none ∧ (session.behind uses).errors = []
  /-- Every check of a marker answers for itself. -/
  checks : ∀ entry ∈ session.chronicle uses, ∀ expected,
    entry.use = .step (.expect expected) () → entry.ChecksMarker expected

omit [ByteStream σ] in
theorem finish_eq_ok_iff {session : Session σ} :
    session.finish = .ok () ↔ session.failure = none ∧ session.mismatch = none := by
  unfold finish
  split
  · next failed => simp [failed]
  · next sound differs => simp [differs]
  · next sound unmarked => simp [sound, unmarked]

/-- The outcome is good exactly where nothing failed, the caller did not fail the session and
no marker was rejected. -/
theorem finish_ok_iff_chronicle {session : Session σ} (sound : session.failure = none)
    (unmarked : session.mismatch = none) (uses : List (Use σ)) :
    (session.behind uses).finish = .ok () ↔
      (∀ entry ∈ session.chronicle uses, entry.failure? = none) ∧
        (∀ reason, .step (.invalidate reason) () ∉ uses) ∧
        ∀ entry ∈ session.chronicle uses, entry.use.marker?.isSome = true →
          entry.reply.isRejection = false := by
  rw [finish_eq_ok_iff, behind_failure, (behind_records uses session).2, sound, unmarked,
    Option.none_or, Option.or_none, List.head?_eq_none_iff, List.getLast?_eq_none_iff,
    List.filterMap_eq_nil_iff, List.filterMap_eq_nil_iff]
  constructor
  · rintro ⟨unfailed, undiffering⟩
    have sessions := sound_of_chronicle sound unfailed
    refine ⟨unfailed, ?_, ?_⟩
    · intro reason asked
      rw [← chronicle_uses uses session] at asked
      obtain ⟨entry, inside, use⟩ := List.mem_map.mp asked
      have refused := Entry.failure?_of_invalidate use (sessions entry inside).1
      rw [unfailed entry inside] at refused
      cases refused
    · intro entry inside
      exact (Entry.mismatch?_eq_none_iff (sessions entry inside).2).mp (undiffering entry inside)
  · rintro ⟨unfailed, _, accepted⟩
    have sessions := sound_of_chronicle sound unfailed
    refine ⟨unfailed, ?_⟩
    intro entry inside
    exact (Entry.mismatch?_eq_none_iff (sessions entry inside).2).mpr (accepted entry inside)

/-- Outcome, failure, mismatch and log agree.  Whatever is done with a session, in either mode
and over any stream, the failure on record is the first that came about, the errors in the log
are the mismatches of the markers that were rejected, and the latest mismatch is the last of
them.  The session ends well exactly where nothing failed and no marker was rejected, and with
the first failure or else the latest mismatch otherwise.  A check of a marker answers as the
marker does, and where it does not accept it gives the failure of the session or its own
mismatch. -/
theorem outcome_and_log_agree (uses : List (Use σ)) (allocator : Allocator) (stream : σ)
    (mode : Mode) (version : UInt32) (limits : Limits) :
    (start allocator stream mode version limits).TellsOneStory uses := by
  have failure := behind_failure uses (start allocator stream mode version limits)
  obtain ⟨errors, mismatch⟩ := behind_records uses (start allocator stream mode version limits)
  rw [show (start allocator stream mode version limits).failure = none from rfl,
    Option.none_or] at failure
  rw [show (start allocator stream mode version limits).errors = [] from rfl,
    List.nil_append] at errors
  rw [show (start allocator stream mode version limits).mismatch = none from rfl,
    Option.or_none] at mismatch
  constructor
  · exact failure
  · exact fun entry _ failure => Entry.failure?_eq_some_iff
  · exact errors
  · rw [errors, mismatch, List.getLast?_map]
  · exact finish_ok_iff_chronicle rfl rfl uses
  · rw [← failure, ← mismatch]
    rfl
  · intro writing
    obtain ⟨unmarked, log⟩ := behind_quiet writing uses
    exact ⟨unmarked, by rw [Session.errors, log]; rfl⟩
  · exact fun entry _ expected use => Entry.checksMarker use

/-- Two markers in a row are rejected, the second one by a check: there are two errors in the
log, and the session ends with the mismatch of the second. -/
theorem outcome_and_log_agree_after_two_mismatches :
    let session := start .unbounded (Memory.ofBytes [2, 0, 0, 0, 65, 66]) .read 1 .standard
    let uses := [.step (.marker "AB") (), .stream Memory.rewind, .step (.marker "A") (),
      .stream Memory.rewind, .step (.expect "XY") ()]
    (session.behind uses).errors =
        [.markerMismatch ⟨6, "AB", "A"⟩, .markerMismatch ⟨6, "AB", "XY"⟩] ∧
      (session.behind uses).finish = .error (.markerMismatch ⟨6, "AB", "XY"⟩) := by
  intro session uses
  have story := outcome_and_log_agree uses .unbounded (Memory.ofBytes [2, 0, 0, 0, 65, 66]) .read 1
    .standard
  have unfailed : (session.chronicle uses).filterMap Entry.failure? = [] := by
    decide +kernel
  have mismatches : (session.chronicle uses).filterMap Entry.mismatch? =
      [⟨6, "AB", "A"⟩, ⟨6, "AB", "XY"⟩] := by
    decide +kernel
  refine ⟨story.errors_eq.trans ?_, story.finish_eq.trans ?_⟩
  · rw [mismatches]
    rfl
  · rw [unfailed, mismatches]
    rfl

end Session

end Snapshot
