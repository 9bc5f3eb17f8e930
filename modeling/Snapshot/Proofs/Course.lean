import Snapshot.Proofs.Moves

/-!
# The course of a routine

What a routine does is told step by step: the session behind the first steps, and the
value that each step leaves.  From any point of its course a routine moves on to its end.
A routine that is attempted and breaks off nowhere has run.
-/

namespace Snapshot

namespace Routine

/-- The value of one step. -/
def valueAt : (routine : Routine) → routine.Values → (index : Fin routine.length) →
    (routine.get index).Value
  | _ :: _, (given, _), ⟨0, _⟩ => given
  | _ :: steps, (_, rest), ⟨index + 1, inside⟩ =>
      valueAt steps rest ⟨index, Nat.lt_of_succ_lt_succ inside⟩

variable {σ : Type} [ByteStream σ] {session : Session σ}

theorem run_cons (step : Step) (steps : Routine) (given : Values (step :: steps))
    (session : Session σ) :
    run (step :: steps) given session =
      (((step.run given.1 session).1.1 :: (run steps given.2 (step.run given.1 session).2).1.1,
        ((step.run given.1 session).1.2, (run steps given.2 (step.run given.1 session).2).1.2)),
        (run steps given.2 (step.run given.1 session).2).2) :=
  rfl

/-- The session behind the first `count` steps. -/
def after : (routine : Routine) → routine.Values → Nat → Session σ → Session σ
  | _, _, 0, session => session
  | [], _, _ + 1, session => session
  | step :: steps, (given, rest), count + 1, session =>
      after steps rest count (step.run given session).2

theorem after_length (routine : Routine) (given : routine.Values) (session : Session σ) :
    routine.after given routine.length session = (routine.run given session).2 := by
  induction routine generalizing session with
  | nil => rfl
  | cons step steps ih => exact ih given.2 _

theorem after_moves (routine : Routine) (given : routine.Values) (count : Nat)
    (session : Session σ) :
    Session.Moves true session.mode session (routine.after given count session) := by
  induction routine generalizing count session with
  | nil => cases count <;> exact .refl session
  | cons step steps ih =>
      cases count with
      | zero => exact .refl session
      | succ count =>
          have front := (step.run_moves given.1 session).weaken
          have back := ih given.2 count (step.run given.1 session).2
          rw [front.settings.1] at back
          exact front.trans back

/-- From any point of its course a routine moves on to its end. -/
theorem after_moves_run (routine : Routine) (given : routine.Values) (count : Nat)
    (session : Session σ) :
    Session.Moves true session.mode (routine.after given count session)
      (routine.run given session).2 := by
  induction routine generalizing count session with
  | nil => cases count <;> exact .refl session
  | cons step steps ih =>
      cases count with
      | zero => exact run_moves (step :: steps) given session
      | succ count =>
          have back := ih given.2 count (step.run given.1 session).2
          rw [(step.run_moves given.1 session).settings.1] at back
          exact back

/-- A routine moves on from any point of its course to any later one. -/
theorem after_moves_after (routine : Routine) (given : routine.Values) {early late : Nat}
    (ordered : early ≤ late) (session : Session σ) :
    Session.Moves true session.mode (routine.after given early session)
      (routine.after given late session) := by
  induction routine generalizing early late session with
  | nil => cases early <;> cases late <;> exact .refl session
  | cons step steps ih =>
      cases early with
      | zero => exact after_moves (step :: steps) given late session
      | succ early =>
          cases late with
          | zero => exact absurd ordered (Nat.not_succ_le_zero early)
          | succ late =>
              have back := ih given.2 (Nat.le_of_succ_le_succ ordered) (step.run given.1 session).2
              rw [(step.run_moves given.1 session).settings.1] at back
              exact back

/-- Behind one step more stands what that step makes of the session. -/
theorem after_succ (routine : Routine) (given : routine.Values) (index : Fin routine.length)
    (session : Session σ) :
    routine.after given (index.val + 1) session =
      ((routine.get index).run (routine.valueAt given index)
        (routine.after given index.val session)).2 := by
  induction routine generalizing session with
  | nil => exact index.elim0
  | cons step steps ih =>
      obtain ⟨index, inside⟩ := index
      cases index with
      | zero => cases steps <;> rfl
      | succ index => exact ih given.2 ⟨index, Nat.lt_of_succ_lt_succ inside⟩ _

/-! ## Attempts -/

theorem attempt_cons_of_failure {step : Step} {steps : Routine} {given : Values (step :: steps)}
    {failure : Failure} (failed : (step.run given.1 session).1.1.failure? = some failure) :
    attempt (step :: steps) given session =
      ((.error failure, ((step.run given.1 session).1.2, given.2)),
        (step.run given.1 session).2) := by
  simp only [attempt, failed]

theorem attempt_cons_of_none {step : Step} {steps : Routine} {given : Values (step :: steps)}
    (passed : (step.run given.1 session).1.1.failure? = none) :
    attempt (step :: steps) given session =
      (((attempt steps given.2 (step.run given.1 session).2).1.1,
        ((step.run given.1 session).1.2,
          (attempt steps given.2 (step.run given.1 session).2).1.2)),
        (attempt steps given.2 (step.run given.1 session).2).2) := by
  simp only [attempt, passed]

theorem attempt_moves (routine : Routine) (given : routine.Values) (session : Session σ) :
    Session.Moves true session.mode session (routine.attempt given session).2 := by
  induction routine generalizing session with
  | nil => exact .refl session
  | cons step steps ih =>
      have front := (step.run_moves given.1 session).weaken
      cases answer : (step.run given.1 session).1.1.failure? with
      | some failure =>
          rw [attempt_cons_of_failure answer]
          exact front
      | none =>
          have back := ih given.2 (step.run given.1 session).2
          rw [front.settings.1] at back
          rw [attempt_cons_of_none answer]
          exact front.trans back

/-- An attempt that does not break off goes through the whole routine. -/
theorem attempt_eq_run {routine : Routine} {given : routine.Values} {session : Session σ}
    (done : (routine.attempt given session).1.1 = .ok ()) :
    routine.attempt given session =
      ((.ok (), (routine.run given session).1.2), (routine.run given session).2) := by
  induction routine generalizing session with
  | nil => rfl
  | cons step steps ih =>
      cases answer : (step.run given.1 session).1.1.failure? with
      | some failure =>
          rw [attempt_cons_of_failure answer] at done
          cases done
      | none =>
          rw [attempt_cons_of_none answer] at done ⊢
          rw [ih done]
          rfl

end Routine

/-- A step that answers with a failure answers with that of its session, unless it abandons
the routine. -/
theorem Step.failure_of_reply {σ : Type} [ByteStream σ] {step : Step} {given : step.Value}
    {session : Session σ} {answer failure : Failure}
    (answered : (step.run given session).1.1.failure? = some answer)
    (failed : (step.run given session).2.failure = some failure)
    (lasting : ∀ reason, step ≠ .abandon reason) : answer = failure := by
  cases step with
  | expect expected =>
      rw [run_expect] at answered failed
      unfold Session.expectMarker at answered failed
      split at answered
      · cases answered
      · cases answered
      · next _ closed marked =>
          rw [marked] at failed
          cases answered
          have known : closed.failure = some failure := failed
          rw [Session.markerFailure, known]
  | bytesField length gate =>
      rw [run_bytesField] at answered
      cases outcome : (session.transferBytesField gate given).1.1 with
      | ok value => rw [outcome] at answered; cases answered
      | error misuse => rw [outcome] at answered; cases answered
  | lend text =>
      rw [run_lend] at answered
      cases outcome : (session.lendText text).1 with
      | ok value => rw [outcome] at answered; cases answered
      | error misuse => rw [outcome] at answered; cases answered
  | marker expected =>
      rw [run_marker] at answered
      cases outcome : (session.marker expected).1 with
      | ok accepted => rw [outcome] at answered; cases answered
      | error misuse => rw [outcome] at answered; cases answered
  | abandon reason => exact absurd rfl (lasting reason)
  | _ => cases answered

/-- The failure with which a routine breaks off is that of its session, unless it abandons
itself. -/
theorem Routine.failure_of_attempt {σ : Type} [ByteStream σ] {routine : Routine}
    {given : routine.Values} {session : Session σ} {answer failure : Failure}
    (answered : (routine.attempt given session).1.1 = .error answer)
    (failed : (routine.attempt given session).2.failure = some failure)
    (lasting : ∀ reason, .abandon reason ∉ routine) : answer = failure := by
  induction routine generalizing session with
  | nil => cases answered
  | cons step steps ih =>
      cases reply : (step.run given.1 session).1.1.failure? with
      | some first =>
          rw [attempt_cons_of_failure reply] at answered failed
          cases answered
          refine Step.failure_of_reply reply failed ?_
          rintro reason rfl
          exact lasting reason List.mem_cons_self
      | none =>
          rw [attempt_cons_of_none reply] at answered failed
          exact ih answered failed fun reason inside => lasting reason (List.mem_cons_of_mem _ inside)

/-- A routine that abandons itself never gets to its end. -/
theorem Routine.lasting_of_attempt {σ : Type} [ByteStream σ] {routine : Routine}
    {given : routine.Values} {session : Session σ}
    (done : (routine.attempt given session).1.1 = .ok ()) (reason : String) :
    .abandon reason ∉ routine := by
  induction routine generalizing session with
  | nil => exact List.not_mem_nil
  | cons step steps ih =>
      cases reply : (step.run given.1 session).1.1.failure? with
      | some failure =>
          rw [attempt_cons_of_failure reply] at done
          cases done
      | none =>
          rw [attempt_cons_of_none reply] at done
          intro inside
          rcases List.mem_cons.mp inside with rfl | later
          · cases reply
          · exact ih done later

end Snapshot
