import Snapshot.Proofs.FailurePoints
import Snapshot.Proofs.Header
import Snapshot.Proofs.Refusals
import Snapshot.Proofs.VersionGates

/-!
# Container round trips

A saved container is the magic, the version and the payload of the routine.  It is loaded
from where it was saved exactly if its version is one that the reader supports and every
length in it is within the limits of reading, which saving knows nothing of.  Otherwise the
version, or the first length that is not, is the failure.
-/

namespace Snapshot

open Decoder Output

/-! ## The lengths in a stored form -/

namespace Decoder

theorem findSome?_exceeds (limit : UInt32) (lengths : List Nat) :
    lengths.findSome? (exceeds? limit) =
      (lengths.find? (limit.toNat < ·)).map (.lengthLimit · limit.toNat) := by
  induction lengths with
  | nil => rfl
  | cons length lengths ih =>
      rw [List.findSome?_cons, List.find?_cons, exceeds?]
      by_cases exceeds : limit.toNat < length
      · simp [exceeds]
      · simp [exceeds, ih]

theorem findSome?_exceeds_eq_none_iff {limit : UInt32} {lengths : List Nat} :
    lengths.findSome? (exceeds? limit) = none ↔ ∀ length ∈ lengths, length ≤ limit.toNat := by
  rw [List.findSome?_eq_none_iff]
  exact forall_congr' fun length => imp_congr_right fun _ => exceeds?_eq_none_iff

theorem findSome?_exceeds_cons (limit : UInt32) (count : Nat) (lengths : List Nat) :
    (count :: lengths).findSome? (exceeds? limit) =
      (exceeds? limit count).or (lengths.findSome? (exceeds? limit)) := by
  rw [List.findSome?_cons]
  cases exceeds? limit count with
  | none => rfl
  | some failure => rfl

theorem findSome?_exceeds_singleton (limit : UInt32) (count : Nat) :
    [count].findSome? (exceeds? limit) = exceeds? limit count := by
  rw [findSome?_exceeds_cons]
  exact Option.or_none

theorem findSome?_exceeds_flatMap (limit : UInt32) {α : Type} (lengths : α → List Nat)
    (items : List α) :
    (items.flatMap lengths).findSome? (exceeds? limit) =
      items.findSome? fun item => (lengths item).findSome? (exceeds? limit) := by
  induction items with
  | nil => rfl
  | cons item items ih =>
      rw [List.flatMap_cons, List.findSome?_append, ih, List.findSome?_cons]
      cases (lengths item).findSome? (exceeds? limit) with
      | none => rfl
      | some failure => rfl

end Decoder

/-- With one limit for all lengths, the first length beyond it is the failure. -/
theorem Layout.excess?_eq (limit : UInt32) (layout : Layout) (value : layout.Value) :
    layout.excess? ⟨limit, limit⟩ value = (layout.lengths value).findSome? (exceeds? limit) := by
  induction layout with
  | unit => rfl
  | scalar kind => rfl
  | bool => rfl
  | text => exact (findSome?_exceeds_singleton limit value.utf8ByteSize).symm
  | smallText capacity => exact (findSome?_exceeds_singleton limit value.text.utf8ByteSize).symm
  | array item length ih =>
      rw [excess?, lengths, findSome?_exceeds_flatMap, funext ih]
  | list item ih =>
      rw [excess?, lengths, findSome?_exceeds_cons, findSome?_exceeds_flatMap, funext ih]
  | deque item ih =>
      rw [excess?, lengths, findSome?_exceeds_cons, findSome?_exceeds_flatMap, funext ih]

theorem Step.excess?_eq (limit : UInt32) {step : Step} (symmetric : step.IsSymmetric)
    (given : step.Value) :
    step.excess? ⟨limit, limit⟩ given = (step.lengths given).findSome? (exceeds? limit) := by
  cases step with
  | value layout => exact layout.excess?_eq limit given
  | field layout gate => exact layout.excess?_eq limit given
  | blocks item plain => exact (findSome?_exceeds_singleton limit given.length).symm
  | units => exact (findSome?_exceeds_singleton limit given).symm
  | marker expected => exact (findSome?_exceeds_singleton limit expected.utf8ByteSize).symm
  | expect expected => exact (findSome?_exceeds_singleton limit expected.utf8ByteSize).symm
  | lend text => cases symmetric
  | _ => rfl

theorem Routine.excess?_eq (limit : UInt32) {version : UInt32} {routine : Routine}
    (symmetric : ∀ step ∈ routine, step.IsSymmetric)
    (introduced : ∀ step ∈ routine, step.isPresent version = true) (given : routine.Values) :
    routine.excess? version ⟨limit, limit⟩ given =
      (routine.lengths given).findSome? (exceeds? limit) := by
  induction routine with
  | nil => rfl
  | cons step steps ih =>
      obtain ⟨value, rest⟩ := given
      obtain ⟨first, later⟩ := List.forall_mem_cons.mp symmetric
      obtain ⟨present, others⟩ := List.forall_mem_cons.mp introduced
      rw [excess?, if_pos present, step.excess?_eq limit first, ih later others, lengths,
        List.findSome?_append]

/-- Where every field is present, nothing is left out. -/
theorem Routine.outputs_keep_of_present {version : UInt32} {routine : Routine}
    (introduced : ∀ step ∈ routine, step.isPresent version = true) (given : routine.Values) :
    (routine.present version).outputs (routine.keep version given) = routine.outputs given := by
  induction routine with
  | nil => rfl
  | cons step steps ih =>
      obtain ⟨value, rest⟩ := given
      obtain ⟨present, others⟩ := List.forall_mem_cons.mp introduced
      rw [outputs_keep_cons, if_pos present, ih others]
      rfl

/-! ## Attempts on a stored form -/

/-- A reply that is accepted hands no failure to the caller. -/
theorem Reply.failure?_of_isAccepted {reply : Reply} (accepted : reply.isAccepted = true) :
    reply.failure? = none := by
  cases reply with
  | done => rfl
  | matched found => rfl
  | refused misuse => rfl
  | checked outcome =>
      cases outcome with
      | ok value => rfl
      | error failure => cases accepted

/-- In front of what a step put out, if it is present, the step restores its value and hands
no failure to the caller, or its session fails at the first length beyond the limits. -/
theorem Step.run_of_outputs {σ : Type} [ByteStream σ] [Supply σ] {setting : Session.Setting}
    {step : Step} (symmetric : step.IsSymmetric) (faithful : step.IsFaithful)
    {given : step.Value} (old : step.Value)
    (unrefused : step.isPresent setting.version = true → Unrefused (step.outputs given))
    {session : Session σ} {rest : Bytes}
    (faces : Session.Faces setting session
      (concat (if step.isPresent setting.version then step.outputs given else []) ++ rest)) :
    (∀ failure, (if step.isPresent setting.version then step.excess? setting.limits given
        else none) = some failure →
      (step.run old session).2.failure = some failure) ∧
    ((if step.isPresent setting.version then step.excess? setting.limits given else none) = none →
      (step.run old session).1.1.failure? = none ∧
        (step.run old session).1.2 = (if step.isPresent setting.version then step.restored given
          else step.absentValue step.blank) ∧
        (step.run old session).2.mismatch = session.mismatch ∧
        Session.Faces setting (step.run old session).2 rest) := by
  have decoded := step.decode_outputs setting.version setting.limits symmetric faithful unrefused
    rest
  have follows : Session.Follows setting (fun session : Session σ => step.perform old session)
      (step.decode setting.version setting.limits) := step.perform_follows symmetric old
  refine ⟨fun failure exceeding => ?_, fun fits => ?_⟩
  · rw [exceeding] at decoded
    exact follows.fails faces decoded
  · rw [fits] at decoded
    obtain ⟨same, reached⟩ := follows.takes faces decoded
    obtain ⟨accepted, restored⟩ := Prod.mk.inj same
    exact ⟨Reply.failure?_of_isAccepted accepted, restored, Step.mismatch_of_accepted accepted,
      reached⟩

/-- Once the session of a step has failed, an attempt ends in it. -/
theorem Routine.attempt_cons_of_hasFailed {σ : Type} [ByteStream σ] {step : Step}
    {steps : Routine} {given : Values (step :: steps)} {session : Session σ}
    (failed : (step.run given.1 session).2.hasFailed = true) :
    (attempt (step :: steps) given session).2 = (step.run given.1 session).2 := by
  cases reply : (step.run given.1 session).1.1.failure? with
  | some answer => rw [attempt_cons_of_failure reply]
  | none =>
      rw [attempt_cons_of_none reply]
      exact (attempt_moves steps given.2 _).eq_of_hasFailed failed

/-- In front of its stored form, an attempt goes through the whole routine and restores its
values, or its session fails at the first length beyond the limits. -/
theorem Routine.attempt_of_outputs {σ : Type} [ByteStream σ] [Supply σ] {setting : Session.Setting}
    {routine : Routine} (symmetric : ∀ step ∈ routine, step.IsSymmetric)
    (faithful : ∀ step ∈ routine, step.IsFaithful) {given : routine.Values} (old : routine.Values)
    (unrefused : Unrefused
      ((routine.present setting.version).outputs (routine.keep setting.version given)))
    {session : Session σ} {rest : Bytes}
    (faces : Session.Faces setting session
      (concat ((routine.present setting.version).outputs (routine.keep setting.version given)) ++
        rest)) :
    (routine.attempt old session).2.failure =
        routine.excess? setting.version setting.limits given ∧
      (routine.excess? setting.version setting.limits given = none →
        (routine.attempt old session).1 = (.ok (), routine.restored setting.version given) ∧
          (routine.attempt old session).2.mismatch = session.mismatch ∧
          Session.Faces setting (routine.attempt old session).2 rest) := by
  induction routine generalizing session with
  | nil => exact ⟨faces.sound, fun _ => ⟨rfl, rfl, faces⟩⟩
  | cons step steps ih =>
      obtain ⟨value, values⟩ := given
      obtain ⟨first, later⟩ := List.forall_mem_cons.mp symmetric
      obtain ⟨known, others⟩ := List.forall_mem_cons.mp faithful
      rw [outputs_keep_cons] at unrefused faces
      obtain ⟨own, behind⟩ := Output.unrefused_append.mp unrefused
      rw [concat_append, List.append_assoc] at faces
      obtain ⟨exceeding, fitting⟩ := step.run_of_outputs first known old.1
        (fun present => by rw [if_pos present] at own; exact own) faces
      cases early : (if step.isPresent setting.version then
          step.excess? setting.limits value else none) with
      | none =>
          obtain ⟨passed, restored, unmarked, reached⟩ := fitting early
          obtain ⟨failure, whole⟩ := ih later others old.2 behind reached
          rw [attempt_cons_of_none passed, excess?, early, Option.none_or]
          refine ⟨failure, fun fits => ?_⟩
          obtain ⟨outcome, mismatch, arrived⟩ := whole fits
          obtain ⟨done, left⟩ := Prod.mk.inj outcome
          refine ⟨?_, mismatch.trans unmarked, arrived⟩
          exact Prod.ext done (Prod.ext restored left)
      | some failure =>
          have failed := exceeding failure early
          rw [attempt_cons_of_hasFailed (Session.hasFailed_of_failure failed), excess?, early,
            Option.some_or]
          exact ⟨failed, fun fits => by cases fits⟩

/-- Putting things out does not change what the session is for. -/
theorem Session.mode_putAll {σ : Type} [ByteStream σ] (outputs : List Output)
    (session : Session σ) : (session.putAll outputs).mode = session.mode := by
  induction outputs generalizing session with
  | nil => rfl
  | cons output outputs ih =>
      rw [putAll_cons, ih]
      cases output with
      | block stored => exact (session.writeBytes_moves stored).settings.1
      | flag truth => exact (session.writeFlag_moves truth).settings.1
      | refusal failure => rfl

namespace Container

/-! ## Saving -/

/-- What the header puts out. -/
def headerOutputs (version : UInt32) : List Output :=
  [.block magic, .block (Bytes.ofNat 4 version.toNat)]

variable {σ : Type} [ByteStream σ]

theorem transferHeader_of_writing {session : Session σ} (writing : session.mode = .write) :
    transferHeader session =
      (match (session.putAll (headerOutputs session.version)).failure with
        | some failure => .error failure
        | none => .ok session.version,
        session.putAll (headerOutputs session.version)) := by
  have kept := (session.writeBytes_moves magic).settings
  have still : (session.writeBytes magic).mode = .write := kept.1.trans writing
  have version : (session.writeBytes magic).version = session.version := kept.2.1
  have put : session.putAll (headerOutputs session.version) =
      (session.writeBytes magic).writeBytes (Scalar.u32.encode session.version.toBitVec) := rfl
  simp only [transferHeader, Session.transferBytes, writing, Session.transfer, still, Session.save,
    version]
  rw [put]
  cases ((session.writeBytes magic).writeBytes
    (Scalar.u32.encode session.version.toBitVec)).failure with
  | some failure => rfl
  | none => exact if_pos True.intro

/-- The session behind the header that is put out. -/
def headed (allocator : Allocator) (format : FormatVersion) (stream : σ) : Session σ :=
  (Session.start allocator stream .write format.current .standard).putAll
    (headerOutputs format.current)

variable {allocator : Allocator} {format : FormatVersion} {routine : Routine}
  {given : routine.Values} {stream : σ}

theorem transferHeader_start :
    transferHeader (Session.start allocator stream .write format.current .standard) =
      (match (headed allocator format stream).failure with
        | some failure => .error failure
        | none => .ok format.current,
        headed allocator format stream) :=
  transferHeader_of_writing rfl

/-- A container that was saved was put out without a failure, the header in front. -/
theorem save_of_ok
    (saved : (save allocator format routine.attempt given stream).1.1 = .ok ()) :
    (save allocator format routine.attempt given stream).2 =
        (Session.start allocator stream .write format.current .standard).putAll
          (headerOutputs format.current ++ routine.outputs given) ∧
      (save allocator format routine.attempt given stream).2.failure = none := by
  have writing : (headed allocator format stream).mode = .write := Session.mode_putAll _ _
  rw [save, transferHeader_start] at saved ⊢
  cases sound : (headed allocator format stream).failure with
  | some failure =>
      rw [sound] at saved
      cases saved
  | none =>
      simp only [sound] at saved ⊢
      cases answer : (routine.attempt given (headed allocator format stream)).1.1 with
      | error failure =>
          generalize routine.attempt given (headed allocator format stream) = ran at answer saved
          obtain ⟨⟨outcome, values⟩, session⟩ := ran
          cases answer
          cases saved
      | ok done =>
          rw [Routine.attempt_eq_run answer] at saved ⊢
          rw [Session.putAll_append]
          exact ⟨routine.run_of_writing writing given, Session.sound_of_finish saved⟩

theorem length_header (version : UInt32) :
    (magic ++ Bytes.ofNat 4 version.toNat).length = 12 := by
  rw [List.length_append, Bytes.length_ofNat]
  rfl

theorem concat_headerOutputs (version : UInt32) :
    concat (headerOutputs version) = magic ++ Bytes.ofNat 4 version.toNat := by
  rw [headerOutputs, concat_cons, concat_block]
  rfl

/-- What a saved container consists of, stored in one piece. -/
theorem holds_of_saved {memory : Memory} (symmetric : ∀ step ∈ routine, step.IsSymmetric)
    (saved : (save allocator format routine.attempt given memory).1.1 = .ok ()) :
    Unrefused (routine.outputs given) ∧
      memory.Holds (magic ++ Bytes.ofNat 4 format.current.toNat ++ routine.encode given)
        (save allocator format routine.attempt given memory).2.stream := by
  obtain ⟨put, sound⟩ := save_of_ok saved
  rw [put] at sound ⊢
  obtain ⟨unrefused, stored⟩ := Session.putAll_of_sound sound
  obtain ⟨_, payload⟩ := unrefused_append.mp unrefused
  rcases stored with ⟨silent, _⟩ | holds
  · cases silent
  · rw [concat_append, concat_headerOutputs, Routine.concat_outputs symmetric payload] at holds
    exact ⟨payload, holds⟩

/-! ## Loading what was saved -/

theorem statedVersion_append (version : UInt32) (rest : Bytes) :
    statedVersion (magic ++ Bytes.ofNat 4 version.toNat ++ rest) = version := by
  have number : Bytes.toNat (Bytes.ofNat 4 version.toNat) = version.toNat :=
    Bytes.toNat_ofNat_of_lt version.toNat_lt
  have behind : (magic ++ Bytes.ofNat 4 version.toNat ++ rest).drop 8 =
      Bytes.ofNat 4 version.toNat ++ rest := by
    rw [List.append_assoc]
    exact List.drop_left' rfl
  rw [statedVersion, behind, List.take_left' (Bytes.length_ofNat 4 _), number, UInt32.ofNat_toNat]

/-- A header in front of other bytes is accepted, and the component is loaded from these. -/
theorem readHeader_of_saved [Supply σ] (allocator : Allocator) {version : UInt32} {rest : Bytes}
    (supplied : Supply.Supplies stream (magic ++ Bytes.ofNat 4 version.toNat ++ rest)) :
    (readHeader allocator stream).1 = .ok version ∧
      Supply.Supplies (opened allocator stream version).stream rest ∧
      (opened allocator stream version).position = ByteStream.position stream + 12 := by
  have enough : 12 ≤ (magic ++ Bytes.ofNat 4 version.toNat ++ rest).length := by
    rw [List.length_append, length_header]
    exact Nat.le_add_right 12 _
  have known : (magic ++ Bytes.ofNat 4 version.toNat ++ rest).take 8 = magic := by
    rw [List.append_assoc]
    exact List.take_left' rfl
  obtain ⟨behind, moved⟩ := opened_supplies allocator version supplied enough
  rw [List.drop_left' (length_header version)] at behind
  exact ⟨(readHeader_eq_ok_iff allocator supplied).mpr
    ⟨enough, known, (statedVersion_append version rest).symm⟩, behind, moved⟩

/-- With the cursor set back, a memory that holds a container offers its header first and then
the component, which ends where the container does. -/
theorem opened_of_holds {start memory : Memory} {version : UInt32} {stored : Bytes}
    (holds : start.Holds (magic ++ Bytes.ofNat 4 version.toNat ++ stored) memory)
    (allocator : Allocator) :
    ∃ rest, (readHeader allocator (memory.seek start.cursor)).1 = .ok version ∧
      Supply.Supplies (opened allocator (memory.seek start.cursor) version).stream
        (stored ++ rest) ∧
      (opened allocator (memory.seek start.cursor) version).position + stored.length =
        memory.cursor := by
  obtain ⟨rest, supplied⟩ := holds.supplies
  rw [List.append_assoc] at supplied
  obtain ⟨stated, behind, moved⟩ := readHeader_of_saved allocator supplied
  refine ⟨rest, stated, behind, ?_⟩
  have cursor := holds.cursor_eq
  rw [List.length_append, length_header] at cursor
  rw [moved, cursor]
  exact Nat.add_assoc _ _ _

/-- Loading failed because memory was refused to it. -/
def RefusedMemory {α : Type} (allocator : Allocator) (answer : Except Failure α) : Prop :=
  ∃ count request, answer = .error (.outOfMemory count) ∧ allocator.grants request = false

/-- In front of its stored form, a component is loaded at a version that has all its fields,
or its first length beyond the limits is the failure, unless memory is refused. -/
theorem conclude_of_outputs [Supply σ] (symmetric : ∀ step ∈ routine, step.IsSymmetric)
    (faithful : ∀ step ∈ routine, step.IsFaithful) {version : UInt32}
    (introduced : ∀ step ∈ routine, step.isPresent version = true) (old : routine.Values)
    (unrefused : Unrefused (routine.outputs given)) {rest : Bytes}
    (supplied : Supply.Supplies (opened allocator stream version).stream
      (routine.encode given ++ rest)) :
    let loaded := conclude version (routine.attempt old (opened allocator stream version))
    RefusedMemory allocator loaded.1.1 ∨
      (∀ failure, routine.excess? version .standard given = some failure →
        loaded.1.1 = .error failure) ∧
      (routine.excess? version .standard given = none →
        loaded.1.1 = .ok version ∧ loaded.1.2 = routine.restored version given ∧
          loaded.2.position =
            (opened allocator stream version).position + (routine.encode given).length) := by
  intro loaded
  have lasting : ∀ reason, .abandon reason ∉ routine := fun reason inside => symmetric _ inside
  have outcome : Concludes version
      (routine.attempt old (opened allocator stream version)) loaded := conclude_concludes _ _
  have together : Session.Unbounds (opened allocator stream version)
      (opened allocator stream version).unbounded := ⟨rfl, rfl⟩
  have agrees : Session.beforeRefusal.Agrees
      (routine.attempt old (opened allocator stream version))
      (routine.attempt old (opened allocator stream version).unbounded) :=
    (routine.attempt_keeps old).agrees together
  rcases agrees with ⟨count, request, failed, refused⟩ | ⟨same, _, bounds⟩
  · rw [(routine.attempt_moves old _).settings.2.2.2] at refused
    exact Or.inl ⟨count, request, conclude_of_failure version failed lasting, refused⟩
  · -- The session that is never refused memory stands for the other one.
    have present : (routine.present version).outputs (routine.keep version given) =
        routine.outputs given := Routine.outputs_keep_of_present introduced given
    have stored : concat (routine.outputs given) = routine.encode given :=
      Routine.concat_outputs symmetric unrefused
    have faces : Session.Faces
        ⟨version, .standard, (opened allocator stream version).position +
          (routine.encode given ++ rest).length⟩
        (opened allocator stream version).unbounded
        (concat ((routine.present version).outputs (routine.keep version given)) ++ rest) := by
      rw [present, stored]
      exact ⟨rfl, rfl, rfl, rfl, fun _ => rfl, supplied, rfl⟩
    rw [← present] at unrefused
    obtain ⟨failure, whole⟩ := Routine.attempt_of_outputs symmetric faithful old unrefused faces
    rw [bounds] at failure whole
    rw [← same] at whole
    refine Or.inr ⟨fun excess found => ?_, fun fits => ?_⟩
    · exact conclude_of_failure version (failure.trans found) lasting
    · obtain ⟨values, unmarked, reached⟩ := whole fits
      obtain ⟨done, left⟩ := Prod.mk.inj values
      have accepted : loaded.1.1 = .ok version :=
        outcome.ok_iff.mpr ⟨rfl, done, reached.sound, unmarked⟩
      refine ⟨accepted, outcome.component_eq.trans left, ?_⟩
      have stop : (routine.attempt old (opened allocator stream version)).2.position +
          rest.length = (opened allocator stream version).position +
            (routine.encode given ++ rest).length := reached.stop_eq
      rw [List.length_append] at stop
      rw [outcome.reported accepted]
      change (routine.attempt old (opened allocator stream version)).2.position = _
      omega

/-- How a container comes back to a reader: it is loaded up to where saving ended exactly if
the reader supports its version and no length is beyond the limits. -/
structure ComesBack (reader : FormatVersion) (version : UInt32) (routine : Routine)
    (given : routine.Values) (stop : Nat)
    (loaded : (Except Failure UInt32 × routine.Values) × Session σ) : Prop where
  ok_iff : loaded.1.1 = .ok version ∧ loaded.1.2 = routine.restored version given ∧
      loaded.2.position = stop ↔
    (reader.minimum ≤ version ∧ version ≤ reader.current) ∧
      ∀ length ∈ routine.lengths given, length ≤ 16 * 1024 * 1024
  limited : reader.minimum ≤ version ∧ version ≤ reader.current → ∀ length,
    (routine.lengths given).find? (16 * 1024 * 1024 < ·) = some length →
      loaded.1.1 = .error (.lengthLimit length (16 * 1024 * 1024))

theorem comesBack_of_supported (symmetric : ∀ step ∈ routine, step.IsSymmetric)
    {version : UInt32} (introduced : ∀ step ∈ routine, step.isPresent version = true)
    {reader : FormatVersion} (supported : reader.minimum ≤ version ∧ version ≤ reader.current)
    {stop : Nat} {loaded : (Except Failure UInt32 × routine.Values) × Session σ}
    (exceeding : ∀ failure, routine.excess? version .standard given = some failure →
      loaded.1.1 = .error failure)
    (fitting : routine.excess? version .standard given = none →
      loaded.1.1 = .ok version ∧ loaded.1.2 = routine.restored version given ∧
        loaded.2.position = stop) :
    ComesBack reader version routine given stop loaded := by
  have limit : (16 * 1024 * 1024 : UInt32).toNat = 16 * 1024 * 1024 := rfl
  have within_iff : (routine.lengths given).findSome? (exceeds? (16 * 1024 * 1024)) = none ↔
      ∀ length ∈ routine.lengths given, length ≤ 16 * 1024 * 1024 := by
    rw [findSome?_exceeds_eq_none_iff, limit]
  rw [Limits.standard, Routine.excess?_eq _ symmetric introduced] at exceeding fitting
  refine ⟨⟨?_, ?_⟩, ?_⟩
  · rintro ⟨accepted, _⟩
    refine ⟨supported, within_iff.mp ?_⟩
    cases beyond : (routine.lengths given).findSome? (exceeds? (16 * 1024 * 1024)) with
    | none => rfl
    | some failure =>
        rw [exceeding failure beyond] at accepted
        cases accepted
  · rintro ⟨_, within⟩
    exact fitting (within_iff.mpr within)
  · intro _ length first
    refine exceeding _ ?_
    rw [findSome?_exceeds, limit, first]
    rfl

theorem comesBack_of_unsupported {version : UInt32} {reader : FormatVersion}
    (unsupported : ¬(reader.minimum ≤ version ∧ version ≤ reader.current)) {stop : Nat}
    {loaded : (Except Failure UInt32 × routine.Values) × Session σ} {failure : Failure}
    (failed : loaded.1.1 = .error failure) :
    ComesBack reader version routine given stop loaded := by
  refine ⟨⟨?_, fun both => absurd both.1 unsupported⟩, fun inside => absurd inside unsupported⟩
  rintro ⟨accepted, _⟩
  rw [failed] at accepted
  cases accepted

/-- Container round trip.  What was saved at any place of a memory is the magic, the writer's
version and the stored form of the component.  A reader with another range of versions refuses
it and leaves the component alone.  Any other reader restores every value and ends where
saving ended, unless a length is beyond the limits of reading: then the first such length is
the failure.  Lack of memory is the only other way to fail. -/
theorem saved_container_is_loaded (symmetric : ∀ step ∈ routine, step.IsSymmetric)
    (faithful : ∀ step ∈ routine, step.IsFaithful) {writer : FormatVersion}
    (introduced : ∀ step ∈ routine, step.isPresent writer.current = true)
    (given old : routine.Values) (saving loading : Allocator) (reader : FormatVersion)
    (memory : Memory) :
    let saved := save saving writer routine.attempt given memory
    let loaded := load loading reader routine.attempt old (saved.2.stream.seek memory.cursor)
    saved.1.1 = .ok () →
      saved.2.stream.since memory.cursor =
          magic ++ Bytes.ofNat 4 writer.current.toNat ++ routine.encode given ∧
        (¬(reader.minimum ≤ writer.current ∧ writer.current ≤ reader.current) →
          loaded.1 = (.error (.unsupportedVersion writer.current reader.minimum reader.current),
            old)) ∧
        (RefusedMemory loading loaded.1.1 ∨
          ComesBack reader writer.current routine given saved.2.position loaded) := by
  intro saved loaded done
  obtain ⟨unrefused, holds⟩ := holds_of_saved symmetric done
  obtain ⟨rest, stated, behind, stop⟩ := opened_of_holds holds loading
  have outside : ¬(reader.minimum ≤ writer.current ∧ writer.current ≤ reader.current) →
      loaded.1 = (.error (.unsupportedVersion writer.current reader.minimum reader.current),
        old) := by
    intro unsupported
    rw [← FormatVersion.supports_iff, Bool.not_eq_true] at unsupported
    have refused : loaded = _ := load_of_unsupported stated unsupported
    rw [refused]
  refine ⟨holds.since_eq, outside, ?_⟩
  by_cases supported : reader.minimum ≤ writer.current ∧ writer.current ≤ reader.current
  · have concluded : loaded = _ :=
      load_of_supported stated (FormatVersion.supports_iff.mpr supported)
    rcases conclude_of_outputs symmetric faithful introduced old unrefused behind with
      lacking | ⟨exceeding, fitting⟩
    · rw [← concluded] at lacking
      exact Or.inl lacking
    · rw [← concluded, stop] at fitting
      rw [← concluded] at exceeding
      exact Or.inr (comesBack_of_supported symmetric introduced supported exceeding fitting)
  · have refused := congrArg Prod.fst (outside supported)
    exact Or.inr (comesBack_of_unsupported supported refused)

/-- A text with a null character, saved behind the end of a memory and loaded by a reader
of later versions. -/
theorem saved_container_is_loaded_by_later_reader :
    (load .unbounded ⟨6, 2⟩
      (Routine.attempt [.field (.scalar .u8) ⟨3, 9⟩, .value .text, .marker "END"])
      (0#8, "old", (), ())
      ((save .unbounded ⟨4, 1⟩
        (Routine.attempt [.field (.scalar .u8) ⟨3, 9⟩, .value .text, .marker "END"])
        (7#8, "a\x00b", (), ()) (⟨#[1], 3, 0⟩ : Memory)).2.stream.seek 3)).1 =
      (.ok 4, (7#8, "a", (), ())) := by
  have symmetric : ∀ step ∈ ([.field (.scalar .u8) ⟨3, 9⟩, .value .text, .marker "END"] : Routine),
      step.IsSymmetric := by
    simp [Step.IsSymmetric, markerCapacity]
    decide
  have faithful : ∀ step ∈ ([.field (.scalar .u8) ⟨3, 9⟩, .value .text, .marker "END"] : Routine),
      step.IsFaithful := by
    simp [Step.IsFaithful]
  have introduced :
      ∀ step ∈ ([.field (.scalar .u8) ⟨3, 9⟩, .value .text, .marker "END"] : Routine),
      step.isPresent (⟨4, 1⟩ : FormatVersion).current = true := by
    simp [Step.isPresent]
    decide
  obtain ⟨_, _, ⟨_, _, _, refused⟩ | back⟩ := saved_container_is_loaded symmetric faithful
    introduced (7#8, "a\x00b", (), ()) (0#8, "old", (), ()) .unbounded .unbounded ⟨6, 2⟩
    ⟨#[1], 3, 0⟩ rfl
  · cases refused
  · obtain ⟨accepted, values, _⟩ := back.ok_iff.mpr ⟨by decide, by decide⟩
    exact Prod.ext accepted values

end Container

end Snapshot
