import Snapshot.Proofs.NormalForm
import Snapshot.Proofs.Truncation

/-!
# Loading again what was loaded

Values that were loaded from any byte string at all are saved and loaded again without
change, as long as no text grew beyond the limit when it was decoded.  The bytes that are
saved may differ from those that were loaded first; they do not differ for numbers.
-/

namespace Snapshot

namespace Session

variable {σ : Type}

theorem unmarked_of_finish {session : Session σ} (finished : session.finish = .ok ()) :
    session.mismatch = none := by
  have sound := sound_of_finish finished
  cases state : session.mismatch with
  | none => rfl
  | some mismatch =>
      rw [finish, sound, state] at finished
      cases finished

variable [ByteStream σ]

/-- A mismatch stays on record. -/
theorem Moves.unmarked_before {marks : Bool} {mode : Mode} {first last : Session σ}
    (moves : Moves marks mode first last) (unmarked : last.mismatch = none) :
    first.mismatch = none := by
  induction moves with
  | refl => exact unmarked
  | tail before move ih =>
      cases move with
      | transfer sound transferred => exact ih unmarked
      | fail sound failed =>
          cases failed with
          | fault transferred => exact ih unmarked
          | refusal other => exact ih unmarked
      | truncate sound length capacity => exact ih unmarked
      | mismatch sound differ => cases unmarked

/-- A marker that is not accepted leaves a failure or a mismatch on record. -/
theorem readMarker_of_unmarked {expected : String} {session : Session σ}
    (sound : (session.readMarker expected).2.failure = none)
    (unmarked : (session.readMarker expected).2.mismatch = none) :
    (session.readMarker expected).1 = true := by
  unfold readMarker at sound unmarked ⊢
  dsimp only at sound unmarked ⊢
  by_cases failed : (session.readSmallText markerCapacity).2.hasFailed = true
  · rw [if_pos failed] at sound
    rw [hasFailed_eq_false.mpr sound] at failed
    cases failed
  · rw [if_neg failed] at unmarked ⊢
    by_cases same : (session.readSmallText markerCapacity).1.text = expected
    · rw [if_pos same]
    · rw [if_neg same] at unmarked
      cases unmarked

end Session

namespace Step

/-- The steps that transfer the same bytes in both modes where their fields are present. -/
def IsSymmetricIfPresent : Step → Prop
  | .bytesField _ _ => True
  | step => step.IsSymmetric

theorem isSymmetric_or_exists_bytesField {step : Step} (symmetric : step.IsSymmetricIfPresent) :
    step.IsSymmetric ∨ ∃ length gate, step = .bytesField length gate := by
  cases step with
  | bytesField length gate => exact Or.inr ⟨length, gate, rfl⟩
  | _ => exact Or.inl symmetric

section Reading

variable {σ : Type} [ByteStream σ] {step : Step} {session : Session σ}

theorem marker_accepted {expected : String} (short : expected.utf8ByteSize ≤ markerCapacity)
    (reading : session.mode = .read) (given : Unit)
    (sound : ((marker expected).perform given session).2.failure = none)
    (unmarked : ((marker expected).perform given session).2.mismatch = none) :
    ((marker expected).perform given session).1.1 = true := by
  have read : session.marker expected =
      (.ok (session.readMarker expected).1, (session.readMarker expected).2) := by
    rw [Session.marker, if_neg (Nat.not_lt_of_le short), reading]
  rw [perform, run_marker, read] at sound unmarked ⊢
  exact Session.readMarker_of_unmarked sound unmarked

/-- A step is accepted unless it leaves a failure or a mismatch on record. -/
theorem accepted_of_unmarked (symmetric : step.IsSymmetricIfPresent)
    (present : step.isPresent session.version = true) (reading : session.mode = .read)
    (given : step.Value) (sound : (step.perform given session).2.failure = none)
    (unmarked : (step.perform given session).2.mismatch = none) :
    (step.perform given session).1.1 = true := by
  cases step with
  | bytesField length gate =>
      rw [isPresent] at present
      simp [perform, run_bytesField, Session.transferBytesField, present, Reply.ofExcept,
        Reply.isAccepted]
  | marker expected => exact marker_accepted symmetric reading given sound unmarked
  | expect expected =>
      rw [perform_expect] at sound unmarked ⊢
      exact marker_accepted symmetric reading given sound unmarked
  | lend text => cases symmetric
  | abandon reason => cases symmetric
  | _ => rfl

variable [Supply σ] {setting : Session.Setting}

/-- A present step follows its decoder. -/
theorem perform_follows_of_isPresent (symmetric : step.IsSymmetricIfPresent)
    (present : step.isPresent setting.version = true) (given : step.Value) :
    Session.Follows setting (fun session : Session σ => step.perform given session)
      (step.decode setting.version setting.limits) := by
  rcases isSymmetric_or_exists_bytesField symmetric with symmetric | ⟨length, gate, rfl⟩
  · exact perform_follows symmetric given
  · have moves : ∀ session : Session σ, Session.Moves false session.mode session
        ((bytesField length gate).perform given session).2 := run_moves _ given
    rw [decode, if_pos present]
    refine ((Session.transferBytes_follows given).map (true, ·)).of_eq moves ?_
    intro session bytes faces
    rw [← faces.version_eq, isPresent] at present
    simp [perform, run_bytesField, Session.transferBytesField, present, Reply.ofExcept,
      Reply.isAccepted]

end Reading

variable {version : UInt32} {limits : Limits} {step : Step} {given : step.Value}

theorem unrefused_of_fits_ifPresent (symmetric : step.IsSymmetricIfPresent)
    (fits : step.Fits limits given) : Output.Unrefused (step.outputs given) := by
  rcases isSymmetric_or_exists_bytesField symmetric with symmetric | ⟨length, gate, rfl⟩
  · exact unrefused_of_fits symmetric fits
  · simp [outputs, Output.Unrefused]

theorem concat_outputs_ifPresent (symmetric : step.IsSymmetricIfPresent)
    (unrefused : Output.Unrefused (step.outputs given)) :
    Output.concat (step.outputs given) = step.encode given := by
  rcases isSymmetric_or_exists_bytesField symmetric with symmetric | ⟨length, gate, rfl⟩
  · exact concat_outputs symmetric unrefused
  · exact Output.concat_block _

/-- The decoder of a present step takes off exactly its encoding. -/
theorem decode_encode (limits : Limits) (symmetric : step.IsSymmetricIfPresent) (faithful : step.IsFaithful)
    (present : step.isPresent version = true)
    (unrefused : Output.Unrefused (step.outputs given)) (rest : Bytes) :
    step.decode version limits (step.encode given ++ rest) =
      Decoder.outcome (step.excess? limits given) (true, step.restored given) rest := by
  rw [decode, if_pos present, ← concat_outputs_ifPresent symmetric unrefused]
  rcases isSymmetric_or_exists_bytesField symmetric with symmetric | ⟨length, gate, rfl⟩
  · exact decodePresent_outputs limits symmetric faithful unrefused rest
  · rw [outputs, Output.concat_block]
    exact Decoder.map_eq_outcome (Decoder.take_append given rest) (true, ·)

end Step

namespace Routine

section Reading

variable {σ : Type} [ByteStream σ] {routine : Routine} {session : Session σ}

/-- A routine that ends without failure and mismatch had every step accepted. -/
theorem accepted_of_unmarked (symmetric : ∀ step ∈ routine, step.IsSymmetricIfPresent)
    (introduced : ∀ step ∈ routine, step.isPresent session.version = true)
    (reading : session.mode = .read) (given : routine.Values)
    (sound : (routine.perform given session).2.failure = none)
    (unmarked : (routine.perform given session).2.mismatch = none) :
    ∀ answer ∈ (routine.perform given session).1.1, answer = true := by
  induction routine generalizing session with
  | nil => exact fun answer member => absurd member List.not_mem_nil
  | cons step steps ih =>
      obtain ⟨first, later⟩ := List.forall_mem_cons.mp symmetric
      obtain ⟨present, others⟩ := List.forall_mem_cons.mp introduced
      rw [perform_cons] at sound unmarked ⊢
      have settings := (step.run_moves given.1 session).settings
      have rest := run_moves steps given.2 (step.perform given.1 session).2
      refine List.forall_mem_cons.mpr ⟨?_, ih later ?_ ?_ given.2 sound unmarked⟩
      · exact step.accepted_of_unmarked first present reading given.1 (rest.sound_before sound)
          (rest.unmarked_before unmarked)
      · intro other member
        rw [show (step.perform given.1 session).2.version = session.version from settings.2.1]
        exact others other member
      · exact settings.1.trans reading

variable [Supply σ] {setting : Session.Setting}

theorem perform_follows_of_isPresent (symmetric : ∀ step ∈ routine, step.IsSymmetricIfPresent)
    (introduced : ∀ step ∈ routine, step.isPresent setting.version = true)
    (given : routine.Values) :
    Session.Follows setting (fun session : Session σ => routine.perform given session)
      (routine.decode setting.version setting.limits) := by
  induction routine with
  | nil => exact .succeed ([], ())
  | cons step steps ih =>
      obtain ⟨first, later⟩ := List.forall_mem_cons.mp symmetric
      obtain ⟨present, others⟩ := List.forall_mem_cons.mp introduced
      exact (step.perform_follows_of_isPresent first present given.1).andThen fun front =>
        (ih later others given.2).map fun rest => (front.1 :: rest.1, (front.2, rest.2))

/-- A session that finishes has decoded its values from the bytes it took, with every step
accepted. -/
theorem decoded_of_finish (symmetric : ∀ step ∈ routine, step.IsSymmetricIfPresent)
    (introduced : ∀ step ∈ routine, step.isPresent setting.version = true)
    {bytes : Bytes} (faces : Session.Faces setting session bytes) (given : routine.Values)
    (finished : (routine.run given session).2.finish = .ok ()) :
    ∃ answers rest, routine.decode setting.version setting.limits bytes =
        .ok ((answers, (routine.run given session).1.2), rest) ∧
      (∀ answer ∈ answers, answer = true) ∧
      (routine.run given session).2.position + rest.length = session.position + bytes.length := by
  have sound := Session.sound_of_finish finished
  have follows : Session.Follows setting (fun session : Session σ => routine.perform given session)
      (routine.decode setting.version setting.limits) :=
    perform_follows_of_isPresent symmetric introduced given
  rw [← faces.version_eq] at introduced
  have accepted := accepted_of_unmarked symmetric introduced faces.reading given sound
    (Session.unmarked_of_finish finished)
  cases outcome : routine.decode setting.version setting.limits bytes with
  | error failure =>
      have failed : (routine.run given session).2.failure = some failure :=
        follows.fails faces outcome
      rw [sound] at failed
      cases failed
  | ok result =>
      obtain ⟨⟨answers, values⟩, rest⟩ := result
      obtain ⟨same, reached⟩ := follows.takes faces outcome
      obtain ⟨rfl, rfl⟩ := Prod.mk.inj same
      exact ⟨_, rest, rfl, accepted, reached.stop_eq.trans faces.stop_eq.symm⟩

/-- A session that decodes its bytes, with every step accepted, finishes. -/
theorem finishes_of_decoded (symmetric : ∀ step ∈ routine, step.IsSymmetricIfPresent)
    (introduced : ∀ step ∈ routine, step.isPresent setting.version = true)
    {bytes rest : Bytes} (faces : Session.Faces setting session bytes)
    (unmarked : session.mismatch = none) (given : routine.Values) {values : routine.Values}
    (decoded : routine.decode setting.version setting.limits bytes =
      .ok ((routine.map fun _ => true, values), rest)) :
    (routine.run given session).2.finish = .ok () ∧ (routine.run given session).1.2 = values ∧
      (routine.run given session).2.position + rest.length = setting.stop := by
  have follows : Session.Follows setting (fun session : Session σ => routine.perform given session)
      (routine.decode setting.version setting.limits) :=
    perform_follows_of_isPresent symmetric introduced given
  obtain ⟨same, reached⟩ := follows.takes faces decoded
  have accepted : ∀ answer ∈ (routine.perform given session).1.1, answer = true := by
    intro answer member
    rw [congrArg Prod.fst same] at member
    obtain ⟨_, _, yes⟩ := List.mem_map.mp member
    exact yes.symm
  have sound : (routine.run given session).2.failure = none := reached.sound
  have kept : (routine.run given session).2.mismatch = none :=
    (mismatch_of_accepted accepted).trans unmarked
  exact ⟨by rw [Session.finish, sound, kept], congrArg Prod.snd same, reached.stop_eq⟩

end Reading

section Encoding

variable {version : UInt32} {limits : Limits} {routine : Routine} {given : routine.Values}

theorem unrefused_of_fits (symmetric : ∀ step ∈ routine, step.IsSymmetricIfPresent)
    (introduced : ∀ step ∈ routine, step.isPresent version = true)
    (fits : routine.Fits version limits given) : Output.Unrefused (routine.outputs given) := by
  induction routine with
  | nil => exact Output.unrefused_nil
  | cons step steps ih =>
      obtain ⟨first, later⟩ := List.forall_mem_cons.mp symmetric
      obtain ⟨present, others⟩ := List.forall_mem_cons.mp introduced
      apply Output.unrefused_append.mpr
      exact ⟨step.unrefused_of_fits_ifPresent first (fits.1 present), ih later others fits.2⟩

theorem concat_outputs_ifPresent (symmetric : ∀ step ∈ routine, step.IsSymmetricIfPresent)
    (unrefused : Output.Unrefused (routine.outputs given)) :
    Output.concat (routine.outputs given) = routine.encode given := by
  induction routine with
  | nil => rfl
  | cons step steps ih =>
      obtain ⟨first, later⟩ := List.forall_mem_cons.mp symmetric
      obtain ⟨own, behind⟩ := Output.unrefused_append.mp unrefused
      rw [outputs, Output.concat_append, step.concat_outputs_ifPresent first own, ih later behind]
      rfl

/-- Where all fields are present, the decoder of a routine takes off exactly its encoding. -/
theorem decode_encode (limits : Limits)
    (symmetric : ∀ step ∈ routine, step.IsSymmetricIfPresent)
    (faithful : ∀ step ∈ routine, step.IsFaithful)
    (introduced : ∀ step ∈ routine, step.isPresent version = true)
    (unrefused : Output.Unrefused (routine.outputs given)) (rest : Bytes) :
    routine.decode version limits (routine.encode given ++ rest) =
      Decoder.outcome (routine.excess? version limits given)
        (routine.map fun _ => true, routine.restored version given) rest := by
  induction routine with
  | nil => rfl
  | cons step steps ih =>
      obtain ⟨value, values⟩ := given
      obtain ⟨first, later⟩ := List.forall_mem_cons.mp symmetric
      obtain ⟨known, knowns⟩ := List.forall_mem_cons.mp faithful
      obtain ⟨present, others⟩ := List.forall_mem_cons.mp introduced
      obtain ⟨own, behind⟩ := Output.unrefused_append.mp unrefused
      have front := step.decode_encode limits first known present own
        (encode steps values ++ rest)
      have back := ih later knowns others behind
      rw [encode, List.append_assoc, excess?, restored, if_pos present, if_pos present]
      exact Decoder.andThen_eq_outcome front (Decoder.map_eq_outcome back _)

end Encoding

end Routine

/-! ## Saving and loading again -/

namespace Memory

/-- What was stored in an empty memory is all that it holds. -/
theorem Stored.toBytes_eq {outputs : List Output} {memory : Memory}
    (stored : empty.Stored outputs memory) : memory.toBytes = Output.concat outputs := by
  rcases stored with ⟨rfl, rfl⟩ | holds
  · rfl
  · rw [toBytes, holds.data_eq, Storage.toList_store]
    simp [empty]

theorem Stored.length_lt {outputs : List Output} {memory : Memory}
    (stored : empty.Stored outputs memory) : memory.toBytes.length < addressLimit := by
  rw [stored.toBytes_eq]
  rcases stored with ⟨rfl, rfl⟩ | holds
  · exact Nat.two_pow_pos 64
  · have addressed := holds.addressed
    rw [holds.cursor_eq] at addressed
    exact Nat.lt_of_le_of_lt (Nat.le_add_left _ _) addressed

/-- A memory that is read from its start supplies all that it holds. -/
theorem supplies_rewind {memory : Memory} (small : memory.toBytes.length < addressLimit) :
    Supply.Supplies memory.rewind memory.toBytes := by
  refine ⟨⟨Nat.zero_le _, Nat.two_pow_pos 64⟩, ?_⟩
  have whole : memory.data.toList.length ≤ addressLimit - 1 := Nat.le_sub_one_of_lt small
  simp only [remaining, rewind, seek, toBytes, List.take_of_length_le whole, List.drop_zero]

end Memory

namespace Routine

/-- The session that saved the values to a fresh memory. -/
def saved (routine : Routine) (allocator : Allocator) (version : UInt32) (limits : Limits)
    (given : routine.Values) : Session Memory :=
  (routine.run given (Session.start allocator Memory.empty .write version limits)).2

/-- What is loaded again over some old values after the given ones were saved. -/
def reloaded (routine : Routine) (allocator : Allocator) (version : UInt32) (limits : Limits)
    (given old : routine.Values) : (List Reply × routine.Values) × Session Memory :=
  routine.run old (Session.start allocator
    (routine.saved allocator version limits given).stream.rewind .read version limits)

/-- Values that were decoded from the given bytes are stable.  Saving them and loading them
again succeeds exactly if their texts are within the limit.  The values are then the same, and
so is what is saved next.  Numbers are saved as the bytes that they were decoded from. -/
structure IsStable (routine : Routine) (allocator : Allocator) (version : UInt32)
    (limits : Limits) (taken : Bytes) (given : routine.Values) : Prop where
  finishes_iff : ∀ old,
    (routine.saved allocator version limits given).finish = .ok () ∧
        (routine.reloaded allocator version limits given old).2.finish = .ok () ↔
      routine.TextsFit limits given
  values_eq : ∀ old, routine.TextsFit limits given →
    (routine.reloaded allocator version limits given old).1.2 = given
  bytes_eq : ∀ old, routine.TextsFit limits given →
    (routine.saved allocator version limits
        (routine.reloaded allocator version limits given old).1.2).stream.toBytes =
      (routine.saved allocator version limits given).stream.toBytes
  numeric : (∀ step ∈ routine, step.isNumeric = true) →
    (routine.saved allocator version limits given).stream.toBytes = taken

variable {allocator : Allocator} {version : UInt32} {limits : Limits} {routine : Routine}
  {given : routine.Values}

/-- What a session that finished has saved. -/
theorem saved_of_finish (finished : (routine.saved allocator version limits given).finish = .ok ()) :
    Output.Unrefused (routine.outputs given) ∧
      Memory.empty.Stored (routine.outputs given)
        (routine.saved allocator version limits given).stream := by
  have put : routine.saved allocator version limits given =
      (Session.start allocator Memory.empty .write version limits).putAll
        (routine.outputs given) := run_of_writing rfl _ _
  have sound := Session.sound_of_finish finished
  rw [put] at sound ⊢
  exact Session.putAll_of_sound sound

/-- With room for what is not refused, saving finishes. -/
theorem saved_finishes (grants : ∀ size, allocator.grants size = true)
    (unrefused : Output.Unrefused (routine.outputs given))
    (room : (Output.concat (routine.outputs given)).length < addressLimit) :
    (routine.saved allocator version limits given).finish = .ok () := by
  have put : routine.saved allocator version limits given =
      (Session.start allocator Memory.empty .write version limits).putAll
        (routine.outputs given) := run_of_writing rfl _ _
  have start : Memory.empty.cursor + (Output.concat (routine.outputs given)).length =
      (Output.concat (routine.outputs given)).length := Nat.zero_add _
  have sound : (routine.saved allocator version limits given).failure = none := by
    rw [put]
    exact Session.putAll_sound rfl grants unrefused (Nat.lt_of_le_of_lt (Nat.le_of_eq start) room)
  have unmarked : (routine.saved allocator version limits given).mismatch = none := by
    rw [put]
    exact Session.mismatch_putAll _ _
  rw [Session.finish, sound, unmarked]

section Stability

variable (symmetric : ∀ step ∈ routine, step.IsSymmetricIfPresent)
  (faithful : ∀ step ∈ routine, step.IsFaithful)
  (introduced : ∀ step ∈ routine, step.isPresent version = true)
  (grants : ∀ size, allocator.grants size = true)

include symmetric grants

/-- The session that loads again has exactly the encoding ahead. -/
theorem reloading_faces
    (finished : (routine.saved allocator version limits given).finish = .ok ()) :
    Session.Faces ⟨version, limits, (routine.encode given).length⟩
      (Session.start allocator (routine.saved allocator version limits given).stream.rewind
        .read version limits) (routine.encode given) := by
  obtain ⟨unrefused, stored⟩ := saved_of_finish finished
  have held := stored.toBytes_eq
  rw [concat_outputs_ifPresent symmetric unrefused] at held
  have supplied := Memory.supplies_rewind stored.length_lt
  rw [held] at supplied
  exact ⟨rfl, rfl, rfl, rfl, grants, supplied, Nat.zero_add _⟩

include faithful introduced

/-- Where loading again succeeds, the saved lengths were within the limits. -/
theorem fits_of_reloaded (old : routine.Values)
    (finished : (routine.saved allocator version limits given).finish = .ok ())
    (again : (routine.reloaded allocator version limits given old).2.finish = .ok ()) :
    routine.Fits version limits given := by
  obtain ⟨unrefused, _⟩ := saved_of_finish finished
  have faces := reloading_faces symmetric grants finished
  obtain ⟨answers, rest, decoded, _⟩ := decoded_of_finish symmetric introduced faces old again
  have stored := decode_encode limits symmetric faithful introduced unrefused []
  rw [List.append_nil, decoded] at stored
  apply excess?_eq_none_iff.mp
  cases excess : routine.excess? version limits given with
  | none => rfl
  | some failure =>
      rw [excess] at stored
      cases stored

/-- Where the saved lengths are within the limits, loading again succeeds. -/
theorem reloaded_of_fits (old : routine.Values)
    (finished : (routine.saved allocator version limits given).finish = .ok ())
    (fits : routine.Fits version limits given) :
    (routine.reloaded allocator version limits given old).2.finish = .ok () ∧
      (routine.reloaded allocator version limits given old).1.2 =
        routine.restored version given := by
  obtain ⟨unrefused, _⟩ := saved_of_finish finished
  have faces := reloading_faces symmetric grants finished
  have stored := decode_encode limits symmetric faithful introduced unrefused []
  rw [List.append_nil, excess?_eq_none_iff.mpr fits] at stored
  obtain ⟨finish, values, _⟩ := finishes_of_decoded symmetric introduced faces rfl old stored
  exact ⟨finish, values⟩

/-- Normal values are stable. -/
theorem isStable_of_isNormal (normal : routine.IsNormal limits given)
    (room : (routine.encode given).length < addressLimit) {taken : Bytes}
    (numeric : (∀ step ∈ routine, step.isNumeric = true) → routine.encode given = taken) :
    routine.IsStable allocator version limits taken given := by
  have fits_iff := fits_iff_of_isNormal introduced normal
  have saves : routine.TextsFit limits given →
      (routine.saved allocator version limits given).finish = .ok () := by
    intro texts
    have unrefused := unrefused_of_fits symmetric introduced (fits_iff.mpr texts)
    apply saved_finishes grants unrefused
    rw [concat_outputs_ifPresent symmetric unrefused]
    exact room
  have loads : ∀ old, routine.TextsFit limits given →
      (routine.reloaded allocator version limits given old).2.finish = .ok () ∧
        (routine.reloaded allocator version limits given old).1.2 = given := by
    intro old texts
    have restored := reloaded_of_fits symmetric faithful introduced grants old (saves texts)
      (fits_iff.mpr texts)
    rw [restored_of_isNormal introduced normal] at restored
    exact restored
  refine ⟨fun old => ⟨?_, ?_⟩, fun old texts => (loads old texts).2, ?_, ?_⟩
  · rintro ⟨finished, again⟩
    exact fits_iff.mp (fits_of_reloaded symmetric faithful introduced grants old finished again)
  · exact fun texts => ⟨saves texts, (loads old texts).1⟩
  · intro old texts
    rw [(loads old texts).2]
  · intro numbers
    have texts := textsFit_of_isNumeric limits numbers given
    obtain ⟨unrefused, stored⟩ := saved_of_finish (saves texts)
    rw [stored.toBytes_eq, concat_outputs_ifPresent symmetric unrefused, numeric numbers]

end Stability

/-- If a routine finishes loading from the start of a byte string, then its values are stable,
unless there is no room to save them. -/
def LoadsStably {σ : Type} [ByteStream σ] (routine : Routine) (allocator : Allocator)
    (version : UInt32) (limits : Limits) (source : σ) (bytes : Bytes) : Prop :=
  ∀ old : routine.Values,
    let loaded := routine.run old (Session.start allocator source .read version limits)
    loaded.2.finish = .ok () → (routine.encode loaded.1.2).length < addressLimit →
      routine.IsStable allocator version limits (bytes.take loaded.2.position) loaded.1.2

theorem loadsStably_of_faces {σ : Type} [ByteStream σ] [Supply σ]
    (symmetric : ∀ step ∈ routine, step.IsSymmetricIfPresent)
    (faithful : ∀ step ∈ routine, step.IsFaithful)
    (introduced : ∀ step ∈ routine, step.isPresent version = true)
    (grants : ∀ size, allocator.grants size = true) {source : σ} {bytes : Bytes}
    (start : ByteStream.position source = 0)
    (faces : Session.Faces ⟨version, limits, bytes.length⟩
      (Session.start allocator source .read version limits) bytes) :
    routine.LoadsStably allocator version limits source bytes := by
  intro old loaded finished room
  obtain ⟨answers, rest, decoded, accepted, position⟩ :=
    decoded_of_finish symmetric introduced faces old finished
  have normal := (decode_yields introduced).of_ok decoded accepted
  apply isStable_of_isNormal symmetric faithful introduced grants normal room
  intro numbers
  have whole : bytes = routine.encode loaded.1.2 ++ rest :=
    (decode_restates introduced numbers).of_ok decoded
  have origin : (Session.start allocator source .read version limits).position = 0 := start
  have taken : loaded.2.position = (routine.encode loaded.1.2).length := by
    have size := congrArg List.length whole
    rw [List.length_append] at size
    have reached : loaded.2.position + rest.length = _ := position
    omega
  rw [taken]
  conv => rhs; rw [whole]
  rw [List.take_left]

/-- Loading, saving and loading is stable.  Whatever byte string a routine finishes loading,
from memory or from a slice, saving what it loaded and loading that again finishes exactly if
every text, as it was decoded, is within the limit.  The same values are then loaded again and
the same bytes saved again.  A routine of numbers saves the bytes that it had loaded.  The
fields of the routine are present at the version, and no memory is refused. -/
theorem loading_is_stable (symmetric : ∀ step ∈ routine, step.IsSymmetricIfPresent)
    (faithful : ∀ step ∈ routine, step.IsFaithful)
    (introduced : ∀ step ∈ routine, step.isPresent version = true)
    (grants : ∀ size, allocator.grants size = true) (limits : Limits) {bytes : Bytes}
    (addressable : bytes.length < addressLimit) :
    routine.LoadsStably allocator version limits (Memory.ofBytes bytes) bytes ∧
      routine.LoadsStably allocator version limits (Slice.ofBytes bytes) bytes := by
  constructor
  · exact loadsStably_of_faces symmetric faithful introduced grants rfl
      (Memory.faces_ofBytes grants version limits addressable)
  · exact loadsStably_of_faces symmetric faithful introduced grants rfl
      (Slice.faces_ofBytes grants version limits bytes)

/-- One ill-formed byte is loaded as a replacement character of three bytes.  It is saved as
such, and loaded again where the limit is three bytes but not where it is two. -/
theorem loading_is_stable_of_replacement_character :
    let routine : Routine := [.value .text, .value .bool]
    let old : routine.Values := ("", false, ())
    let stable (limits : Limits) := routine.IsStable .unbounded 0 limits [1, 0, 0, 0, 255, 7]
      ("\uFFFD", true, ())
    let saved (limits : Limits) := routine.saved .unbounded 0 limits ("\uFFFD", true, ())
    let reloaded (limits : Limits) := routine.reloaded .unbounded 0 limits ("\uFFFD", true, ()) old
    (stable ⟨3, 0⟩ ∧ (saved ⟨3, 0⟩).stream.toBytes = [3, 0, 0, 0, 0xEF, 0xBF, 0xBD, 1] ∧
        (reloaded ⟨3, 0⟩).1.2 = ("\uFFFD", true, ())) ∧
      (stable ⟨2, 0⟩ ∧
        ¬((saved ⟨2, 0⟩).finish = .ok () ∧ (reloaded ⟨2, 0⟩).2.finish = .ok ())) := by
  intro routine old stable saved reloaded
  have symmetric : ∀ step ∈ routine, step.IsSymmetricIfPresent := by
    simp [routine, Step.IsSymmetricIfPresent, Step.IsSymmetric]
  have faithful : ∀ step ∈ routine, step.IsFaithful := by simp [routine, Step.IsFaithful]
  have introduced : ∀ step ∈ routine, step.isPresent 0 = true := by simp [routine, Step.isPresent]
  have grants : ∀ size, Allocator.unbounded.grants size = true := fun _ => rfl
  have addressable : ([1, 0, 0, 0, 255, 7] : Bytes).length < addressLimit := by decide
  have encoded : routine.encode ("\uFFFD", true, ()) = [3, 0, 0, 0, 0xEF, 0xBF, 0xBD, 1] := rfl
  have room : (routine.encode ("\uFFFD", true, ())).length < addressLimit := by
    rw [encoded]
    decide
  have stays : ∀ limits, routine.decode 0 limits [1, 0, 0, 0, 255, 7] =
      .ok ((routine.map fun _ => true, ("\uFFFD", true, ())), []) → stable limits := by
    intro limits decoded
    have faces := Memory.faces_ofBytes grants 0 limits addressable
    obtain ⟨finished, values, position⟩ :=
      finishes_of_decoded symmetric introduced faces rfl old decoded
    have loads := (loading_is_stable symmetric faithful introduced grants limits addressable).1 old
      finished
    rw [values, show Session.position _ = 6 from position] at loads
    exact loads room
  have ill : Utf8.first [255] = ('\uFFFD', []) := by decide
  have replaced : Utf8.decodeLossy [255] = "\uFFFD" := by
    rw [Utf8.decodeLossy_of_ne_nil (by simp), ill, Utf8.decodeLossy_nil]
    rfl
  have enough : stable ⟨3, 0⟩ := by
    apply stays
    rw [← replaced]
    rfl
  have short : stable ⟨2, 0⟩ := by
    apply stays
    rw [← replaced]
    rfl
  have fits : 3 ≤ 3 := Nat.le_refl 3
  have again := enough.values_eq old ⟨fits, trivial, trivial⟩
  refine ⟨⟨enough, rfl, ?_⟩, short, fun both => ?_⟩
  · -- Unfolding the runs would evaluate them.
    with_reducible exact again
  · have within : 3 ≤ 2 := ((short.finishes_iff old).mp both).1
    exact absurd within (by decide)

end Routine

end Snapshot
