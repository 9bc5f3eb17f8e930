import Snapshot.Proofs.Following
import Snapshot.Proofs.Presence

/-!
# Restoring is decoding

Each way in which a session restores a value follows the decoder of the value's layout,
whatever the destination held before.  Hence a routine that reads arbitrary bytes ends
as the decoder of the routine does: with the decoded values at the end of the stored
form, or with the failure of the first violation.
-/

namespace Snapshot

namespace Session

variable {σ : Type} [ByteStream σ] [Supply σ] {setting : Setting}

/-- An operation that does, in front of any bytes, what another one does. -/
theorem Follows.of_eq {α : Type} {act act' : Session σ → α × Session σ} {decoder : Decoder α}
    (follows : Follows setting act decoder) {marks : Bool} {mode : Session σ → Mode}
    (moves : ∀ session, Moves marks (mode session) session (act' session).2)
    (same : ∀ {session : Session σ} {bytes : Bytes}, Faces setting session bytes →
      act' session = act session) : Follows setting act' decoder where
  takes := by
    intro session bytes rest value faces done
    rw [same faces]
    exact follows.takes faces done
  fails := by
    intro session bytes failure faces failed
    rw [same faces]
    exact follows.fails faces failed
  stays := fun failed => (moves _).eq_of_hasFailed failed

/-! ## Texts -/

theorem readText_follows :
    Follows setting (fun session : Session σ => session.readText)
      (Layout.text.decode setting.limits) := by
  have payload : ∀ length, Follows setting (fun session : Session σ =>
      session.readChunks 1 length fun count session => session.readBytes (Bytes.zeros count))
      (Decoder.bytes length) := by
    intro length
    exact readChunks_follows Decoder.bytes_isAdditive
      (fun count => readBytes_follows (Bytes.length_zeros count)) 1 length
  have whole := (Follows.afterLength setting.limits.text payload).map
    fun stored => Utf8.decodeLossy (Bytes.beforeZero stored)
  refine whole.of_eq readText_moves ?_
  intro session bytes faces
  rw [← faces.limits_eq]
  rfl

theorem reportTruncation_follows (length capacity : Nat) :
    Follows setting (fun session : Session σ => ((), session.reportTruncation length capacity))
      (.succeed ()) where
  takes := by
    intro session bytes rest value faces done
    cases done
    refine ⟨rfl, ?_⟩
    unfold reportTruncation
    split
    · exact ⟨faces.sound, faces.reading, faces.version_eq, faces.limits_eq, faces.grants,
        faces.supplied, faces.stop_eq⟩
    · exact faces
  fails := by
    intro session bytes failure faces failed
    cases failed
  stays := by
    intro session failed
    exact (reportTruncation_moves length capacity session).eq_of_hasFailed failed

/-- The bytes that a small text has no room for are dropped after they are read. -/
theorem ofBytes_take_append (capacity : Nat) {length : Nat} {kept : Bytes}
    (size : kept.length = min length capacity) (dropped : Bytes)
    (rest : dropped.length = length - capacity) :
    SmallText.ofBytes capacity (kept ++ dropped) = SmallText.ofBytes capacity kept := by
  have same : (kept ++ dropped).take capacity = kept.take capacity := by
    by_cases fits : length ≤ capacity
    · have nothing : dropped = [] := List.eq_nil_of_length_eq_zero (by omega)
      rw [nothing, List.append_nil]
    · rw [List.take_append_of_le_length (by omega)]
  simp only [SmallText.ofBytes, same]

/-- A small text may be decoded from what is kept of it. -/
theorem payload_map_ofBytes (capacity : Nat) (limit : UInt32) :
    (Decoder.payload limit).map (SmallText.ofBytes capacity) =
      (Decoder.length limit).andThen fun length =>
        (Decoder.bytes (min length capacity)).andThen fun kept =>
          (Decoder.bytes (length - capacity)).map fun _ => SmallText.ofBytes capacity kept := by
  rw [Decoder.payload, Decoder.andThen_map]
  congr 1
  funext length
  have whole : length = min length capacity + (length - capacity) := by omega
  have split := Decoder.bytes_isAdditive.add (min length capacity) (length - capacity)
  rw [← whole] at split
  rw [split, Decoder.andThen_map]
  apply Decoder.bytes_andThen_congr
  intro kept size
  rw [Decoder.map_map]
  apply Decoder.bytes_andThen_congr
  intro dropped rest
  dsimp only
  rw [ofBytes_take_append capacity size dropped rest]

theorem readSmallText_follows (capacity : Nat) :
    Follows setting (fun session : Session σ => session.readSmallText capacity)
      ((Decoder.payload setting.limits.text).map (SmallText.ofBytes capacity)) := by
  have dropped : ∀ length, Follows setting (fun session : Session σ =>
      ((), (session.reportTruncation length capacity).skip (length - capacity)))
      ((Decoder.bytes (length - capacity)).map fun _ => ()) := by
    intro length
    exact (reportTruncation_follows length capacity).andThen fun _ =>
      skip_follows (length - capacity)
  have kept : ∀ length, Follows setting (fun session : Session σ =>
      session.readBytes (Bytes.zeros (min length capacity)))
      (Decoder.bytes (min length capacity)) := by
    intro length
    exact readBytes_follows (Bytes.length_zeros _)
  have whole := Follows.afterLength setting.limits.text fun length =>
    (kept length).andThen fun stored =>
      (dropped length).map fun _ => SmallText.ofBytes capacity stored
  simp only [Decoder.map_map] at whole
  rw [payload_map_ofBytes]
  refine whole.of_eq (readSmallText_moves capacity) ?_
  intro session bytes faces
  rw [← faces.limits_eq]
  rfl

/-! ## Values -/

theorem readList_follows {item : Layout} {readItem : item.Value → Session σ → item.Value × Session σ}
    {decoder : Decoder item.Value} (reads : ∀ old, Follows setting (readItem old) decoder)
    (moves : ∀ old session, Moves false .read session (readItem old session).2) :
    Follows setting (fun session : Session σ => session.readList item readItem)
      ((Decoder.length setting.limits.collection).andThen (Decoder.times decoder)) := by
  have chunk : ∀ count, Follows setting (fun session : Session σ =>
      session.each readItem (List.replicate count item.blank)) (Decoder.times decoder count) := by
    intro count
    have items := each_follows reads (List.replicate count item.blank)
    rw [List.length_replicate] at items
    exact items
  have elements : ∀ length, Follows setting (fun session : Session σ =>
      session.readChunks item.size length fun count session =>
        session.each readItem (List.replicate count item.blank)) (Decoder.times decoder length) :=
    readChunks_follows (Decoder.times_isAdditive decoder) chunk item.size
  have whole := Follows.afterLength setting.limits.collection elements
  refine whole.of_eq (readList_moves moves) ?_
  intro session bytes faces
  rw [← faces.limits_eq]
  rfl

/-- Restoring a value follows the decoder of its layout, whatever the destination held. -/
theorem restore_follows (layout : Layout) (old : layout.Value) :
    Follows setting (fun session : Session σ => session.restore layout old)
      (layout.decode setting.limits) := by
  induction layout with
  | unit =>
      have nothing : Follows setting (fun session : Session σ => session.readBytes [])
          (Decoder.bytes 0) := readBytes_follows rfl
      exact nothing.map fun _ => ()
  | scalar kind =>
      have stored : Follows setting (fun session : Session σ => session.readBytes (kind.encode old))
          (Decoder.bytes kind.width) := readBytes_follows (kind.length_encode old)
      exact stored.map kind.decode
  | bool => exact readFlag_follows
  | text => exact readText_follows
  | smallText capacity => exact readSmallText_follows capacity
  | array item length ih => exact eachFixed_follows ih old
  | list item ih => exact readList_follows ih (fun old session => restore_moves item old session)
  | deque item ih =>
      exact (readList_follows ih fun old session => restore_moves item old session).map Deque.ofList

theorem transfer_follows (layout : Layout) (value : layout.Value) :
    Follows setting (fun session : Session σ => session.transfer layout value)
      (layout.decode setting.limits) := by
  refine (restore_follows layout value).of_eq (transferValue_moves layout value) ?_
  intro session bytes faces
  rw [transfer, faces.reading]

theorem transferBytes_follows {length : Nat} (buffer : Fixed UInt8 length) :
    Follows setting (fun session : Session σ => session.transferBytes buffer)
      (Decoder.take length) := by
  have stored : Follows setting (fun session : Session σ => session.readBytes buffer.items)
      (Decoder.bytes length) := readBytes_follows buffer.length_eq
  constructor
  · intro session bytes rest value faces done
    obtain ⟨same, reached⟩ := stored.takes faces (Decoder.map_of_ok done)
    rw [transferBytes, faces.reading]
    exact ⟨Fixed.ext same, reached⟩
  · intro session bytes failure faces failed
    rw [transferBytes, faces.reading]
    exact stored.fails faces (Decoder.map_eq_error_iff.mpr failed)
  · intro session failed
    exact (transferBytes_moves buffer session).eq_of_hasFailed failed

theorem transferBlock_follows {layout : Layout} (plain : layout.isPlain = true)
    (value : layout.Value) :
    Follows setting (fun session : Session σ => session.transferBlock layout value)
      (layout.decode setting.limits) := by
  have stored : Follows setting (fun session : Session σ =>
      session.readBytes (layout.encode value)) (Decoder.bytes layout.size) :=
    readBytes_follows (Layout.length_encode_of_isPlain plain value)
  rw [Layout.decode_of_isPlain plain]
  refine (stored.map layout.ofBlock).of_eq (transferBlock_moves layout value) ?_
  intro session bytes faces
  rw [transferBlock, faces.reading]

theorem transferBlocks_follows {item : Layout} (plain : item.isPlain = true)
    (values : List item.Value) :
    Follows setting (fun session : Session σ => session.transferBlocks item values)
      ((Layout.list item).decode setting.limits) := by
  have chunk : ∀ count, Follows setting (fun session : Session σ =>
      ((Bytes.groups item.size count
          (session.readBytes (Bytes.zeros (count * item.size))).1).map item.ofBlock,
        (session.readBytes (Bytes.zeros (count * item.size))).2))
      (Decoder.times (item.decode setting.limits) count) := by
    intro count
    have stored : Follows setting (fun session : Session σ =>
        session.readBytes (Bytes.zeros (count * item.size)))
        (Decoder.bytes (count * item.size)) := readBytes_follows (Bytes.length_zeros _)
    rw [Layout.decode_of_isPlain plain, Decoder.times_bytes]
    exact stored.map fun block => (Bytes.groups item.size count block).map item.ofBlock
  have elements := fun length => readChunks_follows
    (Decoder.times_isAdditive (item.decode setting.limits)) chunk item.size length
  have whole := Follows.afterLength setting.limits.collection elements
  refine whole.of_eq (transferBlocks_moves item values) ?_
  intro session bytes faces
  rw [transferBlocks, faces.reading, ← faces.limits_eq]

theorem transferUnits_follows (count : Nat) :
    Follows setting (fun session : Session σ => session.transferUnits count)
      (Decoder.length setting.limits.collection) := by
  have counts : ∀ length, Follows setting (fun session : Session σ =>
      session.inChunks 0 length
        (fun chunk count session => (count + chunk, (session.readBytes []).2)) 0 0 0)
      (.succeed length) := by
    intro length
    have chunk : ∀ chunk count : Nat, Follows setting (fun session : Session σ =>
        (count + chunk, (session.readBytes []).2)) (.succeed (count + chunk)) := by
      intro chunk count
      have nothing : Follows setting (fun session : Session σ => session.readBytes [])
          (Decoder.bytes 0) := readBytes_follows rfl
      rw [Decoder.bytes_isAdditive.zero] at nothing
      exact nothing.map fun _ => count + chunk
    have whole := inChunks_follows (fun chunk count => Decoder.succeed (count + chunk))
      (fun count => rfl) (fun first second count => by simp [Nat.add_assoc]) chunk 0 length 0 0 0
    rw [Nat.zero_add, Nat.sub_zero] at whole
    exact whole
  have kept : ∀ length, Follows setting (fun session : Session σ =>
      let result := session.inChunks 0 length
        (fun chunk count session => (count + chunk, (session.readBytes []).2)) 0 0 0
      (if result.2.hasFailed then 0 else result.1, result.2)) (.succeed length) := by
    intro length
    constructor
    · intro session bytes rest value faces done
      obtain ⟨same, reached⟩ := (counts length).takes faces done
      have sound := hasFailed_eq_false.mpr reached.sound
      dsimp only
      rw [sound]
      exact ⟨same, reached⟩
    · intro session bytes failure faces failed
      exact (counts length).fails faces failed
    · intro session failed
      exact (counts length).stays failed
  have whole := Follows.afterLength setting.limits.collection kept
  refine (whole.congr (fun _ => rfl) (Decoder.map_id _)).of_eq (transferUnits_moves count) ?_
  intro session bytes faces
  rw [transferUnits, faces.reading, ← faces.limits_eq]

theorem transferVariant_follows (enumeration : Enumeration) (variant : enumeration.Variant) :
    Follows setting (fun session : Session σ => session.transferVariant enumeration variant)
      (Decoder.variant enumeration) := by
  have stored : Follows setting (fun session : Session σ =>
      session.readBytes (enumeration.scalar.encode (enumeration.toRepr variant)))
      (Decoder.bytes enumeration.scalar.width) :=
    readBytes_follows (enumeration.scalar.length_encode _)
  have number : ∀ stored : Bytes, Follows setting (fun session : Session σ =>
      (enumeration.ofRepr? (enumeration.scalar.decode stored)).elim
        (enumeration.default,
          session.fail (enumeration.unknown (enumeration.scalar.decode stored)))
        fun found => (if session.hasFailed then enumeration.default else found, session))
      (.ofOption (enumeration.unknown (enumeration.scalar.decode stored))
        (enumeration.ofRepr? (enumeration.scalar.decode stored))) := by
    intro stored
    cases enumeration.ofRepr? (enumeration.scalar.decode stored) with
    | none => exact .refuse enumeration.default _
    | some found =>
        have unmoved : ∀ session : Session σ, Moves false .read session session := .refl
        refine (Follows.succeed found).of_eq unmoved ?_
        intro session bytes faces
        simp [hasFailed, faces.sound]
  refine (stored.andThen number).of_eq (transferVariant_moves enumeration variant) ?_
  intro session bytes faces
  rw [transferVariant, faces.reading]
  dsimp only
  cases enumeration.ofRepr? (enumeration.scalar.decode (session.readBytes
    (enumeration.scalar.encode (enumeration.toRepr variant))).1) with
  | none => rfl
  | some found => rfl

/-! ## Markers -/

theorem readMarker_follows (expected : String) :
    Follows setting (fun session : Session σ => session.readMarker expected)
      ((Decoder.payload setting.limits.text).map fun stored =>
        decide ((SmallText.ofBytes markerCapacity stored).text = expected)) := by
  have compared : ∀ found : SmallText markerCapacity, Follows setting (fun session : Session σ =>
      if session.hasFailed then
        (false, session)
      else if found.text = expected then
        (true, session)
      else
        (false, session.recordMismatch found.text expected))
      (.succeed (decide (found.text = expected))) := by
    intro found
    constructor
    · intro session bytes rest value faces done
      cases done
      have unfailed : ¬session.hasFailed = true := by simp [hasFailed, faces.sound]
      rw [if_neg unfailed]
      by_cases same : found.text = expected
      · rw [if_pos same, decide_eq_true same]
        exact ⟨rfl, faces⟩
      · rw [if_neg same, decide_eq_false same]
        exact ⟨rfl, faces.sound, faces.reading, faces.version_eq, faces.limits_eq, faces.grants,
          faces.supplied, faces.stop_eq⟩
    · intro session bytes failure faces failed
      cases failed
    · intro session failed
      rw [if_pos failed]
  have read : Follows setting (fun session : Session σ => session.readSmallText markerCapacity)
      ((Decoder.payload setting.limits.text).map (SmallText.ofBytes markerCapacity)) :=
    readSmallText_follows markerCapacity
  have whole := read.andThen compared
  rw [Decoder.map_andThen] at whole
  exact whole

theorem marker_follows {expected : String} (short : expected.utf8ByteSize ≤ markerCapacity) :
    Follows setting (fun session : Session σ => session.marker expected)
      ((Decoder.payload setting.limits.text).map fun stored =>
        .ok (decide ((SmallText.ofBytes markerCapacity stored).text = expected))) := by
  have read : Follows setting (fun session : Session σ => session.readMarker expected)
      ((Decoder.payload setting.limits.text).map fun stored =>
        decide ((SmallText.ofBytes markerCapacity stored).text = expected)) :=
    readMarker_follows expected
  have answered := read.map (.ok : Bool → Except Misuse Bool)
  rw [Decoder.map_map] at answered
  refine answered.of_eq (marker_moves expected) ?_
  intro session bytes faces
  rw [marker, if_neg (Nat.not_lt_of_le short), faces.reading]

end Session

/-- Whether a reply is neither that of a rejected marker nor that of misuse. -/
def Reply.isAccepted : Reply → Bool
  | .done => true
  | .matched accepted => accepted
  | .checked (.ok ()) => true
  | .checked (.error _) => false
  | .refused _ => false

variable {σ : Type} [ByteStream σ]

/-- What a step does, of its reply only whether it is accepted. -/
def Step.perform (step : Step) (given : step.Value) (session : Session σ) :
    (Bool × step.Value) × Session σ :=
  (((step.run given session).1.1.isAccepted, (step.run given session).1.2),
    (step.run given session).2)

/-- What a routine does, of its replies only whether they are accepted. -/
def Routine.perform (routine : Routine) (given : routine.Values) (session : Session σ) :
    (List Bool × routine.Values) × Session σ :=
  (((routine.run given session).1.1.map Reply.isAccepted, (routine.run given session).1.2),
    (routine.run given session).2)

theorem Routine.perform_cons (step : Step) (steps : Routine)
    (given : Values (step :: steps)) (session : Session σ) :
    perform (step :: steps) given session =
      (((step.perform given.1 session).1.1 ::
          (perform steps given.2 (step.perform given.1 session).2).1.1,
        ((step.perform given.1 session).1.2,
          (perform steps given.2 (step.perform given.1 session).2).1.2)),
        (perform steps given.2 (step.perform given.1 session).2).2) :=
  rfl

/-! ## Accepted markers -/

theorem Session.mismatch_of_readMarker {expected : String} {session : Session σ}
    (accepted : (session.readMarker expected).1 = true) :
    (session.readMarker expected).2.mismatch = session.mismatch := by
  have unmarked := (readSmallText_moves markerCapacity session).mismatch_eq
  unfold readMarker at accepted ⊢
  dsimp only at accepted ⊢
  split at accepted
  · cases accepted
  · next unfailed =>
      rw [if_neg unfailed]
      split at accepted
      · next same =>
          rw [if_pos same]
          exact unmarked
      · cases accepted

theorem Session.mismatch_of_marker {expected : String} {session : Session σ}
    (accepted : (session.marker expected).1 = .ok true) :
    (session.marker expected).2.mismatch = session.mismatch := by
  unfold marker at accepted ⊢
  split at accepted
  · cases accepted
  · next short =>
      rw [if_neg short]
      cases mode : session.mode with
      | write => exact (writeText_moves expected session).mismatch_eq
      | read =>
          rw [mode] at accepted
          exact mismatch_of_readMarker (Except.ok.inj accepted)

/-- Checking a marker does what reading it does. -/
theorem Step.perform_expect (expected : String) (given : Unit) (session : Session σ) :
    (Step.expect expected).perform given session = (Step.marker expected).perform given session := by
  rw [perform, perform, run_expect, run_marker, Session.expectMarker]
  cases outcome : session.marker expected with
  | mk answer next =>
      cases answer with
      | error misuse => rfl
      | ok accepted => cases accepted <;> rfl

theorem Step.mismatch_of_perform_marker {expected : String} {given : Unit} {session : Session σ}
    (accepted : ((Step.marker expected).perform given session).1.1 = true) :
    ((Step.marker expected).perform given session).2.mismatch = session.mismatch := by
  rw [perform, run_marker] at accepted ⊢
  apply Session.mismatch_of_marker
  cases answer : (session.marker expected).1 with
  | ok matched =>
      rw [answer] at accepted
      exact congrArg Except.ok accepted
  | error misuse =>
      rw [answer] at accepted
      cases accepted

theorem Step.mismatch_of_accepted {step : Step} {given : step.Value} {session : Session σ}
    (accepted : (step.perform given session).1.1 = true) :
    (step.perform given session).2.mismatch = session.mismatch := by
  have moves := step.run_moves given session
  cases step with
  | marker expected => exact mismatch_of_perform_marker accepted
  | expect expected =>
      rw [perform_expect] at accepted ⊢
      exact mismatch_of_perform_marker accepted
  | _ => exact moves.mismatch_eq

/-- As long as every marker is accepted, no mismatch is recorded. -/
theorem Routine.mismatch_of_accepted {routine : Routine} {given : routine.Values}
    {session : Session σ}
    (accepted : ∀ answer ∈ (routine.perform given session).1.1, answer = true) :
    (routine.perform given session).2.mismatch = session.mismatch := by
  induction routine generalizing session with
  | nil => rfl
  | cons step steps ih =>
      rw [perform_cons] at accepted ⊢
      obtain ⟨first, later⟩ := List.forall_mem_cons.mp accepted
      exact (ih later).trans (Step.mismatch_of_accepted first)

variable [Supply σ] {setting : Session.Setting}

namespace Step

theorem perform_marker_follows {expected : String}
    (short : expected.utf8ByteSize ≤ markerCapacity) (given : Unit) :
    Session.Follows setting (fun session : Session σ => (marker expected).perform given session)
      ((marker expected).decode setting.version setting.limits) := by
  have read : Session.Follows setting (fun session : Session σ => session.marker expected)
      ((Decoder.payload setting.limits.text).map fun stored =>
        .ok (decide ((SmallText.ofBytes markerCapacity stored).text = expected))) :=
    Session.marker_follows short
  have replied := read.map fun answer => ((Reply.ofExcept .matched answer).isAccepted, ())
  rw [Decoder.map_map] at replied
  refine replied.congr ?_ rfl
  intro session
  rw [perform, run_marker]

omit [Supply σ] in
/-- An absent step reads nothing and yields its default. -/
theorem perform_of_absent {step : Step} (symmetric : step.IsSymmetric) {session : Session σ}
    (reading : session.mode = .read) (absent : step.isPresent session.version = false)
    (given : step.Value) :
    step.perform given session = ((true, step.absentValue step.blank), session) := by
  cases step with
  | field layout gate =>
      rw [isPresent] at absent
      simp [perform, run, Session.transferField, reading, absent, Reply.isAccepted, absentValue]
  | bytesField length gate =>
      obtain ⟨default, found⟩ := Fixed.exists_ofList? symmetric
      rw [isPresent] at absent
      simp [perform, run_bytesField, Session.transferBytesField, reading, absent, found,
        Reply.ofExcept, Reply.isAccepted, absentValue]
  | _ => cases absent

/-- Whatever a present step follows, the step follows its decoder. -/
theorem perform_follows_of_present {step : Step} (symmetric : step.IsSymmetric)
    {given : step.Value} {act : Session σ → (Bool × step.Value) × Session σ}
    (follows : Session.Follows setting act (step.decodePresent setting.limits))
    (same : ∀ session : Session σ, step.isPresent session.version = true →
      step.perform given session = act session) :
    Session.Follows setting (fun session : Session σ => step.perform given session)
      (step.decode setting.version setting.limits) := by
  have moves : ∀ session : Session σ,
      Session.Moves step.marks session.mode session (step.perform given session).2 :=
    step.run_moves given
  cases present : step.isPresent setting.version with
  | true =>
      rw [decode, if_pos present]
      refine follows.of_eq moves ?_
      intro session bytes faces
      rw [← faces.version_eq] at present
      exact same session present
  | false =>
      rw [decode, if_neg (by simp [present])]
      refine (Session.Follows.succeed _).of_eq moves ?_
      intro session bytes faces
      rw [← faces.version_eq] at present
      exact perform_of_absent symmetric faces.reading present given

theorem perform_field_follows (layout : Layout) (gate : VersionedField layout.Value)
    (given : layout.Value) :
    Session.Follows setting (fun session : Session σ => (field layout gate).perform given session)
      ((field layout gate).decode setting.version setting.limits) := by
  have symmetric : (field layout gate).IsSymmetric := trivial
  refine perform_follows_of_present symmetric
    ((Session.transfer_follows layout given).map (true, ·)) ?_
  intro session present
  rw [isPresent] at present
  simp [perform, run, Session.transferField, present, Reply.isAccepted]

theorem perform_bytesField_follows {length : Nat} {gate : VersionedField Bytes}
    (fits : gate.default.length = length) (given : Fixed UInt8 length) :
    Session.Follows setting
      (fun session : Session σ => (bytesField length gate).perform given session)
      ((bytesField length gate).decode setting.version setting.limits) := by
  have symmetric : (bytesField length gate).IsSymmetric := fits
  refine perform_follows_of_present symmetric
    ((Session.transferBytes_follows given).map (true, ·)) ?_
  intro session present
  rw [isPresent] at present
  simp [perform, run_bytesField, Session.transferBytesField, present, Reply.ofExcept,
    Reply.isAccepted]

/-- A symmetric step follows its decoder, whatever the destination held. -/
theorem perform_follows {step : Step} (symmetric : step.IsSymmetric) (given : step.Value) :
    Session.Follows setting (fun session : Session σ => step.perform given session)
      (step.decode setting.version setting.limits) := by
  cases step with
  | value layout => exact (Session.transfer_follows layout given).map (true, ·)
  | field layout gate => exact perform_field_follows layout gate given
  | block layout plain => exact (Session.transferBlock_follows plain given).map (true, ·)
  | blocks item plain => exact (Session.transferBlocks_follows plain given).map (true, ·)
  | units => exact (Session.transferUnits_follows given).map (true, ·)
  | bytes length => exact (Session.transferBytes_follows given).map (true, ·)
  | bytesField length gate => exact perform_bytesField_follows symmetric given
  | variant enumeration => exact (Session.transferVariant_follows enumeration given).map (true, ·)
  | marker expected => exact perform_marker_follows symmetric given
  | expect expected =>
      refine (perform_marker_follows symmetric given).congr ?_ rfl
      intro session
      exact (perform_expect expected given session).symm
  | lend text => cases symmetric
  | invalidate reason => cases symmetric
  | abandon reason => cases symmetric

end Step

/-- A routine of symmetric steps follows its decoder. -/
theorem Routine.perform_follows {routine : Routine}
    (symmetric : ∀ step ∈ routine, step.IsSymmetric) (given : routine.Values) :
    Session.Follows setting (fun session : Session σ => routine.perform given session)
      (routine.decode setting.version setting.limits) := by
  induction routine with
  | nil => exact .succeed ([], ())
  | cons step steps ih =>
      obtain ⟨first, later⟩ := List.forall_mem_cons.mp symmetric
      exact (step.perform_follows first given.1).andThen fun front =>
        (ih later given.2).map fun rest => (front.1 :: rest.1, (front.2, rest.2))

/-- A session over memory has all of it ahead. -/
theorem Memory.faces_ofBytes {allocator : Allocator}
    (grants : ∀ size, allocator.grants size = true) (version : UInt32) (limits : Limits)
    {bytes : Bytes} (addressable : bytes.length < addressLimit) :
    Session.Faces ⟨version, limits, bytes.length⟩
      (Session.start allocator (Memory.ofBytes bytes) .read version limits) bytes :=
  ⟨rfl, rfl, rfl, rfl, grants, supplies_ofBytes addressable, Nat.zero_add _⟩

/-- A session over a slice has all of it ahead. -/
theorem Slice.faces_ofBytes {allocator : Allocator}
    (grants : ∀ size, allocator.grants size = true) (version : UInt32) (limits : Limits)
    (bytes : Bytes) :
    Session.Faces ⟨version, limits, bytes.length⟩
      (Session.start allocator (Slice.ofBytes bytes) .read version limits) bytes :=
  ⟨rfl, rfl, rfl, rfl, grants, supplies_ofBytes bytes, Nat.zero_add _⟩

/-- The outcome of reading a byte string from its start agrees with the decoder and with
the stored form: the same values and the position behind them, or the same failure. -/
structure Routine.Agrees (routine : Routine) (version : UInt32) (limits : Limits)
    (bytes : Bytes) (outcome : (List Reply × routine.Values) × Session σ) : Prop where
  decoded : ∀ {accepted : List Bool} {values : routine.Values} {rest : Bytes},
    routine.decode version limits bytes = .ok ((accepted, values), rest) →
      outcome.2.failure = none ∧ outcome.1.2 = values ∧
        outcome.1.1.map Reply.isAccepted = accepted ∧
        outcome.2.position + rest.length = bytes.length
  refused : ∀ {failure : Failure}, routine.decode version limits bytes = .error failure →
    outcome.2.failure = some failure
  sound_iff : outcome.2.failure = none ↔
    ∃ front rest, bytes = front ++ rest ∧ routine.IsStored version limits front
  position_eq : ∀ {front rest : Bytes}, bytes = front ++ rest →
    routine.IsStored version limits front → outcome.2.position = front.length
  failed_iff : ∀ {failure : Failure}, outcome.2.failure = some failure ↔
    routine.Violates version limits bytes failure

/-- A session in front of a byte string reads what the routine's decoder finds in it. -/
theorem Routine.agrees_of_faces {routine : Routine}
    (symmetric : ∀ step ∈ routine, step.IsSymmetric) (given : routine.Values)
    {version : UInt32} {limits : Limits} {session : Session σ} {bytes : Bytes}
    (faces : Session.Faces ⟨version, limits, bytes.length⟩ session bytes) :
    routine.Agrees version limits bytes (routine.run given session) := by
  have follows : Session.Follows ⟨version, limits, bytes.length⟩
      (fun session : Session σ => routine.perform given session)
      (routine.decode version limits) := perform_follows symmetric given
  have recognizes := routine.decode_recognizes version limits
  have decoded : ∀ {outcome rest}, routine.decode version limits bytes = .ok (outcome, rest) →
      (routine.perform given session).1 = outcome ∧
        (routine.run given session).2.failure = none ∧
        (routine.run given session).2.position + rest.length = bytes.length := by
    intro outcome rest done
    obtain ⟨same, reached⟩ := follows.takes faces done
    exact ⟨same, reached.sound, reached.stop_eq⟩
  have refused : ∀ {failure}, routine.decode version limits bytes = .error failure →
      (routine.run given session).2.failure = some failure :=
    fun failed => follows.fails faces failed
  constructor
  · intro accepted values rest done
    obtain ⟨same, sound, position⟩ := decoded done
    obtain ⟨replies, left⟩ := Prod.mk.inj same
    exact ⟨sound, left, replies, position⟩
  · exact refused
  · constructor
    · intro sound
      rcases recognizes.starts_or_violates bytes with stored | ⟨failure, violates⟩
      · exact stored
      · rw [refused ((recognizes.fails _ _).mpr violates)] at sound
        cases sound
    · rintro ⟨front, rest, split, stored⟩
      obtain ⟨outcome, done⟩ := (recognizes.takes _ _).mpr ⟨front, split, stored⟩
      exact (decoded done).2.1
  · intro front rest split stored
    obtain ⟨outcome, done⟩ := (recognizes.takes _ _).mpr ⟨front, split, stored⟩
    have position := (decoded done).2.2
    rw [split, List.length_append] at position
    omega
  · intro failure
    constructor
    · intro failed
      cases outcome : routine.decode version limits bytes with
      | ok result =>
          rw [(decoded outcome).2.1] at failed
          cases failed
      | error first =>
          rw [refused outcome] at failed
          cases failed
          exact (recognizes.fails _ _).mp outcome
    · intro violates
      exact refused ((recognizes.fails _ _).mpr violates)

/-- Reading arbitrary bytes refines the decoder.  Whatever bytes a memory or a slice
holds and whatever the destinations held, a routine ends in the decoder's values, right
behind the stored form with which the bytes start, or in the failure of the first
violation where they start with none. -/
theorem Routine.reading_refines_decoding {routine : Routine}
    (symmetric : ∀ step ∈ routine, step.IsSymmetric) (given : routine.Values)
    {allocator : Allocator} (grants : ∀ size, allocator.grants size = true)
    (version : UInt32) (limits : Limits) {bytes : Bytes}
    (addressable : bytes.length < addressLimit) :
    routine.Agrees version limits bytes
        (routine.run given
          (Session.start allocator (Memory.ofBytes bytes) .read version limits)) ∧
      routine.Agrees version limits bytes
        (routine.run given
          (Session.start allocator (Slice.ofBytes bytes) .read version limits)) := by
  have memory := Memory.faces_ofBytes grants version limits addressable
  have slice := Slice.faces_ofBytes grants version limits bytes
  exact ⟨agrees_of_faces symmetric given memory, agrees_of_faces symmetric given slice⟩

/-- State of an old version is read without its later field, up to the byte that the
routine does not ask for; a list that announces three numbers and holds two breaks off. -/
theorem Routine.reading_refines_decoding_of_old_state :
    let routine : Routine := [.field .text ⟨5, "none"⟩, .value (.list (.scalar .u8))]
    let whole := Session.start .unbounded (Memory.ofBytes [2, 0, 0, 0, 8, 9, 7]) .read 4 .standard
    let short := Session.start .unbounded (Slice.ofBytes [3, 0, 0, 0, 8, 9]) .read 4 .standard
    (∀ step ∈ routine, step.IsSymmetric) ∧
      (routine.run ("old", [1#8], ()) whole).1.2 = ("none", [8#8, 9#8], ()) ∧
      (routine.run ("old", [1#8], ()) whole).2.position = 6 ∧
      (routine.run ("old", [1#8], ()) short).2.failure = some (.stream .unexpectedEnd) := by
  intro routine whole short
  have symmetric : ∀ step ∈ routine, step.IsSymmetric := by
    simp [routine, Step.IsSymmetric]
  have grants : ∀ size, Allocator.unbounded.grants size = true := fun _ => rfl
  have wholeFits : ([2, 0, 0, 0, 8, 9, 7] : Bytes).length < addressLimit := by decide
  have shortFits : ([3, 0, 0, 0, 8, 9] : Bytes).length < addressLimit := by decide
  have memory :=
    (reading_refines_decoding symmetric ("old", [1#8], ()) grants 4 .standard wholeFits).1
  have slice :=
    (reading_refines_decoding symmetric ("old", [1#8], ()) grants 4 .standard shortFits).2
  obtain ⟨_, left, _, position⟩ := memory.decoded rfl
  exact ⟨symmetric, left, Nat.add_right_cancel position, slice.refused rfl⟩

end Snapshot
