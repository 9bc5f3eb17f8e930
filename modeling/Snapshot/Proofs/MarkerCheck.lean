import Snapshot.Proofs.Moves
import Snapshot.Proofs.StoredText
import Snapshot.Stream.Memory

/-!
# What a marker is compared with

A marker is compared with what is left of the stored payload after its reading: the first
bytes, as many as a marker may have, up to the first place where no character stands.  Hence
more payloads pass for a marker than the marker itself, and which ones is stated here for
every stream.
-/

namespace Snapshot

/-- A payload passes for a marker when it starts with the marker and no whole character
follows among the bytes that are kept. -/
def PassesFor (expected : String) (payload : Bytes) : Prop :=
  ∃ rest, payload = Utf8.encode expected ++ rest ∧
    Utf8.leading? (rest.take (markerCapacity - expected.utf8ByteSize)) = none

/-- What a payload is reduced to is the marker exactly where the payload passes for it. -/
theorem passesFor_iff {expected : String} (fits : expected.utf8ByteSize ≤ markerCapacity)
    (payload : Bytes) :
    PassesFor expected payload ↔ (SmallText.ofBytes markerCapacity payload).text = expected := by
  have size := Utf8.length_encode expected
  rw [SmallText.ofBytes, Utf8.wellFormedPrefix_eq_iff]
  constructor
  · rintro ⟨rest, rfl, ended⟩
    refine ⟨rest.take (markerCapacity - expected.utf8ByteSize), ?_, ended⟩
    rw [List.take_append, List.take_of_length_le (by omega), size]
  · rintro ⟨kept, front, ended⟩
    have whole := (List.take_append_drop markerCapacity payload).symm
    rw [front, List.append_assoc] at whole
    have back := congrArg (List.drop expected.utf8ByteSize) whole
    rw [List.drop_left' size] at back
    refine ⟨kept ++ payload.drop markerCapacity, whole, ?_⟩
    rw [← back, ← List.drop_take, front, List.drop_left' size]
    exact ended

/-- Among well-formed payloads that are kept as a whole, only the marker passes. -/
theorem passesFor_encode_iff {expected found : String}
    (fits : expected.utf8ByteSize ≤ markerCapacity) (kept : found.utf8ByteSize ≤ markerCapacity) :
    PassesFor expected (Utf8.encode found) ↔ found = expected := by
  have unchanged := SmallText.ofBytes_encode ⟨found, kept⟩
  rw [passesFor_iff fits, unchanged]

/-! ## Payloads as a whole -/

theorem SmallText.ofBytes_congr {capacity : Nat} {first second : Bytes}
    (same : first.take capacity = second.take capacity) :
    SmallText.ofBytes capacity first = SmallText.ofBytes capacity second := by
  simp only [ofBytes, same]

namespace Session

variable {σ : Type} [ByteStream σ]

/-- Reads and keeps `count` bytes, in the portions in which they could be skipped. -/
def gather (count : Nat) (session : Session σ) : Bytes × Session σ :=
  if 0 < count ∧ session.hasFailed = false then
    match session.readBytes (Bytes.zeros (min count 64)) with
    | (front, session) =>
        match gather (count - min count 64) session with
        | (back, session) => (front ++ back, session)
  else
    ([], session)
termination_by count
decreasing_by omega

/-- Reads a length prefix and keeps the whole payload, in the portions in which a small text
is read. -/
def readPayload (capacity : Nat) (session : Session σ) : Bytes × Session σ :=
  match session.readLength session.limits.text with
  | (length, session) =>
      match session.readBytes (Bytes.zeros (min length capacity)) with
      | (kept, session) =>
          match (session.reportTruncation length capacity).gather (length - capacity) with
          | (rest, session) => (kept ++ rest, session)

theorem gather_zero (session : Session σ) : session.gather 0 = ([], session) := by
  rw [gather, if_neg (by omega)]

/-- Gathering leaves the session as skipping does. -/
theorem gather_next (count : Nat) (session : Session σ) :
    (session.gather count).2 = session.skip count := by
  fun_induction gather count session with
  | case1 count session more _ next read _ _ gathered ih =>
      rw [skip, if_pos more, read]
      rw [gathered] at ih
      exact ih
  | case2 count session done => rw [skip, if_neg done]

theorem length_gather {count : Nat} {session : Session σ}
    (sound : (session.gather count).2.failure = none) :
    (session.gather count).1.length = count := by
  fun_induction gather count session with
  | case1 count session more front next read back last gathered ih =>
      have size := length_readBytes (Bytes.zeros (min count 64)) session
      rw [read, Bytes.length_zeros] at size
      rw [gathered] at ih
      rw [List.length_append, size, ih sound]
      omega
  | case2 count session done =>
      have unfailed : session.hasFailed = false := by simpa using sound
      have none_left : ¬0 < count := fun more => done ⟨more, unfailed⟩
      rw [List.length_nil]
      omega

/-- A small text is what the payload as a whole is reduced to. -/
theorem readSmallText_eq (capacity : Nat) (session : Session σ) :
    session.readSmallText capacity =
      (.ofBytes capacity (session.readPayload capacity).1, (session.readPayload capacity).2) := by
  unfold readSmallText readPayload
  dsimp only
  generalize session.readLength session.limits.text = opened
  have size := length_readBytes (Bytes.zeros (min opened.1 capacity)) opened.2
  rw [Bytes.length_zeros] at size
  generalize opened.2.readBytes (Bytes.zeros (min opened.1 capacity)) = taken at size ⊢
  rw [gather_next]
  refine Prod.ext (SmallText.ofBytes_congr ?_) rfl
  -- What is gathered stands behind the capacity, so the text is made of the same bytes.
  by_cases short : opened.1 ≤ capacity
  · rw [Nat.sub_eq_zero_of_le short, gather_zero, List.append_nil]
  · rw [List.take_append_of_le_length (by omega)]

/-- A payload that is read without failure has the length that its prefix gives. -/
theorem length_readPayload {capacity : Nat} {session : Session σ}
    (sound : (session.readPayload capacity).2.failure = none) :
    (session.readPayload capacity).1.length = (session.readLength session.limits.text).1 := by
  unfold readPayload at sound ⊢
  dsimp only at sound ⊢
  rw [List.length_append, length_gather sound, length_readBytes, Bytes.length_zeros]
  omega

/-! ## The check -/

/-- How a reading session judges the payload that stands where a marker is expected. -/
structure JudgesPayload (expected : String) (session : Session σ) : Prop where
  /-- Where reading fails the marker is not accepted, and no mismatch is recorded. -/
  failed : (session.readPayload markerCapacity).2.hasFailed = true →
    session.marker expected = (.ok false, (session.readPayload markerCapacity).2)
  /-- Otherwise the payload is read as a whole. -/
  whole : (session.readPayload markerCapacity).2.failure = none →
    (session.readPayload markerCapacity).1.length = (session.readLength session.limits.text).1
  /-- A payload that passes for the marker is accepted. -/
  accepted : (session.readPayload markerCapacity).2.failure = none →
    PassesFor expected (session.readPayload markerCapacity).1 →
      session.marker expected = (.ok true, (session.readPayload markerCapacity).2)
  /-- Any other is rejected, and the mismatch is recorded. -/
  rejected : (session.readPayload markerCapacity).2.failure = none →
    ¬PassesFor expected (session.readPayload markerCapacity).1 →
      ∃ found, found ≠ expected ∧ session.marker expected =
        (.ok false, (session.readPayload markerCapacity).2.recordMismatch found expected)
  /-- A text of a length that a marker may have passes only if it is the marker. -/
  exact : (session.readPayload markerCapacity).2.failure = none → ∀ text : String,
    text.utf8ByteSize ≤ markerCapacity →
      (session.readPayload markerCapacity).1 = Utf8.encode text →
        ((session.marker expected).1 = .ok true ↔
          (session.readPayload markerCapacity).1 = Utf8.encode expected)

section Reading

variable {session : Session σ} {expected : String}

theorem marker_of_reading (reading : session.mode = .read)
    (fits : expected.utf8ByteSize ≤ markerCapacity) :
    session.marker expected =
      (.ok (session.readMarker expected).1, (session.readMarker expected).2) := by
  rw [marker, if_neg (Nat.not_lt_of_le fits), reading]

theorem marker_of_payload_failed (reading : session.mode = .read)
    (fits : expected.utf8ByteSize ≤ markerCapacity)
    (failed : (session.readPayload markerCapacity).2.hasFailed = true) :
    session.marker expected = (.ok false, (session.readPayload markerCapacity).2) := by
  rw [marker_of_reading reading fits, readMarker, readSmallText_eq]
  dsimp only
  rw [if_pos failed]

theorem marker_of_passesFor (reading : session.mode = .read)
    (fits : expected.utf8ByteSize ≤ markerCapacity)
    (sound : (session.readPayload markerCapacity).2.failure = none)
    (passed : PassesFor expected (session.readPayload markerCapacity).1) :
    session.marker expected = (.ok true, (session.readPayload markerCapacity).2) := by
  have same := (passesFor_iff fits _).mp passed
  rw [marker_of_reading reading fits, readMarker, readSmallText_eq]
  dsimp only
  rw [hasFailed_eq_false.mpr sound, if_neg Bool.false_ne_true, if_pos same]

theorem marker_of_not_passesFor (reading : session.mode = .read)
    (fits : expected.utf8ByteSize ≤ markerCapacity)
    (sound : (session.readPayload markerCapacity).2.failure = none)
    (differs : ¬PassesFor expected (session.readPayload markerCapacity).1) :
    ∃ found, found ≠ expected ∧ session.marker expected =
      (.ok false, (session.readPayload markerCapacity).2.recordMismatch found expected) := by
  have other := fun same => differs ((passesFor_iff fits _).mpr same)
  refine ⟨_, other, ?_⟩
  rw [marker_of_reading reading fits, readMarker, readSmallText_eq]
  dsimp only
  rw [hasFailed_eq_false.mpr sound, if_neg Bool.false_ne_true, if_neg other]

theorem marker_accepted_iff (reading : session.mode = .read)
    (fits : expected.utf8ByteSize ≤ markerCapacity)
    (sound : (session.readPayload markerCapacity).2.failure = none) :
    (session.marker expected).1 = .ok true ↔
      PassesFor expected (session.readPayload markerCapacity).1 := by
  by_cases passed : PassesFor expected (session.readPayload markerCapacity).1
  · rw [marker_of_passesFor reading fits sound passed]
    exact iff_of_true rfl passed
  · obtain ⟨found, _, refused⟩ := marker_of_not_passesFor reading fits sound passed
    rw [refused]
    exact iff_of_false (fun accepted => by cases accepted) passed

end Reading

/-- A marker is checked against what is left of the payload.  Over every stream, a marker of a
length that a marker may have is accepted by a reading session exactly where reading does not
fail and the payload passes for it; where reading does not fail and the payload does not pass,
a mismatch is recorded. -/
theorem marker_judges_payload {session : Session σ} (reading : session.mode = .read)
    {expected : String} (fits : expected.utf8ByteSize ≤ markerCapacity) :
    session.JudgesPayload expected where
  failed := marker_of_payload_failed reading fits
  whole := length_readPayload
  accepted := marker_of_passesFor reading fits
  rejected := marker_of_not_passesFor reading fits
  exact sound text kept stored := by
    rw [marker_accepted_iff reading fits sound, stored, passesFor_encode_iff fits kept,
      Utf8.encode_inj]

/-- A payload of three bytes passes for a marker of two: the byte after the marker starts no
character, so it is left out of the comparison. -/
theorem marker_judges_payload_with_stray_byte :
    let session := start .unbounded (Memory.ofBytes [3, 0, 0, 0, 65, 66, 255]) .read 1 .standard
    session.mode = .read ∧ "AB".utf8ByteSize ≤ markerCapacity ∧
      (session.readPayload markerCapacity).1 = [65, 66, 255] ∧
      (session.readPayload markerCapacity).1 ≠ Utf8.encode "AB" ∧
      (session.marker "AB").1 = .ok true ∧ (session.marker "AB").2.mismatch = none := by
  intro session
  have payload : (session.readPayload markerCapacity).1 = [65, 66, 255] := by
    decide +kernel
  have sound : (session.readPayload markerCapacity).2.failure = none := by
    decide +kernel
  have unmarked : (session.readPayload markerCapacity).2.mismatch = none := by
    decide +kernel
  have reading : session.mode = .read := rfl
  have fits : "AB".utf8ByteSize ≤ markerCapacity := by
    decide
  have passed : PassesFor "AB" (session.readPayload markerCapacity).1 := by
    rw [payload]
    exact ⟨[255], by decide +kernel, by decide +kernel⟩
  have answered := (marker_judges_payload reading fits).accepted sound passed
  refine ⟨reading, fits, payload, ?_, ?_, ?_⟩
  · rw [payload]
    decide +kernel
  · rw [answered]
  · rw [answered]
    exact unmarked

end Session

end Snapshot
