import Snapshot.Proofs.Availability
import Snapshot.Proofs.LossyDecoding
import Snapshot.Proofs.NormalForm

/-!
# Texts as a whole

A text is read with its whole payload, whatever the bytes are and over however many chunks.  The
payload is cut before its first zero byte, and what is left of it is read with replacement
characters.  Reading fails where the length is missing or beyond the limit, or where the payload
is short, and then the text is empty.
-/

namespace Snapshot

namespace Session

variable {σ : Type} [ByteStream σ] {session : Session σ}

/-- The payload of a text, read in chunks. -/
def readTextPayload (session : Session σ) : Bytes × Session σ :=
  (session.readLength session.limits.text).2.readChunks 1
    (session.readLength session.limits.text).1
    fun count session => session.readBytes (Bytes.zeros count)

theorem readText_eq (session : Session σ) :
    session.readText = (Utf8.decodeLossy (Bytes.beforeZero session.readTextPayload.1),
      session.readTextPayload.2) :=
  rfl

theorem readTextPayload_of_offers {payload rest : Bytes} (sound : session.failure = none)
    (grants : ∀ request, session.allocator.grants request = true)
    (within : payload.length ≤ session.limits.text.toNat)
    (offers : Offers session.stream (Bytes.ofNat 4 payload.length ++ (payload ++ rest))) :
    session.readTextPayload.1 = payload ∧
      session.Consumes (Bytes.ofNat 4 payload.length ++ payload) session.readTextPayload.2 :=
  readCounted_of_offers sound grants within offers

/-- A payload that was read without failure was delivered, and is within the limit. -/
theorem readTextPayload_consumes (done : session.readTextPayload.2.failure = none) :
    session.readTextPayload.1.length ≤ session.limits.text.toNat ∧
      session.Consumes (Bytes.ofNat 4 session.readTextPayload.1.length ++ session.readTextPayload.1)
        session.readTextPayload.2 := by
  obtain ⟨size, taken⟩ := readChunks_consumes done
  obtain ⟨within, opened⟩ := readLength_consumes (taken.failure_eq.symm.trans done)
  rw [← size] at within opened
  exact ⟨within, opened.trans taken⟩

/-- What failed to be read is empty. -/
theorem readTextPayload_of_failed (failed : session.readTextPayload.2.hasFailed = true) :
    session.readTextPayload.1 = [] :=
  readChunks_eq_nil failed

/-- The outcome of reading a text whose payload the stream has on offer. -/
structure ReadsWhole (session : Session σ) (payload : Bytes) (outcome : String × Session σ) :
    Prop where
  sound : outcome.2.failure = none
  /-- The length and the payload were read, and nothing else has happened. -/
  consumed : session.Consumes (Bytes.ofNat 4 payload.length ++ payload) outcome.2
  position_eq : ByteStream.CountsReads σ →
    outcome.2.position = session.position + (4 + payload.length)
  reading : Utf8.LossyReading (Bytes.beforeZero payload) outcome.1
  null_not_mem : '\x00' ∉ outcome.1.toList
  text_eq : ∀ text : String, Utf8.encode text = Bytes.beforeZero payload → outcome.1 = text

theorem readText_of_offers {payload rest : Bytes} (sound : session.failure = none)
    (grants : ∀ request, session.allocator.grants request = true)
    (within : payload.length ≤ session.limits.text.toNat)
    (offers : Offers session.stream (Bytes.ofNat 4 payload.length ++ (payload ++ rest))) :
    session.ReadsWhole payload session.readText := by
  obtain ⟨stored, consumed⟩ := readTextPayload_of_offers sound grants within offers
  rw [readText_eq, stored]
  refine ⟨consumed.failure_eq.trans sound, consumed, ?_, Utf8.lossyReading_iff.mpr rfl,
    Utf8.null_not_mem_decodeLossy (Utf8.zero_not_mem_beforeZero payload), ?_⟩
  · intro counts
    have moved := consumed.position_eq counts
    rw [List.length_append, Bytes.length_ofNat] at moved
    exact moved
  · intro text stored
    rw [← stored]
    exact Utf8.decodeLossy_encode text

/-- A text that is shorter than its length tells fails to be read. -/
theorem readTextPayload_of_short {length : Nat} {part : Bytes}
    (within : length ≤ session.limits.text.toNat) (short : part.length < length)
    (ended : EndsAfter session.stream (Bytes.ofNat 4 length ++ part)) :
    session.readTextPayload.2.hasFailed = true := by
  refine Bool.of_not_eq_false fun unfailed => ?_
  obtain ⟨fits, stream, delivered, _⟩ := readTextPayload_consumes (hasFailed_eq_false.mp unfailed)
  obtain ⟨rest, split⟩ := ended.isPrefix delivered
  rw [List.append_assoc] at split
  obtain ⟨numbers, payloads⟩ := List.append_inj split (by simp)
  have same := congrArg Bytes.toNat numbers
  rw [Bytes.toNat_ofNat_of_le_limit fits, Bytes.toNat_ofNat_of_le_limit within] at same
  rw [← payloads, List.length_append] at short
  omega

/-- A text without a length fails to be read. -/
theorem readTextPayload_of_missing {bytes : Bytes} (missing : bytes.length < 4)
    (ended : EndsAfter session.stream bytes) : session.readTextPayload.2.hasFailed = true := by
  refine Bool.of_not_eq_false fun unfailed => ?_
  obtain ⟨_, stream, delivered, _⟩ := readTextPayload_consumes (hasFailed_eq_false.mp unfailed)
  have within := (ended.isPrefix delivered).length_le
  rw [List.length_append, Bytes.length_ofNat] at within
  omega

/-- A text with a length beyond the limit is refused. -/
theorem readTextPayload_of_beyond {length : Nat} (sound : session.failure = none)
    (beyond : session.limits.text.toNat < length) (expressible : length ≤ Limits.largestLength)
    (offers : Offers session.stream (Bytes.ofNat 4 length)) :
    session.readTextPayload.2.failure =
      some (.lengthLimit length session.limits.text.toNat) := by
  rw [← List.append_nil (Bytes.ofNat 4 length)] at offers
  have refused := readLength_of_beyond sound beyond expressible offers
  rw [readTextPayload, readChunks_of_hasFailed (by rw [hasFailed, refused]; rfl)]
  exact refused

/-- What a session makes of a text, whatever the stream has for it. -/
structure ReadsText (session : Session σ) (outcome : String × Session σ) : Prop where
  /-- A payload on offer is read as a whole. -/
  whole : ∀ payload : Bytes, payload.length ≤ session.limits.text.toNat →
    Offers session.stream (Bytes.ofNat 4 payload.length ++ payload) →
      session.ReadsWhole payload outcome
  /-- Without a length reading fails. -/
  missing : ∀ bytes : Bytes, bytes.length < 4 → EndsAfter session.stream bytes →
    outcome.2.hasFailed = true
  /-- A length beyond the limit is refused. -/
  beyond : ∀ length : Nat, session.limits.text.toNat < length → length ≤ Limits.largestLength →
    Offers session.stream (Bytes.ofNat 4 length) →
      outcome.2.failure = some (.lengthLimit length session.limits.text.toNat)
  /-- A payload that is short fails to be read. -/
  short : ∀ (length : Nat) (part : Bytes), length ≤ session.limits.text.toNat →
    part.length < length → EndsAfter session.stream (Bytes.ofNat 4 length ++ part) →
      outcome.2.hasFailed = true
  /-- Wherever reading fails, the text is empty. -/
  blank : outcome.2.hasFailed = true → outcome.1 = ""
  /-- Wherever it does not fail, a length within the limit and a whole payload were read. -/
  complete : outcome.2.failure = none → ∃ payload : Bytes,
    payload.length ≤ session.limits.text.toNat ∧
      session.Consumes (Bytes.ofNat 4 payload.length ++ payload) outcome.2 ∧
      Utf8.LossyReading (Bytes.beforeZero payload) outcome.1

/-- A text is read whole or not at all.  Whatever the destination held and whatever bytes there
are, over every stream that has the length and the payload on offer exactly these are read, over
all their chunks, and the session does not fail.  The text is the reading of the payload before
its first zero byte, with one replacement character for each maximal ill-formed part.  Where the
length is missing or beyond the limit, where the payload is short, and wherever else reading
fails, the text is empty. -/
theorem text_is_read_whole (sound : session.failure = none) (reading : session.mode = .read)
    (grants : ∀ request, session.allocator.grants request = true) (old : String) :
    session.ReadsText (session.transfer .text old) := by
  have outcome : session.transfer .text old = session.readText := by
    rw [transfer, reading]
    rfl
  rw [outcome]
  constructor
  · intro payload within offers
    have ahead : Offers session.stream (Bytes.ofNat 4 payload.length ++ (payload ++ [])) := by
      rw [List.append_nil]
      exact offers
    exact readText_of_offers sound grants within ahead
  · intro bytes missing ended
    exact readTextPayload_of_missing missing ended
  · intro length beyond expressible offers
    exact readTextPayload_of_beyond sound beyond expressible offers
  · intro length part within short ended
    exact readTextPayload_of_short within short ended
  · intro failed
    rw [readText_eq, readTextPayload_of_failed failed]
    exact Utf8.decodeLossy_nil
  · intro done
    obtain ⟨within, consumed⟩ := readTextPayload_consumes done
    exact ⟨session.readTextPayload.1, within, consumed, Utf8.lossyReading_iff.mpr rfl⟩

/-- Twelve bytes with a character cut short before another character, a surrogate, and a zero byte
inside a character. -/
theorem text_is_read_whole_with_replacements :
    let payload : Bytes := [0x61, 0xF0, 0x9F, 0x98, 0x62, 0xED, 0xA0, 0x80, 0xE2, 0x82, 0x00, 0x63]
    let memory := Memory.ofBytes (Bytes.ofNat 4 payload.length ++ payload)
    let session := start .unbounded memory .read 1 .standard
    (session.failure = none ∧ session.mode = .read ∧
      ∀ request, session.allocator.grants request = true) ∧
    let outcome : String × Session Memory := session.transfer .text "stale"
    outcome.1 = "a\uFFFDb\uFFFD\uFFFD\uFFFD\uFFFD" ∧ outcome.2.failure = none ∧
      outcome.2.position = 16 := by
  intro payload memory session
  have grants : ∀ request, session.allocator.grants request = true := fun _ => rfl
  refine ⟨⟨rfl, rfl, grants⟩, ?_⟩
  intro outcome
  have ended : EndsAfter session.stream (Bytes.ofNat 4 payload.length ++ payload) :=
    Supply.endsAfter (Memory.supplies_ofBytes (by decide))
  have reads : session.ReadsText outcome := text_is_read_whole rfl rfl grants "stale"
  have whole := reads.whole payload (by decide) ended.offers
  have text : outcome.1 = Utf8.decodeLossy (Bytes.beforeZero payload) :=
    Utf8.lossyReading_iff.mp whole.reading
  refine ⟨?_, whole.sound, whole.position_eq Memory.countsReads⟩
  rw [text]
  decide +kernel

end Session

end Snapshot
