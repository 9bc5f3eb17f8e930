import Snapshot.Proofs.Availability
import Snapshot.Proofs.Interruptions
import Snapshot.Proofs.MarkerCheck

/-!
# What a small text keeps

A small text is read whole and kept in part: the longest well-formed front of the payload for
which there is room.  What there is no room for is read and dropped after the kept bytes have
been judged.  Hence a payload that breaks off among the dropped bytes fails the session and still
leaves a text, while one that breaks off before leaves nothing but null characters.
-/

namespace Snapshot

/-- The longest text of at most `capacity` bytes with which the payload begins. -/
structure IsLongestFront (capacity : Nat) (payload : Bytes) (text : String) : Prop where
  front : Utf8.encode text <+: payload
  fits : text.utf8ByteSize ≤ capacity
  longest : ∀ other : String, other.utf8ByteSize ≤ capacity → Utf8.encode other <+: payload →
    Utf8.encode other <+: Utf8.encode text

/-- There is one longest front. -/
theorem IsLongestFront.unique {capacity : Nat} {payload : Bytes} {first second : String}
    (left : IsLongestFront capacity payload first)
    (right : IsLongestFront capacity payload second) : first = second := by
  have forth := right.longest first left.fits left.front
  have back := left.longest second right.fits right.front
  exact Utf8.encode_inj.mp (forth.eq_of_length (Nat.le_antisymm forth.length_le back.length_le))

namespace Utf8

theorem encode_prefix_wellFormedAfter (text : String) (bytes : Bytes) :
    encode text <+: encode (wellFormedAfter text bytes) := by
  fun_induction wellFormedAfter text bytes with
  | case1 text bytes char found ih =>
      rw [encode_push] at ih
      exact (List.prefix_append _ _).trans ih
  | case2 text bytes found => exact List.prefix_refl _

/-- A text with which the bytes begin is within their well-formed prefix. -/
theorem encode_prefix_wellFormedPrefix {text : String} {bytes : Bytes}
    (front : encode text <+: bytes) : encode text <+: encode (wellFormedPrefix bytes) := by
  obtain ⟨rest, rfl⟩ := front
  have whole := wellFormedAfter_encodeChars_append "" text.toList rest
  rw [← encode_eq_flatMap, String.ofList_toList, String.empty_append] at whole
  rw [wellFormedPrefix, whole]
  exact encode_prefix_wellFormedAfter text rest

theorem encode_replicate_null (count : Nat) :
    encode (String.ofList (List.replicate count '\x00')) = Bytes.zeros count := by
  rw [encode_eq_flatMap, String.toList_ofList, Bytes.zeros]
  induction count with
  | zero => rfl
  | succ count ih =>
      rw [List.replicate_succ, List.flatMap_cons, ih, encodeChar_null]
      rfl

end Utf8

namespace SmallText

/-- A small text is made of the longest front of the bytes that fits. -/
theorem isLongestFront_ofBytes (capacity : Nat) (bytes : Bytes) :
    IsLongestFront capacity bytes (ofBytes capacity bytes).text where
  front := (Utf8.encode_wellFormedPrefix _).trans (List.take_prefix _ _)
  fits := (ofBytes capacity bytes).fits
  longest := by
    intro other small front
    apply Utf8.encode_prefix_wellFormedPrefix
    rw [List.prefix_take_iff, Utf8.length_encode]
    exact ⟨front, small⟩

theorem ofBytes_zeros {capacity count : Nat} (fits : count ≤ capacity) :
    (ofBytes capacity (Bytes.zeros count)).text = String.ofList (List.replicate count '\x00') := by
  have small : (String.ofList (List.replicate count '\x00')).utf8ByteSize ≤ capacity := by
    rw [← Utf8.length_encode, Utf8.encode_replicate_null, Bytes.length_zeros]
    exact fits
  rw [← Utf8.encode_replicate_null]
  exact congrArg text (ofBytes_encode ⟨_, small⟩)

end SmallText

namespace Session

variable {σ : Type} [ByteStream σ] {session : Session σ}

omit [ByteStream σ] in
theorem reportTruncation_of_sound (sound : session.failure = none) (length capacity : Nat) :
    session.reportTruncation length capacity =
      { session with
        log := if capacity < length then session.log.push (.truncated length capacity)
          else session.log } := by
  unfold reportTruncation
  by_cases long : capacity < length
  · rw [if_pos ⟨long, hasFailed_eq_false.mpr sound⟩, if_pos long]
    rfl
  · rw [if_neg (fun both => long both.1), if_neg long]

/-! ## Payloads on offer -/

/-- The outcome of reading a small text whose payload the stream has on offer. -/
structure KeepsLongestFront (session : Session σ) (capacity : Nat) (payload : Bytes)
    (outcome : SmallText capacity × Session σ) : Prop where
  kept : IsLongestFront capacity payload outcome.1.text
  sound : outcome.2.failure = none
  /-- The length and the payload were read, and beside the log nothing else changed. -/
  consumed : ∃ stream, Delivers session.stream (Bytes.ofNat 4 payload.length ++ payload) stream ∧
    outcome.2 = { session with stream := stream, log := outcome.2.log }
  position_eq : ByteStream.CountsReads σ →
    outcome.2.position = session.position + (4 + payload.length)
  log_eq : outcome.2.log =
    if capacity < payload.length then session.log.push (.truncated payload.length capacity)
    else session.log

/-- Bytes on offer are dropped behind a warning as they are without one. -/
theorem skip_reportTruncation_of_offers {dropped rest : Bytes} (sound : session.failure = none)
    (offers : Offers session.stream (dropped ++ rest)) (length capacity : Nat) :
    ∃ stream, Delivers session.stream dropped stream ∧
      (session.reportTruncation length capacity).skip dropped.length =
        { session with
          stream := stream
          log := if capacity < length then session.log.push (.truncated length capacity)
            else session.log } := by
  have noted := reportTruncation_of_sound sound length capacity
  obtain ⟨stream, delivered, skipped⟩ :
      (session.reportTruncation length capacity).Consumes dropped _ :=
    skip_of_offers (by rw [noted]; exact sound) (by rw [noted]; exact offers)
  rw [noted] at delivered
  exact ⟨stream, delivered, by rw [skipped, noted]⟩

/-- A payload on offer is read whole, and its longest front that fits is kept. -/
theorem readSmallText_of_offers {capacity : Nat} {payload rest : Bytes}
    (sound : session.failure = none) (within : payload.length ≤ session.limits.text.toNat)
    (offers : Offers session.stream (Bytes.ofNat 4 payload.length ++ (payload ++ rest))) :
    session.KeepsLongestFront capacity payload (session.readSmallText capacity) := by
  have split : payload.take capacity ++ payload.drop capacity = payload :=
    List.take_append_drop capacity payload
  have size : (Bytes.zeros (min payload.length capacity)).length =
      (payload.take capacity).length := by
    rw [Bytes.length_zeros, List.length_take, Nat.min_comm]
  obtain ⟨length, opened⟩ := readLength_of_offers sound within offers
  have ahead := opened.offers offers
  rw [← split, List.append_assoc] at ahead
  obtain ⟨stored, taken⟩ := readBytes_of_offers (opened.failure_eq.trans sound) ahead size
  obtain ⟨last, further, skipped⟩ := skip_reportTruncation_of_offers
    (taken.failure_eq.trans (opened.failure_eq.trans sound)) (taken.offers ahead)
    payload.length capacity
  obtain ⟨stream, reached, next⟩ := opened.trans taken
  rw [next] at further skipped
  have whole := reached.trans further
  rw [List.append_assoc, split] at whole
  have kept : SmallText.ofBytes capacity (payload.take capacity) =
      SmallText.ofBytes capacity payload :=
    SmallText.ofBytes_congr (by rw [List.take_take, Nat.min_self])
  have outcome : session.readSmallText capacity = (.ofBytes capacity payload,
      { session with
        stream := last
        log := if capacity < payload.length then
            session.log.push (.truncated payload.length capacity) else session.log }) := by
    unfold readSmallText
    dsimp only
    rw [length, stored, next, ← List.length_drop, skipped, kept]
  rw [outcome]
  refine ⟨SmallText.isLongestFront_ofBytes capacity payload, sound, ⟨last, whole, rfl⟩, ?_, rfl⟩
  intro counts
  have moved := whole.position_eq counts
  rw [List.length_append, Bytes.length_ofNat] at moved
  exact moved

/-- A small text keeps the longest front of its payload.  Whatever the destination held, over
every stream that has the length and the payload on offer, exactly these bytes are read, the
session does not fail, the text is the longest well-formed front of the payload that fits, and a
warning is logged exactly where the payload does not fit as a whole. -/
theorem small_text_keeps_longest_front (sound : session.failure = none)
    (reading : session.mode = .read) {payload : Bytes}
    (within : payload.length ≤ session.limits.text.toNat)
    (offers : Offers session.stream (Bytes.ofNat 4 payload.length ++ payload)) (capacity : Nat)
    (old : SmallText capacity) :
    session.KeepsLongestFront capacity payload
      (session.transfer (.smallText capacity) old) := by
  have ahead : Offers session.stream (Bytes.ofNat 4 payload.length ++ (payload ++ [])) := by
    rw [List.append_nil]
    exact offers
  rw [transfer, reading]
  exact readSmallText_of_offers sound within ahead

/-- A device that is interrupted and moves two bytes at a call offers a payload of five bytes and
more behind it.  There is room for three of them, and these end inside a character. -/
theorem small_text_keeps_longest_front_before_split_character :
    let payload : Bytes := [0x61, 0xE2, 0x82, 0xAC, 0x62]
    let bytes : Bytes := Bytes.ofNat 4 payload.length ++ payload ++ [0x63, 0x64]
    let device := Device.ofBytes bytes [.fail .interrupted, .move 1] (some 2) true
    let session := start .unbounded device .read 1 .standard
    (session.failure = none ∧ session.mode = .read ∧
      payload.length ≤ session.limits.text.toNat ∧
      Offers session.stream (Bytes.ofNat 4 payload.length ++ payload)) ∧
    let outcome := session.transfer (.smallText 3) (.empty 3)
    outcome.1.text = "a" ∧ outcome.2.finish = .ok () ∧ outcome.2.log = #[.truncated 5 3] := by
  intro payload bytes device session
  have level : (Memory.ofBytes bytes).StandsBeside device :=
    ⟨⟨rfl, rfl, Nat.zero_le _, by decide⟩, rfl, by simp [device, Device.ofBytes],
      by simp [device, Device.ofBytes, Device.Patient], Nat.zero_le _⟩
  have ended : EndsAfter session.stream bytes :=
    Matching.memoryDevice.endsAfter level
      (Supply.endsAfter (Memory.supplies_ofBytes (by decide)))
  have offers : Offers session.stream (Bytes.ofNat 4 payload.length ++ payload) :=
    ended.offers.of_append
  have within : payload.length ≤ session.limits.text.toNat := by
    decide
  refine ⟨⟨rfl, rfl, within, offers⟩, ?_⟩
  intro outcome
  have keeps := small_text_keeps_longest_front rfl rfl within offers 3 (.empty 3)
  have text : outcome.1.text = (SmallText.ofBytes 3 payload).text :=
    keeps.kept.unique (SmallText.isLongestFront_ofBytes 3 payload)
  obtain ⟨stream, _, beside⟩ := keeps.consumed
  refine ⟨text.trans (by decide +kernel), ?_, keeps.log_eq⟩
  rw [show outcome.2 = _ from beside]
  rfl

/-! ## Payloads that break off -/

theorem readBytes_eq_zeros {buffer : Bytes} (failed : (session.readBytes buffer).2.hasFailed = true) :
    (session.readBytes buffer).1 = Bytes.zeros buffer.length := by
  cases before : session.failure with
  | some failure => rw [readBytes_of_hasFailed (by rw [hasFailed, before]; rfl)]
  | none =>
      cases outcome : (ByteStream.read buffer.length session.stream).1.fault with
      | some fault => rw [readBytes_of_fault before outcome]
      | none =>
          have delivered : (ByteStream.read buffer.length session.stream).1 =
              .full (ByteStream.read buffer.length session.stream).1.bytes := by
            rw [Delivery.full, ← outcome]
          rw [readBytes_of_full before delivered, hasFailed, before] at failed
          cases failed

/-- Where the length or a byte that is kept could not be read, nothing further is read, and null
characters stand in place of the bytes. -/
theorem readSmallText_of_missing {capacity length : Nat} {opened : Session σ}
    (prefixed : session.readLength session.limits.text = (length, opened))
    (missing : (opened.readBytes (Bytes.zeros (min length capacity))).2.hasFailed = true) :
    (session.readSmallText capacity).1.text =
        String.ofList (List.replicate (min length capacity) '\x00') ∧
      (session.readSmallText capacity).2 =
        (opened.readBytes (Bytes.zeros (min length capacity))).2 := by
  have stored := readBytes_eq_zeros missing
  rw [Bytes.length_zeros] at stored
  unfold readSmallText
  rw [prefixed]
  dsimp only
  rw [stored, SmallText.ofBytes_zeros (Nat.min_le_right length capacity), reportTruncation,
    if_neg (by simp [missing]), skip_of_hasFailed missing]
  exact ⟨rfl, rfl⟩

/-- Where the bytes that are kept were read, the text is made of them, whatever comes after. -/
theorem readSmallText_of_kept {capacity length : Nat} {opened : Session σ}
    (prefixed : session.readLength session.limits.text = (length, opened))
    (kept : (opened.readBytes (Bytes.zeros (min length capacity))).2.failure = none) :
    ∃ front : Bytes, front.length = min length capacity ∧
      session.Consumes (Bytes.ofNat 4 length ++ front)
        (opened.readBytes (Bytes.zeros (min length capacity))).2 ∧
      IsLongestFront capacity front (session.readSmallText capacity).1.text := by
  have taken := readBytes_consumes kept
  have opening : (session.readLength session.limits.text).2.failure = none := by
    rw [prefixed]
    exact taken.failure_eq.symm.trans kept
  have prefix_taken := (readLength_consumes opening).2
  rw [prefixed] at prefix_taken
  refine ⟨_, by rw [length_readBytes, Bytes.length_zeros], prefix_taken.trans taken, ?_⟩
  unfold readSmallText
  rw [prefixed]
  exact SmallText.isLongestFront_ofBytes capacity _

/-- A payload for which there is room is not skipped, so that reading it ends with the last byte
that is kept. -/
theorem readSmallText_of_fits {capacity length : Nat} {opened : Session σ}
    (prefixed : session.readLength session.limits.text = (length, opened))
    (fits : length ≤ capacity) :
    (session.readSmallText capacity).2 =
      (opened.readBytes (Bytes.zeros (min length capacity))).2 := by
  unfold readSmallText
  rw [prefixed]
  dsimp only
  rw [Nat.sub_eq_zero_of_le fits, reportTruncation,
    if_neg (fun both => Nat.not_lt_of_le fits both.1), skip, if_neg (by simp)]

/-- What a session leaves of a small text during which it failed. -/
structure LeavesFront (session : Session σ) (capacity : Nat)
    (outcome : SmallText capacity × Session σ) : Prop where
  /-- Where the length or a byte that is kept could not be read, nothing further is read, and
  null characters stand in place of the bytes. -/
  early : ∀ {length : Nat} {opened : Session σ},
    session.readLength session.limits.text = (length, opened) →
      (opened.readBytes (Bytes.zeros (min length capacity))).2.hasFailed = true →
        outcome.1.text = String.ofList (List.replicate (min length capacity) '\x00') ∧
          outcome.2 = (opened.readBytes (Bytes.zeros (min length capacity))).2
  /-- Otherwise the failure struck among the bytes behind those that are kept, and the text is
  made of what was read before it. -/
  late : ∀ {length : Nat} {opened : Session σ},
    session.readLength session.limits.text = (length, opened) →
      (opened.readBytes (Bytes.zeros (min length capacity))).2.failure = none →
        capacity < length ∧ ∃ front : Bytes, front.length = capacity ∧
          session.Consumes (Bytes.ofNat 4 length ++ front)
            (opened.readBytes (Bytes.zeros (min length capacity))).2 ∧
          IsLongestFront capacity front outcome.1.text

/-- A small text that fails to be read keeps none of its old contents, and of the payload at
most the front for which there is room.  Whatever stream the session is on, the front is kept
where the failure strikes behind it, among the bytes that are dropped. -/
theorem failed_small_text_leaves_front (reading : session.mode = .read) (capacity : Nat)
    (old : SmallText capacity)
    (failed : (session.transfer (.smallText capacity) old).2.hasFailed = true) :
    session.LeavesFront capacity (session.transfer (.smallText capacity) old) := by
  have outcome : session.transfer (.smallText capacity) old = session.readSmallText capacity := by
    rw [transfer, reading]
    rfl
  rw [outcome] at failed ⊢
  refine ⟨readSmallText_of_missing, ?_⟩
  intro length opened prefixed kept
  have beyond : capacity < length := by
    refine Nat.lt_of_not_le fun fits => ?_
    rw [readSmallText_of_fits prefixed fits, hasFailed_eq_false.mpr kept] at failed
    cases failed
  obtain ⟨front, size, consumed, longest⟩ := readSmallText_of_kept prefixed kept
  exact ⟨beyond, front, size.trans (Nat.min_eq_right (Nat.le_of_lt beyond)), consumed, longest⟩

/-- A payload of five bytes that breaks off after three leaves the two for which there is room. -/
theorem failed_small_text_leaves_front_of_short_payload :
    let bytes : Bytes := Bytes.ofNat 4 5 ++ [65, 66, 67]
    let session := start .unbounded (Memory.ofBytes bytes) .read 1 .standard
    let old : SmallText 2 := ⟨"z", by decide⟩
    let outcome := session.transfer (.smallText 2) old
    (session.mode = .read ∧ outcome.2.hasFailed = true) ∧
      outcome.2.failure = some (.stream .unexpectedEnd) ∧ outcome.1.text = "AB" := by
  intro bytes session old outcome
  have reading : session.mode = .read := rfl
  have ended : outcome.2.failure = some (.stream .unexpectedEnd) := by
    decide +kernel
  have failed : outcome.2.hasFailed = true := by
    rw [hasFailed, ended]
    rfl
  have number : (session.readLength session.limits.text).1 = 5 := by
    decide +kernel
  have prefixed : session.readLength session.limits.text =
      (5, (session.readLength session.limits.text).2) := by
    rw [← number]
  have kept : ((session.readLength session.limits.text).2.readBytes
      (Bytes.zeros (min 5 2))).2.failure = none := by
    decide +kernel
  have leaves := failed_small_text_leaves_front reading 2 old failed
  obtain ⟨_, front, size, ⟨stream, delivered, _⟩, longest⟩ := leaves.late prefixed kept
  have supplied : EndsAfter session.stream bytes :=
    Supply.endsAfter (Memory.supplies_ofBytes (by decide))
  have stored := supplied.isPrefix delivered
  have two : front = [65, 66] := by
    have whole := (List.prefix_append_right_inj _).mp stored
    rw [List.prefix_iff_eq_take, size] at whole
    exact whole
  have made : (SmallText.ofBytes 2 [65, 66]).text = "AB" := by
    decide +kernel
  refine ⟨⟨reading, failed⟩, ended, ?_⟩
  rw [longest.unique (SmallText.isLongestFront_ofBytes 2 front), two, made]

end Session

end Snapshot
