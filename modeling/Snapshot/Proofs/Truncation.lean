import Snapshot.Proofs.Following
import Snapshot.Proofs.Header
import Snapshot.Proofs.SideBySide

/-!
# Truncation

Loading the front of a container whose whole was loaded fails with the end of the stream,
wherever the cut is before the place at which loading ended.  The two loads are run side by
side; they part at the read that the cut falls into.  What was complete before the cut has
the same value in both.
-/

namespace Snapshot

/-! ## How far a reading session has come -/

/-- A transfer that succeeds takes bytes off the front. -/
theorem Transfers.taken {σ : Type} [ByteStream σ] [Supply σ] {before after : σ} {bytes : Bytes}
    (transferred : Transfers before .read none after) (supplied : Supply.Supplies before bytes) :
    ∃ count, Supply.Supplies after (bytes.drop count) ∧
      ByteStream.position after = ByteStream.position before + count := by
  have reads : ∀ count, (ByteStream.read count before).1.fault = none →
      Supply.Supplies (ByteStream.read count before).2 (bytes.drop count) ∧
        ByteStream.position (ByteStream.read count before).2 =
          ByteStream.position before + count := by
    intro count complete
    by_cases enough : count ≤ bytes.length
    · exact (Supply.read_of_le supplied enough).2
    · rw [Supply.read_of_lt supplied (Nat.lt_of_not_le enough)] at complete
      cases complete
  generalize outcome : (none : Option Fault) = fault at transferred
  cases transferred with
  | read count => exact ⟨count, reads count outcome.symm⟩
  | readByte =>
      rw [Supply.readByte_eq] at outcome ⊢
      refine ⟨1, reads 1 ?_⟩
      cases faulted : (ByteStream.read 1 before).1.fault with
      | none => rfl
      | some fault => simp [Delivery.byte, faulted, faultOf?] at outcome

namespace Session

variable {σ : Type} [ByteStream σ]

variable [Supply σ]

/-- A session that is still sound has taken bytes off the front of its stream. -/
theorem Moves.taken {marks : Bool} {first last : Session σ} {bytes : Bytes}
    (moves : Moves marks .read first last) (sound : last.failure = none)
    (supplied : Supply.Supplies first.stream bytes) :
    ∃ count, Supply.Supplies last.stream (bytes.drop count) ∧
      last.position = first.position + count := by
  induction moves with
  | refl => exact ⟨0, supplied, rfl⟩
  | tail before move ih =>
      obtain ⟨count, left, reached⟩ := ih move.sound
      cases move with
      | transfer _ transferred =>
          obtain ⟨further, rest, moved⟩ := transferred.taken left
          rw [List.drop_drop] at rest
          refine ⟨count + further, rest, ?_⟩
          rw [← Nat.add_assoc, ← reached]
          exact moved
      | fail _ failed =>
          cases failed with
          | fault transferred => cases sound
          | refusal other => cases sound
      | truncate _ length capacity => exact ⟨count, left, reached⟩
      | mismatch _ differ => exact ⟨count, left, reached⟩

/-! ## A stream and its front -/

/-- Both streams supply the same up to position `cut`, where the second one ends. -/
def Ahead (cut : Nat) (whole part : σ) : Prop :=
  ∃ bytes, Supply.Supplies whole bytes ∧
    Supply.Supplies part (bytes.take (cut - ByteStream.position whole)) ∧
    ByteStream.position whole = ByteStream.position part ∧ ByteStream.position whole ≤ cut

variable {cut : Nat} {whole part : Session σ}

/-- What both streams supply is read from both. -/
theorem readBytes_of_ahead {bytes buffer : Bytes} (alike : Alike whole part)
    (sound : whole.failure = none) (supplied : Supply.Supplies whole.stream bytes)
    (front : Supply.Supplies part.stream (bytes.take (cut - whole.position)))
    (same : whole.position = part.position) (before : whole.position ≤ cut)
    (enough : buffer.length ≤ (bytes.take (cut - whole.position)).length) :
    (whole.readBytes buffer).1 = (part.readBytes buffer).1 ∧
      Alike (whole.readBytes buffer).2 (part.readBytes buffer).2 ∧
      Ahead cut (whole.readBytes buffer).2.stream (part.readBytes buffer).2.stream := by
  have sound' := alike.failure_eq.symm.trans sound
  have size := enough
  rw [List.length_take] at size
  obtain ⟨_, left, moved⟩ := Supply.read_of_le supplied (Nat.le_trans size (Nat.min_le_right _ _))
  obtain ⟨_, left', moved'⟩ := Supply.read_of_le front enough
  rw [readBytes_of_le sound supplied (Nat.le_trans size (Nat.min_le_right _ _)),
    readBytes_of_le sound' front enough]
  refine ⟨?_, alike.withStream _ _, bytes.drop buffer.length, left, ?_, ?_, ?_⟩
  · rw [List.take_take, Nat.min_eq_left (Nat.le_trans size (Nat.min_le_left _ _))]
  · dsimp only
    rw [moved, Nat.sub_add_eq, ← List.drop_take]
    exact left'
  · dsimp only
    rw [moved, moved']
    exact congrArg (· + buffer.length) same
  · dsimp only
    rw [moved]
    have room := Nat.le_trans size (Nat.min_le_left _ _)
    rw [position] at room before
    omega

/-- A read behind the cut ends the front, and passes the cut on the whole. -/
theorem readBytes_of_cut {bytes buffer : Bytes} (alike : Alike whole part)
    (sound : whole.failure = none) (supplied : Supply.Supplies whole.stream bytes)
    (front : Supply.Supplies part.stream (bytes.take (cut - whole.position)))
    (before : whole.position ≤ cut)
    (short : (bytes.take (cut - whole.position)).length < buffer.length) :
    (part.readBytes buffer).2.failure = some (.stream .unexpectedEnd) ∧
      ((whole.readBytes buffer).2.failure = none →
        ∃ rest, Supply.Supplies (whole.readBytes buffer).2.stream rest ∧
          cut < (whole.readBytes buffer).2.position) := by
  have sound' := alike.failure_eq.symm.trans sound
  rw [readBytes_of_lt sound' front short]
  refine ⟨rfl, fun unfailed => ?_⟩
  by_cases enough : buffer.length ≤ bytes.length
  · obtain ⟨_, left, moved⟩ := Supply.read_of_le supplied enough
    rw [readBytes_of_le sound supplied enough]
    refine ⟨_, left, ?_⟩
    change cut < ByteStream.position (ByteStream.read buffer.length whole.stream).2
    rw [List.length_take] at short
    rw [position] at short before
    rw [moved]
    omega
  · rw [readBytes_of_lt sound supplied (Nat.lt_of_not_le enough)] at unfailed
    cases unfailed

/-- The sessions are alike, and while they are sound, so is what they have ahead. -/
def BeforeCut (cut : Nat) (whole part : Session σ) : Prop :=
  Alike whole part ∧ whole.allocator = part.allocator ∧
    (whole.failure = none → Ahead cut whole.stream part.stream)

/-- The second session came to the end of its stream, and the first one, if it is sound, has
passed the place. -/
def BehindCut (cut : Nat) (whole part : Session σ) : Prop :=
  part.failure = some (.stream .unexpectedEnd) ∧
    (whole.failure = none →
      ∃ bytes, Supply.Supplies whole.stream bytes ∧ cut < whole.position)

theorem readBytes_beforeCut (together : BeforeCut cut whole part) (buffer : Bytes) :
    BehindCut cut (whole.readBytes buffer).2 (part.readBytes buffer).2 ∨
      (whole.readBytes buffer).1 = (part.readBytes buffer).1 ∧
        BeforeCut cut (whole.readBytes buffer).2 (part.readBytes buffer).2 := by
  obtain ⟨alike, memory, ahead⟩ := together
  by_cases failed : whole.hasFailed = true
  · rw [readBytes_of_hasFailed failed, readBytes_of_hasFailed (alike.hasFailed_eq.symm.trans failed)]
    exact Or.inr ⟨rfl, alike, memory, ahead⟩
  · have sound : whole.failure = none := by simpa using failed
    obtain ⟨bytes, supplied, front, same, before⟩ := ahead sound
    rcases Nat.lt_or_ge (bytes.take (cut - whole.position)).length buffer.length with short | enough
    · exact Or.inl (readBytes_of_cut alike sound supplied front before short)
    · obtain ⟨found, still, further⟩ :=
        readBytes_of_ahead alike sound supplied front same before enough
      have kept := (readBytes_moves buffer whole).settings.2.2.2
      have kept' := (readBytes_moves buffer part).settings.2.2.2
      exact Or.inr ⟨found, still, kept.trans (memory.trans kept'.symm), fun _ => further⟩

/-- A session on a whole stream beside one on its front.  They part at the read into which
the cut falls. -/
def beforeCut (cut : Nat) : Coupling σ σ where
  Together := BeforeCut cut
  Parted := BehindCut cut
  akin := fun together => together.1.toAkin
  position_eq := by
    rintro whole part ⟨_, _, ahead⟩ sound
    obtain ⟨bytes, _, _, same, _⟩ := ahead sound
    exact same
  parted_moves := by
    rintro whole next part following ⟨ended, passed⟩ moves moves'
    rw [moves'.eq_of_hasFailed (hasFailed_of_failure ended)]
    refine ⟨ended, fun sound => ?_⟩
    obtain ⟨bytes, supplied, beyond⟩ := passed (moves.sound_before sound)
    obtain ⟨count, left, reached⟩ := moves.taken sound supplied
    exact ⟨_, left, by omega⟩
  fail := by
    rintro whole part ⟨alike, memory, _⟩ failure
    refine ⟨alike.fail failure, memory, fun sound => ?_⟩
    have failed := hasFailed_fail failure whole
    simp [hasFailed, sound] at failed
  report := by
    rintro whole part ⟨alike, memory, ahead⟩ event
    exact ⟨alike.report event, memory, ahead⟩
  recordMismatch := by
    rintro whole part ⟨alike, memory, ahead⟩ sound found expected
    obtain ⟨bytes, _, _, same, _⟩ := ahead sound
    exact ⟨alike.recordMismatch same found expected, memory, ahead⟩
  readBytes := readBytes_beforeCut
  readFlag := by
    intro whole part together
    rw [readFlag_eq, readFlag_eq]
    rcases readBytes_beforeCut together [0] with parted | ⟨same, still⟩
    · exact Or.inl parted
    · exact Or.inr ⟨by rw [same], still⟩
  reserve := by
    rintro whole part ⟨_, memory, _⟩ _ size capacity count
    rw [memory]
    exact Or.inl rfl

end Session

/-- The part of a byte string that has addresses. -/
def Memory.addressed (bytes : Bytes) : Bytes :=
  bytes.take (addressLimit - 1)

theorem Memory.supplies_addressed (bytes : Bytes) :
    Supply.Supplies (ofBytes bytes) (addressed bytes) := by
  refine ⟨⟨Nat.zero_le _, Nat.two_pow_pos 64⟩, ?_⟩
  simp [remaining, ofBytes, addressed]

theorem Memory.addressed_take (bytes : Bytes) (count : Nat) :
    addressed (bytes.take count) = (addressed bytes).take count := by
  rw [addressed, addressed, List.take_take, List.take_take, Nat.min_comm]

namespace Container

variable {σ : Type} [ByteStream σ] [Supply σ] {allocator : Allocator} {format : FormatVersion}
  {routine : Routine} {given : routine.Values} {whole part : σ} {bytes : Bytes} {count : Nat}
  {version : UInt32}

theorem opened_beforeCut (allocator : Allocator) (version : UInt32)
    (supplied : Supply.Supplies whole bytes) (front : Supply.Supplies part (bytes.take count))
    (same : ByteStream.position whole = ByteStream.position part) (enough : 12 ≤ bytes.length)
    (kept : 12 ≤ count) :
    (Session.beforeCut (ByteStream.position whole + count)).Together
      (opened allocator whole version) (opened allocator part version) := by
  have enough' : 12 ≤ (bytes.take count).length := by
    rw [List.length_take]
    omega
  obtain ⟨rest, moved⟩ := opened_supplies allocator version supplied enough
  obtain ⟨rest', moved'⟩ := opened_supplies allocator version front enough'
  refine ⟨⟨⟨rfl, rfl, rfl, rfl, rfl⟩, rfl, rfl⟩, rfl, fun _ => ⟨_, rest, ?_, ?_, ?_⟩⟩
  · have left : ByteStream.position whole + count -
        ByteStream.position (opened allocator whole version).stream = count - 12 := by
      change _ - (opened allocator whole version).position = _
      omega
    rw [left, ← List.drop_take]
    exact rest'
  · change (opened allocator whole version).position = (opened allocator part version).position
    omega
  · change (opened allocator whole version).position ≤ _
    omega

/-- The header of a front that contains it states the same version. -/
theorem readHeader_of_front (supplied : Supply.Supplies whole bytes)
    (front : Supply.Supplies part (bytes.take count)) (kept : 12 ≤ count)
    (stated : (readHeader allocator whole).1 = .ok version) :
    (readHeader allocator part).1 = .ok version := by
  obtain ⟨enough, known, rfl⟩ := (readHeader_eq_ok_iff allocator supplied).mp stated
  refine (readHeader_eq_ok_iff allocator front).mpr ⟨?_, ?_, ?_⟩
  · rw [List.length_take]
    omega
  · rw [List.take_take, Nat.min_eq_left (by omega), known]
  · rw [statedVersion, statedVersion, List.drop_take, List.take_take, Nat.min_eq_left (by omega)]

omit [Supply σ] in
/-- A routine that was loaded ran to a sound end, and loading ended there. -/
theorem attempt_of_loaded
    (loaded : (load allocator format routine.attempt given whole).1.1 = .ok version) :
    (routine.attempt given (opened allocator whole version)).1.1 = .ok () ∧
      (routine.run given (opened allocator whole version)).2.failure = none ∧
      (load allocator format routine.attempt given whole).1.2 =
        (routine.attempt given (opened allocator whole version)).1.2 ∧
      (load allocator format routine.attempt given whole).2.position =
        (routine.attempt given (opened allocator whole version)).2.position := by
  obtain ⟨_, _, concluded⟩ := load_of_ok loaded
  have outcome := conclude_concludes version (routine.attempt given (opened allocator whole version))
  rw [← concluded] at outcome
  obtain ⟨_, done, sound, _⟩ := outcome.ok_iff.mp loaded
  refine ⟨done, ?_, outcome.component_eq, ?_⟩
  · rw [Routine.attempt_eq_run done] at sound
    exact sound
  · rw [outcome.reported loaded]
    rfl

/-- While a routine is on its way to a sound end, it takes bytes off the front. -/
theorem after_taken {session : Session σ} (reading : session.mode = .read)
    (supplied : Supply.Supplies session.stream bytes)
    (sound : (routine.run given session).2.failure = none) (steps : Nat) :
    (routine.after given steps session).failure = none ∧
      session.position ≤ (routine.after given steps session).position := by
  have front := Routine.after_moves routine given steps session
  have unfailed := (Routine.after_moves_run routine given steps session).sound_before sound
  rw [reading] at front
  obtain ⟨taken, _, reached⟩ := front.taken unfailed supplied
  exact ⟨unfailed, by omega⟩

/-- The cut falls into the header. -/
theorem load_of_front_of_lt (supplied : Supply.Supplies whole bytes)
    (front : Supply.Supplies part (bytes.take count)) (short : count < 12)
    (loaded : (load allocator format routine.attempt given whole).1.1 = .ok version) :
    (load allocator format routine.attempt given part).1.1 = .error (.stream .unexpectedEnd) ∧
      ∀ steps, ByteStream.position whole + count <
        (routine.after given steps (opened allocator whole version)).position := by
  obtain ⟨enough, _, _⟩ := (readHeader_eq_ok_iff allocator supplied).mp (load_of_ok loaded).1
  obtain ⟨behind, start⟩ := opened_supplies allocator version supplied enough
  have header : (bytes.take count).length < 12 := by
    rw [List.length_take]
    omega
  constructor
  · rw [load_of_refused (readHeader_of_lt allocator front header).1]
  · intro steps
    have reached := (after_taken rfl behind (attempt_of_loaded loaded).2.1 steps).2
    omega

/-- The cut falls behind the header. -/
theorem load_of_front_of_le (supplied : Supply.Supplies whole bytes)
    (front : Supply.Supplies part (bytes.take count))
    (same : ByteStream.position whole = ByteStream.position part) (kept : 12 ≤ count)
    (loaded : (load allocator format routine.attempt given whole).1.1 = .ok version)
    (shorter : ByteStream.position whole + count <
      (load allocator format routine.attempt given whole).2.position) :
    (load allocator format routine.attempt given part).1.1 = .error (.stream .unexpectedEnd) ∧
      ∀ index : Fin routine.length,
        (routine.after given (index + 1) (opened allocator whole version)).position ≤
            ByteStream.position whole + count →
          routine.valueAt (load allocator format routine.attempt given part).1.2 index =
            routine.valueAt (load allocator format routine.attempt given whole).1.2 index := by
  obtain ⟨stated, supported, _⟩ := load_of_ok loaded
  obtain ⟨done, ended, values, place⟩ := attempt_of_loaded loaded
  obtain ⟨enough, _, _⟩ := (readHeader_eq_ok_iff allocator supplied).mp stated
  obtain ⟨behind, _⟩ := opened_supplies allocator version supplied enough
  have together := opened_beforeCut allocator version supplied front same enough kept
  have concluded : load allocator format routine.attempt given part = _ :=
    load_of_supported (readHeader_of_front supplied front kept stated) supported
  constructor
  · rcases (routine.attempt_keeps given).agrees together with ⟨failed, _⟩ | ⟨_, _, _, ahead⟩
    · rw [concluded]
      exact conclude_of_failure version failed (Routine.lasting_of_attempt done)
    · -- Sessions that end together have not passed the cut.
      have sound : (routine.attempt given (opened allocator whole version)).2.failure = none := by
        rw [Routine.attempt_eq_run done]
        exact ended
      obtain ⟨_, _, _, _, before⟩ := ahead sound
      rw [place] at shorter
      exact absurd shorter (Nat.not_lt_of_le before)
  · intro index inside
    rw [values, concluded, (conclude_concludes _ _).component_eq]
    refine (Routine.valueAt_attempt_of_together together done index ?_).symm
    rintro other ⟨_, passed⟩
    obtain ⟨_, _, beyond⟩ := passed (after_taken rfl behind ended _).1
    exact absurd inside (Nat.not_le_of_lt beyond)

/-- Whenever a byte string is loaded, every shorter front that loading did not get past
fails to load at the end of its stream, and what the routine restored from within the front
it restores from the front as well. -/
def DetectsTruncation (ofBytes : Bytes → σ) (allocator : Allocator) (format : FormatVersion)
    (routine : Routine) (given : routine.Values) (bytes : Bytes) : Prop :=
  ∀ version, (load allocator format routine.attempt given (ofBytes bytes)).1.1 = .ok version →
    ∀ cut < (load allocator format routine.attempt given (ofBytes bytes)).2.position,
      (load allocator format routine.attempt given (ofBytes (bytes.take cut))).1.1 =
          .error (.stream .unexpectedEnd) ∧
        ∀ index : Fin routine.length,
          (routine.after given (index + 1)
              (opened allocator (ofBytes bytes) version)).position ≤ cut →
            routine.valueAt
                (load allocator format routine.attempt given (ofBytes (bytes.take cut))).1.2 index =
              routine.valueAt
                (load allocator format routine.attempt given (ofBytes bytes)).1.2 index

/-- Truncation is detected by streams that supply fronts of what they supply. -/
theorem detectsTruncation_of_supplies {ofBytes : Bytes → σ} {supply : Bytes → Bytes}
    (supplies : ∀ bytes, Supply.Supplies (ofBytes bytes) (supply bytes))
    (fronts : ∀ bytes count, supply (bytes.take count) = (supply bytes).take count)
    (start : ∀ bytes, ByteStream.position (ofBytes bytes) = 0) (allocator : Allocator)
    (format : FormatVersion) (routine : Routine) (given : routine.Values) (bytes : Bytes) :
    DetectsTruncation ofBytes allocator format routine given bytes := by
  intro version loaded cut shorter
  have supplied := supplies bytes
  have front := supplies (bytes.take cut)
  rw [fronts] at front
  have origin : ByteStream.position (ofBytes bytes) + cut = cut := by
    rw [start, Nat.zero_add]
  rcases Nat.lt_or_ge cut 12 with short | kept
  · obtain ⟨failed, beyond⟩ := load_of_front_of_lt supplied front short loaded
    rw [origin] at beyond
    exact ⟨failed, fun index inside => absurd inside (Nat.not_le_of_lt (beyond _))⟩
  · have same := (start bytes).trans (start (bytes.take cut)).symm
    rw [← origin] at shorter
    obtain ⟨failed, values⟩ := load_of_front_of_le supplied front same kept loaded shorter
    rw [origin] at values
    exact ⟨failed, values⟩

/-- Truncation is always detected.  Whatever the format, the routine and its destinations, a
byte string that was loaded from memory or from a slice does not load once it is cut before
the place where loading ended.  Loading then fails with the end of the stream and with
nothing else, also where the routine goes on behind the cut or gives up at a marker, and every
step that ended before the cut leaves the value that it leaves on the whole. -/
theorem truncation_is_detected (allocator : Allocator) (format : FormatVersion)
    (routine : Routine) (given : routine.Values) (bytes : Bytes) :
    DetectsTruncation Memory.ofBytes allocator format routine given bytes ∧
      DetectsTruncation Slice.ofBytes allocator format routine given bytes := by
  constructor
  · exact detectsTruncation_of_supplies Memory.supplies_addressed Memory.addressed_take
      (fun _ => rfl) allocator format routine given bytes
  · exact detectsTruncation_of_supplies Slice.supplies_ofBytes (fun _ _ => rfl) (fun _ => rfl)
      allocator format routine given bytes

/-- A container of eighteen bytes, cut in the middle of its last block: the number in front of
the block is restored from the front. -/
theorem truncation_is_detected_inside_block :
    (load .unbounded ⟨4, 1⟩ (Routine.attempt [.value (.scalar .u32), .bytes 2])
        (1#32, ⟨[1, 1], rfl⟩, ())
        (Memory.ofBytes
          [0x53, 0x41, 0x56, 0x53, 0x54, 0x41, 0x54, 0x45, 3, 0, 0, 0, 7, 0, 0, 0, 8])).1.1 =
      .error (.stream .unexpectedEnd) ∧
    Routine.valueAt [.value (.scalar .u32), .bytes 2]
        (load .unbounded ⟨4, 1⟩ (Routine.attempt [.value (.scalar .u32), .bytes 2])
          (1#32, ⟨[1, 1], rfl⟩, ())
          (Memory.ofBytes
            [0x53, 0x41, 0x56, 0x53, 0x54, 0x41, 0x54, 0x45, 3, 0, 0, 0, 7, 0, 0, 0, 8])).1.2
        ⟨0, by decide⟩ = 7#32 := by
  obtain ⟨failed, values⟩ := (truncation_is_detected .unbounded ⟨4, 1⟩
    [.value (.scalar .u32), .bytes 2] (1#32, ⟨[1, 1], rfl⟩, ())
    [0x53, 0x41, 0x56, 0x53, 0x54, 0x41, 0x54, 0x45, 3, 0, 0, 0, 7, 0, 0, 0, 8, 9]).1 3 rfl 17
      (by decide)
  exact ⟨failed, values ⟨0, by decide⟩ (by decide)⟩

end Container

end Snapshot
