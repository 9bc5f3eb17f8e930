import Snapshot.Proofs.Availability
import Snapshot.Proofs.FailurePoints
import Snapshot.Proofs.Interruptions
import Snapshot.Proofs.Restoration
import Snapshot.Proofs.SavedForm

/-!
# Transfers in bulk

Plain values can be moved as one block, or item by item along their layout.  Both ways put out the
same bytes, and both read what the decoder of the layout finds: they agree in the values, in the
failure and, where they succeed, in the position.  Where they fail they may stand at different
positions, because a block is read as a whole or not at all.
-/

namespace Snapshot

/-! ## Saving -/

/-- Outputs that differ only in how the bytes are split. -/
structure Output.SplitAlike (first second : List Output) : Prop where
  concat_eq : concat first = concat second
  refusals_eq : refusals first = refusals second

theorem Output.unrefused_block (bytes : Bytes) : Unrefused [.block bytes] := by
  simp [Unrefused]

/-- Plain values state no length that could be refused. -/
theorem Layout.unrefused_of_isPlain {layout : Layout} (plain : layout.isPlain = true)
    (value : layout.Value) : Output.Unrefused (layout.outputs value) := by
  induction layout with
  | unit => simp [outputs, Output.Unrefused]
  | scalar kind => simp [outputs, Output.Unrefused]
  | array item length ih => exact Output.unrefused_flatMap.mpr fun value _ => ih plain value
  | bool => cases plain
  | text => cases plain
  | smallText capacity => cases plain
  | list item => cases plain
  | deque item => cases plain

/-- A block and the items that it is made of. -/
theorem Layout.splitAlike_block {layout : Layout} (plain : layout.isPlain = true)
    (value : layout.Value) :
    Output.SplitAlike [.block (layout.encode value)] (layout.outputs value) where
  concat_eq := by
    rw [Output.concat_block, concat_outputs (unrefused_of_isPlain plain value)]
  refusals_eq := (Output.unrefused_iff.mp (unrefused_of_isPlain plain value)).symm

/-- Blocks behind a length and the items that they are made of. -/
theorem Layout.splitAlike_blocks {item : Layout} (plain : item.isPlain = true)
    (values : List item.Value) :
    Output.SplitAlike [Output.length values.length, .block (values.flatMap item.encode)]
      ((Layout.list item).outputs values) := by
  have unrefused : Output.Unrefused (values.flatMap item.outputs) :=
    Output.unrefused_flatMap.mpr fun value _ => unrefused_of_isPlain plain value
  have items : Output.concat (values.flatMap item.outputs) = values.flatMap item.encode :=
    concat_flatMap_outputs fun value _ => concat_outputs (unrefused_of_isPlain plain value)
  constructor
  · exact congrArg ((Output.length values.length).bytes ++ ·)
      ((Output.concat_block _).trans items.symm)
  · rw [outputs, Output.refusals_length, Output.refusals_length, Output.unrefused_iff.mp unrefused]
    rfl

namespace Memory

/-- The memory after outputs, from a cursor on the data. -/
theorem Stored.holds {start memory : Memory} {outputs : List Output} (onData : start.OnData)
    (stored : start.Stored outputs memory) : start.Holds (Output.concat outputs) memory := by
  rcases stored with ⟨rfl, rfl⟩ | holds
  · exact ⟨(Storage.store_nil onData.1).symm, rfl, onData.2⟩
  · exact holds

end Memory

namespace Session

/-- The stream is not what failed the session. -/
def IsStreamSound {σ : Type} (session : Session σ) : Prop :=
  ∀ fault, session.failure ≠ some (.stream fault)

/-- What becomes of a session that saves to memory in two ways. -/
structure SavesAlike (session first second : Session Memory) : Prop where
  /-- Whatever memory is granted, the same is stored where both ways find room. -/
  data_eq : first.IsStreamSound → second.IsStreamSound → first.stream.data = second.stream.data
  cursor_eq : first.IsStreamSound → second.IsStreamSound →
    first.stream.cursor = second.stream.cursor
  /-- With memory for whatever is requested, both ways find room, or neither does. -/
  failure_eq : (∀ size, session.allocator.grants size = true) → first.failure = second.failure

theorem SavesAlike.of_eq {session first second : Session Memory} (same : first = second) :
    SavesAlike session first second :=
  ⟨fun _ _ => congrArg (·.stream.data) same, fun _ _ => congrArg (·.stream.cursor) same,
    fun _ => congrArg failure same⟩

variable {session : Session Memory}

/-- Where nothing is refused only the stream can fail, and with memory for whatever is requested
only addresses can be missing. -/
theorem failure_putAll_of_unrefused (sound : session.failure = none) {outputs : List Output}
    (unrefused : Output.Unrefused outputs) :
    (session.putAll outputs).failure = none ∨
      ∃ fault, (session.putAll outputs).failure = some (.stream fault) ∧
        ((∀ size, session.allocator.grants size = true) → fault = .invalidInput) := by
  induction outputs generalizing session with
  | nil => exact Or.inl sound
  | cons output outputs ih =>
      obtain ⟨first, later⟩ := Output.unrefused_append.mp
        (show Output.Unrefused ([output] ++ outputs) from unrefused)
      rw [putAll_cons, put_eq_writeBytes (fun _ _ _ => rfl) first]
      rcases Memory.write_cases session.allocator output.bytes session.stream with
        ⟨next, written, _⟩ | ⟨faulted, _⟩ | ⟨faulted, request, refused⟩
      · rw [writeBytes_of_ok sound (by rw [written])]
        exact ih sound later
      · rw [writeBytes_of_error sound (by rw [faulted]), putAll_of_hasFailed rfl]
        exact Or.inr ⟨.invalidInput, rfl, fun _ => rfl⟩
      · rw [writeBytes_of_error sound (by rw [faulted]), putAll_of_hasFailed rfl]
        refine Or.inr ⟨.outOfMemory, rfl, fun grants => ?_⟩
        rw [grants] at refused
        cases refused

theorem sound_of_isStreamSound (sound : session.failure = none) {outputs : List Output}
    (unrefused : Output.Unrefused outputs) (ended : (session.putAll outputs).IsStreamSound) :
    (session.putAll outputs).failure = none := by
  rcases failure_putAll_of_unrefused sound unrefused with done | ⟨fault, faulted, _⟩
  · exact done
  · exact absurd faulted (ended fault)

/-- From a cursor on the data, everything is put out where there are addresses for it. -/
theorem putAll_sound_iff (sound : session.failure = none) (onData : session.stream.OnData)
    (grants : ∀ size, session.allocator.grants size = true) {outputs : List Output}
    (unrefused : Output.Unrefused outputs) :
    (session.putAll outputs).failure = none ↔
      session.stream.cursor + (Output.concat outputs).length < addressLimit := by
  constructor
  · intro done
    have holds := (putAll_of_sound done).2.holds onData
    have reached := holds.addressed
    rw [holds.cursor_eq] at reached
    exact reached
  · exact putAll_sound sound grants unrefused

/-- How the bytes are split does not matter to the memory in which they end. -/
theorem savesAlike_of_unrefused (onData : session.stream.OnData) {first second : List Output}
    (split : Output.SplitAlike first second) (unrefused : Output.Unrefused first) :
    SavesAlike session (session.putAll first) (session.putAll second) := by
  have unrefused' : Output.Unrefused second := by
    rw [Output.unrefused_iff, ← split.refusals_eq]
    exact Output.unrefused_iff.mp unrefused
  by_cases failed : session.hasFailed = true
  · exact .of_eq ((putAll_of_hasFailed failed first).trans (putAll_of_hasFailed failed second).symm)
  have sound : session.failure = none := by simpa using failed
  have stored : (session.putAll first).IsStreamSound → (session.putAll second).IsStreamSound →
      session.stream.Holds (Output.concat first) (session.putAll first).stream ∧
        session.stream.Holds (Output.concat first) (session.putAll second).stream := by
    intro left right
    have done := (putAll_of_sound (sound_of_isStreamSound sound unrefused left)).2
    have done' := (putAll_of_sound (sound_of_isStreamSound sound unrefused' right)).2
    rw [split.concat_eq]
    exact ⟨split.concat_eq ▸ done.holds onData, done'.holds onData⟩
  refine ⟨fun left right => ?_, fun left right => ?_, fun grants => ?_⟩
  · obtain ⟨holds, holds'⟩ := stored left right
    rw [holds.data_eq, holds'.data_eq]
  · obtain ⟨holds, holds'⟩ := stored left right
    rw [holds.cursor_eq, holds'.cursor_eq]
  · have both : (session.putAll first).failure = none ↔ (session.putAll second).failure = none := by
      rw [putAll_sound_iff sound onData grants unrefused,
        putAll_sound_iff sound onData grants unrefused', split.concat_eq]
    rcases failure_putAll_of_unrefused sound unrefused with done | ⟨fault, faulted, only⟩
    · exact done.trans (both.mp done).symm
    · rcases failure_putAll_of_unrefused sound unrefused' with done | ⟨fault', faulted', only'⟩
      · rw [both.mpr done] at faulted
        cases faulted
      · rw [faulted, faulted', only grants, only' grants]

end Session

/-! ## Restoring -/

namespace Session

variable {σ : Type} [ByteStream σ] [Supply σ] {α : Type}

/-- Outcomes of restoring a value in two ways. -/
structure RestoresAlike (first second : α × Session σ) : Prop where
  failure_eq : first.2.failure = second.2.failure
  value_eq : first.2.failure = none → first.1 = second.1
  position_eq : first.2.failure = none → first.2.position = second.2.position

/-- What follows the same decoder restores alike, in front of any bytes. -/
theorem restoresAlike_of_follows {first second : Session σ → α × Session σ}
    (decoder : Limits → Decoder α)
    (left : ∀ setting, Follows setting first (decoder setting.limits))
    (right : ∀ setting, Follows setting second (decoder setting.limits)) {session : Session σ}
    (reading : session.mode = .read) (grants : ∀ size, session.allocator.grants size = true)
    {bytes : Bytes} (supplied : Supply.Supplies session.stream bytes) :
    RestoresAlike (first session) (second session) := by
  let setting : Setting :=
    ⟨session.version, session.limits, session.position + bytes.length⟩
  cases state : session.failure with
  | some failure =>
      have failed := hasFailed_of_failure state
      have unmoved := (left setting).stays failed
      have unmoved' := (right setting).stays failed
      refine ⟨by rw [unmoved, unmoved'], fun sound => ?_, fun sound => ?_⟩
      all_goals
        rw [unmoved, state] at sound
        cases sound
  | none =>
      have faces : Faces setting session bytes :=
        ⟨state, reading, rfl, rfl, grants, supplied, rfl⟩
      cases outcome : decoder session.limits bytes with
      | ok found =>
          obtain ⟨value, reached⟩ := (left setting).takes faces outcome
          obtain ⟨value', reached'⟩ := (right setting).takes faces outcome
          refine ⟨reached.sound.trans reached'.sound.symm, fun _ => value.trans value'.symm, ?_⟩
          intro sound
          exact Nat.add_right_cancel (reached.stop_eq.trans reached'.stop_eq.symm)
      | error failure =>
          have failed := (left setting).fails faces outcome
          have failed' := (right setting).fails faces outcome
          refine ⟨failed.trans failed'.symm, fun sound => ?_, fun sound => ?_⟩
          all_goals
            rw [failed] at sound
            cases sound

omit [Supply σ] in
/-- A list of plain values that fails to be read in bulk is empty. -/
theorem transferBlocks_of_failed {session : Session σ} (reading : session.mode = .read)
    {item : Layout} {values : List item.Value}
    (failed : (session.transferBlocks item values).2.hasFailed = true) :
    (session.transferBlocks item values).1 = [] := by
  rw [transferBlocks, reading] at failed ⊢
  exact readChunks_eq_nil failed

omit [Supply σ] in
/-- A list that fails to be read item by item is empty. -/
theorem transfer_list_of_failed {session : Session σ} (reading : session.mode = .read)
    {item : Layout} {values : List item.Value}
    (failed : (session.transfer (.list item) values).2.hasFailed = true) :
    (session.transfer (.list item) values).1 = [] := by
  rw [transfer, reading] at failed ⊢
  exact readChunks_eq_nil failed

end Session

/-! ## Agreement -/

/-- Moving plain values in bulk agrees with moving them item by item. -/
structure Layout.AgreesInBulk (item : Layout) : Prop where
  /-- Over any stream, a list is put out as the same bytes. -/
  list_emitted : ∀ values : List item.Value, ∃ whole parts, Output.SplitAlike whole parts ∧
    ∀ {σ : Type} [ByteStream σ] (session : Session σ), session.mode = .write →
      (session.transferBlocks item values).2 = session.putAll whole ∧
        (session.transfer (.list item) values).2 = session.putAll parts
  /-- Over any stream, an array is put out as the same bytes. -/
  array_emitted : ∀ {length : Nat} (values : Fixed item.Value length), ∃ whole parts,
    Output.SplitAlike whole parts ∧
      ∀ {σ : Type} [ByteStream σ] (session : Session σ), session.mode = .write →
        (session.transferBlock (.array item length) values).2 = session.putAll whole ∧
          (session.transfer (.array item length) values).2 = session.putAll parts
  /-- A list is saved to the same memory. -/
  list_saved : ∀ (session : Session Memory) (values : List item.Value), session.mode = .write →
    session.stream.OnData →
      session.SavesAlike (session.transferBlocks item values).2
        (session.transfer (.list item) values).2
  /-- An array is saved to the same memory. -/
  array_saved : ∀ (session : Session Memory) {length : Nat} (values : Fixed item.Value length),
    session.mode = .write → session.stream.OnData →
      session.SavesAlike (session.transferBlock (.array item length) values).2
        (session.transfer (.array item length) values).2
  /-- From any bytes a list is restored alike, and also where it fails the same is left. -/
  list_restored : ∀ {σ : Type} [ByteStream σ] [Supply σ] (session : Session σ) (bytes : Bytes)
    (values : List item.Value), session.mode = .read →
      (∀ size, session.allocator.grants size = true) → Supply.Supplies session.stream bytes →
        (session.transferBlocks item values).1 = (session.transfer (.list item) values).1 ∧
          Session.RestoresAlike (session.transferBlocks item values)
            (session.transfer (.list item) values)
  /-- From any bytes an array is restored alike. -/
  array_restored : ∀ {σ : Type} [ByteStream σ] [Supply σ] (session : Session σ) (bytes : Bytes)
    {length : Nat} (values : Fixed item.Value length), session.mode = .read →
      (∀ size, session.allocator.grants size = true) → Supply.Supplies session.stream bytes →
        Session.RestoresAlike (session.transferBlock (.array item length) values)
          (session.transfer (.array item length) values)

namespace Session

theorem transferBlocks_of_writing {σ : Type} [ByteStream σ] {session : Session σ}
    (writing : session.mode = .write) (item : Layout) (values : List item.Value) :
    (session.transferBlocks item values).2 =
      session.putAll [.length values.length, .block (values.flatMap item.encode)] := by
  rw [transferBlocks, writing, writeLength_eq_put]
  rfl

theorem transferBlock_of_writing {σ : Type} [ByteStream σ] {session : Session σ}
    (writing : session.mode = .write) (layout : Layout) (value : layout.Value) :
    (session.transferBlock layout value).2 = session.putAll [.block (layout.encode value)] := by
  rw [transferBlock, writing]
  rfl

theorem transfer_of_writing {σ : Type} [ByteStream σ] {session : Session σ}
    (writing : session.mode = .write) (layout : Layout) (value : layout.Value) :
    (session.transfer layout value).2 = session.putAll (layout.outputs value) := by
  rw [transfer, writing]
  exact save_eq_putAll layout value session

/-- Behind a length that cannot be expressed nothing is put out. -/
theorem putAll_of_beyond {σ : Type} [ByteStream σ] (session : Session σ) {count : Nat}
    (beyond : Limits.largestLength < count) (outputs : List Output) :
    session.putAll (.length count :: outputs) =
      session.fail (.lengthLimit count Limits.largestLength) := by
  rw [putAll_cons, Output.length_of_lt beyond, put, putAll_of_hasFailed (hasFailed_fail _ _)]

end Session

namespace Layout

variable {item : Layout}

theorem savesAlike_list (plain : item.isPlain = true) {session : Session Memory}
    (values : List item.Value) (writing : session.mode = .write)
    (onData : session.stream.OnData) :
    session.SavesAlike (session.transferBlocks item values).2
      (session.transfer (.list item) values).2 := by
  rw [Session.transferBlocks_of_writing writing, Session.transfer_of_writing writing]
  rcases Nat.lt_or_ge Limits.largestLength values.length with beyond | small
  · rw [outputs, Session.putAll_of_beyond session beyond, Session.putAll_of_beyond session beyond]
    exact .of_eq rfl
  · exact Session.savesAlike_of_unrefused onData (splitAlike_blocks plain values)
      (Output.unrefused_cons_length.mpr ⟨small, Output.unrefused_block _⟩)

/-- Moving plain values in bulk agrees with moving them item by item, for numbers and for arrays
of any depth.  In either mode a list and an array come to the same: the same bytes are saved, and
from any bytes, for any number of items, the same is restored.  Lists end in the same failure with
nothing kept, whatever the bytes lack. -/
theorem bulk_agrees_with_items (plain : item.isPlain = true) : item.AgreesInBulk where
  list_emitted values := by
    refine ⟨_, _, splitAlike_blocks plain values, fun session writing => ?_⟩
    exact ⟨Session.transferBlocks_of_writing writing item values,
      Session.transfer_of_writing writing (.list item) values⟩
  array_emitted {length} values := by
    have isPlain : (Layout.array item length).isPlain = true := plain
    refine ⟨_, _, splitAlike_block isPlain values, fun session writing => ?_⟩
    exact ⟨Session.transferBlock_of_writing writing (.array item length) values,
      Session.transfer_of_writing writing (.array item length) values⟩
  list_saved session values writing onData := savesAlike_list plain values writing onData
  array_saved session {length} values writing onData := by
    have isPlain : (Layout.array item length).isPlain = true := plain
    rw [Session.transferBlock_of_writing writing, Session.transfer_of_writing writing]
    exact Session.savesAlike_of_unrefused onData (splitAlike_block isPlain values)
      (Output.unrefused_block _)
  list_restored := by
    intro σ _ _ session bytes values reading grants supplied
    have alike := Session.restoresAlike_of_follows
      (fun limits => (Layout.list item).decode limits)
      (fun _ => Session.transferBlocks_follows plain values)
      (fun _ => Session.transfer_follows (.list item) values)
      reading grants supplied
    refine ⟨?_, alike⟩
    cases state : (session.transferBlocks item values).2.failure with
    | none => exact alike.value_eq state
    | some failure =>
        have failed := Session.hasFailed_of_failure state
        have failed' := Session.hasFailed_of_failure (alike.failure_eq.symm.trans state)
        rw [Session.transferBlocks_of_failed reading failed,
          Session.transfer_list_of_failed reading failed']
  array_restored := by
    intro σ _ _ session bytes length values reading grants supplied
    have isPlain : (Layout.array item length).isPlain = true := plain
    exact Session.restoresAlike_of_follows
      (fun limits => (Layout.array item length).decode limits)
      (fun _ => Session.transferBlock_follows isPlain values)
      (fun _ => Session.transfer_follows (.array item length) values)
      reading grants supplied

/-- Two pairs of numbers are read whole, and from a slice that ends inside the second pair
neither way keeps the first. -/
theorem bulk_agrees_with_items_of_pairs :
    let item : Layout := .array (.scalar (.integer ⟨false, .two⟩)) 2
    let bytes : Bytes := Bytes.ofNat 4 2 ++ [1, 0, 2, 0, 3, 0, 4, 0]
    let whole := Session.start .unbounded (Memory.ofBytes bytes) .read 1 .standard
    let short := Session.start .unbounded (Slice.ofBytes (bytes.take 9)) .read 1 .standard
    let written := Session.start .unbounded (Memory.ofBytes [9, 9, 9]) .write 1 .standard
    let pairs : List item.Value := [⟨[1#16, 2#16], rfl⟩, ⟨[3#16, 4#16], rfl⟩]
    item.isPlain = true ∧
      ((whole.transfer (.list item) []).1.map (·.items.map BitVec.toNat) = [[1, 2], [3, 4]] ∧
        (whole.transfer (.list item) []).2.position = 12) ∧
      ((short.transfer (.list item) []).1 = [] ∧
        (short.transfer (.list item) []).2.failure = some (.stream .unexpectedEnd)) ∧
      (written.transfer (.list item) pairs).2.stream.data.toList = bytes := by
  intro item bytes whole short written pairs
  have plain : item.isPlain = true := rfl
  have grants : ∀ size, Allocator.unbounded.grants size = true := fun _ => rfl
  have agrees := bulk_agrees_with_items plain
  obtain ⟨restored, alike⟩ := agrees.list_restored whole bytes [] rfl grants
    (Memory.supplies_ofBytes (by decide))
  obtain ⟨nothing, broken⟩ := agrees.list_restored short (bytes.take 9) [] rfl grants
    (Slice.supplies_ofBytes _)
  have saved := agrees.list_saved written pairs rfl ⟨by decide, by decide⟩
  have done : (whole.transferBlocks item []).2.failure = none := by decide +kernel
  have failed : (short.transferBlocks item []).2.failure = some (.stream .unexpectedEnd) := by
    decide +kernel
  have sound : (written.transferBlocks item pairs).2.failure = none := by decide +kernel
  refine ⟨plain, ⟨?_, ?_⟩, ⟨?_, ?_⟩, ?_⟩
  · rw [← restored]
    decide +kernel
  · rw [← alike.position_eq done]
    decide +kernel
  · rw [← nothing]
    decide +kernel
  · rw [← broken.failure_eq]
    exact failed
  · have sound' := (saved.failure_eq grants).symm.trans sound
    rw [← saved.data_eq (by simp [Session.IsStreamSound, sound])
      (by simp [Session.IsStreamSound, sound'])]
    decide +kernel

end Layout

end Snapshot
