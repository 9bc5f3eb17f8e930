import Snapshot.Proofs.FailurePoints
import Snapshot.Stream.Bounded

/-!
# Saving to a store that fills up

A save that fails leaves a clean front of its outputs behind.  The store holds everything that
was put out before the first output that it has no room for or that is refused, and nothing from
there on, even where a later output would fit.
-/

namespace Snapshot

open Output

/-- Streams that store a block behind the others as long as there is room for all of it, and
refuse it otherwise. -/
class BlockStore (σ : Type) [ByteStream σ] where
  contents : σ → Bytes
  capacity : σ → Nat
  fault : σ → Fault
  write_of_le : ∀ {state : σ} {bytes : Bytes} (allocator : Allocator),
    (contents state).length + bytes.length ≤ capacity state →
      ∃ next, ByteStream.write allocator bytes state = (.ok (), next) ∧
        contents next = contents state ++ bytes ∧ capacity next = capacity state ∧
        fault next = fault state
  write_of_lt : ∀ {state : σ} {bytes : Bytes} (allocator : Allocator),
    capacity state < (contents state).length + bytes.length →
      ∃ next, ByteStream.write allocator bytes state = (.error (fault state), next) ∧
        contents next = contents state
  writesSingly : ByteStream.WritesSingly σ

namespace BlockStore

variable {σ : Type} [ByteStream σ] [BlockStore σ] {allocator : Allocator} {state next : σ}
  {bytes : Bytes}

/-- A block that is stored had room, and stands behind the others. -/
theorem stored_of_ok (stored : ByteStream.write allocator bytes state = (.ok (), next)) :
    (contents state).length + bytes.length ≤ capacity state ∧
      contents next = contents state ++ bytes ∧ capacity next = capacity state ∧
      BlockStore.fault next = BlockStore.fault state := by
  rcases Nat.lt_or_ge (capacity state) ((contents state).length + bytes.length) with beyond | fits
  · obtain ⟨next', refused, _⟩ := write_of_lt allocator beyond
    cases stored.symm.trans refused
  · obtain ⟨next', taken, same⟩ := write_of_le allocator fits
    cases stored.symm.trans taken
    exact ⟨fits, same⟩

/-- A block that is refused had no room, and leaves nothing behind. -/
theorem refused_of_error {fault : Fault}
    (faulted : ByteStream.write allocator bytes state = (.error fault, next)) :
    capacity state < (contents state).length + bytes.length ∧ fault = BlockStore.fault state ∧
      contents next = contents state := by
  rcases Nat.lt_or_ge (capacity state) ((contents state).length + bytes.length) with beyond | fits
  · obtain ⟨next', refused, same⟩ := write_of_lt allocator beyond
    cases faulted.symm.trans refused
    exact ⟨beyond, rfl, same⟩
  · obtain ⟨next', taken, _⟩ := write_of_le allocator fits
    cases faulted.symm.trans taken

end BlockStore

instance : BlockStore Bounded where
  contents store := store.data.toList
  capacity := Bounded.capacity
  fault _ := .writeZero
  write_of_le := by
    intro store bytes allocator fits
    exact ⟨_, if_pos fits, by simp, rfl, rfl⟩
  write_of_lt := by
    intro store bytes allocator full
    exact ⟨_, if_neg (Nat.not_le_of_lt full), rfl⟩
  writesSingly := fun _ _ _ => rfl

/-- A stream without bounds.  It keeps apart the blocks that it is given. -/
structure Tape where
  blocks : List Bytes

instance : ByteStream Tape where
  read _ tape := (.failed .unsupported, tape)
  write _ bytes tape := (.ok (), ⟨tape.blocks ++ [bytes]⟩)
  position tape := tape.blocks.flatten.length
  length_read_le := by simp [Delivery.failed]
  length_read := by simp [Delivery.failed]

/-- Why a store with `used` of its bytes in use takes nothing of the given outputs, and what a
session that has come to them ends in. -/
inductive Output.StopsAt (fault : Fault) (capacity used : Nat) :
    List Output → Except Failure Unit → Prop
  | nowhere : StopsAt fault capacity used [] (.ok ())
  | refusal (failure : Failure) (rest : List Output) :
      StopsAt fault capacity used (.refusal failure :: rest) (.error failure)
  | full {output : Output} (rest : List Output) (unrefused : Unrefused [output])
      (beyond : capacity < used + output.bytes.length) :
      StopsAt fault capacity used (output :: rest) (.error (.stream fault))

/-- The outputs that hold a store up are all put out just if none of them is refused and they fit
together. -/
theorem Output.StopsAt.ok_iff {fault : Fault} {capacity used : Nat} {back : List Output}
    {outcome : Except Failure Unit} (stops : StopsAt fault capacity used back outcome)
    (room : used ≤ capacity) :
    outcome = .ok () ↔ refusals back = [] ∧ used + (concat back).length ≤ capacity := by
  cases stops with
  | nowhere => simpa using room
  | refusal failure rest => simp
  | full rest unrefused beyond =>
      constructor
      · intro impossible
        cases impossible
      · rintro ⟨_, fits⟩
        rw [concat_cons, List.length_append] at fits
        omega

/-- The way of a sound session through its outputs: the stream takes all of the first list, and
the second list is where the session comes to its end. -/
inductive Saving {σ : Type} [ByteStream σ] (allocator : Allocator) :
    σ → List Output → List Output → σ → Except Failure Unit → Prop
  | nowhere (state : σ) : Saving allocator state [] [] state (.ok ())
  | refusal (state : σ) (failure : Failure) (rest : List Output) :
      Saving allocator state [] (.refusal failure :: rest) state (.error failure)
  | fault {state last : σ} {output : Output} {fault : Fault} (rest : List Output)
      (unrefused : Unrefused [output])
      (faulted : ByteStream.write allocator output.bytes state = (.error fault, last)) :
      Saving allocator state [] (output :: rest) last (.error (.stream fault))
  | block {state next last : σ} {output : Output} {front back : List Output}
      {outcome : Except Failure Unit} (unrefused : Unrefused [output])
      (stored : ByteStream.write allocator output.bytes state = (.ok (), next))
      (later : Saving allocator next front back last outcome) :
      Saving allocator state (output :: front) back last outcome

namespace Session

variable {σ : Type} {session : Session σ}

theorem finish_of_failure {failure : Failure} (failed : session.failure = some failure) :
    session.finish = .error failure := by
  rw [finish, failed]

variable [ByteStream σ]

/-- A sound session goes its way through all outputs. -/
theorem putAll_saving (single : ByteStream.WritesSingly σ) (sound : session.failure = none)
    (unmarked : session.mismatch = none) (outputs : List Output) :
    ∃ front back, outputs = front ++ back ∧
      Saving session.allocator session.stream front back (session.putAll outputs).stream
        (session.putAll outputs).finish := by
  induction outputs generalizing session with
  | nil =>
      refine ⟨[], [], rfl, ?_⟩
      rw [putAll_nil, finish, sound, unmarked]
      exact .nowhere session.stream
  | cons output outputs ih =>
      rw [putAll_cons]
      rcases output.unrefused_or_exists with unrefused | ⟨failure, rfl⟩
      · rw [put_eq_writeBytes single unrefused]
        cases written : ByteStream.write session.allocator output.bytes session.stream with
        | mk answer next =>
            cases answer with
            | error fault =>
                have failed := writeBytes_of_error sound (congrArg Prod.fst written)
                have halted : (session.writeBytes output.bytes).failure = some (.stream fault) := by
                  rw [failed]
                rw [putAll_of_hasFailed (hasFailed_of_failure halted), finish_of_failure halted,
                  failed, written]
                exact ⟨[], output :: outputs, rfl, .fault outputs unrefused written⟩
            | ok _ =>
                rw [writeBytes_of_ok sound (congrArg Prod.fst written), written]
                have unfailed : ({ session with stream := next } : Session σ).failure = none := sound
                obtain ⟨front, back, split, later⟩ := ih unfailed unmarked
                exact ⟨output :: front, back, congrArg (output :: ·) split,
                  .block unrefused written later⟩
      · have halted : (session.put (.refusal failure)).failure = some failure := by
          rw [put, fail_of_sound sound]
        rw [putAll_of_hasFailed (hasFailed_of_failure halted), finish_of_failure halted]
        exact ⟨[], _, rfl, .refusal session.stream failure outputs⟩

end Session

namespace Saving

variable {σ : Type} [ByteStream σ] {allocator : Allocator} {state last : σ}
  {front back : List Output} {outcome : Except Failure Unit}

theorem unrefused (saving : Saving allocator state front back last outcome) :
    Unrefused front := by
  induction saving with
  | nowhere state => exact unrefused_nil
  | refusal state failure rest => exact unrefused_nil
  | fault rest unrefused faulted => exact unrefused_nil
  | block unrefused stored later ih => exact unrefused_append.mpr ⟨unrefused, ih⟩

section BlockStore

variable [BlockStore σ]

/-- A store ends up with what it held and the outputs that it took, which it had room for, and
the rest is held up there. -/
theorem stored (saving : Saving allocator state front back last outcome)
    (within : (BlockStore.contents state).length ≤ BlockStore.capacity state) :
    BlockStore.contents last = BlockStore.contents state ++ concat front ∧
      (BlockStore.contents last).length ≤ BlockStore.capacity state ∧
      StopsAt (BlockStore.fault state) (BlockStore.capacity state)
        (BlockStore.contents last).length back outcome := by
  induction saving with
  | nowhere state => exact ⟨(List.append_nil _).symm, within, .nowhere⟩
  | refusal state failure rest =>
      exact ⟨(List.append_nil _).symm, within, .refusal failure rest⟩
  | fault rest unrefused faulted =>
      obtain ⟨beyond, rfl, same⟩ := BlockStore.refused_of_error faulted
      rw [same]
      exact ⟨(List.append_nil _).symm, within, .full rest unrefused beyond⟩
  | block unrefused stored later ih =>
      obtain ⟨fits, contents, capacity, fault⟩ := BlockStore.stored_of_ok stored
      rw [capacity, fault, contents, List.length_append] at ih
      obtain ⟨held, room, stops⟩ := ih fits
      refine ⟨?_, room, stops⟩
      rw [held, concat_cons, List.append_assoc]

end BlockStore

/-- A tape takes everything up to the first refusal, block by block. -/
theorem taped {tape last : Tape} (saving : Saving allocator tape front back last outcome) :
    last.blocks = tape.blocks ++ front.map Output.bytes ∧
      (back = [] ∧ outcome = .ok () ∨
        ∃ failure rest, back = .refusal failure :: rest ∧ outcome = .error failure) := by
  induction saving with
  | nowhere tape => exact ⟨(List.append_nil _).symm, Or.inl ⟨rfl, rfl⟩⟩
  | refusal tape failure rest =>
      exact ⟨(List.append_nil _).symm, Or.inr ⟨failure, rest, rfl, rfl⟩⟩
  | fault rest unrefused faulted => cases faulted
  | block unrefused stored later ih =>
      cases stored
      obtain ⟨blocks, stops⟩ := ih
      refine ⟨?_, stops⟩
      rw [blocks, List.map_cons, List.append_assoc]
      rfl

end Saving

namespace Routine

variable {σ : Type} [ByteStream σ] [BlockStore σ]

/-- How a save onto a store comes out: it gets to the first output that is refused or for which
there is no room, and ends without a failure just if there is none. -/
structure SavesCleanly (routine : Routine) (given : routine.Values) (store : σ)
    (saved : Session σ) : Prop where
  stored : ∃ front back, routine.outputs given = front ++ back ∧ Unrefused front ∧
    BlockStore.contents saved.stream = BlockStore.contents store ++ concat front ∧
    (BlockStore.contents saved.stream).length ≤ BlockStore.capacity store ∧
    StopsAt (BlockStore.fault store) (BlockStore.capacity store)
      (BlockStore.contents saved.stream).length back saved.finish
  finish_ok_iff : saved.finish = .ok () ↔ routine.refusals given = [] ∧
    (BlockStore.contents store).length + (concat (routine.outputs given)).length ≤
      BlockStore.capacity store

theorem savesCleanly {store : σ}
    (within : (BlockStore.contents store).length ≤ BlockStore.capacity store)
    (routine : Routine) (given : routine.Values) (allocator : Allocator) (version : UInt32)
    (limits : Limits) :
    routine.SavesCleanly given store
      (routine.run given (Session.start allocator store .write version limits)).2 := by
  have sound : (Session.start allocator store .write version limits).failure = none := rfl
  rw [routine.run_of_writing rfl]
  obtain ⟨front, back, split, saving⟩ :=
    Session.putAll_saving BlockStore.writesSingly sound rfl (routine.outputs given)
  obtain ⟨held, room, stops⟩ := saving.stored within
  have unrefused := saving.unrefused
  refine ⟨⟨front, back, split, unrefused, held, room, stops⟩, ?_⟩
  have size := congrArg List.length held
  rw [List.length_append] at size
  rw [stops.ok_iff room, size, ← routine.refusals_outputs given, split, refusals_append,
    unrefused_iff.mp unrefused, List.nil_append, concat_append, List.length_append, Nat.add_assoc]
  rfl

/-- Up to the first refusal, the outputs of a routine are the blocks that a session hands to a
stream without bounds. -/
def IsRecorded (routine : Routine) (given : routine.Values) (recorded : Session Tape) : Prop :=
  ∃ front back, routine.outputs given = front ++ back ∧ Unrefused front ∧
    recorded.stream.blocks = front.map Output.bytes ∧
    (back = [] ∧ recorded.finish = .ok () ∨
      ∃ failure rest, back = .refusal failure :: rest ∧ recorded.finish = .error failure)

theorem isRecorded (routine : Routine) (given : routine.Values) (allocator : Allocator)
    (version : UInt32) (limits : Limits) :
    routine.IsRecorded given
      (routine.run given (Session.start allocator (⟨[]⟩ : Tape) .write version limits)).2 := by
  have sound : (Session.start allocator (⟨[]⟩ : Tape) .write version limits).failure = none := rfl
  rw [routine.run_of_writing rfl]
  obtain ⟨front, back, split, saving⟩ :=
    Session.putAll_saving (fun _ _ _ => rfl) sound rfl (routine.outputs given)
  obtain ⟨blocks, stops⟩ := saving.taped
  exact ⟨front, back, split, saving.unrefused, blocks, stops⟩

/-- Whatever a store has room for, a save leaves on it just the outputs before the first one that
does not fit or is refused, and ends in the failure of that one.  The outputs are the blocks that
go to a stream without bounds.  What is refused among them are the lengths that a prefix cannot
express and the invalidations.  A step that begins with such a length puts out nothing, or is
misuse if it is a marker. -/
theorem failed_save_is_clean {store : σ}
    (within : (BlockStore.contents store).length ≤ BlockStore.capacity store)
    (routine : Routine) (given : routine.Values) (allocator : Allocator) (version : UInt32)
    (limits : Limits) :
    let saved := (routine.run given (Session.start allocator store .write version limits)).2
    let recorded :=
      (routine.run given (Session.start allocator (⟨[]⟩ : Tape) .write version limits)).2
    routine.SavesCleanly given store saved ∧
      routine.IsRecorded given recorded ∧
      Output.refusals (routine.outputs given) = routine.refusals given ∧
      ∀ session : Session σ, session.mode = .write →
        ∀ (step : Step) (value : step.Value) (count : Nat) (counts : List Nat),
          step.lengths value = count :: counts → Limits.largestLength < count →
            (step.run value session).2 = session.fail (.lengthLimit count Limits.largestLength) ∨
              step.run value session = ((.refused .markerTooLong, value), session) := by
  intro saved recorded
  refine ⟨savesCleanly within routine given allocator version limits,
    isRecorded routine given allocator version limits, routine.refusals_outputs given, ?_⟩
  intro session writing step value count counts states long
  exact step.run_of_overlong writing states long

/-- A store of six bytes takes the first of two numbers of four bytes.  The byte behind them would
fit, but is not stored. -/
theorem failed_save_is_clean_on_full_store :
    let routine : Routine :=
      [.value (.scalar .u32), .value (.scalar .u32), .value (.scalar .u8), .marker "END"]
    let given : routine.Values := (1#32, 2#32, 3#8, (), ())
    let saved := (routine.run given
      (Session.start .unbounded (Bounded.empty 6) .write 1 .standard)).2
    routine.SavesCleanly given (Bounded.empty 6) saved ∧
      saved.finish = .error (.stream .writeZero) ∧ saved.stream.data = #[1, 0, 0, 0] := by
  intro routine given saved
  have within : (BlockStore.contents (Bounded.empty 6)).length ≤
      BlockStore.capacity (Bounded.empty 6) := Nat.zero_le 6
  obtain ⟨cleanly, _⟩ := failed_save_is_clean within routine given .unbounded 1 .standard
  exact ⟨cleanly, rfl, rfl⟩

end Routine

end Snapshot
