import Snapshot.Proofs.RoundTrip

/-!
# Version gates

Gates concern restoring only.  A saving session puts out every field, even one that is
absent at its version; that state of an older version lacks the later fields is up to
the routine that saves it.  A routine restores its own state as far as the absent fields
were left out, or have nothing to put out.
-/

namespace Snapshot

open Output

/-- A prefix expresses every length that a reader accepts. -/
theorem Limits.le_largestLength {limit : UInt32} {count : Nat} (fits : count ≤ limit.toNat) :
    count ≤ Limits.largestLength :=
  Nat.le_trans fits (Nat.le_of_lt_succ limit.toNat_lt)

namespace Layout

theorem unrefused_of_fits {limits : Limits} {layout : Layout} {value : layout.Value}
    (fits : layout.Fits limits value) : Unrefused (layout.outputs value) := by
  induction layout with
  | unit => simp [outputs, Unrefused]
  | scalar kind => simp [outputs, Unrefused]
  | bool => simp [outputs, Unrefused]
  | text => exact unrefused_text.mpr (Limits.le_largestLength fits)
  | smallText capacity =>
      exact unrefused_text.mpr (Limits.le_largestLength fits)
  | array item length ih =>
      exact unrefused_flatMap.mpr fun own inside => ih (fits own inside)
  | list item ih =>
      obtain ⟨small, each⟩ := fits
      apply unrefused_cons_length.mpr
      exact ⟨Limits.le_largestLength small,
        unrefused_flatMap.mpr fun own inside => ih (each own inside)⟩
  | deque item ih =>
      obtain ⟨small, each⟩ := fits
      apply unrefused_cons_length.mpr
      exact ⟨Limits.le_largestLength small,
        unrefused_flatMap.mpr fun own inside => ih (each own inside)⟩

end Layout

namespace Step

/-- The stored bytes of a step, whatever the version. -/
def encode : (step : Step) → step.Value → Bytes
  | .value layout, given => layout.encode given
  | .field layout _, given => layout.encode given
  | .block layout _, given => layout.encode given
  | .blocks item _, given => (Layout.list item).encode given
  | .units, given => Bytes.ofNat 4 given
  | .bytes _, given => given.items
  | .bytesField _ _, given => given.items
  | .variant enumeration, given => enumeration.scalar.encode (enumeration.toRepr given)
  | .lend lent, _ => Layout.text.encode lent
  | .marker expected, _ => Layout.text.encode expected
  | .expect expected, _ => Layout.text.encode expected
  | .invalidate _, _ => []
  | .abandon _, _ => []

theorem unrefused_of_fits {limits : Limits} {step : Step} (symmetric : step.IsSymmetric)
    {given : step.Value} (fits : step.Fits limits given) : Unrefused (step.outputs given) := by
  cases step with
  | value layout => exact Layout.unrefused_of_fits fits
  | field layout gate => exact Layout.unrefused_of_fits fits
  | blocks item plain =>
      apply unrefused_cons_length.mpr
      exact ⟨Limits.le_largestLength fits, by simp [Unrefused]⟩
  | units =>
      apply unrefused_cons_length.mpr
      exact ⟨Limits.le_largestLength fits, by simp [Unrefused]⟩
  | marker expected =>
      rw [outputs, if_neg (Nat.not_lt_of_le symmetric)]
      exact unrefused_text.mpr (Limits.le_largestLength fits)
  | expect expected =>
      rw [outputs, if_neg (Nat.not_lt_of_le symmetric)]
      exact unrefused_text.mpr (Limits.le_largestLength fits)
  | lend lent => cases symmetric
  | invalidate reason => cases symmetric
  | abandon reason => cases symmetric
  | _ => simp [outputs, Unrefused]

/-- Where every length can be expressed, a symmetric step puts out its encoding. -/
theorem concat_outputs {step : Step} (symmetric : step.IsSymmetric) {given : step.Value}
    (unrefused : Unrefused (step.outputs given)) :
    concat (step.outputs given) = step.encode given := by
  cases step with
  | value layout => exact Layout.concat_outputs unrefused
  | field layout gate => exact Layout.concat_outputs unrefused
  | blocks item plain =>
      obtain ⟨small, _⟩ := unrefused_cons_length.mp unrefused
      rw [outputs, concat_cons, bytes_length small, concat_block]
      rfl
  | units =>
      obtain ⟨small, _⟩ := unrefused_cons_length.mp unrefused
      rw [outputs, concat_cons, bytes_length small, concat_block, List.append_nil]
      rfl
  | marker expected =>
      rw [outputs, if_neg (Nat.not_lt_of_le symmetric)] at unrefused ⊢
      exact concat_text (unrefused_text.mp unrefused)
  | expect expected =>
      rw [outputs, if_neg (Nat.not_lt_of_le symmetric)] at unrefused ⊢
      exact concat_text (unrefused_text.mp unrefused)
  | lend lent => cases symmetric
  | invalidate reason => cases symmetric
  | abandon reason => cases symmetric
  | _ => exact concat_block _

end Step

namespace Routine

/-- The stored bytes of all steps, whatever the version. -/
def encode : (routine : Routine) → routine.Values → Bytes
  | [], _ => []
  | step :: steps, (given, rest) => step.encode given ++ encode steps rest

/-- Every length in the values is within the limits, also in absent fields. -/
def Within (limits : Limits) : (routine : Routine) → routine.Values → Prop
  | [], _ => True
  | step :: steps, (given, rest) => step.Fits limits given ∧ Within limits steps rest

/-- Every absent field has an empty encoding. -/
def AbsentEmpty (version : UInt32) : (routine : Routine) → routine.Values → Prop
  | [], _ => True
  | step :: steps, (given, rest) =>
      (step.isPresent version = false → step.encode given = []) ∧ AbsentEmpty version steps rest

variable {version : UInt32} {limits : Limits} {routine : Routine} {given : routine.Values}

theorem symmetric_present (symmetric : ∀ step ∈ routine, step.IsSymmetric) :
    ∀ step ∈ routine.present version, step.IsSymmetric :=
  fun step inside => symmetric step (mem_present.mp inside).1

theorem fits_of_within (within : routine.Within limits given) :
    routine.Fits version limits given := by
  induction routine with
  | nil => trivial
  | cons step steps ih => exact ⟨fun _ => within.1, ih within.2⟩

theorem unrefused_of_within (symmetric : ∀ step ∈ routine, step.IsSymmetric)
    (within : routine.Within limits given) : Unrefused (routine.outputs given) := by
  induction routine with
  | nil => exact unrefused_nil
  | cons step steps ih =>
      obtain ⟨first, later⟩ := List.forall_mem_cons.mp symmetric
      apply unrefused_append.mpr
      exact ⟨step.unrefused_of_fits first within.1, ih later within.2⟩

theorem concat_outputs (symmetric : ∀ step ∈ routine, step.IsSymmetric)
    (unrefused : Unrefused (routine.outputs given)) :
    concat (routine.outputs given) = routine.encode given := by
  induction routine with
  | nil => rfl
  | cons step steps ih =>
      obtain ⟨first, later⟩ := List.forall_mem_cons.mp symmetric
      obtain ⟨own, behind⟩ := unrefused_append.mp unrefused
      rw [outputs, concat_append, step.concat_outputs first own, ih later behind]
      rfl

theorem encode_keepValue (kept : Bool) {step : Step} {steps : Routine} (given : step.Value)
    (rest : steps.Values) :
    (keepIf kept step steps).encode (keepValue kept given rest) =
      (if kept then step.encode given else []) ++ steps.encode rest := by
  cases kept with
  | true => rfl
  | false => rfl

theorem encode_keep_cons (version : UInt32) {step : Step} {steps : Routine} (given : step.Value)
    (rest : steps.Values) :
    (present version (step :: steps)).encode (keep version (step :: steps) (given, rest)) =
      (if step.isPresent version then step.encode given else []) ++
        (present version steps).encode (keep version steps rest) :=
  encode_keepValue (step.isPresent version) given (keep version steps rest)

/-- Leaving out refuses nothing that was put out. -/
theorem unrefused_keep (unrefused : Unrefused (routine.outputs given)) :
    Unrefused ((routine.present version).outputs (routine.keep version given)) := by
  induction routine with
  | nil => exact unrefused_nil
  | cons step steps ih =>
      obtain ⟨value, rest⟩ := given
      obtain ⟨own, behind⟩ := unrefused_append.mp unrefused
      rw [outputs_keep_cons]
      refine unrefused_append.mpr ⟨?_, ih behind⟩
      split
      · exact own
      · exact unrefused_nil

theorem keep_silent (silent : routine.outputs given = []) :
    (routine.present version).outputs (routine.keep version given) = [] := by
  induction routine with
  | nil => rfl
  | cons step steps ih =>
      obtain ⟨value, rest⟩ := given
      obtain ⟨own, behind⟩ := List.append_eq_nil_iff.mp silent
      rw [outputs_keep_cons, own, ih behind, ite_self]
      rfl

theorem length_encode_keep_le :
    ((routine.present version).encode (routine.keep version given)).length ≤
      (routine.encode given).length := by
  induction routine with
  | nil => exact Nat.le_refl 0
  | cons step steps ih =>
      obtain ⟨value, rest⟩ := given
      have behind : ((present version steps).encode (keep version steps rest)).length ≤
          (encode steps rest).length := ih
      rw [encode_keep_cons, encode, List.length_append, List.length_append]
      split
      · omega
      · rw [List.length_nil]
        omega

/-- The absent fields take up bytes of an encoding unless all of theirs are empty. -/
theorem encode_keep_eq_iff :
    (routine.present version).encode (routine.keep version given) = routine.encode given ↔
      routine.AbsentEmpty version given := by
  induction routine with
  | nil => exact ⟨fun _ => trivial, fun _ => rfl⟩
  | cons step steps ih =>
      obtain ⟨value, rest⟩ := given
      have shorter : ((present version steps).encode (keep version steps rest)).length ≤
          (encode steps rest).length := length_encode_keep_le
      rw [encode_keep_cons, encode, AbsentEmpty]
      cases gate : step.isPresent version with
      | true =>
          rw [if_pos rfl, List.append_cancel_left_eq, ih]
          exact ⟨fun empty => ⟨fun absent => (by cases absent), empty⟩, And.right⟩
      | false =>
          rw [if_neg (by simp), List.nil_append]
          constructor
          · intro same
            have size := congrArg List.length same
            rw [List.length_append] at size
            have empty : step.encode value = [] := List.eq_nil_of_length_eq_zero (by omega)
            rw [empty, List.nil_append] at same
            exact ⟨fun _ => empty, ih.mp same⟩
          · rintro ⟨empty, later⟩
            rw [empty rfl, List.nil_append]
            exact ih.mpr later

/-- Restoring over a memory that was written from a position on succeeds, ends at the
cursor, and yields the present values and the defaults of the absent fields, whatever the
destinations held. -/
def Restores (routine : Routine) (version : UInt32) (limits : Limits) (allocator : Allocator)
    (position : Nat) (memory : Memory) (given : routine.Values) : Prop :=
  ∀ old : routine.Values,
    let loaded := routine.run old
      (Session.start allocator (memory.seek position) .read version limits)
    loaded.2.finish = .ok () ∧ loaded.2.position = memory.cursor ∧
      loaded.1.2 = routine.restored version given

variable {allocator : Allocator} {memory : Memory}

/-- With memory and addresses enough, a routine saves the encodings of all its fields, at any
version. -/
theorem saves (symmetric : ∀ step ∈ routine, step.IsSymmetric)
    (unrefused : Unrefused (routine.outputs given))
    (grants : ∀ size, allocator.grants size = true) (version : UInt32) (limits : Limits)
    (room : memory.cursor + (routine.encode given).length < addressLimit) :
    let saved := (routine.run given (Session.start allocator memory .write version limits)).2
    memory.Stored (routine.outputs given) saved.stream ∧ saved.finish = .ok () ∧
      saved.stream.since memory.cursor = routine.encode given := by
  intro saved
  have bytes := concat_outputs symmetric unrefused
  rw [← bytes] at room ⊢
  have put : saved = (Session.start allocator memory .write version limits).putAll
      (routine.outputs given) := run_of_writing rfl _ _
  have sound : saved.failure = none := by
    rw [put]
    exact Session.putAll_sound rfl grants unrefused room
  have unmarked : saved.mismatch = none := by
    rw [put]
    exact Session.mismatch_putAll _ _
  have stored : memory.Stored (routine.outputs given) saved.stream := by
    rw [put] at sound ⊢
    exact (Session.putAll_of_sound sound).2
  exact ⟨stored, by rw [Session.finish, sound, unmarked], stored.since_eq⟩

/-- Where absent fields have empty encodings, storing all fields stores the present ones. -/
theorem stored_keep (symmetric : ∀ step ∈ routine, step.IsSymmetric)
    (unrefused : Unrefused (routine.outputs given)) (empty : routine.AbsentEmpty version given)
    {stored : Memory} (saved : memory.Stored (routine.outputs given) stored) :
    memory.Stored ((routine.present version).outputs (routine.keep version given)) stored := by
  rcases saved with ⟨silent, unmoved⟩ | holds
  · exact Or.inl ⟨keep_silent silent, unmoved⟩
  · have whole := concat_outputs symmetric unrefused
    have kept : concat ((routine.present version).outputs (routine.keep version given)) =
        (routine.present version).encode (routine.keep version given) :=
      concat_outputs (symmetric_present symmetric) (unrefused_keep unrefused)
    rw [whole, ← encode_keep_eq_iff.mpr empty, ← kept] at holds
    exact Or.inr holds

theorem restores_of_stored (symmetric : ∀ step ∈ routine, step.IsSymmetric)
    (faithful : ∀ step ∈ routine, step.IsFaithful) (within : routine.Within limits given)
    (grants : ∀ size, allocator.grants size = true) {stored : Memory}
    (saved : memory.Stored
      ((routine.present version).outputs (routine.keep version given)) stored) :
    routine.Restores version limits allocator memory.cursor stored given := by
  intro old loaded
  have unrefused : Unrefused ((routine.present version).outputs (routine.keep version given)) :=
    unrefused_keep (unrefused_of_within symmetric within)
  obtain ⟨accepts, restored⟩ := restores symmetric faithful old grants limits unrefused saved
  obtain ⟨values, _, finished, position⟩ := restored (accepts.mpr (fits_of_within within))
  exact ⟨finished, position, values⟩

/-- The bytes that a session saves hold every field, at any version.  They hold exactly the
present fields if the routine leaves the absent ones out, or if the absent ones have empty
encodings, and then restoring takes exactly these bytes. -/
theorem gates_concern_restoring (symmetric : ∀ step ∈ routine, step.IsSymmetric)
    (faithful : ∀ step ∈ routine, step.IsFaithful) (within : routine.Within limits given)
    (grants : ∀ size, allocator.grants size = true) (version : UInt32) (writing : Limits)
    (room : memory.cursor + (routine.encode given).length < addressLimit) :
    let whole := (routine.run given (Session.start allocator memory .write version writing)).2
    let saved := ((routine.present version).run (routine.keep version given)
      (Session.start allocator memory .write version writing)).2
    (whole.finish = .ok () ∧ whole.stream.since memory.cursor = routine.encode given) ∧
      (saved.finish = .ok () ∧ saved.stream.since memory.cursor =
        (routine.present version).encode (routine.keep version given)) ∧
      (whole.stream.since memory.cursor = saved.stream.since memory.cursor ↔
        routine.AbsentEmpty version given) ∧
      routine.Restores version limits allocator memory.cursor saved.stream given ∧
      (routine.AbsentEmpty version given →
        routine.Restores version limits allocator memory.cursor whole.stream given) := by
  intro whole saved
  have unrefused := unrefused_of_within symmetric within
  have shorter : ((routine.present version).encode (routine.keep version given)).length ≤
      (routine.encode given).length := length_encode_keep_le
  obtain ⟨wholeStored, wholeFinished, wholeBytes⟩ :=
    saves symmetric unrefused grants version writing room
  obtain ⟨savedStored, savedFinished, savedBytes⟩ :=
    saves (symmetric_present symmetric) (unrefused_keep unrefused) grants version writing
      (Nat.lt_of_le_of_lt (Nat.add_le_add_left shorter _) room)
  refine ⟨⟨wholeFinished, wholeBytes⟩, ⟨savedFinished, savedBytes⟩, ?_, ?_, ?_⟩
  · rw [wholeBytes, savedBytes, eq_comm]
    exact encode_keep_eq_iff
  · exact restores_of_stored symmetric faithful within grants savedStored
  · intro empty
    apply restores_of_stored symmetric faithful within grants
    exact stored_keep symmetric unrefused empty wholeStored

/-- State of version four, saved behind the end of a memory, with and without a field of
version five. -/
theorem gates_concern_restoring_of_later_field :
    let routine : Routine := [.field (.scalar .u8) ⟨5, 9⟩, .value .text, .marker "END"]
    let given : routine.Values := (7#8, "a\x00b", (), ())
    let memory : Memory := ⟨#[1], 3, 0⟩
    let whole := (routine.run given (Session.start .unbounded memory .write 4 .standard)).2
    let saved := ((routine.present 4).run (routine.keep 4 given)
      (Session.start .unbounded memory .write 4 .standard)).2
    whole.stream.since 3 = [7, 3, 0, 0, 0, 97, 0, 98, 3, 0, 0, 0, 69, 78, 68] ∧
      saved.stream.since 3 = [3, 0, 0, 0, 97, 0, 98, 3, 0, 0, 0, 69, 78, 68] ∧
      routine.Restores 4 .standard .unbounded 3 saved.stream given := by
  intro routine given memory whole saved
  have symmetric : ∀ step ∈ routine, step.IsSymmetric := by
    simp [routine, Step.IsSymmetric, markerCapacity]
    decide
  have faithful : ∀ step ∈ routine, step.IsFaithful := by
    simp [routine, Step.IsFaithful]
  have within : routine.Within .standard given := by
    refine ⟨trivial, ?_, ?_, trivial⟩
    · exact Step.excess?_eq_none_iff.mp rfl
    · exact Step.excess?_eq_none_iff.mp rfl
  have grants : ∀ size, Allocator.unbounded.grants size = true := fun _ => rfl
  have bytes : routine.encode given = [7, 3, 0, 0, 0, 97, 0, 98, 3, 0, 0, 0, 69, 78, 68] := rfl
  have kept : (routine.present 4).encode (routine.keep 4 given) =
      [3, 0, 0, 0, 97, 0, 98, 3, 0, 0, 0, 69, 78, 68] := rfl
  have room : memory.cursor + (routine.encode given).length < addressLimit := by
    rw [bytes]
    decide
  obtain ⟨⟨_, front⟩, ⟨_, back⟩, _, restores, _⟩ :=
    gates_concern_restoring symmetric faithful within grants 4 .standard room
  -- Unfolding the runs would evaluate them.
  have first : whole.stream.since 3 = routine.encode given := by with_reducible exact front
  have second : saved.stream.since 3 = (routine.present 4).encode (routine.keep 4 given) := by
    with_reducible exact back
  exact ⟨first.trans bytes, second.trans kept, by with_reducible exact restores⟩

/-- A session of version four puts a field of version five out, and restoring at version
four takes its byte for that of the field behind it. -/
theorem later_field_is_saved :
    let routine : Routine := [.field (.scalar .u8) ⟨5, 9⟩, .value (.scalar .u8)]
    let given : routine.Values := (7#8, 1#8, ())
    let whole := (routine.run given (Session.start .unbounded Memory.empty .write 4 .standard)).2
    let loaded := routine.run given
      (Session.start .unbounded (whole.stream.seek 0) .read 4 .standard)
    ((∀ step ∈ routine, step.IsSymmetric) ∧ (∀ step ∈ routine, step.IsFaithful) ∧
        routine.Within .standard given ∧ whole.finish = .ok ()) ∧
      (whole.stream.since 0 = [7, 1] ∧
        (routine.present 4).encode (routine.keep 4 given) = [1]) ∧
      (loaded.2.position = 1 ∧ whole.position = 2) ∧
      loaded.1.2 = (9#8, 7#8, ()) ∧ routine.restored 4 given = (9#8, 1#8, ()) := by
  intro routine given whole loaded
  refine ⟨⟨?_, ?_, ⟨trivial, trivial, trivial⟩, rfl⟩, ⟨rfl, rfl⟩, ⟨rfl, rfl⟩, rfl, rfl⟩
  · simp [routine, Step.IsSymmetric]
  · simp [routine, Step.IsFaithful]

end Routine

end Snapshot
