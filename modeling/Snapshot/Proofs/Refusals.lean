import Snapshot.Proofs.SideBySide

/-!
# Refused memory

Reading with an allocator that may refuse requests is run beside reading with one that never
does.  The sessions stay together, streams included, until a request is refused; then the
first of them has failed for lack of memory.
-/

namespace Snapshot

/-- A request is answered as if there were no bounds, unless it is refused. -/
theorem Allocator.reserve?_cases (allocator : Allocator) (size capacity count : Nat) :
    allocator.reserve? size capacity count = unbounded.reserve? size capacity count ∨
      allocator.reserve? size capacity count = none ∧
        ∃ request, allocator.grants request = false := by
  unfold reserve?
  by_cases room : size = 0 ∨ count ≤ capacity
  · exact Or.inl (by rw [if_pos room, if_pos room])
  · rw [if_neg room, if_neg room]
    cases granted : allocator.grants (grown size capacity count * size) with
    | true => exact Or.inl rfl
    | false => exact Or.inr ⟨by simp, _, granted⟩

namespace Session

variable {σ : Type} {first second : Session σ}

/-- The session with all the memory it may ask for. -/
def unbounded (session : Session σ) : Session σ :=
  { session with allocator := .unbounded }

/-- The sessions differ in their allocators alone, the second of which refuses nothing. -/
def Unbounds (first second : Session σ) : Prop :=
  first.mode = .read ∧ second = first.unbounded

/-- The session failed because its allocator refused a request. -/
def LacksMemory (session : Session σ) : Prop :=
  ∃ count request, session.failure = some (.outOfMemory count) ∧
    session.allocator.grants request = false

theorem Unbounds.alike (unbounds : Unbounds first second) : Alike first second := by
  obtain ⟨reading, rfl⟩ := unbounds
  exact ⟨⟨reading, reading, rfl, rfl, rfl⟩, rfl, rfl⟩

variable [ByteStream σ]

/-- Reading bytes asks for no memory. -/
theorem readBytes_unbounded (session : Session σ) (buffer : Bytes) :
    session.unbounded.readBytes buffer =
      ((session.readBytes buffer).1, (session.readBytes buffer).2.unbounded) := by
  have failed_eq : session.unbounded.hasFailed = session.hasFailed := rfl
  rw [readBytes, readBytes, failed_eq]
  split
  · rfl
  · rw [withStream_eq, withStream_eq]
    dsimp only [unbounded]
    split
    · rfl
    · rfl

theorem readFlag_unbounded (session : Session σ) :
    session.unbounded.readFlag = (session.readFlag.1, session.readFlag.2.unbounded) := by
  have failed_eq : session.unbounded.hasFailed = session.hasFailed := rfl
  rw [readFlag, readFlag, failed_eq]
  split
  · rfl
  · rw [withStream_eq, withStream_eq]
    dsimp only [unbounded]
    cases (ByteStream.readByte session.stream).1 with
    | ok byte => rfl
    | error fault => rfl

/-- A session beside one that is never refused memory. -/
def beforeRefusal : Coupling σ σ where
  Together := Unbounds
  Parted first _ := first.LacksMemory
  akin := fun unbounds => unbounds.alike.toAkin
  position_eq := by
    rintro first _ ⟨_, rfl⟩ _
    rfl
  parted_moves := by
    rintro first next second following ⟨count, request, failed, refused⟩ moves _
    rw [moves.eq_of_hasFailed (hasFailed_of_failure failed)]
    exact ⟨count, request, failed, refused⟩
  fail := by
    rintro first _ ⟨reading, rfl⟩ failure
    exact ⟨reading, rfl⟩
  report := by
    rintro first _ ⟨reading, rfl⟩ event
    exact ⟨reading, rfl⟩
  recordMismatch := by
    rintro first _ ⟨reading, rfl⟩ _ found expected
    exact ⟨reading, rfl⟩
  readBytes := by
    rintro first _ ⟨reading, rfl⟩ buffer
    rw [readBytes_unbounded]
    exact Or.inr ⟨rfl, (readBytes_moves buffer first).settings.1.trans reading, rfl⟩
  readFlag := by
    rintro first _ ⟨reading, rfl⟩
    rw [readFlag_unbounded]
    exact Or.inr ⟨rfl, (readFlag_moves first).settings.1.trans reading, rfl⟩
  reserve := by
    rintro first _ ⟨_, rfl⟩ sound size capacity count
    rcases first.allocator.reserve?_cases size capacity count with same | ⟨none, request, refused⟩
    · exact Or.inl same
    · refine Or.inr ⟨none, fun total => ⟨total, request, ?_, refused⟩⟩
      rw [fail_of_sound sound]

end Session

end Snapshot
