import Snapshot.Container
import Snapshot.Proofs.Course
import Snapshot.Proofs.Supply

/-!
# The header guards the component

Loading looks at twelve bytes before it touches the component.  Too few bytes, a wrong
magic and a version out of range are refused in this order, and then the component is as
it was.  Once its body runs, loading succeeds exactly if the body does, the session is
sound and no marker differed; otherwise the first of these three that applies is the
failure.
-/

namespace Snapshot

namespace Session

variable {σ : Type} [ByteStream σ] [Supply σ] {session : Session σ} {bytes buffer : Bytes}

/-- Of the bytes ahead, a buffer takes its length. -/
theorem readBytes_of_le (sound : session.failure = none)
    (supplied : Supply.Supplies session.stream bytes) (enough : buffer.length ≤ bytes.length) :
    session.readBytes buffer =
      (bytes.take buffer.length,
        { session with stream := (ByteStream.read buffer.length session.stream).2 }) := by
  have delivered := (Supply.read_of_le supplied enough).1
  have whole : (Delivery.full (bytes.take buffer.length)).onto buffer = bytes.take buffer.length :=
    Delivery.onto_of_length_eq (by simp [Delivery.full, enough])
  rw [readBytes, if_neg (by simp [hasFailed, sound]), withStream_eq, delivered]
  exact congrArg (·, _) whole

theorem readBytes_of_lt (sound : session.failure = none)
    (supplied : Supply.Supplies session.stream bytes) (short : bytes.length < buffer.length) :
    session.readBytes buffer =
      (Bytes.zeros buffer.length,
        { session with
          stream := (ByteStream.read buffer.length session.stream).2
          failure := some (.stream .unexpectedEnd) }) := by
  have delivered := Supply.read_of_lt supplied short
  rw [readBytes, if_neg (by simp [hasFailed, sound]), withStream_eq, delivered]
  simp [Delivery.failed, fail, sound]

end Session

theorem Memory.supplies_remaining {memory : Memory} (onData : memory.OnData) :
    Supply.Supplies memory memory.remaining :=
  ⟨onData, rfl⟩

theorem Slice.supplies_remaining (slice : Slice) : Supply.Supplies slice slice.remaining :=
  rfl

theorem FormatVersion.supports_iff {format : FormatVersion} {version : UInt32} :
    format.supports version = true ↔ format.minimum ≤ version ∧ version ≤ format.current := by
  simp [supports]

namespace Container

variable {σ α : Type} [ByteStream σ]

/-! ## Reading a header -/

/-- The version that a header states. -/
def statedVersion (header : Bytes) : UInt32 :=
  .ofNat (Bytes.toNat ((header.drop 8).take 4))

theorem transferHeader_of_reading {session : Session σ} (reading : session.mode = .read) :
    transferHeader session =
      let found := session.readBytes magic
      let stated := found.2.readBytes (Scalar.u32.encode found.2.version.toBitVec)
      (match stated.2.failure with
        | some failure => .error failure
        | none =>
            if found.1 = magic then .ok ⟨Scalar.u32.decode stated.1⟩ else .error .invalidMagic,
        stated.2) := by
  have still : (session.readBytes magic).2.mode = .read :=
    (session.readBytes_moves magic).settings.1.trans reading
  simp only [transferHeader, Session.transferBytes, reading, Session.readFixed, Session.transfer,
    still, Session.restore]
  cases ((session.readBytes magic).2.readBytes
    (Scalar.u32.encode (session.readBytes magic).2.version.toBitVec)).2.failure with
  | some failure => rfl
  | none =>
      by_cases known : (session.readBytes magic).1 = magic
      · simp only [if_pos known]
      · simp only [if_neg known]

/-- A header needs twelve bytes. -/
theorem readHeader_of_lt [Supply σ] (allocator : Allocator) {stream : σ} {bytes : Bytes}
    (supplied : Supply.Supplies stream bytes) (short : bytes.length < 12) :
    (readHeader allocator stream).1 = .error (.stream .unexpectedEnd) ∧
      (readHeader allocator stream).2.log = #[] := by
  have eight : magic.length = 8 := rfl
  have four : (Scalar.u32.encode (0 : UInt32).toBitVec).length = 4 := rfl
  rw [readHeader, transferHeader_of_reading rfl]
  by_cases enough : magic.length ≤ bytes.length
  · have left := (Supply.read_of_le supplied enough).2.1
    have behind : (bytes.drop magic.length).length <
        (Scalar.u32.encode (0 : UInt32).toBitVec).length := by
      rw [List.length_drop]
      omega
    rw [Session.readBytes_of_le (by rfl) supplied enough]
    dsimp only [Session.start]
    rw [Session.readBytes_of_lt (by rfl) left behind]
    exact ⟨rfl, rfl⟩
  · rw [Session.readBytes_of_lt (by rfl) supplied (Nat.lt_of_not_le enough)]
    dsimp only [Session.start]
    rw [Session.readBytes_of_hasFailed rfl]
    exact ⟨rfl, rfl⟩

/-- Twelve bytes are read and judged by their magic. -/
theorem readHeader_of_le [Supply σ] (allocator : Allocator) {stream : σ} {bytes : Bytes}
    (supplied : Supply.Supplies stream bytes) (enough : 12 ≤ bytes.length) :
    (readHeader allocator stream).1 =
        (if bytes.take 8 = magic then .ok (statedVersion bytes) else .error .invalidMagic) ∧
      (readHeader allocator stream).2.log = #[] ∧
      (readHeader allocator stream).2.position = ByteStream.position stream + 12 ∧
      Supply.Supplies (readHeader allocator stream).2.stream (bytes.drop 12) := by
  have eight : magic.length = 8 := rfl
  have four : (Scalar.u32.encode (0 : UInt32).toBitVec).length = 4 := rfl
  have first : magic.length ≤ bytes.length := by omega
  have second : (Scalar.u32.encode (0 : UInt32).toBitVec).length ≤
      (bytes.drop magic.length).length := by
    rw [List.length_drop]
    omega
  obtain ⟨_, left, moved⟩ := Supply.read_of_le supplied first
  obtain ⟨_, rest, further⟩ := Supply.read_of_le left second
  rw [readHeader, transferHeader_of_reading rfl, Session.readBytes_of_le (by rfl) supplied first]
  dsimp only [Session.start]
  rw [Session.readBytes_of_le (by rfl) left second]
  refine ⟨rfl, rfl, ?_, ?_⟩
  · rw [moved] at further
    exact further
  · rw [List.drop_drop] at rest
    exact rest

theorem readHeader_eq_ok_iff [Supply σ] (allocator : Allocator) {stream : σ} {bytes : Bytes}
    (supplied : Supply.Supplies stream bytes) {version : UInt32} :
    (readHeader allocator stream).1 = .ok version ↔
      12 ≤ bytes.length ∧ bytes.take 8 = magic ∧ version = statedVersion bytes := by
  by_cases enough : 12 ≤ bytes.length
  · rw [(readHeader_of_le allocator supplied enough).1]
    by_cases known : bytes.take 8 = magic
    · simp [enough, known, eq_comm]
    · simp [known]
  · rw [(readHeader_of_lt allocator supplied (Nat.lt_of_not_le enough)).1]
    simp [enough]

/-! ## Loading behind the header -/

/-- The session in which a component is loaded. -/
def opened (allocator : Allocator) (stream : σ) (version : UInt32) : Session σ :=
  .start allocator (readHeader allocator stream).2.stream .read version .standard

/-- Behind the header, a component is loaded from the bytes behind it. -/
theorem opened_supplies [Supply σ] (allocator : Allocator) (version : UInt32) {stream : σ}
    {bytes : Bytes} (supplied : Supply.Supplies stream bytes) (enough : 12 ≤ bytes.length) :
    Supply.Supplies (opened allocator stream version).stream (bytes.drop 12) ∧
      (opened allocator stream version).position = ByteStream.position stream + 12 := by
  obtain ⟨_, _, moved, rest⟩ := readHeader_of_le allocator supplied enough
  exact ⟨rest, moved⟩

/-- What loading at a version makes of the outcome of a body. -/
def conclude (version : UInt32) :
    (Except Failure Unit × α) × Session σ → (Except Failure UInt32 × α) × Session σ
  | ((.error failure, component), session) => ((.error failure, component), session)
  | ((.ok (), component), session) =>
      match session.finish with
      | .error failure => ((.error failure, component), session)
      | .ok () => ((.ok version, component), session.report (.restored version))

variable {allocator : Allocator} {format : FormatVersion} {body : Body σ α} {component : α}
  {stream : σ}

theorem load_of_refused {failure : Failure}
    (refused : (readHeader allocator stream).1 = .error failure) :
    load allocator format body component stream =
      ((.error failure, component), (readHeader allocator stream).2) := by
  rw [load]
  cases outcome : readHeader allocator stream with
  | mk answer session =>
      rw [outcome] at refused
      cases refused
      rfl

theorem load_of_unsupported {version : UInt32}
    (stated : (readHeader allocator stream).1 = .ok version)
    (unsupported : format.supports version = false) :
    load allocator format body component stream =
      ((.error (.unsupportedVersion version format.minimum format.current), component),
        (readHeader allocator stream).2) := by
  rw [load]
  cases outcome : readHeader allocator stream with
  | mk answer session =>
      rw [outcome] at stated
      cases stated
      simp [FormatVersion.check, unsupported]

theorem load_of_supported {version : UInt32}
    (stated : (readHeader allocator stream).1 = .ok version)
    (supported : format.supports version = true) :
    load allocator format body component stream =
      conclude version (body component (opened allocator stream version)) := by
  rw [load, opened]
  cases outcome : readHeader allocator stream with
  | mk answer session =>
      rw [outcome] at stated
      cases stated
      simp only [FormatVersion.check, if_pos supported]
      rfl

/-! ## The outcome of loading -/

/-- How loading ends once the body has run. -/
structure Concludes (version : UInt32) (ran : (Except Failure Unit × α) × Session σ)
    (loaded : (Except Failure UInt32 × α) × Session σ) : Prop where
  component_eq : loaded.1.2 = ran.1.2
  ok_iff : ∀ {found}, loaded.1.1 = .ok found ↔ found = version ∧
    ran.1.1 = .ok () ∧ ran.2.failure = none ∧ ran.2.mismatch = none
  reported : ∀ {found}, loaded.1.1 = .ok found → loaded.2 = ran.2.report (.restored version)
  unreported : ∀ {failure}, loaded.1.1 = .error failure → loaded.2 = ran.2
  own : ∀ {failure}, ran.1.1 = .error failure → loaded.1.1 = .error failure
  sticky : ∀ {failure}, ran.1.1 = .ok () → ran.2.failure = some failure →
    loaded.1.1 = .error failure
  differed : ∀ {mismatch}, ran.1.1 = .ok () → ran.2.failure = none →
    ran.2.mismatch = some mismatch → loaded.1.1 = .error (.markerMismatch mismatch)

omit [ByteStream σ] in
theorem conclude_concludes (version : UInt32) (ran : (Except Failure Unit × α) × Session σ) :
    Concludes version ran (conclude version ran) := by
  obtain ⟨⟨answer, left⟩, session⟩ := ran
  cases answer with
  | error failure => constructor <;> simp [conclude]
  | ok done =>
      cases state : session.failure with
      | some failure => constructor <;> simp [conclude, Session.finish, state]
      | none =>
          cases marked : session.mismatch with
          | some mismatch => constructor <;> simp [conclude, Session.finish, state, marked]
          | none => constructor <;> simp [conclude, Session.finish, state, marked, eq_comm]

/-- What loading that succeeds has done. -/
theorem load_of_ok {version : UInt32}
    (loaded : (load allocator format body component stream).1.1 = .ok version) :
    (readHeader allocator stream).1 = .ok version ∧ format.supports version = true ∧
      load allocator format body component stream =
        conclude version (body component (opened allocator stream version)) := by
  cases stated : (readHeader allocator stream).1 with
  | error failure =>
      rw [load_of_refused stated] at loaded
      cases loaded
  | ok found =>
      cases supported : format.supports found with
      | false =>
          rw [load_of_unsupported stated supported] at loaded
          cases loaded
      | true =>
          have concluded : load allocator format body component stream = _ :=
            load_of_supported stated supported
          rw [concluded] at loaded
          obtain ⟨rfl, _⟩ := (conclude_concludes _ _).ok_iff.mp loaded
          exact ⟨rfl, supported, concluded⟩

/-- Loading ends in the failure of the session if the routine never abandons itself. -/
theorem conclude_of_failure {routine : Routine} {given : routine.Values} {session : Session σ}
    {failure : Failure} (version : UInt32)
    (failed : (routine.attempt given session).2.failure = some failure)
    (lasting : ∀ reason, .abandon reason ∉ routine) :
    (conclude version (routine.attempt given session)).1.1 = .error failure := by
  have outcome := conclude_concludes version (routine.attempt given session)
  cases answer : (routine.attempt given session).1.1 with
  | ok value => exact outcome.sticky answer failed
  | error own =>
      rw [Routine.failure_of_attempt answer failed lasting] at answer
      exact outcome.own answer

/-- What loading does with a component, told by the bytes ahead of the stream.  The body has
a part in it only where it occurs. -/
structure Guarded (allocator : Allocator) (format : FormatVersion) (body : Body σ α)
    (component : α) (stream : σ) (bytes : Bytes) : Prop where
  short : bytes.length < 12 →
    load allocator format body component stream =
      ((.error (.stream .unexpectedEnd), component), (readHeader allocator stream).2)
  foreign : 12 ≤ bytes.length → bytes.take 8 ≠ magic →
    load allocator format body component stream =
      ((.error .invalidMagic, component), (readHeader allocator stream).2)
  unsupported : 12 ≤ bytes.length → bytes.take 8 = magic →
    ¬(format.minimum ≤ statedVersion bytes ∧ statedVersion bytes ≤ format.current) →
    load allocator format body component stream =
      ((.error (.unsupportedVersion (statedVersion bytes) format.minimum format.current),
        component), (readHeader allocator stream).2)
  supported : 12 ≤ bytes.length → bytes.take 8 = magic →
    format.minimum ≤ statedVersion bytes ∧ statedVersion bytes ≤ format.current →
    Concludes (statedVersion bytes)
      (body component (opened allocator stream (statedVersion bytes)))
      (load allocator format body component stream)
  header_iff : ∀ {version}, (readHeader allocator stream).1 = .ok version ↔
    12 ≤ bytes.length ∧ bytes.take 8 = magic ∧ version = statedVersion bytes
  advanced : 12 ≤ bytes.length →
    (readHeader allocator stream).2.position = ByteStream.position stream + 12
  silent : (readHeader allocator stream).2.log = #[]

/-- A stream that supplies bytes is judged by them. -/
theorem guarded_of_supplies [Supply σ] (allocator : Allocator) (format : FormatVersion)
    (body : Body σ α) (component : α) {stream : σ} {bytes : Bytes}
    (supplied : Supply.Supplies stream bytes) :
    Guarded allocator format body component stream bytes where
  short := fun short => load_of_refused (readHeader_of_lt allocator supplied short).1
  foreign := by
    intro enough other
    have refused := (readHeader_of_le allocator supplied enough).1
    rw [if_neg other] at refused
    exact load_of_refused refused
  unsupported := by
    intro enough known outside
    have stated := (readHeader_eq_ok_iff allocator supplied).mpr ⟨enough, known, rfl⟩
    rw [← FormatVersion.supports_iff, Bool.not_eq_true] at outside
    exact load_of_unsupported stated outside
  supported := by
    intro enough known inside
    have stated := (readHeader_eq_ok_iff allocator supplied).mpr ⟨enough, known, rfl⟩
    rw [load_of_supported stated (FormatVersion.supports_iff.mpr inside)]
    exact conclude_concludes _ _
  header_iff := readHeader_eq_ok_iff allocator supplied
  advanced := fun enough => (readHeader_of_le allocator supplied enough).2.2.1
  silent := by
    by_cases enough : 12 ≤ bytes.length
    · exact (readHeader_of_le allocator supplied enough).2.1
    · exact (readHeader_of_lt allocator supplied (Nat.lt_of_not_le enough)).2

/-- Loading is guarded by the header, from any place of a memory or a slice and whatever the
body does.  Too few bytes come before a wrong magic and this before a version out of range;
in each case the component stays as it was and nothing is logged.  The body runs only behind
an accepted header, at the version that the header states; its own failure comes before the
failure of its session, and that before the latest mismatch. -/
theorem loading_is_guarded (allocator : Allocator) (format : FormatVersion) (component : α) :
    (∀ (body : Body Memory α) (memory : Memory), memory.OnData →
      Guarded allocator format body component memory memory.remaining) ∧
    ∀ (body : Body Slice α) (slice : Slice),
      Guarded allocator format body component slice slice.remaining :=
  ⟨fun body _ onData => guarded_of_supplies allocator format body component
      (Memory.supplies_remaining onData),
    fun body slice => guarded_of_supplies allocator format body component
      slice.supplies_remaining⟩

/-- A file of another kind, behind the first byte of a memory, leaves a counter alone. -/
theorem loading_is_guarded_of_foreign_file :
    let memory : Memory :=
      ⟨#[9, 0x4E, 0x4F, 0x54, 0x53, 0x54, 0x41, 0x54, 0x45, 1, 0, 0, 0], 1, 0⟩
    let body : Body Memory Nat := fun counter session => ((.ok (), counter + 1), session)
    let loaded := load .unbounded ⟨4, 1⟩ body 7 memory
    memory.OnData ∧ loaded.1 = (.error .invalidMagic, 7) ∧ loaded.2.position = 13 ∧
      loaded.2.log = #[] := by
  intro memory body loaded
  have onData : memory.OnData := ⟨by decide, by decide⟩
  have guarded := (loading_is_guarded .unbounded ⟨4, 1⟩ 7).1 body memory onData
  have enough : 12 ≤ memory.remaining.length := by decide
  have foreign : loaded = _ := guarded.foreign enough (by decide)
  rw [foreign]
  exact ⟨onData, rfl, guarded.advanced enough, guarded.silent⟩

end Container

end Snapshot
