import Snapshot.Proofs.Destinations
import Snapshot.Proofs.FailedSession
import Snapshot.Proofs.Panics

/-!
# Reading with every index tested

The operations of a reading session once more, with every window, sum and difference tested
and with the buffers that the bytes go through.  Each of them gives what the session's own
operation gives, so no test fails: whatever the length prefixes and the bytes say, and
wherever a text is cut.
-/

namespace Snapshot

/-- What uses a session and may panic. -/
abbrev Tested (σ α : Type) : Type :=
  StateT (Session σ) (Except Panic) α

namespace Utf8

/-- The text of bytes that are well formed. -/
def decode? (bytes : Bytes) : Option String :=
  if encode (wellFormedPrefix bytes) = bytes then
    some (wellFormedPrefix bytes)
  else
    none

/-- How many bytes are well formed before the first that are not. -/
def validLength (bytes : Bytes) : Nat :=
  (wellFormedPrefix bytes).utf8ByteSize

theorem length_of_decode? {bytes : Bytes} {text : String} (found : decode? bytes = some text) :
    bytes.length = validLength bytes := by
  unfold decode? at found
  split at found
  · next whole => rw [validLength, ← length_encode, whole]
  · cases found

theorem validLength_le (bytes : Bytes) : validLength bytes ≤ bytes.length := by
  have shorter := (encode_wellFormedPrefix bytes).length_le
  rwa [length_encode] at shorter

theorem take_validLength (bytes : Bytes) :
    bytes.take (validLength bytes) = encode (wellFormedPrefix bytes) := by
  have front := List.prefix_iff_eq_take.mp (encode_wellFormedPrefix bytes)
  rw [length_encode] at front
  exact front.symm

/-- The valid bytes are well formed, so nothing of the text is lost. -/
theorem decode?_take_validLength (bytes : Bytes) :
    decode? (bytes.take (validLength bytes)) = some (wellFormedPrefix bytes) := by
  rw [take_validLength, decode?, wellFormedPrefix_encode, if_pos rfl]

end Utf8

variable {σ : Type} [ByteStream σ] [TestedStream σ]

/-- No test fails, and this is the outcome. -/
structure Tested.Yields {α : Type} (twin : Tested σ α) (session : Session σ)
    (outcome : α × Session σ) : Prop where
  run_eq : twin session = .ok outcome
  addressed : TestedStream.IsAddressed outcome.2.stream

namespace Tested

/-- The text of bytes that have to be well formed. -/
def wellFormed (bytes : Bytes) : Except Panic String :=
  match Utf8.decode? bytes with
  | some text => .ok text
  | none => .error .illFormed

/-- The text, which has to fit the capacity. -/
def pushInto (capacity : Nat) (text : String) : Except Panic (SmallText capacity) :=
  match SmallText.ofText? capacity text with
  | some small => .ok small
  | none => .error .capacity

/-- The text of the valid bytes, which has to fit the capacity. -/
def keepText (capacity : Nat) (kept : Bytes) : Except Panic (SmallText capacity) := do
  let valid := match Utf8.decode? kept with
    | some _ => kept.length
    | none => Utf8.validLength kept
  let front ← window kept 0 valid
  let text ← wellFormed front.items
  pushInto capacity text

namespace Yields

variable {α β : Type} {twin : Tested σ α} {session : Session σ} {outcome : α × Session σ}

theorem pure (addressed : TestedStream.IsAddressed session.stream) (value : α) :
    Yields (Pure.pure value) session (value, session) :=
  ⟨rfl, addressed⟩

theorem bind (front : Yields twin session outcome) {further : α → Tested σ β}
    {last : β × Session σ} (back : Yields (further outcome.1) outcome.2 last) :
    Yields (twin >>= further) session last := by
  refine ⟨?_, back.addressed⟩
  change (twin session >>= fun pair => further pair.1 pair.2) = _
  rw [front.run_eq]
  exact back.run_eq

theorem map (front : Yields twin session outcome) (change : α → β) :
    Yields (twin >>= fun value => Pure.pure (change value)) session
      (change outcome.1, outcome.2) :=
  front.bind (.pure front.addressed _)

/-- A test that does not fail. -/
theorem test {tested : Except Panic α} {value : α} (passed : tested = .ok value)
    {further : α → Tested σ β} {last : β × Session σ}
    (back : Yields (further value) session last) :
    Yields (liftM tested >>= further) session last := by
  refine ⟨?_, back.addressed⟩
  rw [passed]
  exact back.run_eq

/-- A test that does not fail, at the end. -/
theorem lastTest (addressed : TestedStream.IsAddressed session.stream) {tested : Except Panic α}
    {value : α} (passed : tested = .ok value) :
    Yields (liftM tested) session (value, session) := by
  refine ⟨?_, addressed⟩
  rw [passed]
  rfl

theorem get {further : Session σ → Tested σ β} {last : β × Session σ}
    (back : Yields (further session) session last) :
    Yields (MonadState.get >>= further) session last :=
  ⟨back.run_eq, back.addressed⟩

theorem modify {change : Session σ → Session σ} {further : Unit → Tested σ β}
    {last : β × Session σ} (back : Yields (further ()) (change session) last) :
    Yields (modify change >>= further) session last :=
  ⟨back.run_eq, back.addressed⟩

end Yields

/-- A test fails. -/
def Panics {α : Type} (twin : Tested σ α) (session : Session σ) (panic : Panic) : Prop :=
  twin session = .error panic

namespace Panics

variable {α β : Type} {twin : Tested σ α} {session : Session σ} {panic : Panic}

omit [ByteStream σ] [TestedStream σ] in
theorem bind (front : Panics twin session panic) (further : α → Tested σ β) :
    Panics (twin >>= further) session panic := by
  change (twin session >>= fun pair => further pair.1 pair.2) = _
  rw [front]
  rfl

theorem after {outcome : α × Session σ} (front : Yields twin session outcome)
    {further : α → Tested σ β} (back : Panics (further outcome.1) outcome.2 panic) :
    Panics (twin >>= further) session panic := by
  change (twin session >>= fun pair => further pair.1 pair.2) = _
  rw [front.run_eq]
  exact back

omit [ByteStream σ] [TestedStream σ] in
theorem test {tested : Except Panic α} (failed : tested = .error panic)
    (further : α → Tested σ β) : Panics (liftM tested >>= further) session panic := by
  rw [failed]
  rfl

omit [ByteStream σ] [TestedStream σ] in
theorem get {further : Session σ → Tested σ β} (back : Panics (further session) session panic) :
    Panics (MonadState.get >>= further) session panic :=
  back

end Panics

/-! ## Bytes and lengths -/

/-- Reads into a borrowed buffer, which keeps its length. -/
def readInto {length : Nat} (buffer : Fixed UInt8 length) : Tested σ (Fixed UInt8 length) :=
  fun session =>
    if session.hasFailed then
      .ok (.replicate length 0, session)
    else do
      let (outcome, stream) ← TestedStream.read buffer session.stream
      match outcome with
      | .ok filled => return (filled, { session with stream := stream })
      | .error fault =>
          return (.replicate length 0,
            Session.fail (.stream fault) { session with stream := stream })

/-- Reads one byte as a truth value, through a buffer of one byte. -/
def readFlag : Tested σ Bool :=
  fun session =>
    if session.hasFailed then
      .ok (false, session)
    else do
      let (outcome, stream) ← TestedStream.read (.replicate 1 0) session.stream
      match outcome with
      | .ok filled =>
          let byte ← item filled.items 0
          return (byte != 0, { session with stream := stream })
      | .error fault =>
          return (false, Session.fail (.stream fault) { session with stream := stream })

/-- Reads a length prefix. -/
def readLength (limit : UInt32) : Tested σ Nat := do
  let bytes ← readInto (.replicate 4 0)
  if limit.toNat < Bytes.toNat bytes.items then
    modify (Session.fail (.lengthLimit (Bytes.toNat bytes.items) limit.toNat))
    return 0
  else
    return Bytes.toNat bytes.items

/-- Drops `count` bytes, through a buffer of 64. -/
def skip (count : Nat) : Tested σ Unit := do
  let session ← get
  if 0 < count ∧ session.hasFailed = false then
    let chunk ← window (Bytes.zeros 64) 0 (min count 64)
    let _ ← readInto chunk
    let left ← subtract count (min count 64)
    skip left
  else
    return ()
termination_by count
decreasing_by
  have := left.property
  omega

/-! ## Vectors -/

/-- Enlarges a vector up to `stop` and fills the new part in its window, unless the memory is
refused. -/
def addChunk {α : Type} (size total : Nat) (blank : α)
    (readChunk : {count : Nat} → Fixed α count → Tested σ (Fixed α count))
    (capacity : Nat) (values : List α) (stop : Nat) : Tested σ (Option (Nat × Fixed α stop)) := do
  let session ← get
  let additional ← subtract stop values.length
  match session.allocator.reserve? size capacity (values.length + additional) with
  | none =>
      modify (Session.fail (.outOfMemory total))
      return none
  | some capacity =>
      let enlarged := values ++ List.replicate additional blank
      let chunk ← window enlarged values.length stop
      let filled ← readChunk chunk
      return some (capacity, ⟨putBack enlarged values.length filled,
        length_putBack_enlarged blank additional filled⟩)

/-- Enlarges a vector chunk after chunk until it has `total` elements or reading fails. -/
def fillVector {α : Type} (size total : Nat) (blank : α)
    (readChunk : {count : Nat} → Fixed α count → Tested σ (Fixed α count))
    (capacity : Nat) (values : List α) : Tested σ (List α) := do
  let session ← get
  if values.length < total ∧ session.hasFailed = false then
    let left ← subtract total values.length
    let stop ← add values.length (min (Session.chunkLength size) left)
    match ← addChunk size total blank readChunk capacity values stop with
    | none => return values
    | some (capacity, values) => fillVector size total blank readChunk capacity values.items
  else
    return values
termination_by total - values.length
decreasing_by
  have chunk := Session.chunkLength_pos size
  have := left.property
  have := stop.property
  simp only [Fixed.length_eq]
  omega

/-- Reads the `total` elements of a vector. -/
def readVector {α : Type} (size total : Nat) (blank : α)
    (readChunk : {count : Nat} → Fixed α count → Tested σ (Fixed α count)) :
    Tested σ (List α) := do
  let values ← fillVector size total blank readChunk 0 []
  let session ← get
  return if session.hasFailed then [] else values

/-! ## Texts -/

/-- Reads a text of any length. -/
def readText : Tested σ String := do
  let session ← get
  let length ← readLength session.limits.text
  let bytes ← readVector 1 length 0 readInto
  return Utf8.decodeLossy (Bytes.beforeZero bytes)

/-- Reads a small text into a buffer of its capacity and skips what does not fit. -/
def readSmallText (capacity : Nat) : Tested σ (SmallText capacity) := do
  let session ← get
  let length ← readLength session.limits.text
  let buffer := Bytes.zeros capacity
  let target ← window buffer 0 (min length capacity)
  let filled ← readInto target
  let buffer := putBack buffer 0 filled
  modify (Session.reportTruncation length capacity)
  let left ← subtract length (min length capacity)
  skip left
  let kept ← window buffer 0 (min length capacity)
  keepText capacity kept.items

/-! ## No test fails -/

variable {session : Session σ}

omit [TestedStream σ] in
theorem readFixed_of_readBytes {length : Nat} {buffer filled : Fixed UInt8 length}
    {next : Session σ} (read : session.readBytes buffer.items = (filled.items, next)) :
    session.readFixed buffer = (filled, next) := by
  have bytes := congrArg Prod.fst read
  have moved := congrArg Prod.snd read
  exact Prod.ext (Fixed.ext bytes) moved

omit [TestedStream σ] in
theorem readFixed_of_sound (sound : ¬session.hasFailed = true) {length : Nat}
    (buffer : Fixed UInt8 length) :
    session.readFixed buffer =
      match ByteStream.fill buffer session.stream with
      | (.ok filled, stream) => (filled, { session with stream := stream })
      | (.error fault, stream) =>
          (.replicate length 0,
            Session.fail (.stream fault) { session with stream := stream }) := by
  have read : session.readBytes buffer.items = _ := if_neg sound
  obtain ⟨items, rfl⟩ := buffer
  rw [Session.withStream_eq] at read
  unfold ByteStream.fill
  dsimp only at read ⊢
  cases faulted : (ByteStream.read items.length session.stream).1.fault with
  | some fault =>
      simp only [faulted] at read ⊢
      exact readFixed_of_readBytes read
  | none =>
      simp only [faulted] at read ⊢
      exact readFixed_of_readBytes read

theorem readInto_yields (addressed : TestedStream.IsAddressed session.stream) {length : Nat}
    (buffer : Fixed UInt8 length) :
    Yields (readInto buffer) session (session.readFixed buffer) := by
  have next := TestedStream.isAddressed_read length addressed
  by_cases failed : session.hasFailed = true
  · have unmoved : session.readFixed buffer = (.replicate length 0, session) :=
      readFixed_of_readBytes (by rw [Session.readBytes_of_hasFailed failed, buffer.length_eq]; rfl)
    rw [unmoved]
    exact ⟨if_pos failed, addressed⟩
  · have read : readInto buffer session = _ := if_neg failed
    have outcome := readFixed_of_sound failed buffer
    rw [TestedStream.read_eq buffer addressed] at read
    unfold ByteStream.fill at read outcome
    cases faulted : (ByteStream.read length session.stream).1.fault with
    | some fault =>
        simp only [faulted] at read outcome
        rw [outcome]
        exact ⟨read, next⟩
    | none =>
        simp only [faulted] at read outcome
        rw [outcome]
        exact ⟨read, next⟩

/-- Of a buffer only the length counts. -/
theorem readInto_yields_readBytes (addressed : TestedStream.IsAddressed session.stream)
    {length : Nat} (buffer : Fixed UInt8 length) {bytes : Bytes} (same : bytes.length = length) :
    ∃ filled : Fixed UInt8 length, filled.items = (session.readBytes bytes).1 ∧
      Yields (readInto buffer) session (filled, (session.readBytes bytes).2) := by
  have read := Session.readBytes_congr (same.trans buffer.length_eq.symm) session
  rw [read]
  exact ⟨_, rfl, readInto_yields addressed buffer⟩

theorem readFlag_yields (addressed : TestedStream.IsAddressed session.stream) :
    Yields readFlag session session.readFlag := by
  have next := TestedStream.isAddressed_read 1 addressed
  by_cases failed : session.hasFailed = true
  · rw [Session.readFlag_of_hasFailed failed]
    exact ⟨if_pos failed, addressed⟩
  · have read : readFlag session = _ := if_neg failed
    have outcome : session.readFlag = _ := if_neg failed
    rw [TestedStream.read_eq _ addressed] at read
    rw [Session.withStream_eq, TestedStream.readByte_eq] at outcome
    unfold ByteStream.fill at read
    unfold Delivery.byte at outcome
    cases faulted : (ByteStream.read 1 session.stream).1.fault with
    | some fault =>
        simp only [faulted] at read outcome
        rw [outcome]
        exact ⟨read, next⟩
    | none =>
        have complete := ByteStream.length_read 1 session.stream faulted
        obtain ⟨byte, single⟩ := List.length_eq_one_iff.mp complete
        simp only [faulted] at read outcome
        rw [outcome, single]
        refine ⟨read.trans ?_, next⟩
        simp [Delivery.onto, single, item, bind, Except.bind, Pure.pure, Except.pure]

theorem readLength_yields (addressed : TestedStream.IsAddressed session.stream) (limit : UInt32) :
    Yields (readLength limit) session (session.readLength limit) := by
  obtain ⟨filled, same, read⟩ := readInto_yields_readBytes addressed (.replicate 4 0)
    (Bytes.length_zeros 4)
  unfold readLength Session.readLength
  refine read.bind ?_
  dsimp only
  rw [same]
  split
  · exact .modify (.pure (by exact read.addressed) 0)
  · exact .pure read.addressed _

theorem skip_yields (count : Nat) (addressed : TestedStream.IsAddressed session.stream) :
    Yields (skip count) session ((), session.skip count) := by
  fun_induction Session.skip count session with
  | case1 count session more ih =>
      have within : min count 64 ≤ (Bytes.zeros 64).length := Nat.min_le_right count 64
      have split : count - min count 64 + min count 64 = count :=
        Nat.sub_add_cancel (Nat.min_le_left count 64)
      obtain ⟨chunk, found, _⟩ := window_of_le (Nat.zero_le (min count 64)) within
      obtain ⟨filled, _, read⟩ := readInto_yields_readBytes addressed chunk
        (Bytes.length_zeros (min count 64))
      rw [skip]
      refine .get ?_
      rw [if_pos more]
      refine .test found (read.bind (.test (subtract_of_eq split) ?_))
      exact ih read.addressed
  | case2 count session done =>
      rw [skip]
      refine .get ?_
      rw [if_neg done]
      exact .pure addressed ()

omit [TestedStream σ] in
/-- No length that is read is larger than the limit. -/
theorem readLength_le (session : Session σ) (limit : UInt32) :
    (session.readLength limit).1 ≤ limit.toNat := by
  unfold Session.readLength
  dsimp only
  split
  · exact Nat.zero_le _
  · next within => exact Nat.le_of_not_lt within

omit [TestedStream σ] in
theorem readLength_lt (session : Session σ) (limit : UInt32) :
    (session.readLength limit).1 < addressLimit := by
  have small : limit.toNat < 2 ^ 32 := limit.toNat_lt
  have word : addressLimit = 2 ^ 64 := rfl
  have within := readLength_le session limit
  omega

/-- What fills the chunks of a vector does what the session's own operation for a chunk
does. -/
def FillsChunks {α : Type} (blank : α)
    (readChunk : {count : Nat} → Fixed α count → Tested σ (Fixed α count))
    (chunk : Nat → Session σ → List α × Session σ) : Prop :=
  ∀ {width count : Nat}, width = count → ∀ {session : Session σ},
    TestedStream.IsAddressed session.stream →
      ∃ filled : Fixed α width, filled.items = (chunk count session).1 ∧
        Yields (readChunk (Fixed.replicate width blank)) session (filled, (chunk count session).2)

section Vectors

variable {α : Type} {size total : Nat} {blank : α}
  {readChunk : {count : Nat} → Fixed α count → Tested σ (Fixed α count)}
  {chunk : Nat → Session σ → List α × Session σ}

theorem addChunk_of_none {capacity count stop : Nat} {values : List α}
    (behind : count + values.length = stop)
    (refused : session.allocator.reserve? size capacity (values.length + count) = none)
    (addressed : TestedStream.IsAddressed session.stream) :
    Yields (addChunk size total blank readChunk capacity values stop) session
      (none, session.fail (.outOfMemory total)) := by
  unfold addChunk
  refine .get (.test (subtract_of_eq behind) ?_)
  dsimp only
  rw [refused]
  exact .modify (.pure (by exact addressed) none)

theorem window_enlarged (values : List α) (blank : α) {count stop : Nat}
    (behind : count + values.length = stop) :
    window (values ++ List.replicate count blank) values.length stop =
      .ok (.replicate (stop - values.length) blank) := by
  have inside : stop ≤ (values ++ List.replicate count blank).length := by
    rw [List.length_append, List.length_replicate]
    omega
  have ordered : values.length ≤ stop := behind ▸ Nat.le_add_left values.length count
  obtain ⟨found, taken, items⟩ := window_of_le ordered inside
  rw [taken]
  refine congrArg Except.ok (Fixed.ext ?_)
  have same : stop - values.length = count := by omega
  rw [items, Fixed.replicate, same, List.take_of_length_le (by simp; omega), List.drop_left]

variable (total) in
theorem addChunk_of_some (fills : FillsChunks blank readChunk chunk)
    {capacity count stop room : Nat} {values : List α} (behind : count + values.length = stop)
    (reserved : session.allocator.reserve? size capacity (values.length + count) = some room)
    (addressed : TestedStream.IsAddressed session.stream) :
    ∃ filled : Fixed α stop, filled.items = values ++ (chunk count session).1 ∧
      Yields (addChunk size total blank readChunk capacity values stop) session
        (some (room, filled), (chunk count session).2) := by
  have width : stop - values.length = count := by omega
  obtain ⟨piece, items, read⟩ := fills width addressed
  have stored : (putBack (values ++ List.replicate count blank) values.length piece) =
      values ++ (chunk count session).1 := by
    have reach : values.length + (stop - values.length) =
        (values ++ List.replicate count blank).length := by
      rw [width, List.length_append, List.length_replicate]
    rw [putBack, reach, items, List.take_left, List.drop_length, List.append_nil]
  refine ⟨⟨putBack (values ++ List.replicate count blank) values.length piece,
    length_putBack_enlarged blank ⟨count, behind⟩ piece⟩, stored, ?_⟩
  unfold addChunk
  refine .get (.test (subtract_of_eq behind) ?_)
  dsimp only
  rw [reserved]
  refine .test (window_enlarged values blank behind) (read.bind ?_)
  exact .pure read.addressed _

theorem fillVector_yields {β : Type} (fills : FillsChunks blank readChunk chunk)
    {view : List α → β} {fill : Nat → β → Session σ → β × Session σ}
    (views : ∀ count values session, fill count (view values) session =
      (view (values ++ (chunk count session).1), (chunk count session).2))
    (small : total < addressLimit) (held capacity : Nat) (collected : β) (session : Session σ) :
    ∀ {values : List α}, held = values.length → collected = view values →
      TestedStream.IsAddressed session.stream →
        ∃ filled, (session.inChunks size total fill held capacity collected).1 = view filled ∧
          Yields (fillVector size total blank readChunk capacity values) session
            (filled, (session.inChunks size total fill held capacity collected).2) := by
  -- Along the loop of the session: what both have collected so far is the same, and never more
  -- than `total`, which is a machine word, so the next bound is one as well.
  fun_induction Session.inChunks size total fill held capacity collected session with
  | case1 held capacity collected session more count =>
      rename_i refused
      rintro values rfl rfl addressed
      have bound : count ≤ total - values.length := Nat.min_le_right _ _
      refine ⟨values, rfl, ?_⟩
      rw [fillVector]
      refine .get ?_
      rw [if_pos more]
      refine .test (subtract_of_eq (Nat.sub_add_cancel (Nat.le_of_lt more.1))) ?_
      refine .test (add_of_lt rfl (by dsimp only; omega)) ?_
      refine (addChunk_of_none (Nat.add_comm count values.length) refused addressed).bind ?_
      exact .pure (by exact addressed) values
  | case2 held capacity collected session more count room reserved collected next filled =>
      rename_i ih
      rintro values rfl rfl addressed
      have bound : count ≤ total - values.length := Nat.min_le_right _ _
      rw [views] at filled
      obtain ⟨rfl, rfl⟩ := Prod.mk.inj filled
      obtain ⟨enlarged, items, read⟩ := addChunk_of_some total fills
        (Nat.add_comm count values.length) reserved addressed
      obtain ⟨whole, seen, back⟩ := ih (by rw [enlarged.length_eq]) (by rw [items]) read.addressed
      refine ⟨whole, seen, ?_⟩
      rw [fillVector]
      refine .get ?_
      rw [if_pos more]
      refine .test (subtract_of_eq (Nat.sub_add_cancel (Nat.le_of_lt more.1))) ?_
      refine .test (add_of_lt rfl (by dsimp only; omega)) ?_
      exact read.bind back
  | case3 held capacity collected session done =>
      rintro values rfl rfl addressed
      refine ⟨values, rfl, ?_⟩
      rw [fillVector]
      refine .get ?_
      rw [if_neg done]
      exact .pure addressed values

/-- What the elements are collected as may differ from the vector, as long as the result that is
taken from it in the end is the one that is taken from the vector. -/
theorem exists_readVector_yields {β γ : Type} {view : List α → β} {result : β → γ}
    (taken : List α → γ) (agree : ∀ values, result (view values) = taken values)
    (fills : FillsChunks blank readChunk chunk) {fill : Nat → β → Session σ → β × Session σ}
    (views : ∀ count values session, fill count (view values) session =
      (view (values ++ (chunk count session).1), (chunk count session).2))
    (small : total < addressLimit) (addressed : TestedStream.IsAddressed session.stream)
    {collected : β} {last : Session σ}
    (filled : session.inChunks size total fill 0 0 (view []) = (collected, last)) :
    ∃ values, (if last.hasFailed then taken [] else result collected) = taken values ∧
      Yields (readVector size total blank readChunk) session (values, last) := by
  obtain ⟨values, seen, read⟩ :=
    fillVector_yields fills views small 0 0 (view []) session rfl rfl addressed
  rw [filled] at seen read
  dsimp only at seen read
  refine ⟨if last.hasFailed then [] else values, ?_, ?_⟩
  · rw [seen, agree]
    split <;> rfl
  · unfold readVector
    exact read.bind (.get (.pure read.addressed _))

theorem readVector_yields (fills : FillsChunks blank readChunk chunk)
    (small : total < addressLimit) (addressed : TestedStream.IsAddressed session.stream) :
    Yields (readVector size total blank readChunk) session
      (session.readChunks size total chunk) := by
  rw [Session.readChunks_eq]
  split
  next collected last filled =>
    have whole : ∀ values : List α, values.toArray.toList = id values := fun _ => rfl
    obtain ⟨values, same, read⟩ :=
      exists_readVector_yields id whole fills (by simp) small addressed filled
    rw [← apply_ite (·, last) (last.hasFailed = true) [] collected.toList]
    exact same.symm ▸ read

end Vectors

theorem readInto_fillsChunks :
    FillsChunks (σ := σ) 0 readInto fun count session => session.readBytes (Bytes.zeros count) := by
  rintro width _ rfl session addressed
  exact readInto_yields_readBytes addressed (.replicate width 0) (Bytes.length_zeros width)

theorem readText_yields (addressed : TestedStream.IsAddressed session.stream) :
    Yields readText session session.readText := by
  have length := readLength_yields addressed session.limits.text
  have small := readLength_lt session session.limits.text
  unfold readText Session.readText
  exact .get (length.bind ((readVector_yields readInto_fillsChunks small length.addressed).map
    fun bytes => Utf8.decodeLossy (Bytes.beforeZero bytes)))

theorem keepText_eq {capacity : Nat} {kept : Bytes} (short : kept.length ≤ capacity) :
    keepText capacity kept = .ok (SmallText.ofBytes capacity kept) := by
  have valid : (match Utf8.decode? kept with
      | some _ => kept.length
      | none => Utf8.validLength kept) = Utf8.validLength kept := by
    split
    · next text found => exact Utf8.length_of_decode? found
    · rfl
  have within := Utf8.validLength_le kept
  obtain ⟨front, taken, items⟩ := window_of_le (Nat.zero_le _) within
  have text : wellFormed front.items = .ok (Utf8.wellFormedPrefix kept) := by
    rw [items, List.drop_zero, wellFormed, Utf8.decode?_take_validLength]
  have fits : (Utf8.wellFormedPrefix kept).utf8ByteSize ≤ capacity := Nat.le_trans within short
  have whole : SmallText.ofBytes capacity kept = ⟨Utf8.wellFormedPrefix kept, fits⟩ := by
    simp only [SmallText.ofBytes, List.take_of_length_le short]
  unfold keepText
  dsimp only
  rw [valid, taken, whole]
  simp only [bind, Except.bind, text, pushInto, SmallText.ofText?, fits, ↓reduceDIte]

theorem take_putBack {count capacity : Nat} (filled : Fixed UInt8 (count - 0)) :
    (putBack (Bytes.zeros capacity) 0 filled).take count = filled.items := by
  have size : filled.items.length = count := filled.length_eq
  rw [putBack, List.take_zero, List.nil_append, List.take_left' size]

omit [ByteStream σ] [TestedStream σ] in
theorem stream_reportTruncation (length capacity : Nat) (session : Session σ) :
    (session.reportTruncation length capacity).stream = session.stream := by
  unfold Session.reportTruncation
  split
  · rfl
  · rfl

theorem readSmallText_yields (addressed : TestedStream.IsAddressed session.stream)
    (capacity : Nat) :
    Yields (readSmallText capacity) session (session.readSmallText capacity) := by
  have length := readLength_yields addressed session.limits.text
  unfold readSmallText Session.readSmallText
  refine .get (length.bind ?_)
  generalize session.readLength session.limits.text = outcome at length ⊢
  obtain ⟨stored, opened⟩ := outcome
  dsimp only at length ⊢
  have within : min stored capacity ≤ (Bytes.zeros capacity).length := by
    rw [Bytes.length_zeros]
    exact Nat.min_le_right stored capacity
  obtain ⟨target, found, _⟩ := window_of_le (Nat.zero_le _) within
  obtain ⟨filled, same, read⟩ := readInto_yields_readBytes length.addressed target
    (Bytes.length_zeros (min stored capacity))
  have left : stored - capacity + min stored capacity = stored := by omega
  have reported := read.addressed
  dsimp only at reported
  rw [← stream_reportTruncation stored capacity] at reported
  have skipped := skip_yields (stored - capacity) reported
  have buffered : min stored capacity ≤ (putBack (Bytes.zeros capacity) 0 filled).length := by
    rw [length_putBack filled (by rw [Nat.zero_add]; exact within)]
    exact within
  obtain ⟨kept, again, items⟩ := window_of_le (Nat.zero_le _) buffered
  have short : kept.items.length ≤ capacity := by
    rw [kept.length_eq]
    exact Nat.min_le_right stored capacity
  rw [List.drop_zero, take_putBack, same] at items
  have text := keepText_eq short
  refine .test found (read.bind (.modify ?_))
  refine .test (subtract_of_eq left) (skipped.bind (.test again ?_))
  rw [items] at text ⊢
  exact .lastTest skipped.addressed text

end Tested

end Snapshot
