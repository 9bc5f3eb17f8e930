import Snapshot.Proofs.Moves

/-!
# Sessions side by side

Two reading sessions, possibly on streams of different kinds, are run side by side.  A
coupling tells when they are together, which is when no operation can tell them apart, and
when they have parted, which no further move undoes.  An operation keeps a coupling if it
yields the same in sessions that are together and leaves them together, unless they part in
it.  What keeps a coupling composes.
-/

namespace Snapshot

namespace Session

variable {σ τ α β : Type}

/-- What two sessions that read have in common as far as what they read next depends on it. -/
structure Akin (first : Session σ) (second : Session τ) : Prop where
  reading : first.mode = .read
  reading_second : second.mode = .read
  version_eq : first.version = second.version
  limits_eq : first.limits = second.limits
  failure_eq : first.failure = second.failure

theorem Akin.hasFailed_eq {first : Session σ} {second : Session τ} (akin : Akin first second) :
    first.hasFailed = second.hasFailed := by
  rw [hasFailed, hasFailed, akin.failure_eq]

/-- What two sessions that read have in common besides their streams. -/
structure Alike (first : Session σ) (second : Session τ) : Prop extends Akin first second where
  mismatch_eq : first.mismatch = second.mismatch
  log_eq : first.log = second.log

theorem Alike.fail {first : Session σ} {second : Session τ} (alike : Alike first second)
    (failure : Failure) : Alike (first.fail failure) (second.fail failure) where
  reading := alike.reading
  reading_second := alike.reading_second
  version_eq := alike.version_eq
  limits_eq := alike.limits_eq
  failure_eq := congrArg (·.or (some failure)) alike.failure_eq
  mismatch_eq := alike.mismatch_eq
  log_eq := alike.log_eq

theorem Alike.report {first : Session σ} {second : Session τ} (alike : Alike first second)
    (event : Event) : Alike (first.report event) (second.report event) where
  reading := alike.reading
  reading_second := alike.reading_second
  version_eq := alike.version_eq
  limits_eq := alike.limits_eq
  failure_eq := alike.failure_eq
  mismatch_eq := alike.mismatch_eq
  log_eq := congrArg (·.push event) alike.log_eq

theorem Alike.recordMismatch [ByteStream σ] [ByteStream τ] {first : Session σ}
    {second : Session τ} (alike : Alike first second) (same : first.position = second.position)
    (found expected : String) :
    Alike (first.recordMismatch found expected) (second.recordMismatch found expected) where
  reading := alike.reading
  reading_second := alike.reading_second
  version_eq := alike.version_eq
  limits_eq := alike.limits_eq
  failure_eq := alike.failure_eq
  mismatch_eq := by rw [Session.recordMismatch, Session.recordMismatch, same]
  log_eq := by
    simp only [Session.recordMismatch, Session.report]
    rw [same, alike.log_eq]

theorem Alike.withStream {first : Session σ} {second : Session τ} (alike : Alike first second)
    (left : σ) (right : τ) :
    Alike { first with stream := left } { second with stream := right } :=
  ⟨⟨alike.reading, alike.reading_second, alike.version_eq, alike.limits_eq, alike.failure_eq⟩,
    alike.mismatch_eq, alike.log_eq⟩

variable [ByteStream σ] [ByteStream τ]

/-- A relation of sessions for running them side by side. -/
structure Coupling (σ τ : Type) [ByteStream σ] [ByteStream τ] where
  Together : Session σ → Session τ → Prop
  Parted : Session σ → Session τ → Prop
  akin : ∀ {first second}, Together first second → Akin first second
  position_eq : ∀ {first second}, Together first second → first.failure = none →
    first.position = second.position
  /-- Having parted is for good. -/
  parted_moves : ∀ {first next second following}, Parted first second →
    Moves true .read first next → Moves true .read second following → Parted next following
  fail : ∀ {first second}, Together first second → ∀ failure,
    Together (first.fail failure) (second.fail failure)
  report : ∀ {first second}, Together first second → ∀ event,
    Together (first.report event) (second.report event)
  recordMismatch : ∀ {first second}, Together first second → first.failure = none →
    ∀ found expected,
      Together (first.recordMismatch found expected) (second.recordMismatch found expected)
  readBytes : ∀ {first second}, Together first second → ∀ buffer,
    Parted (first.readBytes buffer).2 (second.readBytes buffer).2 ∨
      (first.readBytes buffer).1 = (second.readBytes buffer).1 ∧
        Together (first.readBytes buffer).2 (second.readBytes buffer).2
  readFlag : ∀ {first second}, Together first second →
    Parted first.readFlag.2 second.readFlag.2 ∨
      first.readFlag.1 = second.readFlag.1 ∧ Together first.readFlag.2 second.readFlag.2
  /-- More room is granted to both, or the first session parts for lack of it. -/
  reserve : ∀ {first second}, Together first second → first.failure = none →
    ∀ size capacity count,
      first.allocator.reserve? size capacity count =
          second.allocator.reserve? size capacity count ∨
        first.allocator.reserve? size capacity count = none ∧
          ∀ total, Parted (first.fail (.outOfMemory total)) second

/-- An operation that does to a reading session nothing but read. -/
def Reads (act : Session σ → α × Session σ) : Prop :=
  ∀ session : Session σ, session.mode = .read → Moves true .read session (act session).2

theorem Reads.of_moves {marks : Bool} {act : Session σ → α × Session σ}
    (moves : ∀ session, Moves marks .read session (act session).2) : Reads act :=
  fun session _ => (moves session).weaken

theorem Reads.andThen {act : Session σ → α × Session σ} (front : Reads act)
    {next : α → Session σ → β × Session σ} (back : ∀ value, Reads (next value)) :
    Reads fun session => next (act session).1 (act session).2 := by
  intro session reading
  have moved := front session reading
  exact moved.trans (back _ _ (moved.settings.1.trans reading))

namespace Coupling

variable {coupling : Coupling σ τ}

/-- The outcomes of an operation in two sessions: it yielded the same and left them together,
or they parted in it. -/
def Agrees (coupling : Coupling σ τ) (first : α × Session σ) (second : α × Session τ) : Prop :=
  coupling.Parted first.2 second.2 ∨
    first.1 = second.1 ∧ coupling.Together first.2 second.2

/-- An operation of either session yields the same and leaves the sessions together, unless
they part. -/
structure Keeps (coupling : Coupling σ τ) (act : Session σ → α × Session σ)
    (act' : Session τ → α × Session τ) : Prop where
  agrees : ∀ {first second}, coupling.Together first second →
    coupling.Agrees (act first) (act' second)
  reads : Reads act
  reads_second : Reads act'

namespace Keeps

variable {act : Session σ → α × Session σ} {act' : Session τ → α × Session τ}

theorem succeed (value : α) :
    coupling.Keeps (fun session => (value, session)) (fun session => (value, session)) where
  agrees := fun together => Or.inr ⟨rfl, together⟩
  reads := fun session _ => .refl session
  reads_second := fun session _ => .refl session

theorem refuse (value : α) {failure : Failure} (other : failure.isStream = false) :
    coupling.Keeps (fun session => (value, session.fail failure))
      (fun session => (value, session.fail failure)) where
  agrees := fun together => Or.inr ⟨rfl, coupling.fail together failure⟩
  reads := .of_moves fun session => fail_moves other .read session
  reads_second := .of_moves fun session => fail_moves other .read session

theorem andThen (front : coupling.Keeps act act') {next : α → Session σ → β × Session σ}
    {next' : α → Session τ → β × Session τ}
    (back : ∀ value, coupling.Keeps (next value) (next' value)) :
    coupling.Keeps (fun session => next (act session).1 (act session).2)
      (fun session => next' (act' session).1 (act' session).2) where
  agrees := by
    intro first second together
    have akin := coupling.akin together
    rcases front.agrees together with parted | ⟨same, still⟩
    · have reading := (front.reads first akin.reading).settings.1.trans akin.reading
      have reading' :=
        (front.reads_second second akin.reading_second).settings.1.trans akin.reading_second
      exact Or.inl (coupling.parted_moves parted ((back _).reads _ reading)
        ((back _).reads_second _ reading'))
    · rw [same]
      exact (back _).agrees still
  reads := front.reads.andThen fun value => (back value).reads
  reads_second := front.reads_second.andThen fun value => (back value).reads_second

theorem map (keeps : coupling.Keeps act act') (change : α → β) :
    coupling.Keeps (fun session => (change (act session).1, (act session).2))
      (fun session => (change (act' session).1, (act' session).2)) :=
  keeps.andThen fun value => succeed (change value)

/-- An operation may first look at what the sessions have in common. -/
theorem of_shared {γ : Type} {next : γ → Session σ → β × Session σ}
    {next' : γ → Session τ → β × Session τ} {look : Session σ → γ} {look' : Session τ → γ}
    (same : ∀ {first second}, Akin first second → look first = look' second)
    (each : ∀ value, coupling.Keeps (next value) (next' value)) :
    coupling.Keeps (fun session => next (look session) session)
      (fun session => next' (look' session) session) where
  agrees := by
    intro first second together
    rw [same (coupling.akin together)]
    exact (each _).agrees together
  reads := fun session reading => (each _).reads session reading
  reads_second := fun session reading => (each _).reads_second session reading

/-- What the sessions have in common may be yielded. -/
theorem tell {look : Session σ → α} {look' : Session τ → α}
    (same : ∀ {first second}, Akin first second → look first = look' second) :
    coupling.Keeps (fun session => (look session, session))
      (fun session => (look' session, session)) where
  agrees := fun together => Or.inr ⟨same (coupling.akin together), together⟩
  reads := fun session _ => .refl session
  reads_second := fun session _ => .refl session

/-- In a reading session an operation may be what another one is. -/
theorem of_eq {other : Session σ → α × Session σ} {other' : Session τ → α × Session τ}
    (keeps : coupling.Keeps act act')
    (same : ∀ session, session.mode = .read → other session = act session)
    (same' : ∀ session, session.mode = .read → other' session = act' session) :
    coupling.Keeps other other' where
  agrees := by
    intro first second together
    have akin := coupling.akin together
    rw [same first akin.reading, same' second akin.reading_second]
    exact keeps.agrees together
  reads := by
    intro session reading
    rw [same session reading]
    exact keeps.reads session reading
  reads_second := by
    intro session reading
    rw [same' session reading]
    exact keeps.reads_second session reading

/-- What is done only if a field is present is done in both sessions or in neither. -/
theorem gated {γ : Type} (field : VersionedField γ) (present : coupling.Keeps act act')
    {absent : Session σ → α × Session σ} {absent' : Session τ → α × Session τ}
    (missing : coupling.Keeps absent absent') :
    coupling.Keeps
      (fun session =>
        if session.mode = .read ∧ field.isPresent session.version = false then absent session
        else act session)
      (fun session =>
        if session.mode = .read ∧ field.isPresent session.version = false then absent' session
        else act' session) where
  agrees := by
    intro first second together
    have akin := coupling.akin together
    rw [akin.reading, akin.reading_second, akin.version_eq]
    split
    · exact missing.agrees together
    · exact present.agrees together
  reads := by
    intro session reading
    dsimp only
    split
    · exact missing.reads session reading
    · exact present.reads session reading
  reads_second := by
    intro session reading
    dsimp only
    split
    · exact missing.reads_second session reading
    · exact present.reads_second session reading

/-- What is skipped in a failed session has to keep the coupling in sound ones only. -/
theorem unlessFailed (value : α)
    (agrees : ∀ {first second}, coupling.Together first second → first.failure = none →
      coupling.Agrees (act first) (act' second))
    (moves : ∀ session, session.failure = none → Moves true .read session (act session).2)
    (moves' : ∀ session, session.failure = none → Moves true .read session (act' session).2) :
    coupling.Keeps (fun session => if session.hasFailed then (value, session) else act session)
      (fun session => if session.hasFailed then (value, session) else act' session) where
  agrees := by
    intro first second together
    rw [← (coupling.akin together).hasFailed_eq]
    split
    · exact Or.inr ⟨rfl, together⟩
    · next unfailed => exact agrees together (by simpa using unfailed)
  reads := by
    intro session _
    dsimp only
    split
    · exact .refl session
    · next unfailed => exact moves session (by simpa using unfailed)
  reads_second := by
    intro session _
    dsimp only
    split
    · exact .refl session
    · next unfailed => exact moves' session (by simpa using unfailed)

end Keeps

/-! ## Bytes and lengths -/

theorem readBytes_keeps (buffer : Bytes) :
    coupling.Keeps (fun session => session.readBytes buffer)
      (fun session => session.readBytes buffer) where
  agrees := fun together => coupling.readBytes together buffer
  reads := .of_moves (readBytes_moves buffer)
  reads_second := .of_moves (readBytes_moves buffer)

theorem readFlag_keeps :
    coupling.Keeps (fun session => session.readFlag) (fun session => session.readFlag) where
  agrees := fun together => coupling.readFlag together
  reads := .of_moves readFlag_moves
  reads_second := .of_moves readFlag_moves

theorem readLength_keeps (limit : UInt32) :
    coupling.Keeps (fun session => session.readLength limit)
      (fun session => session.readLength limit) := by
  have within : ∀ stored : Bytes, coupling.Keeps
      (fun session =>
        if limit.toNat < Bytes.toNat stored then
          (0, session.fail (.lengthLimit (Bytes.toNat stored) limit.toNat))
        else
          (Bytes.toNat stored, session))
      (fun session =>
        if limit.toNat < Bytes.toNat stored then
          (0, session.fail (.lengthLimit (Bytes.toNat stored) limit.toNat))
        else
          (Bytes.toNat stored, session)) := by
    intro stored
    split
    · exact .refuse 0 rfl
    · exact .succeed _
  exact (readBytes_keeps (Bytes.zeros 4)).andThen within

/-! ## Chunks -/

omit [ByteStream σ] in
/-- A chunk for which there is room is filled. -/
theorem inChunks_of_some {size total held capacity room : Nat}
    {fill : Nat → β → Session σ → β × Session σ} {collected : β} {session : Session σ}
    (more : held < total) (sound : session.failure = none)
    (reserved : session.allocator.reserve? size capacity
      (held + min (chunkLength size) (total - held)) = some room) :
    session.inChunks size total fill held capacity collected =
      (fill (min (chunkLength size) (total - held)) collected session).2.inChunks size total fill
        (held + min (chunkLength size) (total - held)) room
        (fill (min (chunkLength size) (total - held)) collected session).1 := by
  rw [inChunks, if_pos ⟨more, hasFailed_eq_false.mpr sound⟩]
  simp only [reserved]

omit [ByteStream σ] in
/-- A chunk for which there is no room ends the reading. -/
theorem inChunks_of_none {size total held capacity : Nat}
    {fill : Nat → β → Session σ → β × Session σ} {collected : β} {session : Session σ}
    (more : held < total) (sound : session.failure = none)
    (refused : session.allocator.reserve? size capacity
      (held + min (chunkLength size) (total - held)) = none) :
    session.inChunks size total fill held capacity collected =
      (collected, session.fail (.outOfMemory total)) := by
  rw [inChunks, if_pos ⟨more, hasFailed_eq_false.mpr sound⟩]
  simp only [refused]

omit [ByteStream σ] in
/-- When all is read, or the session has failed, no chunk follows. -/
theorem inChunks_of_done {size total held capacity : Nat}
    {fill : Nat → β → Session σ → β × Session σ} {collected : β} {session : Session σ}
    (done : ¬(held < total ∧ session.failure = none)) :
    session.inChunks size total fill held capacity collected = (collected, session) := by
  rw [← hasFailed_eq_false] at done
  rw [inChunks, if_neg done]

omit [ByteStream σ] in
/-- A loop that shows what another one collects, chunk by chunk, shows it in the end. -/
theorem inChunks_view {γ : Type} {fill : Nat → β → Session σ → β × Session σ}
    {shown : Nat → γ → Session σ → γ × Session σ} (view : β → γ)
    (shows : ∀ count collected session, shown count (view collected) session =
      (view (fill count collected session).1, (fill count collected session).2))
    (size total held capacity : Nat) (collected : β) (session : Session σ) :
    session.inChunks size total shown held capacity (view collected) =
      (view (session.inChunks size total fill held capacity collected).1,
        (session.inChunks size total fill held capacity collected).2) := by
  fun_induction inChunks size total fill held capacity collected session with
  | case1 held capacity collected session more count refused =>
      rw [inChunks_of_none more.1 (hasFailed_eq_false.mp more.2) refused]
  | case2 held capacity collected session more count room reserved next after filled ih =>
      have step := shows count collected session
      rw [filled] at step
      rw [inChunks_of_some more.1 (hasFailed_eq_false.mp more.2) reserved, step]
      exact ih
  | case3 held capacity collected session ended =>
      rw [inChunks_of_done (by rwa [← hasFailed_eq_false])]

theorem inChunks_keeps {size total : Nat} {fill : Nat → β → Session σ → β × Session σ}
    {fill' : Nat → β → Session τ → β × Session τ}
    (fills : ∀ count collected, coupling.Keeps (fill count collected) (fill' count collected))
    (moves : ∀ count collected session, Moves false .read session (fill count collected session).2)
    (moves' : ∀ count collected session,
      Moves false .read session (fill' count collected session).2)
    (held capacity : Nat) (collected : β) :
    coupling.Keeps (inChunks size total fill held capacity collected)
      (inChunks size total fill' held capacity collected) where
  agrees := by
    intro first second together
    induction left : total - held using Nat.strongRecOn
      generalizing held capacity collected first second with
    | ind left ih =>
        subst left
        have failures := (coupling.akin together).failure_eq
        by_cases more : held < total ∧ first.failure = none
        · obtain ⟨more, sound⟩ := more
          have sound' : second.failure = none := failures.symm.trans sound
          have some_element := chunkLength_pos size
          rcases coupling.reserve together sound size capacity
              (held + min (chunkLength size) (total - held)) with same | ⟨refused, parts⟩
          · cases reserved : second.allocator.reserve? size capacity
                (held + min (chunkLength size) (total - held)) with
            | none =>
                rw [inChunks_of_none more sound (same.trans reserved),
                  inChunks_of_none more sound' reserved]
                exact Or.inr ⟨rfl, coupling.fail together _⟩
            | some room =>
                rw [inChunks_of_some more sound (same.trans reserved),
                  inChunks_of_some more sound' reserved]
                rcases (fills (min (chunkLength size) (total - held)) collected).agrees together with
                  parted | ⟨filled, still⟩
                · exact Or.inl (coupling.parted_moves parted
                    (inChunks_moves size total fill moves _ _ _ _).weaken
                    (inChunks_moves size total fill' moves' _ _ _ _).weaken)
                · rw [filled]
                  exact ih _ (by omega) _ room _ still rfl
          · rw [inChunks_of_none more sound refused]
            exact Or.inl (coupling.parted_moves (parts total) (.refl _)
              (inChunks_moves size total fill' moves' _ _ _ _).weaken)
        · have done : ¬(held < total ∧ second.failure = none) := by
            rw [← failures]
            exact more
          rw [inChunks_of_done more, inChunks_of_done done]
          exact Or.inr ⟨rfl, together⟩
  reads := .of_moves fun session => inChunks_moves size total fill moves held capacity collected session
  reads_second :=
    .of_moves fun session => inChunks_moves size total fill' moves' held capacity collected session

theorem readChunks_keeps {readChunk : Nat → Session σ → List α × Session σ}
    {readChunk' : Nat → Session τ → List α × Session τ}
    (chunks : ∀ count, coupling.Keeps (readChunk count) (readChunk' count))
    (moves : ∀ count session, Moves false .read session (readChunk count session).2)
    (moves' : ∀ count session, Moves false .read session (readChunk' count session).2)
    (size total : Nat) :
    coupling.Keeps (readChunks size total readChunk) (readChunks size total readChunk') := by
  have collects : coupling.Keeps
      (inChunks size total (fun count (collected : Array α) session =>
        (collected ++ (readChunk count session).1, (readChunk count session).2)) 0 0 #[])
      (inChunks size total (fun count (collected : Array α) session =>
        (collected ++ (readChunk' count session).1, (readChunk' count session).2)) 0 0 #[]) :=
    inChunks_keeps (fun count (collected : Array α) =>
        (chunks count).map fun (items : List α) => collected ++ items)
      (fun count _ session => moves count session) (fun count _ session => moves' count session)
      0 0 #[]
  have checked : ∀ collected : Array α, coupling.Keeps
      (fun session => if session.hasFailed then ([], session) else (collected.toList, session))
      (fun session => if session.hasFailed then ([], session) else (collected.toList, session)) := by
    intro collected
    exact .unlessFailed [] (fun together _ => Or.inr ⟨rfl, together⟩) (fun session _ => .refl session)
      (fun session _ => .refl session)
  exact collects.andThen checked

omit [ByteStream τ] in
theorem skip_of_pos {count : Nat} {session : Session σ} (more : 0 < count)
    (sound : session.hasFailed = false) :
    session.skip count =
      (session.readBytes (Bytes.zeros (min count 64))).2.skip (count - min count 64) := by
  rw [skip, if_pos ⟨more, sound⟩]

theorem skip_keeps (count : Nat) :
    coupling.Keeps (fun session => ((), session.skip count))
      (fun session => ((), session.skip count)) where
  agrees := by
    intro first second together
    induction count using Nat.strongRecOn generalizing first second with
    | ind count ih =>
        have failed := (coupling.akin together).hasFailed_eq
        by_cases more : 0 < count ∧ first.hasFailed = false
        · rw [skip_of_pos more.1 more.2, skip_of_pos more.1 (failed.symm.trans more.2)]
          rcases coupling.readBytes together (Bytes.zeros (min count 64)) with
            parted | ⟨_, still⟩
          · exact Or.inl (coupling.parted_moves parted (skip_moves _ _).weaken
              (skip_moves _ _).weaken)
          · exact ih _ (by omega) still
        · have more' : ¬(0 < count ∧ second.hasFailed = false) := by
            rw [← failed]
            exact more
          rw [skip, if_neg more, skip, if_neg more']
          exact Or.inr ⟨rfl, together⟩
  reads := .of_moves (skip_moves count)
  reads_second := .of_moves (skip_moves count)

theorem each_keeps {act : α → Session σ → β × Session σ} {act' : α → Session τ → β × Session τ}
    (acts : ∀ item, coupling.Keeps (act item) (act' item)) (items : List α) :
    coupling.Keeps (each act items) (each act' items) := by
  induction items with
  | nil => exact .succeed []
  | cons item items ih =>
      refine ((acts item).andThen fun first => ih.map (first :: ·)).of_eq ?_ ?_
      · intro session _
        rw [each_cons]
      · intro session _
        rw [each_cons]

theorem eachFixed_keeps {length : Nat} {act : α → Session σ → β × Session σ}
    {act' : α → Session τ → β × Session τ} (acts : ∀ item, coupling.Keeps (act item) (act' item))
    (items : Fixed α length) :
    coupling.Keeps (eachFixed act items) (eachFixed act' items) where
  agrees := by
    intro first second together
    rcases (each_keeps acts items.items).agrees together with parted | ⟨same, still⟩
    · exact Or.inl parted
    · exact Or.inr ⟨Fixed.ext same, still⟩
  reads := (each_keeps acts items.items).reads
  reads_second := (each_keeps acts items.items).reads_second

end Coupling

end Session

end Snapshot
