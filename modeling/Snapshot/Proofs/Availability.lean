import Snapshot.Proofs.Following
import Snapshot.Proofs.Matching

/-!
# Bytes ahead of a stream

What a stream of any kind has ahead is told by its reads alone.  It offers a byte string when
reads of any sizes that stay within the bytes deliver them in order, and it ends behind them when
no read goes further.  A session is held to the bytes that its reads delivered, so that what an
operation consumes is a byte string, whatever positions the stream may tell.
-/

namespace Snapshot

/-- Reads one after another that all succeed, with the bytes that they deliver. -/
inductive Delivers {σ : Type} [ByteStream σ] (before : σ) : Bytes → σ → Prop where
  | refl : Delivers before [] before
  | tail {bytes more : Bytes} {state : σ} {count : Nat} (reached : Delivers before bytes state)
      (delivered : (ByteStream.read count state).1 = .full more) :
      Delivers before (bytes ++ more) (ByteStream.read count state).2

/-- Reads of any sizes that stay within the bytes deliver them in order. -/
structure Offers {σ : Type} [ByteStream σ] (state : σ) (bytes : Bytes) : Prop where
  full : ∀ {front : Bytes} {next : σ}, Delivers state front next → ∀ {count : Nat},
    front.length + count ≤ bytes.length →
      (ByteStream.read count next).1 = .full ((bytes.drop front.length).take count)

/-- The bytes are all that the stream has ahead. -/
structure EndsAfter {σ : Type} [ByteStream σ] (state : σ) (bytes : Bytes) : Prop where
  offers : Offers state bytes
  ends : ∀ {front : Bytes} {next : σ}, Delivers state front next → ∀ {count : Nat},
    bytes.length < front.length + count → ∃ fault, (ByteStream.read count next).1.fault = some fault

/-- Every read that succeeds moves the position by what it delivers. -/
def ByteStream.CountsReads (σ : Type) [ByteStream σ] : Prop :=
  ∀ (count : Nat) (state : σ), (ByteStream.read count state).1.fault = none →
    ByteStream.position (ByteStream.read count state).2 = ByteStream.position state + count

variable {σ : Type} [ByteStream σ]

theorem length_of_full {count : Nat} {state : σ} {bytes : Bytes}
    (delivered : (ByteStream.read count state).1 = .full bytes) : bytes.length = count := by
  have size := ByteStream.length_read count state (by rw [delivered]; rfl)
  rw [delivered] at size
  exact size

namespace Delivers

variable {before middle after : σ} {front back : Bytes}

theorem single {count : Nat} (delivered : (ByteStream.read count before).1 = .full front) :
    Delivers before front (ByteStream.read count before).2 :=
  .tail .refl delivered

theorem trans (first : Delivers before front middle) (second : Delivers middle back after) :
    Delivers before (front ++ back) after := by
  induction second with
  | refl =>
      rw [List.append_nil]
      exact first
  | tail reached delivered ih =>
      rw [← List.append_assoc]
      exact .tail ih delivered

theorem position_eq (counts : ByteStream.CountsReads σ) (reached : Delivers before front after) :
    ByteStream.position after = ByteStream.position before + front.length := by
  induction reached with
  | refl => rfl
  | tail reached delivered ih =>
      have moved := counts _ _ (congrArg Delivery.fault delivered)
      rw [moved, ih, List.length_append, length_of_full delivered, Nat.add_assoc]

end Delivers

namespace Offers

variable {state next : σ} {front rest bytes : Bytes}

/-- What is delivered from bytes on offer is their front. -/
theorem eq_take (offers : Offers state bytes) (reached : Delivers state front next)
    (within : front.length ≤ bytes.length) : front = bytes.take front.length := by
  induction reached with
  | refl => rfl
  | @tail first more between count reached delivered ih =>
      have size := length_of_full delivered
      rw [List.length_append] at within
      have same := (offers.full reached (by omega)).symm.trans delivered
      have next := congrArg Delivery.bytes same
      simp only [Delivery.full] at next
      rw [List.length_append, size, List.take_add, next, ← ih (by omega)]

/-- Behind bytes that were delivered the rest is on offer. -/
theorem after (offers : Offers state (front ++ rest)) (reached : Delivers state front next) :
    Offers next rest := by
  constructor
  intro more last further count within
  have whole := offers.full (reached.trans further)
    (show (front ++ more).length + count ≤ (front ++ rest).length by
      simp only [List.length_append]
      omega)
  rw [List.length_append, ← List.drop_drop, List.drop_left] at whole
  exact whole

/-- The front of bytes on offer is on offer. -/
theorem of_append (offers : Offers state (front ++ rest)) : Offers state front := by
  constructor
  intro first between reached count within
  have whole := offers.full reached
    (show first.length + count ≤ (front ++ rest).length by rw [List.length_append]; omega)
  rw [List.drop_append_of_le_length (by omega),
    List.take_append_of_le_length (by rw [List.length_drop]; omega)] at whole
  exact whole

theorem read (offers : Offers state (front ++ rest)) :
    (ByteStream.read front.length state).1 = .full front := by
  have whole := offers.full .refl
    (show ([] : Bytes).length + front.length ≤ (front ++ rest).length by simp)
  rw [List.length_nil, List.drop_zero, List.take_left] at whole
  exact whole

end Offers

/-- What is delivered stays within the bytes behind which the stream ends. -/
theorem EndsAfter.isPrefix {state next : σ} {front bytes : Bytes} (ended : EndsAfter state bytes)
    (reached : Delivers state front next) : front <+: bytes := by
  have within : front.length ≤ bytes.length := by
    induction reached with
    | refl => exact Nat.zero_le _
    | tail reached delivered ih =>
        rw [List.length_append, length_of_full delivered]
        refine Nat.le_of_not_lt fun beyond => ?_
        obtain ⟨fault, failed⟩ := ended.ends reached beyond
        rw [delivered] at failed
        cases failed
  rw [ended.offers.eq_take reached within]
  exact List.take_prefix _ _

/-- Behind bytes that were delivered the stream ends after the rest. -/
theorem EndsAfter.after {state next : σ} {front rest : Bytes}
    (ended : EndsAfter state (front ++ rest)) (reached : Delivers state front next) :
    EndsAfter next rest := by
  refine ⟨ended.offers.after reached, ?_⟩
  intro more last further count beyond
  refine ended.ends (reached.trans further) ?_
  simp only [List.length_append]
  omega

/-! ## Kinds of streams -/

/-- The bytes that a memory or a slice supplies are all that it has ahead. -/
theorem Supply.endsAfter [Supply σ] {state : σ} {bytes : Bytes}
    (supplied : Supply.Supplies state bytes) : EndsAfter state bytes := by
  have left : ∀ {front : Bytes} {next : σ}, Delivers state front next →
      ∃ rest, bytes = front ++ rest ∧ Supply.Supplies next rest := by
    intro front next reached
    induction reached with
    | refl => exact ⟨bytes, rfl, supplied⟩
    | @tail first more between count reached delivered ih =>
        obtain ⟨rest, split, remaining⟩ := ih
        rcases Nat.lt_or_ge rest.length count with short | enough
        · rw [Supply.read_of_lt remaining short] at delivered
          cases congrArg Delivery.fault delivered
        · obtain ⟨taken, further, _⟩ := Supply.read_of_le remaining enough
          have same : rest.take count = more :=
            congrArg Delivery.bytes (taken.symm.trans delivered)
          refine ⟨rest.drop count, ?_, further⟩
          rw [split, List.append_assoc, ← same, List.take_append_drop]
  refine ⟨⟨?_⟩, ?_⟩
  · intro front next reached count within
    obtain ⟨rest, rfl, remaining⟩ := left reached
    rw [List.length_append] at within
    rw [List.drop_left]
    exact (Supply.read_of_le remaining (by omega)).1
  · intro front next reached count beyond
    obtain ⟨rest, rfl, remaining⟩ := left reached
    rw [List.length_append] at beyond
    exact ⟨_, by rw [Supply.read_of_lt remaining (by omega)]; rfl⟩

namespace Matching

variable {τ : Type} [ByteStream τ] {first : σ} {second : τ}

/-- What a stream delivers, a stream that is level with it delivers. -/
theorem delivers (matching : Matching σ τ) (level : matching.Level first second) {bytes : Bytes}
    {next : τ} (reached : Delivers second bytes next) :
    ∃ before, Delivers first bytes before ∧ matching.Level before next := by
  induction reached with
  | refl => exact ⟨first, .refl, level⟩
  | @tail bytes more between count reached delivered ih =>
      obtain ⟨before, front, still⟩ := ih
      rcases matching.read still count with ⟨taken, here, there, further⟩ | ⟨fault, _, there, _⟩
      · have same : taken = more := congrArg Delivery.bytes (there.symm.trans delivered)
        rw [same] at here
        exact ⟨_, .tail front here, further⟩
      · rw [delivered] at there
        cases there

/-- Level streams end behind the same bytes. -/
theorem endsAfter (matching : Matching σ τ) (level : matching.Level first second) {bytes : Bytes}
    (ended : EndsAfter first bytes) : EndsAfter second bytes := by
  refine ⟨⟨?_⟩, ?_⟩
  · intro front next reached count within
    obtain ⟨before, delivered, still⟩ := matching.delivers level reached
    have full := ended.offers.full delivered within
    rcases matching.read still count with ⟨taken, here, there, _⟩ | ⟨fault, here, _, _⟩
    · exact there.trans (here.symm.trans full)
    · rw [full] at here
      cases here
  · intro front next reached count beyond
    obtain ⟨before, delivered, still⟩ := matching.delivers level reached
    obtain ⟨fault, failed⟩ := ended.ends delivered beyond
    rcases matching.read still count with ⟨taken, here, _, _⟩ | ⟨fault, _, there, _⟩
    · rw [here] at failed
      cases failed
    · exact ⟨fault, there⟩

end Matching

theorem Memory.countsReads : ByteStream.CountsReads Memory := by
  intro count memory delivered
  obtain ⟨data, cursor, spare⟩ := memory
  change (Memory.read count ⟨data, cursor, spare⟩).1.fault = none at delivered
  change (Memory.read count ⟨data, cursor, spare⟩).2.cursor = cursor + count
  simp only [Memory.read] at delivered ⊢
  split at delivered
  · next within => rw [if_pos within]
  · cases delivered

theorem Slice.countsReads : ByteStream.CountsReads Slice := by
  intro count slice delivered
  change (slice.read count).2.cursor = slice.cursor + count
  change (slice.read count).1.fault = none at delivered
  unfold Slice.read at delivered ⊢
  split at delivered
  · next within => rw [if_pos within]
  · cases delivered

/-! ## Sessions -/

/-- A number within a limit fits a length prefix. -/
theorem Bytes.toNat_ofNat_of_le_limit {limit : UInt32} {count : Nat}
    (small : count ≤ limit.toNat) : toNat (ofNat 4 count) = count :=
  toNat_ofNat_of_lt (Nat.lt_of_le_of_lt small limit.toNat_lt)

namespace Session

/-- The session has read the bytes, and nothing else has happened to it. -/
def Consumes (session : Session σ) (bytes : Bytes) (next : Session σ) : Prop :=
  ∃ stream, Delivers session.stream bytes stream ∧ next = { session with stream := stream }

namespace Consumes

variable {session middle next : Session σ} {front back rest : Bytes}

theorem refl (session : Session σ) : session.Consumes [] session :=
  ⟨session.stream, .refl, rfl⟩

theorem trans (first : session.Consumes front middle) (second : middle.Consumes back next) :
    session.Consumes (front ++ back) next := by
  obtain ⟨between, reached, rfl⟩ := first
  obtain ⟨last, further, rfl⟩ := second
  exact ⟨last, reached.trans further, rfl⟩

theorem failure_eq (consumes : session.Consumes front next) : next.failure = session.failure := by
  obtain ⟨stream, _, rfl⟩ := consumes
  rfl

theorem allocator_eq (consumes : session.Consumes front next) :
    next.allocator = session.allocator := by
  obtain ⟨stream, _, rfl⟩ := consumes
  rfl

theorem offers (consumes : session.Consumes front next)
    (offers : Offers session.stream (front ++ rest)) : Offers next.stream rest := by
  obtain ⟨stream, reached, rfl⟩ := consumes
  exact offers.after reached

theorem position_eq (consumes : session.Consumes front next)
    (counts : ByteStream.CountsReads σ) : next.position = session.position + front.length := by
  obtain ⟨stream, reached, rfl⟩ := consumes
  exact reached.position_eq counts

end Consumes

variable {session : Session σ}

/-! ### Bytes and lengths -/

theorem readBytes_of_offers {front rest buffer : Bytes} (sound : session.failure = none)
    (offers : Offers session.stream (front ++ rest)) (size : buffer.length = front.length) :
    (session.readBytes buffer).1 = front ∧
      session.Consumes front (session.readBytes buffer).2 := by
  have delivered := offers.read
  rw [← size] at delivered
  rw [readBytes_of_full sound delivered]
  exact ⟨rfl, _, .single delivered, rfl⟩

/-- Bytes that were read without failure were delivered. -/
theorem readBytes_consumes {buffer : Bytes} (done : (session.readBytes buffer).2.failure = none) :
    session.Consumes (session.readBytes buffer).1 (session.readBytes buffer).2 := by
  have sound := (readBytes_moves buffer session).sound_before done
  cases outcome : (ByteStream.read buffer.length session.stream).1.fault with
  | none =>
      have delivered : (ByteStream.read buffer.length session.stream).1 =
          .full (ByteStream.read buffer.length session.stream).1.bytes := by
        rw [Delivery.full, ← outcome]
      rw [readBytes_of_full sound delivered]
      exact ⟨_, .single delivered, rfl⟩
  | some fault =>
      rw [readBytes_of_fault sound outcome] at done
      exact absurd done (failure_fail_ne_none _ _)

theorem readLength_of_offers {limit : UInt32} {count : Nat} {rest : Bytes}
    (sound : session.failure = none) (small : count ≤ limit.toNat)
    (offers : Offers session.stream (Bytes.ofNat 4 count ++ rest)) :
    (session.readLength limit).1 = count ∧
      session.Consumes (Bytes.ofNat 4 count) (session.readLength limit).2 := by
  obtain ⟨stored, consumes⟩ := readBytes_of_offers sound offers
    (show (Bytes.zeros 4).length = (Bytes.ofNat 4 count).length by simp)
  unfold readLength
  dsimp only
  rw [stored, Bytes.toNat_ofNat_of_le_limit small, if_neg (Nat.not_lt_of_le small)]
  exact ⟨rfl, consumes⟩

/-- A length beyond the limit is refused. -/
theorem readLength_of_beyond {limit : UInt32} {count : Nat} {rest : Bytes}
    (sound : session.failure = none) (beyond : limit.toNat < count)
    (expressible : count ≤ Limits.largestLength)
    (offers : Offers session.stream (Bytes.ofNat 4 count ++ rest)) :
    (session.readLength limit).2.failure = some (.lengthLimit count limit.toNat) := by
  obtain ⟨stored, consumes⟩ := readBytes_of_offers sound offers
    (show (Bytes.zeros 4).length = (Bytes.ofNat 4 count).length by simp)
  have number : Bytes.toNat (Bytes.ofNat 4 count) = count :=
    Bytes.toNat_ofNat_of_lt (Nat.lt_succ_of_le expressible)
  unfold readLength
  dsimp only
  rw [stored, number, if_pos beyond, fail_of_sound (consumes.failure_eq.trans sound)]

/-- A length that was read without failure was delivered, and is within the limit. -/
theorem readLength_consumes {limit : UInt32} (done : (session.readLength limit).2.failure = none) :
    (session.readLength limit).1 ≤ limit.toNat ∧
      session.Consumes (Bytes.ofNat 4 (session.readLength limit).1)
        (session.readLength limit).2 := by
  unfold readLength at done ⊢
  dsimp only at done ⊢
  split at done
  · exact absurd done (failure_fail_ne_none _ _)
  · next within =>
      have size : (session.readBytes (Bytes.zeros 4)).1.length = 4 := by simp
      rw [if_neg within, Decoder.ofNat_toNat_of_length size]
      exact ⟨Nat.le_of_not_lt within, readBytes_consumes done⟩

/-- Bytes on offer are skipped. -/
theorem skip_of_offers {dropped rest : Bytes} (sound : session.failure = none)
    (offers : Offers session.stream (dropped ++ rest)) :
    session.Consumes dropped (session.skip dropped.length) := by
  induction size : dropped.length using Nat.strongRecOn generalizing session dropped with
  | ind size ih =>
      subst size
      by_cases more : 0 < dropped.length
      · have front := List.take_append_drop (min dropped.length 64) dropped
        have portion : (dropped.take (min dropped.length 64)).length = min dropped.length 64 := by
          rw [List.length_take]
          omega
        have left : (dropped.drop (min dropped.length 64)).length =
            dropped.length - min dropped.length 64 := List.length_drop
        rw [← front, List.append_assoc] at offers
        obtain ⟨_, taken⟩ := readBytes_of_offers sound offers
          (show (Bytes.zeros (min dropped.length 64)).length = _ by
            rw [Bytes.length_zeros, portion])
        have back := ih (dropped.length - min dropped.length 64) (by omega)
          (taken.failure_eq.trans sound) (taken.offers offers) left
        have whole := taken.trans back
        rw [front] at whole
        rw [skip, if_pos ⟨more, hasFailed_eq_false.mpr sound⟩]
        exact whole
      · have nothing : dropped = [] := List.eq_nil_of_length_eq_zero (by omega)
        rw [nothing, List.length_nil, skip, if_neg (by simp)]
        exact .refl session

/-! ### Bytes in chunks -/

/-- Appends the next bytes to those that were collected before. -/
def collect (count : Nat) (collected : Array UInt8) (session : Session σ) :
    Array UInt8 × Session σ :=
  (collected ++ (session.readBytes (Bytes.zeros count)).1,
    (session.readBytes (Bytes.zeros count)).2)

theorem inChunks_of_offers {total : Nat} (size held capacity : Nat) (collected : Array UInt8)
    {payload rest : Bytes} (sound : session.failure = none)
    (grants : ∀ request, session.allocator.grants request = true)
    (left : held + payload.length = total)
    (offers : Offers session.stream (payload ++ rest)) :
    (session.inChunks size total collect held capacity collected).1 = collected ++ payload ∧
      session.Consumes payload (session.inChunks size total collect held capacity collected).2 := by
  induction remaining : payload.length using Nat.strongRecOn
    generalizing session payload held capacity collected with
  | ind remaining ih =>
      subst remaining
      by_cases more : 0 < payload.length
      · -- One chunk of the payload, and by induction the chunks after it.
        have some_element := chunkLength_pos size
        have portion : (payload.take (min (chunkLength size) (total - held))).length =
            min (chunkLength size) (total - held) := by
          rw [List.length_take]
          omega
        have further : (payload.drop (min (chunkLength size) (total - held))).length =
            payload.length - min (chunkLength size) (total - held) := List.length_drop
        have front := List.take_append_drop (min (chunkLength size) (total - held)) payload
        rw [← front, List.append_assoc] at offers
        obtain ⟨stored, taken⟩ := readBytes_of_offers sound offers
          (show (Bytes.zeros (min (chunkLength size) (total - held))).length = _ by
            rw [Bytes.length_zeros, portion])
        obtain ⟨room, reserved⟩ := Allocator.exists_reserve? grants size capacity
          (held + min (chunkLength size) (total - held))
        obtain ⟨items, back⟩ := ih _ (by omega) (held + min (chunkLength size) (total - held)) room
          (collected ++ payload.take (min (chunkLength size) (total - held)))
          (taken.failure_eq.trans sound) (by rw [taken.allocator_eq]; exact grants) (by omega)
          (taken.offers offers) further
        have whole := taken.trans back
        rw [front] at whole
        rw [Coupling.inChunks_of_some (by omega) sound reserved, collect, stored]
        refine ⟨items.trans ?_, whole⟩
        conv => rhs; rw [← front]
        apply Array.ext'
        simp
      · have nothing : payload = [] := List.eq_nil_of_length_eq_zero (by omega)
        subst nothing
        rw [inChunks, if_neg (by simp only [List.length_nil] at left; omega)]
        exact ⟨by simp, .refl session⟩

theorem inChunks_consumes {size total held capacity : Nat} {collected : Array UInt8}
    (inside : held ≤ total)
    (done : (session.inChunks size total collect held capacity collected).2.failure = none) :
    ∃ payload : Bytes, payload.length = total - held ∧
      (session.inChunks size total collect held capacity collected).1 = collected ++ payload ∧
        session.Consumes payload
          (session.inChunks size total collect held capacity collected).2 := by
  fun_induction inChunks size total collect held capacity collected session with
  | case1 => exact absurd done (failure_fail_ne_none _ _)
  | case2 held capacity collected session more count room reserved next last filled ih =>
      have some_element := chunkLength_pos size
      obtain ⟨payload, length, items, back⟩ := ih (by omega) done
      obtain ⟨rfl, rfl⟩ := Prod.mk.inj filled
      have taken := readBytes_consumes (by rw [← back.failure_eq]; exact done)
      have portion := length_readBytes (Bytes.zeros count) session
      rw [Bytes.length_zeros] at portion
      refine ⟨(session.readBytes (Bytes.zeros count)).1 ++ payload, ?_, ?_, taken.trans back⟩
      · rw [List.length_append, portion, length]
        omega
      · rw [items]
        apply Array.ext'
        simp
  | case3 held capacity collected session ended =>
      have complete : ¬held < total := fun more =>
        ended ⟨more, hasFailed_eq_false.mpr done⟩
      exact ⟨[], by rw [List.length_nil]; omega, by simp, .refl session⟩

theorem readChunks_eq_collect (size total : Nat) (session : Session σ) :
    (session.readChunks size total fun count session => session.readBytes (Bytes.zeros count)) =
      if (session.inChunks size total collect 0 0 #[]).2.hasFailed then
        ([], (session.inChunks size total collect 0 0 #[]).2)
      else
        ((session.inChunks size total collect 0 0 #[]).1.toList,
          (session.inChunks size total collect 0 0 #[]).2) :=
  rfl

omit [ByteStream σ] in
/-- Of what failed to be read chunk by chunk nothing is kept. -/
theorem readChunks_eq_nil {α : Type} {size total : Nat}
    {readChunk : Nat → Session σ → List α × Session σ}
    (failed : (session.readChunks size total readChunk).2.hasFailed = true) :
    (session.readChunks size total readChunk).1 = [] := by
  rw [readChunks_eq] at failed ⊢
  dsimp only at failed ⊢
  split at failed
  · next broken => rw [if_pos broken]
  · next whole => exact absurd failed whole

/-- Bytes on offer are read chunk by chunk. -/
theorem readChunks_of_offers (size : Nat) {payload rest : Bytes} (sound : session.failure = none)
    (grants : ∀ request, session.allocator.grants request = true)
    (offers : Offers session.stream (payload ++ rest)) :
    (session.readChunks size payload.length fun count session =>
        session.readBytes (Bytes.zeros count)).1 = payload ∧
      session.Consumes payload (session.readChunks size payload.length fun count session =>
        session.readBytes (Bytes.zeros count)).2 := by
  obtain ⟨items, consumes⟩ := inChunks_of_offers size 0 0 #[] sound grants (Nat.zero_add _) offers
  have unfailed := hasFailed_eq_false.mpr (consumes.failure_eq.trans sound)
  rw [readChunks_eq_collect, unfailed, if_neg Bool.false_ne_true, items]
  exact ⟨by simp, consumes⟩

/-- Bytes that were read chunk by chunk without failure were delivered. -/
theorem readChunks_consumes {size total : Nat}
    (done : (session.readChunks size total fun count session =>
      session.readBytes (Bytes.zeros count)).2.failure = none) :
    (session.readChunks size total fun count session =>
        session.readBytes (Bytes.zeros count)).1.length = total ∧
      session.Consumes
        (session.readChunks size total fun count session => session.readBytes (Bytes.zeros count)).1
        (session.readChunks size total fun count session =>
          session.readBytes (Bytes.zeros count)).2 := by
  rw [readChunks_eq_collect] at done ⊢
  split at done
  · next failed =>
      rw [hasFailed_eq_false.mpr done] at failed
      cases failed
  · next unfailed =>
      obtain ⟨payload, length, items, consumes⟩ := inChunks_consumes (Nat.zero_le _) done
      rw [if_neg unfailed, items]
      exact ⟨by simpa using length, by simpa using consumes⟩

/-- Reads a length prefix and as many bytes behind it, in chunks. -/
def readCounted (limit : UInt32) (session : Session σ) : Bytes × Session σ :=
  (session.readLength limit).2.readChunks 1 (session.readLength limit).1
    fun count session => session.readBytes (Bytes.zeros count)

theorem readCounted_of_offers {limit : UInt32} {payload rest : Bytes}
    (sound : session.failure = none) (grants : ∀ request, session.allocator.grants request = true)
    (within : payload.length ≤ limit.toNat)
    (offers : Offers session.stream (Bytes.ofNat 4 payload.length ++ (payload ++ rest))) :
    (session.readCounted limit).1 = payload ∧
      session.Consumes (Bytes.ofNat 4 payload.length ++ payload) (session.readCounted limit).2 := by
  obtain ⟨length, opened⟩ := readLength_of_offers sound within offers
  have ahead := opened.offers offers
  obtain ⟨stored, taken⟩ := readChunks_of_offers 1 (opened.failure_eq.trans sound)
    (by rw [opened.allocator_eq]; exact grants) ahead
  rw [readCounted, length]
  exact ⟨stored, opened.trans taken⟩

end Session

end Snapshot
