import Snapshot.Proofs.Grammar
import Snapshot.Proofs.Moves
import Snapshot.Proofs.Supply

/-!
# Reading follows the decoder

What a session reads is what the decoder finds in the bytes ahead of it.  Operations
of a session that follow decoders compose as the decoders do, because a session that
has failed passes through every later operation unchanged.  The chunks in which a
session reads leave no trace: decoding in parts is decoding as a whole.
-/

namespace Snapshot

namespace Session

/-- What does not change while a session reads.  The bytes ahead of the session end at
position `stop`. -/
structure Setting where
  version : UInt32
  limits : Limits
  stop : Nat

variable {σ α β : Type} [ByteStream σ] [Supply σ] {setting : Setting}

/-- A sound session that reads, with memory for whatever it requests and the given
bytes ahead of it. -/
structure Faces (setting : Setting) (session : Session σ) (bytes : Bytes) : Prop where
  sound : session.failure = none
  reading : session.mode = .read
  version_eq : session.version = setting.version
  limits_eq : session.limits = setting.limits
  grants : ∀ size, session.allocator.grants size = true
  supplied : Supply.Supplies session.stream bytes
  stop_eq : session.position + bytes.length = setting.stop

/-- An operation follows a decoder when it yields what the decoder finds in the bytes
ahead and fails as the decoder does. -/
structure Follows (setting : Setting) (act : Session σ → α × Session σ)
    (decoder : Decoder α) : Prop where
  takes : ∀ {session : Session σ} {bytes rest : Bytes} {value : α},
    Faces setting session bytes → decoder bytes = .ok (value, rest) →
      (act session).1 = value ∧ Faces setting (act session).2 rest
  fails : ∀ {session : Session σ} {bytes : Bytes} {failure : Failure},
    Faces setting session bytes → decoder bytes = .error failure →
      (act session).2.failure = some failure
  stays : ∀ {session : Session σ}, session.hasFailed = true → (act session).2 = session

namespace Follows

variable {act : Session σ → α × Session σ} {decoder : Decoder α}

theorem succeed (value : α) :
    Follows setting (fun session : Session σ => (value, session)) (Decoder.succeed value) where
  takes := by
    intro session bytes rest found faces done
    cases done
    exact ⟨rfl, faces⟩
  fails := by
    intro session bytes failure faces failed
    cases failed
  stays := fun _ => rfl

theorem refuse (value : α) (failure : Failure) :
    Follows setting (fun session : Session σ => (value, session.fail failure))
      (Decoder.fail failure) where
  takes := by
    intro session bytes rest found faces done
    cases done
  fails := by
    intro session bytes reason faces failed
    cases failed
    simp [Session.fail, faces.sound]
  stays := fun failed => fail_of_hasFailed failed failure

theorem andThen (front : Follows setting act decoder) {next : α → Session σ → β × Session σ}
    {further : α → Decoder β} (back : ∀ value, Follows setting (next value) (further value)) :
    Follows setting (fun session => next (act session).1 (act session).2)
      (decoder.andThen further) where
  takes := by
    intro session bytes rest value faces done
    obtain ⟨middle, between, first, second⟩ := Decoder.andThen_eq_ok_iff.mp done
    obtain ⟨rfl, reached⟩ := front.takes faces first
    exact (back _).takes reached second
  fails := by
    intro session bytes failure faces failed
    rcases Decoder.andThen_eq_error_iff.mp failed with early | ⟨middle, between, first, late⟩
    · have failure := front.fails faces early
      rw [(back _).stays (hasFailed_of_failure failure)]
      exact failure
    · obtain ⟨rfl, reached⟩ := front.takes faces first
      exact (back _).fails reached late
  stays := by
    intro session failed
    have unmoved := front.stays failed
    rw [(back _).stays (by rw [unmoved]; exact failed), unmoved]

theorem map (follows : Follows setting act decoder) (change : α → β) :
    Follows setting (fun session => (change (act session).1, (act session).2))
      (decoder.map change) :=
  follows.andThen fun value => succeed (change value)

theorem congr {act' : Session σ → α × Session σ} {decoder' : Decoder α}
    (follows : Follows setting act decoder) (acts : ∀ session, act session = act' session)
    (decodes : decoder = decoder') : Follows setting act' decoder' := by
  obtain rfl : act = act' := funext acts
  rw [← decodes]
  exact follows

end Follows

/-! ## Bytes and lengths -/

theorem readBytes_follows {buffer : Bytes} {count : Nat} (size : buffer.length = count) :
    Follows setting (fun session : Session σ => session.readBytes buffer)
      (Decoder.bytes count) where
  takes := by
    intro session bytes rest value faces done
    subst size
    rw [Decoder.bytes_eq] at done
    split at done
    · next enough =>
        cases done
        obtain ⟨delivered, supplied, moved⟩ := Supply.read_of_le faces.supplied enough
        have unfailed : ¬session.hasFailed = true := by simp [hasFailed, faces.sound]
        rw [readBytes, if_neg unfailed, withStream_eq, delivered]
        refine ⟨Delivery.onto_of_length_eq (by simp [Delivery.full, enough]), ?_⟩
        have stop := faces.stop_eq
        refine ⟨faces.sound, faces.reading, faces.version_eq, faces.limits_eq, faces.grants,
          supplied, ?_⟩
        change ByteStream.position (ByteStream.read buffer.length session.stream).2 + _ = _
        rw [moved, ← stop, List.length_drop, position]
        omega
    · cases done
  fails := by
    intro session bytes failure faces failed
    subst size
    rw [Decoder.bytes_eq] at failed
    split at failed
    · cases failed
    · next short =>
        cases failed
        have delivered := Supply.read_of_lt faces.supplied (Nat.lt_of_not_le short)
        have unfailed : ¬session.hasFailed = true := by simp [hasFailed, faces.sound]
        rw [readBytes, if_neg unfailed, withStream_eq, delivered]
        simp [Delivery.failed, Session.fail, faces.sound]
  stays := by
    intro session failed
    rw [readBytes_of_hasFailed failed]

/-- A truth value is read like a byte string of length one. -/
theorem readFlag_eq (session : Session σ) :
    session.readFlag =
      ((session.readBytes [0]).1.headD 0 != 0, (session.readBytes [0]).2) := by
  by_cases failed : session.hasFailed = true
  · rw [readFlag_of_hasFailed failed, readBytes_of_hasFailed failed]
    rfl
  · have complete := ByteStream.length_read 1 session.stream
    rw [readFlag, if_neg failed, readBytes, if_neg failed, withStream_eq, withStream_eq,
      Supply.readByte_eq]
    simp only [List.length_cons, List.length_nil, Nat.zero_add]
    cases faulted : (ByteStream.read 1 session.stream).1.fault with
    | none =>
        have whole : (ByteStream.read 1 session.stream).1.onto [0] =
            (ByteStream.read 1 session.stream).1.bytes :=
          Delivery.onto_of_length_eq (complete faulted)
        simp [Delivery.byte, faulted, whole]
    | some fault => simp [Delivery.byte, faulted, Bytes.zeros]

theorem readFlag_follows :
    Follows setting (fun session : Session σ => session.readFlag)
      ((Decoder.bytes 1).map fun stored => stored.headD 0 != 0) := by
  have front : Follows setting (fun session : Session σ => session.readBytes [0])
      (Decoder.bytes 1) := readBytes_follows rfl
  refine (front.map fun stored => stored.headD 0 != 0).congr ?_ rfl
  intro session
  exact (readFlag_eq session).symm

theorem readLength_follows (limit : UInt32) :
    Follows setting (fun session : Session σ => session.readLength limit)
      (Decoder.length limit) := by
  have back : ∀ stored : Bytes, Follows setting (fun session : Session σ =>
      if limit.toNat < Bytes.toNat stored then
        (0, session.fail (.lengthLimit (Bytes.toNat stored) limit.toNat))
      else
        (Bytes.toNat stored, session)) (Decoder.within limit (Bytes.toNat stored)) := by
    intro stored
    unfold Decoder.within
    split
    · exact .refuse 0 _
    · exact .succeed _
  exact (readBytes_follows (Bytes.length_zeros 4)).andThen back

/-- What follows the decoder of a part follows it behind the length of the part. -/
theorem Follows.afterLength (limit : UInt32) {next : Nat → Session σ → β × Session σ}
    {further : Nat → Decoder β} (back : ∀ length, Follows setting (next length) (further length)) :
    Follows setting (fun session : Session σ =>
      next (session.readLength limit).1 (session.readLength limit).2)
      ((Decoder.length limit).andThen further) :=
  (readLength_follows limit).andThen back

/-! ## Chunks -/

/-- With memory for it, the next chunk is filled. -/
theorem exists_inChunks_eq {session : Session σ} {bytes : Bytes}
    (faces : Faces setting session bytes) {size total held : Nat} (more : held < total)
    (fill : Nat → β → Session σ → β × Session σ) (capacity : Nat) (collected : β) :
    ∃ room, session.inChunks size total fill held capacity collected =
      (fill (min (chunkLength size) (total - held)) collected session).2.inChunks size total fill
        (held + min (chunkLength size) (total - held)) room
        (fill (min (chunkLength size) (total - held)) collected session).1 := by
  have sound : session.hasFailed = false := by simp [faces.sound]
  obtain ⟨room, reserved⟩ := Allocator.exists_reserve? faces.grants size capacity
    (held + min (chunkLength size) (total - held))
  refine ⟨room, ?_⟩
  rw [inChunks, if_pos ⟨more, sound⟩]
  simp only [reserved]

/-- Chunk after chunk follows the decoder of the whole, if each chunk follows the decoder
of its part. -/
theorem inChunks_follows {fill : Nat → β → Session σ → β × Session σ}
    (pieces : Nat → β → Decoder β)
    (zero : ∀ collected, pieces 0 collected = .succeed collected)
    (add : ∀ first second collected, pieces (first + second) collected =
      (pieces first collected).andThen (pieces second))
    (fills : ∀ count collected, Follows setting (fill count collected) (pieces count collected))
    (size total held capacity : Nat) (collected : β) :
    Follows setting (inChunks size total fill held capacity collected)
      (pieces (total - held) collected) := by
  induction left : total - held using Nat.strongRecOn generalizing held capacity collected with
  | ind left ih =>
      subst left
      by_cases more : held < total
      · -- One chunk, and by induction the chunks after it.
        have some_element := chunkLength_pos size
        have fewer : total - (held + min (chunkLength size) (total - held)) < total - held := by
          omega
        have whole : total - held = min (chunkLength size) (total - held) +
            (total - (held + min (chunkLength size) (total - held))) := by
          omega
        have split := add (min (chunkLength size) (total - held))
          (total - (held + min (chunkLength size) (total - held))) collected
        rw [← whole] at split
        have later := fun room => (fills (min (chunkLength size) (total - held)) collected).andThen
          fun collected => ih _ fewer
            (held + min (chunkLength size) (total - held)) room collected rfl
        constructor
        · intro session bytes rest value faces done
          obtain ⟨room, step⟩ := exists_inChunks_eq faces more fill capacity collected
          rw [split] at done
          rw [step]
          exact (later room).takes faces done
        · intro session bytes failure faces failed
          obtain ⟨room, step⟩ := exists_inChunks_eq faces more fill capacity collected
          rw [split] at failed
          rw [step]
          exact (later room).fails faces failed
        · intro session failed
          rw [inChunks_of_hasFailed failed]
      · have nothing : total - held = 0 := by omega
        rw [nothing, zero]
        refine (Follows.succeed collected).congr ?_ rfl
        intro session
        rw [inChunks, if_neg (fun both => more both.1)]

theorem readChunks_follows {pieces : Nat → Decoder (List α)}
    (additive : Decoder.IsAdditive pieces) {readChunk : Nat → Session σ → List α × Session σ}
    (reads : ∀ count, Follows setting (readChunk count) (pieces count)) (size total : Nat) :
    Follows setting (readChunks size total readChunk) (pieces total) := by
  have collects : Follows setting
      (inChunks size total (fun count (collected : Array α) session =>
        (collected ++ (readChunk count session).1, (readChunk count session).2)) 0 0 #[])
      ((pieces total).map fun (items : List α) => (#[] : Array α) ++ items) := by
    refine inChunks_follows (fun count (collected : Array α) =>
        (pieces count).map fun (items : List α) => collected ++ items)
      ?_ ?_ ?_ size total 0 0 #[]
    · intro collected
      simp [additive.zero]
    · intro first second collected
      have regroup : ∀ front back : List α, collected ++ (front ++ back) = collected ++ front ++ back :=
        fun front back => Array.ext' (by simp)
      simp only [additive.add, Decoder.andThen_map, Decoder.map_andThen, Decoder.map_map, regroup]
    · intro count collected
      exact (reads count).map fun (items : List α) => collected ++ items
  constructor
  · intro session bytes rest value faces done
    obtain ⟨items, reached⟩ := collects.takes faces (Decoder.map_of_ok done)
    have unfailed : ¬(session.inChunks size total (fun count (collected : Array α) session =>
        (collected ++ (readChunk count session).1, (readChunk count session).2)) 0 0 #[]).2.hasFailed
          = true := by
      simp [hasFailed, reached.sound]
    rw [readChunks_eq]
    dsimp only
    rw [if_neg unfailed, items]
    exact ⟨by simp, reached⟩
  · intro session bytes failure faces failed
    have failure := collects.fails faces (Decoder.map_eq_error_iff.mpr failed)
    rw [readChunks_eq]
    dsimp only
    rw [if_pos (hasFailed_of_failure failure)]
    exact failure
  · intro session failed
    rw [readChunks_of_hasFailed failed]

theorem skip_follows (count : Nat) :
    Follows setting (fun session : Session σ => ((), session.skip count))
      ((Decoder.bytes count).map fun _ => ()) := by
  induction count using Nat.strongRecOn with
  | ind count ih =>
      by_cases more : 0 < count
      · have whole : count = min count 64 + (count - min count 64) := by omega
        have split := Decoder.bytes_isAdditive.add (min count 64) (count - min count 64)
        rw [← whole] at split
        have front : Follows setting
            (fun session : Session σ => session.readBytes (Bytes.zeros (min count 64)))
            (Decoder.bytes (min count 64)) := readBytes_follows (Bytes.length_zeros _)
        have later := front.andThen fun _ => ih (count - min count 64) (by omega)
        have decodes : ((Decoder.bytes count).map fun _ => ()) =
            (Decoder.bytes (min count 64)).andThen fun _ =>
              (Decoder.bytes (count - min count 64)).map fun _ => () := by
          simp only [split, Decoder.andThen_map, Decoder.map_map]
        rw [decodes]
        constructor
        · intro session bytes rest value faces done
          rw [skip, if_pos ⟨more, by simp [faces.sound]⟩]
          exact later.takes faces done
        · intro session bytes failure faces failed
          rw [skip, if_pos ⟨more, by simp [faces.sound]⟩]
          exact later.fails faces failed
        · intro session failed
          exact skip_of_hasFailed failed count
      · obtain rfl : count = 0 := by omega
        refine (Follows.succeed ()).congr ?_ ?_
        · intro session
          rw [skip, if_neg (by simp)]
        · rw [Decoder.bytes_isAdditive.zero, Decoder.map_succeed]

theorem each_follows {γ : Type} {act : α → Session σ → γ × Session σ} {decoder : Decoder γ}
    (acts : ∀ item, Follows setting (act item) decoder) (items : List α) :
    Follows setting (each act items) (Decoder.times decoder items.length) := by
  induction items with
  | nil => exact .succeed []
  | cons item items ih =>
      refine ((acts item).andThen fun first => ih.map (first :: ·)).congr ?_ ?_
      · intro session
        rw [each_cons]
      · rw [List.length_cons, Decoder.times_succ]

theorem eachFixed_follows {γ : Type} {length : Nat} {act : α → Session σ → γ × Session σ}
    {decoder : Decoder γ} (acts : ∀ item, Follows setting (act item) decoder)
    (items : Fixed α length) :
    Follows setting (eachFixed act items) (Decoder.fixed decoder length) := by
  have list := each_follows acts items.items
  rw [items.length_eq] at list
  constructor
  · intro session bytes rest value faces done
    obtain ⟨same, reached⟩ := list.takes faces (Decoder.map_of_ok done)
    exact ⟨Fixed.ext same, reached⟩
  · intro session bytes failure faces failed
    exact list.fails faces (Decoder.map_eq_error_iff.mpr failed)
  · intro session failed
    exact list.stays failed

end Session

end Snapshot
