import Mathlib.Data.List.Chain
import Snapshot.Proofs.Coupling
import Snapshot.Stream.Memory

/-!
# The chunked read loop

A vector is filled chunk by chunk through a callback, which may fail the session at any call,
with memory that may be refused at any chunk.  To speak of the calls and of the requests that were
granted for them, the loop is run with a callback that notes both; this changes nothing of what is
read.  The calls made on the way to a session are a relation that grows at its end, and what holds
of the calls of every reading is shown along it: they are on consecutive ranges from the first
element on, all but the last of full length, all but the last leave the session unfailed, and the
memory for each was granted before it was made, at the room that the request before it had left.
The loop ends where no call can follow: with all elements read, by a failure of the last chunk, or
by the request for one more chunk being refused.
-/

namespace Snapshot

variable {σ α : Type}

/-- One use of the callback that reads a chunk: it is handed the `count` elements of the vector
from `start` on, in the session `before`, and leaves the session `after`.  Before it, memory for
these elements was requested while the vector had `room`. -/
structure ChunkCall (σ : Type) where
  start : Nat
  count : Nat
  room : Nat
  /-- The room that the request led to, or that it was refused. -/
  answer : Option Nat
  before : Session σ
  after : Session σ

namespace ChunkCall

/-- How many elements were created for the calls: each chunk is made up of blank elements before
the callback is handed it. -/
def created : List (ChunkCall σ) → Nat
  | [] => 0
  | call :: calls => call.count + created calls

/-- How many of these elements were read: the ones of the chunks that did not fail. -/
def delivered (calls : List (ChunkCall σ)) : Nat :=
  created (calls.filter (·.after.failure.isNone))

/-- The places of the vector that the calls were handed, in order. -/
def places (calls : List (ChunkCall σ)) : List Nat :=
  calls.flatMap fun call => List.range' call.start call.count

/-- What the calls read, in order. -/
def chunks (readChunk : Nat → Session σ → List α × Session σ) (calls : List (ChunkCall σ)) :
    List α :=
  calls.flatMap fun call => (readChunk call.count call.before).1

/-- The room of the vector behind the calls, if it had `room` in front of them. -/
def roomBehind (room : Nat) (calls : List (ChunkCall σ)) : Nat :=
  calls.foldl (fun room call => call.answer.getD room) room

/-- The session behind the calls, if it was `first` in front of them. -/
def reached (first : Session σ) (calls : List (ChunkCall σ)) : Session σ :=
  calls.foldl (fun _ call => call.after) first

@[simp] theorem created_snoc (calls : List (ChunkCall σ)) (call : ChunkCall σ) :
    created (calls ++ [call]) = created calls + call.count := by
  induction calls with
  | nil => simp [created]
  | cons first calls ih => rw [List.cons_append, created, ih, created, Nat.add_assoc]

theorem delivered_snoc (calls : List (ChunkCall σ)) (call : ChunkCall σ) :
    delivered (calls ++ [call]) =
      delivered calls + if call.after.failure = none then call.count else 0 := by
  cases failure : call.after.failure with
  | none => simp [delivered, failure]
  | some failure => simp [delivered, failure]

@[simp] theorem places_snoc (calls : List (ChunkCall σ)) (call : ChunkCall σ) :
    places (calls ++ [call]) = places calls ++ List.range' call.start call.count := by
  simp [places]

@[simp] theorem chunks_snoc (readChunk : Nat → Session σ → List α × Session σ)
    (calls : List (ChunkCall σ)) (call : ChunkCall σ) :
    chunks readChunk (calls ++ [call]) =
      chunks readChunk calls ++ (readChunk call.count call.before).1 := by
  simp [chunks]

@[simp] theorem roomBehind_snoc (room : Nat) (calls : List (ChunkCall σ)) (call : ChunkCall σ) :
    roomBehind room (calls ++ [call]) = call.answer.getD (roomBehind room calls) := by
  simp [roomBehind]

@[simp] theorem reached_snoc (first : Session σ) (calls : List (ChunkCall σ))
    (call : ChunkCall σ) : reached first (calls ++ [call]) = call.after := by
  simp [reached]

end ChunkCall

namespace Session

open ChunkCall

/-- Reads a chunk and notes the call, with the request for its memory. -/
def noteCall (size room : Nat) (readChunk : Nat → Session σ → List α × Session σ) (count : Nat)
    (noted : Array α × List (ChunkCall σ)) (session : Session σ) :
    (Array α × List (ChunkCall σ)) × Session σ :=
  let now := roomBehind room noted.2
  match readChunk count session with
  | (chunk, after) =>
      ((noted.1 ++ chunk,
        noted.2 ++ [⟨noted.1.size, count, now,
          session.allocator.reserve? size now (noted.1.size + count), session, after⟩]), after)

/-- The calls that are made while `total` elements are read into a vector with room for `room` of
them. -/
def chunkCalls (size total : Nat) (readChunk : Nat → Session σ → List α × Session σ)
    (room : Nat) (session : Session σ) : List (ChunkCall σ) :=
  (session.inChunks size total (noteCall size room readChunk) 0 room (#[], [])).1.2

/-- Noting the calls changes nothing of what is read. -/
theorem inChunks_noteCall (size total first : Nat)
    (readChunk : Nat → Session σ → List α × Session σ) (held capacity : Nat)
    (noted : Array α × List (ChunkCall σ)) (session : Session σ) :
    session.inChunks size total
        (fun count (collected : Array α) session =>
          match readChunk count session with
          | (chunk, session) => (collected ++ chunk, session)) held capacity noted.1 =
      ((session.inChunks size total (noteCall size first readChunk) held capacity noted).1.1,
        (session.inChunks size total (noteCall size first readChunk) held capacity noted).2) :=
  Coupling.inChunks_view Prod.fst (fun _ _ _ => rfl) size total held capacity noted session

theorem refillChunks_eq (size total : Nat)
    (readChunk : Nat → Session σ → List α × Session σ) (old : Array α) (room : Nat)
    (session : Session σ) :
    session.refillChunks size total readChunk old room =
      if (session.inChunks size total (noteCall size room readChunk) 0 room (#[], [])).2.hasFailed
      then ([], (session.inChunks size total (noteCall size room readChunk) 0 room (#[], [])).2)
      else
        ((session.inChunks size total (noteCall size room readChunk) 0 room (#[], [])).1.1.toList,
          (session.inChunks size total (noteCall size room readChunk) 0 room (#[], [])).2) := by
  have cleared : old.take 0 = #[] := by simp
  unfold refillChunks
  rw [cleared, inChunks_noteCall size total room readChunk 0 room (#[], [])]

/-! ## The calls on the way to a session -/

/-- `calls` have been made on the way from `first` to a session, and `items` are what they read.
A chunk is read where the session has not failed, something is left to be read, and the memory
for it is granted. -/
inductive ChunkRun (size total room : Nat) (readChunk : Nat → Session σ → List α × Session σ)
    (first : Session σ) : List (ChunkCall σ) → List α → Session σ → Prop
  | start : ChunkRun size total room readChunk first [] [] first
  | read {calls : List (ChunkCall σ)} {items chunk : List α} {now after : Session σ}
      {count next : Nat}
      (earlier : ChunkRun size total room readChunk first calls items now)
      (sound : now.failure = none) (more : items.length < total)
      (count_eq : count = min (chunkLength size) (total - items.length))
      (granted : now.allocator.reserve? size (roomBehind room calls) (items.length + count) =
        some next)
      (answer : readChunk count now = (chunk, after)) (length_eq : chunk.length = count) :
      ChunkRun size total room readChunk first
        (calls ++ [⟨items.length, count, roomBehind room calls, some next, now, after⟩])
        (items ++ chunk) after

/-- How the loop stops that has read `items` into a vector with room for `room` of them and has
reached a session.  If it would go on, it asks for memory for the next chunk, and it is refused. -/
structure ChunksStop (size total room : Nat) (items : List α) (reached final : Session σ) :
    Prop where
  ended : reached.failure = none → total ≤ items.length → final = reached
  failed : reached.failure ≠ none → final = reached
  refused : reached.failure = none → items.length < total →
    reached.allocator.reserve? size room
        (items.length + min (chunkLength size) (total - items.length)) = none ∧
      final = { reached with failure := some (.outOfMemory total) }

section Run

variable {size total room : Nat} {readChunk : Nat → Session σ → List α × Session σ}
  {first now : Session σ} {calls : List (ChunkCall σ)} {items : List α}

variable (size total room) in
/-- From every session that it reaches the loop goes on until it stops. -/
theorem ChunkRun.inChunks (fills : ∀ count session, (readChunk count session).1.length = count)
    (held capacity : Nat) (noted : Array α × List (ChunkCall σ)) (session : Session σ)
    (run : ChunkRun size total room readChunk first noted.2 noted.1.toList session)
    (held_eq : held = noted.1.size) (capacity_eq : capacity = roomBehind room noted.2) :
    let final := session.inChunks size total (noteCall size room readChunk) held capacity noted
    ∃ reached, ChunkRun size total room readChunk first final.1.2 final.1.1.toList reached ∧
      ChunksStop size total (roomBehind room final.1.2) final.1.1.toList reached final.2 := by
  -- The loop carries its own count and capacity; along the run both are the ones that are noted.
  fun_induction Session.inChunks size total (noteCall size room readChunk) held capacity noted
    session with
  | case1 held capacity noted session more count refused =>
      subst held_eq capacity_eq
      have sound := hasFailed_eq_false.mp more.2
      refine ⟨session, run, ?_, ?_, ?_⟩
      · intro _ complete
        exact absurd more.1 (Nat.not_lt_of_le complete)
      · intro failed
        exact absurd sound failed
      · intro _ _
        exact ⟨refused, fail_of_sound sound _⟩
  | case2 held capacity noted session more count next granted collected session' filled ih =>
      subst held_eq capacity_eq
      have sound := hasFailed_eq_false.mp more.2
      have noted_eq : (collected, session') =
          ((noted.1 ++ (readChunk count session).1,
            noted.2 ++ [⟨noted.1.size, count, roomBehind room noted.2, some next, session,
              (readChunk count session).2⟩]), (readChunk count session).2) := by
        rw [← filled, ← granted]
        rfl
      cases noted_eq
      apply ih
      · dsimp only
        rw [Array.toList_appendList]
        exact .read run sound more.1 rfl granted rfl (fills _ _)
      · symm
        change (noted.1 ++ (readChunk count session).1).size = noted.1.size + count
        rw [← Array.length_toList, Array.toList_appendList, List.length_append, fills,
          Array.length_toList]
      · rw [roomBehind_snoc]
        rfl
  | case3 held capacity noted session ended =>
      subst held_eq
      refine ⟨session, run, fun _ _ => rfl, fun _ => rfl, ?_⟩
      intro sound more
      exact absurd ⟨more, hasFailed_eq_false.mpr sound⟩ ended

namespace ChunkRun

/-- Every call is made in a session that has not failed, on as many elements as make a chunk or
are left, for which memory was granted, and leaves the session where the callback does. -/
theorem of_mem (run : ChunkRun size total room readChunk first calls items now) :
    ∀ call ∈ calls, call.before.failure = none ∧
      (readChunk call.count call.before).2 = call.after ∧ call.start < total ∧
        call.count = min (chunkLength size) (total - call.start) ∧
          ∃ next, call.answer = some next ∧
            call.before.allocator.reserve? size call.room (call.start + call.count) =
              some next := by
  induction run with
  | start =>
      intro call member
      cases member
  | read earlier sound more count_eq granted answer length_eq ih =>
      intro call member
      rcases List.mem_append.mp member with member | member
      · exact ih call member
      · cases List.mem_singleton.mp member
        exact ⟨sound, by rw [answer], more, count_eq, _, rfl, granted⟩

theorem items_eq (run : ChunkRun size total room readChunk first calls items now) :
    items = chunks readChunk calls := by
  induction run with
  | start => rfl
  | read earlier sound more count_eq granted answer length_eq ih => rw [chunks_snoc, ← ih, answer]

theorem head (run : ChunkRun size total room readChunk first calls items now) :
    ∀ call ∈ calls.head?, call.start = 0 ∧ call.room = room ∧ call.before = first := by
  induction run with
  | start =>
      intro call member
      cases member
  | read earlier sound more count_eq granted answer length_eq ih =>
      intro call member
      cases earlier with
      | start =>
          cases member
          exact ⟨rfl, rfl, rfl⟩
      | read => exact ih call (by simpa using member)

theorem now_eq (run : ChunkRun size total room readChunk first calls items now) :
    now = reached first calls := by
  cases run with
  | start => rfl
  | read => simp

/-- The elements that were created are the ones that the vector holds. -/
theorem created_eq (run : ChunkRun size total room readChunk first calls items now) :
    created calls = items.length := by
  induction run with
  | start => rfl
  | read earlier sound more count_eq granted answer length_eq ih =>
      rw [created_snoc, ih, List.length_append, length_eq]

theorem length_le (run : ChunkRun size total room readChunk first calls items now) :
    items.length ≤ total := by
  cases run with
  | start => exact Nat.zero_le total
  | read earlier sound more count_eq granted answer length_eq =>
      rw [List.length_append, length_eq]
      omega

/-- The calls are on all the places of the vector, each once and in order. -/
theorem places_eq (run : ChunkRun size total room readChunk first calls items now) :
    places calls = List.range items.length := by
  induction run with
  | start => rfl
  | read earlier sound more count_eq granted answer length_eq ih =>
      rw [places_snoc, ih, List.range_eq_range', List.range_eq_range', List.length_append, length_eq,
        ← List.range'_append_1, Nat.zero_add]

/-- The last call is on the last elements of the vector, and the vector has the room that was
granted for it. -/
theorem last (run : ChunkRun size total room readChunk first calls items now) :
    ∀ call ∈ calls.getLast?, call.start + call.count = items.length ∧
      call.answer = some (roomBehind room calls) ∧ call.after = now := by
  intro call member
  cases run with
  | start => cases member
  | read earlier sound more count_eq granted answer length_eq =>
      rw [List.getLast?_concat] at member
      cases member
      rw [List.length_append, length_eq, roomBehind_snoc]
      exact ⟨rfl, rfl, rfl⟩

/-- A call is followed by another one only if its chunk was full and did not fail. -/
theorem chain (run : ChunkRun size total room readChunk first calls items now) :
    calls.IsChain fun call next =>
      (call.count = chunkLength size ∧ call.after.failure = none) ∧
        next.start = call.start + call.count ∧ call.answer = some next.room ∧
          next.before = call.after := by
  induction run with
  | start => exact .nil
  | read earlier sound more count_eq granted answer length_eq ih =>
      refine List.isChain_append.mpr ⟨ih, .singleton _, ?_⟩
      intro call last next follows
      cases follows
      obtain ⟨reach, room, after⟩ := earlier.last call last
      obtain ⟨-, -, -, full, -⟩ := earlier.of_mem call (List.mem_of_getLast? last)
      refine ⟨⟨by omega, ?_⟩, reach.symm, room, after.symm⟩
      rw [after]
      exact sound

/-- While the session has not failed, all the elements that were created were read. -/
theorem delivered_eq (run : ChunkRun size total room readChunk first calls items now)
    (sound : now.failure = none) : delivered calls = created calls := by
  induction run with
  | start => rfl
  | read earlier sound' more count_eq granted answer length_eq ih =>
      rw [delivered_snoc, created_snoc, ih sound', if_pos sound]

/-- At most one chunk of elements was created beyond the ones that were read. -/
theorem created_le (run : ChunkRun size total room readChunk first calls items now) :
    created calls ≤ delivered calls + chunkLength size := by
  cases run with
  | start => exact Nat.zero_le _
  | read earlier sound more count_eq granted answer length_eq =>
      rw [delivered_snoc, created_snoc, earlier.delivered_eq sound]
      dsimp only
      omega

/-- There are no more calls than chunks. -/
theorem length_calls (run : ChunkRun size total room readChunk first calls items now) :
    calls.length * chunkLength size < items.length + chunkLength size ∧
      (items.length < total → calls.length * chunkLength size = items.length) := by
  induction run with
  | start => simp [chunkLength_pos]
  | read earlier sound more count_eq granted answer length_eq ih =>
      have positive := chunkLength_pos size
      have full := ih.2 more
      rw [List.length_append, List.length_append, length_eq, List.length_singleton, Nat.add_mul, full]
      omega

end ChunkRun

end Run

/-! ## What the vector holds in the end -/

/-- What a reading of `total` elements in chunks does: `calls` are the uses of its callback, and
`outcome` is what the vector holds in the end and the session. -/
structure ReadsInChunks (size total room : Nat)
    (readChunk : Nat → Session σ → List α × Session σ) (first : Session σ)
    (calls : List (ChunkCall σ)) (outcome : List α × Session σ) : Prop where
  answered : ∀ call ∈ calls, (readChunk call.count call.before).2 = call.after
  begins : ∀ call ∈ calls.head?, call.start = 0 ∧ call.room = room ∧ call.before = first
  consecutive : calls.IsChain fun call next =>
    next.start = call.start + call.count ∧ call.answer = some next.room ∧
      next.before = call.after
  full_but_last : calls.IsChain fun call _ => call.count = max 1 (65536 / max 1 size)
  sized : ∀ call ∈ calls, 1 ≤ call.count ∧ call.count ≤ max 1 (65536 / max 1 size)
  unfailed_before : ∀ call ∈ calls, call.before.failure = none
  unfailed_but_last : calls.IsChain fun call _ => call.after.failure = none
  /-- No element is created and no chunk is requested unless the memory for it was granted, at the
  room that the vector has, which then has room for the chunk. -/
  granted : ∀ call ∈ calls, ∃ next, call.answer = some next ∧
    call.before.allocator.reserve? size call.room (call.start + call.count) = some next ∧
      (size ≠ 0 → call.start + call.count ≤ next)
  once_in_order : places calls = List.range (created calls)
  within : created calls ≤ total
  bounded : created calls ≤ delivered calls + max 1 (65536 / max 1 size)
  few_calls : calls.length * max 1 (65536 / max 1 size) < total + max 1 (65536 / max 1 size)
  /-- With all elements created and no failure, the vector holds what the calls read. -/
  whole : (reached first calls).failure = none → created calls = total →
    outcome = (chunks readChunk calls, reached first calls) ∧ outcome.1.length = total
  /-- A chunk that failed ends the reading.  Its failure is the one of the session. -/
  failed : (reached first calls).failure ≠ none → outcome = ([], reached first calls)
  /-- Before all elements are created, and without the failure of a chunk, the reading ends only
  where the memory for the next chunk is refused, at the room that the last request has led to.
  Then nothing is read any more: the session fails for lack of memory for all the elements, and is
  otherwise as the last chunk left it. -/
  refused : (reached first calls).failure = none → created calls < total →
    (reached first calls).allocator.reserve? size (roomBehind room calls)
        (created calls + min (max 1 (65536 / max 1 size)) (total - created calls)) = none ∧
      outcome = ([], { reached first calls with failure := some (.outOfMemory total) })

/-- Whatever the vector held and had room for, and whatever the callback does to the session and
the allocator refuses, a vector is read in chunks on consecutive places from the first one on.
Each chunk has at least one element and at most as many as the chunk size allows for, and all but
the last have that many.  The memory for each is granted before it is read, at the room that the
vector then has.  After a chunk that failed, or memory that was refused, no element is created and
nothing is read: then the vector is empty, and otherwise the chunks are the whole vector. -/
theorem reads_in_chunks (size total : Nat)
    (readChunk : Nat → Session σ → List α × Session σ) (old : Array α) (room : Nat)
    (session : Session σ)
    (fills : ∀ count session, (readChunk count session).1.length = count) :
    ReadsInChunks size total room readChunk session
      (session.chunkCalls size total readChunk room)
      (session.refillChunks size total readChunk old room) := by
  obtain ⟨last, run, stop⟩ := ChunkRun.inChunks size total room fills 0 room (#[], []) session
    .start rfl rfl
  rw [refillChunks_eq]
  unfold chunkCalls
  generalize session.inChunks size total (noteCall size room readChunk) 0 room (#[], []) = noted
    at run stop ⊢
  have created_eq := run.created_eq
  have length_le := run.length_le
  have positive := chunkLength_pos size
  rw [run.now_eq] at stop
  exact {
    answered := by
      intro call member
      exact (run.of_mem call member).2.1
    begins := run.head
    consecutive := run.chain.imp fun _ _ follows => follows.2
    full_but_last := run.chain.imp fun _ _ follows => follows.1.1
    sized := by
      intro call member
      obtain ⟨-, -, more, count_eq, -⟩ := run.of_mem call member
      change 1 ≤ call.count ∧ call.count ≤ chunkLength size
      omega
    unfailed_before := by
      intro call member
      exact (run.of_mem call member).1
    unfailed_but_last := run.chain.imp fun _ _ follows => follows.1.2
    granted := by
      intro call member
      obtain ⟨-, -, -, -, next, answer, granted⟩ := run.of_mem call member
      exact ⟨next, answer, granted, fun sized => Allocator.le_of_reserve?_eq_some sized granted⟩
    once_in_order := by
      rw [run.places_eq, created_eq]
    within := by
      rw [created_eq]
      exact length_le
    bounded := run.created_le
    few_calls := by
      obtain ⟨few, -⟩ := run.length_calls
      exact Nat.lt_of_lt_of_le few (Nat.add_le_add_right length_le _)
    whole := by
      intro sound complete
      have length_eq := created_eq.symm.trans complete
      rw [stop.ended sound (Nat.le_of_eq length_eq.symm), if_neg (by simp [hasFailed, sound]),
        ← run.items_eq]
      exact ⟨rfl, length_eq⟩
    failed := by
      intro failed
      have broken : (reached session noted.1.2).hasFailed = true :=
        Option.isSome_iff_ne_none.mpr failed
      rw [stop.failed failed, if_pos broken]
    refused := by
      intro sound more
      rw [created_eq] at more ⊢
      obtain ⟨refusal, final⟩ := stop.refused sound more
      refine ⟨refusal, ?_⟩
      rw [final, if_pos (by simp [hasFailed])] }

/-- Chunks of four elements.  The second chunk finds only two bytes left, or there is no memory for
it, since eight elements take up more than the allocator grants. -/
theorem reads_in_chunks_up_to_the_end :
    let readChunk : Nat → Session Memory → Bytes × Session Memory :=
      fun count session => session.readBytes (Bytes.zeros count)
    let session := start .unbounded (Memory.ofBytes [1, 2, 3, 4, 5, 6]) .read 1 .standard
    let frugal := start (.below 100000) (Memory.ofBytes [1, 2, 3, 4, 5, 6]) .read 1 .standard
    let calls := session.chunkCalls 16384 10 readChunk 2
    let outcome := session.refillChunks 16384 10 readChunk #[7, 8, 9] 2
    let few := frugal.chunkCalls 16384 10 readChunk 2
    let refused := frugal.refillChunks 16384 10 readChunk #[7, 8, 9] 2
    (∀ count session, (readChunk count session).1.length = count) ∧
    (ReadsInChunks 16384 10 2 readChunk session calls outcome ∧
      (calls.map fun call => (call.start, call.count)) = [(0, 4), (4, 4)] ∧
      (calls.map fun call => (call.room, call.answer)) = [(2, some 4), (4, some 8)] ∧
      outcome.1 = [] ∧ outcome.2.failure = some (.stream .unexpectedEnd)) ∧
    (few.map fun call => (call.start, call.count)) = [(0, 4)] ∧
      frugal.allocator.reserve? 16384 4 8 = none ∧
      refused = ([], { reached frugal few with failure := some (.outOfMemory 10) }) ∧
      refused.2.position = 4 := by
  intro readChunk session frugal calls outcome few refused
  have fills : ∀ count session, (readChunk count session).1.length = count := by
    intro count session
    simp [readChunk]
  have sound : (reached frugal few).failure = none := by decide +kernel
  have missing : created few < 10 := by decide +kernel
  obtain ⟨-, ended⟩ :=
    (reads_in_chunks 16384 10 readChunk #[7, 8, 9] 2 frugal fills).refused sound missing
  refine ⟨fills, ⟨reads_in_chunks 16384 10 readChunk #[7, 8, 9] 2 session fills, ?_, ?_, ?_, ?_⟩,
    ?_, ?_, ended, ?_⟩
  all_goals decide +kernel

end Session

end Snapshot
