import Snapshot.Session.Basic

/-!
# Reading in chunks

A collection is read in chunks of bounded size, and each chunk is allocated before
it is read.  A corrupt length prefix on a short stream therefore costs one chunk.
Reading stops at the first failure, and then nothing of the collection is kept.
-/

namespace Snapshot

namespace Session

/-- The most bytes that are allocated ahead of the data. -/
def chunkBytes : Nat :=
  65536

/-- How many elements of `size` bytes make a chunk: as many as fit, and at least
one. -/
def chunkLength (size : Nat) : Nat :=
  max 1 (chunkBytes / max 1 size)

theorem chunkLength_pos (size : Nat) : 0 < chunkLength size := by
  simp only [chunkLength]
  omega

variable {σ α β : Type}

/-- Fills chunk after chunk until `total` elements are held or the session fails.
There is room for `capacity` elements, and more is reserved for each chunk before it
is filled.  Each chunk is handed what was collected before it. -/
def inChunks (size total : Nat) (fill : Nat → β → Session σ → β × Session σ)
    (held capacity : Nat) (collected : β) (session : Session σ) : β × Session σ :=
  if held < total ∧ session.hasFailed = false then
    let count := min (chunkLength size) (total - held)
    match session.allocator.reserve? size capacity (held + count) with
    | none => (collected, session.fail (.outOfMemory total))
    | some capacity =>
        match fill count collected session with
        | (collected, session) =>
            inChunks size total fill (held + count) capacity collected session
  else
    (collected, session)
termination_by total - held
decreasing_by
  have some_element := chunkLength_pos size
  omega

theorem inChunks_of_hasFailed {session : Session σ}
    (failed : session.hasFailed = true) (size total : Nat)
    (fill : Nat → β → Session σ → β × Session σ) (held capacity : Nat) (collected : β) :
    session.inChunks size total fill held capacity collected = (collected, session) := by
  rw [inChunks, if_neg (by simp [failed])]

/-- Reads `total` elements of `size` bytes each, chunk by chunk, into a vector that has room for
`room` of them.  What the vector holds is dropped first, and the room for it is kept. -/
def refillChunks (size total : Nat) (readChunk : Nat → Session σ → List α × Session σ)
    (old : Array α) (room : Nat) (session : Session σ) : List α × Session σ :=
  match session.inChunks size total
      (fun count (collected : Array α) session =>
        match readChunk count session with
        | (chunk, session) => (collected ++ chunk, session)) 0 room (old.take 0) with
  | (collected, session) =>
      if session.hasFailed then ([], session) else (collected.toList, session)

/-- Reads a collection into a vector that was never used. -/
def readChunks (size total : Nat) (readChunk : Nat → Session σ → List α × Session σ)
    (session : Session σ) : List α × Session σ :=
  session.refillChunks size total readChunk #[] 0

theorem readChunks_eq (size total : Nat) (readChunk : Nat → Session σ → List α × Session σ)
    (session : Session σ) :
    session.readChunks size total readChunk =
      match session.inChunks size total
          (fun count (collected : Array α) session =>
            match readChunk count session with
            | (chunk, session) => (collected ++ chunk, session)) 0 0 #[] with
      | (collected, session) =>
          if session.hasFailed then ([], session) else (collected.toList, session) :=
  rfl

theorem readChunks_of_hasFailed {session : Session σ}
    (failed : session.hasFailed = true) (size total : Nat)
    (readChunk : Nat → Session σ → List α × Session σ) :
    session.readChunks size total readChunk = ([], session) := by
  rw [readChunks_eq, inChunks_of_hasFailed failed]
  simp [failed]

/-- Applies an operation to each item in order, after those already done. -/
def eachAfter (act : α → Session σ → β × Session σ) :
    List α → Array β → Session σ → List β × Session σ
  | [], done, session => (done.toList, session)
  | item :: items, done, session =>
      match act item session with
      | (result, session) => eachAfter act items (done.push result) session

/-- Applies an operation to each item in order. -/
def each (act : α → Session σ → β × Session σ) (items : List α) (session : Session σ) :
    List β × Session σ :=
  eachAfter act items #[] session

theorem eachAfter_eq (act : α → Session σ → β × Session σ) (items : List α)
    (done : Array β) (session : Session σ) :
    eachAfter act items done session =
      (done.toList ++ (each act items session).1, (each act items session).2) := by
  unfold each
  induction items generalizing done session with
  | nil => simp [eachAfter]
  | cons item items ih =>
      simp only [eachAfter]
      rw [ih, ih (#[].push _)]
      simp

@[simp] theorem each_nil (act : α → Session σ → β × Session σ) (session : Session σ) :
    each act [] session = ([], session) :=
  rfl

@[simp] theorem each_cons (act : α → Session σ → β × Session σ) (item : α)
    (items : List α) (session : Session σ) :
    each act (item :: items) session =
      ((act item session).1 :: (each act items (act item session).2).1,
        (each act items (act item session).2).2) := by
  have split := eachAfter_eq act items (#[].push (act item session).1) (act item session).2
  simpa [each, eachAfter] using split

@[simp] theorem length_each (act : α → Session σ → β × Session σ) (items : List α)
    (session : Session σ) : (each act items session).1.length = items.length := by
  induction items generalizing session with
  | nil => rfl
  | cons item items ih => simp [ih]

variable [ByteStream σ]

/-- Reads and drops `count` bytes, a few at a time. -/
def skip (count : Nat) (session : Session σ) : Session σ :=
  if 0 < count ∧ session.hasFailed = false then
    skip (count - min count 64) (session.readBytes (Bytes.zeros (min count 64))).2
  else
    session
termination_by count
decreasing_by omega

theorem skip_of_hasFailed {session : Session σ} (failed : session.hasFailed = true)
    (count : Nat) : session.skip count = session := by
  rw [skip, if_neg (by simp [failed])]

end Session

end Snapshot
