import Snapshot.Event
import Snapshot.Limits
import Snapshot.Stream.Basic

/-!
# Sessions

A session saves state to a stream or restores state from one.  Its operations
report no failure of their own: the first one is kept, later writes are skipped and
later reads yield zeros, so a routine can run to its end and ask once.  Blocks of
bytes, single bytes and length prefixes are what every other transfer is made of.
-/

namespace Snapshot

/-- Whether a session restores or saves. -/
inductive Mode where
  | read
  | write
  deriving DecidableEq, Repr

/-- A stream in use, with what has been learnt about it so far.  `mismatch` is the
latest marker that was not the expected one. -/
structure Session (σ : Type) where
  stream : σ
  mode : Mode
  version : UInt32
  limits : Limits
  allocator : Allocator
  failure : Option Failure
  mismatch : Option Mismatch
  log : Array Event

namespace Session

variable {σ α : Type}

/-- A session in which nothing has happened yet. -/
def start (allocator : Allocator) (stream : σ) (mode : Mode) (version : UInt32)
    (limits : Limits) : Session σ :=
  ⟨stream, mode, version, limits, allocator, none, none, #[]⟩

def hasFailed (session : Session σ) : Bool :=
  session.failure.isSome

/-- Records a failure, unless an earlier one is on record. -/
def fail (failure : Failure) (session : Session σ) : Session σ :=
  { session with failure := session.failure.or (some failure) }

/-- Fails the session for a reason of the caller's own. -/
def invalidate (reason : String) (session : Session σ) : Session σ :=
  session.fail (.invalid reason)

/-- Adds an entry to the log. -/
def report (event : Event) (session : Session σ) : Session σ :=
  { session with log := session.log.push event }

/-- The outcome of the session: its failure, or else its latest mismatch. -/
def finish (session : Session σ) : Except Failure Unit :=
  match session.failure, session.mismatch with
  | some failure, _ => .error failure
  | none, some mismatch => .error (.markerMismatch mismatch)
  | none, none => .ok ()

/-- Uses the stream directly. -/
def withStream (act : σ → α × σ) : Session σ → α × Session σ
  | ⟨stream, mode, version, limits, allocator, failure, mismatch, log⟩ =>
      match act stream with
      | (answer, stream) =>
          (answer, ⟨stream, mode, version, limits, allocator, failure, mismatch, log⟩)

theorem withStream_eq (act : σ → α × σ) (session : Session σ) :
    session.withStream act =
      ((act session.stream).1, { session with stream := (act session.stream).2 }) :=
  rfl

@[simp] theorem hasFailed_fail (failure : Failure) (session : Session σ) :
    (session.fail failure).hasFailed = true := by
  cases h : session.failure <;> simp [fail, hasFailed, h]

theorem fail_of_hasFailed {session : Session σ} (failed : session.hasFailed = true)
    (failure : Failure) : session.fail failure = session := by
  cases session with
  | mk stream mode version limits allocator first mismatch log =>
      cases first with
      | none => simp [hasFailed] at failed
      | some first => rfl

variable [ByteStream σ]

/-- The position of the stream. -/
def position (session : Session σ) : Nat :=
  ByteStream.position session.stream

/-- Writes bytes, unless the session has failed. -/
def writeBytes (bytes : Bytes) (session : Session σ) : Session σ :=
  if session.hasFailed then
    session
  else
    match session.withStream (ByteStream.write session.allocator bytes) with
    | (.ok (), session) => session
    | (.error fault, session) => session.fail (.stream fault)

/-- Reads into a buffer of known length.  In a failed session, or when this read
fails, every byte of the buffer becomes zero. -/
def readBytes (buffer : Bytes) (session : Session σ) : Bytes × Session σ :=
  if session.hasFailed then
    (Bytes.zeros buffer.length, session)
  else
    match session.withStream (ByteStream.read buffer.length) with
    | (delivery, session) =>
        match delivery.fault with
        | none => (delivery.onto buffer, session)
        | some fault => (Bytes.zeros buffer.length, session.fail (.stream fault))

@[simp] theorem length_readBytes (buffer : Bytes) (session : Session σ) :
    (session.readBytes buffer).1.length = buffer.length := by
  unfold readBytes
  split
  · simp
  · rw [withStream_eq]
    dsimp only
    split
    · exact Delivery.length_onto (ByteStream.length_read_le _ _)
    · simp

/-- Writes one byte for a truth value, unless the session has failed. -/
def writeFlag (flag : Bool) (session : Session σ) : Session σ :=
  if session.hasFailed then
    session
  else
    match session.withStream
        (ByteStream.writeByte session.allocator (if flag then 1 else 0)) with
    | (.ok (), session) => session
    | (.error fault, session) => session.fail (.stream fault)

/-- Reads one byte as a truth value.  Every byte but zero is true; a failed session
yields false. -/
def readFlag (session : Session σ) : Bool × Session σ :=
  if session.hasFailed then
    (false, session)
  else
    match session.withStream ByteStream.readByte with
    | (.ok byte, session) => (byte != 0, session)
    | (.error fault, session) => (false, session.fail (.stream fault))

/-- Writes a length prefix of four bytes.  A length that does not fit fails the
session, and nothing is written. -/
def writeLength (length : Nat) (session : Session σ) : Session σ :=
  if length ≤ Limits.largestLength then
    session.writeBytes (Bytes.ofNat 4 length)
  else
    session.fail (.lengthLimit length Limits.largestLength)

/-- Reads a length prefix.  A length above the limit fails the session and counts
as zero. -/
def readLength (limit : UInt32) (session : Session σ) : Nat × Session σ :=
  match session.readBytes (Bytes.zeros 4) with
  | (bytes, session) =>
      if limit.toNat < Bytes.toNat bytes then
        (0, session.fail (.lengthLimit (Bytes.toNat bytes) limit.toNat))
      else
        (Bytes.toNat bytes, session)

theorem writeBytes_of_hasFailed {session : Session σ} (failed : session.hasFailed = true)
    (bytes : Bytes) : session.writeBytes bytes = session := by
  rw [writeBytes, if_pos failed]

theorem readBytes_of_hasFailed {session : Session σ} (failed : session.hasFailed = true)
    (buffer : Bytes) : session.readBytes buffer = (Bytes.zeros buffer.length, session) := by
  rw [readBytes, if_pos failed]

theorem writeFlag_of_hasFailed {session : Session σ} (failed : session.hasFailed = true)
    (flag : Bool) : session.writeFlag flag = session := by
  rw [writeFlag, if_pos failed]

theorem readFlag_of_hasFailed {session : Session σ} (failed : session.hasFailed = true) :
    session.readFlag = (false, session) := by
  rw [readFlag, if_pos failed]

theorem writeLength_of_hasFailed {session : Session σ} (failed : session.hasFailed = true)
    (length : Nat) : session.writeLength length = session := by
  rw [writeLength, writeBytes_of_hasFailed failed, fail_of_hasFailed failed, ite_self]

theorem readLength_of_hasFailed {session : Session σ} (failed : session.hasFailed = true)
    (limit : UInt32) : session.readLength limit = (0, session) := by
  rw [readLength, readBytes_of_hasFailed failed]
  simp [Bytes.toNat_zeros]

end Session

end Snapshot
