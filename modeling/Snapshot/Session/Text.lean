import Snapshot.Session.Chunks
import Snapshot.SmallText

/-!
# Texts

Every form of text is stored as a length prefix and the bytes of its encoding.  A
text of any length is read up to its first zero byte, with replacement characters
for what is not well formed.  A small text keeps zero bytes but stops before the
first part that is not well formed; what exceeds its capacity is read and dropped,
so that the stream stays aligned.
-/

namespace Snapshot

namespace Session

variable {σ : Type} [ByteStream σ]

/-- Writes a text. -/
def writeText (text : String) (session : Session σ) : Session σ :=
  (session.writeLength text.utf8ByteSize).writeBytes (Utf8.encode text)

theorem writeText_of_hasFailed {session : Session σ} (failed : session.hasFailed = true)
    (text : String) : session.writeText text = session := by
  rw [writeText, writeLength_of_hasFailed failed, writeBytes_of_hasFailed failed]

/-- Reads a text. -/
def readText (session : Session σ) : String × Session σ :=
  match session.readLength session.limits.text with
  | (length, session) =>
      match session.readChunks 1 length
          (fun count session => session.readBytes (Bytes.zeros count)) with
      | (bytes, session) => (Utf8.decodeLossy (Bytes.beforeZero bytes), session)

theorem readText_of_hasFailed {session : Session σ} (failed : session.hasFailed = true) :
    session.readText = ("", session) := by
  rw [readText, readLength_of_hasFailed failed]
  dsimp only
  rw [readChunks_of_hasFailed failed]
  simp [Bytes.beforeZero]

/-- Logs that a text of `length` bytes does not fit, unless the session has
failed. -/
def reportTruncation (length capacity : Nat) (session : Session σ) : Session σ :=
  if capacity < length ∧ session.hasFailed = false then
    session.report (.truncated length capacity)
  else
    session

/-- Reads a small text. -/
def readSmallText (capacity : Nat) (session : Session σ) :
    SmallText capacity × Session σ :=
  match session.readLength session.limits.text with
  | (length, session) =>
      match session.readBytes (Bytes.zeros (min length capacity)) with
      | (kept, session) =>
          (.ofBytes capacity kept,
            (session.reportTruncation length capacity).skip (length - capacity))

/-- Writes a text that is only on loan: there is nowhere to put one that is read. -/
def lendText (text : String) (session : Session σ) : Except Misuse Unit × Session σ :=
  match session.mode with
  | .write => (.ok (), session.writeText text)
  | .read => (.error .textWhileReading, session)

end Session

end Snapshot
