import Snapshot.Session.Text

/-!
# Markers

A marker is a short text that is written as it is and compared when it is read.  A
marker that differs is logged and kept as the session's latest mismatch; it does
not fail the session.
-/

namespace Snapshot

/-- The most bytes of a marker. -/
def markerCapacity : Nat :=
  256

namespace Session

variable {σ : Type} [ByteStream σ]

/-- Logs and keeps a mismatch at the current position. -/
def recordMismatch (found expected : String) (session : Session σ) : Session σ :=
  let mismatch : Mismatch := ⟨session.position, found, expected⟩
  { session.report (.markerMismatch mismatch) with mismatch := some mismatch }

/-- Reads a marker and compares it with the expected one. -/
def readMarker (expected : String) (session : Session σ) : Bool × Session σ :=
  match session.readSmallText markerCapacity with
  | (found, session) =>
      if session.hasFailed then
        (false, session)
      else if found.text = expected then
        (true, session)
      else
        (false, session.recordMismatch found.text expected)

/-- Writes a marker, and tells whether the session is still sound. -/
def writeMarker (marker : String) (session : Session σ) : Bool × Session σ :=
  let session := session.writeText marker
  (!session.hasFailed, session)

/-- Writes a marker, or reads one and tells whether it is the expected one. -/
def marker (expected : String) (session : Session σ) :
    Except Misuse Bool × Session σ :=
  if markerCapacity < expected.utf8ByteSize then
    (.error .markerTooLong, session)
  else
    match session.mode with
    | .write =>
        match session.writeMarker expected with
        | (sound, session) => (.ok sound, session)
    | .read =>
        match session.readMarker expected with
        | (matched, session) => (.ok matched, session)

/-- Why a marker was not accepted: the failure of the session, or else its latest
mismatch. -/
def markerFailure (session : Session σ) : Failure :=
  match session.failure, session.mismatch with
  | some failure, _ => failure
  | none, some mismatch => .markerMismatch mismatch
  | none, none => .invalid "marker check failed"

/-- Like `marker`, with the reason where the marker is not accepted. -/
def expectMarker (expected : String) (session : Session σ) :
    Except Misuse (Except Failure Unit) × Session σ :=
  match session.marker expected with
  | (.error misuse, session) => (.error misuse, session)
  | (.ok true, session) => (.ok (.ok ()), session)
  | (.ok false, session) => (.ok (.error session.markerFailure), session)

end Session

end Snapshot
