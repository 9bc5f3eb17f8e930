import Snapshot.Fault

/-!
# Failures

What can go wrong while state is saved or restored, apart from misuse of a
session.  Each cause carries the data that its message shows.
-/

namespace Snapshot

/-- A marker that was read where another one was expected.  The offset is the
stream position after the marker. -/
structure Mismatch where
  offset : Nat
  found : String
  expected : String
  deriving DecidableEq, Repr

/-- The causes for which saving or restoring fails. -/
inductive Failure where
  | stream (fault : Fault)
  | lengthLimit (length limit : Nat)
  | outOfMemory (length : Nat)
  | invalidEnum (name value : String)
  | markerMismatch (mismatch : Mismatch)
  | invalid (reason : String)
  | invalidMagic
  | unsupportedVersion (found minimum current : UInt32)
  deriving DecidableEq, Repr

namespace Failure

/-- Whether the stream is to blame. -/
def isStream : Failure → Bool
  | .stream _ => true
  | _ => false

/-- The words for a failure. -/
def message : Failure → String
  | .stream fault => "stream i/o failed: " ++ fault.message
  | .lengthLimit length limit =>
      "length " ++ toString length ++ " exceeds limit of " ++ toString limit
  | .outOfMemory length =>
      "out of memory allocating " ++ toString length ++ " elements"
  | .invalidEnum name value => "invalid " ++ name ++ " discriminant " ++ value
  | .markerMismatch mismatch =>
      "marker mismatch at offset " ++ toString mismatch.offset ++ ": found '" ++
        mismatch.found ++ "' expected '" ++ mismatch.expected ++ "'"
  | .invalid reason => "invalid state: " ++ reason
  | .invalidMagic => "invalid save state magic"
  | .unsupportedVersion found minimum current =>
      "unsupported save state version " ++ toString found.toNat ++ " (supported " ++
        toString minimum.toNat ++ "..=" ++ toString current.toNat ++ ")"

end Failure

/-- Uses of a session that its contract forbids.  The call has no effect. -/
inductive Misuse where
  | textWhileReading
  | markerTooLong
  | defaultLength
  deriving DecidableEq, Repr

/-- The words for a misuse. -/
def Misuse.message : Misuse → String
  | .textWhileReading => "StateWrapper::do_str is only valid in write mode"
  | .markerTooLong => "save state marker is longer than 256 bytes"
  | .defaultLength => "length mismatch"

end Snapshot
