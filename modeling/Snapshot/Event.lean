import Snapshot.Failure

/-!
# Log events

The three occasions on which a line is logged.
-/

namespace Snapshot

/-- An entry of the log. -/
inductive Event where
  | markerMismatch (mismatch : Mismatch)
  | truncated (length capacity : Nat)
  | restored (version : UInt32)
  deriving DecidableEq, Repr

/-- How grave an entry is. -/
inductive Severity where
  | error
  | warning
  | debug
  deriving DecidableEq, Repr

namespace Event

def severity : Event → Severity
  | .markerMismatch _ => .error
  | .truncated _ _ => .warning
  | .restored _ => .debug

/-- The fixed part of a logged line. -/
def message : Event → String
  | .markerMismatch _ => "save state marker mismatch"
  | .truncated _ _ => "truncating oversized small string"
  | .restored _ => "restored save state"

end Event

end Snapshot
