/-!
# Limits

Bounds on the lengths that a session accepts while reading.  A corrupt length
prefix above its bound is refused before anything is allocated for it.
-/

namespace Snapshot

/-- The longest text, in bytes, and the longest collection, in elements, that a
session reads. -/
structure Limits where
  text : UInt32
  collection : UInt32
  deriving DecidableEq, Repr

namespace Limits

/-- The largest length that a prefix can express. -/
def largestLength : Nat :=
  4294967295

/-- Sixteen mebibytes of text and as many elements. -/
def standard : Limits :=
  ⟨16 * 1024 * 1024, 16 * 1024 * 1024⟩

/-- No bound beyond what a prefix can express. -/
def unlimited : Limits :=
  ⟨4294967295, 4294967295⟩

def withText (limits : Limits) (text : UInt32) : Limits :=
  { limits with text := text }

def withCollection (limits : Limits) (collection : UInt32) : Limits :=
  { limits with collection := collection }

end Limits

end Snapshot
