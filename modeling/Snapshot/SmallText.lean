import Snapshot.Utf8

/-!
# Small text

Text whose encoding fits a fixed number of bytes.  Bytes from outside become small
text by keeping the longest well-formed prefix that fits.
-/

namespace Snapshot

/-- Text of at most `capacity` bytes. -/
structure SmallText (capacity : Nat) where
  text : String
  fits : text.utf8ByteSize ≤ capacity
  deriving DecidableEq

namespace SmallText

def empty (capacity : Nat) : SmallText capacity :=
  ⟨"", Nat.zero_le _⟩

/-- The text itself, when it fits. -/
def ofText? (capacity : Nat) (text : String) : Option (SmallText capacity) :=
  if fits : text.utf8ByteSize ≤ capacity then
    some ⟨text, fits⟩
  else
    none

theorem size_wellFormedPrefix_le (capacity : Nat) (bytes : Bytes) :
    (Utf8.wellFormedPrefix (bytes.take capacity)).utf8ByteSize ≤ capacity := by
  have shorter := (Utf8.encode_wellFormedPrefix (bytes.take capacity)).length_le
  rw [Utf8.length_encode, List.length_take] at shorter
  omega

/-- The longest well-formed prefix of the first `capacity` bytes. -/
def ofBytes (capacity : Nat) (bytes : Bytes) : SmallText capacity :=
  ⟨Utf8.wellFormedPrefix (bytes.take capacity), size_wellFormedPrefix_le capacity bytes⟩

end SmallText

end Snapshot
