/-!
# Versioned fields

A field that only exists in state of a certain format version or later.
-/

namespace Snapshot

/-- The first version that carries the field, and the value it has before. -/
structure VersionedField (α : Type) where
  introduced : UInt32
  default : α
  deriving DecidableEq, Repr

namespace VersionedField

/-- Whether state of the given version carries the field. -/
def isPresent {α : Type} (field : VersionedField α) (version : UInt32) : Bool :=
  field.introduced ≤ version

end VersionedField

end Snapshot
