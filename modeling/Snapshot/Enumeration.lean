import Snapshot.Scalar

/-!
# Enumerations

An enumeration is stored as an integer.  Reading accepts the integers that stand
for a variant; the enumeration decides which those are and need not accept the
representations it writes.
-/

namespace Snapshot

/-- A finite set of variants with an integer representation. -/
structure Enumeration where
  name : String
  kind : IntegerKind
  size : Nat
  toRepr : Fin size → (Scalar.integer kind).Value
  ofRepr? : (Scalar.integer kind).Value → Option (Fin size)
  default : Fin size

namespace Enumeration

/-- The kind of number that is stored. -/
def scalar (enumeration : Enumeration) : Scalar :=
  .integer enumeration.kind

/-- A variant. -/
abbrev Variant (enumeration : Enumeration) : Type :=
  Fin enumeration.size

/-- Every variant is read back from its own representation. -/
def IsFaithful (enumeration : Enumeration) : Prop :=
  ∀ variant : enumeration.Variant,
    enumeration.ofRepr? (enumeration.toRepr variant) = some variant

end Enumeration

end Snapshot
