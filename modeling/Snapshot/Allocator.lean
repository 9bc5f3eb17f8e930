/-!
# Allocators

Memory is requested in bytes, and an allocator may refuse a request.  A vector that
outgrows its capacity doubles it, so that filling it one element at a time copies
each element a bounded number of times on average.  Zero-sized elements need no
memory.
-/

namespace Snapshot

/-- Decides which requests, in bytes, are granted. -/
structure Allocator where
  grants : Nat → Bool

namespace Allocator

/-- Grants every request. -/
def unbounded : Allocator :=
  ⟨fun _ => true⟩

/-- Grants the requests of less than `bound` bytes. -/
def below (bound : Nat) : Allocator :=
  ⟨fun bytes => bytes < bound⟩

/-- Grants what a machine can be expected to hold: less than a tebibyte. -/
def host : Allocator :=
  below (Nat.pow 2 40)

/-- The fewest elements of `size` bytes that a vector makes room for. -/
def leastCapacity (size : Nat) : Nat :=
  if size = 1 then
    8
  else if size ≤ 1024 then
    4
  else
    1

/-- The capacity that a vector of elements of `size` bytes requests when it outgrows
`capacity` to hold `count` elements. -/
def grown (size capacity count : Nat) : Nat :=
  max (max (2 * capacity) count) (leastCapacity size)

theorem le_grown (size capacity count : Nat) : count ≤ grown size capacity count := by
  simp only [grown]
  omega

/-- The capacity of a vector of elements of `size` bytes once it has room for `count`
of them, unless the memory is refused.  Room that is there already is not requested. -/
def reserve? (allocator : Allocator) (size capacity count : Nat) : Option Nat :=
  if size = 0 ∨ count ≤ capacity then
    some capacity
  else if allocator.grants (grown size capacity count * size) then
    some (grown size capacity count)
  else
    none

theorem reserve?_of_le (allocator : Allocator) (size : Nat) {capacity count : Nat}
    (fits : count ≤ capacity) : allocator.reserve? size capacity count = some capacity := by
  rw [reserve?, if_pos (Or.inr fits)]

theorem le_of_reserve?_eq_some {allocator : Allocator} {size capacity count room : Nat}
    (sized : size ≠ 0) (reserved : allocator.reserve? size capacity count = some room) :
    count ≤ room := by
  unfold reserve? at reserved
  split at reserved
  · next fits =>
      cases reserved
      exact fits.resolve_left sized
  · split at reserved
    · cases reserved
      exact le_grown size capacity count
    · cases reserved

end Allocator

end Snapshot
