/-!
# Sets of characters by their edges

A property of characters that a standard gives as a table is stored by its edges: the code points,
ascending, at which membership changes. A character belongs to the set exactly if an odd number of
edges lies at or below it, so a binary search for that number decides membership.
-/

namespace AskLedger

/-- A set of characters, given by the code points at which membership changes, ascending. -/
structure CharSet where
  /-- Code points at which a stretch of members starts or has just ended, in turn. -/
  edges : Array Nat

namespace CharSet

/-- Halves the stretch `lo ≤ i < hi` of edges until it is empty. The edges below `lo` are at most
`n` and those from `hi` on are above it; the first argument bounds the number of halvings. -/
def countWithin (s : CharSet) (n : Nat) : Nat → Nat → Nat → Nat
  | 0, lo, _ => lo
  | fuel + 1, lo, hi =>
    if lo < hi then
      let mid := (lo + hi) / 2
      if s.edges.getD mid 0 ≤ n then s.countWithin n fuel (mid + 1) hi
      else s.countWithin n fuel lo mid
    else lo

/-- The number of edges at or below `n`. -/
def edgesUpTo (s : CharSet) (n : Nat) : Nat :=
  s.countWithin n s.edges.size 0 s.edges.size

/-- Whether a character belongs to the set. -/
def has (s : CharSet) (c : Char) : Bool :=
  s.edgesUpTo c.toNat % 2 == 1

end CharSet

end AskLedger
