import TieWalk.AscSet
import TieWalk.Relation.Tie

/-!
# Pairs of a walk

A walk holds pairs of a sample person and a person reached from there. It starts with every sample person paired with
itself, and each hop moves the reached persons along the ties of a relation. The same pair may come about in several
ways; it is kept once, and the surplus is counted.
-/

namespace TieWalk

/-- A sample person and a person reached from there. -/
structure Pair where
  sample : Person
  reached : Person
  deriving DecidableEq, Repr

namespace Pair

instance : Ord Pair := ⟨compareLex (compareOn Pair.sample) (compareOn Pair.reached)⟩

instance : Std.TransOrd Pair :=
  inferInstanceAs (Std.TransCmp (compareLex (compareOn Pair.sample) (compareOn Pair.reached)))

instance : Std.LawfulEqOrd Pair where
  eq_of_compare {a b} h := by
    obtain ⟨s, r⟩ := a
    obtain ⟨s', r'⟩ := b
    have h' : (compare s s').then (compare r r') = .eq := h
    rw [Ordering.then_eq_eq] at h'
    rw [Std.LawfulEqOrd.eq_of_compare h'.1, Std.LawfulEqOrd.eq_of_compare h'.2]

/-- Every sample person paired with itself. -/
def seeds (ids : List Person) : AscSet Pair := AscSet.ofList (ids.map fun id => ⟨id, id⟩)

/-- The pairs that a tie makes of pairs whose reached person it starts from. -/
def along (pairs : List Pair) (e : Tie) : List Pair :=
  (pairs.filter fun p => p.reached = e.person).map fun p => ⟨p.sample, e.relative⟩

/-- The pairs moved along ties, as often as they come about. -/
def follow (pairs : List Pair) (ties : List Tie) : List Pair := ties.flatMap (along pairs)

/-- The number of pairs that are there already. -/
def surplus (pairs : List Pair) : Nat := pairs.length - (AscSet.ofList pairs).size

end Pair

end TieWalk
