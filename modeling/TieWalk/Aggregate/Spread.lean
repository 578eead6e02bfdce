import TieWalk.Aggregate.Summation

/-!
# Standard deviations

The spread of values is their number, their mean and the sum of their squared distances from it. It can be taken value
by value, or of runs of values at once and then put together; in exact arithmetic both come to the same.
-/

namespace TieWalk

/-- The number of values, their mean, and the sum of their squared distances from it. -/
structure Spread where
  count : Nat
  mean : Float
  squares : Float

namespace Spread

/-- The spread of no values. -/
def empty : Spread := ⟨0, 0.0, 0.0⟩

/-- The spread with one more value. -/
def add (s : Spread) (x : Float) : Spread :=
  let count := s.count + 1
  let distance := x - s.mean
  let mean := s.mean + distance / Float.ofNat count
  ⟨count, mean, s.squares + distance * (x - mean)⟩

/-- The spread of values at once. -/
def ofRun (values : List Float) : Spread :=
  let mean := values.foldl (· + ·) 0.0 / Float.ofNat values.length
  ⟨values.length, mean, values.foldl (fun sum x => sum + (x - mean) * (x - mean)) 0.0⟩

/-- The spread of the values of two spreads, the second of which has some. -/
def merge (s t : Spread) : Spread :=
  let count := s.count + t.count
  let distance := t.mean - s.mean
  let mean := s.mean + distance * (Float.ofNat t.count / Float.ofNat count)
  ⟨count, mean, s.squares + (t.squares + Float.ofNat t.count * (t.mean - mean) * distance)⟩

/-- The spread of values, one after another or in blocks. -/
def ofValues (how : Summation) (values : List Float) : Spread :=
  match how with
  | .serial _ => values.foldl add empty
  | .blocked => ((runsOf Summation.blockSize values).map ofRun).foldl merge empty

/-- The standard deviation of a sample, if it has more than one value. Distances beyond the range of doubles can make
the sum of squares negative, and then the deviation is not a number. -/
def deviation? (s : Spread) : Option Float :=
  if s.count ≤ 1 then none else some (Float.sqrt (s.squares / Float.ofNat (s.count - 1)))

end Spread

end TieWalk
