import TieWalk.Number.IntType

/-!
# Doubles as numbers

What a finite double is exactly, and two things that follow from it: its whole part, and its place in the order of all
doubles. In that order a zero has no sign and every value that is not a number is the same and greater than the rest.
-/

namespace TieWalk.Double

/-- The number of patterns of the fraction bits of a double. -/
def fractionSize : Nat := 0x10000000000000

/-- The number of patterns of the exponent bits. -/
def exponentSize : Nat := 0x800

/-- The number of patterns of both: the place of the sign bit. -/
def signPlace : Nat := fractionSize * exponentSize

/-- The sign bit is set. -/
def isNegative (x : Float) : Bool := signPlace ≤ x.toBits.toNat

/-- A finite double without its sign, as a quotient of naturals. -/
def magnitude (x : Float) : Nat × Nat :=
  let bits := x.toBits.toNat
  let exponent : Nat := bits / fractionSize % exponentSize
  let fraction : Nat := bits % fractionSize
  if exponent == 0 then (fraction, Nat.pow 2 1074)
  else if exponent < 1075 then (fraction + fractionSize, Nat.pow 2 (1075 - exponent))
  else ((fraction + fractionSize) * Nat.pow 2 (exponent - 1075), 1)

/-- The whole part of a finite double, toward zero. -/
def wholePart? (x : Float) : Option Int :=
  if x.isNaN || x.isInf then none
  else
    let (num, den) := magnitude x
    let whole := Int.ofNat (num / den)
    some (if isNegative x then -whole else whole)

/-- The place of a double in the order of doubles. -/
def rank (x : Float) : Int :=
  if x.isNaN then Int.ofNat signPlace
  else
    let place := Int.ofNat (x.toBits.toNat % signPlace)
    if isNegative x then -place else place

end TieWalk.Double
