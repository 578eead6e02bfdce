import TieWalk.Number.Double
import TieWalk.Text.Decimal

/-!
# Scientific notation with a fixed number of places

`scientific places x` writes a double as one digit, a point, `places` more digits, `e` and the exponent of ten. The
digits are those of the exact binary value, rounded to nearest; a value halfway between two candidates goes to the even
one. All of it is arithmetic on natural numbers: a finite double is `m · 2^q`, that is a quotient of two naturals.
-/

namespace TieWalk.Text

open Double

/-- The quotient rounded to the nearest natural number, halves to the even neighbour. -/
def roundedQuotient (num den : Nat) : Nat :=
  let q := num / den
  let r := num % den
  if den < 2 * r || (2 * r == den && q % 2 == 1) then q + 1 else q

/-- The exponent of ten of a positive quotient: the `e` with `10^e ≤ num / den < 10^(e + 1)`. -/
def decimalExponent (num den : Nat) : Int :=
  let e : Int := (digitCount num : Int) - digitCount den
  let reached := if 0 ≤ e then den * Nat.pow 10 e.toNat ≤ num else den ≤ num * Nat.pow 10 (-e).toNat
  if reached then e else e - 1

/-- The quotient scaled by a power of ten, as a new numerator and denominator. -/
def scaledByTen (num den : Nat) (e : Int) : Nat × Nat :=
  if 0 ≤ e then (num * Nat.pow 10 e.toNat, den) else (num, den * Nat.pow 10 (-e).toNat)

/-- The digits of a positive quotient, `places + 1` of them read as one number, and its exponent of ten. Rounding up to
the next power of ten moves the exponent. -/
def roundedDigits (places num den : Nat) : Nat × Int :=
  let e := decimalExponent num den
  let (n, d) := scaledByTen num den (places - e)
  let digits := roundedQuotient n d
  if digits == Nat.pow 10 (places + 1) then (Nat.pow 10 places, e + 1) else (digits, e)

/-- Digits with a point after the first, and the exponent. -/
def writtenScientific (digits : Nat) (e : Int) : String :=
  match Nat.toDigits 10 digits with
  | [] => ""
  | first :: rest => String.ofList (first :: '.' :: rest) ++ "e" ++ toString e

/-- A double in scientific notation; what is not finite has a name instead. -/
def scientific (places : Nat) (x : Float) : String :=
  if x.isNaN then "NaN"
  else
    let sign := if isNegative x then "-" else ""
    if x.isInf then sign ++ "inf"
    else
      let (num, den) := magnitude x
      if num == 0 then sign ++ "0." ++ String.ofList (List.replicate places '0') ++ "e0"
      else
        let (digits, e) := roundedDigits places num den
        sign ++ writtenScientific digits e

end TieWalk.Text
