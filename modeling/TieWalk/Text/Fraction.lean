import TieWalk.Text.Blank
import TieWalk.Text.Decimal

/-!
# Numbers with a fraction in decimal

Reading of doubles as texts spell them: an optional sign, digits with at most one point among or beside them, and an
optional exponent after a letter `e` of either case; or a name, in any case, of what is no number or not finite. Nothing
else may stand in the text, not even a blank.
-/

namespace TieWalk.Text

/-- The double nearest to `m * 10 ^ e`. Far outside the range of doubles the answer does not need the power. -/
def scaled (m : Nat) (e : Int) : Float :=
  let top := Int.ofNat (digitCount m) + e
  if m == 0 || top < -330 then 0.0
  else if 310 < top then 1.0 / 0.0
  else if e < 0 then Float.ofScientific m true e.natAbs
  else Float.ofScientific m false e.natAbs

/-- The doubles that have names, without a sign. -/
def namedDoubles : List (String × Float) := [("nan", 0.0 / 0.0), ("inf", 1.0 / 0.0), ("infinity", 1.0 / 0.0)]

/-- The exponent that the end of a numeral spells; where nothing is left it is zero. -/
def readExponent? : List Char → Option Int
  | [] => some 0
  | c :: rest => if c.toLower == 'e' then readInt? rest else none

/-- What comes after a point: the digits of the fraction, and the rest. -/
def fractionDigits : List Char → List Char × List Char
  | '.' :: rest => (rest.takeWhile Char.isDigit, rest.dropWhile Char.isDigit)
  | rest => ([], rest)

/-- The double that a text without a sign spells. -/
def readUnsignedDouble? (cs : List Char) : Option Float :=
  let whole := cs.takeWhile Char.isDigit
  let (fraction, rest) := fractionDigits (cs.dropWhile Char.isDigit)
  if whole.isEmpty && fraction.isEmpty then namedDoubles.lookup (lowercase (String.ofList cs))
  else (readExponent? rest).map fun e => scaled (natOfDigits (whole ++ fraction)) (e - Int.ofNat fraction.length)

/-- The double that a text spells. -/
def readDouble? : List Char → Option Float
  | '+' :: cs => readUnsignedDouble? cs
  | '-' :: cs => (readUnsignedDouble? cs).map fun x => -x
  | cs => readUnsignedDouble? cs

end TieWalk.Text
