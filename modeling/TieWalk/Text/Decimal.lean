import TieWalk.Number.IntType

/-!
# Whole numbers in decimal

Reading of the numerals that queries, file names and relation tables hold. Digits are the ten of ASCII and leading zeros
count for nothing; only the signed form allows a sign.
-/

namespace TieWalk.Text

/-- The number that a list of digits spells. -/
def natOfDigits (ds : List Char) : Nat := ds.foldl (fun n d => 10 * n + (d.toNat - '0'.toNat)) 0

/-- The number of decimal digits of a natural number; zero has one. -/
def digitCount (n : Nat) : Nat := (Nat.toDigits 10 n).length

/-- One or more digits and nothing else. -/
def isNumeral (cs : List Char) : Bool := !cs.isEmpty && cs.all Char.isDigit

/-- The number spelled by one or more digits. -/
def readNat? (cs : List Char) : Option Nat := if isNumeral cs then some (natOfDigits cs) else none

/-- The number spelled by one or more digits, which a plus or a minus sign may precede. -/
def readInt? : List Char → Option Int
  | '+' :: ds => (readNat? ds).map Int.ofNat
  | '-' :: ds => (readNat? ds).map fun n => -Int.ofNat n
  | ds => (readNat? ds).map Int.ofNat

/-- A signed numeral whose value fits a signed word of 64 bits. -/
def readLong? (cs : List Char) : Option Long := (readInt? cs).bind Long.ofInt?

end TieWalk.Text
