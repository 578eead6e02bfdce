/-!
# Structured values

The form in which queries and plans are exchanged: null, truth values, numbers, texts, lists and records. A number keeps
the places after its decimal point, since `301` is a whole number and `301.0` is not. A record is read by the names of
its fields, so that their order and any further fields do not matter, but none that is read may stand in it twice; the
list of its field values, in the order of the definition, is read as well.
-/

namespace TieWalk

/-- A structured value. -/
inductive Json where
  | null
  | bool (value : Bool)
  /-- The number `mantissa / 10 ^ places`. -/
  | number (mantissa : Int) (places : Nat)
  | text (value : String)
  | list (items : List Json)
  | record (fields : List (String × Json))
  deriving Inhabited

namespace Json

/-- A whole number. -/
def nat (n : Nat) : Json := .number n 0

/-- A list of texts. -/
def texts (items : List String) : Json := .list (items.map .text)

/-- The text of a value that is one. -/
def text? : Json → Option String
  | .text value => some value
  | _ => none

/-- The whole number of a value that is one, if it is below a bound. -/
def natBelow? (bound : Nat) : Json → Option Nat
  | .number (.ofNat n) 0 => if n < bound then some n else none
  | _ => none

/-- The bound of counts and positions: they fit a word of 64 bits. -/
def countBound : Nat := 0x10000000000000000

/-- A count or a position. -/
def count? : Json → Option Nat := natBelow? countBound

/-- The items of a list, each read the same way. -/
def listOf? {α : Type} (item? : Json → Option α) : Json → Option (List α)
  | .list items => items.mapM item?
  | _ => none

/-- The name of a case without contents: a text, or a record that gives it null. -/
def caseName? : Json → Option String
  | .text name => some name
  | .record [(name, .null)] => some name
  | _ => none

/-- The value of a name that stands among fields once. -/
def field? (fields : List (String × Json)) (name : String) : Option Json :=
  match fields.filter fun f => f.1 == name with
  | [(_, value)] => some value
  | _ => none

/-- The values of the named fields of a record, in the order of the names. -/
def fields? (names : List String) : Json → Option (List Json)
  | .record fields => names.mapM (field? fields)
  | .list items => if items.length = names.length then some items else none
  | _ => none

end Json

end TieWalk
