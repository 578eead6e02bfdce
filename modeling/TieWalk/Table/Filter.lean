import TieWalk.Table.Basic

/-!
# Choosing rows

A condition on the cells of a row is true, false or neither: a comparison with an absent cell is neither. Rows are
chosen where the condition is true.
-/

namespace TieWalk

/-- How a cell stands to a value. -/
inductive Comparison where
  | equal
  | notEqual
  | greater
  | less
  deriving DecidableEq, Repr

/-- The comparison holds of an order. -/
def Comparison.holds : Comparison → Ordering → Bool
  | .equal, o => o == .eq
  | .notEqual, o => o != .eq
  | .greater, o => o == .gt
  | .less, o => o == .lt

/-- A value to compare cells with. -/
inductive Literal where
  | absent
  | number (value : Int)
  | real (value : Float)
  | text (value : String)
  | bool (value : Bool)

/-- A condition on a row. -/
inductive Condition where
  | compares (column : String) (comparison : Comparison) (value : Literal)
  | isAbsent (column : String)
  | isPresent (column : String)
  /-- One of two conditions is true. -/
  | either (first second : Condition)

/-- The order of two doubles. -/
def floatOrder (a b : Float) : Ordering := compare (Double.rank a) (Double.rank b)

/-- The order of an integer and a number. Beside a negative number, integers of the widest unsigned type are read as
long words, which not all of them are; beside a number greater than any long word, signed integers are read as doubles.
-/
def wholeOrder? (t : IntType) (v : t.Value) (n : Int) : Option Ordering :=
  if t = .u64 && n < 0 then (Long.ofInt? v.toInt).map fun w => compare w.toInt n
  else if t.isSigned && IntType.i64.greatest < n then some (floatOrder v.toFloat (Float.ofInt n))
  else some (compare v.toInt n)

namespace ColumnType

/-- A truth value as a text. -/
def truthName (b : Bool) : String := if b then "true" else "false"

/-- The order of a type's values with another value, where the two can be compared. Truth values are numbers beside
numbers and texts beside texts, dates, instants and lengths of time are numbers, and a number beside a narrow float is
rounded to one. A value that cannot be read that way is in no order to the other. -/
def orderWith? : (t : ColumnType) → Literal → Option (t.Carrier → Option Ordering)
  | _, .absent => some fun _ => none
  | .null, _ => some nofun
  | .int t, .number n => some fun v => wholeOrder? t v n
  | .int _, .real x => some fun v => some (floatOrder v.toFloat x)
  | .int _, .bool b => some fun v => some (compare v.toInt (bit b))
  | .float32, .number n => some fun y => some (floatOrder y.toFloat (Float32.ofInt n).toFloat)
  | .float32, .real x => some fun y => some (floatOrder y.toFloat x.toFloat32.toFloat)
  | .float32, .bool b => some fun y => some (floatOrder y.toFloat (Float.ofInt (bit b)))
  | .float64, .number n => some fun y => some (floatOrder y (Float.ofInt n))
  | .float64, .real x => some fun y => some (floatOrder y x)
  | .float64, .bool b => some fun y => some (floatOrder y (Float.ofInt (bit b)))
  | .text, .text r => some fun s => some (compare s r)
  | .text, .bool b => some fun s => some (compare s (truthName b))
  | .bool, .number n => some fun a => some (compare (bit a) n)
  | .bool, .real x => some fun a => some (floatOrder (Float.ofInt (bit a)) x)
  | .bool, .text r => some fun a => some (compare (truthName a) r)
  | .bool, .bool b => some fun a => some (compare (bit a) (bit b))
  | .date, .number n => some fun d => some (compare d.toInt n)
  | .date, .real x => some fun d => some (floatOrder d.toFloat x)
  | .datetime _ _, .number n => some fun i => some (compare i.toInt n)
  | .datetime _ _, .real x => some fun i => some (floatOrder i.toFloat x)
  | .duration _, .number n => some fun l => some (compare l.toInt n)
  | .duration _, .real x => some fun l => some (floatOrder l.toFloat x)
  | _, _ => none

end ColumnType

/-- The truth of one of two conditions. -/
def eitherTrue : Option Bool → Option Bool → Option Bool
  | some true, _ => some true
  | _, some true => some true
  | some false, some false => some false
  | _, _ => none

namespace Condition

/-- The truth of a condition, row by row. -/
def truth (f : Frame) : Condition → Except Error (List (Option Bool))
  | .compares name comparison value =>
    match f.columnFor name with
    | .error e => .error e
    | .ok c =>
      match c.type.orderWith? value with
      | none => .error (.operation (.comparedTypes name))
      | some order => .ok (c.cells.map fun cell => (cell.bind order).map comparison.holds)
  | .isAbsent name =>
    match f.columnFor name with
    | .error e => .error e
    | .ok c => .ok (c.cells.map fun cell => some cell.isNone)
  | .isPresent name =>
    match f.columnFor name with
    | .error e => .error e
    | .ok c => .ok (c.cells.map fun cell => some cell.isSome)
  | .either first second =>
    match truth f first with
    | .error e => .error e
    | .ok a =>
      match truth f second with
      | .error e => .error e
      | .ok b => .ok (List.zipWith eitherTrue a b)

end Condition

/-- The rows of a table where a condition is true. -/
def Table.rowsWhere (t : Table) (condition : Condition) : Except Error Frame :=
  match t.toFrame with
  | .error e => .error e
  | .ok f =>
    match condition.truth f with
    | .error e => .error e
    | .ok truth => .ok (f.keep (truth.map fun b => b == some true))

end TieWalk
