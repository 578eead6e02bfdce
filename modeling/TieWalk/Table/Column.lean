import TieWalk.Table.Type
import TieWalk.Text.Fraction

/-!
# Columns

A column is a name, a type, and cells of that type, any of which may be absent. Cells are read as long words, as
doubles, or as keys; each reading is a function on single values, applied cell by cell, and an absent cell stays absent
in all of them.
-/

namespace TieWalk

/-- What cells are joined and grouped by: their number, or their text. -/
inductive Key where
  | number (value : Int)
  | text (value : String)
  deriving DecidableEq, Repr

namespace Key

instance : Ord Key where
  compare
    | .number a, .number b => compare a b
    | .number _, .text _ => .lt
    | .text _, .number _ => .gt
    | .text a, .text b => compare a b

instance : Std.TransOrd Key where
  eq_swap {a b} :=
    match a, b with
    | .number a, .number b => Std.OrientedOrd.eq_swap (a := a) (b := b)
    | .text a, .text b => Std.OrientedOrd.eq_swap (a := a) (b := b)
    | .number _, .text _ => rfl
    | .text _, .number _ => rfl
  isLE_trans {a b c} h k :=
    match a, b, c with
    | .number a, .number b, .number c => Std.TransOrd.isLE_trans (a := a) (b := b) (c := c) h k
    | .text a, .text b, .text c => Std.TransOrd.isLE_trans (a := a) (b := b) (c := c) h k
    | .number _, _, .text _ => rfl
    | .text _, .number _, _ => nomatch h
    | _, .text _, .number _ => nomatch k

instance : Std.LawfulEqOrd Key where
  compare_self {a} :=
    match a with
    | .number a => Std.ReflOrd.compare_self (a := a)
    | .text a => Std.ReflOrd.compare_self (a := a)
  eq_of_compare {a b} h :=
    match a, b with
    | .number a, .number b => congrArg Key.number (Std.LawfulEqOrd.eq_of_compare (a := a) (b := b) h)
    | .text a, .text b => congrArg Key.text (Std.LawfulEqOrd.eq_of_compare (a := a) (b := b) h)
    | .number _, .text _ => nomatch h
    | .text _, .number _ => nomatch h

end Key

namespace ColumnType

/-- A truth value as a number. -/
def bit (b : Bool) : Int := if b then 1 else 0

/-- A value as a long word, if it has one: a fraction is cut off, and a text has to be a numeral. -/
def toLong? : (t : ColumnType) → t.Carrier → Option Long
  | .int _, v => Long.ofInt? v.toInt
  | .float32, x => (Double.wholePart? x.toFloat).bind Long.ofInt?
  | .float64, x => (Double.wholePart? x).bind Long.ofInt?
  | .text, s => Text.readLong? s.toList
  | .bool, b => Long.ofInt? (bit b)
  | .date, d => Long.ofInt? d.toInt
  | .datetime _ _, n => some n
  | .duration _, n => some n
  | .time, n => some n
  | .null, v => nomatch v
  | .binary, _ | .longList, _ => none

/-- A value as a double, if it has one: a truth value is one or zero, and a text has to be a numeral. -/
def toFloat? : (t : ColumnType) → t.Carrier → Option Float
  | .int _, v => some v.toFloat
  | .float32, x => some x.toFloat
  | .float64, x => some x
  | .text, s => Text.readDouble? s.toList
  | .bool, b => some (Float.ofInt (bit b))
  | .date, d => some d.toFloat
  | .datetime _ _, n => some n.toFloat
  | .duration _, n => some n.toFloat
  | .time, n => some n.toFloat
  | .null, v => nomatch v
  | .binary, _ | .longList, _ => none

/-- A value as a key, if its type has keys. -/
def key? : (t : ColumnType) → t.Carrier → Option Key
  | .int _, v => some (.number v.toInt)
  | .float32, x => some (.number (Double.rank x.toFloat))
  | .float64, x => some (.number (Double.rank x))
  | .text, s => some (.text s)
  | .bool, b => some (.number (bit b))
  | .date, d => some (.number d.toInt)
  | .datetime _ _, n => some (.number n.toInt)
  | .duration _, n => some (.number n.toInt)
  | .time, n => some (.number n.toInt)
  | .null, v => nomatch v
  | .binary, _ | .longList, _ => none

end ColumnType

/-- A named column of cells of one type. -/
structure Column where
  name : String
  type : ColumnType
  cells : List (Option type.Carrier)

namespace Column

/-- The number of cells. -/
def height (c : Column) : Nat := c.cells.length

/-- A column of long words, all of them present. -/
def ofLongs (name : String) (values : List Long) : Column := ⟨name, .long, values.map some⟩

/-- A column of absent cells. -/
def absent (name : String) (type : ColumnType) (height : Nat) : Column := ⟨name, type, List.replicate height none⟩

/-- The column under another name. -/
def rename (c : Column) (name : String) : Column := { c with name := name }

/-- The column's cells at row numbers; a missing row number gives an absent cell. -/
def pick (c : Column) (rows : List (Option Nat)) : Column :=
  { c with cells := rows.map fun row => row.bind fun i => (c.cells[i]?).join }

/-- The number of absent cells. -/
def nullCount (c : Column) : Nat := (c.cells.filter Option.isNone).length

/-- The cells at row numbers. -/
def cellsAt (c : Column) (rows : List Nat) : List (Option c.type.Carrier) := rows.map fun i => (c.cells[i]?).join

/-- The cells as long words. -/
def longs (c : Column) : List (Option Long) := c.cells.map fun cell => cell.bind (c.type.toLong? ·)

/-- The cells as doubles. -/
def floats (c : Column) : List (Option Float) := c.cells.map fun cell => cell.bind (c.type.toFloat? ·)

/-- The cells as keys. -/
def keys (c : Column) : List (Option Key) := c.cells.map fun cell => cell.bind (c.type.key? ·)

/-- The column with its cells as long words. -/
def toLongs (c : Column) : Column := ⟨c.name, .long, c.longs⟩

/-- A column without values, as one of absent doubles; any other column as it is. -/
def nullAsFloat (c : Column) : Column := if c.type = .null then absent c.name .float64 c.height else c

@[simp] theorem name_pick (c : Column) (rows : List (Option Nat)) : (c.pick rows).name = c.name := rfl

@[simp] theorem height_pick (c : Column) (rows : List (Option Nat)) : (c.pick rows).height = rows.length := by
  simp [pick, height]

@[simp] theorem name_rename (c : Column) (name : String) : (c.rename name).name = name := rfl

@[simp] theorem height_rename (c : Column) (name : String) : (c.rename name).height = c.height := rfl

@[simp] theorem name_toLongs (c : Column) : c.toLongs.name = c.name := rfl

@[simp] theorem height_toLongs (c : Column) : c.toLongs.height = c.height := by simp [toLongs, longs, height]

@[simp] theorem name_nullAsFloat (c : Column) : c.nullAsFloat.name = c.name := by unfold nullAsFloat; split <;> rfl

@[simp] theorem height_nullAsFloat (c : Column) : c.nullAsFloat.height = c.height := by
  unfold nullAsFloat
  split
  · simp [absent, height]
  · rfl

end Column

end TieWalk
