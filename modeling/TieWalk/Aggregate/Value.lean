import TieWalk.Aggregate.Spread
import TieWalk.Aggregate.Statistic
import TieWalk.Table.Column

/-!
# The value of a statistic

What a statistic makes of the cells of a group, in row order. The type of the result depends on the type of the column
alone: sums and extremes keep it, but sums of narrow integers are long words and sums of truth values count; counts are
long words, means and deviations are doubles. A group without values has a count and nothing else; a group of one value
has no deviation; what has no sum sums up to nothing.
-/

namespace TieWalk

/-- The type of a sum of integers: those of less than 32 bits are made long words before they are summed up. -/
abbrev IntType.sumType : IntType → IntType
  | .i8 | .i16 | .u8 | .u16 => .i64
  | t => t

namespace ColumnType

/-- The type of a sum. -/
abbrev sumType : ColumnType → ColumnType
  | .int t => .int t.sumType
  | .bool => .int .u32
  | t => t

/-- The sum of whole numbers as a value of a type, if there are any cells with one. -/
def wholeSum? {α : Type} (type : IntType) (number : α → Int) (cells : List (Option α)) : Option type.Value :=
  if cells.all Option.isNone then none
  else some (type.wrap ((cells.filterMap id).foldr (fun a n => number a + n) 0))

/-- The sum of cells; of truth values, the number of those that are true. -/
def sum? : (t : ColumnType) → Summation → List (Option t.Carrier) → Option t.sumType.Carrier
  | .int t, _, cells => wholeSum? t.sumType IntType.Value.toInt cells
  | .float32, how, cells => how.sum? 0.0 cells
  | .float64, how, cells => how.sum? 0.0 cells
  | .bool, _, cells => wholeSum? .u32 bit cells
  | .duration _, _, cells => wholeSum? .i64 IntType.Value.toInt cells
  | .text, _, _ | .null, _, _ | .date, _, _ | .datetime _ _, _, _ | .time, _, _ | .binary, _, _
  | .longList, _, _ => none

/-- The smaller of two values, the second of equal ones; a value that is not a number gives way. -/
def lesser : (t : ColumnType) → t.Carrier → t.Carrier → t.Carrier
  | .int _, a, b => if b.toInt < a.toInt then b else a
  | .float32, a, b => if a.isNaN || b ≤ a then b else a
  | .float64, a, b => if a.isNaN || b ≤ a then b else a
  | .text, a, b => if b < a then b else a
  | .bool, a, b => a && b
  | .date, a, b => if b.toInt < a.toInt then b else a
  | .datetime _ _, a, b => if b.toInt < a.toInt then b else a
  | .duration _, a, b => if b.toInt < a.toInt then b else a
  | .time, a, b => if b.toInt < a.toInt then b else a
  | .null, a, _ | .binary, a, _ | .longList, a, _ => a

/-- The greater of two values, the second of equal ones; a value that is not a number gives way. -/
def greater : (t : ColumnType) → t.Carrier → t.Carrier → t.Carrier
  | .int _, a, b => if a.toInt < b.toInt then b else a
  | .float32, a, b => if b.isNaN || b < a then a else b
  | .float64, a, b => if b.isNaN || b < a then a else b
  | .text, a, b => if a < b then b else a
  | .bool, a, b => a || b
  | .date, a, b => if a.toInt < b.toInt then b else a
  | .datetime _ _, a, b => if a.toInt < b.toInt then b else a
  | .duration _, a, b => if a.toInt < b.toInt then b else a
  | .time, a, b => if a.toInt < b.toInt then b else a
  | .null, a, _ | .binary, a, _ | .longList, a, _ => a

end ColumnType

namespace Statistic

/-- The type of a statistic of a column. -/
def resultType : Statistic → ColumnType → ColumnType
  | .mean, _ => .float64
  | .deviation, _ => .float64
  | .count, _ => .long
  | .sum, t => t.sumType
  | .least, t => t
  | .greatest, t => t

/-- A statistic of the cells of a group. -/
def value? : (s : Statistic) → (t : ColumnType) → Summation → List (Option t.Carrier) → Option (s.resultType t).Carrier
  | .mean, t, how, cells => how.mean? (cells.map fun cell => cell.bind (t.toFloat? ·))
  | .deviation, t, how, cells => (Spread.ofValues how (cells.filterMap fun cell => cell.bind (t.toFloat? ·))).deviation?
  | .count, _, _, cells => some (Long.ofCount (cells.filterMap id).length)
  | .sum, t, how, cells => t.sum? how cells
  | .least, t, _, cells => reduce? t.lesser (cells.filterMap id)
  | .greatest, t, _, cells => reduce? t.greater (cells.filterMap id)

end Statistic

end TieWalk
