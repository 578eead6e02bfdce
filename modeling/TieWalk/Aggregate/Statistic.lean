import TieWalk.Table.Type
import TieWalk.Text.Blank

/-!
# Statistics

The six ways to sum up the values of a group, the names under which they are asked for, and the column types that each
takes.
-/

namespace TieWalk

/-- A way to sum up the values of a group; absent values do not count. -/
inductive Statistic where
  | mean
  | sum
  /-- The number of values. -/
  | count
  | least
  | greatest
  /-- The standard deviation of a sample, with one degree of freedom less than values. -/
  | deviation
  deriving DecidableEq, Repr

namespace Statistic

/-- The name of a statistic. -/
def name : Statistic → String
  | .mean => "avg"
  | .sum => "sum"
  | .count => "count"
  | .least => "min"
  | .greatest => "max"
  | .deviation => "stddev_samp"

/-- The names under which statistics can be asked for. -/
def requestNames : List (String × Statistic) := [
  ("avg", .mean),
  ("mean", .mean),
  ("sum", .sum),
  ("count", .count),
  ("min", .least),
  ("max", .greatest),
  ("stddev_samp", .deviation)]

/-- The statistic that a text asks for, blanks at its ends and the case of letters apart. -/
def ofName? (text : String) : Option Statistic := requestNames.lookup (Text.lowercase (Text.trim text))

/-- The names of all statistics, for messages. -/
def allNames : String := ", ".intercalate (requestNames.map Prod.fst)

/-- A column of the type may be summed up so. -/
def accepts (s : Statistic) (t : ColumnType) : Bool :=
  match s with
  | .count => true
  | .mean | .sum | .deviation => t.isNumeric
  | .least | .greatest => t.isNumeric || t == .text || t == .bool

end Statistic

end TieWalk
