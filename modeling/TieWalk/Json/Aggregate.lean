import TieWalk.Aggregate.Basic
import TieWalk.Json.Basic

/-!
# Aggregates as structured values

An aggregate is a record of its statistic, its label and its column. Any label decodes, whatever its statistic.
-/

namespace TieWalk

namespace Statistic

/-- The name of a statistic as a case. -/
def caseName : Statistic → String
  | .mean => "Avg"
  | .sum => "Sum"
  | .count => "Count"
  | .least => "Min"
  | .greatest => "Max"
  | .deviation => "StddevSamp"

/-- A statistic by its name. -/
def toJson (s : Statistic) : Json := .text s.caseName

/-- Decodes a statistic, whose name has to be exact. -/
def ofJson? (j : Json) : Option Statistic :=
  j.caseName?.bind fun name =>
    [Statistic.mean, .sum, .count, .least, .greatest, .deviation].find? fun s => s.caseName == name

end Statistic

namespace Aggregate

/-- An aggregate as a record. -/
def toJson (a : Aggregate) : Json :=
  .record [("func", a.statistic.toJson), ("label", .text a.label), ("variable", .text a.column)]

/-- Decodes an aggregate. -/
def ofJson? (j : Json) : Option Aggregate :=
  match j.fields? ["func", "label", "variable"] with
  | some [statistic, label, column] => do some ⟨← Statistic.ofJson? statistic, ← label.text?, ← column.text?⟩
  | _ => none

end Aggregate

end TieWalk
