import TieWalk.Error

/-!
# Aggregates

An aggregate is a statistic of a column, under the label by which the statistic was asked for. The label is kept as it
was written, blanks at its ends apart, because it is the first part of the output column's name: `avg`, `mean` and `AVG`
are the same statistic in three columns.
-/

namespace TieWalk

/-- A statistic of a column. -/
structure Aggregate where
  statistic : Statistic
  /-- The statistic's name as it was asked for. -/
  label : String
  /-- The column to aggregate. -/
  column : String
  deriving DecidableEq, Repr

namespace Aggregate

/-- The name of the output column. -/
def outputName (a : Aggregate) : String := a.label ++ "_" ++ a.column

/-- The aggregate that a function name and a column ask for. -/
def request (name column : String) : Except Error Aggregate :=
  match Statistic.ofName? name with
  | some s => .ok ⟨s, Text.trim name, column⟩
  | none => .error (.unknownFunction name)

/-- The statistics that function names ask for, each with its label. -/
def labelled : List String → Except Error (List (Statistic × String))
  | [] => .ok []
  | name :: rest =>
    match Statistic.ofName? name with
    | none => .error (.unknownFunction name)
    | some s =>
      match labelled rest with
      | .ok more => .ok ((s, Text.trim name) :: more)
      | .error e => .error e

/-- Every function of every column: for each label in order of its first request, each column in order. -/
def requestAll (functions columns : List String) : Except Error (List Aggregate) :=
  if functions.isEmpty then .error .noFunctions
  else
    match labelled functions with
    | .error e => .error e
    | .ok found => .ok (found.eraseDups.flatMap fun (s, label) => columns.map fun c => ⟨s, label, c⟩)

/-- The output names, for people to read. -/
def namesText (aggregates : List Aggregate) : String := ", ".intercalate (aggregates.map outputName)

end Aggregate

end TieWalk
