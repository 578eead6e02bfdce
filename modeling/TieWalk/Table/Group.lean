import TieWalk.Aggregate.Basic
import TieWalk.Aggregate.Value
import TieWalk.AscSet
import TieWalk.Table.Join

/-!
# Grouping rows

Rows with the same key form a group; rows without a key belong to none. Groups stand in ascending order of their keys,
and each gives one row: the key as the group's first row has it, and one cell per aggregate.
-/

namespace TieWalk

/-- The different keys, ascending. -/
def groupKeys (keys : List (Option Key)) : List Key := (AscSet.ofList (keys.filterMap id)).toList

/-- The row numbers of each group. -/
def groupedRows (keys : List (Option Key)) : List (List Nat) := (groupKeys keys).map (rowsWith keys)

/-- How the rows of the groups lie in a table. -/
inductive Layout where
  /-- Anywhere. -/
  | scattered
  /-- In one run, which is the only group. -/
  | together
  deriving DecidableEq, Repr

/-- Some row of the groups has no double. -/
def Column.hasGaps (c : Column) (groups : List (List Nat)) : Bool :=
  groups.any fun rows => rows.any fun i => ((c.floats[i]?).join).isNone

/-- How the numbers of a column are summed up: a run in blocks, scattered rows one after another. -/
def Layout.summation (layout : Layout) (groups : List (List Nat)) (c : Column) : Summation :=
  match layout with
  | .scattered => .serial (c.hasGaps groups)
  | .together => .blocked

/-- The column of an aggregate: one cell for each group of rows. -/
def Aggregate.evaluate (a : Aggregate) (layout : Layout) (groups : List (List Nat)) (c : Column) : Column :=
  let how := layout.summation groups c
  ⟨a.outputName, a.statistic.resultType c.type, groups.map fun rows => a.statistic.value? c.type how (c.cellsAt rows)⟩

/-- The columns of an aggregate over a frame's groups: one, unless it takes every column but the key. -/
def Frame.aggregateColumns (f : Frame) (keyName : String) (layout : Layout) (groups : List (List Nat)) (a : Aggregate) :
    Except Error (List Column) :=
  if a.column = everyColumn then .ok ((f.drop keyName).columns.map (a.evaluate layout groups))
  else
    match f.columnOr a.column with
    | .error e => .error e
    | .ok c => .ok [a.evaluate layout groups c]

/-- Groups a frame by a column that is present. -/
def Frame.group (f : Frame) (keyName : String) (aggregates : List Aggregate) (layout : Layout) : Except Error Frame :=
  match f.columnFor keyName with
  | .error e => .error e
  | .ok key =>
    let groups := groupedRows key.keys
    match aggregates.mapM (f.aggregateColumns key.name layout groups) with
    | .error e => .error e
    | .ok columns => Frame.ofColumns? (key.pick (groups.map List.head?) :: columns.flatten)

/-- Groups a table, whose rows lie in some layout, by a column and aggregates each group. -/
def Table.group (t : Table) (keyName : String) (aggregates : List Aggregate) (layout : Layout) : Except Error Frame :=
  if !t.hasColumn keyName then .error (.column .intermediate keyName .groupKeyMissing)
  else
    match aggregates.find? fun a => !t.hasColumn a.column with
    | some a => .error (.column .intermediate a.column .aggregatedMissing)
    | none =>
      match t.toFrame with
      | .error e => .error e
      | .ok f => f.group keyName aggregates layout

end TieWalk
