import TieWalk.Plan.Basic
import TieWalk.Table.Group
import TieWalk.Walk.Pairs
import TieWalk.Walk.Report

/-!
# Running a walk hop by hop

What both ways to walk share: reading a file through, and aggregating the characteristics of the persons reached. Then
the plain way, which holds the different pairs after each hop.
-/

namespace TieWalk

/-- The ties that reading a file through handed on, and the numbers of those that were read and handed on. -/
structure Scan where
  ties : List Tie
  rowsRead : Nat
  rowsKept : Nat
  deriving DecidableEq, Repr

/-- Reads a file through. -/
def Store.scan (s : Store) (path : String) (format : RelationFormat) (codes : Option (AscSet Code)) :
    Except Error Scan :=
  let r := s.read path format codes
  match r.fault? with
  | some fault => .error (.unreadable path fault)
  | none => .ok ⟨r.ties, r.rowsRead, r.rowsKept⟩

/-- The aggregates of the reached sample persons, and what the hops report. -/
structure WalkResult where
  aggregated : Frame
  notices : List Notice
  stages : List HopStats

/-- Pairs as a frame. -/
def pairFrame (pairs : List Pair) : Except Error Frame :=
  Frame.ofColumns? [.ofLongs ColumnName.samplePerson (pairs.map Pair.sample),
    .ofLongs ColumnName.person (pairs.map Pair.reached)]

/-- The characteristics that aggregates read: identifiers as long words, and columns without values as doubles. -/
def characteristicsFrame (characteristics : Table) (vars : List String) : Except Error Frame :=
  match characteristics.select (ColumnName.person :: vars) with
  | .ok f => .ok ((f.castLongs ColumnName.person).castNulls vars)
  | .error e => .error e

/-- How the rows of different pairs lie: those of a single pair lie together. -/
def AscSet.layout (pairs : AscSet Pair) : Layout := if pairs.size = 1 then .together else .scattered

/-- The aggregates over the persons that pairs reach, one row for each sample person who reaches one with
characteristics. -/
def summarize (pairs : AscSet Pair) (characteristics : Table) (vars : List String) (aggregates : List Aggregate) :
    Except Error Frame :=
  match pairFrame pairs.toList with
  | .error e => .error e
  | .ok left =>
    match characteristicsFrame characteristics vars with
    | .error e => .error e
    | .ok right =>
      match (Table.frame left).join (.frame right) ColumnName.person ColumnName.person .inner with
      | .error e => .error e
      | .ok joined => (Table.frame joined).group ColumnName.samplePerson aggregates pairs.layout

/-- The outcome of hops: the pairs after the last, and what each reports. -/
structure Course where
  pairs : AscSet Pair
  notices : List Notice
  stages : List HopStats
  deriving DecidableEq

/-- Walks stages from pairs. -/
def walkStages (store : Store) (format : RelationFormat) (pairs : AscSet Pair) : List LocatedStage → Except Error Course
  | [] => .ok ⟨pairs, [], []⟩
  | s :: rest =>
    match store.scan s.path format (some s.stage.codes) with
    | .error e => .error e
    | .ok scan =>
      let context := s.stage.hop.context
      let moved := Pair.follow pairs.toList scan.ties
      let next := AscSet.ofList moved
      match walkStages store format next rest with
      | .error e => .error e
      | .ok course =>
        .ok ⟨course.pairs, (Notice.ofSurplus? s.stage.index context (Pair.surplus moved)).toList ++ course.notices,
          ⟨context, scan.rowsRead, scan.rowsKept, next.size⟩ :: course.stages⟩

/-- Runs a located plan hop by hop. -/
def LocatedPlan.runEager (p : LocatedPlan) (store : Store) (ids : List Person) (characteristics : Table) :
    Except Error WalkResult :=
  match walkStages store p.format (Pair.seeds ids) p.stages with
  | .error e => .error e
  | .ok course =>
    match summarize course.pairs characteristics p.vars p.aggregates with
    | .error e => .error e
    | .ok aggregated => .ok ⟨aggregated, course.notices, course.stages⟩

end TieWalk
