import TieWalk.Plan.Tree
import TieWalk.Walk.Stages

/-!
# Running a plan tree

A plan tree is run from its root down. Each node gives a table, pairs or ties; a node in a place where another kind
belongs is an error. The numbers of each hop are kept under its stage number, and come out in the order of these
numbers.
-/

namespace TieWalk

/-- What the nodes run so far have reported: the numbers of hops, by ascending stage number, and the notices. -/
structure RunLog where
  stages : List (Nat × HopStats)
  notices : List Notice
  deriving DecidableEq, Repr

namespace RunLog

/-- A log of nothing. -/
def empty : RunLog := ⟨[], []⟩

/-- Numbers put under a stage number, in place of what was there. -/
def place (stage : Nat) (stats : HopStats) : List (Nat × HopStats) → List (Nat × HopStats)
  | [] => [(stage, stats)]
  | (n, s) :: rest =>
    if stage < n then (stage, stats) :: (n, s) :: rest
    else if stage = n then (stage, stats) :: rest
    else (n, s) :: place stage stats rest

/-- The log with the numbers of a stage. -/
def record (log : RunLog) (stage : Nat) (stats : HopStats) :
    RunLog := { log with stages := place stage stats log.stages }

/-- The log with the number of different pairs of a stage that it has, and a notice of those dropped. -/
def recordDistinct (log : RunLog) (stage : Nat) (context : Context) (pairs collapsed : Nat) : RunLog :=
  ⟨log.stages.map fun (n, s) => if n = stage then (n, { s with pairs := pairs }) else (n, s),
    log.notices ++ (Notice.ofSurplus? stage context collapsed).toList⟩

end RunLog

namespace PlanTree

/-- The error of a node that is not what is expected in its place. -/
def misplaced {α : Type} (n : PlanTree) (expected : String) : Except Error α :=
  .error (.frame (.misplacedNode n.label expected))

/-- The ties that a node gives. -/
def ties (store : Store) : PlanTree → Except Error Scan
  | .scan path format codes => store.scan path format codes
  | .filter codes input =>
    match ties store input with
    | .ok through =>
      let kept := through.ties.filter fun e => decide (e.code ∈ codes)
      .ok ⟨kept, through.rowsRead, kept.length⟩
    | .error e => .error e
  | n => n.misplaced "an edge source"

/-- The pairs that a node gives. -/
def pairs (store : Store) (ids : List Person) (log : RunLog) : PlanTree → Except Error (List Pair × RunLog)
  | .sample => .ok ((Pair.seeds ids).toList, log)
  | .join stage context left right =>
    match pairs store ids log left with
    | .error e => .error e
    | .ok (frontier, log) =>
      match ties store right with
      | .error e => .error e
      | .ok through =>
        let moved := Pair.follow frontier through.ties
        .ok (moved, log.record stage ⟨context, through.rowsRead, through.rowsKept, moved.length⟩)
  | .distinct stage context input =>
    match pairs store ids log input with
    | .error e => .error e
    | .ok (found, log) =>
      let different := AscSet.ofList found
      .ok (different.toList, log.recordDistinct stage context different.size (Pair.surplus found))
  | n => n.misplaced "a pair source"

/-- Runs a tree from its root. -/
def run (root : PlanTree) (store : Store) (ids : List Person) (characteristics : Table) : Except Error WalkResult :=
  match root with
  | .aggregate vars aggregates input =>
    match pairs store ids .empty input with
    | .error e => .error e
    | .ok (found, log) =>
      match summarize (AscSet.ofList found) characteristics vars aggregates with
      | .error e => .error e
      | .ok aggregated => .ok ⟨aggregated, log.notices, log.stages.map Prod.snd⟩
  | n => n.misplaced "an aggregate"

end PlanTree

end TieWalk
