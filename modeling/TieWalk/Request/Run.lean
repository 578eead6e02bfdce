import TieWalk.Request.Check
import TieWalk.Table.Attach
import TieWalk.Walk.Deferred

/-!
# Answering a request

The whole of a request: it is checked, planned and given its files before any of them is read; then the walk is run, and
the aggregates are put beside the sample.
-/

namespace TieWalk

/-- What a request gives. -/
structure Outcome where
  /-- The sample's columns, then a column for each aggregate. -/
  table : Table
  notices : List Notice
  stages : List HopStats
  /-- The number of sample persons with an aggregated person. -/
  reached : Nat

/-- There is a notice. -/
def Outcome.hasNotices (o : Outcome) : Bool := !o.notices.isEmpty

/-- Runs a located plan in the way that is chosen. -/
def LocatedPlan.run (p : LocatedPlan) (mode : WalkMode) (store : Store) (ids : List Person) (characteristics : Table) :
    Except Error WalkResult :=
  match mode with
  | .eager => p.runEager store ids characteristics
  | .deferred => (PlanTree.ofPlan p).simplify.run store ids characteristics

/-- A frame as the kind of table that is chosen. -/
def Frame.toKind (f : Frame) : OutputKind → Except Error Table
  | .frame => .ok (.frame f)
  | .batch => (Batch.ofFrame f).map .batch

/-- Answers a request from the files of a store. -/
def Request.run (r : Request) (store : Store) : Except Error Outcome := do
  let checked ← r.check
  let plan ← (Plan.ofQuery checked.query checked.aggregates).locate store r.options
  let ids ← Sample.persons r.sample
  let result ← plan.run r.options.mode store ids r.characteristics
  let attached ← r.sample.attach result.aggregated
  let table ← attached.toKind r.options.output
  return ⟨table, result.notices, result.stages, result.aggregated.height⟩

end TieWalk
