import TieWalk.Plan.Basic

/-!
# Plan trees

A plan tree lays a located plan out as the operations of a walk, each above those that it draws on. Two rules simplify
it: a filter of a scan becomes part of the scan, and of two removals of duplicates one is enough.
-/

namespace TieWalk

/-- An operation of a walk and the operations it draws on. -/
inductive PlanTree where
  /-- Each sample person paired with itself. -/
  | sample
  /-- The ties of a file, those with the given codes or all. -/
  | scan (path : String) (format : RelationFormat) (codes : Option (AscSet Code))
  /-- The ties with the given codes. -/
  | filter (codes : AscSet Code) (input : PlanTree)
  /-- The pairs of the left node, moved along the ties of the right one. -/
  | join (stage : Nat) (context : Context) (left right : PlanTree)
  /-- The different pairs. -/
  | distinct (stage : Nat) (context : Context) (input : PlanTree)
  /-- The aggregates over the persons that the pairs reach. -/
  | aggregate (vars : List String) (aggregates : List Aggregate) (input : PlanTree)
  deriving DecidableEq, Repr

namespace PlanTree

/-- A node in words, without the nodes it draws on. -/
def label : PlanTree → String
  | .sample => "Sample"
  | .scan path format (some codes) => "Scan " ++ path ++ " [" ++ format.extension ++ "] " ++ codeTest codes
  | .scan path format none => "Scan " ++ path ++ " [" ++ format.extension ++ "]"
  | .filter codes _ => "Filter " ++ codeTest codes
  | .join stage context _ _ => "Join hop " ++ toString (stage + 1) ++ " (" ++ context.name ++ ")"
  | .distinct stage _ _ => "Distinct hop " ++ toString (stage + 1)
  | .aggregate _ aggregates _ => "Aggregate " ++ Aggregate.namesText aggregates

/-- A line at a depth of the tree. -/
def line (depth : Nat) (label : String) : String := String.ofList (List.replicate (2 * depth) ' ') ++ label ++ "\n"

/-- The lines of a tree, from a depth on. -/
def textAt (depth : Nat) : PlanTree → String
  | .sample => line depth (label .sample)
  | .scan path format codes => line depth (label (.scan path format codes))
  | .filter codes input => line depth (label (.filter codes input)) ++ textAt (depth + 1) input
  | .join stage context left right =>
    line depth (label (.join stage context left right)) ++ textAt (depth + 1) left ++ textAt (depth + 1) right
  | .distinct stage context input => line depth (label (.distinct stage context input)) ++ textAt (depth + 1) input
  | .aggregate vars aggregates input =>
    line depth (label (.aggregate vars aggregates input)) ++ textAt (depth + 1) input

/-- A tree in words. -/
def text (n : PlanTree) : String := textAt 0 n

/-- A filter of a node; a scan takes the codes into itself. -/
def filtered (codes : AscSet Code) : PlanTree → PlanTree
  | .scan path format (some present) => .scan path format (some (present.inter codes))
  | .scan path format none => .scan path format (some codes)
  | n => .filter codes n

/-- The different pairs of a node; a node that has no others stays. -/
def deduplicated (stage : Nat) (context : Context) : PlanTree → PlanTree
  | .distinct s c input => .distinct s c input
  | n => .distinct stage context n

/-- A tree simplified, from the leaves up. -/
def simplify : PlanTree → PlanTree
  | .sample => .sample
  | .scan path format codes => .scan path format codes
  | .filter codes input => filtered codes (simplify input)
  | .join stage context left right => .join stage context (simplify left) (simplify right)
  | .distinct stage context input => deduplicated stage context (simplify input)
  | .aggregate vars aggregates input => .aggregate vars aggregates (simplify input)

/-- The pairs after one more stage. -/
def extend (format : RelationFormat) (pairs : PlanTree) (s : LocatedStage) : PlanTree :=
  let context := s.stage.hop.context
  .distinct s.stage.index context
    (.join s.stage.index context pairs (.filter s.stage.codes (.scan s.path format none)))

/-- A located plan as a tree. -/
def ofPlan (p : LocatedPlan) : PlanTree :=
  .aggregate p.vars p.aggregates (p.stages.foldl (extend p.format) .sample)

end PlanTree

end TieWalk
