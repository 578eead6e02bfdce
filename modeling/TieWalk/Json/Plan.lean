import TieWalk.Json.Aggregate
import TieWalk.Json.Query
import TieWalk.Plan.Basic
import TieWalk.Walk.Report

/-!
# Plans and notices as structured values

Encoding and decoding of plans, their stages, and notices.
-/

namespace TieWalk

namespace Stage

/-- A stage as a record. -/
def toJson (s : Stage) : Json :=
  .record [("index", .nat s.index), ("hop", s.hop.toJson), ("codes", s.codes.codesToJson)]

/-- Decodes a stage. -/
def ofJson? (j : Json) : Option Stage :=
  match j.fields? ["index", "hop", "codes"] with
  | some [index, hop, codes] => do some ⟨← index.count?, ← Hop.ofJson? hop, ← AscSet.codesOfJson? codes⟩
  | _ => none

end Stage

namespace Plan

/-- A plan as a record. -/
def toJson (p : Plan) : Json :=
  .record [("query", .text p.query), ("stages", .list (p.stages.map Stage.toJson)),
    ("aggregates", .list (p.aggregates.map Aggregate.toJson)), ("variables", .texts p.vars),
    ("hints", .texts p.hints)]

/-- Decodes a plan. -/
def ofJson? (j : Json) : Option Plan :=
  match j.fields? ["query", "stages", "aggregates", "variables", "hints"] with
  | some [query, stages, aggregates, vars, hints] => do
    some ⟨← query.text?, ← stages.listOf? Stage.ofJson?, ← aggregates.listOf? Aggregate.ofJson?,
      ← vars.listOf? Json.text?, ← hints.listOf? Json.text?⟩
  | _ => none

end Plan

namespace Notice

/-- A notice as a record. -/
def toJson (n : Notice) : Json :=
  .record [("stage", .nat n.stage), ("context", n.context.toJson), ("collapsed", .nat n.collapsed)]

/-- Decodes a notice. -/
def ofJson? (j : Json) : Option Notice :=
  match j.fields? ["stage", "context", "collapsed"] with
  | some [stage, context, collapsed] => do some ⟨← stage.count?, ← Context.ofJson? context, ← collapsed.count?⟩
  | _ => none

end Notice

end TieWalk
