import TieWalk.Aggregate.Basic
import TieWalk.Options

/-!
# Plans

A plan has a stage for each hop of a query, in the order of the walk, and the aggregates to compute at its end. Hints
say what would make it faster. A plan is located when every stage has its file; from then on the codes of a stage are
those that the locator gave.
-/

namespace TieWalk

/-- One hop of a walk. -/
structure Stage where
  /-- The number of hops before this one. -/
  index : Nat
  hop : Hop
  /-- The codes to keep. -/
  codes : AscSet Code
  deriving DecidableEq, Repr

/-- The codes to keep, as a test on the code column. -/
def codeTest (codes : AscSet Code) : String := ColumnName.code ++ " in (" ++ codes.codeText ++ ")"

/-- A stage in words. -/
def Stage.text (s : Stage) : String := "join " ++ s.hop.context.name ++ " on " ++ codeTest s.codes

/-- A walk and what to compute at its end. -/
structure Plan where
  /-- The query in normal form. -/
  query : String
  stages : List Stage
  aggregates : List Aggregate
  /-- The columns that the aggregates read. -/
  vars : List String
  hints : List String
  deriving DecidableEq, Repr

/-- The number of hops up to which a plan has no hint about them. -/
def hopLimit : Nat := 4

/-- The hint about many hops. -/
def hopHint? (hops : List Hop) : Option String :=
  if hopLimit < hops.length then
    some (toString hops.length ++ " hops exceed " ++ toString hopLimit ++
      "; every hop scans a full relationship table")
  else none

/-- The hint about the first hop that follows every code. -/
def wholeContextHint? (hops : List Hop) : Option String :=
  (hops.find? fun h => h.codes.isAll).map fun h =>
    h.text ++ " selects every relationship code; an explicit list reads fewer pairs"

namespace Plan

/-- The plan of a query. -/
def ofQuery (q : Query) (aggregates : List Aggregate) : Plan where
  query := q.text
  stages := q.hops.zipIdx.map fun (hop, index) => ⟨index, hop, hop.followedCodes⟩
  aggregates := aggregates
  vars := q.vars
  hints := (hopHint? q.hops).toList ++ (wholeContextHint? q.hops).toList

/-- The plan with one more hint. -/
def withHint (p : Plan) (hint : String) : Plan := { p with hints := p.hints ++ [hint] }

/-- There is a hint. -/
def hasHints (p : Plan) : Bool := !p.hints.isEmpty

/-- The lines of a plan in words. -/
def lines (p : Plan) : List String :=
  ["Join Plan for: " ++ p.query, "", "Stages:"] ++
    p.stages.map (fun s => "  " ++ toString (s.index + 1) ++ ". " ++ s.text) ++
    ["Aggregate: " ++ Aggregate.namesText p.aggregates] ++
    if p.hints.isEmpty then [] else ["", "Hints:"] ++ p.hints.map ("  - " ++ ·)

/-- A plan in words. -/
def text (p : Plan) : String := String.join (p.lines.map (· ++ "\n"))

end Plan

/-- The plan of a written query. -/
def Plan.ofText (text : String) (o : Options) : Except Error Plan :=
  match Error.ofQuery (Query.ofText text) with
  | .error e => .error e
  | .ok q =>
    match Aggregate.requestAll o.functions q.vars with
    | .error e => .error e
    | .ok aggregates => .ok (.ofQuery q aggregates)

/-- A stage with the file it reads. -/
structure LocatedStage where
  stage : Stage
  path : String
  deriving DecidableEq, Repr

/-- A plan whose stages have files. -/
structure LocatedPlan where
  stages : List LocatedStage
  aggregates : List Aggregate
  vars : List String
  format : RelationFormat
  deriving DecidableEq, Repr

/-- A stage with the file and the codes that the locator gives. -/
def Stage.locate (s : Stage) (store : Store) (o : Options) : Except Error LocatedStage :=
  match o.locator store s.hop o.year o.base o.format with
  | .ok (path, codes) => .ok ⟨{ s with codes := codes }, path⟩
  | .error e => .error e

/-- Finds the file of every stage. -/
def Plan.locate (p : Plan) (store : Store) (o : Options) : Except Error LocatedPlan :=
  match p.stages.mapM fun s => s.locate store o with
  | .ok stages => .ok ⟨stages, p.aggregates, p.vars, o.format⟩
  | .error e => .error e

/-- The files of a written query, stage by stage. -/
def Store.locateStages (store : Store) (text : String) (o : Options) : Except Error (List LocatedStage) :=
  match Plan.ofText text o with
  | .error e => .error e
  | .ok p =>
    match p.locate store o with
    | .ok located => .ok located.stages
    | .error e => .error e

end TieWalk
