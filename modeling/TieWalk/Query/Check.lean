import TieWalk.Query.Grammar

/-!
# Checking a path against the codebook

A path becomes a query when it has a variable, when every context it names is known, and when every code it lists
belongs to its context. The checks run in that order, each over the hops outward from the sample, so the refusal does
not depend on the way round in which the text was written. Of a hop's foreign codes the smallest is reported. A variable
named twice counts once.
-/

namespace TieWalk

/-- The context that a text names, blanks at its ends apart. -/
def Context.ofText (text : String) : Except QueryFault Context :=
  match Context.ofName? (Text.trim text) with
  | some context => .ok context
  | none => .error (.unknownContext (Text.trim text))

/-- The smallest code of a selection that a context does not have. -/
def Selection.foreignCode? (s : Selection) (context : Context) : Option Code :=
  match s with
  | .all => none
  | .only codes => codes.toList.find? fun code => !decide (code ∈ context.codes)

/-- A hop whose context has every code it lists. -/
def Hop.check (context : Context) (codes : Selection) : Except QueryFault Hop :=
  match codes.foreignCode? context with
  | some code => .error (.invalidCode context code)
  | none => .ok ⟨context, codes⟩

namespace WrittenPath

/-- The contexts of hops, in their order. -/
def contexts : List WrittenHop → Except QueryFault (List Context)
  | [] => .ok []
  | spec :: rest =>
    match Context.ofText spec.context with
    | .error e => .error e
    | .ok context =>
      match contexts rest with
      | .error e => .error e
      | .ok more => .ok (context :: more)

/-- Hops in their contexts, with their codes checked. -/
def checkedHops : List (WrittenHop × Context) → Except QueryFault (List Hop)
  | [] => .ok []
  | (spec, context) :: rest =>
    match Hop.check context spec.codes with
    | .error e => .error e
    | .ok hop =>
      match checkedHops rest with
      | .error e => .error e
      | .ok more => .ok (hop :: more)

/-- Checks a path against the codebook. -/
def check (path : WrittenPath) : Except QueryFault Query :=
  if path.vars.isEmpty then .error .noVariables
  else
    match contexts path.hops with
    | .error e => .error e
    | .ok found =>
      match checkedHops (path.hops.zip found) with
      | .error e => .error e
      | .ok hops => .ok ⟨path.direction, hops, path.vars.eraseDups⟩

end WrittenPath

/-- Reads and checks a query. -/
def Query.ofText (text : String) : Except QueryFault Query :=
  match WrittenPath.ofText text with
  | .error e => .error e
  | .ok path => path.check

/-- Reads and checks a hop by itself. -/
def Hop.ofText (text : String) : Except QueryFault Hop :=
  match WrittenHop.ofText text with
  | .error e => .error e
  | .ok spec =>
    match Context.ofText spec.context with
    | .error e => .error e
    | .ok context => Hop.check context spec.codes

end TieWalk
