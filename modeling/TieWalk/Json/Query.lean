import TieWalk.Json.Basic
import TieWalk.Query.Path

/-!
# Paths and queries as structured values

Encoding and decoding of the parts of a path or query. Decoding accepts any codes and any order or repetition of them,
any context text in a path and any variables: it restores a value, and checking it against the codebook is another
matter.
-/

namespace TieWalk

namespace Direction

/-- The name of a direction. -/
def name : Direction → String
  | .variablesFirst => "VariablesFirst"
  | .sampleFirst => "SampleFirst"

/-- A direction by its name. -/
def toJson (d : Direction) : Json := .text d.name

/-- Decodes a direction. -/
def ofJson? (j : Json) : Option Direction :=
  match j.caseName? with
  | some "VariablesFirst" => some .variablesFirst
  | some "SampleFirst" => some .sampleFirst
  | _ => none

end Direction

namespace Context

/-- A context by its name. -/
def toJson (c : Context) : Json := .text c.name

/-- Decodes a context, whose name has to be exact. -/
def ofJson? (j : Json) : Option Context := j.caseName?.bind ofName?

end Context

namespace Code

/-- A code as a number. -/
def toJson (c : Code) : Json := .nat c.toNat

/-- Decodes a code. -/
def ofJson? (j : Json) : Option Code := (j.natBelow? codeBound).map UInt32.ofNat

end Code

/-- Codes as a list of numbers, ascending. -/
def AscSet.codesToJson (codes : AscSet Code) : Json := .list (codes.toList.map Code.toJson)

/-- Decodes a list of codes as the set of them. -/
def AscSet.codesOfJson? (j : Json) : Option (AscSet Code) := (j.listOf? Code.ofJson?).map AscSet.ofList

namespace Selection

/-- A selection: the name of the whole, or a record of the codes listed. -/
def toJson : Selection → Json
  | .all => .text "All"
  | .only codes => .record [("Codes", codes.codesToJson)]

/-- Decodes a selection. -/
def ofJson? (j : Json) : Option Selection :=
  match j with
  | .record [("Codes", codes)] => (AscSet.codesOfJson? codes).map .only
  | j => if j.caseName? = some "All" then some .all else none

end Selection

namespace WrittenHop

/-- A written hop as a record. -/
def toJson (h : WrittenHop) : Json :=
  .record [("context", .text h.context), ("codes", h.codes.toJson), ("position", .nat h.position)]

/-- Decodes a written hop. -/
def ofJson? (j : Json) : Option WrittenHop :=
  match j.fields? ["context", "codes", "position"] with
  | some [context, codes, position] => do
    some ⟨← context.text?, ← Selection.ofJson? codes, ← position.count?⟩
  | _ => none

end WrittenHop

namespace WrittenPath

/-- A path as a record. -/
def toJson (p : WrittenPath) : Json :=
  .record [("direction", p.direction.toJson), ("hops", .list (p.hops.map WrittenHop.toJson)),
    ("variables", .texts p.vars)]

/-- Decodes a path. -/
def ofJson? (j : Json) : Option WrittenPath :=
  match j.fields? ["direction", "hops", "variables"] with
  | some [direction, hops, vars] => do
    some ⟨← Direction.ofJson? direction, ← hops.listOf? WrittenHop.ofJson?, ← vars.listOf? Json.text?⟩
  | _ => none

end WrittenPath

namespace Hop

/-- A hop as a record. -/
def toJson (h : Hop) : Json := .record [("context", h.context.toJson), ("codes", h.codes.toJson)]

/-- Decodes a hop. -/
def ofJson? (j : Json) : Option Hop :=
  match j.fields? ["context", "codes"] with
  | some [context, codes] => do some ⟨← Context.ofJson? context, ← Selection.ofJson? codes⟩
  | _ => none

end Hop

namespace Query

/-- A query as a record. -/
def toJson (q : Query) : Json :=
  .record [("direction", q.direction.toJson), ("hops", .list (q.hops.map Hop.toJson)), ("variables", .texts q.vars)]

/-- Decodes a query. -/
def ofJson? (j : Json) : Option Query :=
  match j.fields? ["direction", "hops", "variables"] with
  | some [direction, hops, vars] => do
    some ⟨← Direction.ofJson? direction, ← hops.listOf? Hop.ofJson?, ← vars.listOf? Json.text?⟩
  | _ => none

end Query

end TieWalk
