import TieWalk.Context

/-!
# Paths and queries

A query names the relationships to follow from the persons of a sample and the variables to aggregate over the persons
reached. A `WrittenPath` is what the text says: context names as written, with their byte offsets. A `Query` is what it
means: contexts and codes of the codebook, and each variable once. Both hold their hops outward from the sample,
whichever way round the text was written.
-/

namespace TieWalk

/-- The word that stands for the sample. -/
def anchor : String := "sample"

/-- Which end of the path the text started with. -/
inductive Direction where
  | variablesFirst
  | sampleFirst
  deriving DecidableEq, Repr

/-- The codes that a hop follows: every code of its context, or those listed. -/
inductive Selection where
  | all
  | only (codes : AscSet Code)
  deriving DecidableEq, Repr

namespace Selection

/-- The codes selected in a context. -/
def codesIn (s : Selection) (context : Context) : AscSet Code :=
  match s with
  | .all => context.codes
  | .only codes => codes

/-- No code was listed. -/
def isAll : Selection → Bool
  | .all => true
  | .only _ => false

/-- A selection as queries write it. -/
def text : Selection → String
  | .all => "all"
  | .only codes => codes.codeText

end Selection

/-- A name and a selection in brackets: the written form of a hop. -/
def hopText (context : String) (codes : Selection) : String := context ++ "[" ++ codes.text ++ "]"

/-- Variables in brackets: the written form of a variable list. -/
def variablesText (vars : List String) : String := "[" ++ ",".intercalate vars ++ "]"

/-- A hop as written. -/
structure WrittenHop where
  /-- The context's name, not yet looked up. -/
  context : String
  codes : Selection
  /-- The byte offset of the name in the query. -/
  position : Nat
  deriving DecidableEq, Repr

/-- What stands between two arrows of a query. -/
inductive Segment where
  | vars (names : List String)
  | hop (spec : WrittenHop)
  | anchor
  deriving DecidableEq, Repr

/-- A segment as queries write it. -/
def Segment.text : Segment → String
  | .vars names => variablesText names
  | .hop spec => hopText spec.context spec.codes
  | .anchor => TieWalk.anchor

/-- A query as written: syntactically sound, its names and codes not yet looked up. -/
structure WrittenPath where
  direction : Direction
  /-- The hops outward from the sample. -/
  hops : List WrittenHop
  /-- The variables as written. -/
  vars : List String
  deriving DecidableEq, Repr

/-- A step along the ties of one context. -/
structure Hop where
  context : Context
  codes : Selection
  deriving DecidableEq, Repr

namespace Hop

/-- The step along every tie of a context. -/
def all (context : Context) : Hop := ⟨context, .all⟩

/-- The codes that the step follows. -/
def followedCodes (h : Hop) : AscSet Code := h.codes.codesIn h.context

/-- A hop as queries write it. -/
def text (h : Hop) : String := hopText h.context.name h.codes

end Hop

/-- A checked query. -/
structure Query where
  direction : Direction
  /-- The hops outward from the sample. -/
  hops : List Hop
  /-- The variables to aggregate, in written order. -/
  vars : List String
  deriving DecidableEq, Repr

namespace Query

/-- The number of hops. -/
def length (q : Query) : Nat := q.hops.length

/-- The query in normal form, piece by piece: the sample, the hops outward, the variables. -/
def tokens (q : Query) : List String := anchor :: q.hops.map Hop.text ++ [variablesText q.vars]

/-- The query in normal form. -/
def text (q : Query) : String := " -> ".intercalate q.tokens

end Query

end TieWalk
