import TieWalk.Relation.Locate
import TieWalk.Text.Quoted

/-!
# Options

What a request may choose besides its query and its tables: the year, the base path and the format of the relation
files, the functions to apply to every variable, the kind of table to return, how to walk, how to find files, and the
name space that person identifiers belong to.
-/

namespace TieWalk

/-- The kind of table to return. -/
inductive OutputKind where
  | frame
  | batch
  deriving DecidableEq, Repr

/-- How to walk: hop by hop, or by a plan that is laid out and simplified first. -/
inductive WalkMode where
  | eager
  | deferred
  deriving DecidableEq, Repr

/-- The choices of a request. -/
structure Options where
  year : Int := 2020
  /-- The base path of the relation directories. -/
  base : String := "G:/Bevolking"
  format : RelationFormat := .parquet
  /-- The functions to apply to every variable. -/
  functions : List String := ["avg"]
  output : OutputKind := .frame
  mode : WalkMode := .eager
  locator : Locator := .versioned
  /-- The name space that the sample's identifiers have to be in, where it says one. -/
  idSpace : String := "R"

/-- The name of an output kind. -/
def OutputKind.name : OutputKind → String
  | .frame => "DataFrame"
  | .batch => "RecordBatch"

/-- The name of a way to walk. -/
def WalkMode.name : WalkMode → String
  | .eager => "Eager"
  | .deferred => "Deferred"

/-- The name of a file format. -/
def RelationFormat.name : RelationFormat → String
  | .csv => "Csv"
  | .parquet => "Parquet"

namespace Options

/-- The choices and their names, in order. A locator has no text. -/
def shownFields (o : Options) : List (String × String) := [
  ("year", toString o.year),
  ("cbsdata_path", Text.quoted o.base),
  ("format", o.format.name),
  ("agg_funcs", Text.quotedList o.functions),
  ("output", o.output.name),
  ("mode", o.mode.name),
  ("namespace", Text.quoted o.idSpace)]

/-- The options on one line, for people to read. -/
def text (o : Options) : String :=
  "TransformOptions \x7b " ++ ", ".intercalate (o.shownFields.map fun (name, value) => name ++ ": " ++ value) ++
  ", .. \x7d"

end Options

end TieWalk
