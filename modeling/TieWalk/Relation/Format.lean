import TieWalk.Text.Blank

/-!
# File formats of relation tables

A relation table is stored as delimited text or as columns. The format decides the directory, the file extension and the
way of reading.
-/

namespace TieWalk

/-- A file format of relation tables. -/
inductive RelationFormat where
  | csv
  | parquet
  deriving DecidableEq, Repr

namespace RelationFormat

/-- The file extension, without its point. -/
def extension : RelationFormat → String
  | .csv => "csv"
  | .parquet => "parquet"

/-- The format that a text names, blanks at its ends and the case of letters apart. -/
def ofName? (text : String) : Option RelationFormat :=
  [RelationFormat.csv, .parquet].find? fun f => f.extension == Text.lowercase (Text.trim text)

end RelationFormat

end TieWalk
