import TieWalk.Relation.Names
import TieWalk.Table.Type

/-!
# What can be wrong with a relation file

A file that cannot be read through is refused for one cause. `ReadFault.message` words it; the path is added by whoever
reports it.
-/

namespace TieWalk

/-- A place in a delimited text where the reading of a record began. -/
structure RecordPlace where
  /-- The number of records before this one; the header is record 0. -/
  record : Nat
  line : Nat
  byte : Nat
  deriving DecidableEq, Repr

/-- Why a relation file cannot be read. -/
inductive ReadFault where
  | noSuchFile
  | notADirectory
  /-- A path, or a name in it, of more bytes than it may have. -/
  | nameTooLong
  /-- A path with the null character in it. -/
  | nulInPath
  | directory
  /-- A directory in place of a columnar file. -/
  | columnarDirectory
  | missingColumn (name : String)
  | invalidCell (column cell : String)
  | unequalLength (place : RecordPlace) (fields headerFields : Nat)
  | invalidUtf8 (place : RecordPlace) (field index : Nat)
  | unsupportedType (column : String) (type : FieldType)
  | tooSmall (size needed : Nat)
  | corruptFooter
  /-- Anything else that keeps a columnar file, or the rest of one, from being decoded, as the decoder words it. -/
  | undecodable (words : String)
  deriving DecidableEq, Repr

/-- The wording of a fault. -/
def ReadFault.message : ReadFault → String
  | .noSuchFile => "No such file or directory (os error 2)"
  | .notADirectory => "Not a directory (os error 20)"
  | .nameTooLong => "File name too long (os error 36)"
  | .nulInPath => "file name contained an unexpected NUL byte"
  | .directory => "Is a directory (os error 21)"
  | .columnarDirectory => "External: Is a directory (os error 21)"
  | .missingColumn name => "missing column '" ++ name ++ "'"
  | .invalidCell column cell => "invalid " ++ column ++ " '" ++ cell ++ "'"
  | .unequalLength place fields headerFields =>
    "CSV error: record " ++ toString place.record ++ " (line: " ++ toString place.line ++ ", byte: " ++
      toString place.byte ++ "): found record with " ++ toString fields ++ " fields, but the previous record has " ++
      toString headerFields ++ " fields"
  | .invalidUtf8 place field index =>
    "CSV parse error: record " ++ toString place.record ++ " (line " ++ toString place.line ++ ", field: " ++
    toString field ++
      ", byte: " ++ toString place.byte ++ "): invalid utf-8: invalid UTF-8 in field " ++ toString field ++
      " near byte index " ++ toString index
  | .unsupportedType column type => "column '" ++ column ++ "' has unsupported type " ++ type.name
  | .tooSmall size needed =>
    "EOF: Parquet file too small. Size is " ++ toString size ++ " but need " ++ toString needed
  | .corruptFooter => "Parquet error: Invalid Parquet file. Corrupt footer"
  | .undecodable words => words

end TieWalk
