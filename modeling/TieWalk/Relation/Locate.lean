import TieWalk.Error
import TieWalk.Query.Check
import TieWalk.Relation.Store

/-!
# Finding relation files

A relation file is named for its table, its year and its version, and the newest version counts. `version?` reads a file
name, `newestFile` picks the file of a directory. A locator is any way to say which file a hop reads and which of its
codes to keep; the one that looks for versions is the default.
-/

namespace TieWalk

/-- The directory below each table's that holds its columnar files. -/
def convertedDirectory : String := "geconverteerde data"

/-- A path with one more name. -/
def joinPath (path name : String) : String :=
  if path.isEmpty || path.toList.getLast? == some '/' then path ++ name else path ++ "/" ++ name

/-- The directory of a context's files in a format. -/
def tableDirectory (base : String) (context : Context) (format : RelationFormat) : String :=
  let directory := joinPath base context.tableName
  match format with
  | .csv => directory
  | .parquet => joinPath directory convertedDirectory

/-- The part of a relation file's name before its version. -/
def versionedStem (context : Context) (year : Int) : String := context.tableStem ++ toString year ++ "TABV"

/-- The number of possible versions. -/
def versionBound : Nat := 0x100000000

/-- The version of a relation file, from its name: the digits between the stem and the first point, if the extension
after that point is the format's. -/
def version? (name : String) (context : Context) (year : Int) (format : RelationFormat) : Option Nat :=
  let stem := (versionedStem context year).toList
  if stem.isPrefixOf name.toList then
    let rest := name.toList.drop stem.length
    let digits := rest.takeWhile fun c => c != '.'
    match rest.dropWhile fun c => c != '.' with
    | [] => none
    | _ :: extension =>
      if Text.sameIgnoringCase (String.ofList extension) format.extension then
        (Text.readNat? digits).filter fun n => n < versionBound
      else none
  else none

/-- The name with the highest version. -/
def newest? (names : List (Nat × String)) : Option String :=
  match names with
  | [] => none
  | first :: rest => some (rest.foldl (fun best n => if best.1 < n.1 then n else best) first).2

/-- The newest file of a context and a year. -/
def Store.newestFile (s : Store) (base : String) (context : Context) (year : Int) (format : RelationFormat) :
    Except Error String :=
  let directory := tableDirectory base context format
  let names := (s.list? directory).getD []
  match newest? (names.filterMap fun name => (version? name context year format).map fun v => (v, name)) with
  | some name => .ok (joinPath directory name)
  | none => .error (.noRelationFile context year directory)

/-- A way to say which file a hop reads, and which codes to keep from it, given the store, the year, the base path and
the format. -/
abbrev Locator := Store → Hop → Int → String → RelationFormat → Except Error (String × AscSet Code)

namespace Locator

/-- The newest file of the hop's context, and the hop's codes. -/
def versioned : Locator := fun s hop year base format =>
  match s.newestFile base hop.context year format with
  | .ok path => .ok (path, hop.followedCodes)
  | .error e => .error e

/-- Given files and codes for some contexts, and another locator for the rest. -/
def listed (files : List (Context × String × AscSet Code)) (otherwise : Locator) :
    Locator := fun s hop year base format =>
  match files.lookup hop.context with
  | some found => .ok found
  | none => otherwise s hop year base format

end Locator

/-- The file and the codes of a written hop. -/
def Store.locateText (s : Store) (text : String) (year : Int) (base : String) (format : RelationFormat) :
    Except Error (String × AscSet Code) :=
  match Error.ofQuery (Hop.ofText text) with
  | .ok hop => Locator.versioned s hop year base format
  | .error e => .error e

end TieWalk
