import TieWalk.Relation.Columnar
import TieWalk.Relation.Delimited

/-!
# The file store

Relation files lie in a tree of directories. The store is that tree as a value: a list of the places in it, each given
by the names that lead there from the root, with what is there. Paths are texts with slashes, of limited length, and so
are the names in them; `.` and `..` mean what they mean everywhere, and nothing is above the root. A path that begins
with a slash starts at the root, any other one in the working directory.
-/

namespace TieWalk

/-- What a file holds: its bytes, and what a decoder of columnar files makes of them. -/
structure Content where
  bytes : List UInt8
  columnar : Except ReadFault Columnar.File

/-- Bytes that are no columnar file. -/
def Content.ofBytes (bytes : List UInt8) : Content := ⟨bytes, .error (Columnar.footerFault bytes)⟩

/-- What is at a place. -/
inductive Entry where
  | file (content : Content)
  | directory

/-- A tree of files: the names that lead to each entry, and the entry. The root needs no mention. -/
structure Store where
  entries : List (List String × Entry)
  /-- The names that lead to the working directory. -/
  working : List String := []

namespace Store

/-- A store without files, in which the root is the working directory. -/
def empty : Store := ⟨[], []⟩

/-- A store without files, with nothing but a working directory and what it lies in. -/
def emptyAt (working : List String) : Store :=
  ⟨(List.range working.length).map fun n => (working.take (n + 1), .directory), working⟩

/-- What names lead to from the root. -/
def entry? (s : Store) (names : List String) : Option Entry :=
  if names.isEmpty then some .directory else s.entries.lookup names

/-- The greatest length of a name, in bytes. -/
def nameLimit : Nat := 255

/-- The greatest length of a path, in bytes. -/
def pathLimit : Nat := 4095

/-- One step of a path. Whether a step can be made is seen before the length of its name. -/
def step (s : Store) (here : List String) (name : String) : Except ReadFault (List String) :=
  match s.entry? here with
  | none => .error .noSuchFile
  | some (.file _) => .error .notADirectory
  | some .directory =>
    if name = "" || name = "." then .ok here
    else if name = ".." then .ok here.dropLast
    else if nameLimit < name.utf8ByteSize then .error .nameTooLong
    else .ok (here ++ [name])

/-- Characters cut at each slash. -/
def cutAtSlashes : List Char → List (List Char)
  | [] => [[]]
  | c :: rest =>
    match c == '/', cutAtSlashes rest with
    | true, words => [] :: words
    | false, [] => [[c]]
    | false, word :: words => (c :: word) :: words

/-- The pieces of a path between its slashes. -/
def piecesOf (path : String) : List String := (cutAtSlashes path.toList).map String.ofList

/-- The names in a path. -/
def namesOf (path : String) : List String := (piecesOf path).filter fun n => n != "" && n != "."

/-- A path can be looked up at all. -/
def checkPath (path : String) : Except ReadFault Unit :=
  if path.toList.any fun c => c.toNat == 0 then .error .nulInPath
  else if pathLimit < path.utf8ByteSize then .error .nameTooLong
  else if path.isEmpty then .error .noSuchFile
  else .ok ()

/-- The place where a path starts. -/
def startOf (s : Store) (path : String) : List String := if path.toList.head? == some '/' then [] else s.working

/-- The place that a path leads to, and what is there. -/
def find (s : Store) (path : String) : Except ReadFault (List String × Entry) := do
  checkPath path
  let here ← (piecesOf path).foldlM s.step (s.startOf path)
  match s.entry? here with
  | some entry => return (here, entry)
  | none => throw .noSuchFile

/-- The names in a directory, if a path leads to one. -/
def list? (s : Store) (path : String) : Option (List String) :=
  match s.find path with
  | .ok (here, .directory) =>
    some (s.entries.filterMap fun (names, _) => if names.dropLast = here then names.getLast? else none)
  | _ => none

/-- The store with an entry at names, in place of what was there. -/
def set (s : Store) (names : List String) (entry : Entry) : Store :=
  { s with entries := (s.entries.filter fun e => e.1 != names) ++ [(names, entry)] }

/-- The store with a directory at names, unless something is there. -/
def makeDirectory (s : Store) (names : List String) : Store :=
  match s.entry? names with
  | some _ => s
  | none => s.set names .directory

/-- The places that names pass from a place on, the last of which they lead to. -/
def passed (here : List String) : List String → List (List String)
  | [] => [here]
  | name :: rest => here :: passed (if name = ".." then here.dropLast else here ++ [name]) rest

/-- Where a path leads to, whether or not something is there. -/
def target (s : Store) (path : String) : List String := (passed (s.startOf path) (namesOf path)).getLast?.getD []

/-- The store with a file or directory written, and with the directories on the way to it. -/
def write (s : Store) (path : String) (entry : Entry) : Store :=
  ((passed (s.startOf path) (namesOf path)).dropLast.foldl makeDirectory s).set (s.target path) entry

/-- The store without what is at a path and below it. -/
def remove (s : Store) (path : String) : Store :=
  { s with entries := s.entries.filter fun e => !(s.target path).isPrefixOf e.1 }

/-- The rows of a relation file. -/
def rows (s : Store) (path : String) (format : RelationFormat) : List Row :=
  match s.find path, format with
  | .error fault, _ => [.unreadable fault]
  | .ok (_, .directory), .csv => [.unreadable .directory]
  | .ok (_, .directory), .parquet => [.unreadable .columnarDirectory]
  | .ok (_, .file content), .csv => Delimited.rows content.bytes
  | .ok (_, .file content), .parquet =>
    match content.columnar with
    | .error fault => [.unreadable fault]
    | .ok file => Columnar.rows file

/-- Reads a relation file, handing on the ties whose code is asked for. -/
def read (s : Store) (path : String) (format : RelationFormat) (codes : Option (AscSet Code)) : Reading :=
  Reading.ofRows codes (s.rows path format)

end Store

end TieWalk
