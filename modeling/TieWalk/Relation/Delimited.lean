import TieWalk.Relation.Tie
import TieWalk.Text.Utf8

/-!
# Delimited relation files

A delimited file is a list of records of fields with semicolons between them. A carriage return or a line feed ends a
record, so that both together end it once and leave an empty line, and empty lines are skipped. A field that starts with
a double quote runs to the next single one of them, whatever stands between; two double quotes stand for one. The first
record is the header.
-/

namespace TieWalk.Delimited

/-- The delimiter between fields, a semicolon. -/
def delimiter : UInt8 := 0x3B

/-- The double quote. -/
def quote : UInt8 := 0x22

/-- The line feed. -/
def lineFeed : UInt8 := 0x0A

/-- A carriage return or a line feed. -/
def isLineEnd (b : UInt8) : Bool := b == 0x0D || b == lineFeed

/-- Where in a record the next byte stands. -/
inductive Mode where
  /-- Before a record. -/
  | between
  /-- After a delimiter. -/
  | fieldStart
  /-- In a field, outside quotes. -/
  | bare
  /-- Inside quotes. -/
  | quoted
  /-- After a quote inside quotes. -/
  | closing
  deriving DecidableEq, Repr

/-- What a byte does. -/
inductive Effect where
  /-- It belongs to no record. -/
  | skip
  /-- It is a quote that belongs to no field. -/
  | move (mode : Mode)
  /-- It belongs to the field. -/
  | add (mode : Mode)
  | endField
  | endRecord
  deriving DecidableEq, Repr

/-- What a byte does outside quotes. -/
def bareEffect (b : UInt8) : Effect :=
  if b == delimiter then .endField else if isLineEnd b then .endRecord else .add .bare

/-- What a byte does at the start of a field. -/
def startEffect (b : UInt8) : Effect := if b == quote then .move .quoted else bareEffect b

/-- What a byte does. -/
def effect : Mode → UInt8 → Effect
  | .between, b => if isLineEnd b then .skip else startEffect b
  | .fieldStart, b => startEffect b
  | .bare, b => bareEffect b
  | .quoted, b => if b == quote then .move .closing else .add .quoted
  | .closing, b => if b == quote then .add .quoted else bareEffect b

/-- A place in the file: the line, and the number of bytes before it. -/
structure Place where
  line : Nat
  byte : Nat
  deriving DecidableEq, Repr

/-- The place after a byte. -/
def Place.after (p : Place) (b : UInt8) : Place := ⟨if b == lineFeed then p.line + 1 else p.line, p.byte + 1⟩

/-- A record: where its reading began, and its fields. -/
structure Record where
  place : RecordPlace
  fields : List (List UInt8)
  deriving DecidableEq, Repr

/-- A record under way: its place, the fields that are complete and the bytes of the field that is not. Fields and bytes
stand last first. -/
structure Pending where
  place : RecordPlace
  fields : List (List UInt8)
  field : List UInt8
  deriving DecidableEq, Repr

namespace Pending

/-- A record of which nothing has been read. -/
def begin (record : Nat) (here : Place) : Pending := ⟨⟨record, here.line, here.byte⟩, [], []⟩

/-- One more byte of the field. -/
def add (p : Pending) (b : UInt8) : Pending := { p with field := b :: p.field }

/-- The field is complete. -/
def endField (p : Pending) : Pending := ⟨p.place, p.field.reverse :: p.fields, []⟩

/-- The record is complete. -/
def record (p : Pending) : Record := ⟨p.place, p.endField.fields.reverse⟩

end Pending

/-- The records of bytes, from a mode, a place and a record under way. -/
def recordsFrom (mode : Mode) (here : Place) (p : Pending) : List UInt8 → List Record
  | [] => if mode = .between then [] else [p.record]
  | b :: rest =>
    match effect mode b with
    | .skip => recordsFrom mode (here.after b) p rest
    | .move next => recordsFrom next (here.after b) p rest
    | .add next => recordsFrom next (here.after b) (p.add b) rest
    | .endField => recordsFrom .fieldStart (here.after b) p.endField rest
    | .endRecord =>
      p.record :: recordsFrom .between (here.after b) (.begin (p.place.record + 1) (here.after b)) rest

/-- The bytes of a byte order mark. -/
def byteOrderMark : List UInt8 := [0xEF, 0xBB, 0xBF]

/-- The records of a file. A byte order mark at its start belongs to none, but its bytes count. -/
def records (bytes : List UInt8) : List Record :=
  let start := Pending.begin 0 ⟨1, 0⟩
  if byteOrderMark.isPrefixOf bytes then
    recordsFrom .between ⟨1, byteOrderMark.length⟩ start (bytes.drop byteOrderMark.length)
  else recordsFrom .between ⟨1, 0⟩ start bytes

/-- The texts of fields, counted from a number on. -/
def decodeFields (place : RecordPlace) (number : Nat) : List (List UInt8) → Except ReadFault (List String)
  | [] => .ok []
  | field :: rest =>
    match Text.decodeUtf8 field with
    | .error index => .error (.invalidUtf8 place number index)
    | .ok text =>
      match decodeFields place (number + 1) rest with
      | .error fault => .error fault
      | .ok more => .ok (text :: more)

/-- The texts of a record's fields. -/
def Record.texts (r : Record) : Except ReadFault (List String) := decodeFields r.place 0 r.fields

/-- The numbers of the three columns that give ties. -/
structure Header where
  person : Nat
  relative : Nat
  code : Nat
  width : Nat
  deriving DecidableEq, Repr

/-- The number of the first column of a name, blanks at the ends of the header's cells apart. -/
def columnNumber (names : List String) (name : String) : Except ReadFault Nat :=
  match names.findIdx? fun n => Text.trim n == name with
  | some i => .ok i
  | none => .error (.missingColumn name)

/-- The columns of a header; of missing ones the first is reported. -/
def Header.ofNames (names : List String) : Except ReadFault Header := do
  let person ← columnNumber names ColumnName.person
  let relative ← columnNumber names ColumnName.relative
  let code ← columnNumber names ColumnName.code
  return ⟨person, relative, code, names.length⟩

/-- The cells of a record, in the order of the report of a bad one. -/
def Header.readCells (h : Header) (texts : List String) : Except ReadFault Row := do
  let person ← readCell ColumnName.person (texts[h.person]?.getD "")
  let relative ← readCell ColumnName.relative (texts[h.relative]?.getD "")
  let code ← readCell ColumnName.code (texts[h.code]?.getD "")
  return Row.ofCells person relative code

/-- A row that may be faulty. -/
def rowOf : Except ReadFault Row → Row
  | .ok row => row
  | .error fault => .unreadable fault

/-- The row of a record. Its length is checked before its text. -/
def Header.row (h : Header) (r : Record) : Row :=
  if r.fields.length ≠ h.width then .unreadable (.unequalLength r.place r.fields.length h.width)
  else
    match r.texts with
    | .error fault => .unreadable fault
    | .ok texts => rowOf (h.readCells texts)

/-- The header of records; no record at all is a header without cells. -/
def headerOf : List Record → Except ReadFault Header
  | [] => Header.ofNames []
  | r :: _ =>
    match r.texts with
    | .error fault => .error fault
    | .ok names => Header.ofNames names

/-- The rows of a delimited file. -/
def rows (bytes : List UInt8) : List Row :=
  let all := records bytes
  match headerOf all with
  | .error fault => [.unreadable fault]
  | .ok header => all.tail.map header.row

end TieWalk.Delimited
