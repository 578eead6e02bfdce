import TieWalk.Relation.Tie
import TieWalk.Table.Batch

/-!
# Columnar relation files

How columns are laid out in bytes is a decoder's business; what it makes of a file are columns, of all rows or of those
before a place from where it could not go on. A columnar file is read in groups of rows. In each group the three columns
are read one after the other, each whole, before any tie of the group is handed on: a bad cell hides its whole group,
and of several the first of the first bad column is reported.
-/

namespace TieWalk.Columnar

/-- What a decoder makes of a columnar file. -/
structure File where
  /-- The columns of the rows that it hands on. -/
  columns : Batch
  /-- Why it does not go on after them, if rows are left. -/
  damage? : Option String := none

/-- The number of rows that are read together. -/
def groupSize : Nat := 1024

/-- A list in pieces of a length, the last of which may be shorter. -/
def pieces {α : Type} (length : Nat) (h : 0 < length) : List α → List (List α)
  | [] => []
  | a :: rest => (a :: rest).take length :: pieces length h ((a :: rest).drop length)
  termination_by l => l.length
  decreasing_by simp only [List.length_drop, List.length_cons]; omega

/-- The number in a cell of a field type. -/
def readField (column : String) : (t : FieldType) → Option t.plain.Carrier → Except ReadFault (Option Long)
  | .int _, cell => .ok (cell.bind fun v => Long.ofInt? v.toInt)
  | .text, none | .largeText, none => .ok none
  | .text, some s => readCell column s
  | .largeText, some s => readCell column s
  | .float32, _ => .error (.unsupportedType column .float32)
  | .float64, _ => .error (.unsupportedType column .float64)
  | .bool, _ => .error (.unsupportedType column .bool)
  | .null, _ => .error (.unsupportedType column .null)
  | .date, _ => .error (.unsupportedType column .date)
  | .binary, _ => .error (.unsupportedType column .binary)

/-- The numbers in the cells of a field. -/
def readCells (f : Field) : List (Except ReadFault (Option Long)) := f.cells.map (readField f.name f.type)

/-- The three cells of a row, as read. -/
structure Cells where
  person : Except ReadFault (Option Long)
  relative : Except ReadFault (Option Long)
  code : Except ReadFault (Option Long)

/-- The fault of a cell that could not be read. -/
def faultOf? : Except ReadFault (Option Long) → Option ReadFault
  | .ok _ => none
  | .error fault => some fault

/-- The fault that a group reports. -/
def groupFault? (group : List Cells) : Option ReadFault :=
  (group.findSome? fun c => faultOf? c.person).or
    ((group.findSome? fun c => faultOf? c.relative).or (group.findSome? fun c => faultOf? c.code))

/-- The row of three cells that could be read. -/
def Cells.row (c : Cells) : Row :=
  match c.person, c.relative, c.code with
  | .ok person, .ok relative, .ok code => Row.ofCells person relative code
  | .error fault, _, _ | _, .error fault, _ | _, _, .error fault => .unreadable fault

/-- The rows of a group. -/
def groupRows (group : List Cells) : List Row :=
  match groupFault? group with
  | some fault => [.unreadable fault]
  | none => group.map Cells.row

/-- The cells of three fields, row by row. -/
def cellsOf (person relative code : Field) : List Cells :=
  List.zipWith (fun (p, r) c => ⟨p, r, c⟩) ((readCells person).zip (readCells relative)) (readCells code)

/-- The field of a name. -/
def fieldOf (columns : Batch) (name : String) : Except ReadFault Field :=
  match columns.field? name with
  | some f => .ok f
  | none => .error (.missingColumn name)

/-- The cells of the three columns; of missing columns the first is reported. -/
def fileCells (columns : Batch) : Except ReadFault (List Cells) := do
  let person ← fieldOf columns ColumnName.person
  let relative ← fieldOf columns ColumnName.relative
  let code ← fieldOf columns ColumnName.code
  return cellsOf person relative code

/-- The rows of a columnar file, the last of which stands for those that are not decoded. -/
def rows (file : File) : List Row :=
  match fileCells file.columns with
  | .error fault => [.unreadable fault]
  | .ok cells =>
    (pieces groupSize (by decide) cells).flatMap groupRows ++
      (file.damage?.map fun words => Row.unreadable (.undecodable words)).toList

/-- The bytes that end a columnar file, `PAR1`. -/
def magic : List UInt8 := [0x50, 0x41, 0x52, 0x31]

/-- The number that four bytes spell, the lowest first. -/
def littleEndian (bytes : List UInt8) : Nat := bytes.foldr (fun b n => b.toNat + 256 * n) 0

/-- Why bytes are no columnar file: they are too few, do not end as one, or are fewer than the length that stands before
the end promises. -/
def footerFault (bytes : List UInt8) : ReadFault :=
  let size := bytes.length
  let footer := bytes.drop (size - 8)
  let length := littleEndian (footer.take 4)
  if size < 8 then .tooSmall size 8
  else if footer.drop 4 ≠ magic then .corruptFooter
  else if size < length + 8 then .tooSmall size (length + 8)
  else .corruptFooter

end TieWalk.Columnar
