import TieWalk.Table.Frame

/-!
# Record batches

A record batch is a list of fields of the same number of rows, whose names may repeat. Batches and frames turn into each
other column by column, each direction by a table of its own: on the way to a frame the values of a field are widened,
on the way to a batch the cells of a column are read as long words or as doubles. In both integers become long words,
except the widest unsigned ones, and floats become doubles; dates, times and binary values cannot cross. A frame without
columns does not become a batch, since nothing would say how many rows it has.
-/

namespace TieWalk

/-- A column of a record batch. -/
structure Field where
  name : String
  type : FieldType
  cells : List (Option type.plain.Carrier)

namespace Field

/-- The number of rows. -/
def height (f : Field) : Nat := f.cells.length

/-- The field's values as a frame column of the plain type. -/
def plain (f : Field) : Column := ⟨f.name, f.type.plain, f.cells⟩

/-- The frame column of a field: its values, widened to long words if they are integers of another type than the widest
unsigned one, and to doubles if they are floats. -/
def toColumn : Field → Except Error Column
  | ⟨name, .int .u64, cells⟩ => .ok ⟨name, .int .u64, cells⟩
  | ⟨name, .int _, cells⟩ => .ok ⟨name, .long, cells.map (Option.map fun v => IntType.i64.wrap v.toInt)⟩
  | ⟨name, .float32, cells⟩ => .ok ⟨name, .float64, cells.map (Option.map Float32.toFloat)⟩
  | ⟨name, .float64, cells⟩ => .ok ⟨name, .float64, cells⟩
  | ⟨name, .bool, cells⟩ => .ok ⟨name, .bool, cells⟩
  | ⟨name, .text, cells⟩ => .ok ⟨name, .text, cells⟩
  | ⟨name, .largeText, cells⟩ => .ok ⟨name, .text, cells⟩
  | ⟨name, .null, cells⟩ => .ok ⟨name, .null, cells⟩
  | ⟨name, .date, _⟩ => .error (.frame (.unsupportedField name .date))
  | ⟨name, .binary, _⟩ => .error (.frame (.unsupportedField name .binary))

/-- The field of a frame column: its cells as they are, or else read as doubles if they are floats, and as long words if
they are integers. -/
def ofColumn (c : Column) : Except Error Field :=
  match c with
  | ⟨name, .bool, cells⟩ => .ok ⟨name, .bool, cells⟩
  | ⟨name, .text, cells⟩ => .ok ⟨name, .text, cells⟩
  | ⟨name, .int .u64, cells⟩ => .ok ⟨name, .int .u64, cells⟩
  | ⟨name, .null, cells⟩ => .ok ⟨name, .null, cells⟩
  | c =>
    if c.type.isFloat then .ok ⟨c.name, .float64, c.floats⟩
    else if c.type.isInteger then .ok ⟨c.name, .int .i64, c.longs⟩
    else .error (.frame (.unsupportedColumn c.name c.type))

end Field

/-- The number of rows of fields that agree on it. -/
def rowsOf : List Field → Nat
  | [] => 0
  | f :: _ => f.height

/-- Fields of one height. -/
structure Batch where
  fields : List Field
  even : ∀ f ∈ fields, f.height = rowsOf fields

namespace Batch

/-- The number of rows. -/
def height (b : Batch) : Nat := rowsOf b.fields

/-- The field names, in order. -/
def names (b : Batch) : List String := b.fields.map Field.name

/-- The first field of a name. -/
def field? (b : Batch) (name : String) : Option Field := b.fields.find? fun f => f.name == name

/-- The batch of fields, if their heights agree. -/
def ofFields? (fields : List Field) : Except Error Batch :=
  if even : ∀ f ∈ fields, f.height = rowsOf fields then .ok ⟨fields, even⟩
  else .error (.operation .unevenColumns)

/-- The batch of a frame's columns in normal form. -/
def ofFrame (f : Frame) : Except Error Batch :=
  match f.columns.mapM Field.ofColumn with
  | .error e => .error e
  | .ok [] => .error .emptyBatch
  | .ok fields => ofFields? fields

end Batch

end TieWalk
