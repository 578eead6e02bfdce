import TieWalk.Number.Double

/-!
# Column types

Two kinds of table hold the data: frames, in which the work is done, and record batches, in which it may arrive and
leave. Each has column types of its own. A frame type is a Lean type of cell values; a batch type is a way to store the
values of one frame type, which is its `plain` type.
-/

namespace TieWalk

/-- What an instant or a length of time is counted in. -/
inductive TimeUnit where
  | nanoseconds
  | microseconds
  | milliseconds
  deriving DecidableEq, Repr

/-- The short name of a unit. -/
def TimeUnit.name : TimeUnit → String
  | .nanoseconds => "ns"
  | .microseconds => "μs"
  | .milliseconds => "ms"

/-- A type of frame column. -/
inductive ColumnType where
  | int (type : IntType)
  | float32
  | float64
  | text
  | bool
  /-- The type of a column that has no values. -/
  | null
  | date
  /-- Instants, which may be meant in a time zone. -/
  | datetime (unit : TimeUnit) (zone : Option String)
  /-- Lengths of time. -/
  | duration (unit : TimeUnit)
  | time
  | binary
  /-- Lists of whole numbers. -/
  | longList
  deriving DecidableEq, Repr

namespace ColumnType

/-- The values of a type. A date is the number of days since the start of 1970, an instant the number of units since
then, and a time the nanoseconds since midnight. -/
abbrev Carrier : ColumnType → Type
  | .int t => t.Value
  | .float32 => Float32
  | .float64 => Float
  | .text => String
  | .bool => Bool
  | .null => Empty
  | .date => IntType.i32.Value
  | .datetime _ _ => Long
  | .duration _ => Long
  | .time => Long
  | .binary => List UInt8
  | .longList => List (Option Long)

/-- The name of a type. -/
def name : ColumnType → String
  | .int t => t.name
  | .float32 => "f32"
  | .float64 => "f64"
  | .text => "str"
  | .bool => "bool"
  | .null => "null"
  | .date => "date"
  | .datetime unit none => "datetime[" ++ unit.name ++ "]"
  | .datetime unit (some zone) => "datetime[" ++ unit.name ++ ", " ++ zone ++ "]"
  | .duration unit => "duration[" ++ unit.name ++ "]"
  | .time => "time"
  | .binary => "binary"
  | .longList => "list[i64]"

/-- Whole numbers of some width. -/
def isInteger : ColumnType → Bool
  | .int _ => true
  | _ => false

/-- Floating point numbers. -/
def isFloat : ColumnType → Bool
  | .float32 | .float64 => true
  | _ => false

/-- Numbers, or no values at all. -/
def isNumeric : ColumnType → Bool
  | .int _ | .float32 | .float64 | .null => true
  | _ => false

/-- The type of identifiers. -/
abbrev long : ColumnType := .int .i64

end ColumnType

/-- A type of record batch column. -/
inductive FieldType where
  | int (type : IntType)
  | float32
  | float64
  /-- Text with offsets of 32 bits. -/
  | text
  /-- Text with offsets of 64 bits. -/
  | largeText
  | bool
  | null
  | date
  | binary
  deriving DecidableEq, Repr

namespace FieldType

/-- The frame type of the stored values. -/
abbrev plain : FieldType → ColumnType
  | .int t => .int t
  | .float32 => .float32
  | .float64 => .float64
  | .text | .largeText => .text
  | .bool => .bool
  | .null => .null
  | .date => .date
  | .binary => .binary

/-- The name of a type. -/
def name : FieldType → String
  | .int t => t.longName
  | .float32 => "Float32"
  | .float64 => "Float64"
  | .text => "Utf8"
  | .largeText => "LargeUtf8"
  | .bool => "Boolean"
  | .null => "Null"
  | .date => "Date32"
  | .binary => "Binary"

end FieldType

end TieWalk
