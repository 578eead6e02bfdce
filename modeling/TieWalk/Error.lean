import TieWalk.Aggregate.Statistic
import TieWalk.Query.Fault
import TieWalk.Relation.Fault
import TieWalk.Relation.Format

/-!
# What can be wrong with a walk

A request is refused for one cause: the query, a column of a table, an unknown function or format, a relation file, or a
table that cannot be built. `Error.message` is the one place where causes are worded.
-/

namespace TieWalk

/-- The part that a table plays. -/
inductive TableRole where
  | sample
  | characteristics
  /-- A table made on the way. -/
  | intermediate
  deriving DecidableEq, Repr

/-- The name of a role. -/
def TableRole.name : TableRole → String
  | .sample => "sample"
  | .characteristics => "characteristics"
  | .intermediate => "intermediate"

/-- What is wrong with a column. -/
inductive ColumnFault where
  | missing
  | joinKeyMissing
  | groupKeyMissing
  | aggregatedMissing
  /-- Identifiers of a type that is no integer type; the type is given where a report names it. -/
  | identifiersNotIntegers (found : Option ColumnType)
  | nullIdentifiers (count : Nat)
  | reserved
  | notText (found : ColumnType)
  /-- Rows outside the name space, their number, and the first of their cells. -/
  | otherIdSpace (expected : String) (rows : Nat) (first : Option String)
  | identifierAggregated
  | cannotAggregate (statistic : Statistic) (type : ColumnType)
  | outputNameTaken
  deriving DecidableEq, Repr

/-- The wording of a column's fault. -/
def ColumnFault.message : ColumnFault → String
  | .missing => "column is missing"
  | .joinKeyMissing => "join key is missing"
  | .groupKeyMissing => "group key is missing"
  | .aggregatedMissing => "aggregation column is missing"
  | .identifiersNotIntegers none => "identifiers must be integers"
  | .identifiersNotIntegers (some found) => "identifiers must be integers, found " ++ found.name
  | .nullIdentifiers count => toString count ++ " null identifiers"
  | .reserved => "column name is reserved"
  | .notText found => "expected text, found " ++ found.name
  | .otherIdSpace expected rows first =>
    "expected '" ++ expected ++ "' but " ++ toString rows ++ " rows differ, first '" ++ first.getD "null" ++ "'"
  | .identifierAggregated => "identifier columns cannot be aggregated"
  | .cannotAggregate statistic type => statistic.name ++ " cannot aggregate a " ++ type.name ++ " column"
  | .outputNameTaken => "output column already exists"

/-- What keeps a table from being built or converted. -/
inductive FrameFault where
  | unsupportedField (column : String) (type : FieldType)
  | unsupportedColumn (column : String) (type : ColumnType)
  | rowCount (output sample : Nat)
  /-- A node of a plan stands where another kind of node belongs. -/
  | misplacedNode (label expected : String)
  deriving DecidableEq, Repr

/-- The wording of a table's fault. -/
def FrameFault.message : FrameFault → String
  | .unsupportedField column type => "column '" ++ column ++ "' has unsupported type " ++ type.name
  | .unsupportedColumn column type => "column '" ++ column ++ "' has unsupported type " ++ type.name
  | .rowCount output sample =>
    "reconciled output has " ++ toString output ++ " rows but the sample has " ++ toString sample
  | .misplacedNode label expected => "plan node '" ++ label ++ "' is not " ++ expected

/-- An operation that its tables do not admit. -/
inductive OperationFault where
  | repeatedName (column : String)
  | unevenColumns
  | unknownColumn (name : String)
  | keyTypes (left right : ColumnType)
  | comparedTypes (column : String)
  /-- The name of every column stands where one column belongs. -/
  | everyColumn
  deriving DecidableEq, Repr

/-- The wording of an operation's fault. -/
def OperationFault.message : OperationFault → String
  | .repeatedName column => "column '" ++ column ++ "' appears twice"
  | .unevenColumns => "columns differ in length"
  | .unknownColumn name => "no column '" ++ name ++ "'"
  | .keyTypes left right => "join keys of types " ++ left.name ++ " and " ++ right.name ++ " cannot be compared"
  | .comparedTypes column => "column '" ++ column ++ "' cannot be compared with the value"
  | .everyColumn => "one column is needed"

/-- Why a request is refused. -/
inductive Error where
  | query (cause : QueryFault)
  | column (role : TableRole) (name : String) (fault : ColumnFault)
  | unknownFunction (name : String)
  | noFunctions
  | unknownFormat (text : String)
  | noRelationFile (context : Context) (year : Int) (directory : String)
  | unreadable (path : String) (fault : ReadFault)
  | frame (fault : FrameFault)
  | operation (fault : OperationFault)
  /-- A record batch needs a column. -/
  | emptyBatch
  deriving DecidableEq, Repr

/-- The wording of a refusal. -/
def Error.message : Error → String
  | .query cause => "query error: " ++ cause.message
  | .column role name fault =>
    "schema error in " ++ role.name ++ " frame, column '" ++ name ++ "': " ++ fault.message
  | .unknownFunction name => "unsupported aggregation function '" ++ name ++ "'; supported: " ++ Statistic.allNames
  | .noFunctions => "no aggregation functions requested; supported: " ++ Statistic.allNames
  | .unknownFormat text => "unsupported file format '" ++ text ++ "'; expected 'csv' or 'parquet'"
  | .noRelationFile context year directory =>
    "no " ++ context.name ++ " network file for year " ++ toString year ++ " in " ++ directory
  | .unreadable path fault => "failed to read relationship file " ++ path ++ ": " ++ fault.message
  | .frame fault => "invalid frame: " ++ fault.message
  | .operation fault => "table operation failed: " ++ fault.message
  | .emptyBatch => "a record batch needs at least one column"

/-- A refusal of the query, as a refusal of the request. -/
def Error.ofQuery {α : Type} : Except QueryFault α → Except Error α
  | .ok a => .ok a
  | .error e => .error (.query e)

/-- The format that a text names. -/
def RelationFormat.ofText (text : String) : Except Error RelationFormat :=
  match RelationFormat.ofName? text with
  | some format => .ok format
  | none => .error (.unknownFormat text)

end TieWalk
