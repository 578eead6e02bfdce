import TieWalk.Options
import TieWalk.Table.Filter
import TieWalk.Table.Group

/-!
# Checking a request

A request is a written query, a sample, the characteristics of the persons that a walk may reach, and options.
Everything that can be checked without a relation file is checked before one is looked for: the query, then the sample,
then the characteristics, then the functions and what they are applied to, then the names of the output columns. The
first rule that is broken is reported.
-/

namespace TieWalk

/-- What a caller asks for. -/
structure Request where
  /-- The query as written. -/
  query : String
  sample : Table
  characteristics : Table
  options : Options

namespace Sample

/-- The identifiers of a sample have to be integers, all present, and the name that carries them has to be free. -/
def checkIdentifiers (sample : Table) : Except Error Unit :=
  match sample.require .sample ColumnName.person with
  | .error e => .error e
  | .ok ids =>
    if !ids.type.isInteger then .error (.column .sample ColumnName.person (.identifiersNotIntegers (some ids.type)))
    else if 0 < ids.nullCount then .error (.column .sample ColumnName.person (.nullIdentifiers ids.nullCount))
    else if sample.hasColumn ColumnName.samplePerson then .error (.column .sample ColumnName.samplePerson .reserved)
    else .ok ()

/-- The first cell of a text column. -/
def firstText? (f : Frame) (name : String) : Option String :=
  match f.column? name with
  | some ⟨_, .text, some s :: _⟩ => some s
  | _ => none

/-- The condition of rows that are outside a name space. -/
def outsideIdSpace (idSpace : String) : Condition :=
  .either (.compares ColumnName.idSpace .notEqual (.text idSpace)) (.isAbsent ColumnName.idSpace)

/-- Where a sample says the name space of its identifiers, every row has to be in the one expected. -/
def checkIdSpace (sample : Table) (idSpace : String) : Except Error Unit :=
  match sample.columnType? ColumnName.idSpace with
  | .error e => .error e
  | .ok none => .ok ()
  | .ok (some .text) =>
    match sample.rowsWhere (outsideIdSpace idSpace) with
    | .error e => .error e
    | .ok others =>
      if others.height = 0 then .ok ()
      else
        .error (.column .sample ColumnName.idSpace
          (.otherIdSpace idSpace others.height (firstText? others ColumnName.idSpace)))
  | .ok (some type) => .error (.column .sample ColumnName.idSpace (.notText type))

/-- The sample is fit for a walk. -/
def check (sample : Table) (idSpace : String) : Except Error Unit :=
  match checkIdentifiers sample with
  | .error e => .error e
  | .ok () => checkIdSpace sample idSpace

/-- The different persons of a sample, in the order in which they first stand. -/
def persons (sample : Table) : Except Error (List Person) :=
  match sample.require .sample ColumnName.person with
  | .ok ids => .ok (ids.longs.filterMap id).eraseDups
  | .error e => .error e

end Sample

namespace Characteristics

/-- What is wrong with a variable, if anything is. -/
def variableFault? (characteristics : Table) (name : String) : Option ColumnFault :=
  if name = ColumnName.person || name = ColumnName.samplePerson then some .identifierAggregated
  else if characteristics.hasColumn name then none
  else some .missing

/-- Every variable is a column of the characteristics and no identifier. -/
def checkVariables (characteristics : Table) (vars : List String) : Except Error Unit :=
  match vars.findSome? fun name => (variableFault? characteristics name).map fun fault => (name, fault) with
  | some (name, fault) => .error (.column .characteristics name fault)
  | none => .ok ()

/-- The characteristics are fit for a walk. -/
def check (characteristics : Table) (vars : List String) : Except Error Unit :=
  match characteristics.require .characteristics ColumnName.person with
  | .error e => .error e
  | .ok ids =>
    if ids.type.isInteger || ids.type = .null then checkVariables characteristics vars
    else .error (.column .characteristics ColumnName.person (.identifiersNotIntegers none))

/-- Every aggregate accepts the type of its column. -/
def checkTypes (characteristics : Table) : List Aggregate → Except Error Unit
  | [] => .ok ()
  | a :: rest =>
    match characteristics.columnType? a.column with
    | .error e => .error e
    | .ok type =>
      let type := type.getD .null
      if a.statistic.accepts type then checkTypes characteristics rest
      else .error (.column .characteristics a.column (.cannotAggregate a.statistic type))

end Characteristics

namespace Request

/-- No output column has a name that is taken, by a sample column or by an output column before it. -/
def checkNames (taken : List String) : List String → Except Error Unit
  | [] => .ok ()
  | name :: rest =>
    if name ∈ taken then .error (.column .sample name .outputNameTaken) else checkNames (name :: taken) rest

/-- A query and its aggregates, fit for the tables of a request. -/
structure Checked where
  query : Query
  aggregates : List Aggregate
  deriving DecidableEq, Repr

/-- Checks a request. -/
def check (r : Request) : Except Error Checked := do
  let query ← Error.ofQuery (Query.ofText r.query)
  Sample.check r.sample r.options.idSpace
  Characteristics.check r.characteristics query.vars
  let aggregates ← Aggregate.requestAll r.options.functions query.vars
  Characteristics.checkTypes r.characteristics aggregates
  checkNames r.sample.names (aggregates.map Aggregate.outputName)
  return ⟨query, aggregates⟩

/-- The query of a request in normal form, piece by piece, if the request passes every check. -/
def tokens (r : Request) : Except Error (List String) :=
  match r.check with
  | .ok checked => .ok checked.query.tokens
  | .error e => .error e

end Request

end TieWalk
