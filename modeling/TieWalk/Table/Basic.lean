import TieWalk.Table.Batch

/-!
# Tables

A table is a frame or a record batch. Whatever is done with tables is done with the frames that they turn into; only the
names, the number of rows and the presence of a column are read off a batch itself.
-/

namespace TieWalk

/-- A frame or a record batch. -/
inductive Table where
  | frame (frame : Frame)
  | batch (batch : Batch)

namespace Table

/-- The column names, in order. -/
def names : Table → List String
  | .frame f => f.names
  | .batch b => b.names

/-- The number of rows. -/
def height : Table → Nat
  | .frame f => f.height
  | .batch b => b.height

/-- There is a column of the name. -/
def hasColumn (t : Table) (name : String) : Bool := t.names.contains name

/-- The column of a name, if there is one, as a frame column. -/
def column? : Table → String → Except Error (Option Column)
  | .frame f, name => .ok (f.column? name)
  | .batch b, name =>
    match b.field? name with
    | none => .ok none
    | some f =>
      match f.toColumn with
      | .ok c => .ok (some c)
      | .error e => .error e

/-- The column of a name in a table that has to have it. -/
def require (t : Table) (role : TableRole) (name : String) : Except Error Column :=
  match t.column? name with
  | .ok (some c) => .ok c
  | .ok none => .error (.column role name .missing)
  | .error e => .error e

/-- The type of the column of a name. -/
def columnType? (t : Table) (name : String) : Except Error (Option ColumnType) :=
  match t.column? name with
  | .ok c => .ok (c.map Column.type)
  | .error e => .error e

/-- The frame of the named columns, in the order of the names. -/
def select (t : Table) (names : List String) : Except Error Frame :=
  match names.mapM (t.require .intermediate) with
  | .ok columns => Frame.ofColumns? columns
  | .error e => .error e

/-- The whole table as a frame. -/
def toFrame : Table → Except Error Frame
  | .frame f => .ok f
  | .batch b => (Table.batch b).select b.names

/-- The whole table as a record batch. -/
def toBatch : Table → Except Error Batch
  | .frame f => Batch.ofFrame f
  | .batch b => .ok b

end Table

end TieWalk
