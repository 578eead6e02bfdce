import TieWalk.Table.Basic

/-!
# Joining tables

A join puts every row of the left table, in order, beside each row of the right table with the same key, in order. An
absent key is the same as no key at all. A left join keeps a left row that finds no partner, with absent cells on the
right.

In which order rows find each other is nobody's promise. So the left rows are numbered beforehand; what has been found
is sorted by these numbers, rows of one number staying as they came, and the numbers are dropped.
-/

namespace TieWalk

/-- What becomes of a left row without a partner. -/
inductive JoinKind where
  /-- It is dropped. -/
  | inner
  /-- It is kept. -/
  | left
  deriving DecidableEq, Repr

/-! ## Finding rows -/

/-- The numbers of the rows that have a key. -/
def rowsWith (keys : List (Option Key)) (key : Key) : List Nat :=
  keys.zipIdx.filterMap fun (k, i) => if k = some key then some i else none

/-- The numbers of the rows that match a key, which may be absent. -/
def partners (keys : List (Option Key)) : Option Key → List Nat
  | none => []
  | some key => rowsWith keys key

/-- A way to find the rows that stand side by side, by their numbers, from the keys of either side. The order in which
they come is its own. -/
abbrev PairFinder := JoinKind → List (Option Key) → List (Option Key) → List (Nat × Option Nat)

/-- Rows of one side are looked up among those of the other: in a left join the left rows, in an inner join those of the
longer side, and the right ones if both are as long. -/
def PairFinder.hashed : PairFinder
  | .left, left, right =>
    left.zipIdx.flatMap fun (key, i) =>
      match partners right key with
      | [] => [(i, none)]
      | found => found.map fun j => (i, some j)
  | .inner, left, right =>
    if right.length < left.length then
      left.zipIdx.flatMap fun (key, i) => (partners right key).map fun j => (i, some j)
    else right.zipIdx.flatMap fun (key, j) => (partners left key).map fun i => (i, some j)

/-! ## Sorting by number -/

/-- A numbered thing put before the first of no lower number. -/
def placeByNumber {α : Type} (a : Nat × α) : List (Nat × α) → List (Nat × α)
  | [] => [a]
  | b :: rest => if a.1 ≤ b.1 then a :: b :: rest else b :: placeByNumber a rest

/-- Numbered things by ascending number, those of one number as they stood. -/
def sortByNumber {α : Type} : List (Nat × α) → List (Nat × α)
  | [] => []
  | a :: rest => placeByNumber a (sortByNumber rest)

/-! ## Joining frames -/

/-- Some type holds the numbers of both types as they are: integers, unless one type is the widest unsigned one and the
other has negative numbers; or floats. -/
def ColumnType.widens : ColumnType → ColumnType → Bool
  | .int .u64, .int t | .int t, .int .u64 => !t.isSigned
  | .int _, .int _ => true
  | .float32, .float64 | .float64, .float32 => true
  | _, _ => false

/-- Keys of the two types can be the same. -/
def ColumnType.joins (left right : ColumnType) : Bool := left == right || left.widens right

/-- The name of a right column beside the names of the left ones. -/
def joinedName (taken : List String) (name : String) : String := if name ∈ taken then name ++ "_right" else name

/-- A frame whose rows bear numbers, in a column in front of the others. -/
structure NumberedFrame where
  numbers : List Nat
  frame : Frame

/-- The frame with its rows numbered in order, if the name of the numbers is free. -/
def Frame.numbered (f : Frame) : Except Error NumberedFrame :=
  if ColumnName.rowNumber ∈ f.names then .error (.operation (.repeatedName ColumnName.rowNumber))
  else .ok ⟨List.range f.height, f⟩

namespace NumberedFrame

/-- The column names, that of the numbers among them. -/
def names (n : NumberedFrame) : List String := ColumnName.rowNumber :: n.frame.names

/-- The rows found for each other side by side, as they were found: the left columns, then the right ones except the
key, renamed where they clash. -/
def join (find : PairFinder) (kind : JoinKind) (left : NumberedFrame) (right : Frame) (leftKey rightKey : Column) :
    Except Error NumberedFrame :=
  let rows := find kind leftKey.keys rightKey.keys
  let beside := ((right.drop rightKey.name).pick (rows.map Prod.snd)).columns
  let columns := (left.frame.pick (rows.map fun r => some r.1)).columns ++
    beside.map fun c => c.rename (joinedName left.names c.name)
  match Frame.ofColumns? columns with
  | .error e => .error e
  | .ok joined => .ok ⟨rows.map fun r => left.numbers[r.1]?.getD 0, joined⟩

/-- The rows by ascending number, without the numbers. -/
def inOrder (n : NumberedFrame) : Frame := n.frame.pick ((sortByNumber n.numbers.zipIdx).map fun r => some r.2)

end NumberedFrame

/-- Joins two frames whose keys are present, with rows found in some way. -/
def Frame.joinBy (find : PairFinder) (left right : Frame) (leftOn rightOn : String) (kind : JoinKind) :
    Except Error Frame :=
  match left.columnOr leftOn, right.columnOr rightOn with
  | .error e, _ => .error e
  | _, .error e => .error e
  | .ok leftKey, .ok rightKey =>
    if leftOn = everyColumn || rightOn = everyColumn then .error (.operation .everyColumn)
    else
      match left.numbered with
      | .error e => .error e
      | .ok numbered =>
        if leftKey.type.joins rightKey.type then
          match numbered.join find kind right leftKey rightKey with
          | .error e => .error e
          | .ok joined => .ok joined.inOrder
        else .error (.operation (.keyTypes leftKey.type rightKey.type))

/-- Joins two frames whose keys are present. -/
def Frame.join (left right : Frame) (leftOn rightOn : String) (kind : JoinKind) : Except Error Frame :=
  left.joinBy .hashed right leftOn rightOn kind

/-! ## Joining tables -/

/-- Joins two tables, with rows found in some way. A missing left key is reported before a missing right key. -/
def Table.joinBy (find : PairFinder) (left right : Table) (leftOn rightOn : String) (kind : JoinKind) :
    Except Error Frame :=
  if !left.hasColumn leftOn then .error (.column .intermediate leftOn .joinKeyMissing)
  else if !right.hasColumn rightOn then .error (.column .intermediate rightOn .joinKeyMissing)
  else
    match left.toFrame with
    | .error e => .error e
    | .ok l =>
      match right.toFrame with
      | .error e => .error e
      | .ok r => l.joinBy find r leftOn rightOn kind

/-- Joins two tables. -/
def Table.join (left right : Table) (leftOn rightOn : String) (kind : JoinKind) : Except Error Frame :=
  left.joinBy .hashed right leftOn rightOn kind

end TieWalk
