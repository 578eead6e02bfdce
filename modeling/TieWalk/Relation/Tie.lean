import TieWalk.AscSet
import TieWalk.Context
import TieWalk.Relation.Fault
import TieWalk.Text.Decimal

/-!
# Ties as rows of a file

A row of a relation file gives a tie between two persons, or nothing, because a cell is blank or the code is not one, or
it cannot be read. Reading goes through the rows in order, counts the ties, hands on those whose code is asked for, and
ends at the first row that cannot be read.
-/

namespace TieWalk

/-- The identifier of a person. -/
abbrev Person := Long

/-- A tie: a person, a relative, and the code of their relationship. -/
structure Tie where
  person : Person
  relative : Person
  code : Code
  deriving DecidableEq, Repr

/-- What a row of a relation file gives. -/
inductive Row where
  | tie (tie : Tie)
  | nothing
  | unreadable (fault : ReadFault)
  deriving DecidableEq, Repr

/-- The code of a number that is one. -/
def Code.ofLong? (n : Long) : Option Code :=
  if 0 ≤ n.toInt ∧ n.toInt.toNat < codeBound then some (UInt32.ofNat n.toInt.toNat) else none

/-- The row of three cells. -/
def Row.ofCells : Option Long → Option Long → Option Long → Row
  | some person, some relative, some n =>
    match Code.ofLong? n with
    | some code => .tie ⟨person, relative, code⟩
    | none => .nothing
  | _, _, _ => .nothing

/-- The number in a text cell; a blank cell is absent. -/
def readCell (column text : String) : Except ReadFault (Option Long) :=
  let cell := Text.trim text
  if cell.isEmpty then .ok none
  else
    match Text.readLong? cell.toList with
    | some n => .ok (some n)
    | none => .error (.invalidCell column cell)

/-- What a reading has handed on and counted, and where it ended early. -/
structure Reading where
  ties : List Tie
  /-- The number of ties read, whether handed on or not. -/
  rowsRead : Nat
  /-- The number of ties handed on. -/
  rowsKept : Nat
  fault? : Option ReadFault
  deriving DecidableEq, Repr

/-- The code of a tie is among those asked for; without codes every tie is. -/
def Tie.selectedBy (e : Tie) : Option (AscSet Code) → Bool
  | none => true
  | some codes => decide (e.code ∈ codes)

namespace Reading

/-- A tie read before others: it is counted, and handed on if its code is asked for. -/
def accept (r : Reading) (codes : Option (AscSet Code)) (e : Tie) : Reading :=
  if e.selectedBy codes then ⟨e :: r.ties, r.rowsRead + 1, r.rowsKept + 1, r.fault?⟩
  else { r with rowsRead := r.rowsRead + 1 }

/-- Reads rows. -/
def ofRows (codes : Option (AscSet Code)) : List Row → Reading
  | [] => ⟨[], 0, 0, none⟩
  | .unreadable fault :: _ => ⟨[], 0, 0, some fault⟩
  | .nothing :: rest => ofRows codes rest
  | .tie e :: rest => (ofRows codes rest).accept codes e

variable (r : Reading) (codes : Option (AscSet Code)) (e : Tie)

@[simp] theorem ties_accept : (r.accept codes e).ties = if e.selectedBy codes then e :: r.ties else r.ties := by
  unfold accept
  split <;> rfl

@[simp] theorem rowsRead_accept : (r.accept codes e).rowsRead = r.rowsRead + 1 := by
  unfold accept
  split <;> rfl

@[simp] theorem rowsKept_accept :
    (r.accept codes e).rowsKept = if e.selectedBy codes then r.rowsKept + 1 else r.rowsKept := by
  unfold accept
  split <;> rfl

@[simp] theorem fault?_accept : (r.accept codes e).fault? = r.fault? := by
  unfold accept
  split <;> rfl

end Reading

end TieWalk
