import TieWalk.Context

/-!
# What a walk reports

For each hop the numbers of rows read, rows kept and different pairs, and a notice where pairs came about more than
once.
-/

namespace TieWalk

/-- The numbers of a hop. -/
structure HopStats where
  context : Context
  /-- The ties read from the hop's file. -/
  rowsRead : Nat
  /-- Those with a code of the hop. -/
  rowsKept : Nat
  /-- The different pairs after the hop. -/
  pairs : Nat
  deriving DecidableEq, Repr

/-- Pairs that came about more than once. -/
structure Notice where
  /-- The number of hops before this one. -/
  stage : Nat
  context : Context
  /-- The number of pairs dropped. -/
  collapsed : Nat
  deriving DecidableEq, Repr

namespace Notice

/-- A notice in words. -/
def text (n : Notice) : String :=
  "hop " ++ toString (n.stage + 1) ++ " (" ++ n.context.name ++ "): " ++ toString n.collapsed ++
    " duplicate pairs collapsed"

/-- The notice of a hop, if any pair was dropped. -/
def ofSurplus? (stage : Nat) (context : Context) (collapsed : Nat) : Option Notice :=
  if collapsed = 0 then none else some ⟨stage, context, collapsed⟩

end Notice

/-- The rows read in all hops. -/
def totalRowsRead (stages : List HopStats) : Nat := stages.foldr (fun s n => s.rowsRead + n) 0

end TieWalk
