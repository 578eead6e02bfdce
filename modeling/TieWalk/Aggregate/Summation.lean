/-!
# Sums of floating point numbers

What a sum of floating point numbers is depends on the order of its additions. There are two: one number after another,
and in blocks. A block is a table of numbers with sixteen columns, which are added up column by column before the
columns' sums are; the sums of blocks are added by halves, and the numbers before the first whole block come last, one
after another.
-/

namespace TieWalk

/-- A list combined from the left, starting with its first member. -/
def reduce? {α : Type} (f : α → α → α) : List α → Option α
  | [] => none
  | a :: rest => some (rest.foldl f a)

/-- A list cut into runs of a length; the last of them may be shorter. -/
def runsOf {α : Type} (length : Nat) : List α → List (List α)
  | [] => []
  | a :: rest => (a :: rest.take (length - 1)) :: runsOf length (rest.drop (length - 1))
termination_by l => l.length
decreasing_by simp only [List.length_drop, List.length_cons]; omega

/-- How the numbers of a group are summed up. -/
inductive Summation where
  /-- One after another. A mean starts from zero where the column has gaps. -/
  | serial (gaps : Bool)
  /-- In blocks, where a gap counts as zero. -/
  | blocked
  deriving DecidableEq, Repr

namespace Summation

variable {α : Type} [Add α]

/-- The sum of a list by halves: the sum of the first half and the sum of the second. -/
def byHalves (zero : α) : List α → α
  | [] => zero
  | [a] => a
  | a :: b :: rest =>
    let half := (rest.length + 2) / 2
    byHalves zero ((a :: b :: rest).take half) + byHalves zero ((a :: b :: rest).drop half)
termination_by l => l.length
decreasing_by
  all_goals simp only [List.length_take, List.length_drop, List.length_cons]; omega

/-- The sum of a list whose length is a power of two by folding: its halves are laid upon each other and added, member
by member, until one is left. -/
def byFolding (zero : α) : List α → α
  | [] => zero
  | [a] => a
  | a :: b :: rest =>
    let half := (rest.length + 2) / 2
    byFolding zero (List.zipWith (· + ·) ((a :: b :: rest).take half) ((a :: b :: rest).drop half))
termination_by l => l.length
decreasing_by simp only [List.length_zipWith, List.length_take, List.length_drop, List.length_cons]; omega

/-- The number of columns of a block. -/
def blockWidth : Nat := 16

/-- The number of numbers in a block. -/
def blockSize : Nat := 128

/-- The sum of a block. -/
def ofBlock (zero : α) (block : List α) : α :=
  byFolding zero ((runsOf blockWidth block).foldl (List.zipWith (· + ·)) (List.replicate blockWidth zero))

/-- The sum of numbers in blocks. -/
def inBlocks (zero : α) (values : List α) : α :=
  let rest := values.length % blockSize
  byHalves zero ((runsOf blockSize (values.drop rest)).map (ofBlock zero)) + (values.take rest).foldl (· + ·) zero

/-- The sum of cells in blocks; a single number is its own sum. -/
def ofCells (zero : α) : List (Option α) → α
  | [some a] => a
  | cells => inBlocks zero (cells.map fun cell => cell.getD zero)

/-- The sum of a group's cells, if one of them is present. -/
def sum? (how : Summation) (zero : α) (cells : List (Option α)) : Option α :=
  if cells.all Option.isNone then none
  else
    match how with
    | .serial _ => reduce? (· + ·) (cells.filterMap id)
    | .blocked => some (ofCells zero cells)

/-- What a mean divides: the sum of a group's cells, if one of them is present. One after another, cells of a column
with gaps are added to zero, unless the group has but one row; it shows in the sign of a sum of negative zeros. -/
def meanSum? (how : Summation) (zero : α) (cells : List (Option α)) : Option α :=
  match how with
  | .serial true =>
    if 1 < cells.length && cells.any Option.isSome then some ((cells.filterMap id).foldl (· + ·) zero)
    else how.sum? zero cells
  | _ => how.sum? zero cells

/-- The mean of the doubles of a group. -/
def mean? (how : Summation) (cells : List (Option Float)) : Option Float :=
  (how.meanSum? 0.0 cells).map (· / Float.ofNat (cells.filterMap id).length)

end Summation

end TieWalk
