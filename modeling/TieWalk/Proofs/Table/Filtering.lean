import TieWalk.Proofs.Table.Frames
import TieWalk.Request.Check

/-!
# Rows that are kept

Rows are kept where a condition is true of them, in their order, so a column keeps the cells in these rows. Of rows
outside a name space, those are kept whose cell is absent or says another one: a comparison with an absent cell is not
true, and it takes the second condition to find these rows.
-/

namespace TieWalk

/-- The texts of a column, if it is one of texts. -/
def Column.texts : Column → List (Option String)
  | ⟨_, .text, cells⟩ => cells
  | _ => []

/-- The cells of a text column that do not say a text, absent ones among them. -/
def Column.textsApartFrom (c : Column) (s : String) : List (Option String) :=
  c.texts.filter fun cell => decide (cell ≠ some s)

/-- What stands in the rows that are flagged are the cells that have the property which the flags tell. -/
theorem cells_of_flags {α : Type} (cells : List (Option α)) (p : Option α → Bool) :
    (((List.range cells.length).filter fun i => (cells.map p)[i]?.getD false).map some).map
      (fun row => row.bind fun i => (cells[i]?).join) = cells.filter p := by
  have hcells : (List.range cells.length).map (fun i => (cells[i]?).join) = cells := by
    apply List.ext_getElem?
    intro i
    by_cases hi : i < cells.length
    · simp [hi]
    · simp [Nat.le_of_not_lt hi]
  have hflags : (List.range cells.length).filter (fun i => (cells.map p)[i]?.getD false) =
      (List.range cells.length).filter (p ∘ fun i => (cells[i]?).join) := by
    apply List.filter_congr
    intro i hi
    simp [List.mem_range.1 hi]
  conv_rhs => rw [← hcells, List.filter_map]
  rw [hflags, List.map_map]
  rfl

namespace Frame

variable {f : Frame} {name : String} {c : Column}

/-- Rows flagged by what a column has in them keep its cells of that kind. -/
theorem column?_keep (hc : f.column? name = some c) (p : Option c.type.Carrier → Bool) :
    (f.keep (c.cells.map p)).column? name = some { c with cells := c.cells.filter p } := by
  have hheight : f.height = c.cells.length := (height_of_column? hc).symm
  unfold keep
  rw [column?_pick, hc, Option.map_some, hheight]
  exact congrArg (fun cells => some { c with cells := cells }) (cells_of_flags c.cells p)

end Frame

/-- The rows of a frame where a condition is true. -/
theorem Table.rowsWhere_frame {f : Frame} {condition : Condition} {truth : List (Option Bool)}
    (h : condition.truth f = .ok truth) :
    (Table.frame f).rowsWhere condition = .ok (f.keep (truth.map fun b => b == some true)) := by
  unfold rowsWhere toFrame
  simp only [h]

namespace Sample

variable {f : Frame} {c : Column}

/-- A text is in another order to itself than to any other. -/
theorem holds_notEqual_compare (s r : String) : Comparison.notEqual.holds (compare s r) = decide (s ≠ r) := by
  by_cases h : s = r
  · simp [Comparison.holds, h]
  · have hne : compare s r ≠ .eq := fun heq => h (Std.LawfulEqOrd.eq_of_compare heq)
    simp [Comparison.holds, h, hne]

/-- The condition of rows outside a name space is true of the rows whose cell is not that name space. -/
theorem truth_outsideIdSpace (idSpace : String) {cells : List (Option String)}
    (hc : f.column? ColumnName.idSpace = some ⟨ColumnName.idSpace, .text, cells⟩) :
    ∃ truth, (outsideIdSpace idSpace).truth f = .ok truth ∧
      truth.map (fun b => b == some true) = cells.map fun cell => decide (cell ≠ some idSpace) := by
  have hcolumn : f.columnFor ColumnName.idSpace = .ok ⟨ColumnName.idSpace, .text, cells⟩ := by
    rw [Frame.columnFor_eq_columnOr (by decide)]
    exact Frame.columnOr_eq_ok_iff.2 hc
  refine ⟨List.zipWith eitherTrue
    (cells.map fun cell => (cell.bind fun s => some (compare s idSpace)).map Comparison.notEqual.holds)
    (cells.map fun cell => some cell.isNone), ?_, ?_⟩
  · unfold outsideIdSpace
    simp only [Condition.truth, hcolumn]
    rfl
  · rw [List.zipWith_map, List.zipWith_self, List.map_map]
    apply List.map_congr_left
    intro cell _
    cases cell with
    | none => rfl
    | some s =>
      simp only [Function.comp_apply, Option.bind_some, Option.map_some, holds_notEqual_compare, Option.isNone_some]
      by_cases h : s = idSpace
      · simp [h, eitherTrue]
      · simp [h, eitherTrue]

/-- The first text of a column of texts is that of its first row. -/
theorem firstText?_of_column? {name : String} {cells : List (Option String)}
    (h : f.column? name = some ⟨name, .text, cells⟩) :
    firstText? f name = cells.head?.join := by
  unfold firstText?
  rw [h]
  cases cells with
  | nil => rfl
  | cons cell rest => cases cell <;> rfl

/-- The rows outside a name space: as many as cells that are not that name space, and with the first of these in the
first. -/
theorem exists_rowsWhere_outsideIdSpace (idSpace : String) (hc : f.column? ColumnName.idSpace = some c)
    (htype : c.type = .text) : ∃ others, (Table.frame f).rowsWhere (outsideIdSpace idSpace) = .ok others ∧
      others.height = (c.textsApartFrom idSpace).length ∧
      firstText? others ColumnName.idSpace = (c.textsApartFrom idSpace).head?.join := by
  obtain ⟨name, type, cells⟩ := c
  obtain rfl : type = .text := htype
  obtain rfl : name = ColumnName.idSpace := (Frame.column?_eq_some_iff.1 hc).2
  obtain ⟨truth, htruth, hflags⟩ := truth_outsideIdSpace idSpace hc
  have hkeep := Frame.column?_keep hc fun cell => decide (cell ≠ some idSpace)
  refine ⟨f.keep (cells.map fun cell => decide (cell ≠ some idSpace)), ?_, ?_, ?_⟩
  · rw [Table.rowsWhere_frame htruth, hflags]
  · rw [← height_of_column? hkeep]
    rfl
  · exact firstText?_of_column? hkeep

end Sample

end TieWalk
