import TieWalk.Table.Batch

/-!
# Normal columns

Frames become record batches and record batches become frames by two tables, one of which reads cells as long words and
doubles while the other widens values. Both are of one kind: they bring a column to its normal form (`Column.normal?`),
if its type has one. For an integer that is no long word the one would lose what the other keeps; but only integers of
the widest unsigned type can be such, and these are left as they are by both (`Field.ofColumn_plain`).
-/

namespace TieWalk

namespace Column

/-- The normal form of a column, if its type has one. -/
def normal? : Column → Option Column
  | ⟨name, .int .u64, cells⟩ => some ⟨name, .int .u64, cells⟩
  | ⟨name, .int t, cells⟩ => some (toLongs ⟨name, .int t, cells⟩)
  | ⟨name, .float32, cells⟩ => some ⟨name, .float64, cells.map (Option.map Float32.toFloat)⟩
  | ⟨name, .float64, cells⟩ => some ⟨name, .float64, cells⟩
  | ⟨name, .text, cells⟩ => some ⟨name, .text, cells⟩
  | ⟨name, .bool, cells⟩ => some ⟨name, .bool, cells⟩
  | ⟨name, .null, cells⟩ => some ⟨name, .null, cells⟩
  | ⟨_, .date, _⟩ | ⟨_, .datetime _ _, _⟩ | ⟨_, .duration _, _⟩ | ⟨_, .time, _⟩ | ⟨_, .binary, _⟩
  | ⟨_, .longList, _⟩ => none

/-- The normal form of a column has its name. -/
theorem name_of_normal? {c d : Column} (h : c.normal? = some d) : d.name = c.name := by
  unfold normal? at h
  split at h <;> first | (cases h; rfl) | cases h

/-- The normal form of a column has as many cells. -/
theorem height_of_normal? {c d : Column} (h : c.normal? = some d) : d.height = c.height := by
  unfold normal? at h
  split at h <;> first | (cases h; simp [height, toLongs, longs]) | cases h

/-- Integers of another type than the widest unsigned one are long words, all of them: to read them as such is to widen
them. -/
theorem longs_of_ne {name : String} {t : IntType} (ht : t ≠ .u64) (cells : List (Option t.Value)) :
    longs ⟨name, .int t, cells⟩ = cells.map (Option.map fun v => IntType.i64.wrap v.toInt) := by
  unfold longs
  apply List.map_congr_left
  intro cell _
  cases cell with
  | none => rfl
  | some v =>
    obtain ⟨w, hw⟩ := IntType.exists_long ht v
    have hlong : ColumnType.toLong? (.int t) v = some w := hw
    have hwide : IntType.i64.wrap v.toInt = w := by
      rw [← IntType.toInt_of_ofInt? hw]
      exact IntType.Value.ext (IntType.toInt_wrap w.least_le w.le_greatest)
    show (ColumnType.toLong? (.int t) v) = some (IntType.i64.wrap v.toInt)
    rw [hlong, hwide]

/-- Narrow floats are read as the doubles that they are widened to. -/
theorem floats_float32 (name : String) (cells : List (Option Float32)) :
    floats ⟨name, .float32, cells⟩ = cells.map (Option.map Float32.toFloat) := by
  unfold floats
  apply List.map_congr_left
  intro cell _
  cases cell <;> rfl

/-- Doubles are read as they are. -/
theorem floats_float64 (name : String) (cells : List (Option Float)) : floats ⟨name, .float64, cells⟩ = cells := by
  unfold floats
  refine Eq.trans (List.map_congr_left fun cell _ => ?_) (List.map_id cells)
  cases cell <;> rfl

end Column

namespace Field

/-- A field becomes the normal form of what it holds. -/
theorem toColumn_eq (field : Field) : field.toColumn =
    match field.plain.normal? with
    | some c => .ok c
    | none => .error (.frame (.unsupportedField field.name field.type)) := by
  obtain ⟨name, type, cells⟩ := field
  cases type with
  | int t =>
    by_cases ht : t = .u64
    · subst ht
      rfl
    · have hwide : toColumn ⟨name, .int t, cells⟩ =
          .ok ⟨name, .long, cells.map (Option.map fun v => IntType.i64.wrap v.toInt)⟩ := by
        cases t <;> first | rfl | exact absurd rfl ht
      have hnormal : Column.normal? ⟨name, .int t, cells⟩ = some (Column.toLongs ⟨name, .int t, cells⟩) := by
        cases t <;> first | rfl | exact absurd rfl ht
      rw [hwide, ← Column.longs_of_ne ht]
      show _ = match Column.normal? ⟨name, .int t, cells⟩ with
        | some c => Except.ok c
        | none => _
      rw [hnormal]
      rfl
  | float32 | float64 | text | largeText | bool | null | date | binary => rfl

/-- A field becomes the normal form of the column of its values. -/
theorem toColumn_eq_ok_iff {field : Field} {c : Column} : field.toColumn = .ok c ↔ field.plain.normal? = some c := by
  rw [toColumn_eq]
  cases field.plain.normal? <;> simp

/-- A column becomes a field that holds its normal form. -/
theorem ofColumn_eq (c : Column) : ofColumn c =
    match c.normal? with
    | some ⟨name, .int t, cells⟩ => .ok ⟨name, .int t, cells⟩
    | some ⟨name, .float64, cells⟩ => .ok ⟨name, .float64, cells⟩
    | some ⟨name, .text, cells⟩ => .ok ⟨name, .text, cells⟩
    | some ⟨name, .bool, cells⟩ => .ok ⟨name, .bool, cells⟩
    | some ⟨name, .null, cells⟩ => .ok ⟨name, .null, cells⟩
    | _ => .error (.frame (.unsupportedColumn c.name c.type)) := by
  obtain ⟨name, type, cells⟩ := c
  cases type with
  | int t => cases t <;> rfl
  | float32 =>
    show Except.ok (⟨name, .float64, _⟩ : Field) = _
    rw [Column.floats_float32]
    rfl
  | float64 =>
    show Except.ok (⟨name, .float64, _⟩ : Field) = _
    rw [Column.floats_float64]
    rfl
  | text | bool | null | date | datetime | duration | time | binary | longList => rfl

/-- What a field holds that a column became is the column's normal form. -/
theorem normal?_of_ofColumn {c : Column} {field : Field} (h : ofColumn c = .ok field) :
    c.normal? = some field.plain := by
  rw [ofColumn_eq] at h
  split at h <;> first | (next hnormal => cases h; exact hnormal) | cases h

/-- The two tables agree: what a field becomes as a column is what the field holds that the column of its values
becomes, and what the one refuses the other refuses. -/
theorem ofColumn_plain (field : Field) :
    (∃ c g, field.toColumn = .ok c ∧ ofColumn field.plain = .ok g ∧ g.plain = c) ∨
      (field.toColumn = .error (.frame (.unsupportedField field.name field.type)) ∧
        ofColumn field.plain = .error (.frame (.unsupportedColumn field.name field.type.plain))) := by
  rw [toColumn_eq, ofColumn_eq]
  obtain ⟨name, type, cells⟩ := field
  cases type with
  | int t => cases t <;> exact .inl ⟨_, _, rfl, rfl, rfl⟩
  | float32 | float64 | text | largeText | bool | null => exact .inl ⟨_, _, rfl, rfl, rfl⟩
  | date | binary => exact .inr ⟨rfl, rfl⟩

end Field

end TieWalk
