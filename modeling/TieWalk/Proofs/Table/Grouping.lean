import TieWalk.Proofs.Table.Frames
import TieWalk.Proofs.Table.Rows

/-!
# What grouping gives

Grouping succeeds where its columns are there and its output names differ. It gives one row for each group: the group's
key, and a cell for each aggregate.
-/

namespace TieWalk

namespace Column

/-- The values among a column's cells at row numbers. -/
def valuesAt (c : Column) (rows : List Nat) : List c.type.Carrier := (c.cellsAt rows).filterMap id

/-- The first rows of groups have the keys of the groups. -/
theorem keys_pick_groupedRows (c : Column) :
    (c.pick ((groupedRows c.keys).map List.head?)).keys = (groupKeys c.keys).map some := by
  rw [keys_pick, groupedRows, List.map_map, List.map_map]
  apply List.map_congr_left
  intro key hkey
  obtain ⟨i, hhead, hi⟩ := head?_rowsWith_of_mem_groupKeys hkey
  simp [hhead, hi]

end Column

namespace Frame

variable {f g : Frame} {keyName : String} {aggregates : List Aggregate} {layout : Layout} {key : Column}

/-- The columns of an aggregate of a single column are the one in which it is evaluated. -/
theorem aggregateColumns_eq_ok_iff {groups : List (List Nat)} {a : Aggregate} {columns : List Column}
    (h : a.column ≠ everyColumn) :
    f.aggregateColumns keyName layout groups a = .ok columns ↔
      ∃ c, f.column? a.column = some c ∧ columns = [a.evaluate layout groups c] := by
  unfold aggregateColumns columnOr
  rw [if_neg h]
  cases f.column? a.column with
  | none => simp
  | some c => simp [eq_comm]

/-- Aggregates of single columns give a column each. -/
theorem flatten_of_forall₂_aggregateColumns {groups : List (List Nat)} {columns : List (List Column)}
    (hstar : ∀ a ∈ aggregates, a.column ≠ everyColumn)
    (h : List.Forall₂ (fun a cs => f.aggregateColumns keyName layout groups a = .ok cs) aggregates columns) :
    List.Forall₂ (fun a d => ∃ c, f.column? a.column = some c ∧ d = a.evaluate layout groups c) aggregates
      columns.flatten := by
  induction h with
  | nil => exact .nil
  | cons ha _ ih =>
    obtain ⟨c, hc, rfl⟩ := (aggregateColumns_eq_ok_iff (hstar _ List.mem_cons_self)).1 ha
    exact .cons ⟨c, hc, rfl⟩ (ih fun a ha => hstar a (List.mem_cons_of_mem _ ha))

/-- The columns of aggregates bear the output names. -/
theorem names_of_forall₂_evaluate {groups : List (List Nat)} {columns : List Column}
    (h : List.Forall₂ (fun a d => ∃ c, f.column? a.column = some c ∧ d = a.evaluate layout groups c) aggregates
      columns) :
    columns.map Column.name = aggregates.map Aggregate.outputName := by
  induction h with
  | nil => rfl
  | cons ha _ ih =>
    obtain ⟨c, -, rfl⟩ := ha
    rw [List.map_cons, List.map_cons, ih]
    rfl

/-- A column of an aggregate has a cell for each group. -/
theorem height_of_forall₂_evaluate {groups : List (List Nat)} {columns : List Column}
    (h : List.Forall₂ (fun a d => ∃ c, f.column? a.column = some c ∧ d = a.evaluate layout groups c) aggregates
      columns) :
    ∀ c ∈ columns, c.height = groups.length := by
  intro d hd
  obtain ⟨a, -, c, -, rfl⟩ := exists_mem_left_of_forall₂ h d hd
  exact List.length_map _

/-- Grouping by a column, with no name for every column among those aggregated: the key of each group, then the
aggregates. -/
theorem columns_of_group (hkeyName : keyName ≠ everyColumn) (hstar : ∀ a ∈ aggregates, a.column ≠ everyColumn)
    (h : f.group keyName aggregates layout = .ok g) :
    ∃ key columns, f.column? keyName = some key ∧
      g.columns = key.pick ((groupedRows key.keys).map List.head?) :: columns ∧
      List.Forall₂ (fun a d => ∃ c, f.column? a.column = some c ∧ d = a.evaluate layout (groupedRows key.keys) c)
        aggregates columns := by
  unfold group at h
  rw [columnFor_eq_columnOr hkeyName] at h
  split at h
  · cases h
  · next key hkey =>
    simp only at h
    split at h
    · cases h
    · next columns hcolumns =>
      exact ⟨key, columns.flatten, columnOr_eq_ok_iff.1 hkey, ofColumns?_eq_ok_iff.1 h,
        flatten_of_forall₂_aggregateColumns hstar (mapM_eq_ok_iff.1 hcolumns)⟩

/-- Grouping succeeds where the columns are there and the output names differ. -/
theorem exists_group (hkeyName : keyName ≠ everyColumn) (hkey : f.column? keyName = some key)
    (hstar : ∀ a ∈ aggregates, a.column ≠ everyColumn) (hcolumn : ∀ a ∈ aggregates, a.column ∈ f.names)
    (hnames : (keyName :: aggregates.map Aggregate.outputName).Nodup) (layout : Layout) :
    ∃ g, f.group keyName aggregates layout = .ok g := by
  obtain ⟨columns, hcolumns⟩ : ∃ columns,
      List.Forall₂ (fun a cs => f.aggregateColumns key.name layout (groupedRows key.keys) a = .ok cs) aggregates
      columns := by
    apply exists_forall₂_iff.2
    intro a ha
    obtain ⟨c, hc⟩ := exists_column? (hcolumn a ha)
    exact ⟨_, (aggregateColumns_eq_ok_iff (hstar a ha)).2 ⟨c, hc, rfl⟩⟩
  have hflat := flatten_of_forall₂_aggregateColumns hstar hcolumns
  have hname : key.name = keyName := (mem_columns_of_column? hkey).2
  obtain ⟨g, hg⟩ : ∃ g, ofColumns? (key.pick ((groupedRows key.keys).map List.head?) :: columns.flatten) = .ok g := by
    refine exists_ofColumns? ?_ (n := (groupedRows key.keys).length) fun c hc => ?_
    · rw [List.map_cons, names_of_forall₂_evaluate hflat, Column.name_pick, hname]
      exact hnames
    · rcases List.mem_cons.1 hc with rfl | hc
      · simp
      · exact height_of_forall₂_evaluate hflat c hc
  refine ⟨g, ?_⟩
  unfold group
  rw [columnFor_eq_columnOr hkeyName, columnOr_eq_ok_iff.2 hkey]
  simp only [mapM_eq_ok_iff.2 hcolumns]
  exact hg

end Frame

/-- A table is grouped as the frame that it turns into, if its columns are there. -/
theorem Table.group_of_toFrame {t : Table} {f : Frame} {keyName : String} {aggregates : List Aggregate}
    (hf : t.toFrame = .ok f)
    (hkey : keyName ∈ t.names) (hcolumn : ∀ a ∈ aggregates, a.column ∈ t.names) (layout : Layout) :
    t.group keyName aggregates layout = f.group keyName aggregates layout := by
  have hkey : t.hasColumn keyName = true := Table.hasColumn_iff.2 hkey
  have hfind : (aggregates.find? fun a => !t.hasColumn a.column) = none := by
    refine List.find?_eq_none.2 fun a ha => ?_
    have : t.hasColumn a.column = true := Table.hasColumn_iff.2 (hcolumn a ha)
    simp [this]
  unfold Table.group
  simp [hkey, hfind, hf]

/-- A table that lacks an aggregated column is not grouped. -/
theorem Table.not_group_of_missing {t : Table} {keyName : String} {aggregates : List Aggregate} {a : Aggregate}
    (ha : a ∈ aggregates) (hcolumn : a.column ∉ t.names) (layout : Layout) :
    ¬ ∃ g, t.group keyName aggregates layout = .ok g := by
  rintro ⟨g, hg⟩
  have hfind : (aggregates.find? fun a => !t.hasColumn a.column) ≠ none := by
    intro hnone
    have hall := List.find?_eq_none.1 hnone a ha
    exact hcolumn (Table.hasColumn_iff.1 (by simpa using hall))
  unfold Table.group at hg
  split at hg
  · cases hg
  · split at hg
    · cases hg
    · next hnone => exact hfind hnone

end TieWalk
