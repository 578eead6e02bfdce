import Mathlib.Data.List.Nodup
import TieWalk.Proofs.Basics
import TieWalk.Proofs.Table.Normal
import TieWalk.Table.Attach

/-!
# Frames, and tables as frames

What it takes to build a frame, which column a name gives, and what a table has as a frame. Where a record batch becomes
a frame, it does so column by column, and the columns keep their names and their number of cells.
-/

namespace TieWalk

namespace Column

/-- A column picked through in its own order is itself. -/
theorem pick_range (c : Column) : c.pick ((List.range c.height).map some) = c := by
  obtain ⟨name, type, cells⟩ := c
  have hcells : ((List.range cells.length).map some).map (fun row => row.bind fun i => (cells[i]?).join) = cells := by
    apply List.ext_getElem?
    intro i
    by_cases hi : i < cells.length
    · simp [hi]
    · simp [Nat.le_of_not_lt hi]
  show (⟨name, type, _⟩ : Column) = _
  rw [show (Column.mk name type cells).height = cells.length from rfl, hcells]

/-- Rows picked out of picked rows. -/
theorem pick_pick (c : Column) (rows picked : List (Option Nat)) :
    (c.pick rows).pick picked = c.pick (picked.map fun row => row.bind fun i => (rows[i]?).join) := by
  unfold pick
  simp only [Column.mk.injEq, heq_eq_eq, true_and, List.map_map]
  apply List.map_congr_left
  intro row _
  cases row with
  | none => rfl
  | some i =>
    simp only [Function.comp, Option.bind_some, List.getElem?_map]
    cases rows[i]? <;> rfl

/-- The keys of rows that are picked are the keys at those rows. -/
theorem keys_pick (c : Column) (rows : List (Option Nat)) :
    (c.pick rows).keys = rows.map fun row => row.bind fun i => (c.keys[i]?).join := by
  unfold keys pick
  rw [List.map_map]
  apply List.map_congr_left
  intro row _
  cases row with
  | none => rfl
  | some i =>
    simp only [Function.comp, Option.bind_some, List.getElem?_map]
    cases c.cells[i]? <;> rfl

end Column

namespace Frame

variable {f : Frame} {columns : List Column} {name : String} {c : Column}

theorem ofColumns?_eq_ok_iff : ofColumns? columns = .ok f ↔ f.columns = columns := by
  refine ⟨columns_of_ofColumns?, ?_⟩
  rintro rfl
  unfold ofColumns?
  rw [dif_pos f.distinct, dif_pos f.even]

/-- Columns make a frame if their names differ and they have one height. -/
theorem exists_ofColumns? {n : Nat} (hnames : (columns.map Column.name).Nodup) (hheight : ∀ c ∈ columns, c.height = n) :
    ∃ f, ofColumns? columns = .ok f := by
  refine ⟨⟨columns, hnames, even_of_forall hheight⟩, ?_⟩
  exact ofColumns?_eq_ok_iff.2 rfl

/-- The column of a name is the column that bears it. -/
theorem column?_eq_some_iff : f.column? name = some c ↔ c ∈ f.columns ∧ c.name = name := by
  refine ⟨mem_columns_of_column?, ?_⟩
  rintro ⟨hc, rfl⟩
  have hsome : (f.column? c.name).isSome := by
    unfold column?
    rw [List.find?_isSome]
    exact ⟨c, hc, beq_self_eq_true _⟩
  obtain ⟨d, hd⟩ := Option.isSome_iff_exists.1 hsome
  obtain ⟨hmem, hname⟩ := mem_columns_of_column? hd
  have hdc : d = c := List.inj_on_of_nodup_map f.distinct hmem hc hname
  rw [hd, hdc]

theorem column?_eq_none_iff : f.column? name = none ↔ name ∉ f.names := by
  simp [column?, names]

theorem exists_column? (h : name ∈ f.names) : ∃ c, f.column? name = some c := by
  obtain ⟨c, hc, hname⟩ := List.mem_map.1 h
  exact ⟨c, column?_eq_some_iff.2 ⟨hc, hname⟩⟩

theorem mem_names_of_column? (h : f.column? name = some c) : name ∈ f.names := by
  obtain ⟨hc, rfl⟩ := column?_eq_some_iff.1 h
  exact List.mem_map_of_mem hc

theorem columnOr_eq_ok_iff : f.columnOr name = .ok c ↔ f.column? name = some c := by
  unfold columnOr
  cases f.column? name <;> simp

/-- A name that is not that of every column stands for one column. -/
theorem columnFor_eq_columnOr (h : name ≠ everyColumn) : f.columnFor name = f.columnOr name := if_neg h

/-- A frame with a column has the height of the column. -/
theorem height_eq_of_mem (h : c ∈ f.columns) : f.height = c.height := (f.even c h).symm

/-- A column of a new name is put behind the others. -/
theorem columns_put_of_not_mem (h : c.height = f.height) (hc : c.name ∉ f.names) :
    (f.put c h).columns = f.columns ++ [c] := by
  unfold put
  rw [dif_neg hc]

theorem mem_names_put (h : c.height = f.height) (hname : name ∈ f.names) : name ∈ (f.put c h).names := by
  obtain ⟨d, hd, rfl⟩ := List.mem_map.1 hname
  unfold put names
  split
  · refine List.mem_map.2 ⟨if d.name = c.name then c else d, List.mem_map_of_mem hd, ?_⟩
    split
    · next heq => exact heq.symm
    · rfl
  · exact List.mem_map_of_mem (List.mem_append_left _ hd)

/-- A frame whose columns are replaced has, under each name, what the column of that name is replaced by. -/
theorem column?_mapColumns (f : Frame) (g : Column → Column) (hname : ∀ c, (g c).name = c.name)
    (hheight : ∀ c, (g c).height = c.height) (name : String) :
    (f.mapColumns g hname hheight).column? name = (f.column? name).map g := by
  unfold column? mapColumns
  rw [List.find?_map]
  simp only [Function.comp_def, hname]

/-- The rows that are picked have, under each name, the cells of that column. -/
theorem column?_pick (f : Frame) (rows : List (Option Nat)) (name : String) :
    (f.pick rows).column? name = (f.column? name).map fun c => c.pick rows := by
  unfold column? pick
  rw [List.find?_map]
  rfl

/-- Without a column that it does not have, a frame is as it was. -/
theorem filter_name_ne (h : name ∉ f.names) : f.columns.filter (fun c => c.name != name) = f.columns := by
  apply List.filter_eq_self.2
  intro c hc
  rw [bne_iff_ne]
  rintro rfl
  exact h (List.mem_map_of_mem hc)

/-- The first column is found by its name. -/
theorem column?_of_columns_eq_cons (h : f.columns = c :: columns) : f.column? c.name = some c := by
  rw [column?_eq_some_iff, h]
  exact ⟨List.mem_cons_self, rfl⟩

/-- No column after the first bears its name. -/
theorem name_ne_of_columns_eq_cons (h : f.columns = c :: columns) {d : Column} (hd : d ∈ columns) :
    d.name ≠ c.name := by
  have hnodup := f.distinct
  rw [h, List.map_cons, List.nodup_cons] at hnodup
  intro hname
  exact hnodup.1 (List.mem_map.2 ⟨d, hd, hname⟩)

/-- Without its first column, a frame has the columns after it. -/
theorem filter_name_ne_of_columns_eq_cons (h : f.columns = c :: columns) :
    f.columns.filter (fun d => d.name != c.name) = columns := by
  rw [h, List.filter_cons_of_neg (by simp)]
  apply List.filter_eq_self.2
  intro d hd
  rw [bne_iff_ne]
  exact name_ne_of_columns_eq_cons h hd

end Frame

/-! ## Tables -/

namespace Table

variable {t : Table} {name : String} {c : Column}

/-- A column of a record batch is a field of the name, converted. -/
theorem column?_batch (b : Batch) (name : String) :
    (Table.batch b).column? name =
      match b.field? name with
      | none => .ok none
      | some field => field.toColumn.map some := by
  rw [column?]
  cases b.field? name with
  | none => rfl
  | some field =>
    simp only
    cases field.toColumn <;> rfl

/-- A column of a record batch is the normal form of the first field of its name. -/
theorem column?_batch_eq_ok_iff {b : Batch} :
    (Table.batch b).column? name = .ok (some c) ↔ ∃ field, b.field? name = some field ∧
      field.plain.normal? = some c := by
  rw [column?_batch]
  cases b.field? name with
  | none => simp
  | some field =>
    simp only [Option.some.injEq, exists_eq_left', ← Field.toColumn_eq_ok_iff]
    cases field.toColumn <;> simp [Except.map]

theorem of_field? {b : Batch} {field : Field} (h : b.field? name = some field) :
    field ∈ b.fields ∧ field.name = name :=
  ⟨List.mem_of_find?_eq_some h, by simpa using List.find?_some h⟩

/-- Where names differ, the field of a name is the field that bears it. -/
theorem field?_eq_some_iff {b : Batch} (h : b.names.Nodup) {field : Field} :
    b.field? name = some field ↔ field ∈ b.fields ∧ field.name = name := by
  refine ⟨of_field?, ?_⟩
  rintro ⟨hmem, rfl⟩
  have hsome : (b.field? field.name).isSome := by
    unfold Batch.field?
    rw [List.find?_isSome]
    exact ⟨field, hmem, beq_self_eq_true _⟩
  obtain ⟨found, hfound⟩ := Option.isSome_iff_exists.1 hsome
  obtain ⟨hfoundMem, hname⟩ := of_field? hfound
  rw [hfound, List.inj_on_of_nodup_map h hfoundMem hmem hname]

/-- A column of a table bears the name by which it is got, and has as many cells as the table has rows. -/
theorem of_column? (h : t.column? name = .ok (some c)) : c.name = name ∧ c.height = t.height ∧ name ∈ t.names := by
  cases t with
  | frame f =>
    have hc : f.column? name = some c := Except.ok.inj h
    exact ⟨(Frame.mem_columns_of_column? hc).2, height_of_column? hc, Frame.mem_names_of_column? hc⟩
  | batch b =>
    obtain ⟨field, hfield, hnormal⟩ := column?_batch_eq_ok_iff.1 h
    obtain ⟨hmem, rfl⟩ := of_field? hfield
    refine ⟨Column.name_of_normal? hnormal, ?_, List.mem_map_of_mem hmem⟩
    rw [Column.height_of_normal? hnormal]
    exact b.even field hmem

theorem hasColumn_iff : t.hasColumn name = true ↔ name ∈ t.names := List.contains_iff_mem

/-- A column that is looked for in vain is not among the names. -/
theorem hasColumn_eq_false_iff : t.hasColumn name = false ↔ name ∉ t.names := by
  rw [← Bool.not_eq_true, hasColumn_iff]

theorem column?_eq_none_iff : t.column? name = .ok none ↔ name ∉ t.names := by
  cases t with
  | frame f =>
    show Except.ok (f.column? name) = .ok none ↔ name ∉ f.names
    rw [Except.ok.injEq, Frame.column?_eq_none_iff]
  | batch b =>
    have hfield : b.field? name = none ↔ name ∉ b.names := by simp [Batch.field?, Batch.names]
    rw [column?_batch, names, ← hfield]
    cases b.field? name with
    | none => simp
    | some field =>
      simp only
      cases field.toColumn <;> simp [Except.map]

theorem require_eq_ok_iff {role : TableRole} : t.require role name = .ok c ↔ t.column? name = .ok (some c) := by
  unfold require
  split <;> simp_all

/-- The frame of named columns has these columns. -/
theorem select_eq_ok_iff {names : List String} {f : Frame} :
    t.select names = .ok f ↔ List.Forall₂ (fun name c => t.column? name = .ok (some c)) names f.columns := by
  have hforall : ∀ columns, names.mapM (t.require .intermediate) = .ok columns ↔
      List.Forall₂ (fun name c => t.column? name = .ok (some c)) names columns := by
    intro columns
    rw [mapM_eq_ok_iff]
    simp only [require_eq_ok_iff]
  unfold select
  cases hcolumns : names.mapM (t.require .intermediate) with
  | error e =>
    constructor
    · intro h
      cases h
    · intro h
      rw [(hforall f.columns).2 h] at hcolumns
      cases hcolumns
  | ok columns =>
    show Frame.ofColumns? columns = .ok f ↔ _
    rw [Frame.ofColumns?_eq_ok_iff, ← hforall, hcolumns, Except.ok.injEq, eq_comm]

/-- Columns of a table by their names bear these names. -/
theorem names_of_forall₂ {names : List String} {columns : List Column}
    (h : List.Forall₂ (fun name c => t.column? name = .ok (some c)) names columns) :
    columns.map Column.name = names := by
  induction h with
  | nil => rfl
  | cons hc _ ih => rw [List.map_cons, ih, (of_column? hc).1]

/-- The columns of a table have as many rows as the table. -/
theorem height_of_forall₂ {names : List String} {columns : List Column}
    (h : List.Forall₂ (fun name c => t.column? name = .ok (some c)) names columns) :
    ∀ c ∈ columns, c.height = t.height := by
  intro c hmem
  obtain ⟨name, -, hc⟩ := exists_mem_left_of_forall₂ h c hmem
  exact (of_column? hc).2.1

/-- The column of a name that is asked for is among those that are given. -/
theorem mem_of_forall₂ {names : List String} {columns : List Column}
    (h : List.Forall₂ (fun name c => t.column? name = .ok (some c)) names columns) (hname : name ∈ names)
    (hc : t.column? name = .ok (some c)) : c ∈ columns := by
  obtain ⟨d, hmem, hd⟩ := exists_mem_right_of_forall₂ h name hname
  rw [hc] at hd
  cases hd
  exact hmem

/-- The frame of named columns has, under each of the names, what the table has. -/
theorem column?_of_select {names : List String} {f : Frame} (h : t.select names = .ok f) (hname : name ∈ names)
    (hc : t.column? name = .ok (some c)) : f.column? name = some c :=
  Frame.column?_eq_some_iff.2 ⟨mem_of_forall₂ (select_eq_ok_iff.1 h) hname hc, (of_column? hc).1⟩

/-- Different names, each of a column that a table can give, make a frame. -/
theorem exists_select_iff {names : List String} :
    (∃ f, t.select names = .ok f) ↔ names.Nodup ∧ ∀ name ∈ names, ∃ c, t.column? name = .ok (some c) := by
  rw [← exists_forall₂_iff]
  constructor
  · rintro ⟨f, hf⟩
    have hcolumns := select_eq_ok_iff.1 hf
    refine ⟨?_, f.columns, hcolumns⟩
    rw [← names_of_forall₂ hcolumns]
    exact f.distinct
  · rintro ⟨hnodup, columns, hcolumns⟩
    have hnames : (columns.map Column.name).Nodup := by
      rw [names_of_forall₂ hcolumns]
      exact hnodup
    obtain ⟨f, hf⟩ := Frame.exists_ofColumns? hnames (height_of_forall₂ hcolumns)
    refine ⟨f, select_eq_ok_iff.2 ?_⟩
    rw [Frame.ofColumns?_eq_ok_iff.1 hf]
    exact hcolumns

end Table

end TieWalk
