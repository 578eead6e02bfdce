import TieWalk.Proofs.Table.Joining
import TieWalk.Relation.Tie

/-!
# What stands beside the sample

Aggregates keyed by person are put beside a sample. Where no identifier has two of them, every sample row stays in its
place with its columns as they are, and has the cells of its identifier's aggregates beside them.
-/

namespace TieWalk

/-! ## Tables as frames -/

namespace Table

/-- A table that turns into a frame has the frame's columns, names and rows. -/
theorem of_toFrame {t : Table} {f : Frame} (h : t.toFrame = .ok f) :
    f.names = t.names ∧ ∀ name, t.column? name = .ok (f.column? name) := by
  cases t with
  | frame g =>
    cases h
    exact ⟨rfl, fun _ => rfl⟩
  | batch b =>
    have hcolumns := select_eq_ok_iff.1 h
    have hnames : f.names = b.names := names_of_forall₂ hcolumns
    refine ⟨hnames, fun name => ?_⟩
    by_cases hname : name ∈ b.names
    · obtain ⟨c, hc⟩ := (exists_select_iff.1 ⟨f, h⟩).2 name hname
      rw [hc, column?_of_select h hname hc]
    · rw [column?_eq_none_iff.2 hname, Frame.column?_eq_none_iff.2 (hnames ▸ hname)]

/-- A table that turns into a frame with a column has the frame's number of rows. -/
theorem height_of_toFrame {t : Table} {f : Frame} {name : String} {c : Column} (h : t.toFrame = .ok f)
    (hc : f.column? name = some c) : f.height = t.height := by
  have hcolumn := (of_toFrame h).2 name
  rw [hc] at hcolumn
  rw [← height_of_column? hc, (of_column? hcolumn).2.1]

end Table

/-! ## The sample's keys -/

/-- The key of a person. -/
def Key.ofPerson (p : Person) : Key := .number p.toInt

theorem Key.ofPerson_injective {p q : Person} (h : Key.ofPerson p = Key.ofPerson q) : p = q :=
  IntType.Value.ext (Key.number.inj h)

/-- Long words have themselves as keys. -/
theorem Column.keys_toLongs (c : Column) : c.toLongs.keys = c.longs.map (Option.map Key.ofPerson) := by
  unfold keys toLongs
  apply List.map_congr_left
  intro cell _
  cases cell <;> rfl

variable {f keyed : Frame} {ids : Column}

/-- A sample is keyed if the name of its keys is free, and then has them behind its columns. -/
theorem exists_keyedSample (hids : f.column? ColumnName.person = some ids) (hfree : ColumnName.samplePerson ∉ f.names) :
    ∃ keyed, keyedSample f = .ok keyed ∧ keyed.columns = f.columns ++ [ids.toLongs.rename ColumnName.samplePerson] := by
  unfold keyedSample
  split
  · next h =>
    rw [hids] at h
    cases h
  · next ids' h =>
    rw [hids] at h
    cases h
    exact ⟨_, rfl, Frame.columns_put_of_not_mem _ hfree⟩

theorem mem_names_keyedSample (h : keyedSample f = .ok keyed) {name : String} (hname : name ∈ f.names) :
    name ∈ keyed.names := by
  unfold keyedSample at h
  split at h
  · cases h
  · cases h
    exact Frame.mem_names_put _ hname

/-! ## Attaching -/

/-- The rows that stand side by side when aggregates are put beside a sample: those of the sample's identifiers, and
those of the aggregates' keys. -/
def attachedRows (ids key : Column) : List (Nat × Option Nat) := joinedRows .left ids.toLongs.keys key.keys

section

variable {aggregated : Frame} {key : Column} (hids : f.column? ColumnName.person = some ids)
  (hfree : ColumnName.samplePerson ∉ f.names) (hrow : ColumnName.rowNumber ∉ f.names)
  (hkey : aggregated.column? ColumnName.samplePerson = some key) (htype : key.type = .long)
  (hapart : Apart f aggregated ColumnName.samplePerson)

include hapart

/-- Columns that are apart from the sample are apart from it with its keys. -/
theorem apart_keyedSample (hkeyed : keyed.columns = f.columns ++ [ids.toLongs.rename ColumnName.samplePerson]) :
    Apart keyed aggregated ColumnName.samplePerson := by
  intro name hname hne
  obtain ⟨hnot, hnumber⟩ := hapart name hname hne
  refine ⟨fun hmem => ?_, hnumber⟩
  rw [Frame.names, hkeyed, List.map_append] at hmem
  rcases List.mem_append.1 hmem with hmem | hmem
  · exact hnot hmem
  · exact hne (List.mem_singleton.1 hmem)

include hids hfree hrow hkey htype

/-- The sample with its keys joined to the aggregates: the sample's columns, the keys, and the aggregates, each as often
as rows stand side by side. -/
theorem exists_keyedJoin : ∃ keyed j, keyedSample f = .ok keyed ∧
    keyed.join aggregated ColumnName.samplePerson ColumnName.samplePerson .left = .ok j ∧
    j.columns = (f.columns ++ [ids.toLongs.rename ColumnName.samplePerson]).map
        (fun c => c.pick ((attachedRows ids key).map fun r => some r.1)) ++
      (aggregated.columns.filter fun c => c.name != ColumnName.samplePerson).map
        fun c => c.pick ((attachedRows ids key).map Prod.snd) := by
  obtain ⟨keyed, hkeyed, hkeyedColumns⟩ := exists_keyedSample hids hfree
  have hleft : keyed.column? ColumnName.samplePerson = some (ids.toLongs.rename ColumnName.samplePerson) := by
    refine Frame.column?_eq_some_iff.2 ⟨?_, rfl⟩
    rw [hkeyedColumns]
    exact List.mem_append_right _ List.mem_cons_self
  have hkeyedRow : ColumnName.rowNumber ∉ keyed.names := by
    intro hmem
    rw [Frame.names, hkeyedColumns, List.map_append] at hmem
    rcases List.mem_append.1 hmem with hmem | hmem
    · exact hrow hmem
    · have hne : ColumnName.rowNumber ≠ ColumnName.samplePerson := by decide
      exact hne (List.mem_singleton.1 hmem)
  have hkeyedApart := apart_keyedSample hapart hkeyedColumns
  obtain ⟨j, hj, hjoined⟩ :=
    Frame.exists_join hleft hkey (by decide) (by decide) hkeyedRow htype.symm hkeyedApart .left
  refine ⟨keyed, j, hkeyed, hj, ?_⟩
  rw [hjoined, Frame.joinedColumns_of_apart (Frame.mem_columns_of_column? hkey).2 hkeyedApart, hkeyedColumns]
  rfl

/-- Aggregates are put beside the sample exactly where as many rows stand side by side as the sample has: the sample's
columns, and the aggregates but for their keys. -/
theorem Table.exists_attachedRows {sample : Table} (hf : sample.toFrame = .ok f) : ∃ output,
    sample.attach aggregated = (if (attachedRows ids key).length = sample.height then .ok output
      else .error (.frame (.rowCount (attachedRows ids key).length sample.height))) ∧
    output.columns = f.columns.map (fun c => c.pick ((attachedRows ids key).map fun r => some r.1)) ++
      (aggregated.columns.filter fun c => c.name != ColumnName.samplePerson).map
        fun c => c.pick ((attachedRows ids key).map Prod.snd) := by
  obtain ⟨keyed, j, hkeyed, hj, hjoined⟩ := exists_keyedJoin hids hfree hrow hkey htype hapart
  have hleft : ((f.columns.map fun c => c.pick ((attachedRows ids key).map fun r => some r.1)).filter
      fun c => c.name != ColumnName.samplePerson) =
      f.columns.map fun c => c.pick ((attachedRows ids key).map fun r => some r.1) := by
    rw [List.filter_map]
    exact congrArg (List.map _) (Frame.filter_name_ne hfree)
  have hdrop : (j.drop ColumnName.samplePerson).columns =
      f.columns.map (fun c => c.pick ((attachedRows ids key).map fun r => some r.1)) ++
        (aggregated.columns.filter fun c => c.name != ColumnName.samplePerson).map
          fun c => c.pick ((attachedRows ids key).map Prod.snd) := by
    show (j.columns.filter fun c => c.name != ColumnName.samplePerson) = _
    rw [hjoined, List.map_append, List.map_singleton, List.filter_append, List.filter_append, hleft,
      List.filter_cons_of_neg (by simp), List.filter_nil, List.append_nil]
    refine congrArg (_ ++ ·) (List.filter_eq_self.2 fun c hc => ?_)
    obtain ⟨d, hd, rfl⟩ := List.mem_map.1 hc
    exact (List.mem_filter.1 hd).2
  have hmem : ids.pick ((attachedRows ids key).map fun r => some r.1) ∈ (j.drop ColumnName.samplePerson).columns := by
    rw [hdrop]
    exact List.mem_append_left _ (List.mem_map_of_mem (Frame.mem_columns_of_column? hids).1)
  have hheight : (j.drop ColumnName.samplePerson).height = (attachedRows ids key).length := by
    rw [Frame.height_eq_of_mem hmem, Column.height_pick, List.length_map]
  refine ⟨j.drop ColumnName.samplePerson, ?_, hdrop⟩
  unfold Table.attach
  rw [if_neg (by simp [Frame.mem_names_of_column? hkey]), hf]
  simp only [hkeyed, hj, hheight]

/-- Aggregates of which no identifier has two are put beside the sample: its columns stay as they are, and each row has
the cells at the place of its identifier among the keys, if it is there. -/
theorem Table.exists_attach {sample : Table} (hf : sample.toFrame = .ok f)
    (hunique : ∀ id ∈ ids.toLongs.keys, (partners key.keys id).length ≤ 1) :
    ∃ output, sample.attach aggregated = .ok output ∧
      output.columns = f.columns ++ (aggregated.columns.filter fun c => c.name != ColumnName.samplePerson).map
        fun c => c.pick (ids.toLongs.keys.map fun id => (partners key.keys id).head?) := by
  obtain ⟨output, hattach, hcolumns⟩ := Table.exists_attachedRows hids hfree hrow hkey htype hapart hf
  have hheight : ids.toLongs.keys.length = f.height := by
    rw [← height_of_column? hids]
    simp [Column.keys, Column.toLongs, Column.longs, Column.height]
  have hlength : (attachedRows ids key).length = sample.height := by
    rw [← Table.height_of_toFrame hf hids, ← hheight]
    exact length_joinedRows_left_eq_iff.2 hunique
  have hkept : ∀ c ∈ f.columns, c.pick ((attachedRows ids key).map fun r => some r.1) = c := by
    intro c hc
    refine Frame.pick_joinedRows_left ?_ hunique
    rw [hheight, f.height_eq_of_mem hc]
  rw [if_pos hlength] at hattach
  refine ⟨output, hattach, ?_⟩
  rw [hcolumns, List.map_congr_left hkept, List.map_id', attachedRows, Frame.snd_joinedRows_left hunique]

end

/-- What is attached was attached to a frame in which the row number's name is free. -/
theorem Table.exists_toFrame_of_attach {sample : Table} {aggregated output : Frame}
    (h : sample.attach aggregated = .ok output) :
    ∃ f, sample.toFrame = .ok f ∧ ColumnName.rowNumber ∉ f.names := by
  unfold Table.attach at h
  split at h
  · cases h
  · split at h
    · cases h
    · next f hf =>
      split at h
      · cases h
      · next keyed hkeyed =>
        split at h
        · cases h
        · next j hj =>
          obtain ⟨-, -, -, -, -, -, hrow, -⟩ := Frame.join_eq_ok_iff.1 hj
          exact ⟨f, hf, fun hmem => hrow (mem_names_keyedSample hkeyed hmem)⟩

end TieWalk
