import TieWalk.Proofs.Aggregate.Requested
import TieWalk.Proofs.Table.Attaching
import TieWalk.Proofs.Table.Grouping
import TieWalk.Walk.Stages

/-!
# The aggregates of a walk

The pairs of a walk are joined to the characteristics of the persons reached and grouped by sample person. What comes
out is said of the pairs and the characteristics alone (`exists_summarize`): a row for each sample person who reaches a
row of the characteristics, and in it the statistics of all the rows that the person reaches.
-/

namespace TieWalk

namespace Column

theorem keys_ofLongs (name : String) (values : List Long) :
    (ofLongs name values).keys = values.map fun p => some (Key.ofPerson p) := by
  unfold keys ofLongs
  rw [List.map_map]
  rfl

end Column

/-! ## The rows that a sample person reaches -/

/-- The rows of the persons that a sample person reaches, person by person. -/
def reachedRows (pairs : AscSet Pair) (ids : Column) (e : Key) : List Nat :=
  (pairs.toList.filter fun p => decide (Key.ofPerson p.sample = e)).flatMap
    fun p => rowsWith ids.toLongs.keys (Key.ofPerson p.reached)

/-- The pairs, each beside the rows of the person reached. -/
def pairedRows (pairs : AscSet Pair) (ids : Column) : List (Pair × Nat) :=
  besides pairs.toList (fun p => some (Key.ofPerson p.reached)) ids.toLongs.keys

/-- The keys of the sample persons who reach a row, ascending. -/
def reachingKeys (pairs : AscSet Pair) (ids : Column) : List Key :=
  groupKeys ((pairedRows pairs ids).map fun x => some (Key.ofPerson x.1.sample))

variable {pairs : AscSet Pair} {ids : Column}

/-- A row that a person reaches is that of a person whom a pair joins to them. -/
theorem mem_reachedRows {e : Person} {i : Nat} :
    i ∈ reachedRows pairs ids (Key.ofPerson e) ↔ ∃ a, ⟨e, a⟩ ∈ pairs ∧ ids.longs[i]? = some (some a) := by
  unfold reachedRows
  simp only [List.mem_flatMap, List.mem_filter, decide_eq_true_iff, mem_rowsWith, Column.keys_toLongs,
    List.getElem?_map, Option.map_eq_some_iff]
  constructor
  · rintro ⟨p, ⟨hp, hsample⟩, id, hid, a, rfl, ha⟩
    obtain ⟨sample, reached⟩ := p
    cases Key.ofPerson_injective hsample
    cases Key.ofPerson_injective ha
    exact ⟨_, hp, hid⟩
  · rintro ⟨a, ha, hi⟩
    exact ⟨⟨e, a⟩, ⟨ha, rfl⟩, some a, hi, a, rfl, rfl⟩

/-- A sample person reaches each row once, by however many ties. -/
theorem nodup_reachedRows (e : Key) : (reachedRows pairs ids e).Nodup := by
  unfold reachedRows
  rw [List.nodup_flatMap]
  refine ⟨fun p _ => nodup_rowsWith _ _, ?_⟩
  refine List.pairwise_filter.2 (pairs.nodup_toList.imp fun {p q} hpq hp hq => ?_)
  show List.Disjoint _ _
  rw [List.disjoint_left]
  intro i hi hi'
  rw [mem_rowsWith] at hi hi'
  rw [hi] at hi'
  have hreached : p.reached = q.reached := Key.ofPerson_injective (Option.some.inj (Option.some.inj hi'))
  have hsample : p.sample = q.sample :=
    Key.ofPerson_injective ((of_decide_eq_true hp).trans (of_decide_eq_true hq).symm)
  obtain ⟨sample, reached⟩ := p
  obtain ⟨sample', reached'⟩ := q
  cases hreached
  cases hsample
  exact hpq rfl

/-- The rows that a sample person reaches stand beside the person's pairs. -/
theorem reachedRows_eq (e : Key) :
    reachedRows pairs ids e =
      ((pairedRows pairs ids).filter fun x => decide (some (Key.ofPerson x.1.sample) = some e)).map Prod.snd := by
  unfold reachedRows pairedRows besides
  simp only [Option.some.injEq]
  induction pairs.toList with
  | nil => rfl
  | cons p rest ih =>
    rw [List.flatMap_cons, List.filter_append, List.map_append, ← ih, List.filter_map, List.filter_cons]
    simp only [Function.comp_def, partners]
    by_cases h : Key.ofPerson p.sample = e
    · simp [h, Function.comp_def]
    · simp [h]

/-- The persons who reach a row are those for whom there is one. -/
theorem mem_reachingKeys {e : Key} : e ∈ reachingKeys pairs ids ↔ reachedRows pairs ids e ≠ [] := by
  unfold reachingKeys
  rw [mem_groupKeys, reachedRows_eq]
  simp [List.filter_eq_nil_iff]

/-! ## Joining and grouping -/

/-- The column of an aggregate over groups of rows, summed up in one way. -/
def Aggregate.over (a : Aggregate) (how : Summation) (c : Column) (groups : List (List Nat)) : Column :=
  ⟨a.outputName, a.statistic.resultType c.type, groups.map fun rows => a.statistic.value? c.type how (c.cellsAt rows)⟩

/-- The cells of a column that stand beside the pairs of a sample person are those of the rows that the person reaches.
-/
theorem cellsAt_pick_pairedRows (c : Column) (e : Key) :
    (c.pick ((pairedRows pairs ids).map fun x => some x.2)).cellsAt
        (rowsWith ((pairedRows pairs ids).map fun x => some (Key.ofPerson x.1.sample)) e) =
      (c.cellsAt (reachedRows pairs ids e) : List (Option c.type.Carrier)) := by
  have h := map_rowsWith (pairedRows pairs ids) (fun x => some (Key.ofPerson x.1.sample))
    (fun x => (c.cells[x.2]?).join) e
  unfold Column.cellsAt Column.pick
  rw [reachedRows_eq, List.map_map, List.map_map]
  exact h

/-- An aggregate over the groups of joined rows is the one over the rows that each person reaches. -/
theorem evaluate_pick_pairedRows (a : Aggregate) (layout : Layout) (c : Column) {keys : List (Option Key)}
    (hkeys : keys = (pairedRows pairs ids).map fun x => some (Key.ofPerson x.1.sample)) :
    ∃ how, a.evaluate layout (groupedRows keys) (c.pick ((pairedRows pairs ids).map fun x => some x.2)) =
      a.over how c ((reachingKeys pairs ids).map (reachedRows pairs ids)) := by
  subst hkeys
  refine ⟨layout.summation (groupedRows ((pairedRows pairs ids).map fun x => some (Key.ofPerson x.1.sample)))
    (c.pick ((pairedRows pairs ids).map fun x => some x.2)), ?_⟩
  unfold Aggregate.evaluate Aggregate.over groupedRows reachingKeys
  simp only [List.map_map, Function.comp_def, cellsAt_pick_pairedRows]
  rfl

/-- The columns of pairs: the sample persons and the persons reached. -/
def pairColumns (pairs : List Pair) : List Column :=
  [.ofLongs ColumnName.samplePerson (pairs.map Pair.sample), .ofLongs ColumnName.person (pairs.map Pair.reached)]

/-- Pairs make a frame of their two columns. -/
theorem exists_pairFrame (pairs : List Pair) : ∃ f, pairFrame pairs = .ok f ∧ f.columns = pairColumns pairs := by
  have hnames : ((pairColumns pairs).map Column.name).Nodup := by
    show [ColumnName.samplePerson, ColumnName.person].Nodup
    decide
  have hheight : ∀ c ∈ pairColumns pairs, c.height =
    pairs.length := by simp [pairColumns, Column.ofLongs, Column.height]
  obtain ⟨f, hf⟩ := Frame.exists_ofColumns? hnames hheight
  exact ⟨f, hf, Frame.ofColumns?_eq_ok_iff.1 hf⟩

/-- The rows of the pairs' join with the characteristics, by their numbers on either side. -/
def pairedNumbers (pairs : AscSet Pair) (ids : Column) : List (Nat × Option Nat) :=
  joinedRows .inner (pairs.toList.map fun p => some (Key.ofPerson p.reached)) ids.toLongs.keys

/-- On the right, the join has the rows that stand beside the pairs. -/
theorem map_snd_pairedNumbers :
    (pairedNumbers pairs ids).map Prod.snd = (pairedRows pairs ids).map fun x => some x.2 :=
  map_joinedRows_inner pairs.toList (fun p => some (Key.ofPerson p.reached)) ids.toLongs.keys fun _ row => row

/-- On the left, the join has the sample persons of the pairs. -/
theorem keys_pick_pairedNumbers :
    ((Column.ofLongs ColumnName.samplePerson (pairs.toList.map Pair.sample)).pick
        ((pairedNumbers pairs ids).map fun r => some r.1)).keys =
      (pairedRows pairs ids).map fun x => some (Key.ofPerson x.1.sample) := by
  have hsample := map_joinedRows_inner pairs.toList (fun p => some (Key.ofPerson p.reached)) ids.toLongs.keys
    fun p _ => p.map fun p => Key.ofPerson p.sample
  rw [Column.keys_pick, Column.keys_ofLongs, List.map_map, List.map_map]
  refine Eq.trans ?_ hsample
  apply List.map_congr_left
  intro r _
  simp only [Function.comp, Option.bind_some, List.getElem?_map]
  cases pairs.toList[r.1]? <;> rfl

section

variable {characteristics : Table} {vars : List String} {aggregates : List Aggregate}

/-- The characteristics that aggregates read, if the identifiers and every variable can be read. -/
theorem exists_characteristicsFrame (hids : characteristics.column? ColumnName.person = .ok (some ids))
    (hnodup : vars.Nodup)
    (hvars : ∀ name ∈ vars, name ≠ ColumnName.person ∧ ∃ c, characteristics.column? name = .ok (some c)) :
    ∃ g, characteristicsFrame characteristics vars = .ok g ∧ g.names = ColumnName.person :: vars ∧
      g.column? ColumnName.person = some ids.toLongs ∧
      ∀ name ∈ vars, ∀ c, characteristics.column? name = .ok (some c) → g.column? name = some c.nullAsFloat := by
  have hperson : ColumnName.person ∉ vars := fun h => (hvars _ h).1 rfl
  obtain ⟨f, hf⟩ : ∃ f, characteristics.select (ColumnName.person :: vars) = .ok f := by
    refine Table.exists_select_iff.2 ⟨List.nodup_cons.2 ⟨hperson, hnodup⟩, fun name hname => ?_⟩
    rcases List.mem_cons.1 hname with rfl | hname
    · exact ⟨ids, hids⟩
    · exact (hvars name hname).2
  refine ⟨(f.castLongs ColumnName.person).castNulls vars, ?_, ?_, ?_, fun name hname c hc => ?_⟩
  · unfold characteristicsFrame
    rw [hf]
  · rw [← Table.names_of_forall₂ (Table.select_eq_ok_iff.1 hf)]
    unfold Frame.castNulls Frame.castLongs Frame.mapColumns Frame.names
    rw [List.map_map, List.map_map]
    apply List.map_congr_left
    intro c _
    simp only [Function.comp]
    split <;> split <;> simp
  · have hcolumn := Table.column?_of_select hf List.mem_cons_self hids
    unfold Frame.castNulls Frame.castLongs
    rw [Frame.column?_mapColumns, Frame.column?_mapColumns, hcolumn]
    have hname : ids.name = ColumnName.person := (Table.of_column? hids).1
    simp [hname, hperson]
  · have hcolumn := Table.column?_of_select hf (List.mem_cons_of_mem _ hname) hc
    unfold Frame.castNulls Frame.castLongs
    rw [Frame.column?_mapColumns, Frame.column?_mapColumns, hcolumn]
    have hcname : c.name = name := (Table.of_column? hc).1
    simp [hcname, hname, (hvars name hname).1]

/-- The pairs joined to characteristics, where no variable takes the row number's name: the sample persons of the pairs,
the persons reached, and the variables. -/
theorem exists_joinOfPairs {left right : Frame} (hleft : left.columns = pairColumns pairs.toList)
    (hnames : right.names = ColumnName.person :: vars) (hkey : right.column? ColumnName.person = some ids.toLongs)
    (hvars : ∀ name ∈ vars, name ≠ ColumnName.person ∧ name ≠ ColumnName.samplePerson)
    (hrow : ColumnName.rowNumber ∉ vars) :
    ∃ j, (Table.frame left).join (.frame right) ColumnName.person ColumnName.person .inner = .ok j ∧
      j.names = ColumnName.samplePerson :: ColumnName.person :: vars ∧
      j.columns = (pairColumns pairs.toList).map (fun c => c.pick ((pairedNumbers pairs ids).map fun r => some r.1)) ++
        (right.columns.filter fun c => c.name != ColumnName.person).map
          fun c => c.pick ((pairedRows pairs ids).map fun x => some x.2) := by
  have hleftNames : left.names = [ColumnName.samplePerson, ColumnName.person] := by
    rw [Frame.names, hleft]
    rfl
  have hleftKey : left.column? ColumnName.person =
      some (.ofLongs ColumnName.person (pairs.toList.map Pair.reached)) := by
    refine Frame.column?_eq_some_iff.2 ⟨?_, rfl⟩
    rw [hleft]
    exact List.mem_cons_of_mem _ List.mem_cons_self
  have hapart : Apart left right ColumnName.person := by
    intro name hname hperson
    rw [hnames] at hname
    rcases List.mem_cons.1 hname with rfl | hname
    · exact absurd rfl hperson
    · refine ⟨?_, ?_⟩
      · rw [hleftNames]
        simp [hperson, (hvars name hname).2]
      · rintro rfl
        exact hrow hname
  have hfree : ColumnName.rowNumber ∉ left.names := by
    rw [hleftNames]
    decide
  obtain ⟨j, hj, hcolumns⟩ := Frame.exists_join hleftKey hkey (by decide) (by decide) hfree rfl hapart .inner
  refine ⟨j, ?_, ?_, ?_⟩
  · rw [Table.join_frames (by simp [hleftNames]) (by simp [hnames]), hj]
  · have hothers : (ColumnName.person :: vars).filter (fun name => name != ColumnName.person) = vars := by
      rw [List.filter_cons_of_neg (by simp)]
      exact List.filter_eq_self.2 fun name hname => bne_iff_ne.2 (hvars name hname).1
    rw [Frame.names_of_join hj hapart, hleftNames, hnames, hothers]
    rfl
  · rw [hcolumns, Frame.joinedColumns_of_apart (Frame.mem_columns_of_column? hkey).2 hapart, Column.keys_ofLongs,
      List.map_map, hleft, ← map_snd_pairedNumbers]
    rfl

/-- The pairs joined to characteristics that can be read, where no variable takes the row number's name: the sample
persons and, under the name of each variable, the cells of the rows beside the pairs. -/
theorem exists_joinedPairs {left right : Frame} (hleft : left.columns = pairColumns pairs.toList)
    (hnames : right.names = ColumnName.person :: vars) (hkey : right.column? ColumnName.person = some ids.toLongs)
    (hvars : ∀ name ∈ vars, name ≠ ColumnName.person ∧ name ≠ ColumnName.samplePerson)
    (hrow : ColumnName.rowNumber ∉ vars) :
    ∃ j key, (Table.frame left).join (.frame right) ColumnName.person ColumnName.person .inner = .ok j ∧
      j.names = ColumnName.samplePerson :: ColumnName.person :: vars ∧ j.column? ColumnName.samplePerson = some key ∧
      key.type = .long ∧ key.keys = (pairedRows pairs ids).map (fun x => some (Key.ofPerson x.1.sample)) ∧
      ∀ name ∈ vars, ∀ c, right.column? name = some c →
        j.column? name = some (c.pick ((pairedRows pairs ids).map fun x => some x.2)) := by
  obtain ⟨j, hj, hjoinNames, hcolumns⟩ := exists_joinOfPairs hleft hnames hkey hvars hrow
  refine ⟨j, _, hj, hjoinNames, ?_, rfl, keys_pick_pairedNumbers, fun name hname c hc => ?_⟩
  · refine Frame.column?_eq_some_iff.2 ⟨?_, rfl⟩
    rw [hcolumns]
    exact List.mem_append_left _ List.mem_cons_self
  · obtain ⟨hmem, rfl⟩ := Frame.column?_eq_some_iff.1 hc
    refine Frame.column?_eq_some_iff.2 ⟨?_, rfl⟩
    rw [hcolumns]
    refine List.mem_append_right _ (List.mem_map.2 ⟨c, List.mem_filter.2 ⟨hmem, ?_⟩, rfl⟩)
    exact bne_iff_ne.2 (hvars c.name hname).1

/-- The aggregates of pairs over characteristics that can be read, where no variable takes the row number's name: the
key of each sample person who reaches a row, and the statistics of the rows that the person reaches. -/
theorem exists_summarize (pairs : AscSet Pair) (hids : characteristics.column? ColumnName.person = .ok (some ids))
    (hnodup : vars.Nodup)
    (hvars : ∀ name ∈ vars, name ≠ ColumnName.person ∧ name ≠ ColumnName.samplePerson ∧ name ≠ Frame.everyColumn ∧
      ∃ c, characteristics.column? name = .ok (some c))
    (hrow : ColumnName.rowNumber ∉ vars) (haggregates : ∀ a ∈ aggregates, a.column ∈ vars)
    (hnames : (aggregates.map Aggregate.outputName).Nodup) :
    ∃ t key columns, summarize pairs characteristics vars aggregates = .ok t ∧ t.columns = key :: columns ∧
      key.name = ColumnName.samplePerson ∧ key.type = .long ∧ key.keys = (reachingKeys pairs ids).map some ∧
      List.Forall₂ (fun a d => ∃ c how, characteristics.column? a.column = .ok (some c) ∧
        d = a.over how c.nullAsFloat ((reachingKeys pairs ids).map (reachedRows pairs ids))) aggregates columns := by
  obtain ⟨left, hleft, hleftColumns⟩ := exists_pairFrame pairs.toList
  obtain ⟨right, hright, hrightNames, hrightKey, hrightVars⟩ := exists_characteristicsFrame hids hnodup
    fun name hname => ⟨(hvars name hname).1, (hvars name hname).2.2.2⟩
  obtain ⟨j, key, hj, hjoinNames, hkey, hkeyType, hkeys, hjoinVars⟩ := exists_joinedPairs hleftColumns hrightNames
    hrightKey (fun name hname => ⟨(hvars name hname).1, (hvars name hname).2.1⟩) hrow
  have hcolumn : ∀ a ∈ aggregates, a.column ∈ j.names := by
    intro a ha
    rw [hjoinNames]
    exact List.mem_cons_of_mem _ (List.mem_cons_of_mem _ (haggregates a ha))
  have hstar : ∀ a ∈ aggregates, a.column ≠ Frame.everyColumn := fun a ha => (hvars a.column (haggregates a ha)).2.2.1
  have houtputs : (ColumnName.samplePerson :: aggregates.map Aggregate.outputName).Nodup := by
    refine List.nodup_cons.2 ⟨fun hmem => ?_, hnames⟩
    obtain ⟨a, -, ha⟩ := List.mem_map.1 hmem
    exact a.outputName_ne_samplePerson ha
  obtain ⟨t, ht⟩ := Frame.exists_group (by decide) hkey hstar hcolumn houtputs pairs.layout
  obtain ⟨key', columns, hkey', hcolumns, hforall⟩ := Frame.columns_of_group (by decide) hstar ht
  rw [hkey] at hkey'
  cases hkey'
  refine ⟨t, _, columns, ?_, hcolumns, (Frame.mem_columns_of_column? hkey).2, hkeyType, ?_, ?_⟩
  · unfold summarize
    rw [hleft, hright]
    simp only [hj]
    rw [Table.group_of_toFrame (t := .frame _) rfl (by simp [Table.names, hjoinNames]) hcolumn]
    exact ht
  · rw [Column.keys_pick_groupedRows, hkeys]
    rfl
  · refine ((List.forall₂_and_left _ _).2 ⟨haggregates, hforall⟩).imp ?_
    rintro a d ⟨ha, d, hd, rfl⟩
    obtain ⟨c, hc⟩ := (hvars a.column ha).2.2.2
    rw [hjoinVars a.column ha _ (hrightVars a.column ha c hc)] at hd
    cases hd
    obtain ⟨how, heq⟩ := evaluate_pick_pairedRows a pairs.layout c.nullAsFloat hkeys
    exact ⟨c, how, hc, heq⟩

/-- No variable that is aggregated takes the row number's name: the join would have renamed it. -/
theorem rowNumber_not_mem_of_summarize {t : Frame} (haggregated : ∀ name ∈ vars, ∃ a ∈ aggregates, a.column = name)
    (h : summarize pairs characteristics vars aggregates = .ok t) : ColumnName.rowNumber ∉ vars := by
  intro hmem
  obtain ⟨a, ha, hcolumn⟩ := haggregated _ hmem
  unfold summarize at h
  split at h
  · cases h
  · split at h
    · cases h
    · split at h
      · cases h
      · next j hj =>
        obtain ⟨l, r, -, -, hjoin⟩ := Table.exists_frames_of_join hj
        refine Table.not_group_of_missing ha (t := .frame j) ?_ pairs.layout ⟨t, h⟩
        rw [hcolumn]
        exact Frame.rowNumber_not_mem_names_of_join hjoin

end

/-! ## Back at the sample -/

/-- The rows that a sample row's person reaches; a row without a person reaches none. -/
def rowsFrom (pairs : AscSet Pair) (ids : Column) : Option Person → List Nat
  | none => []
  | some e => reachedRows pairs ids (Key.ofPerson e)

/-- The column of an aggregate beside the sample: a cell for each sample row, absent where no row is reached. -/
def Aggregate.beside (a : Aggregate) (how : Summation) (c : Column) (reached : List (List Nat)) : Column :=
  ⟨a.outputName, a.statistic.resultType c.type,
    reached.map fun rows => if rows = [] then none else a.statistic.value? c.type how (c.cellsAt rows)⟩

/-- The aggregates of the sample persons who reach a row, picked by the identifiers of the sample. -/
theorem pick_over (a : Aggregate) (how : Summation) (c : Column) (sample : List (Option Person)) :
    (a.over how c ((reachingKeys pairs ids).map (reachedRows pairs ids))).pick
        ((sample.map (Option.map Key.ofPerson)).map fun key =>
          (partners ((reachingKeys pairs ids).map some) key).head?) =
      a.beside how c (sample.map (rowsFrom pairs ids)) := by
  unfold Column.pick Aggregate.over Aggregate.beside
  simp only [Column.mk.injEq, heq_eq_eq, true_and, List.map_map]
  apply List.map_congr_left
  intro id _
  cases id with
  | none => rfl
  | some e =>
    simp only [Function.comp, Option.map_some, partners, rowsFrom]
    have hpick := pick_rowsWith (nodup_groupKeys ((pairedRows pairs ids).map fun x => some (Key.ofPerson x.1.sample)))
      (fun key => a.statistic.value? c.type how (c.cellsAt (reachedRows pairs ids key))) (Key.ofPerson e)
    refine hpick.trans ?_
    by_cases h : Key.ofPerson e ∈ reachingKeys pairs ids
    · exact (if_pos h).trans (if_neg (mem_reachingKeys.1 h)).symm
    · have hnil : reachedRows pairs ids (Key.ofPerson e) = [] := by
        by_contra hne
        exact h (mem_reachingKeys.2 hne)
      exact (if_neg h).trans (if_pos hnil).symm

end TieWalk
