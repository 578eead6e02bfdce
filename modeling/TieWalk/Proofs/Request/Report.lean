import TieWalk.Proofs.Request.Meaning
import TieWalk.Proofs.Walk.Counting

/-!
# What a request reports

Beside its table, an answer reports the numbers of each hop, the hops that made pairs more than once, and how many
sample persons have a row. `Request.IsReport` says of these numbers what they count, in terms of the files' ties and of
the sets of pairs that they make one after another; every answer, in either mode, has such a report
(`Request.run_isReport`).
-/

namespace TieWalk

/-- The sample persons whose pairs lead to a row of the characteristics. -/
def samplesWithRow (pairs : Finset Pair) (rowIds : Column) : Finset Person :=
  (pairs.filter fun p => some p.reached ∈ rowIds.longs).image Pair.sample

/-- A sample person has a row if one of the persons they reach does. -/
theorem mem_samplesWithRow {pairs : Finset Pair} {rowIds : Column} {s : Person} :
    s ∈ samplesWithRow pairs rowIds ↔ ∃ a, ⟨s, a⟩ ∈ pairs ∧ some a ∈ rowIds.longs := by
  unfold samplesWithRow
  rw [Finset.mem_image]
  constructor
  · rintro ⟨⟨s, a⟩, hp, rfl⟩
    exact ⟨a, Finset.mem_filter.1 hp⟩
  · rintro ⟨a, hp⟩
    exact ⟨⟨s, a⟩, Finset.mem_filter.2 hp, rfl⟩

/-- The keys that reach a row are those of the sample persons who do. -/
theorem mem_reachingKeys_iff {pairs : AscSet Pair} {rowIds : Column} {e : Key} :
    e ∈ reachingKeys pairs rowIds ↔ ∃ s ∈ samplesWithRow pairs.toFinset rowIds, Key.ofPerson s = e := by
  rw [mem_reachingKeys]
  constructor
  · intro hne
    obtain ⟨i, hi⟩ := List.exists_mem_of_ne_nil _ hne
    obtain ⟨p, hp, -⟩ := List.mem_flatMap.1 hi
    obtain ⟨-, hsample⟩ := List.mem_filter.1 hp
    obtain rfl := of_decide_eq_true hsample
    obtain ⟨a, ha, hrow⟩ := mem_reachedRows.1 hi
    exact ⟨p.sample, mem_samplesWithRow.2 ⟨a, AscSet.mem_toFinset.2 ha, List.mem_of_getElem? hrow⟩, rfl⟩
  · rintro ⟨s, hs, rfl⟩
    obtain ⟨a, ha, hmem⟩ := mem_samplesWithRow.1 hs
    obtain ⟨i, hrow⟩ := List.mem_iff_getElem?.1 hmem
    exact List.ne_nil_of_mem (mem_reachedRows.2 ⟨a, AscSet.mem_toFinset.1 ha, hrow⟩)

/-- There are as many keys as sample persons who reach a row. -/
theorem length_reachingKeys (pairs : AscSet Pair) (rowIds : Column) :
    (reachingKeys pairs rowIds).length = (samplesWithRow pairs.toFinset rowIds).card := by
  have hkeys : (reachingKeys pairs rowIds).toFinset = (samplesWithRow pairs.toFinset rowIds).image Key.ofPerson := by
    ext e
    rw [List.mem_toFinset, mem_reachingKeys_iff, Finset.mem_image]
  have hnodup : (reachingKeys pairs rowIds).Nodup := nodup_groupKeys _
  rw [← List.toFinset_card_of_nodup hnodup, hkeys]
  exact Finset.card_image_of_injective _ fun _ _ => Key.ofPerson_injective

namespace Request

/-- The report of an answer from located files. -/
structure IsReport (checked : Checked) (store : Store) (located : LocatedPlan) (pairs : Finset Pair) (rowIds : Column)
    (o : Outcome) : Prop where
  /-- The stages are the hops of the query, numbered from zero. -/
  hops : located.stages.map (fun s => s.stage.hop) = checked.query.hops
  numbers : located.stages.map (fun s => s.stage.index) = List.range checked.query.hops.length
  /-- There are numbers for each stage, in their order, and a notice for each that makes pairs more than once. -/
  stages : o.stages = located.stages.mapIdx (statsAt store located.format pairs located.stages)
  notices : o.notices = (located.stages.mapIdx (noticeAt? store located.format pairs located.stages)).reduceOption
  /-- Every pair is made at least once. -/
  card_le_made : ∀ k s, located.stages[k]? = some s →
    (pairsAfter store located.format pairs (located.stages.take (k + 1))).card ≤
      madeAt store located.format pairs located.stages k s
  rowsRead : totalRowsRead o.stages = (located.stages.map fun s => (s.ties store located.format).length).sum
  reached : o.reached = (samplesWithRow (pairsAfter store located.format pairs located.stages) rowIds).card

variable {r : Request} {store : Store} {checked : Checked} {located : LocatedPlan}

/-- The aggregates of a checked request have a row for each sample person who reaches one. -/
theorem height_of_summarize (holds : checked.Holds r) {rowIds : Column}
    (hrowIds : r.characteristics.column? ColumnName.person = .ok (some rowIds)) {pairs : AscSet Pair}
    {aggregated : Frame}
    (h : summarize pairs r.characteristics checked.query.vars checked.aggregates = .ok aggregated) :
    aggregated.height = (samplesWithRow pairs.toFinset rowIds).card := by
  have hrow := rowNumber_not_mem_of_summarize holds.aggregated h
  obtain ⟨t, key, columns, hsummarize, hcolumns, -, -, hkeys, -⟩ := exists_summarize pairs hrowIds holds.vars_nodup
    holds.of_mem_vars hrow (fun a ha => (holds.of_mem_aggregates a ha).1) holds.outputNames_nodup
  rw [h] at hsummarize
  cases hsummarize
  have hheight : aggregated.height = key.keys.length := by
    rw [Frame.height, hcolumns, Column.keys, List.length_map]
    rfl
  rw [hheight, hkeys, List.length_map, length_reachingKeys]

/-- Every answer, in either mode, has the report of its located files, of the sample's different persons and of the rows
that the characteristics have. -/
theorem run_isReport {o : Outcome} (h : r.run store = .ok o) : ∃ checked located ids rowIds,
    r.check = .ok checked ∧ (Plan.ofQuery checked.query checked.aggregates).locate store r.options = .ok located ∧
      r.sample.column? ColumnName.person = .ok (some ids) ∧
      r.characteristics.column? ColumnName.person = .ok (some rowIds) ∧
      IsReport checked store located ((ids.longs.filterMap id).toFinset.image fun s => ⟨s, s⟩) rowIds o := by
  obtain ⟨checked, located, ids, course, aggregated, -, hcheck, hlocate, hids, hcourse, hsummarize, -, -, hnotices,
    hstages, hreached⟩ := exists_steps_of_run h
  have holds := holds_of_check hcheck
  obtain ⟨rowIds, hrowIds, -⟩ := holds.ids
  obtain ⟨hpairs, hreported, hnoticed⟩ := report_of_walkStages hcourse
  have hseeds : (Pair.seeds (ids.longs.filterMap id).eraseDups).toFinset =
      (ids.longs.filterMap id).toFinset.image fun s => ⟨s, s⟩ := by
    have hsame : (ids.longs.filterMap id).eraseDups.toFinset = (ids.longs.filterMap id).toFinset := by
      ext s
      rw [List.mem_toFinset, List.mem_toFinset, List.mem_eraseDups]
    rw [Pair.toFinset_seeds, hsame]
  rw [hseeds] at hpairs hreported hnoticed
  refine ⟨checked, located, ids, rowIds, hcheck, hlocate, hids, hrowIds,
    { hops := by rw [Plan.hops_of_locate hlocate, Plan.hops_ofQuery]
      numbers := by rw [Plan.indices_of_locate hlocate, Plan.indices_ofQuery]
      stages := hstages.trans hreported
      notices := hnotices.trans hnoticed
      card_le_made := fun k s hs => card_pairsAfter_le hs
      rowsRead := ?_
      reached := ?_ }⟩
  · rw [hstages, hreported]
    exact totalRowsRead_statsAt _ _
  · rw [hreached, ← hpairs]
    exact height_of_summarize holds hrowIds hsummarize

/-- Two parents have a colleague in common, to whom their child is led twice: one of three pairs is dropped after the
second hop, and the report says so. -/
theorem colleaguesOfParents_isReport : ∃ o, colleaguesOfParents.run sharedColleague = .ok o ∧
    o.stages = [⟨.family, 3, 2, 2⟩, ⟨.colleagues, 4, 4, 2⟩] ∧ o.notices = [⟨1, .colleagues, 1⟩] ∧ o.reached = 1 ∧
    ∃ checked located ids rowIds, colleaguesOfParents.check = .ok checked ∧
      (Plan.ofQuery checked.query checked.aggregates).locate sharedColleague colleaguesOfParents.options = .ok located ∧
      colleaguesOfParents.sample.column? ColumnName.person = .ok (some ids) ∧
      colleaguesOfParents.characteristics.column? ColumnName.person = .ok (some rowIds) ∧
      IsReport checked sharedColleague located ((ids.longs.filterMap id).toFinset.image fun s => ⟨s, s⟩) rowIds o := by
  have hreport : (colleaguesOfParents.run sharedColleague).map (fun o => (o.stages, o.notices, o.reached)) =
      .ok ([⟨.family, 3, 2, 2⟩, ⟨.colleagues, 4, 4, 2⟩], [⟨1, .colleagues, 1⟩], 1) := by
    decide +kernel
  cases hrun : colleaguesOfParents.run sharedColleague with
  | error e =>
    rw [hrun] at hreport
    cases hreport
  | ok o =>
    rw [hrun] at hreport
    injection hreport with hreport
    injection hreport with hstages hrest
    injection hrest with hnotices hreached
    exact ⟨o, rfl, hstages, hnotices, hreached, run_isReport hrun⟩

end Request

end TieWalk
