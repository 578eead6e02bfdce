import TieWalk.Proofs.Request.Checked
import TieWalk.Proofs.Table.Converting
import TieWalk.Proofs.Walk.Chain
import TieWalk.Proofs.Walk.Modes
import TieWalk.Proofs.Walk.Summary

/-!
# When a request succeeds

A request that passes the checks, and whose files are found and read through, is answered but for three causes: the name
of the row number that a join keeps, taken by a sample column or by a variable, and a sample column that cannot cross
between frames and record batches where it has to. None of the checks looks for them.
-/

namespace TieWalk

/-- A column of long words with these numbers. -/
def Column.ofNumbers (name : String) (numbers : List Int) : Column := .ofLongs name (numbers.map IntType.i64.wrap)

/-- A frame is given as it is, or as a record batch if its columns convert. -/
theorem Frame.exists_toKind_iff {f : Frame} {kind : OutputKind} : (∃ t, f.toKind kind = .ok t) ↔
    (kind = .batch → f.columns ≠ [] ∧ ∀ c ∈ f.columns, c.type.converts = true) := by
  cases kind with
  | frame => exact ⟨fun _ => nofun, fun _ => ⟨.frame f, rfl⟩⟩
  | batch =>
    rw [← Batch.exists_ofFrame_iff]
    unfold toKind
    cases Batch.ofFrame f <;> simp [Except.map]

/-- A column without values is taken for one of doubles, and any other as it is. -/
theorem Column.type_nullAsFloat (c : Column) : c.nullAsFloat.type = if c.type = .null then .float64 else c.type := by
  unfold nullAsFloat
  split <;> rfl

/-- A statistic that accepts a column has a type that converts. -/
theorem Statistic.converts_resultType {s : Statistic} {c : Column} (h : s.accepts c.type = true) :
    (s.resultType c.nullAsFloat.type).converts = true := by
  rw [c.type_nullAsFloat]
  generalize c.type = type at h ⊢
  cases s with
  | mean | deviation | count => rfl
  | sum | least | greatest => cases type <;> first | rfl | cases h

namespace Request

variable {r : Request} {store : Store} {checked : Checked} {located : LocatedPlan} {ids : Column}

/-- The identifiers of a checked sample are a column of the frame that it turns into. -/
theorem exists_sampleIds (hcheck : r.check = .ok checked) : ∃ ids, r.sample.column? ColumnName.person = .ok (some ids) ∧
    ∀ f, r.sample.toFrame = .ok f → f.column? ColumnName.person = some ids := by
  obtain ⟨ids, hids, -⟩ := (holds_of_check hcheck).sampleIds
  refine ⟨ids, hids, fun f hf => ?_⟩
  have hcolumn := (Table.of_toFrame hf).2 ColumnName.person
  rw [hids] at hcolumn
  exact (Except.ok.inj hcolumn).symm

/-- What is left of a request when the walk is done: the pairs are those that chains make, and their aggregates are put
beside the sample. -/
theorem exists_course (hcheck : r.check = .ok checked)
    (hlocate : (Plan.ofQuery checked.query checked.aggregates).locate store r.options = .ok located)
    (hreads : store.ReadsAll located.format located.stages)
    (hids : r.sample.column? ColumnName.person = .ok (some ids)) :
    ∃ course : Course,
      (∀ p, p ∈ course.pairs ↔ some p.sample ∈ ids.longs ∧
        Chain store located.format located.stages p.sample p.reached) ∧
      r.run store = (do
        let aggregated ← summarize course.pairs r.characteristics checked.query.vars checked.aggregates
        let attached ← r.sample.attach aggregated
        let table ← attached.toKind r.options.output
        return ⟨table, course.notices, course.stages, aggregated.height⟩) := by
  obtain ⟨course, hcourse, hpairs⟩ := exists_walkStages_seeds hreads (ids.longs.filterMap id).eraseDups
  obtain ⟨haggregates, hvars, -⟩ := Plan.of_locate hlocate
  have hpersons := Sample.persons_eq_ok hids
  refine ⟨course, fun p => ?_, ?_⟩
  · rw [hpairs p, List.mem_eraseDups, List.mem_filterMap]
    simp
  · unfold run
    rw [hcheck]
    show ((Plan.ofQuery checked.query checked.aggregates).locate store r.options >>= _) = _
    rw [hlocate]
    show (Sample.persons r.sample >>= _) = _
    rw [hpersons]
    show (located.run r.options.mode store (ids.longs.filterMap id).eraseDups r.characteristics >>= _) = _
    rw [LocatedPlan.run_eq_runEager hlocate, LocatedPlan.runEager, hcourse, haggregates, hvars]
    simp only [Plan.ofQuery]
    cases summarize course.pairs r.characteristics checked.query.vars checked.aggregates <;> rfl

/-- The steps of a request that is answered: its files are found, the hops walked, the pairs summed up, and what comes
of them is put beside the sample and given as the kind of table that is chosen. -/
theorem exists_steps_of_run {o : Outcome} (h : r.run store = .ok o) : ∃ checked located ids course aggregated attached,
    r.check = .ok checked ∧ (Plan.ofQuery checked.query checked.aggregates).locate store r.options = .ok located ∧
      r.sample.column? ColumnName.person = .ok (some ids) ∧
      walkStages store located.format (Pair.seeds (ids.longs.filterMap id).eraseDups) located.stages = .ok course ∧
      summarize course.pairs r.characteristics checked.query.vars checked.aggregates = .ok aggregated ∧
      r.sample.attach aggregated = .ok attached ∧ attached.toKind r.options.output = .ok o.table ∧
      o.notices = course.notices ∧ o.stages = course.stages ∧ o.reached = aggregated.height := by
  unfold run at h
  simp only [bind_eq_ok_iff] at h
  obtain ⟨checked, hcheck, located, hlocate, persons, hpersons, result, hresult, attached, hattach, table, htable,
    ho⟩ := h
  cases ho
  obtain ⟨ids, hids, -⟩ := (holds_of_check hcheck).sampleIds
  rw [Sample.persons_eq_ok hids] at hpersons
  cases hpersons
  rw [LocatedPlan.run_eq_runEager hlocate] at hresult
  unfold LocatedPlan.runEager at hresult
  split at hresult
  · cases hresult
  · next course hcourse =>
    split at hresult
    · cases hresult
    · next aggregated hsummarize =>
      cases hresult
      obtain ⟨haggregates, hvars, -⟩ := Plan.of_locate hlocate
      rw [haggregates, hvars] at hsummarize
      exact ⟨checked, located, ids, course, aggregated, attached, hcheck, hlocate, hids, hcourse, hsummarize, hattach,
        htable, rfl, rfl, rfl⟩

/-- The aggregates of pairs, put beside a sample that turns into a frame, where the row number's name is free: the
sample's columns as they are, then for each aggregate what the sample rows reach. -/
theorem exists_attached (holds : checked.Holds r) {f : Frame} (hf : r.sample.toFrame = .ok f)
    (hsample : f.column? ColumnName.person = some ids) {rowIds : Column}
    (hids : r.characteristics.column? ColumnName.person = .ok (some rowIds))
    (hfree : ColumnName.rowNumber ∉ f.names) (hvars : ColumnName.rowNumber ∉ checked.query.vars) (pairs : AscSet Pair) :
    ∃ aggregated attached columns,
      summarize pairs r.characteristics checked.query.vars checked.aggregates = .ok aggregated ∧
      r.sample.attach aggregated = .ok attached ∧ attached.columns = f.columns ++ columns ∧
      List.Forall₂ (fun a d => ∃ c how, r.characteristics.column? a.column = .ok (some c) ∧
        d = a.beside how c.nullAsFloat (ids.longs.map (rowsFrom pairs rowIds))) checked.aggregates columns := by
  obtain ⟨aggregated, key, columns, hsummarize, hcolumns, hname, htype, hkeys, hforall⟩ :=
    exists_summarize pairs hids holds.vars_nodup holds.of_mem_vars hvars (fun a ha => (holds.of_mem_aggregates a ha).1)
      holds.outputNames_nodup
  have hnames : f.names = r.sample.names := (Table.of_toFrame hf).1
  have hkey : aggregated.column? ColumnName.samplePerson = some key := hname ▸ Frame.column?_of_columns_eq_cons hcolumns
  have hothers : (aggregated.columns.filter fun c => c.name != ColumnName.samplePerson) = columns :=
    hname ▸ Frame.filter_name_ne_of_columns_eq_cons hcolumns
  have hapart : Apart f aggregated ColumnName.samplePerson := by
    intro name hmem hne
    obtain ⟨d, hd, rfl⟩ := List.mem_map.1 hmem
    have hd : d ∈ columns := hothers ▸ List.mem_filter.2 ⟨hd, bne_iff_ne.2 hne⟩
    obtain ⟨a, ha, c, how, -, rfl⟩ := exists_mem_left_of_forall₂ hforall d hd
    rw [hnames]
    exact ⟨holds.outputNames_free a ha, (holds.of_mem_aggregates a ha).2.outputName_ne_rowNumber⟩
  have hunique : ∀ id ∈ ids.toLongs.keys, (partners key.keys id).length ≤ 1 := by
    intro id _
    rw [hkeys]
    exact length_partners_le_one (nodup_groupKeys _) id
  obtain ⟨attached, hattach, hattached⟩ :=
    Table.exists_attach hsample (hnames ▸ holds.samplePerson_free) hfree hkey htype hapart hf hunique
  rw [hothers] at hattached
  refine ⟨aggregated, attached, _, hsummarize, hattach, hattached, ?_⟩
  rw [List.forall₂_map_right_iff]
  apply hforall.imp
  rintro a d ⟨c, how, hc, rfl⟩
  refine ⟨c, how, hc, ?_⟩
  rw [hkeys, Column.keys_toLongs]
  exact pick_over a how c.nullAsFloat ids.longs

/-- What an answer has beside the sample: for each aggregate what the sample rows reach. Neither the sample nor the
variables take the row number's name, or there would be no answer. -/
theorem exists_beside_of_run {o : Outcome} (h : r.run store = .ok o) :
    ∃ (checked : Checked) (f attached : Frame) (columns : List Column),
    r.check = .ok checked ∧ r.sample.toFrame = .ok f ∧ attached.toKind r.options.output = .ok o.table ∧
      ColumnName.rowNumber ∉ f.names ∧ ColumnName.rowNumber ∉ checked.query.vars ∧
      attached.columns = f.columns ++ columns ∧
      List.Forall₂ (fun a d => ∃ c how reached, r.characteristics.column? a.column = .ok (some c) ∧
        d = a.beside how c.nullAsFloat reached) checked.aggregates columns := by
  obtain ⟨checked, -, -, course, aggregated, attached, hcheck, -, -, -, hsummarize, hattach, htable, -⟩ :=
    exists_steps_of_run h
  have holds := holds_of_check hcheck
  obtain ⟨ids, -, hsample⟩ := exists_sampleIds hcheck
  obtain ⟨rowIds, hrowIds, -⟩ := holds.ids
  obtain ⟨f, hf, hfree⟩ := Table.exists_toFrame_of_attach hattach
  have hvars := rowNumber_not_mem_of_summarize holds.aggregated hsummarize
  obtain ⟨aggregated', attached', columns, hsummarize', hattach', hcolumns, hforall⟩ :=
    exists_attached holds hf (hsample f hf) hrowIds hfree hvars course.pairs
  rw [hsummarize] at hsummarize'
  cases hsummarize'
  rw [hattach] at hattach'
  cases hattach'
  refine ⟨checked, f, attached, columns, hcheck, hf, htable, hfree, hvars, hcolumns, hforall.imp ?_⟩
  rintro a d ⟨c, how, hc, hd⟩
  exact ⟨c, how, _, hc, hd⟩

/-- What the checks leave open. -/
structure Fits (r : Request) (vars : List String) : Prop where
  sample_rowNumber : ColumnName.rowNumber ∉ r.sample.names
  vars_rowNumber : ColumnName.rowNumber ∉ vars
  /-- A sample that is, or is to be, a record batch converts. -/
  converts : (∃ b, r.sample = .batch b) ∨ r.options.output = .batch → r.sample.Converts

section

variable (hcheck : r.check = .ok checked)
  (hlocate : (Plan.ofQuery checked.query checked.aggregates).locate store r.options = .ok located)
  (hreads : store.ReadsAll located.format located.stages)

include hcheck

/-- What is answered fits: each cause of failure makes a step fail that comes after the files were read. -/
theorem fits_of_run {o : Outcome} (h : r.run store = .ok o) : r.Fits checked.query.vars := by
  obtain ⟨checked', f, attached, columns, hcheck', hf, htable, hfree, hvars, hcolumns, -⟩ := exists_beside_of_run h
  rw [hcheck] at hcheck'
  cases hcheck'
  refine ⟨(Table.of_toFrame hf).1 ▸ hfree, hvars, fun hbatch => ?_⟩
  cases htype : r.sample with
  | batch b =>
    rw [htype] at hf
    exact Table.exists_toFrame_batch_iff.1 ⟨f, hf⟩
  | frame g =>
    rw [htype] at hf
    cases hf
    have hout : r.options.output = .batch := by
      rcases hbatch with ⟨b, hb⟩ | hout
      · rw [htype] at hb
        cases hb
      · exact hout
    intro c hc
    refine (Frame.exists_toKind_iff.1 ⟨o.table, htable⟩ hout).2 c ?_
    rw [hcolumns]
    exact List.mem_append_left _ hc

include hlocate hreads

/-- What fits is answered: aggregates always convert, so the sample alone decides whether the answer does. -/
theorem exists_run_of_fits (h : r.Fits checked.query.vars) : ∃ o, r.run store = .ok o := by
  have holds := holds_of_check hcheck
  obtain ⟨ids, hids, hsample⟩ := exists_sampleIds hcheck
  obtain ⟨rowIds, hrowIds, -⟩ := holds.ids
  obtain ⟨course, -, hrun⟩ := exists_course hcheck hlocate hreads hids
  obtain ⟨f, hf⟩ : ∃ f, r.sample.toFrame = .ok f := by
    cases htype : r.sample with
    | frame g => exact ⟨g, rfl⟩
    | batch b => exact Table.exists_toFrame_batch_iff.2 (htype ▸ h.converts (.inl ⟨b, htype⟩))
  obtain ⟨aggregated, attached, columns, hsummarize, hattach, hcolumns, hforall⟩ :=
    exists_attached holds hf (hsample f hf) hrowIds ((Table.of_toFrame hf).1 ▸ h.sample_rowNumber) h.vars_rowNumber
      course.pairs
  have hkept : r.options.output = .batch → ∀ c ∈ f.columns, c.type.converts = true := by
    intro hout
    have hconverts := h.converts (.inr hout)
    cases htype : r.sample with
    | frame g =>
      rw [htype] at hf hconverts
      cases hf
      exact hconverts
    | batch b =>
      rw [htype] at hf
      exact Table.converts_of_toFrame_batch hf
  obtain ⟨table, htable⟩ : ∃ table, attached.toKind r.options.output = .ok table := by
    apply Frame.exists_toKind_iff.2
    intro hout
    rw [hcolumns]
    refine ⟨?_, fun c hc => ?_⟩
    · have hmem := (Frame.mem_columns_of_column? (hsample f hf)).1
      exact List.ne_nil_of_mem (List.mem_append_left _ hmem)
    · rcases List.mem_append.1 hc with hc | hc
      · exact hkept hout c hc
      · obtain ⟨a, ha, d, how, hd, rfl⟩ := exists_mem_left_of_forall₂ hforall c hc
        exact Statistic.converts_resultType (holds.accepts a ha d hd)
  rw [hrun]
  simp only [bind_eq_ok_iff]
  exact ⟨_, aggregated, hsummarize, attached, hattach, table, htable, rfl⟩

end

/-- A request that passes the checks, and whose files are found and read through, is answered exactly when it fits what
the checks leave open. -/
theorem run_succeeds_iff_fits (hcheck : r.check = .ok checked)
    (hlocate : (Plan.ofQuery checked.query checked.aggregates).locate store r.options = .ok located)
    (hreads : store.ReadsAll located.format located.stages) :
    (∃ o, r.run store = .ok o) ↔ r.Fits checked.query.vars := by
  constructor
  · rintro ⟨o, ho⟩
    exact fits_of_run hcheck ho
  · exact exists_run_of_fits hcheck hlocate hreads

/-- A request in whose sample a column has the name of the row number. -/
def withRowNumber : Request where
  query := "[Income] -> Family[301] -> sample"
  sample := .frame ⟨[.ofNumbers ColumnName.person [1], .ofNumbers ColumnName.rowNumber [7]], by decide, by decide⟩
  characteristics := .frame ⟨[.ofNumbers ColumnName.person [10], .ofNumbers "Income" [100]], by decide, by decide⟩
  options := { base := "data", format := .csv }

/-- A store with one tie, of a parent. -/
def oneParent : Store :=
  Store.empty.write "data/FAMILIENETWERKTAB/FAMILIENETWERK2020TABV1.csv"
    (.file (.ofBytes "RINPERSOON;RINPERSOONRELATIE;RELATIE\n1;10;301\n".toUTF8.toList))

/-- The request passes every check, its file is found and read through, and it fails. -/
theorem withRowNumber_fails : ∃ checked located, withRowNumber.check = .ok checked ∧
    (Plan.ofQuery checked.query checked.aggregates).locate oneParent withRowNumber.options = .ok located ∧
    oneParent.ReadsAll located.format located.stages ∧ ¬ ∃ o, withRowNumber.run oneParent = .ok o := by
  have hcheck : withRowNumber.check =
      .ok ⟨⟨.variablesFirst, [⟨.family, .only (AscSet.ofList [301])⟩], ["Income"]⟩, [⟨.mean, "avg", "Income"⟩]⟩ := by
    decide +kernel
  have hlocate : (Plan.ofQuery ⟨.variablesFirst, [⟨.family, .only (AscSet.ofList [301])⟩], ["Income"]⟩
      [⟨.mean, "avg", "Income"⟩]).locate oneParent withRowNumber.options =
        .ok ⟨[⟨⟨0, ⟨.family, .only (AscSet.ofList [301])⟩, AscSet.ofList [301]⟩,
          "data/FAMILIENETWERKTAB/FAMILIENETWERK2020TABV1.csv"⟩], [⟨.mean, "avg", "Income"⟩], ["Income"], .csv⟩ := by
    decide +kernel
  have hreads : oneParent.ReadsAll .csv [⟨⟨0, ⟨.family, .only (AscSet.ofList [301])⟩, AscSet.ofList [301]⟩,
      "data/FAMILIENETWERKTAB/FAMILIENETWERK2020TABV1.csv"⟩] := by
    intro s hs
    rw [List.mem_singleton.1 hs]
    decide +kernel
  refine ⟨_, _, hcheck, hlocate, hreads, fun hrun => ?_⟩
  exact ((run_succeeds_iff_fits hcheck hlocate hreads).1 hrun).sample_rowNumber (by decide)

end Request

end TieWalk
