import TieWalk.Proofs.Request.Rule
import TieWalk.Proofs.Request.Success

/-!
# Which refusal is reported

The files of a walk have two rules for each hop: the hop has a file, and its file is read through. Every hop is given
its file before one is read, so all rules of the first kind come before those of the second, and both kinds come in the
order of the hops outward from the sample. A request that passes the checks is refused with the error of the first rule
that is broken (`Request.run_reports_first`), whichever codes a hop keeps, whoever is reached before it, and in
whichever way the walk is run.
-/

namespace TieWalk

/-! ## One file -/

/-- What keeps a file from being read through: the fault of its first row that cannot be read. -/
def Store.fault? (store : Store) (path : String) (format : RelationFormat) : Option ReadFault :=
  (store.rows path format).findSome? Row.fault?

/-- A scan fails exactly for the fault of its file. -/
theorem Store.scan_eq_error_iff {store : Store} {path : String} {format : RelationFormat} {codes : Option (AscSet Code)}
    {e : Error} : store.scan path format codes = .error e ↔
      ∃ fault, store.fault? path format = some fault ∧ e = .unreadable path fault := by
  have hfault : (store.read path format codes).fault? = store.fault? path format := Reading.fault?_ofRows codes _
  unfold scan
  simp only [hfault]
  cases store.fault? path format <;> simp [eq_comm]

/-- A file that was scanned has no fault. -/
theorem Store.fault?_of_scan {store : Store} {path : String} {format : RelationFormat} {codes : Option (AscSet Code)}
    {scan : Scan} (h : store.scan path format codes = .ok scan) : store.fault? path format = none := by
  cases hfault : store.fault? path format with
  | none => rfl
  | some fault =>
    rw [scan_eq_error_iff.2 ⟨fault, hfault, rfl⟩] at h
    cases h

/-! ## The rules of a hop -/

namespace Hop

/-- The file and the codes that a locator gives for a hop. -/
def file (store : Store) (o : Options) (hop : Hop) : Except Error (String × AscSet Code) :=
  o.locator store hop o.year o.base o.format

/-- A hop has a file. -/
def locatedRule (store : Store) (o : Options) (hop : Hop) : Rule where
  Reports e := hop.file store o = .error e
  unique := by
    intro e e' h h'
    rw [h] at h'
    cases h'
    rfl

/-- The file of a hop, where it has one, is read through. -/
def readRule (store : Store) (o : Options) (hop : Hop) : Rule where
  Reports e := ∃ path codes fault, hop.file store o = .ok (path, codes) ∧ store.fault? path o.format = some fault ∧
    e = .unreadable path fault
  unique := by
    rintro e e' ⟨path, codes, fault, hfile, hfault, rfl⟩ ⟨path', codes', fault', hfile', hfault', rfl⟩
    rw [hfile] at hfile'
    cases hfile'
    rw [hfault] at hfault'
    cases hfault'
    rfl

variable {store : Store} {o : Options} {hop : Hop} {path : String} {codes : AscSet Code}

/-- The file of a hop that has one is found. -/
theorem holds_locatedRule (h : hop.file store o = .ok (path, codes)) : (hop.locatedRule store o).Holds := by
  intro e he
  have he : hop.file store o = .error e := he
  rw [h] at he
  cases he

/-- The file of a hop is read through exactly when it has no fault. -/
theorem holds_readRule_iff (h : hop.file store o = .ok (path, codes)) :
    (hop.readRule store o).Holds ↔ store.fault? path o.format = none := by
  constructor
  · intro hholds
    cases hfault : store.fault? path o.format with
    | none => rfl
    | some fault => exact absurd ⟨path, codes, fault, h, hfault, rfl⟩ (hholds (.unreadable path fault))
  · rintro hnone e ⟨path', codes', fault, hfile, hfault, -⟩
    rw [h] at hfile
    cases hfile
    rw [hnone] at hfault
    cases hfault

end Hop

/-- A stage is located where its hop has a file. -/
theorem Stage.locate_follows (s : Stage) (store : Store) (o : Options) :
    Follows (s.locate store o) [s.hop.locatedRule store o] := by
  refine Follows.single fun e => ?_
  show s.locate store o = .error e ↔ s.hop.file store o = .error e
  unfold locate Hop.file
  cases o.locator store s.hop o.year o.base o.format <;> simp

/-- A query is located where every hop has a file, and no file is read for it. -/
theorem Plan.locate_follows (q : Query) (aggregates : List Aggregate) (store : Store) (o : Options) :
    Follows ((Plan.ofQuery q aggregates).locate store o) (q.hops.map (Hop.locatedRule store o)) := by
  rw [← Plan.hops_ofQuery q aggregates, List.map_map]
  refine (Follows.mapM (fun s : Stage => s.locate_follows store o) _).of_error_iff fun e => ?_
  unfold locate
  cases (Plan.ofQuery q aggregates).stages.mapM fun s => s.locate store o <;> simp

/-- A located query reads the files of its hops. -/
theorem Plan.files_of_locate {q : Query} {aggregates : List Aggregate} {store : Store} {o : Options}
    {located : LocatedPlan} (h : (Plan.ofQuery q aggregates).locate store o = .ok located) :
    List.Forall₂ (fun hop (s : LocatedStage) => ∃ codes, hop.file store o = .ok (s.path, codes))
      q.hops located.stages := by
  rw [← Plan.hops_ofQuery q aggregates, List.forall₂_map_left_iff]
  refine (Plan.stages_of_locate h).imp fun s l hlocate => ?_
  unfold Stage.locate at hlocate
  unfold Hop.file
  split at hlocate
  · next path codes hfile =>
    cases hlocate
    exact ⟨codes, hfile⟩
  · cases hlocate

/-- A walk reads through one file after another, also where its pairs are none. -/
theorem walkStages_follows {store : Store} {o : Options} {hops : List Hop} {stages : List LocatedStage}
    (h : List.Forall₂ (fun hop s => ∃ codes, hop.file store o = .ok (s.path, codes)) hops stages)
    (pairs : AscSet Pair) : Follows (walkStages store o.format pairs stages) (hops.map (Hop.readRule store o)) := by
  induction h generalizing pairs with
  | nil => exact Follows.pass _
  | @cons hop s _ _ hfile _ ih =>
    obtain ⟨codes, hfile⟩ := hfile
    rw [List.map_cons, walkStages]
    cases hscan : store.scan s.path o.format (some s.stage.codes) with
    | error e =>
      obtain ⟨fault, hfault, rfl⟩ := Store.scan_eq_error_iff.1 hscan
      exact Follows.refuse ⟨s.path, codes, fault, hfile, hfault, rfl⟩
    | ok scan =>
      -- What comes next depends on the pairs, whether it fails does not: hence the rules hold for all pairs.
      refine Follows.skip ((Hop.holds_readRule_iff hfile).2 (Store.fault?_of_scan hscan)) ?_
      refine (ih (AscSet.ofList (Pair.follow pairs.toList scan.ties))).of_error_iff fun e => ?_
      cases hrest : walkStages store o.format (AscSet.ofList (Pair.follow pairs.toList scan.ties)) _ <;> simp [hrest]

/-! ## The whole request -/

namespace Request

/-- The rules for the files of hops: every hop has one, and then every one is read through. -/
def fileRules (r : Request) (store : Store) (hops : List Hop) : List Rule :=
  hops.map (Hop.locatedRule store r.options) ++ hops.map (Hop.readRule store r.options)

/-- A checked request fails for the first rule about its files that is broken. -/
theorem run_eq_error_of_first {r : Request} {store : Store} {checked : Checked} {e : Error}
    (hcheck : r.check = .ok checked)
    (h : Rule.First (r.fileRules store checked.query.hops) e) : r.run store = .error e := by
  have hlocates := Plan.locate_follows checked.query checked.aggregates store r.options
  unfold run
  rw [hcheck]
  show ((Plan.ofQuery checked.query checked.aggregates).locate store r.options >>= _) = _
  -- Either a hop without a file ends the run before the walk, or all hops have files and the walk ends at one of them.
  rcases Rule.First.append_iff.1 h with hunlocated | ⟨hlocated, hunread⟩
  · rw [hlocates.error_iff.2 hunlocated]
    rfl
  · obtain ⟨located, hlocate⟩ := hlocates.ok_iff.2 hlocated
    obtain ⟨ids, hids, -⟩ := exists_sampleIds hcheck
    have hwalk := walkStages_follows (Plan.files_of_locate hlocate) (Pair.seeds (ids.longs.filterMap id).eraseDups)
    have hformat : located.format = r.options.format := (Plan.of_locate hlocate).2.2
    rw [hlocate]
    show (Sample.persons r.sample >>= _) = _
    rw [Sample.persons_eq_ok hids]
    show (located.run r.options.mode store (ids.longs.filterMap id).eraseDups r.characteristics >>= _) = _
    rw [LocatedPlan.run_eq_runEager hlocate, LocatedPlan.runEager, hformat, hwalk.error_iff.2 hunread]
    rfl

/-- A request is refused, in both ways to walk, for what its checks refuse it for, whatever the store holds. One that
passes them has files that are all found and read through, or it is refused: for the first hop without a file, whatever
the files of the others hold, and else for the first hop whose file is not read through, whoever is reached and
whichever codes are kept. -/
theorem run_reports_first (r : Request) (store : Store) (mode : WalkMode) :
    (∀ e, r.tokens = .error e → (r.withMode mode).run store = .error e) ∧
    ∀ ts q, r.tokens = .ok ts → Query.ofText r.query = .ok q →
      (∀ rule ∈ r.fileRules store q.hops, rule.Holds) ∨
        ∃ e, Rule.First (r.fileRules store q.hops) e ∧ (r.withMode mode).run store = .error e := by
  constructor
  · intro e htokens
    have hcheck : (r.withMode mode).check = .error e := tokens_eq_error_iff.1 htokens
    unfold run
    rw [hcheck]
    rfl
  · intro ts q htokens hquery
    obtain ⟨checked, hcheck, -⟩ := tokens_eq_ok_iff.1 htokens
    have hsame : Query.ofText r.query = .ok checked.query := (check_eq_ok_iff.1 hcheck).1
    rw [hquery] at hsame
    cases hsame
    refine (Rule.First.forall_holds_or_exists _).imp_right ?_
    rintro ⟨e, hfirst⟩
    have hcheck : (r.withMode mode).check = .ok checked := hcheck
    exact ⟨e, hfirst, run_eq_error_of_first hcheck hfirst⟩

/-- The hop to parents. -/
def parentHop : Hop := ⟨.family, .only (AscSet.ofList [301])⟩

/-- The hop to colleagues. -/
def colleagueHop : Hop := ⟨.colleagues, .only (AscSet.ofList [201])⟩

/-- A request for the colleagues of parents. -/
def parentColleagues (functions : List String) : Request where
  query := "[Income] -> Colleagues[201] -> Family[301] -> sample"
  sample := .frame ⟨[.ofNumbers ColumnName.person [1]], by decide, by decide⟩
  characteristics := withRowNumber.characteristics
  options := { base := "data", format := .csv, functions := functions }

/-- A store with a file of one row for the first hop, and perhaps such a file for the second. -/
def rowFiles (parent : String) (colleague? : Option String) : Store :=
  let file (row : String) : Entry :=
    .file (.ofBytes ("RINPERSOON;RINPERSOONRELATIE;RELATIE\n" ++ row ++ "\n").toUTF8.toList)
  let store := Store.empty.write "data/FAMILIENETWERKTAB/FAMILIENETWERK2020TABV1.csv" (file parent)
  match colleague? with
  | some row => store.write "data/COLLEGANETWERKTAB/COLLEGANETWERK2020TABV1.csv" (file row)
  | none => store

/-- A function that is not known comes before all files, and a file that is missing before one that cannot be read. A
row that cannot be read counts although no one is reached before it and its code is not kept. -/
theorem parentColleagues_refused :
    ((parentColleagues ["median"]).withMode .deferred).run (rowFiles "x;10;301" none) =
    .error (.unknownFunction "median") ∧
    ((parentColleagues ["avg"]).withMode .deferred).run (rowFiles "x;10;301" none) =
      .error (.noRelationFile .colleagues 2020 "data/COLLEGANETWERKTAB") ∧
    ((parentColleagues ["avg"]).withMode .deferred).run (rowFiles "2;10;301" (some "1;y;101")) =
      .error (.unreadable "data/COLLEGANETWERKTAB/COLLEGANETWERK2020TABV1.csv"
        (.invalidCell "RINPERSOONRELATIE" "y")) := by
  have htokens : (parentColleagues ["avg"]).tokens = .ok ["sample", "Family[301]", "Colleagues[201]", "[Income]"] := by
    decide +kernel
  have hquery : Query.ofText (parentColleagues ["avg"]).query =
      .ok ⟨.variablesFirst, [parentHop, colleagueHop], ["Income"]⟩ := by
    decide +kernel
  refine ⟨(run_reports_first _ _ .deferred).1 _ (by decide +kernel), ?_, ?_⟩
  · have hparents : parentHop.file (rowFiles "x;10;301" none) (parentColleagues ["avg"]).options =
        .ok ("data/FAMILIENETWERKTAB/FAMILIENETWERK2020TABV1.csv", AscSet.ofList [301]) := by
      decide +kernel
    have hcolleagues : colleagueHop.file (rowFiles "x;10;301" none) (parentColleagues ["avg"]).options =
        .error (.noRelationFile .colleagues 2020 "data/COLLEGANETWERKTAB") := by
      decide +kernel
    have hfirst : Rule.First ((parentColleagues ["avg"]).fileRules (rowFiles "x;10;301" none) [parentHop, colleagueHop])
        (.noRelationFile .colleagues 2020 "data/COLLEGANETWERKTAB") :=
      .later (Hop.holds_locatedRule hparents) (.here hcolleagues)
    rcases (run_reports_first _ _ .deferred).2 _ _ htokens hquery with hall | ⟨e, he, hrun⟩
    · exact absurd hall hfirst.not_forall_holds
    · rw [hrun, he.unique hfirst]
  · have hparents : parentHop.file (rowFiles "2;10;301" (some "1;y;101")) (parentColleagues ["avg"]).options =
        .ok ("data/FAMILIENETWERKTAB/FAMILIENETWERK2020TABV1.csv", AscSet.ofList [301]) := by
      decide +kernel
    have hcolleagues : colleagueHop.file (rowFiles "2;10;301" (some "1;y;101")) (parentColleagues ["avg"]).options =
        .ok ("data/COLLEGANETWERKTAB/COLLEGANETWERK2020TABV1.csv", AscSet.ofList [201]) := by
      decide +kernel
    have hfirst : Rule.First
        ((parentColleagues ["avg"]).fileRules (rowFiles "2;10;301" (some "1;y;101")) [parentHop, colleagueHop])
        (.unreadable "data/COLLEGANETWERKTAB/COLLEGANETWERK2020TABV1.csv" (.invalidCell "RINPERSOONRELATIE" "y")) := by
      refine .later (Hop.holds_locatedRule hparents) (.later (Hop.holds_locatedRule hcolleagues) (.later ?_ (.here ?_)))
      · exact (Hop.holds_readRule_iff hparents).2 (by decide +kernel)
      · exact ⟨_, _, _, hcolleagues, by decide +kernel, rfl⟩
    rcases (run_reports_first _ _ .deferred).2 _ _ htokens hquery with hall | ⟨e, he, hrun⟩
    · exact absurd hall hfirst.not_forall_holds
    · rw [hrun, he.unique hfirst]

end Request

end TieWalk
