import TieWalk.Proofs.Aggregate.Requested
import TieWalk.Proofs.Plan.Located
import TieWalk.Proofs.Query.Alone

/-!
# Two routes to files

The files of a query's hops can be found all at once, by its plan, or hop by hop, each by the text that it is shown as.
Both give the same: the plan is located exactly when every hop is, stage by stage with the file and the codes of its
hop, and otherwise it fails as the first of the hops, outward from the sample, that fails by itself.
-/

namespace TieWalk

/-- The file and the codes of a hop, from the text that it is shown as. -/
def Store.locateHop (store : Store) (o : Options) (hop : Hop) : Except Error (String × AscSet Code) :=
  store.locateText hop.text o.year o.base o.format

/-- The stage of a number and a hop, with the file and the codes that were found for it. -/
def LocatedStage.ofFound (index : Nat) (hop : Hop) (found : String × AscSet Code) : LocatedStage :=
  ⟨⟨index, hop, found.2⟩, found.1⟩

section Routes

variable {store : Store} {text : String} {o : Options} {q : Query}

/-- Looking for the file of a hop that can be shown, by itself, is looking for the newest one of its context. -/
theorem Store.locateHop_eq {hop : Hop} (hinhabited : hop.codes.IsInhabited) (hwithin : hop.codes.IsWithin hop.context) :
    store.locateHop o hop = Locator.versioned store hop o.year o.base o.format := by
  unfold locateHop locateText
  rw [Hop.ofText_text hinhabited hwithin]
  rfl

/-- A stage is located as its hop is by itself; the codes that it was planned with play no part. -/
theorem Stage.locate_eq_locateHop (hlocator : o.locator = .versioned) {s : Stage} (hinhabited : s.hop.codes.IsInhabited)
    (hwithin : s.hop.codes.IsWithin s.hop.context) :
    s.locate store o = (store.locateHop o s.hop).map (LocatedStage.ofFound s.index s.hop) := by
  unfold Stage.locate
  rw [Store.locateHop_eq hinhabited hwithin, hlocator]
  cases Locator.versioned store s.hop o.year o.base o.format <;> rfl

/-- The files of a query, all at once, are those of its hops, one by one. -/
theorem Store.locateStages_eq_map (hq : Query.ofText text = .ok q) (hfunctions : o.functions ≠ [])
    (hknown : ∀ name ∈ o.functions, ∃ s, Statistic.ofName? name = some s) (hlocator : o.locator = .versioned) :
    store.locateStages text o = (q.hops.mapM (store.locateHop o)).map fun found =>
      (q.hops.zip found).zipIdx.map fun x => LocatedStage.ofFound x.2 x.1.1 x.1.2 := by
  have hwellFormed := Query.isWellFormed_of_ofText hq
  obtain ⟨aggregates, haggregates⟩ := Aggregate.exists_requestAll hfunctions hknown q.vars
  have hplan : Plan.ofText text o = .ok (.ofQuery q aggregates) := by
    unfold Plan.ofText
    rw [hq]
    simp only [Error.ofQuery, haggregates]
  have hstage : ∀ hop ∈ q.hops, ∀ k, Stage.locate ⟨k, hop, hop.followedCodes⟩ store o =
      (store.locateHop o hop).map (LocatedStage.ofFound k hop) := fun hop hmem k =>
    Stage.locate_eq_locateHop hlocator (hwellFormed.inhabited hop hmem) (hwellFormed.within hop hmem)
  have hstages : (Plan.ofQuery q aggregates).stages.mapM (fun s => s.locate store o) = _ :=
    List.mapM_map.trans (mapM_zipIdx hstage 0)
  unfold Store.locateStages Plan.locate
  simp only [hplan, hstages]
  cases q.hops.mapM (store.locateHop o) <;> rfl

end Routes

namespace Store

/-- For a query that is read, functions that are all known and the locator that looks for versions, the files are found
all at once exactly when those of the hops are found one by one, each from the text that its hop is shown as. There is
then a stage for each hop, in their order and numbered from zero, with what was found for its hop. Otherwise the fault
is that of the first hop for which nothing is found. -/
theorem locateStages_agrees_with_locateText (store : Store) {text : String} {o : Options} {q : Query}
    (hq : Query.ofText text = .ok q) (hfunctions : o.functions ≠ [])
    (hknown : ∀ name ∈ o.functions, ∃ s, Statistic.ofName? name = some s) (hlocator : o.locator = .versioned) :
    ((∃ stages, store.locateStages text o = .ok stages) ↔
      ∀ hop ∈ q.hops, ∃ found, store.locateText hop.text o.year o.base o.format = .ok found) ∧
    (∀ stages, store.locateStages text o = .ok stages → stages.length = q.hops.length ∧
      ∀ (k : Nat) (hop : Hop), q.hops[k]? = some hop → ∃ path codes,
        store.locateText hop.text o.year o.base o.format = .ok (path, codes) ∧
        stages[k]? = some ⟨⟨k, hop, codes⟩, path⟩) ∧
    ∀ e, store.locateStages text o = .error e ↔ ∃ before hop after, q.hops = before ++ hop :: after ∧
      (∀ other ∈ before, ∃ found, store.locateText other.text o.year o.base o.format = .ok found) ∧
      store.locateText hop.text o.year o.base o.format = .error e := by
  rw [locateStages_eq_map hq hfunctions hknown hlocator]
  have hfound : ∀ {found}, q.hops.mapM (store.locateHop o) = .ok found ↔
      List.Forall₂ (fun hop x => store.locateText hop.text o.year o.base o.format = .ok x) q.hops found :=
        mapM_eq_ok_iff
  refine ⟨?_, ?_, fun e => ?_⟩
  · rw [← exists_forall₂_iff]
    simp only [← hfound]
    cases q.hops.mapM (store.locateHop o) <;> simp [Except.map]
  · intro stages hstages
    cases hhops : q.hops.mapM (store.locateHop o) with
    | error e =>
      rw [hhops] at hstages
      cases hstages
    | ok found =>
      rw [hhops] at hstages
      cases hstages
      obtain ⟨hlength, hall⟩ := forall₂_iff_getElem?.1 (hfound.1 hhops)
      refine ⟨by simp [hlength], fun k hop hhop => ?_⟩
      obtain ⟨⟨path, codes⟩, hpath, hlocated⟩ := hall k hop hhop
      have hzip : (q.hops.zip found)[k]? = some (hop, path, codes) := List.getElem?_zip_eq_some.2 ⟨hhop, hpath⟩
      exact ⟨path, codes, hlocated, by simp [hzip, LocatedStage.ofFound]⟩
  · refine Iff.trans ?_ (mapM_eq_error_iff (f := store.locateHop o))
    cases q.hops.mapM (store.locateHop o) <;> simp [Except.map]

/-- A store with a file of the housemates of a year. -/
def ofHousemates : Store := empty.write "data/HUISGENOTENNETWERKTAB/HUISGENOTENNETWERK2020TABV1.csv"
    (.file (.ofBytes []))

/-- Where housemates have a file and families have none, both files of the housemates of housemates are found, and the
one that the families of housemates have no file for is missed. -/
theorem ofHousemates_locateStages :
    let o : Options := { base := "data", format := .csv }
    let housemates : Hop := Hop.all .housemates
    let path := "data/HUISGENOTENNETWERKTAB/HUISGENOTENNETWERK2020TABV1.csv"
    (∃ stages, ofHousemates.locateStages "sample -> Housemates[all] -> Housemates[ALL] -> [Income]" o = .ok stages ∧
      stages.length = 2 ∧ stages[1]? = some ⟨⟨1, housemates, housemates.followedCodes⟩, path⟩) ∧
      ofHousemates.locateStages "[Income] -> Family[301] -> Housemates[all] -> sample" o =
        .error (.noRelationFile .family 2020 "data/FAMILIENETWERKTAB") := by
  intro o housemates path
  have hfunctions : o.functions ≠ [] := List.cons_ne_nil _ _
  have hknown : ∀ name ∈ o.functions, ∃ s, Statistic.ofName? name = some s :=
    List.forall_mem_singleton.2 ⟨.mean, by decide +kernel⟩
  have htwice : Query.ofText "sample -> Housemates[all] -> Housemates[ALL] -> [Income]" =
      .ok ⟨.sampleFirst, [housemates, housemates], ["Income"]⟩ := by decide +kernel
  have hfamilies : Query.ofText "[Income] -> Family[301] -> Housemates[all] -> sample" =
      .ok ⟨.variablesFirst, [housemates, ⟨.family, .only (AscSet.ofList [301])⟩], ["Income"]⟩ := by decide +kernel
  have hhousemates : ofHousemates.locateText housemates.text o.year o.base o.format =
      .ok (path, housemates.followedCodes) := by
    decide +kernel
  constructor
  · obtain ⟨hall, hstages, -⟩ := locateStages_agrees_with_locateText ofHousemates htwice hfunctions hknown rfl
    obtain ⟨stages, hok⟩ := hall.2 (by simp [hhousemates])
    obtain ⟨hlength, hstage⟩ := hstages stages hok
    obtain ⟨_, _, hfound, hsecond⟩ := hstage 1 housemates rfl
    rw [hhousemates] at hfound
    cases hfound
    exact ⟨stages, hok, hlength, hsecond⟩
  · obtain ⟨-, -, herror⟩ := locateStages_agrees_with_locateText ofHousemates hfamilies hfunctions hknown rfl
    exact (herror _).2 ⟨[housemates], _, [], rfl, List.forall_mem_singleton.2 ⟨_, hhousemates⟩, by decide +kernel⟩

end Store

end TieWalk
