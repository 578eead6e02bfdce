import TieWalk.Proofs.Plan.Located
import TieWalk.Request.Run

/-!
# Both ways to walk agree

Hop by hop, a walk holds the different pairs after each hop. As a plan tree it is laid out, simplified and run from the
root down, and the numbers of each hop are put into a log under its stage. The two are related stage by stage
(`PlanTree.pairs_foldl_extend`): the pairs that the tree of the first stages gives are those that the plain way holds
after them, and the log has the numbers of these stages in their order. So a plan whose stages are numbered in ascending
order, as those of every query are, gives the same either way, errors included.
-/

namespace TieWalk

namespace RunLog

/-- Numbers put under a stage that is later than all others stand last. -/
theorem place_eq_append {stage : Nat} {stats : HopStats} {stages : List (Nat × HopStats)}
    (h : ∀ n ∈ stages.map Prod.fst, n < stage) : place stage stats stages = stages ++ [(stage, stats)] := by
  induction stages with
  | nil => rfl
  | cons entry rest ih =>
    have hn : entry.1 < stage := h entry.1 (by simp)
    have hr : ∀ n ∈ rest.map Prod.fst, n < stage := fun n hn => h n (by simp [hn])
    rw [place, if_neg (by omega), if_neg (by omega), ih hr, List.cons_append]

/-- A stage recorded after all others, and its different pairs after that. -/
theorem recordDistinct_record {log : RunLog} {stage : Nat} {context : Context} {read kept moved pairs collapsed : Nat}
    (h : ∀ n ∈ log.stages.map Prod.fst, n < stage) :
    (log.record stage ⟨context, read, kept, moved⟩).recordDistinct stage context pairs collapsed =
      ⟨log.stages ++ [(stage, ⟨context, read, kept, pairs⟩)],
        log.notices ++ (Notice.ofSurplus? stage context collapsed).toList⟩ := by
  have hold : ∀ f : Nat × HopStats → Nat × HopStats, (∀ entry ∈ log.stages, f entry = entry) →
      log.stages.map f = log.stages := by
    intro f hf
    rw [List.map_congr_left hf, List.map_id']
  unfold record recordDistinct
  rw [place_eq_append h, List.map_append, hold]
  · simp
  · intro entry hentry
    have hn : entry.1 < stage := h entry.1 (List.mem_map_of_mem hentry)
    exact if_neg (by omega)

end RunLog

namespace PlanTree

/-- One more stage, simplified: the filter has gone into the scan. -/
theorem simplify_extend (format : RelationFormat) (n : PlanTree) (s : LocatedStage) :
    (extend format n s).simplify =
      .distinct s.stage.index s.stage.hop.context
        (.join s.stage.index s.stage.hop.context n.simplify (.scan s.path format (some s.stage.codes))) :=
  rfl

variable {store : Store} {ids : List Person} {format : RelationFormat}

/-- The pairs of one more stage, where those of the stages before are known. -/
theorem pairs_extend (format : RelationFormat) {n : PlanTree} {s : LocatedStage} {before : AscSet Pair} {log : RunLog}
    (h : pairs store ids .empty n.simplify = .ok (before.toList, log))
    (hlog : ∀ i ∈ log.stages.map Prod.fst, i < s.stage.index) :
    pairs store ids .empty (extend format n s).simplify =
      match store.scan s.path format (some s.stage.codes) with
      | .error e => .error e
      | .ok through =>
        let context := s.stage.hop.context
        let moved := Pair.follow before.toList through.ties
        let next := AscSet.ofList moved
        .ok (next.toList,
          ⟨log.stages ++ [(s.stage.index, ⟨context, through.rowsRead, through.rowsKept, next.size⟩)],
            log.notices ++ (Notice.ofSurplus? s.stage.index context (Pair.surplus moved)).toList⟩) := by
  rw [simplify_extend, pairs, pairs, h]
  simp only [ties]
  cases store.scan s.path format (some s.stage.codes) with
  | error e => rfl
  | ok through =>
    simp only [RunLog.recordDistinct_record hlog]

/-- A stage above stages that fail fails with them. -/
theorem pairs_extend_of_error {n : PlanTree} {s : LocatedStage} {e : Error}
    (h : pairs store ids .empty n.simplify = .error e) :
    pairs store ids .empty (extend format n s).simplify = .error e := by
  rw [simplify_extend, pairs, pairs, h]

/-- A plan that fails still fails with further stages added to it. -/
theorem pairs_foldl_extend_of_error {n : PlanTree} {stages : List LocatedStage} {e : Error}
    (h : pairs store ids .empty n.simplify = .error e) :
    pairs store ids .empty (stages.foldl (extend format) n).simplify = .error e := by
  induction stages generalizing n with
  | nil => exact h
  | cons s rest ih => exact ih (pairs_extend_of_error h)

end PlanTree

/-- A walk reports each of its stages once. -/
theorem length_stages_of_walkStages {store : Store} {format : RelationFormat} {pairs : AscSet Pair}
    {stages : List LocatedStage} {course : Course} (h : walkStages store format pairs stages = .ok course) :
    course.stages.length = stages.length := by
  induction stages generalizing pairs course with
  | nil =>
    cases h
    rfl
  | cons s rest ih =>
    simp only [walkStages] at h
    split at h
    · cases h
    · split at h
      · cases h
      · next hrest =>
        cases h
        simp [ih hrest]

namespace PlanTree

variable {store : Store} {ids : List Person} {format : RelationFormat}

/-- A tree of stages upon stages that are done walks as the plain way does from there: the same pairs, the numbers of
each stage put under its number, and the notices after those that are there. -/
theorem pairs_foldl_extend (format : RelationFormat) {n : PlanTree} {before : AscSet Pair} {log : RunLog}
    {stages : List LocatedStage} (h : pairs store ids .empty n.simplify = .ok (before.toList, log))
    (hstages : (log.stages.map Prod.fst ++ stages.map fun s => s.stage.index).Pairwise (· < ·)) :
    pairs store ids .empty (stages.foldl (extend format) n).simplify =
      match walkStages store format before stages with
      | .error e => .error e
      | .ok course =>
        .ok (course.pairs.toList,
          ⟨log.stages ++ (stages.map fun s => s.stage.index).zip course.stages, log.notices ++ course.notices⟩) := by
  induction stages generalizing n before log with
  | nil => simpa [walkStages] using h
  | cons s rest ih =>
    have hlog : ∀ i ∈ log.stages.map Prod.fst, i < s.stage.index := by
      intro i hi
      exact (List.pairwise_append.1 hstages).2.2 i hi _ (by simp)
    have hs := pairs_extend format h hlog
    rw [List.foldl_cons, walkStages]
    cases hscan : store.scan s.path format (some s.stage.codes) with
    | error e =>
      rw [hscan] at hs
      exact pairs_foldl_extend_of_error hs
    | ok through =>
      rw [hscan] at hs
      rw [ih hs (by simpa using hstages)]
      simp only
      cases walkStages store format _ rest with
      | error e => rfl
      | ok course => simp

/-- A plan laid out as a tree and simplified gives what the plain way gives, provided that its stages are numbered in
ascending order. -/
theorem run_simplify_ofPlan {p : LocatedPlan} (hp : (p.stages.map fun s => s.stage.index).Pairwise (· < ·))
    (store : Store) (ids : List Person) (characteristics : Table) :
    (ofPlan p).simplify.run store ids characteristics = p.runEager store ids characteristics := by
  have hseeds : pairs store ids .empty PlanTree.sample.simplify = .ok ((Pair.seeds ids).toList, .empty) := rfl
  have hwalk := pairs_foldl_extend p.format hseeds (by simpa [RunLog.empty] using hp)
  show (PlanTree.aggregate p.vars p.aggregates _).run store ids characteristics = _
  rw [run, hwalk, LocatedPlan.runEager]
  cases hcourse : walkStages store p.format (Pair.seeds ids) p.stages with
  | error e => rfl
  | ok course =>
    have hlen := length_stages_of_walkStages hcourse
    simp only [AscSet.ofList_toList, RunLog.empty, List.nil_append]
    cases summarize course.pairs characteristics p.vars p.aggregates with
    | error e => rfl
    | ok aggregated => simp [List.map_snd_zip, hlen]

end PlanTree

/-- Which way a query's located plan is run makes no difference. -/
theorem LocatedPlan.run_eq_runEager {q : Query} {aggregates : List Aggregate} {store : Store} {o : Options}
    {located : LocatedPlan} (h : (Plan.ofQuery q aggregates).locate store o = .ok located) (mode : WalkMode)
    (ids : List Person) (characteristics : Table) :
    located.run mode store ids characteristics = located.runEager store ids characteristics := by
  cases mode with
  | eager => rfl
  | deferred =>
    refine PlanTree.run_simplify_ofPlan ?_ store ids characteristics
    rw [Plan.indices_of_locate h, Plan.indices_ofQuery]
    exact List.pairwise_lt_range

/-- The request with another way to walk. -/
def Request.withMode (r : Request) (mode : WalkMode) : Request := { r with options := { r.options with mode := mode } }

/-- A request is answered alike in both ways to walk: it fails with the same error, or it gives the same table, the same
notices and numbers of hops in the same order, and the same number of sample persons reached. -/
theorem Request.run_eager_eq_run_deferred (r : Request) (store : Store) :
    (r.withMode .eager).run store = (r.withMode .deferred).run store := by
  unfold Request.run
  apply bind_congr
  intro checked
  show ((Plan.ofQuery checked.query checked.aggregates).locate store r.options >>= _) =
    ((Plan.ofQuery checked.query checked.aggregates).locate store r.options >>= _)
  cases hlocate : (Plan.ofQuery checked.query checked.aggregates).locate store r.options with
  | error e => rfl
  | ok located =>
    show (Sample.persons r.sample >>= _) = (Sample.persons r.sample >>= _)
    apply bind_congr
    intro ids
    show (located.run .eager store ids r.characteristics >>= _) =
      (located.run .deferred store ids r.characteristics >>= _)
    rw [LocatedPlan.run_eq_runEager hlocate, LocatedPlan.run_eq_runEager hlocate]
    rfl

end TieWalk
