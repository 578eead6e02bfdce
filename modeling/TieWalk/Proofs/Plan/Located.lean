import TieWalk.Plan.Basic
import TieWalk.Proofs.Basics

/-!
# Located plans

A located plan has the stages of the plan that was located, in their order and under their numbers; a locator decides
only which file a stage reads and which codes it keeps.
-/

namespace TieWalk

/-- A locator says where a stage's ties lie and which to keep, not where the stage stands or what its hop is. -/
theorem Stage.exists_of_locate {s : Stage} {store : Store} {o : Options} {located : LocatedStage}
    (h : s.locate store o = .ok located) : ∃ codes, located.stage = { s with codes := codes } := by
  unfold locate at h
  split at h
  · cases h
    exact ⟨_, rfl⟩
  · cases h

/-- A located plan has the stages of its plan, in their order. -/
theorem Plan.stages_of_locate {p : Plan} {store : Store} {o : Options} {located : LocatedPlan}
    (h : p.locate store o = .ok located) :
    List.Forall₂ (fun s l => s.locate store o = .ok l) p.stages located.stages := by
  unfold locate at h
  split at h
  · next hstages =>
    cases h
    exact mapM_eq_ok_iff.1 hstages
  · cases h

/-- A located plan computes what its plan computes, and reads files of the format that is asked for. -/
theorem Plan.of_locate {p : Plan} {store : Store} {o : Options} {located : LocatedPlan}
    (h : p.locate store o = .ok located) :
    located.aggregates = p.aggregates ∧ located.vars = p.vars ∧ located.format = o.format := by
  unfold locate at h
  split at h
  · cases h
    exact ⟨rfl, rfl, rfl⟩
  · cases h

/-- What the codes of stages play no part in is the same of the stages of a plan and of those that are located. -/
theorem Plan.map_of_locate {p : Plan} {store : Store} {o : Options} {located : LocatedPlan} {α : Type} {f : Stage → α}
    (hf : ∀ s codes, f { s with codes := codes } = f s) (h : p.locate store o = .ok located) :
    (located.stages.map fun s => f s.stage) = p.stages.map f := by
  have hstages := stages_of_locate h
  generalize located.stages = stages at hstages ⊢
  generalize p.stages = planned at hstages ⊢
  induction hstages with
  | nil => rfl
  | @cons s l _ _ hs _ ih =>
    obtain ⟨codes, hl⟩ := Stage.exists_of_locate hs
    rw [List.map_cons, List.map_cons, hl, hf, ih]

/-- Locating files keeps the numbers of the stages. -/
theorem Plan.indices_of_locate {p : Plan} {store : Store} {o : Options} {located : LocatedPlan}
    (h : p.locate store o = .ok located) :
    (located.stages.map fun s => s.stage.index) = p.stages.map Stage.index :=
  map_of_locate (fun _ _ => rfl) h

/-- Locating files keeps the hops of the stages. -/
theorem Plan.hops_of_locate {p : Plan} {store : Store} {o : Options} {located : LocatedPlan}
    (h : p.locate store o = .ok located) :
    (located.stages.map fun s => s.stage.hop) = p.stages.map Stage.hop :=
  map_of_locate (fun _ _ => rfl) h

/-- The stages of a query's plan are numbered from zero. -/
theorem Plan.indices_ofQuery (q : Query) (aggregates : List Aggregate) :
    (Plan.ofQuery q aggregates).stages.map Stage.index = List.range q.hops.length := by
  rw [List.range_eq_range', ← List.zipIdx_map_snd 0 q.hops]
  simp [Plan.ofQuery, Function.comp_def]

/-- The stages of a query's plan are its hops. -/
theorem Plan.hops_ofQuery (q : Query) (aggregates : List Aggregate) :
    (Plan.ofQuery q aggregates).stages.map Stage.hop = q.hops := by
  simp [Plan.ofQuery, Function.comp_def]

end TieWalk
