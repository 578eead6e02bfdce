import Mathlib.Data.List.Induction
import TieWalk.Proofs.Walk.Modes

/-!
# Simplified plan trees

A rule applies to a filter of a scan and to a removal of duplicates above another. A tree is simple when no rule applies
to any part of it. Simplifying gives a simple tree and keeps one as it is, so it need not be done twice. However many
filters stand above a scan, they become one scan of the codes that all of them and the scan accept. Simplified, the tree
of a located plan has, for each stage, one scan of exactly the stage's codes, and no filter.
-/

namespace TieWalk

namespace PlanTree

/-! ## Parts of a tree -/

/-- A part of a tree is the tree or a part of what it draws on. -/
inductive IsPart (part : PlanTree) : PlanTree → Prop where
  | self : IsPart part part
  | filter {input : PlanTree} (codes : AscSet Code) : IsPart part input → IsPart part (.filter codes input)
  | left {left : PlanTree} (stage : Nat) (context : Context) (right : PlanTree) :
      IsPart part left → IsPart part (.join stage context left right)
  | right {right : PlanTree} (stage : Nat) (context : Context) (left : PlanTree) :
      IsPart part right → IsPart part (.join stage context left right)
  | distinct {input : PlanTree} (stage : Nat) (context : Context) :
      IsPart part input → IsPart part (.distinct stage context input)
  | aggregate {input : PlanTree} (vars : List String) (aggregates : List Aggregate) :
      IsPart part input → IsPart part (.aggregate vars aggregates input)

/-- A rule applies at the root: to a filter of a scan, or to a removal of duplicates where none are left. -/
inductive IsReducible : PlanTree → Prop where
  | filter (codes : AscSet Code) (path : String) (format : RelationFormat) (own : Option (AscSet Code)) :
      IsReducible (.filter codes (.scan path format own))
  | distinct (stage stage' : Nat) (context context' : Context) (input : PlanTree) :
      IsReducible (.distinct stage context (.distinct stage' context' input))

/-- No rule applies anywhere in the tree. -/
def IsSimple (n : PlanTree) : Prop := ∀ part, IsPart part n → ¬part.IsReducible

variable {codes : AscSet Code} {stage : Nat} {context : Context} {vars : List String} {aggregates : List Aggregate}
  {path : String} {format : RelationFormat} {own : Option (AscSet Code)} {input left right : PlanTree}

/-! ## Simple trees, by their roots -/

theorem isSimple_sample : IsSimple .sample := by
  rintro _ ⟨⟩ h
  cases h

theorem isSimple_scan : IsSimple (.scan path format own) := by
  rintro _ ⟨⟩ h
  cases h

/-- A filter is simple when it is not reducible itself and what it filters is simple. -/
theorem isSimple_filter_iff : (filter codes input).IsSimple ↔ ¬(filter codes input).IsReducible ∧ input.IsSimple := by
  constructor
  · intro h
    exact ⟨h _ .self, fun part hpart => h part (.filter codes hpart)⟩
  · rintro ⟨hroot, hinput⟩ part hpart
    cases hpart with
    | self => exact hroot
    | filter _ hpart => exact hinput part hpart

/-- A removal of doubles is simple when it is not reducible itself and what it takes is simple. -/
theorem isSimple_distinct_iff :
    (distinct stage context input).IsSimple ↔ ¬(distinct stage context input).IsReducible ∧ input.IsSimple := by
  constructor
  · intro h
    exact ⟨h _ .self, fun part hpart => h part (.distinct stage context hpart)⟩
  · rintro ⟨hroot, hinput⟩ part hpart
    cases hpart with
    | self => exact hroot
    | distinct _ _ hpart => exact hinput part hpart

/-- A join is simple when both its sides are. -/
theorem isSimple_join_iff : (join stage context left right).IsSimple ↔ left.IsSimple ∧ right.IsSimple := by
  constructor
  · intro h
    exact ⟨fun part hpart => h part (.left stage context right hpart),
      fun part hpart => h part (.right stage context left hpart)⟩
  · rintro ⟨hleft, hright⟩ part hpart
    cases hpart with
    | self => exact nofun
    | left _ _ _ hpart => exact hleft part hpart
    | right _ _ _ hpart => exact hright part hpart

theorem isSimple_aggregate_iff : (aggregate vars aggregates input).IsSimple ↔ input.IsSimple := by
  constructor
  · intro h part hpart
    exact h part (.aggregate vars aggregates hpart)
  · intro hinput part hpart
    cases hpart with
    | self => exact nofun
    | aggregate _ _ hpart => exact hinput part hpart

/-! ## The two rules -/

/-- What no rule changes at its root is a filter of what stands below. -/
theorem filtered_of_not_isReducible (h : ¬(filter codes input).IsReducible) :
    filtered codes input = .filter codes input := by
  cases input with
  | scan path format own => exact absurd (.filter codes path format own) h
  | sample | filter | join | distinct | aggregate => rfl

/-- A removal of doubles that is not reducible is left as it is. -/
theorem deduplicated_of_not_isReducible (h : ¬(distinct stage context input).IsReducible) :
    deduplicated stage context input = .distinct stage context input := by
  cases input with
  | distinct s c below => exact absurd (.distinct stage s context c below) h
  | sample | scan | filter | join | aggregate => rfl

/-- A filter of a simple tree, with the rule for filters applied, is simple. -/
theorem IsSimple.filtered (h : input.IsSimple) (codes : AscSet Code) : (filtered codes input).IsSimple := by
  cases input with
  | scan path format own => cases own <;> exact isSimple_scan
  | sample | filter | join | distinct | aggregate => exact isSimple_filter_iff.2 ⟨nofun, h⟩

/-- Removing doubles keeps what is simple simple. -/
theorem IsSimple.deduplicated (h : input.IsSimple) (stage : Nat) (context : Context) :
    (deduplicated stage context input).IsSimple := by
  cases input with
  | distinct s c below => exact h
  | sample | scan | filter | join | aggregate => exact isSimple_distinct_iff.2 ⟨nofun, h⟩

/-- A simplified tree is simple. -/
theorem isSimple_simplify (n : PlanTree) : n.simplify.IsSimple := by
  induction n with
  | sample => exact isSimple_sample
  | scan path format own => exact isSimple_scan
  | filter codes input ih => exact ih.filtered codes
  | join stage context left right ihl ihr => exact isSimple_join_iff.2 ⟨ihl, ihr⟩
  | distinct stage context input ih => exact ih.deduplicated stage context
  | aggregate vars aggregates input ih => exact isSimple_aggregate_iff.2 ih

/-- A simple tree stays as it is. -/
theorem IsSimple.simplify_eq {n : PlanTree} (h : n.IsSimple) : n.simplify = n := by
  induction n with
  | sample => rfl
  | scan path format own => rfl
  | filter codes input ih =>
    obtain ⟨hroot, hinput⟩ := isSimple_filter_iff.1 h
    rw [simplify, ih hinput, filtered_of_not_isReducible hroot]
  | join stage context left right ihl ihr =>
    obtain ⟨hleft, hright⟩ := isSimple_join_iff.1 h
    rw [simplify, ihl hleft, ihr hright]
  | distinct stage context input ih =>
    obtain ⟨hroot, hinput⟩ := isSimple_distinct_iff.1 h
    rw [simplify, ih hinput, deduplicated_of_not_isReducible hroot]
  | aggregate vars aggregates input ih => rw [simplify, ih (isSimple_aggregate_iff.1 h)]

/-! ## Filters above a scan -/

/-- A filter of a scan is a scan of the codes that both accept. -/
theorem exists_filtered_scan (codes : AscSet Code) (path : String) (format : RelationFormat)
    (own : Option (AscSet Code)) : ∃ kept, filtered codes (.scan path format own) = .scan path format (some kept) ∧
      ∀ code, code ∈ kept ↔ code ∈ codes ∧ ∀ set ∈ own, code ∈ set := by
  cases own with
  | none => exact ⟨codes, rfl, by simp⟩
  | some set => exact ⟨set.inter codes, rfl, by simp [and_comm]⟩

/-- Filters above a scan become one scan. It accepts every code only where there is no filter and the scan did, and
otherwise the codes that all filters and the scan accept. -/
theorem exists_simplify_filters (filters : List (AscSet Code)) (path : String) (format : RelationFormat)
    (own : Option (AscSet Code)) :
    ∃ kept, (filters.foldr filter (.scan path format own)).simplify = .scan path format kept ∧
      (kept = none ↔ filters = [] ∧ own = none) ∧
      ∀ code, (∀ set ∈ kept, code ∈ set) ↔ (∀ set ∈ filters, code ∈ set) ∧ ∀ set ∈ own, code ∈ set := by
  induction filters with
  | nil => exact ⟨own, rfl, by simp, by simp⟩
  | cons codes filters ih =>
    obtain ⟨below, hbelow, -, hcodes⟩ := ih
    obtain ⟨kept, hkept, hmem⟩ := exists_filtered_scan codes path format below
    refine ⟨some kept, ?_, by simp, fun code => ?_⟩
    · rw [List.foldr_cons, simplify, hbelow, hkept]
    · rw [List.forall_mem_cons, and_assoc, ← hcodes code, ← hmem code]
      simp

/-! ## Located plans -/

/-- The tree of stages, outward from the sample: each moves the pairs of those before it along the ties of its file that
have one of its codes, and removes the duplicates. -/
inductive IsWalk (format : RelationFormat) : List LocatedStage → PlanTree → Prop where
  | start : IsWalk format [] .sample
  | stage {before : List LocatedStage} {pairs : PlanTree} (s : LocatedStage) : IsWalk format before pairs →
      IsWalk format (before ++ [s]) (.distinct s.stage.index s.stage.hop.context
        (.join s.stage.index s.stage.hop.context pairs (.scan s.path format (some s.stage.codes))))

/-- The stages of a plan, simplified. -/
theorem isWalk_simplify (format : RelationFormat) (stages : List LocatedStage) :
    IsWalk format stages (stages.foldl (extend format) .sample).simplify := by
  induction stages using List.reverseRecOn with
  | nil => exact .start
  | append_singleton before s ih =>
    rw [List.foldl_append, List.foldl_cons, List.foldl_nil, simplify_extend]
    exact .stage s ih

/-- No filter is part of the tree of stages. -/
theorem IsWalk.not_isPart_filter {stages : List LocatedStage} {pairs : PlanTree} (h : IsWalk format stages pairs) :
    ¬IsPart (.filter codes input) pairs := by
  intro hpart
  induction h with
  | start => cases hpart
  | stage s _ ih =>
    cases hpart with
    | distinct _ _ hpart =>
      cases hpart with
      | left _ _ _ hpart => exact ih hpart
      | right _ _ _ hpart => cases hpart

/-- The tree of a plan with a stage has a filter. -/
theorem exists_isPart_filter_ofPlan {p : LocatedPlan} (h : p.stages ≠ []) :
    ∃ codes input, IsPart (.filter codes input) (ofPlan p) := by
  obtain ⟨before, s, hstages⟩ := (List.eq_nil_or_concat' p.stages).resolve_left h
  refine ⟨s.stage.codes, .scan s.path p.format none, .aggregate p.vars p.aggregates ?_⟩
  rw [hstages, List.foldl_append]
  exact .distinct _ _ (.right _ _ _ .self)

/-- Simplifying once is enough: nothing more can be simplified afterwards. Filters above a scan, however many, become
one scan of the same file, of the codes that all of them and the scan accept. The tree of a located plan is simplified
to the aggregates of the plan over the tree of its stages, each with a scan of exactly its codes; no filter is left, and
the tree is another than before where there is a stage. -/
theorem simplify_normalizes :
    (∀ n : PlanTree, n.simplify.simplify = n.simplify ∧ n.simplify.IsSimple) ∧
    (∀ (filters : List (AscSet Code)) (path : String) (format : RelationFormat) (own : Option (AscSet Code)),
      ∃ kept, (filters.foldr filter (.scan path format own)).simplify = .scan path format kept ∧
        (kept = none ↔ filters = [] ∧ own = none) ∧
        ∀ code, (∀ set ∈ kept, code ∈ set) ↔ (∀ set ∈ filters, code ∈ set) ∧ ∀ set ∈ own, code ∈ set) ∧
    ∀ p : LocatedPlan,
      (∃ pairs, (ofPlan p).simplify = .aggregate p.vars p.aggregates pairs ∧ IsWalk p.format p.stages pairs) ∧
      (∀ codes input, ¬IsPart (.filter codes input) (ofPlan p).simplify) ∧
      ((ofPlan p).simplify ≠ ofPlan p ↔ 1 ≤ p.stages.length) := by
  refine ⟨fun n => ⟨(isSimple_simplify n).simplify_eq, isSimple_simplify n⟩, exists_simplify_filters, fun p => ?_⟩
  have hwalk := isWalk_simplify p.format p.stages
  have hnone : ∀ codes input, ¬IsPart (.filter codes input) (ofPlan p).simplify := by
    intro codes input hpart
    cases hpart with
    | aggregate _ _ hpart => exact hwalk.not_isPart_filter hpart
  refine ⟨⟨_, rfl, hwalk⟩, hnone, ?_⟩
  rw [Nat.one_le_iff_ne_zero, ne_eq, ne_eq, not_iff_not, List.length_eq_zero_iff]
  constructor
  · intro hsame
    by_contra hne
    obtain ⟨codes, input, hpart⟩ := exists_isPart_filter_ofPlan hne
    rw [← hsame] at hpart
    exact hnone codes input hpart
  · intro hnil
    rw [ofPlan, hnil]
    rfl

/-- Two filters above a scan of every code. -/
example : (filter (AscSet.ofList [302, 303])
    (.filter (AscSet.ofList [301, 302]) (.scan "ties.csv" .csv none))).simplify =
    .scan "ties.csv" .csv (some (AscSet.ofList [302])) := by decide +kernel

end PlanTree

end TieWalk
