import TieWalk.Walk.Stages

/-!
# Chains of ties

A chain leads from one person to another along one tie of each stage's file, each tie with a code that its stage keeps.
A walk whose files can be read holds, after its last hop, exactly the pairs of a sample person and a person at the end
of a chain.
-/

namespace TieWalk

/-! ## Reading with codes -/

/-- What makes a row unreadable. -/
def Row.fault? : Row → Option ReadFault
  | .unreadable fault => some fault
  | .tie _ => none
  | .nothing => none

namespace Reading

/-- A reading ends early at the first row that cannot be read, whichever codes are asked for. -/
theorem fault?_ofRows (codes : Option (AscSet Code)) (rows : List Row) :
    (ofRows codes rows).fault? = rows.findSome? Row.fault? := by
  induction rows with
  | nil => rfl
  | cons row rest ih =>
    cases row with
    | tie e => rw [ofRows, fault?_accept, ih, List.findSome?_cons_of_isNone rfl]
    | nothing => exact ih
    | unreadable fault => rfl

/-- The ties handed on are those of a reading without codes whose code is asked for, in their order. -/
theorem ties_ofRows (codes : AscSet Code) (rows : List Row) :
    (ofRows (some codes) rows).ties = (ofRows none rows).ties.filter fun e => decide (e.code ∈ codes) := by
  induction rows with
  | nil => rfl
  | cons row rest ih =>
    cases row with
    | tie e =>
      simp only [ofRows, ties_accept, Tie.selectedBy, if_true, List.filter_cons, ih]
    | nothing => exact ih
    | unreadable fault => rfl

/-- The ties that are counted as handed on are those that are. -/
theorem rowsKept_ofRows (codes : Option (AscSet Code)) (rows : List Row) :
    (ofRows codes rows).rowsKept = (ofRows codes rows).ties.length := by
  induction rows with
  | nil => rfl
  | cons row rest ih =>
    cases row with
    | tie e =>
      rw [ofRows, rowsKept_accept, ties_accept, ih]
      split <;> rfl
    | nothing => exact ih
    | unreadable fault => rfl

end Reading

/-- Every file of the stages is read through. -/
def Store.ReadsAll (store : Store) (format : RelationFormat) (stages : List LocatedStage) : Prop :=
  ∀ s ∈ stages, (store.read s.path format none).fault? = none

/-- The ties of a stage are those of its file whose code the stage keeps. -/
def LocatedStage.HasTie (store : Store) (format : RelationFormat) (s : LocatedStage) (e : Tie) : Prop :=
  e ∈ (store.read s.path format none).ties ∧ e.code ∈ s.stage.codes

/-- A file that is read through gives the ties of its stage. -/
theorem Store.exists_scan {store : Store} {format : RelationFormat} {s : LocatedStage}
    (h : (store.read s.path format none).fault? = none) :
    ∃ scan, store.scan s.path format (some s.stage.codes) = .ok scan ∧ ∀ e, e ∈ scan.ties ↔
      s.HasTie store format e := by
  have hfault : (store.read s.path format (some s.stage.codes)).fault? = none := by
    unfold read
    rw [Reading.fault?_ofRows, ← Reading.fault?_ofRows none]
    exact h
  let r := store.read s.path format (some s.stage.codes)
  refine ⟨⟨r.ties, r.rowsRead, r.rowsKept⟩, ?_, fun e => ?_⟩
  · unfold scan
    simp only [hfault, r]
  · show e ∈ (Reading.ofRows _ _).ties ↔ _
    unfold LocatedStage.HasTie
    rw [Reading.ties_ofRows, List.mem_filter, decide_eq_true_iff]
    rfl

/-! ## Chains -/

/-- A chain of ties from one person to another, one tie of each stage in turn. -/
inductive Chain (store : Store) (format : RelationFormat) : List LocatedStage → Person → Person → Prop where
  | nil (p : Person) : Chain store format [] p p
  | cons {s : LocatedStage} {rest : List LocatedStage} {e : Tie} {p : Person} :
      s.HasTie store format e → Chain store format rest e.relative p → Chain store format (s :: rest) e.person p

namespace Pair

/-- Pairs that are moved along ties are moved along one each. -/
theorem mem_follow {pairs : List Pair} {ties : List Tie} {p : Pair} :
    p ∈ follow pairs ties ↔ ∃ q ∈ pairs, ∃ e ∈ ties, q.reached = e.person ∧ p = ⟨q.sample, e.relative⟩ := by
  unfold follow along
  simp only [List.mem_flatMap, List.mem_map, List.mem_filter, decide_eq_true_iff]
  constructor
  · rintro ⟨e, he, q, ⟨hq, hreached⟩, rfl⟩
    exact ⟨q, hq, e, he, hreached, rfl⟩
  · rintro ⟨q, hq, e, he, hreached, rfl⟩
    exact ⟨e, he, q, ⟨hq, hreached⟩, rfl⟩

/-- At the start, every person has reached themselves. -/
theorem mem_seeds {ids : List Person} {p : Pair} : p ∈ seeds ids ↔ p.sample ∈ ids ∧ p.reached = p.sample := by
  unfold seeds
  rw [AscSet.mem_ofList, List.mem_map]
  constructor
  · rintro ⟨id, hid, rfl⟩
    exact ⟨hid, rfl⟩
  · rintro ⟨hid, hreached⟩
    obtain ⟨sample, reached⟩ := p
    cases hreached
    exact ⟨sample, hid, rfl⟩

end Pair

variable {store : Store} {format : RelationFormat}

/-- A walk whose files are read through moves each pair to the ends of the chains from its reached person. -/
theorem exists_walkStages {stages : List LocatedStage} (h : store.ReadsAll format stages) (pairs : AscSet Pair) :
    ∃ course, walkStages store format pairs stages = .ok course ∧
      ∀ p, p ∈ course.pairs ↔ ∃ q ∈ pairs, q.sample = p.sample ∧ Chain store format stages q.reached p.reached := by
  induction stages generalizing pairs with
  | nil =>
    refine ⟨⟨pairs, [], []⟩, rfl, fun p => ⟨fun hp => ⟨p, hp, rfl, .nil _⟩, ?_⟩⟩
    rintro ⟨q, hq, hsample, hchain⟩
    obtain ⟨sample, reached⟩ := p
    obtain ⟨sample', reached'⟩ := q
    cases hsample
    cases hchain
    exact hq
  | cons s rest ih =>
    obtain ⟨scan, hscan, hties⟩ := Store.exists_scan (h s List.mem_cons_self)
    obtain ⟨course, hcourse, hpairs⟩ :=
      ih (fun t ht => h t (List.mem_cons_of_mem _ ht)) (AscSet.ofList (Pair.follow pairs.toList scan.ties))
    obtain ⟨whole, hwhole, hsame⟩ : ∃ whole, walkStages store format pairs (s :: rest) = .ok whole ∧
        whole.pairs = course.pairs := by
      rw [walkStages, hscan]
      simp only [hcourse]
      exact ⟨_, rfl, rfl⟩
    refine ⟨whole, hwhole, fun p => ?_⟩
    rw [hsame, hpairs p]
    constructor
    · rintro ⟨q, hq, hsample, hchain⟩
      obtain ⟨o, ho, e, he, hperson, rfl⟩ := Pair.mem_follow.1 (AscSet.mem_ofList.1 hq)
      refine ⟨o, ho, hsample, ?_⟩
      rw [hperson]
      exact .cons ((hties e).1 he) hchain
    · rintro ⟨q, hq, hsample, hchain⟩
      obtain ⟨sample, reached⟩ := q
      cases hchain with
      | @cons _ _ e _ he hrest =>
        refine ⟨⟨sample, e.relative⟩, AscSet.mem_ofList.2 (Pair.mem_follow.2 ?_), hsample, hrest⟩
        exact ⟨⟨sample, e.person⟩, hq, e, (hties e).2 he, rfl, rfl⟩

/-- After the last hop, a walk from sample persons holds the pairs that chains make. -/
theorem exists_walkStages_seeds {stages : List LocatedStage} (h : store.ReadsAll format stages) (ids : List Person) :
    ∃ course, walkStages store format (Pair.seeds ids) stages = .ok course ∧
      ∀ p, p ∈ course.pairs ↔ p.sample ∈ ids ∧ Chain store format stages p.sample p.reached := by
  obtain ⟨course, hcourse, hpairs⟩ := exists_walkStages h (Pair.seeds ids)
  refine ⟨course, hcourse, fun p => ?_⟩
  rw [hpairs p]
  constructor
  · rintro ⟨q, hq, hsample, hchain⟩
    obtain ⟨hid, hreached⟩ := Pair.mem_seeds.1 hq
    rw [hreached, hsample] at hchain
    exact ⟨hsample ▸ hid, hchain⟩
  · rintro ⟨hid, hchain⟩
    exact ⟨⟨p.sample, p.sample⟩, Pair.mem_seeds.2 ⟨hid, rfl⟩, rfl, hchain⟩

end TieWalk
