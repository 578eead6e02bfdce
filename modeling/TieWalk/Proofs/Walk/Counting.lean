import Mathlib.Algebra.Ring.Nat
import Mathlib.Data.Finset.Card
import Mathlib.Data.Finset.Union
import Mathlib.Data.List.ReduceOption
import TieWalk.Proofs.Basics
import TieWalk.Proofs.Walk.Chain

/-!
# The numbers of a walk

Ties make of a set of pairs another set of pairs. A stage makes as many pairs as its ties have partners, and those that
it makes more than once are the surplus. The numbers that a walk reports are these, hop by hop (`report_of_walkStages`):
ties read, ties kept, different pairs, and a notice wherever there is a surplus.
-/

namespace TieWalk

/-! ## Sets of a list -/

namespace AscSet

variable {α : Type} [Ord α] [DecidableEq α]

/-- The members of a set. -/
def toFinset (s : AscSet α) : Finset α := s.toList.toFinset

@[simp] theorem mem_toFinset {a : α} {s : AscSet α} : a ∈ s.toFinset ↔ a ∈ s := List.mem_toFinset

variable [Std.TransOrd α]

theorem card_toFinset (s : AscSet α) : s.toFinset.card = s.size := List.toFinset_card_of_nodup s.nodup_toList

theorem toFinset_ofList [Std.LawfulEqOrd α] (l : List α) : (ofList l).toFinset = l.toFinset := by
  ext a
  rw [mem_toFinset, mem_ofList, List.mem_toFinset]

end AscSet

/-! ## One hop -/

namespace Pair

/-- The sample persons that are paired with a person. -/
def samplesAt (pairs : Finset Pair) (person : Person) : Finset Person :=
  (pairs.filter fun p => p.reached = person).image Pair.sample

/-- The pairs that ties make of pairs. -/
def moved (pairs : Finset Pair) (ties : List Tie) : Finset Pair :=
  ties.toFinset.biUnion fun e => (samplesAt pairs e.person).image fun s => ⟨s, e.relative⟩

/-- The number of pairs that ties make of pairs, each counted as often as it is made. -/
def made (pairs : Finset Pair) (ties : List Tie) : Nat := (ties.map fun e => (samplesAt pairs e.person).card).sum

/-- The sample persons at a person are those that stand in a pair with them. -/
theorem mem_samplesAt {pairs : Finset Pair} {s person : Person} : s ∈ samplesAt pairs person ↔ ⟨s, person⟩ ∈ pairs := by
  unfold samplesAt
  rw [Finset.mem_image]
  constructor
  · rintro ⟨⟨sample, reached⟩, hp, hsample⟩
    obtain ⟨hmem, hreached⟩ := Finset.mem_filter.1 hp
    cases hsample
    cases hreached
    exact hmem
  · intro h
    exact ⟨⟨s, person⟩, Finset.mem_filter.2 ⟨h, rfl⟩, rfl⟩

/-- A sample person is moved along a tie from a person with whom they are paired. -/
theorem mem_moved {pairs : Finset Pair} {ties : List Tie} {s a : Person} :
    ⟨s, a⟩ ∈ moved pairs ties ↔ ∃ e ∈ ties, ⟨s, e.person⟩ ∈ pairs ∧ e.relative = a := by
  unfold moved
  simp only [Finset.mem_biUnion, List.mem_toFinset, Finset.mem_image, mem_samplesAt, Pair.mk.injEq]
  constructor
  · rintro ⟨e, he, s, hs, rfl, rfl⟩
    exact ⟨e, he, hs, rfl⟩
  · rintro ⟨e, he, hs, rfl⟩
    exact ⟨e, he, s, hs, rfl, rfl⟩

/-- Following ties moves the set of pairs. -/
theorem toFinset_follow (pairs : List Pair) (ties : List Tie) :
    (follow pairs ties).toFinset = moved pairs.toFinset ties := by
  ext ⟨s, a⟩
  rw [List.mem_toFinset, mem_follow, mem_moved]
  constructor
  · rintro ⟨⟨sample, reached⟩, hq, e, he, rfl, hp⟩
    cases hp
    exact ⟨e, he, List.mem_toFinset.2 hq, rfl⟩
  · rintro ⟨e, he, hq, rfl⟩
    exact ⟨_, List.mem_toFinset.1 hq, e, he, rfl, rfl⟩

/-- Different pairs with the same person reached have different sample persons. -/
theorem length_along {pairs : List Pair} (h : pairs.Nodup) (e : Tie) :
    (along pairs e).length = (samplesAt pairs.toFinset e.person).card := by
  have hinj : Set.InjOn Pair.sample (pairs.toFinset.filter fun p => p.reached = e.person) := by
    rintro ⟨s, a⟩ hp ⟨s', a'⟩ hq rfl
    obtain ⟨-, rfl⟩ := Finset.mem_filter.1 (Finset.mem_coe.1 hp)
    obtain ⟨-, hreached⟩ := Finset.mem_filter.1 (Finset.mem_coe.1 hq)
    exact congrArg _ hreached.symm
  have hfilter : pairs.toFinset.filter (fun p => p.reached = e.person) =
      (pairs.filter fun p => p.reached = e.person).toFinset := by
    rw [List.toFinset_filter]
    simp only [decide_eq_true_iff]
  rw [samplesAt, Finset.card_image_of_injOn hinj, hfilter, List.toFinset_card_of_nodup (h.filter _), along,
    List.length_map]

/-- Following ties makes a pair for every pair and tie that meet. -/
theorem length_follow {pairs : List Pair} (h : pairs.Nodup) (ties : List Tie) :
    (follow pairs ties).length = made pairs.toFinset ties := by
  rw [follow, List.length_flatMap, made]
  simp only [length_along h]

/-- No more pairs are different than are made. -/
theorem card_moved_le (pairs : Finset Pair) (ties : List Tie) : (moved pairs ties).card ≤ made pairs ties := by
  have hnodup : pairs.toList.Nodup := pairs.nodup_toList
  have hle := List.toFinset_card_le (follow pairs.toList ties)
  rw [toFinset_follow, length_follow hnodup, Finset.toList_toFinset] at hle
  exact hle

/-- The surplus is what was made less what is different. -/
theorem surplus_follow (pairs : AscSet Pair) (ties : List Tie) :
    surplus (follow pairs.toList ties) = made pairs.toFinset ties - (moved pairs.toFinset ties).card := by
  rw [surplus, ← AscSet.card_toFinset, AscSet.toFinset_ofList, toFinset_follow, length_follow pairs.nodup_toList]
  rfl

end Pair

/-! ## All hops -/

namespace LocatedStage

/-- The ties of a stage's file, whatever their codes. -/
def ties (store : Store) (format : RelationFormat) (s : LocatedStage) : List Tie := (store.read s.path format none).ties

/-- The ties of a stage's file whose code the stage keeps. -/
def keptTies (store : Store) (format : RelationFormat) (s : LocatedStage) : List Tie :=
  (s.ties store format).filter fun e => decide (e.code ∈ s.stage.codes)

end LocatedStage

namespace Reading

/-- The rows counted are the ties that a reading without codes hands on. -/
theorem rowsRead_ofRows (codes : Option (AscSet Code)) (rows : List Row) :
    (ofRows codes rows).rowsRead = (ofRows none rows).ties.length := by
  induction rows with
  | nil => rfl
  | cons row rest ih =>
    cases row with
    | tie e => simp only [ofRows, rowsRead_accept, ties_accept, Tie.selectedBy, if_true, List.length_cons, ih]
    | nothing => exact ih
    | unreadable fault => rfl

end Reading

variable {store : Store} {format : RelationFormat}

/-- A file that was read through gives the kept ties of its stage, the number of all its ties and that of the kept ones.
-/
theorem Store.eq_of_scan {s : LocatedStage} {scan : Scan} (h : store.scan s.path format (some s.stage.codes) =
    .ok scan) : scan.ties = s.keptTies store format ∧ scan.rowsRead = (s.ties store format).length ∧
      scan.rowsKept = (s.keptTies store format).length := by
  unfold Store.scan at h
  simp only at h
  split at h
  · cases h
  · cases h
    have hties : (store.read s.path format (some s.stage.codes)).ties = s.keptTies store format :=
      Reading.ties_ofRows _ _
    exact ⟨hties, Reading.rowsRead_ofRows _ _, hties ▸ Reading.rowsKept_ofRows _ _⟩

/-- The pairs that stages make of pairs, one stage after another. -/
def pairsAfter (store : Store) (format : RelationFormat) (pairs : Finset Pair) (stages : List LocatedStage) :
    Finset Pair :=
  stages.foldl (fun pairs s => Pair.moved pairs (s.keptTies store format)) pairs

/-- What is reported of the stage of a number: its ties, those it keeps, and the different pairs after it. -/
def statsAt (store : Store) (format : RelationFormat) (pairs : Finset Pair) (stages : List LocatedStage) (k : Nat)
    (s : LocatedStage) : HopStats :=
  ⟨s.stage.hop.context, (s.ties store format).length, (s.keptTies store format).length,
    (pairsAfter store format pairs (stages.take (k + 1))).card⟩

/-- The pairs that the stage of a number makes, each as often as it is made. -/
def madeAt (store : Store) (format : RelationFormat) (pairs : Finset Pair) (stages : List LocatedStage) (k : Nat)
    (s : LocatedStage) : Nat :=
  Pair.made (pairsAfter store format pairs (stages.take k)) (s.keptTies store format)

/-- The notice of the stage of a number: of the pairs that it makes, those more than are different. -/
def noticeAt? (store : Store) (format : RelationFormat) (pairs : Finset Pair) (stages : List LocatedStage) (k : Nat)
    (s : LocatedStage) : Option Notice :=
  Notice.ofSurplus? s.stage.index s.stage.hop.context
    (madeAt store format pairs stages k s - (pairsAfter store format pairs (stages.take (k + 1))).card)

/-- A walk ends with the pairs after its last stage, and reports of each stage what is to be reported. -/
theorem report_of_walkStages {stages : List LocatedStage} {pairs : AscSet Pair} {course : Course}
    (h : walkStages store format pairs stages = .ok course) :
    course.pairs.toFinset = pairsAfter store format pairs.toFinset stages ∧
      course.stages = stages.mapIdx (statsAt store format pairs.toFinset stages) ∧
      course.notices = (stages.mapIdx (noticeAt? store format pairs.toFinset stages)).reduceOption := by
  -- The first stage is reported of the pairs at the start, the others of the pairs that it makes.
  induction stages generalizing pairs course with
  | nil =>
    cases h
    exact ⟨rfl, rfl, rfl⟩
  | cons s rest ih =>
    rw [walkStages] at h
    split at h
    · cases h
    · next scan hscan =>
      obtain ⟨hties, hread⟩ := Store.eq_of_scan hscan
      simp only [hties, hread] at h
      split at h
      · cases h
      · next more hmore =>
        cases h
        obtain ⟨hpairs, hstages, hnotices⟩ := ih hmore
        have hnext : (AscSet.ofList (Pair.follow pairs.toList (s.keptTies store format))).toFinset =
            Pair.moved pairs.toFinset (s.keptTies store format) := by
          rw [AscSet.toFinset_ofList, Pair.toFinset_follow]
          rfl
        rw [hnext] at hpairs hstages hnotices
        refine ⟨hpairs, ?_, ?_⟩
        · rw [List.mapIdx_cons, hstages, ← AscSet.card_toFinset, hnext]
          rfl
        · rw [List.mapIdx_cons, hnotices, Pair.surplus_follow]
          show (noticeAt? store format pairs.toFinset (s :: rest) 0 s).toList ++ _ = _
          cases noticeAt? store format pairs.toFinset (s :: rest) 0 s with
          | none => rw [List.reduceOption_cons_of_none]; rfl
          | some notice => rw [List.reduceOption_cons_of_some]; rfl

/-- A stage makes every pair after it at least once. -/
theorem card_pairsAfter_le {pairs : Finset Pair} {stages : List LocatedStage} {k : Nat} {s : LocatedStage}
    (h : stages[k]? = some s) :
    (pairsAfter store format pairs (stages.take (k + 1))).card ≤ madeAt store format pairs stages k s := by
  have hlast : stages.take (k + 1) = stages.take k ++ [s] := by
    rw [List.take_add_one, h]
    rfl
  rw [hlast, pairsAfter, List.foldl_append]
  exact Pair.card_moved_le _ _

/-- The rows read are those of all hops together. -/
theorem totalRowsRead_eq_sum (stages : List HopStats) : totalRowsRead stages = (stages.map HopStats.rowsRead).sum := by
  induction stages with
  | nil => rfl
  | cons s rest ih => rw [List.map_cons, List.sum_cons, ← ih]; rfl

/-- In all hops, the ties of all files are read. -/
theorem totalRowsRead_statsAt (pairs : Finset Pair) (stages : List LocatedStage) :
    totalRowsRead (stages.mapIdx (statsAt store format pairs stages)) =
      (stages.map fun s => (s.ties store format).length).sum := by
  have hrows : (stages.mapIdx (statsAt store format pairs stages)).map HopStats.rowsRead =
      stages.map fun s => (s.ties store format).length := by
    refine List.ext_getElem (by simp) fun k _ _ => ?_
    rw [List.getElem_map, List.getElem_map, List.getElem_mapIdx]
    rfl
  rw [totalRowsRead_eq_sum, hrows]

/-- A walk starts with every different sample person paired with itself. -/
theorem Pair.toFinset_seeds (ids : List Person) : (seeds ids).toFinset = ids.toFinset.image fun s => ⟨s, s⟩ := by
  ext ⟨s, a⟩
  rw [AscSet.mem_toFinset, mem_seeds, Finset.mem_image]
  constructor
  · rintro ⟨hs, hreached⟩
    cases hreached
    exact ⟨s, List.mem_toFinset.2 hs, rfl⟩
  · rintro ⟨x, hx, h⟩
    cases h
    exact ⟨List.mem_toFinset.1 hx, rfl⟩

end TieWalk
