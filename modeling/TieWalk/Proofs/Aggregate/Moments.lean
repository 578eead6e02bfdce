import Mathlib.Algebra.BigOperators.Group.List.Basic
import Mathlib.Algebra.Field.Rat
import Mathlib.Tactic.FieldSimp
import Mathlib.Tactic.Ring
import TieWalk.Aggregate.Spread
import TieWalk.Proofs.Aggregate.Summation

/-!
# Spreads in exact arithmetic

The spread of values is taken with the operations of doubles, each of which rounds. The same steps can be made in any
arithmetic (`Moments`); doubles are one (`Spread.moments_ofValues`). With rational numbers, which do not round, the two
ways to take a spread, value by value and in blocks, both come to the squared distances of all values from their mean,
divided by one less than their number (`Moments.variance_ofValues`). So rounding is all that lies between the deviation
that is reported and that of the sample.
-/

namespace TieWalk

/-- The number of values, their mean, and the sum of their squared distances from it, in some arithmetic. -/
structure Moments (α : Type) where
  count : Nat
  mean : α
  squares : α

namespace Moments

section

variable {α : Type} [Add α] [Sub α] [Mul α] [Div α] (zero : α) (ofNat : Nat → α)

/-- The moments of no values. -/
def empty : Moments α := ⟨0, zero, zero⟩

/-- The moments with one more value. -/
def add (s : Moments α) (x : α) : Moments α :=
  let count := s.count + 1
  let distance := x - s.mean
  let mean := s.mean + distance / ofNat count
  ⟨count, mean, s.squares + distance * (x - mean)⟩

/-- The moments of values at once. -/
def ofRun (values : List α) : Moments α :=
  let mean := values.foldl (· + ·) zero / ofNat values.length
  ⟨values.length, mean, values.foldl (fun sum x => sum + (x - mean) * (x - mean)) zero⟩

/-- The moments of the values of two. -/
def merge (s t : Moments α) : Moments α :=
  let count := s.count + t.count
  let distance := t.mean - s.mean
  let mean := s.mean + distance * (ofNat t.count / ofNat count)
  ⟨count, mean, s.squares + (t.squares + ofNat t.count * (t.mean - mean) * distance)⟩

/-- The moments of values, one after another or in blocks. -/
def ofValues (how : Summation) (values : List α) : Moments α :=
  match how with
  | .serial _ => values.foldl (add ofNat) (empty zero)
  | .blocked => ((runsOf Summation.blockSize values).map (ofRun zero ofNat)).foldl (merge ofNat) (empty zero)

/-- The sum of squared distances, divided by one less than the number of values. -/
def variance (s : Moments α) : α := s.squares / ofNat (s.count - 1)

end

end Moments

/-! ## Doubles -/

namespace Spread

/-- A spread as moments. -/
def moments (s : Spread) : Moments Float := ⟨s.count, s.mean, s.squares⟩

/-- The moments of a spread are those of its values, added one by one. -/
theorem moments_foldl_add (values : List Float) (s : Spread) :
    (values.foldl add s).moments = values.foldl (Moments.add Float.ofNat) s.moments := by
  induction values generalizing s with
  | nil => rfl
  | cons x rest ih => exact ih (s.add x)

/-- The moments of runs that are put together are those of the runs, put together. -/
theorem moments_foldl_merge (runs : List (List Float)) (s : Spread) : ((runs.map ofRun).foldl merge s).moments =
    (runs.map (Moments.ofRun 0.0 Float.ofNat)).foldl (Moments.merge Float.ofNat) s.moments := by
  induction runs generalizing s with
  | nil => rfl
  | cons run rest ih => exact ih (s.merge (ofRun run))

/-- A spread is taken in the steps in which moments are. -/
theorem moments_ofValues (how : Summation) (values : List Float) :
    (ofValues how values).moments = Moments.ofValues 0.0 Float.ofNat how values := by
  cases how with
  | serial gaps => exact moments_foldl_add values empty
  | blocked => exact moments_foldl_merge (runsOf Summation.blockSize values) empty

/-- A deviation is the square root of a variance. -/
theorem deviation?_ofValues (how : Summation) (values : List Float) (h : 2 ≤ (ofValues how values).count) :
    (ofValues how values).deviation? =
      some (Float.sqrt ((Moments.ofValues 0.0 Float.ofNat how values).variance Float.ofNat)) := by
  rw [← moments_ofValues]
  unfold deviation?
  rw [if_neg (by omega)]
  rfl

end Spread

/-! ## Exact arithmetic -/

/-- The variance of a sample: the squared distances of its values from their mean, divided by one less than their
number. -/
def sampleVariance (values : List Rat) : Rat :=
  (values.map fun x => (x - values.sum / values.length) ^ 2).sum / (values.length - 1)

/-- Squared distances from a place, by the sums of the values and of their squares. -/
theorem sum_map_sub_sq (values : List Rat) (m : Rat) :
    (values.map fun x => (x - m) ^ 2).sum = (values.map (· ^ 2)).sum - 2 * m * values.sum + values.length * m ^ 2 := by
  induction values with
  | nil => simp
  | cons x rest ih =>
    simp only [List.map_cons, List.sum_cons, List.length_cons, ih, Nat.cast_succ]
    ring

/-- Rational numbers that are added one after another come to their sum. -/
theorem foldl_add_eq_sum (values : List Rat) (a : Rat) : values.foldl (· + ·) a = a + values.sum := by
  induction values generalizing a with
  | nil => simp
  | cons x rest ih => rw [List.foldl_cons, ih, List.sum_cons, add_assoc]

/-- What comes about by adding up numbers in any order is their sum. -/
theorem IsSum.eq_sum {values : List Rat} {sum : Rat} (h : IsSum 0 values sum) : sum = values.sum := by
  induction h with
  | zero => rfl
  | one a => simp
  | add _ _ hperm ihl ihm => rw [hperm.sum_eq, List.sum_append, ihl, ihm]

namespace Moments

/-- Exact moments of values: the mean times the number is the sum, and the squared distances are those from the mean. -/
structure IsOf (s : Moments Rat) (values : List Rat) : Prop where
  count : s.count = values.length
  mean : values.length * s.mean = values.sum
  squares : s.squares = (values.map fun x => (x - s.mean) ^ 2).sum

variable {s t : Moments Rat} {values more : List Rat}

/-- Squared distances from the mean, by the sum of the squares. -/
theorem IsOf.squares_eq (h : s.IsOf values) : s.squares = (values.map (· ^ 2)).sum - values.length * s.mean ^ 2 := by
  rw [h.squares, sum_map_sub_sq, ← h.mean]
  ring

/-- The moments of rational numbers, said without division. -/
theorem isOf_iff : s.IsOf values ↔ s.count = values.length ∧ values.length * s.mean = values.sum ∧
    s.squares = (values.map (· ^ 2)).sum - values.length * s.mean ^ 2 := by
  constructor
  · exact fun h => ⟨h.count, h.mean, h.squares_eq⟩
  · rintro ⟨hcount, hmean, hsquares⟩
    refine ⟨hcount, hmean, ?_⟩
    rw [hsquares, sum_map_sub_sq, ← hmean]
    ring

theorem isOf_empty : (empty (0 : Rat)).IsOf [] := ⟨rfl, by simp, by simp [empty]⟩

/-- One more value. -/
theorem IsOf.add (h : s.IsOf values) (x : Rat) : (s.add Nat.cast x).IsOf (values ++ [x]) := by
  have hne : (values.length : Rat) + 1 ≠ 0 := Nat.cast_add_one_ne_zero _
  refine isOf_iff.2 ⟨?_, ?_, ?_⟩
  · simp [Moments.add, h.count]
  · simp only [Moments.add, h.count, List.length_append, List.length_singleton, List.sum_append, List.sum_singleton,
      ← h.mean, Nat.cast_add, Nat.cast_one]
    field_simp
    ring
  · simp only [Moments.add, h.count, h.squares_eq, List.length_append, List.length_singleton, List.map_append,
      List.map_singleton, List.sum_append, List.sum_singleton, Nat.cast_add, Nat.cast_one]
    field_simp
    ring

/-- Values at once. -/
theorem isOf_ofRun (values : List Rat) : (ofRun 0 Nat.cast values).IsOf values := by
  refine ⟨rfl, ?_, ?_⟩
  · show (values.length : Rat) * (values.foldl (· + ·) 0 / values.length) = values.sum
    rw [foldl_add_eq_sum, zero_add]
    cases values with
    | nil => simp
    | cons x rest => exact mul_div_cancel₀ _ (Nat.cast_ne_zero.2 (Nat.succ_ne_zero _))
  · show values.foldl (fun sum x => sum + (x - _) * (x - _)) 0 = _
    rw [← List.foldl_map, foldl_add_eq_sum, zero_add]
    simp only [sq]
    rfl

/-- The values of two. -/
theorem IsOf.merge (hs : s.IsOf values) (ht : t.IsOf more) : (s.merge Nat.cast t).IsOf (values ++ more) := by
  by_cases hzero : values.length + more.length = 0
  · obtain ⟨hvalues, hmore⟩ := Nat.add_eq_zero_iff.1 hzero
    cases List.length_eq_zero_iff.1 hvalues
    cases List.length_eq_zero_iff.1 hmore
    have hcounts : s.count = 0 ∧ t.count = 0 := ⟨hs.count, ht.count⟩
    refine ⟨?_, ?_, ?_⟩ <;> simp [Moments.merge, hcounts, hs.squares, ht.squares]
  · have hne : (values.length : Rat) + more.length ≠ 0 := by
      rw [← Nat.cast_add]
      exact Nat.cast_ne_zero.2 hzero
    refine isOf_iff.2 ⟨?_, ?_, ?_⟩
    · simp [Moments.merge, hs.count, ht.count]
    · simp only [Moments.merge, hs.count, ht.count, List.length_append, List.sum_append, ← hs.mean, ← ht.mean,
        Nat.cast_add]
      field_simp
      ring
    · simp only [Moments.merge, hs.count, ht.count, hs.squares_eq, ht.squares_eq, List.length_append, List.map_append,
        List.sum_append, Nat.cast_add]
      field_simp
      ring

/-- Value by value. -/
theorem IsOf.foldl_add (h : s.IsOf values) (more : List Rat) :
    (more.foldl (Moments.add Nat.cast) s).IsOf (values ++ more) := by
  induction more generalizing s values with
  | nil =>
    rw [List.append_nil]
    exact h
  | cons x rest ih =>
    have hrest := ih (h.add x)
    rw [List.append_assoc, List.singleton_append] at hrest
    exact hrest

/-- Run by run. -/
theorem IsOf.foldl_merge (h : s.IsOf values) (runs : List (List Rat)) :
    ((runs.map (ofRun 0 Nat.cast)).foldl (Moments.merge Nat.cast) s).IsOf (values ++ runs.flatten) := by
  induction runs generalizing s values with
  | nil =>
    rw [List.flatten_nil, List.append_nil]
    exact h
  | cons run rest ih =>
    have hrest := ih (h.merge (isOf_ofRun run))
    rw [List.append_assoc, ← List.flatten_cons] at hrest
    exact hrest

/-- Either way to take moments gives those of the values. -/
theorem isOf_ofValues (how : Summation) (values : List Rat) : (ofValues 0 Nat.cast how values).IsOf values := by
  cases how with
  | serial gaps => exact isOf_empty.foldl_add values
  | blocked =>
    have h := isOf_empty.foldl_merge (runsOf Summation.blockSize values)
    rw [flatten_runsOf] at h
    exact h

/-- In exact arithmetic, either way to take moments gives the variance of the sample. -/
theorem variance_ofValues (how : Summation) {values : List Rat} (h : 2 ≤ values.length) :
    (ofValues 0 Nat.cast how values).variance Nat.cast = sampleVariance values := by
  have hof := isOf_ofValues how values
  have hne : (values.length : Rat) ≠ 0 := Nat.cast_ne_zero.2 (by omega)
  have hmean : (ofValues 0 Nat.cast how values).mean = values.sum / values.length := by
    rw [eq_div_iff hne, mul_comm]
    exact hof.mean
  unfold variance sampleVariance
  rw [hof.squares, hof.count, hmean, Nat.cast_sub (by omega), Nat.cast_one]

end Moments

end TieWalk
