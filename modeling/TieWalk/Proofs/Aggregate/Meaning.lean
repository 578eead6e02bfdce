import TieWalk.Aggregate.Value
import TieWalk.Proofs.Aggregate.Summation

/-!
# Sums, extremes and spreads of cells

What the steps of a statistic make of cells, in terms of the values among them: a sum of theirs (`SumsTo`), their total
(`TotalsTo`), one of them to which all stand in a relation (`IsExtreme`), and their number. Where numbers are rounded,
it is left open how they are added up, and nothing else.
-/

namespace TieWalk

/-! ## Sums of floating point numbers -/

/-- No values have no sum; values have one that is theirs. -/
def SumsTo {α : Type} [Add α] (zero : α) (values : List α) (sum? : Option α) : Prop :=
  (values = [] ∧ sum? = none) ∨ ∃ sum, values ≠ [] ∧ sum? = some sum ∧ IsSum zero values sum

section

variable {α : Type} [Add α] {zero : α} {cells : List (Option α)}

theorem filterMap_id_eq_nil_iff {β : Type} {cells : List (Option β)} :
    cells.filterMap id = [] ↔ cells.all Option.isNone = true := by
  rw [List.filterMap_eq_nil_iff, List.all_eq_true]
  simp [Option.isNone_iff_eq_none]

/-- The sum of a table of cells, absent ones counted as zero, is one of its values. -/
theorem isSum_ofCells : IsSum zero (cells.filterMap id) (Summation.ofCells zero cells) := by
  unfold Summation.ofCells
  split
  · next a => exact .one a
  · exact (isSum_inBlocks _).of_map_getD

/-- Values that are added one after another come to a sum of theirs. -/
theorem sumsTo_reduce? (values : List α) : SumsTo zero values (reduce? (· + ·) values) := by
  cases values with
  | nil => exact .inl ⟨rfl, rfl⟩
  | cons a rest => exact .inr ⟨_, List.cons_ne_nil a rest, rfl, (IsSum.one a).foldl rest⟩

/-- Either way to sum up gives a sum of the values. -/
theorem sumsTo_sum? (how : Summation) : SumsTo zero (cells.filterMap id) (how.sum? zero cells) := by
  unfold Summation.sum?
  split
  · next hnone => exact .inl ⟨filterMap_id_eq_nil_iff.2 hnone, rfl⟩
  · next hsome =>
    have hne : cells.filterMap id ≠ [] := fun hnil => hsome (filterMap_id_eq_nil_iff.1 hnil)
    cases how with
    | serial gaps => exact sumsTo_reduce? _
    | blocked => exact .inr ⟨_, hne, rfl, isSum_ofCells⟩

/-- What a mean divides is a sum of the values as well. -/
theorem sumsTo_meanSum? (how : Summation) : SumsTo zero (cells.filterMap id) (how.meanSum? zero cells) := by
  unfold Summation.meanSum?
  split
  · split
    · next hsome =>
      have hne : cells.filterMap id ≠ [] := by
        intro hnil
        have hnone := filterMap_id_eq_nil_iff.1 hnil
        rw [Bool.and_eq_true, List.any_eq_true] at hsome
        obtain ⟨-, cell, hcell, hsome⟩ := hsome
        rw [Option.isNone_iff_eq_none.1 (List.all_eq_true.1 hnone cell hcell)] at hsome
        cases hsome
      exact .inr ⟨_, hne, rfl, IsSum.zero.foldl _⟩
    · exact sumsTo_sum? _
  · exact sumsTo_sum? how

end

/-! ## Extremes -/

/-- No values have no extreme; values have one of them, to which all of them stand in a relation. -/
def IsExtreme {α : Type} (below : α → α → Prop) (values : List α) (extreme? : Option α) : Prop :=
  (values = [] ∧ extreme? = none) ∨ ∃ a ∈ values, extreme? = some a ∧ ∀ b ∈ values, below a b

/-- Of two values at a time, keep one that stands to both: one that stands to all is left. -/
theorem isExtreme_reduce? {α : Type} {below : α → α → Prop} {pick : α → α → α} (hrefl : ∀ a, below a a)
    (htrans : ∀ a b c, below a b → below b c → below a c)
    (hpick : ∀ a b, (pick a b = a ∨ pick a b = b) ∧ below (pick a b) a ∧ below (pick a b) b) (values : List α) :
    IsExtreme below values (reduce? pick values) := by
  cases values with
  | nil => exact .inl ⟨rfl, rfl⟩
  | cons first rest =>
    suffices h : ∀ (rest : List α) (a : α), rest.foldl pick a ∈ a :: rest ∧
        ∀ b ∈ a :: rest, below (rest.foldl pick a) b by
      exact .inr ⟨_, (h rest first).1, rfl, (h rest first).2⟩
    intro rest
    induction rest with
    | nil =>
      intro a
      refine ⟨List.mem_cons_self, fun b hb => ?_⟩
      rw [List.mem_singleton.1 hb]
      exact hrefl a
    | cons c rest ih =>
      intro a
      obtain ⟨hmem, hbelow⟩ := ih (pick a c)
      obtain ⟨hone, ha, hc⟩ := hpick a c
      rw [List.foldl_cons]
      refine ⟨?_, fun b hb => ?_⟩
      · rcases List.mem_cons.1 hmem with h | h
        · rw [h]
          rcases hone with h | h <;> simp [h]
        · exact List.mem_cons_of_mem _ (List.mem_cons_of_mem _ h)
      · have hpicked := hbelow _ List.mem_cons_self
        rcases List.mem_cons.1 hb with rfl | hb
        · exact htrans _ _ _ hpicked ha
        · rcases List.mem_cons.1 hb with rfl | hb
          · exact htrans _ _ _ hpicked hc
          · exact hbelow b (List.mem_cons_of_mem _ hb)

namespace ColumnType

/-- Values of the type have an order that is total: whole numbers, texts and truth values. -/
def isOrdered : ColumnType → Bool
  | .int _ | .text | .bool => true
  | _ => false

/-- The order of a type's values: of numbers that of their sizes, of texts that of texts, and false before true. -/
def atMost : (t : ColumnType) → t.Carrier → t.Carrier → Prop
  | .int _, a, b => a.toInt ≤ b.toInt
  | .text, a, b => a ≤ b
  | .bool, a, b => a = true → b = true
  | _, _, _ => False

variable {t : ColumnType}

theorem atMost_refl (h : t.isOrdered = true) (a : t.Carrier) : t.atMost a a := by
  cases t with
  | int t => exact Int.le_refl a.toInt
  | text => exact String.le_refl a
  | bool => exact id
  | float32 | float64 | null | date | datetime | duration | time | binary | longList => cases h

theorem atMost_trans (h : t.isOrdered = true) (a b c : t.Carrier) (hab : t.atMost a b) (hbc : t.atMost b c) :
    t.atMost a c := by
  cases t with
  | int t => exact Int.le_trans hab hbc
  | text => exact String.le_trans hab hbc
  | bool => exact fun ha => hbc (hab ha)
  | float32 | float64 | null | date | datetime | duration | time | binary | longList => cases h

/-- The smaller of two values is one of them and at most both. -/
theorem lesser_atMost (h : t.isOrdered = true) (a b : t.Carrier) :
    (t.lesser a b = a ∨ t.lesser a b = b) ∧ t.atMost (t.lesser a b) a ∧ t.atMost (t.lesser a b) b := by
  cases t with
  | int t =>
    unfold lesser atMost
    simp only
    split
    · next hlt => exact ⟨.inr rfl, Int.le_of_lt hlt, Int.le_refl _⟩
    · next hlt => exact ⟨.inl rfl, Int.le_refl _, Int.not_lt.1 hlt⟩
  | text =>
    unfold lesser atMost
    simp only
    split
    · next hlt => exact ⟨.inr rfl, Std.le_of_lt hlt, String.le_refl _⟩
    · next hlt => exact ⟨.inl rfl, String.le_refl _, String.not_lt.1 hlt⟩
  | bool => cases a <;> cases b <;> simp [lesser, atMost]
  | float32 | float64 | null | date | datetime | duration | time | binary | longList => cases h

/-- The greater of two values is one of them, and both are at most it. -/
theorem atMost_greater (h : t.isOrdered = true) (a b : t.Carrier) :
    (t.greater a b = a ∨ t.greater a b = b) ∧ t.atMost a (t.greater a b) ∧ t.atMost b (t.greater a b) := by
  cases t with
  | int t =>
    unfold greater atMost
    simp only
    split
    · next hlt => exact ⟨.inr rfl, Int.le_of_lt hlt, Int.le_refl _⟩
    · next hlt => exact ⟨.inl rfl, Int.le_refl _, Int.not_lt.1 hlt⟩
  | text =>
    unfold greater atMost
    simp only
    split
    · next hlt => exact ⟨.inr rfl, Std.le_of_lt hlt, String.le_refl _⟩
    · next hlt => exact ⟨.inl rfl, String.le_refl _, String.not_lt.1 hlt⟩
  | bool => cases a <;> cases b <;> simp [greater, atMost]
  | float32 | float64 | null | date | datetime | duration | time | binary | longList => cases h

/-- The smaller of two values at a time: one is left that is at most all. -/
theorem isExtreme_atMost (h : t.isOrdered = true) (values : List t.Carrier) :
    IsExtreme t.atMost values (reduce? t.lesser values) :=
  isExtreme_reduce? (atMost_refl h) (atMost_trans h) (lesser_atMost h) values

/-- The greater of two values at a time: one is left that all are at most. -/
theorem isExtreme_atLeast (h : t.isOrdered = true) (values : List t.Carrier) :
    IsExtreme (fun a b => t.atMost b a) values (reduce? t.greater values) := by
  have htrans : ∀ a b c, t.atMost b a → t.atMost c b → t.atMost c a := by
    intro a b c hba hcb
    exact atMost_trans h c b a hcb hba
  exact @isExtreme_reduce? _ (fun a b => t.atMost b a) _ (atMost_refl h) htrans (atMost_greater h) values

end ColumnType

/-! ## Whole numbers -/

/-- No numbers have no total; numbers have their sum, where the type holds it. -/
def TotalsTo (t : IntType) (numbers : List Int) (total? : Option t.Value) : Prop :=
  (numbers = [] ∧ total? = none) ∨ ∃ total, numbers ≠ [] ∧ total? = some total ∧
    (t.least ≤ numbers.sum → numbers.sum ≤ t.greatest → total.toInt = numbers.sum)

/-- The sum of the numbers of cells is their total. -/
theorem totalsTo_wholeSum? {α : Type} {t : IntType} (number : α → Int) (cells : List (Option α)) :
    TotalsTo t ((cells.filterMap id).map number) (ColumnType.wholeSum? t number cells) := by
  unfold ColumnType.wholeSum?
  split
  · next hnone => exact .inl ⟨by rw [filterMap_id_eq_nil_iff.2 hnone, List.map_nil], rfl⟩
  · next hsome =>
    refine .inr ⟨_, ?_, rfl, fun hleast hgreatest => ?_⟩
    · rw [ne_eq, List.map_eq_nil_iff]
      exact fun hnil => hsome (filterMap_id_eq_nil_iff.1 hnil)
    · have hsum : (cells.filterMap id).foldr (fun a n => number a + n) 0 = ((cells.filterMap id).map number).sum := by
        rw [List.sum_eq_foldr, List.foldr_map]
      rw [hsum]
      exact IntType.toInt_wrap hleast hgreatest

/-! ## Spreads -/

namespace Spread

/-- Values that are added one by one are counted one by one. -/
theorem count_foldl_add (values : List Float) (s : Spread) : (values.foldl add s).count = s.count + values.length := by
  induction values generalizing s with
  | nil => rfl
  | cons x rest ih =>
    rw [List.foldl_cons, ih, List.length_cons]
    show s.count + 1 + rest.length = s.count + (rest.length + 1)
    omega

/-- Runs that are put together are counted together. -/
theorem count_foldl_merge (runs : List (List Float)) (s : Spread) :
    ((runs.map ofRun).foldl merge s).count = s.count + runs.flatten.length := by
  induction runs generalizing s with
  | nil => rfl
  | cons run rest ih =>
    rw [List.map_cons, List.foldl_cons, ih, List.flatten_cons, List.length_append]
    show s.count + run.length + rest.flatten.length = s.count + (run.length + rest.flatten.length)
    omega

/-- A spread counts its values, whichever way it is taken. -/
theorem count_ofValues (how : Summation) (values : List Float) : (ofValues how values).count = values.length := by
  cases how with
  | serial gaps =>
    show (values.foldl add empty).count = values.length
    rw [count_foldl_add]
    exact Nat.zero_add _
  | blocked =>
    show (((runsOf Summation.blockSize values).map ofRun).foldl merge empty).count = values.length
    rw [count_foldl_merge, flatten_runsOf]
    exact Nat.zero_add _

end Spread

/-! ## Sums, means and deviations of cells -/

/-- The sum of values of a type: of whole numbers where its type holds it, of floating point numbers one of their sums,
of lengths of time that of their counts, and of truth values the number of those that are true. Other types have none.
-/
def ColumnType.IsSumOf : (t : ColumnType) → List t.Carrier → Option t.sumType.Carrier → Prop
  | .int t, values, r => TotalsTo t.sumType (values.map IntType.Value.toInt) r
  | .float32, values, r => SumsTo 0.0 values r
  | .float64, values, r => SumsTo 0.0 values r
  | .bool, values, r => TotalsTo .u32 (values.map fun b => if b then 1 else 0) r
  | .duration _, values, r => TotalsTo .i64 (values.map IntType.Value.toInt) r
  | .text, _, r | .null, _, r | .date, _, r | .datetime _ _, _, r | .time, _, r | .binary, _, r
  | .longList, _, r => r = none

/-- The sum of cells is that of the values among them, whichever way it is taken. -/
theorem ColumnType.isSumOf_sum? (t : ColumnType) (how : Summation) (cells : List (Option t.Carrier)) :
    t.IsSumOf (cells.filterMap id) (t.sum? how cells) := by
  cases t with
  | int t => exact totalsTo_wholeSum? IntType.Value.toInt cells
  | bool => exact totalsTo_wholeSum? bit cells
  | duration unit => exact totalsTo_wholeSum? IntType.Value.toInt cells
  | float32 | float64 => exact sumsTo_sum? how
  | text | null | date | datetime | time | binary | longList => rfl

/-- The values of cells that are read as doubles. -/
theorem filterMap_toFloat? {t : ColumnType} (cells : List (Option t.Carrier)) :
    cells.filterMap (fun cell => cell.bind (t.toFloat? ·)) = (cells.filterMap id).filterMap (t.toFloat? ·) := by
  rw [List.filterMap_filterMap]
  apply List.filterMap_congr
  intro cell _
  cases cell <;> rfl

/-- A mean is a sum of the doubles among cells, divided by their number. -/
theorem exists_sum_of_mean? (how : Summation) (cells : List (Option Float)) :
    ∃ sum?, SumsTo 0.0 (cells.filterMap id) sum? ∧
      how.mean? cells = sum?.map (· / Float.ofNat (cells.filterMap id).length) :=
  ⟨_, sumsTo_meanSum? how, rfl⟩

/-- One value, or none, has no deviation. -/
theorem Spread.deviation?_eq_none_iff (how : Summation) (values : List Float) :
    (ofValues how values).deviation? = none ↔ values.length ≤ 1 := by
  unfold deviation?
  rw [count_ofValues]
  split
  · next hle => exact ⟨fun _ => hle, fun _ => rfl⟩
  · next hle => exact ⟨nofun, fun h => absurd h hle⟩

end TieWalk
