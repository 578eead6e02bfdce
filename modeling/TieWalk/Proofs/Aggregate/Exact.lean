import TieWalk.Proofs.Aggregate.Meaning
import TieWalk.Proofs.Aggregate.Moments
import TieWalk.Proofs.Number.FloatOrder
import TieWalk.Proofs.Text.Encoding

/-!
# What statistics are, type by type

A statistic that accepts a type, in the terms of a query: the number of the values, their sum, exact for whole numbers,
their mean, their least and greatest in the order of the type, and the deviation of a sample. Floating point numbers are
ordered by their size, what is not a number gives way to what is one, and their sums, means and deviations are those of
arithmetic that rounds.
-/

namespace TieWalk

/-! ## The order of values -/

namespace ColumnType

/-- The order of the values of a type: numbers by size, texts by their bytes, false before true. -/
def Before : (t : ColumnType) → t.Carrier → t.Carrier → Prop
  | .int _, a, b => a.toInt < b.toInt
  | .float32, a, b => a < b
  | .float64, a, b => a < b
  | .text, a, b => Text.encode a < Text.encode b
  | .bool, a, b => a = false ∧ b = true
  | .null, _, _ | .date, _, _ | .datetime _ _, _, _ | .duration _, _, _ | .time, _, _ | .binary, _, _
  | .longList, _, _ => False

/-- A value that is not a number gives way to others. -/
def GivesWay : (t : ColumnType) → t.Carrier → Prop
  | .float32, x => x.isNaN = true
  | .float64, x => x.isNaN = true
  | .int _, _ | .text, _ | .bool, _ | .null, _ | .date, _ | .datetime _ _, _ | .duration _, _ | .time, _ | .binary, _
  | .longList, _ => False

/-- A value is not after another one, or the other one gives way. -/
def NotAfter (t : ColumnType) (a b : t.Carrier) : Prop := t.GivesWay b ∨ (¬t.GivesWay a ∧ ¬t.Before b a)

/-- A value is not before another one, or the other one gives way. -/
def NotBefore (t : ColumnType) (a b : t.Carrier) : Prop := t.GivesWay b ∨ (¬t.GivesWay a ∧ ¬t.Before a b)

variable {t : ColumnType}

/-- Values of a type with an order are all there to be compared. -/
theorem not_givesWay (h : t.isOrdered = true) (a : t.Carrier) : ¬t.GivesWay a := by
  cases t with
  | int | text | bool => exact id
  | float32 | float64 | null | date | datetime | duration | time | binary | longList => cases h

/-- What is at most another value is not after it. -/
theorem not_before_of_atMost (h : t.isOrdered = true) {a b : t.Carrier} (hab : t.atMost a b) : ¬t.Before b a := by
  cases t with
  | int t => exact Int.not_lt.2 hab
  | text =>
    intro hlt
    exact String.not_lt.2 hab (Text.encode_lt_encode_iff.1 hlt)
  | bool =>
    rintro ⟨hb, ha⟩
    have := hab ha
    rw [hb] at this
    cases this
  | float32 | float64 | null | date | datetime | duration | time | binary | longList => cases h

end ColumnType

theorem IsExtreme.imp {α : Type} {below below' : α → α → Prop} {values : List α} {extreme? : Option α}
    (h : IsExtreme below values extreme?) (himp : ∀ a b, below a b → below' a b) :
    IsExtreme below' values extreme? := by
  rcases h with h | ⟨a, ha, hsome, hall⟩
  · exact .inl h
  · exact .inr ⟨a, ha, hsome, fun b hb => himp a b (hall b hb)⟩

/-! ## Extremes of floating point numbers -/

section

open Float.Model

variable {α : Type} {unpack : α → UnpackedFloat} {pick : α → α → α}

/-- Of two numbers at a time, the second if it is at most the first: a number is left that no number is less than. -/
theorem isExtreme_least_unpack
    (hpick : ∀ a b, pick a b = if (unpack a).isNaN = true ∨ (unpack b).le (unpack a) = true then b else a)
    (values : List α) :
    IsExtreme (fun a b => (unpack b).isNaN = true ∨ (¬(unpack a).isNaN = true ∧ ¬(unpack b).lt (unpack a) = true))
      values (reduce? pick values) := by
  suffices h : IsExtreme (fun a b => (unpack b).isNaN = true ∨ (unpack a).le (unpack b) = true) values
      (reduce? pick values) by
    refine h.imp fun a b => Or.imp_right fun hab => ⟨?_, FloatPlace.not_lt_of_le hab⟩
    rw [(FloatPlace.isNaN_of_le hab).1]
    exact Bool.false_ne_true
  refine isExtreme_reduce? (fun a => FloatPlace.isNaN_or_le_self (unpack a)) ?_ ?_ values
  · rintro a b c (hb | hab) (hc | hbc)
    · exact .inl hc
    · rw [(FloatPlace.isNaN_of_le hbc).1] at hb
      cases hb
    · exact .inl hc
    · exact .inr (FloatPlace.le_trans hab hbc)
  · intro a b
    rw [hpick]
    split
    · next h => exact ⟨.inr rfl, h, FloatPlace.isNaN_or_le_self (unpack b)⟩
    · next h =>
      obtain ⟨ha, hle⟩ := not_or.1 h
      refine ⟨.inl rfl, FloatPlace.isNaN_or_le_self (unpack a), ?_⟩
      cases hb : (unpack b).isNaN with
      | true => exact .inl rfl
      | false =>
        rcases FloatPlace.lt_or_le (Bool.not_eq_true _ ▸ ha) hb with hlt | hle'
        · exact .inr (FloatPlace.le_of_lt hlt)
        · exact absurd hle' hle

/-- Of two numbers at a time, the first if it is greater than the second: a number is left that is less than no number.
-/
theorem isExtreme_greatest_unpack
    (hpick : ∀ a b, pick a b = if (unpack b).isNaN = true ∨ (unpack b).lt (unpack a) = true then a else b)
    (values : List α) :
    IsExtreme (fun a b => (unpack b).isNaN = true ∨ (¬(unpack a).isNaN = true ∧ ¬(unpack a).lt (unpack b) = true))
      values (reduce? pick values) := by
  suffices h : IsExtreme (fun a b => (unpack b).isNaN = true ∨ (unpack b).le (unpack a) = true) values
      (reduce? pick values) by
    refine h.imp fun a b => Or.imp_right fun hba => ⟨?_, FloatPlace.not_lt_of_le hba⟩
    rw [(FloatPlace.isNaN_of_le hba).2]
    exact Bool.false_ne_true
  refine isExtreme_reduce? (fun a => FloatPlace.isNaN_or_le_self (unpack a)) ?_ ?_ values
  · rintro a b c (hb | hba) (hc | hcb)
    · exact .inl hc
    · rw [(FloatPlace.isNaN_of_le hcb).2] at hb
      cases hb
    · exact .inl hc
    · exact .inr (FloatPlace.le_trans hcb hba)
  · intro a b
    rw [hpick]
    split
    · next h => exact ⟨.inl rfl, FloatPlace.isNaN_or_le_self (unpack a), h.imp_right FloatPlace.le_of_lt⟩
    · next h =>
      obtain ⟨hb, hlt⟩ := not_or.1 h
      refine ⟨.inr rfl, ?_, FloatPlace.isNaN_or_le_self (unpack b)⟩
      cases ha : (unpack a).isNaN with
      | true => exact .inl rfl
      | false => exact .inr ((FloatPlace.lt_or_le (Bool.not_eq_true _ ▸ hb) ha).resolve_left hlt)

end

/-! ## Statistics -/

namespace ColumnType

variable {t : ColumnType}

theorem notAfter_of_atMost (h : t.isOrdered = true) {a b : t.Carrier} (hab : t.atMost a b) : t.NotAfter a b :=
  .inr ⟨not_givesWay h a, not_before_of_atMost h hab⟩

theorem notBefore_of_atMost (h : t.isOrdered = true) {a b : t.Carrier} (hba : t.atMost b a) : t.NotBefore a b :=
  .inr ⟨not_givesWay h a, not_before_of_atMost h hba⟩

/-- The smaller of two values at a time leaves one that no value is before. -/
theorem isExtreme_lesser (h : Statistic.least.accepts t = true) (values : List t.Carrier) :
    IsExtreme t.NotAfter values (reduce? t.lesser values) := by
  cases t with
  | int | text | bool => exact (isExtreme_atMost rfl values).imp fun a b => notAfter_of_atMost rfl
  | float32 =>
    refine (@isExtreme_least_unpack _ (fun x : Float32 => x.toModel.unpack) _ ?_ values).imp ?_
    · intro a b
      show (if (a.isNaN || decide (b ≤ a)) = true then b else a) = _
      simp only [Bool.or_eq_true, decide_eq_true_iff, FloatPlace.le_float32_iff]
      rfl
    · exact fun a b => Or.imp_right fun ⟨ha, hlt⟩ => ⟨ha, fun h => hlt (FloatPlace.lt_float32_iff.1 h)⟩
  | float64 =>
    refine (@isExtreme_least_unpack _ (fun x : Float => x.toModel.unpack) _ ?_ values).imp ?_
    · intro a b
      show (if (a.isNaN || decide (b ≤ a)) = true then b else a) = _
      simp only [Bool.or_eq_true, decide_eq_true_iff, FloatPlace.le_float_iff]
      rfl
    · exact fun a b => Or.imp_right fun ⟨ha, hlt⟩ => ⟨ha, fun h => hlt (FloatPlace.lt_float_iff.1 h)⟩
  | null =>
    cases values with
    | nil => exact .inl ⟨rfl, rfl⟩
    | cons v rest => exact nomatch v
  | date | datetime | duration | time | binary | longList => cases h

/-- The greater of two values at a time leaves one that is before no value. -/
theorem isExtreme_greater (h : Statistic.greatest.accepts t = true) (values : List t.Carrier) :
    IsExtreme t.NotBefore values (reduce? t.greater values) := by
  cases t with
  | int | text | bool => exact (isExtreme_atLeast rfl values).imp fun a b => notBefore_of_atMost rfl
  | float32 =>
    refine (@isExtreme_greatest_unpack _ (fun x : Float32 => x.toModel.unpack) _ ?_ values).imp ?_
    · intro a b
      show (if (b.isNaN || decide (b < a)) = true then a else b) = _
      simp only [Bool.or_eq_true, decide_eq_true_iff, FloatPlace.lt_float32_iff]
      rfl
    · exact fun a b => Or.imp_right fun ⟨ha, hlt⟩ => ⟨ha, fun h => hlt (FloatPlace.lt_float32_iff.1 h)⟩
  | float64 =>
    refine (@isExtreme_greatest_unpack _ (fun x : Float => x.toModel.unpack) _ ?_ values).imp ?_
    · intro a b
      show (if (b.isNaN || decide (b < a)) = true then a else b) = _
      simp only [Bool.or_eq_true, decide_eq_true_iff, FloatPlace.lt_float_iff]
      rfl
    · exact fun a b => Or.imp_right fun ⟨ha, hlt⟩ => ⟨ha, fun h => hlt (FloatPlace.lt_float_iff.1 h)⟩
  | null =>
    cases values with
    | nil => exact .inl ⟨rfl, rfl⟩
    | cons v rest => exact nomatch v
  | date | datetime | duration | time | binary | longList => cases h

/-- The double of a number: a double is itself, and any other number the nearest one. -/
def IsDouble : (t : ColumnType) → t.Carrier → Float → Prop
  | .int _, v, x => x = v.toFloat
  | .float32, v, x => x = v.toFloat
  | .float64, v, x => x = v
  | .null, v, _ => nomatch v
  | .text, _, _ | .bool, _, _ | .date, _, _ | .datetime _ _, _, _ | .duration _, _, _ | .time, _, _ | .binary, _, _
  | .longList, _, _ => False

/-- Doubles that are those of values, one for each. -/
def AreDoublesOf (t : ColumnType) (doubles : List Float) (values : List t.Carrier) : Prop :=
  List.Forall₂ t.IsDouble values doubles

/-- A value of a numeric type is read as its double. -/
theorem exists_isDouble (h : t.isNumeric = true) (v : t.Carrier) : ∃ x, t.toFloat? v = some x ∧ t.IsDouble v x := by
  cases t with
  | int | float32 | float64 => exact ⟨_, rfl, rfl⟩
  | null => exact nomatch v
  | text | bool | date | datetime | duration | time | binary | longList => cases h

/-- Every value of a numeric type has a double. -/
theorem areDoublesOf_filterMap (h : t.isNumeric = true) (values : List t.Carrier) :
    t.AreDoublesOf (values.filterMap (t.toFloat? ·)) values := by
  induction values with
  | nil => exact .nil
  | cons v rest ih =>
    obtain ⟨x, hx, hdouble⟩ := exists_isDouble h v
    rw [List.filterMap_cons_some hx]
    exact .cons hdouble ih

end ColumnType

namespace Statistic

/-- What a statistic of values is, in the terms of a query. A count is as it stands where a long word holds it, and so
is a sum of whole numbers where its type does. A mean is a sum of the values as doubles, divided by their number, and a
deviation the root of their variance, both with the operations of doubles. -/
def IsOf : (s : Statistic) → (t : ColumnType) → List t.Carrier → Option (s.resultType t).Carrier → Prop
  | .count, _, values, r => ∃ n : Long, r = some n ∧
    ((values.length : Int) ≤ IntType.i64.greatest → n.toInt = values.length)
  | .sum, t, values, r => t.IsSumOf values r
  | .mean, t, values, r =>
    ∃ doubles sum?, t.AreDoublesOf doubles values ∧ SumsTo 0.0 doubles sum? ∧
      r = sum?.map (· / Float.ofNat values.length)
  | .deviation, t, values, r =>
    (values.length < 2 ∧ r = none) ∨ (2 ≤ values.length ∧ ∃ doubles how, t.AreDoublesOf doubles values ∧
      r = some (Float.sqrt ((Moments.ofValues 0.0 Float.ofNat how doubles).variance Float.ofNat)))
  | .least, t, values, r => IsExtreme t.NotAfter values r
  | .greatest, t, values, r => IsExtreme t.NotBefore values r

variable {t : ColumnType} (how : Summation) (cells : List (Option t.Carrier))

/-- The mean of cells of numbers is that of the values among them. -/
theorem isOf_mean (h : t.isNumeric = true) : IsOf .mean t (cells.filterMap id) (value? .mean t how cells) := by
  have hcells : (cells.map fun cell => cell.bind (t.toFloat? ·)).filterMap id =
      (cells.filterMap id).filterMap (t.toFloat? ·) := by
    rw [List.filterMap_map]
    exact filterMap_toFloat? cells
  have hdoubles := ColumnType.areDoublesOf_filterMap h (cells.filterMap id)
  obtain ⟨sum?, hsum, hmean⟩ := exists_sum_of_mean? how (cells.map fun cell => cell.bind (t.toFloat? ·))
  rw [hcells] at hsum hmean
  rw [← List.Forall₂.length_eq hdoubles] at hmean
  exact ⟨_, sum?, hdoubles, hsum, hmean⟩

/-- The deviation of cells of numbers is that of the values among them. -/
theorem isOf_deviation (h : t.isNumeric = true) :
    IsOf .deviation t (cells.filterMap id) (value? .deviation t how cells) := by
  have hvalue : value? .deviation t how cells =
      (Spread.ofValues how ((cells.filterMap id).filterMap (t.toFloat? ·))).deviation? := by
    rw [← filterMap_toFloat?]
    rfl
  have hdoubles := ColumnType.areDoublesOf_filterMap h (cells.filterMap id)
  have hlength := List.Forall₂.length_eq hdoubles
  rw [hvalue]
  rcases Nat.lt_or_ge (cells.filterMap id).length 2 with hlt | hge
  · refine .inl ⟨hlt, (Spread.deviation?_eq_none_iff how _).2 ?_⟩
    omega
  · refine .inr ⟨hge, _, how, hdoubles, Spread.deviation?_ofValues how _ ?_⟩
    rw [Spread.count_ofValues, ← hlength]
    exact hge

/-- A statistic of cells of a type that it accepts is that of the values among them, whichever way they are summed up.
-/
theorem isOf_value? {s : Statistic} (h : s.accepts t = true) :
    s.IsOf t (cells.filterMap id) (s.value? t how cells) := by
  cases s with
  | count =>
    refine ⟨_, rfl, fun hle => ?_⟩
    exact IntType.toInt_wrap (Int.le_trans (by decide) (Int.natCast_nonneg _)) hle
  | sum => exact t.isSumOf_sum? how cells
  | mean => exact isOf_mean how cells h
  | deviation => exact isOf_deviation how cells h
  | least => exact ColumnType.isExtreme_lesser h _
  | greatest => exact ColumnType.isExtreme_greater h _

end Statistic

end TieWalk
