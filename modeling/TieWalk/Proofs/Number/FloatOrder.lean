import Mathlib.Order.Defs.LinearOrder
import Mathlib.Order.Compare

/-!
# The order of floating point numbers

A floating point number is taken apart into a sign, a whole number and an exponent. What is a number has a place in an
order: first by its kind, from the negative infinity to the positive one, then by its exponent and by its digits,
backwards where it is negative. Numbers of either width are compared by their places, so that comparing them is
reflexive, transitive and total; what is not a number is at most nothing, and nothing is at most it.
-/

namespace TieWalk

open Float.Model

namespace FloatPlace

/-- The kind of a number: negative infinity, negative, zero, positive, positive infinity. -/
def kind : UnpackedFloat → Int
  | .infinity .negative => -2
  | .finite .negative _ _ _ => -1
  | .zero _ | .notANumber => 0
  | .finite .positive _ _ _ => 1
  | .infinity .positive => 2

/-- The exponent, backwards for a negative number. -/
def exponent : UnpackedFloat → Int
  | .finite .negative _ e _ => -e
  | .finite .positive _ e _ => e
  | .infinity _ | .zero _ | .notANumber => 0

/-- The digits, backwards for a negative number. -/
def digits : UnpackedFloat → Int
  | .finite .negative m _ _ => -(m : Int)
  | .finite .positive m _ _ => m
  | .infinity _ | .zero _ | .notANumber => 0

/-- The order of places. -/
def order : UnpackedFloat → UnpackedFloat → Ordering :=
  compareLex (compareOn kind) (compareLex (compareOn exponent) (compareOn digits))

instance : Std.TransCmp order := inferInstanceAs (Std.TransCmp (compareLex _ _))

/-- Negation turns the order around. -/
theorem compare_neg (a b : Int) : compare (-a) (-b) = (compare a b).swap := by
  show compareOfLessAndEq (-a) (-b) = (compareOfLessAndEq a b).swap
  unfold compareOfLessAndEq
  split_ifs <;> first | rfl | omega

theorem compare_natCast (m n : Nat) : compare (m : Int) (n : Int) = compare m n := by
  show compareOfLessAndEq (m : Int) n = compareOfLessAndEq m n
  unfold compareOfLessAndEq
  split_ifs <;> first | rfl | omega

/-- Numbers are compared by their places. -/
theorem compare_eq_order {a b : UnpackedFloat} (ha : a.isNaN = false) (hb : b.isNaN = false) :
    a.compare b = some (order a b) := by
  cases a with
  | notANumber => cases ha
  | infinity s | zero s =>
    cases b with
    | notANumber => cases hb
    | infinity s' | zero s' | finite s' => cases s <;> cases s' <;> rfl
  | finite s m e =>
    cases b with
    | notANumber => cases hb
    | infinity s' | zero s' => cases s <;> cases s' <;> rfl
    | finite s' m' e' =>
      cases s with
      | negative =>
        cases s' with
        | positive => rfl
        | negative =>
          show some ((compare e e').then (compare m m')).swap =
            some ((compare (-e) (-e')).then (compare (-(m : Int)) (-(m' : Int))))
          rw [compare_neg, compare_neg, compare_natCast, Ordering.swap_then]
      | positive =>
        cases s' with
        | negative => rfl
        | positive =>
          show some ((compare e e').then (compare m m')) = some ((compare e e').then (compare (m : Int) (m' : Int)))
          rw [compare_natCast]

variable {a b c : UnpackedFloat}

/-- What is not a number is at most nothing, and nothing is at most it. -/
theorem isNaN_of_le (h : a.le b = true) : a.isNaN = false ∧ b.isNaN = false := by
  unfold UnpackedFloat.le at h
  cases a with
  | notANumber => cases h
  | infinity s | zero s | finite s =>
    cases b with
    | notANumber => cases s <;> cases h
    | infinity | zero | finite => exact ⟨rfl, rfl⟩

/-- Among numbers, to be at most another one is to be before it in the order, or in one place with it. -/
theorem le_iff_order (ha : a.isNaN = false) (hb : b.isNaN = false) : a.le b = true ↔ (order a b).isLE = true := by
  unfold UnpackedFloat.le
  rw [compare_eq_order ha hb, Option.any_some]

/-- Among numbers, to be less than another one is to be before it in the order. -/
theorem lt_iff_order (ha : a.isNaN = false) (hb : b.isNaN = false) : a.lt b = true ↔ order a b = .lt := by
  unfold UnpackedFloat.lt
  rw [compare_eq_order ha hb]
  simp

theorem le_refl (h : a.isNaN = false) : a.le a = true := by
  have hself : order a a = .eq := Std.ReflCmp.compare_self
  rw [le_iff_order h h, hself]
  rfl

/-- Everything is not a number or at most itself. -/
theorem isNaN_or_le_self (a : UnpackedFloat) : a.isNaN = true ∨ a.le a = true := by
  cases h : a.isNaN with
  | true => exact .inl rfl
  | false => exact .inr (le_refl h)

theorem le_trans (hab : a.le b = true) (hbc : b.le c = true) : a.le c = true := by
  obtain ⟨ha, hb⟩ := isNaN_of_le hab
  obtain ⟨-, hc⟩ := isNaN_of_le hbc
  rw [le_iff_order ha hb] at hab
  rw [le_iff_order hb hc] at hbc
  rw [le_iff_order ha hc]
  exact Std.TransCmp.isLE_trans hab hbc

/-- Of two numbers the first is less, or the second is at most it. -/
theorem lt_or_le (ha : a.isNaN = false) (hb : b.isNaN = false) : a.lt b = true ∨ b.le a = true := by
  have hswap : order b a = (order a b).swap := Std.OrientedCmp.eq_swap
  rw [lt_iff_order ha hb, le_iff_order hb ha, hswap]
  cases order a b <;> simp

/-- What is less is at most. -/
theorem le_of_lt (h : a.lt b = true) : a.le b = true := by
  unfold UnpackedFloat.lt at h
  unfold UnpackedFloat.le
  rw [beq_iff_eq.1 h]
  rfl

/-- What is at most something is not greater than it. -/
theorem not_lt_of_le (h : a.le b = true) : ¬b.lt a = true := by
  obtain ⟨ha, hb⟩ := isNaN_of_le h
  rw [le_iff_order ha hb] at h
  have hswap : order b a = (order a b).swap := Std.OrientedCmp.eq_swap
  rw [lt_iff_order hb ha, hswap]
  intro hlt
  cases horder : order a b <;> simp_all

/-! ## Both widths -/

/-- Doubles are ordered as what they unpack to. -/
theorem le_float_iff {x y : Float} : x ≤ y ↔ x.toModel.unpack.le y.toModel.unpack = true := by
  show decide (x.toModel ≤ y.toModel) = true ↔ _
  rw [decide_eq_true_iff]
  rfl

theorem lt_float_iff {x y : Float} : x < y ↔ x.toModel.unpack.lt y.toModel.unpack = true := by
  show decide (x.toModel < y.toModel) = true ↔ _
  rw [decide_eq_true_iff]
  rfl

/-- Singles are ordered as what they unpack to. -/
theorem le_float32_iff {x y : Float32} : x ≤ y ↔ x.toModel.unpack.le y.toModel.unpack = true := by
  show decide (x.toModel ≤ y.toModel) = true ↔ _
  rw [decide_eq_true_iff]
  rfl

theorem lt_float32_iff {x y : Float32} : x < y ↔ x.toModel.unpack.lt y.toModel.unpack = true := by
  show decide (x.toModel < y.toModel) = true ↔ _
  rw [decide_eq_true_iff]
  rfl

end FloatPlace

end TieWalk
