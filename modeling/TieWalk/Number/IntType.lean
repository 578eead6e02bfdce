/-!
# Machine integers

The eight integer types of table columns, each as the interval of whole numbers that it holds. A value carries the proof
that it lies there, so that widening loses nothing by construction and narrowing has to say what becomes of the rest:
`ofInt?` refuses it, `wrap` takes it modulo the size of the type.
-/

namespace TieWalk

/-- An integer type: signed or unsigned, of 8 to 64 bits. -/
inductive IntType where
  | i8 | i16 | i32 | i64 | u8 | u16 | u32 | u64
  deriving DecidableEq, Repr

namespace IntType

/-- Every integer type. -/
def all : List IntType := [.i8, .i16, .i32, .i64, .u8, .u16, .u32, .u64]

/-- The width in bits. -/
def bits : IntType → Nat
  | .i8 | .u8 => 8
  | .i16 | .u16 => 16
  | .i32 | .u32 => 32
  | .i64 | .u64 => 64

/-- The number of values. -/
def size : IntType → Int
  | .i8 | .u8 => 0x100
  | .i16 | .u16 => 0x10000
  | .i32 | .u32 => 0x100000000
  | .i64 | .u64 => 0x10000000000000000

/-- Negative numbers are among the values. -/
def isSigned : IntType → Bool
  | .i8 | .i16 | .i32 | .i64 => true
  | .u8 | .u16 | .u32 | .u64 => false

/-- The least value. -/
def least : IntType → Int
  | .i8 => -0x80
  | .i16 => -0x8000
  | .i32 => -0x80000000
  | .i64 => -0x8000000000000000
  | .u8 | .u16 | .u32 | .u64 => 0

/-- The greatest value. -/
def greatest (t : IntType) : Int := t.least + t.size - 1

/-- The short name: a letter for the sign and the width. -/
def name (t : IntType) : String := (if t.isSigned then "i" else "u") ++ toString t.bits

/-- The long name. -/
def longName (t : IntType) : String := (if t.isSigned then "Int" else "UInt") ++ toString t.bits

/-- A value of an integer type. -/
@[ext]
structure Value (t : IntType) where
  toInt : Int
  least_le : t.least ≤ toInt
  le_greatest : toInt ≤ t.greatest
  deriving DecidableEq

namespace Value

variable {t : IntType}

instance : Repr (Value t) := ⟨fun v n => reprPrec v.toInt n⟩

instance : Ord (Value t) := ⟨compareOn Value.toInt⟩

theorem compare_eq (a b : Value t) : compare a b = compare a.toInt b.toInt := rfl

instance : Std.TransOrd (Value t) := inferInstanceAs (Std.TransCmp (compareOn Value.toInt))

instance : Std.LawfulEqOrd (Value t) where
  eq_of_compare {a b} h := Value.ext (Std.LawfulEqOrd.eq_of_compare (compare_eq a b ▸ h))

/-- The nearest double; a number halfway between two goes to the even one. -/
def toFloat (v : Value t) : Float :=
  let size := (UInt64.ofNat v.toInt.natAbs).toFloat
  if v.toInt < 0 then -size else size

end Value

/-- The value of a number that lies in the type's interval. -/
def ofInt? (t : IntType) (n : Int) : Option t.Value :=
  if h : t.least ≤ n ∧ n ≤ t.greatest then some ⟨n, h.1, h.2⟩ else none

theorem size_pos (t : IntType) : 0 < t.size := by cases t <;> decide

/-- The value that differs from a number by a multiple of the type's size. -/
def wrap (t : IntType) (n : Int) : t.Value where
  toInt := t.least + (n - t.least) % t.size
  least_le := by
    have := Int.emod_nonneg (n - t.least) (Int.ne_of_gt t.size_pos)
    omega
  le_greatest := by
    have := Int.emod_lt_of_pos (n - t.least) t.size_pos
    unfold greatest
    omega

/-- A number that the type holds is its own value. -/
theorem toInt_wrap {t : IntType} {n : Int} (h : t.least ≤ n) (h' : n ≤ t.greatest) : (t.wrap n).toInt = n := by
  unfold greatest at h'
  show t.least + (n - t.least) % t.size = n
  rw [Int.emod_eq_of_lt (by omega) (by omega)]
  omega

@[simp] theorem ofInt?_toInt {t : IntType} (v : t.Value) : t.ofInt? v.toInt = some v := by
  simp [ofInt?, v.least_le, v.le_greatest]

theorem toInt_of_ofInt? {t : IntType} {n : Int} {v : t.Value} (h : t.ofInt? n = some v) : v.toInt = n := by
  unfold ofInt? at h
  split at h
  · cases h; rfl
  · cases h

/-- Every type but the widest unsigned one lies within the widest signed one. -/
theorem exists_long {t : IntType} (ht : t ≠ .u64) (v : t.Value) : ∃ w, IntType.i64.ofInt? v.toInt = some w := by
  have h₁ := v.least_le
  have h₂ := v.le_greatest
  have : IntType.i64.least ≤ t.least ∧ t.greatest ≤ IntType.i64.greatest := by
    cases t <;> first | decide | exact absurd rfl ht
  exact ⟨⟨v.toInt, by omega, by omega⟩, by simp only [ofInt?]; rw [dif_pos]; omega⟩

end IntType

/-- A signed word of 64 bits: identifiers of persons, and counts. -/
abbrev Long := IntType.i64.Value

namespace Long

/-- The word of a number that fits. -/
def ofInt? (n : Int) : Option Long := IntType.i64.ofInt? n

/-- The word of a count; counts stay far below the greatest word. -/
def ofCount (n : Nat) : Long := IntType.i64.wrap n

end Long

end TieWalk
