/-!
# Finite sets as ascending lists

Code selections and pair sets are shown, compared and walked in ascending order, so a set is its strictly ascending list
of members. Two sets with the same members are then equal, and the order of a walk needs no argument. `ofList` forgets
the order and the repeats of a list; `mem_ofList` says that it forgets nothing else, and `ext` that members decide a
set.
-/

namespace TieWalk

/-- A finite set, held as the strictly ascending list of its members. -/
structure AscSet (α : Type) [Ord α] where
  /-- The members in ascending order. -/
  toList : List α
  /-- Each member is less than every later one. -/
  ascending : toList.Pairwise fun a b => compare a b = .lt

namespace AscSet

variable {α : Type} [Ord α]

instance [DecidableEq α] : DecidableEq (AscSet α) := fun s t =>
  decidable_of_iff (s.toList = t.toList) ⟨fun h => by cases s; cases t; simp_all, fun h => h ▸ rfl⟩

instance [Repr α] : Repr (AscSet α) := ⟨fun s n => reprPrec s.toList n⟩

instance : Membership α (AscSet α) := ⟨fun s a => a ∈ s.toList⟩

instance [DecidableEq α] (a : α) (s : AscSet α) : Decidable (a ∈ s) := inferInstanceAs (Decidable (a ∈ s.toList))

/-- The set without members. -/
def empty : AscSet α := ⟨[], .nil⟩

instance : Inhabited (AscSet α) := ⟨empty⟩

/-- The number of members. -/
def size (s : AscSet α) : Nat := s.toList.length

/-- A value put into its place in an ascending list, unless the list holds it. -/
def place (a : α) : List α → List α
  | [] => [a]
  | b :: l =>
    match compare a b with
    | .lt => a :: b :: l
    | .eq => b :: l
    | .gt => b :: place a l

section Laws

variable [Std.TransOrd α] [Std.LawfulEqOrd α]

omit [Std.TransOrd α] in
theorem mem_place {a x : α} {l : List α} : x ∈ place a l ↔ x = a ∨ x ∈ l := by
  induction l with
  | nil => simp [place]
  | cons b l ih =>
    unfold place
    split
    · simp
    · next h =>
      have := Std.LawfulEqOrd.eq_of_compare h
      subst this
      simp
    · simp only [List.mem_cons, ih]
      grind

theorem place_ascending {a : α} {l : List α} (h : l.Pairwise fun a b => compare a b = .lt) :
    (place a l).Pairwise fun a b => compare a b = .lt := by
  induction l with
  | nil => simp [place]
  | cons b l ih =>
    have hb := (List.pairwise_cons.1 h).1
    unfold place
    split
    · next hab => exact List.pairwise_cons.2 ⟨fun x hx => by
        rcases List.mem_cons.1 hx with rfl | hx
        · exact hab
        · exact Std.TransCmp.lt_trans hab (hb x hx), h⟩
    · exact h
    · next hab => exact List.pairwise_cons.2 ⟨fun x hx => by
        rcases mem_place.1 hx with rfl | hx
        · exact Std.OrientedCmp.lt_of_gt hab
        · exact hb x hx, ih (List.pairwise_cons.1 h).2⟩

/-- A set with one more member, or the same set if it has the member already. -/
def insert (a : α) (s : AscSet α) : AscSet α := ⟨place a s.toList, place_ascending s.ascending⟩

/-- The members of a list. -/
def ofList (l : List α) : AscSet α := l.foldr insert empty

@[simp] theorem mem_insert {a x : α} {s : AscSet α} : x ∈ s.insert a ↔ x = a ∨ x ∈ s := mem_place

@[simp] theorem mem_ofList {x : α} {l : List α} : x ∈ ofList l ↔ x ∈ l := by
  induction l with
  | nil => exact ⟨nofun, nofun⟩
  | cons a l ih => rw [List.mem_cons, ← ih]; exact mem_insert

/-- Sets with the same members are equal. -/
theorem ext {s t : AscSet α} (h : ∀ x, x ∈ s ↔ x ∈ t) : s = t := by
  obtain ⟨l, hl⟩ := s
  obtain ⟨m, hm⟩ := t
  suffices l = m by subst this; rfl
  replace h : ∀ x, x ∈ l ↔ x ∈ m := h
  induction l generalizing m with
  | nil =>
    cases m with
    | nil => rfl
    | cons b m => exact absurd ((h b).2 List.mem_cons_self) nofun
  | cons a l ih =>
    cases m with
    | nil => exact absurd ((h a).1 List.mem_cons_self) nofun
    | cons b m =>
      have ha := (List.pairwise_cons.1 hl).1
      have hb := (List.pairwise_cons.1 hm).1
      have irrefl : ∀ x : α, compare x x ≠ .lt := fun x hx => by simp [Std.ReflCmp.compare_self] at hx
      have hab : a = b := by
        rcases List.mem_cons.1 ((h a).1 List.mem_cons_self) with e | e
        · exact e
        · rcases List.mem_cons.1 ((h b).2 List.mem_cons_self) with e' | e'
          · exact e'.symm
          · exact absurd (Std.TransCmp.lt_trans (ha b e') (hb a e)) (irrefl a)
      subst hab
      congr 1
      refine ih (List.pairwise_cons.1 hl).2 m (List.pairwise_cons.1 hm).2 fun x => ⟨fun hx => ?_, fun hx => ?_⟩
      · rcases List.mem_cons.1 ((h x).1 (List.mem_cons_of_mem _ hx)) with e | e
        · exact absurd (e ▸ ha x hx) (irrefl a)
        · exact e
      · rcases List.mem_cons.1 ((h x).2 (List.mem_cons_of_mem _ hx)) with e | e
        · exact absurd (e ▸ hb x hx) (irrefl a)
        · exact e

/-- A set is the set of its list. -/
@[simp] theorem ofList_toList (s : AscSet α) : ofList s.toList = s := ext fun _ => mem_ofList

end Laws

/-- The members that pass a test. -/
def filter (p : α → Bool) (s : AscSet α) : AscSet α := ⟨s.toList.filter p, s.ascending.filter p⟩

/-- The members that two sets share. -/
def inter [DecidableEq α] (s t : AscSet α) : AscSet α := s.filter fun a => decide (a ∈ t)

@[simp] theorem mem_filter {p : α → Bool} {x : α} {s : AscSet α} : x ∈ s.filter p ↔ x ∈ s ∧ p x = true :=
  List.mem_filter

@[simp] theorem mem_inter [DecidableEq α] {x : α} {s t : AscSet α} : x ∈ s.inter t ↔ x ∈ s ∧ x ∈ t := by
  simp [inter]

end AscSet

end TieWalk
