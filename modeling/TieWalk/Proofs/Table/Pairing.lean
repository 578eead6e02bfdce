import Mathlib.Data.List.Sort
import TieWalk.Proofs.Table.Frames
import TieWalk.Proofs.Table.Rows

/-!
# From the rows that are found to the rows in order

A join takes the rows that stand side by side as they are found, in any order, and sorts them by the numbers of the left
rows, those of one left row staying as they came. So no more is needed of a way to find rows than this
(`PairFinder.IsExact`): that it finds those which belong together, and the partners of one left row in their order. Then
the join is the ordered one (`Frame.joinBy_eq_orderedJoin`), whose rows are those of `joinedRows`. Looking up the rows
of the longer side is such a way (`PairFinder.isExact_hashed`), although it goes through the right rows when these are
no fewer.
-/

namespace TieWalk

/-! ## Sorting by number -/

section

variable {α β : Type} {a : Nat × α} {l : List (Nat × α)}

/-- To put a thing in its place adds it and nothing else. -/
theorem mem_placeByNumber {b : Nat × α} : b ∈ placeByNumber a l ↔ b = a ∨ b ∈ l := by
  induction l with
  | nil => simp [placeByNumber]
  | cons c rest ih =>
    unfold placeByNumber
    split
    · exact List.mem_cons
    · rw [List.mem_cons, ih, List.mem_cons]
      exact or_left_comm

/-- Sorting neither adds nor loses anything. -/
@[simp] theorem mem_sortByNumber {b : Nat × α} : b ∈ sortByNumber l ↔ b ∈ l := by
  induction l with
  | nil => exact Iff.rfl
  | cons a rest ih => rw [sortByNumber, mem_placeByNumber, ih, List.mem_cons]

/-- A relation between things of one number, put after the order of the numbers. -/
def ByNumber (R : Nat × α → Nat × α → Prop) (a b : Nat × α) : Prop := a.1 < b.1 ∨ (a.1 = b.1 ∧ R a b)

/-- A thing put in its place before others stays related to those of its number. -/
theorem pairwise_placeByNumber {R : Nat × α → Nat × α → Prop} (ha : ∀ b ∈ l, a.1 = b.1 → R a b)
    (hl : l.Pairwise (ByNumber R)) : (placeByNumber a l).Pairwise (ByNumber R) := by
  induction l with
  | nil => exact List.pairwise_singleton _ _
  | cons b rest ih =>
    obtain ⟨hb, hrest⟩ := List.pairwise_cons.1 hl
    unfold placeByNumber
    split
    · next hle =>
      refine List.pairwise_cons.2 ⟨fun c hc => ?_, hl⟩
      have hbc : b.1 ≤ c.1 := by
        rcases List.mem_cons.1 hc with rfl | hc
        · exact Nat.le_refl _
        · rcases hb c hc with hlt | ⟨heq, -⟩
          · exact Nat.le_of_lt hlt
          · exact Nat.le_of_eq heq
      rcases Nat.lt_or_eq_of_le (Nat.le_trans hle hbc) with hlt | heq
      · exact .inl hlt
      · exact .inr ⟨heq, ha c hc heq⟩
    · next hlt =>
      have hrest := ih (fun c hc => ha c (List.mem_cons_of_mem _ hc)) hrest
      refine List.pairwise_cons.2 ⟨fun c hc => ?_, hrest⟩
      rcases mem_placeByNumber.1 hc with rfl | hc
      · exact .inl (Nat.lt_of_not_le hlt)
      · exact hb c hc

/-- Sorting by number is stable: what is so of things of one number, in their order, is so afterwards. -/
theorem pairwise_sortByNumber {R : Nat × α → Nat × α → Prop} (h : l.Pairwise fun a b => a.1 = b.1 → R a b) :
    (sortByNumber l).Pairwise (ByNumber R) := by
  induction l with
  | nil => exact List.Pairwise.nil
  | cons a rest ih =>
    obtain ⟨ha, hrest⟩ := List.pairwise_cons.1 h
    exact pairwise_placeByNumber (fun b hb => ha b (mem_sortByNumber.1 hb)) (ih hrest)

/-- What is numbered does not matter for its place. -/
theorem sortByNumber_map (l : List (Nat × α)) (g : α → β) :
    sortByNumber (l.map fun a => (a.1, g a.2)) = (sortByNumber l).map fun a => (a.1, g a.2) := by
  have hplace : ∀ (a : Nat × α) (l : List (Nat × α)),
      placeByNumber (a.1, g a.2) (l.map fun a => (a.1, g a.2)) = (placeByNumber a l).map fun a => (a.1, g a.2) := by
    intro a l
    induction l with
    | nil => rfl
    | cons b rest ih =>
      rw [List.map_cons, placeByNumber, placeByNumber, ih]
      split <;> rfl
  induction l with
  | nil => rfl
  | cons a rest ih => rw [List.map_cons, sortByNumber, sortByNumber, ih, hplace]

end

/-- To sort rows by number is to sort their places by number, and then to take what stands there. -/
theorem map_sortByNumber_zipIdx {α β : Type} (rows : List (Nat × α)) (g : Nat × α → Option β) :
    (sortByNumber (rows.map Prod.fst).zipIdx).map (fun r => ((rows.map g)[r.2]?).join) = (sortByNumber rows).map g := by
  -- Both are read off the rows, each numbered as it is and with its place.
  let placed := rows.zipIdx.map fun x => (x.1.1, x)
  have hmem : ∀ z ∈ sortByNumber placed, rows[z.2.2]? = some z.2.1 ∧ z.1 = z.2.1.1 := by
    intro z hz
    obtain ⟨x, hx, rfl⟩ := List.mem_map.1 (mem_sortByNumber.1 hz)
    exact ⟨List.mem_zipIdx_iff_getElem?.1 hx, rfl⟩
  have hplaces : (rows.map Prod.fst).zipIdx = placed.map fun z => (z.1, z.2.2) := by
    rw [List.zipIdx_map, List.map_map]
    rfl
  have hrows : rows = placed.map fun z => (z.1, z.2.1.2) := by
    conv_lhs => rw [← List.zipIdx_map_fst 0 rows]
    rw [List.map_map]
    rfl
  rw [hplaces, sortByNumber_map placed fun x => x.2, List.map_map]
  conv_rhs => rw [hrows, sortByNumber_map placed fun x => x.1.2, List.map_map]
  apply List.map_congr_left
  intro z hz
  obtain ⟨hget, hnumber⟩ := hmem z hz
  simp only [Function.comp, List.getElem?_map, hget, hnumber]
  rfl

/-! ## Ways to find rows -/

/-- Rows of the same key belong together; in a left join, a left row that no right one belongs to is there alone. -/
def BelongTogether (kind : JoinKind) (left right : List (Option Key)) (i : Nat) : Option Nat → Prop
  | some j => ∃ key, left[i]? = some (some key) ∧ right[j]? = some (some key)
  | none => kind = .left ∧ i < left.length ∧ ∀ j : Nat, ¬∃ key, left[i]? = some (some key) ∧ right[j]? = some (some key)

/-- Both rows found have a right row, that of the first before that of the second. -/
def IsAhead (r s : Nat × Option Nat) : Prop := ∃ j k, r.2 = some j ∧ s.2 = some k ∧ j < k

/-- A way to find rows finds exactly those that belong together, each once, and the partners of one left row in their
order. How the partners of different left rows come after one another is left open. -/
structure PairFinder.IsExact (find : PairFinder) : Prop where
  mem_iff : ∀ kind left right i row?, (i, row?) ∈ find kind left right ↔ BelongTogether kind left right i row?
  ascending : ∀ kind left right, (find kind left right).Pairwise fun r s => r.1 = s.1 → IsAhead r s

instance : Std.Irrefl (ByNumber IsAhead) where
  irrefl := by
    rintro ⟨i, row?⟩ (h | ⟨-, j, k, hj, hk, hlt⟩)
    · exact Nat.lt_irrefl _ h
    · cases hj.symm.trans hk
      exact Nat.lt_irrefl _ hlt

instance : Std.Antisymm (ByNumber IsAhead) where
  antisymm := by
    rintro ⟨i, row?⟩ ⟨i', row?'⟩ (h | ⟨heq, j, k, hj, hk, hlt⟩) (h' | ⟨heq', j', k', hj', hk', hlt'⟩)
    · exact absurd h (Nat.lt_asymm h')
    · exact absurd h (Nat.not_lt.2 (Nat.le_of_eq heq'))
    · exact absurd h' (Nat.not_lt.2 (Nat.le_of_eq heq))
    · cases hj.symm.trans hk'
      cases hk.symm.trans hj'
      exact absurd hlt (Nat.lt_asymm hlt')

section

variable {kind : JoinKind} {left right : List (Option Key)}

/-! ### The rows in order -/

theorem fst_of_mem_sideBySide {found : List Nat} {i : Nat} : ∀ r ∈ sideBySide kind found i, r.1 = i := by
  intro r hr
  unfold sideBySide at hr
  split at hr
  · rw [List.mem_singleton.1 hr]
  · obtain ⟨j, -, rfl⟩ := List.mem_map.1 hr
    rfl

/-- Rows found in order stand beside a left row in order. -/
theorem pairwise_sideBySide {found : List Nat} (h : found.Pairwise (· < ·)) (i : Nat) :
    (sideBySide kind found i).Pairwise IsAhead := by
  unfold sideBySide
  split
  · exact List.pairwise_singleton _ _
  · exact List.pairwise_map.2 (h.imp fun hlt => ⟨_, _, rfl, rfl, hlt⟩)

/-- The rows of a join are in the order of the left rows, and those of one left row in that of the right ones. -/
theorem pairwise_joinedRows : (joinedRows kind left right).Pairwise (ByNumber IsAhead) := by
  have hplaces : left.zipIdx.Pairwise fun x y => x.2 < y.2 := by
    rw [← List.pairwise_map, List.zipIdx_map_snd]
    exact List.pairwise_lt_range'
  refine List.pairwise_flatMap.2 ⟨fun x _ => ?_, hplaces.imp fun hlt r hr s hs => .inl ?_⟩
  · refine (pairwise_sideBySide (pairwise_partners right x.1) x.2).imp_of_mem fun hr hs hahead => .inr ⟨?_, hahead⟩
    rw [fst_of_mem_sideBySide _ hr, fst_of_mem_sideBySide _ hs]
  · rw [fst_of_mem_sideBySide _ hr, fst_of_mem_sideBySide _ hs]
    exact hlt

/-- The rows of a join are those that belong together. -/
theorem mem_joinedRows {i : Nat} {row? : Option Nat} :
    (i, row?) ∈ joinedRows kind left right ↔ BelongTogether kind left right i row? := by
  have hrow : (i, row?) ∈ joinedRows kind left right ↔
      i < left.length ∧ (i, row?) ∈ sideBySide kind (partners right (left[i]?).join) i := by
    unfold joinedRows
    rw [List.mem_flatMap]
    constructor
    · rintro ⟨⟨key, i'⟩, hx, hr⟩
      obtain rfl : i = i' := fst_of_mem_sideBySide _ hr
      have hget : left[i]? = some key := List.mem_zipIdx_iff_getElem?.1 hx
      refine ⟨(List.getElem?_eq_some_iff.1 hget).1, ?_⟩
      rw [hget]
      exact hr
    · rintro ⟨hlt, hr⟩
      refine ⟨(left[i], i), List.mem_zipIdx_iff_getElem?.2 (List.getElem?_eq_getElem hlt), ?_⟩
      rw [List.getElem?_eq_getElem hlt] at hr
      exact hr
  rw [hrow]
  unfold sideBySide
  cases row? with
  | none =>
    have halone : partners right (left[i]?).join = [] ↔
        ∀ j : Nat, ¬∃ key, left[i]? = some (some key) ∧ right[j]? = some (some key) := by
      rw [List.eq_nil_iff_forall_not_mem]
      simp only [mem_partners]
    show _ ↔ kind = .left ∧ i < left.length ∧ _
    rw [← halone]
    split
    · next h => simp [h.1, h.2]
    · next h =>
      have hkept : ¬(kind = .left ∧ i < left.length ∧ partners right (left[i]?).join = []) :=
        fun hkept => h ⟨hkept.2.2, hkept.1⟩
      simp [hkept]
  | some j =>
    show _ ↔ ∃ key, left[i]? = some (some key) ∧ right[j]? = some (some key)
    rw [← mem_partners]
    split
    · next h => simp [h.1]
    · simp only [List.mem_map, Prod.mk.injEq, Option.some.injEq, true_and, exists_eq_right, and_iff_right_iff_imp]
      intro hj
      obtain ⟨key, hkey, -⟩ := mem_partners.1 hj
      exact (List.getElem?_eq_some_iff.1 hkey).1

/-- Rows that are found in any exact way are, sorted by the numbers of the left ones, the rows of the join. -/
theorem sortByNumber_find {find : PairFinder} (h : find.IsExact) :
    sortByNumber (find kind left right) = joinedRows kind left right := by
  apply List.Pairwise.eq_of_mem_iff (pairwise_sortByNumber (h.ascending kind left right)) pairwise_joinedRows
  rintro ⟨i, row?⟩
  rw [mem_sortByNumber, h.mem_iff, mem_joinedRows]

/-! ### Looking up the longer side -/

/-- In a left join the left rows are gone through in order. -/
theorem hashed_left : PairFinder.hashed .left left right = joinedRows .left left right := by
  unfold PairFinder.hashed joinedRows
  apply List.flatMap_congr
  intro x _
  unfold sideBySide
  cases hfound : partners right x.1 <;> simp [hfound]

/-- When there are fewer right rows, the left ones are gone through in order. -/
theorem hashed_inner_of_lt (h : right.length < left.length) :
    PairFinder.hashed .inner left right = joinedRows .inner left right := by
  rw [joinedRows_inner]
  exact if_pos h

/-- When the right rows are no fewer, they are gone through: for each, the left rows with its key. -/
theorem hashed_inner_of_le (h : left.length ≤ right.length) : PairFinder.hashed .inner left right =
    right.zipIdx.flatMap fun x => (partners left x.1).map fun i => (i, some x.2) := if_neg (Nat.not_lt.2 h)

/-- When the right rows are gone through, those that belong together are found. -/
theorem mem_hashed_of_le (h : left.length ≤ right.length) {i : Nat} {row? : Option Nat} :
    (i, row?) ∈ PairFinder.hashed .inner left right ↔ BelongTogether .inner left right i row? := by
  rw [hashed_inner_of_le h, List.mem_flatMap]
  cases row? with
  | none => simp [BelongTogether]
  | some j =>
    have hsame : BelongTogether .inner left right i (some j) ↔ i ∈ partners left (right[j]?).join := by
      rw [mem_partners]
      exact exists_congr fun key => and_comm
    rw [hsame]
    constructor
    · rintro ⟨⟨key, j'⟩, hx, hr⟩
      obtain ⟨i', hi', heq⟩ := List.mem_map.1 hr
      cases heq
      rw [List.mem_zipIdx_iff_getElem?.1 hx]
      exact hi'
    · intro hi
      obtain ⟨key, hkey, -⟩ := mem_partners.1 hi
      refine ⟨(some key, j), List.mem_zipIdx_iff_getElem?.2 hkey, List.mem_map.2 ⟨i, ?_, rfl⟩⟩
      rw [hkey] at hi
      exact hi

/-- The left rows of one right row differ, and of one left row the earlier right row comes first. -/
theorem ascending_hashed_of_le (h : left.length ≤ right.length) :
    (PairFinder.hashed .inner left right).Pairwise fun r s => r.1 = s.1 → IsAhead r s := by
  have hplaces : right.zipIdx.Pairwise fun x y => x.2 < y.2 := by
    rw [← List.pairwise_map, List.zipIdx_map_snd]
    exact List.pairwise_lt_range'
  rw [hashed_inner_of_le h]
  refine List.pairwise_flatMap.2 ⟨fun x _ => ?_, hplaces.imp fun hlt r hr s hs _ => ?_⟩
  · exact List.pairwise_map.2 ((pairwise_partners left x.1).imp fun hlt heq => absurd heq (Nat.ne_of_lt hlt))
  · obtain ⟨_, -, rfl⟩ := List.mem_map.1 hr
    obtain ⟨_, -, rfl⟩ := List.mem_map.1 hs
    exact ⟨_, _, rfl, rfl, hlt⟩

end

/-- The rows of the join are exact, and so is what is found in their order. -/
theorem PairFinder.isExact_joinedRows : PairFinder.IsExact joinedRows where
  mem_iff _ _ _ _ _ := mem_joinedRows
  ascending _ _ _ := pairwise_joinedRows.imp fun h heq => h.elim (fun hlt => absurd heq (Nat.ne_of_lt hlt)) And.right

/-- Looking up the rows of one side among those of the other is exact. -/
theorem PairFinder.isExact_hashed : PairFinder.hashed.IsExact where
  mem_iff kind left right i row? := by
    cases kind with
    | left => rw [hashed_left, mem_joinedRows]
    | inner =>
      rcases Nat.lt_or_ge right.length left.length with h | h
      · rw [hashed_inner_of_lt h, mem_joinedRows]
      · exact mem_hashed_of_le h
  ascending kind left right := by
    cases kind with
    | left =>
      rw [hashed_left]
      exact isExact_joinedRows.ascending _ _ _
    | inner =>
      rcases Nat.lt_or_ge right.length left.length with h | h
      · rw [hashed_inner_of_lt h]
        exact isExact_joinedRows.ascending _ _ _
      · exact ascending_hashed_of_le h

/-- The rows that are looked up are not found in the order of the left ones. -/
example : PairFinder.hashed .inner [some (.number 1), some (.number 2)] [some (.number 2), some (.number 1)] =
    [(1, some 0), (0, some 1)] := by decide

end TieWalk
