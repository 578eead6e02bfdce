import Mathlib.Algebra.Ring.Nat
import Mathlib.Data.List.Nodup
import TieWalk.Proofs.Basics
import TieWalk.Table.Group

/-!
# Row numbers of joins and groups

Joins and groups work on row numbers that keys decide. Which rows a join is to put side by side, and in which order, is
said here by going through the left rows (`joinedRows`). Where the keys are those of a list's members (`l.map f`), the
row numbers can be traded for the members: the rows with a key are the members with it, in their order, and a join puts
each member beside the rows that have its key.
-/

namespace TieWalk

/-! ## Rows with a key -/

/-- The rows with a key are the places of the members that have it. -/
theorem rowsWith_map {α : Type} (l : List α) (f : α → Option Key) (key : Key) :
    rowsWith (l.map f) key = (l.zipIdx.filter fun x => decide (f x.1 = some key)).map Prod.snd := by
  unfold rowsWith
  rw [List.zipIdx_map, List.filterMap_map]
  simp only [Function.comp_def, Prod.map, id]
  generalize l.zipIdx = rows
  induction rows with
  | nil => rfl
  | cons row rest ih =>
    by_cases h : f row.1 = some key
    · simp [h, ih]
    · simp [h, ih]

/-- The rows with a key are those at which it stands. -/
theorem mem_rowsWith {keys : List (Option Key)} {key : Key} {i : Nat} :
    i ∈ rowsWith keys key ↔ keys[i]? = some (some key) := by
  have h := rowsWith_map keys id key
  rw [List.map_id] at h
  rw [h]
  simp [List.mem_zipIdx_iff_getElem?]

/-- The rows with a key, picked out of all row numbers. -/
theorem rowsWith_eq_filter (keys : List (Option Key)) (key : Key) :
    rowsWith keys key = (List.range keys.length).filter fun i => decide ((keys[i]?).join = some key) := by
  have h := rowsWith_map keys id key
  rw [List.map_id] at h
  rw [h, List.range_eq_range', ← List.zipIdx_map_snd 0 keys, List.filter_map]
  refine congrArg (List.map Prod.snd) (List.filter_congr fun x hx => ?_)
  rw [List.mem_zipIdx_iff_getElem?] at hx
  simp [hx]

/-- The rows with a key stand in order. -/
theorem pairwise_rowsWith (keys : List (Option Key)) (key : Key) : (rowsWith keys key).Pairwise (· < ·) := by
  rw [rowsWith_eq_filter]
  exact List.pairwise_lt_range.filter _

/-- No row stands twice among the rows with a key. -/
theorem nodup_rowsWith (keys : List (Option Key)) (key : Key) : (rowsWith keys key).Nodup :=
  (pairwise_rowsWith keys key).imp Nat.ne_of_lt

/-- What stands in the rows with a key belongs to the members that have the key, in their order. -/
theorem map_rowsWith {α β : Type} (l : List α) (f : α → Option Key) (g : α → Option β) (key : Key) :
    (rowsWith (l.map f) key).map (fun i => ((l.map g)[i]?).join) =
    (l.filter fun a => decide (f a = some key)).map g := by
  have hfst : (l.zipIdx.filter fun x => decide (f x.1 = some key)).map Prod.fst =
      l.filter fun a => decide (f a = some key) := by
    conv_rhs => rw [← List.zipIdx_map_fst 0 l, List.filter_map]
    rfl
  rw [rowsWith_map, ← hfst, List.map_map, List.map_map]
  apply List.map_congr_left
  intro x hx
  have hget : l[x.2]? = some x.1 := List.mem_zipIdx_iff_getElem?.1 (List.mem_filter.1 hx).1
  simp [hget]

/-- Among different keys there is one of a key, or none. -/
theorem filter_key_of_nodup {keys : List Key} (h : keys.Nodup) (key : Key) :
    keys.filter (fun k => decide (some k = some key)) = if key ∈ keys then [key] else [] := by
  simp only [Option.some.injEq]
  rw [List.filter_eq key]
  split
  · next hmem => rw [List.count_eq_one_of_mem h hmem, List.replicate_one]
  · next hmem => rw [List.count_eq_zero_of_not_mem hmem, List.replicate_zero]

/-- The partners of a key stand in order. -/
theorem pairwise_partners (keys : List (Option Key)) (key : Option Key) : (partners keys key).Pairwise (· < ·) := by
  cases key with
  | none => exact List.Pairwise.nil
  | some key => exact pairwise_rowsWith keys key

/-- The partners of a row are the rows that have its key. -/
theorem mem_partners {left right : List (Option Key)} {i j : Nat} :
    j ∈ partners right (left[i]?).join ↔ ∃ key, left[i]? = some (some key) ∧ right[j]? = some (some key) := by
  rcases left[i]? with _ | _ | key
  · simp [partners]
  · simp [partners]
  · show j ∈ rowsWith right key ↔ _
    simp [mem_rowsWith]

/-- Among different keys, each is found once at most. -/
theorem length_partners_le_one {keys : List Key} (h : keys.Nodup) (key : Option Key) :
    (partners (keys.map some) key).length ≤ 1 := by
  cases key with
  | none => exact Nat.zero_le 1
  | some key =>
    have hlen := congrArg List.length (map_rowsWith keys some some key)
    rw [List.length_map, List.length_map, filter_key_of_nodup h] at hlen
    show (rowsWith (keys.map some) key).length ≤ 1
    rw [hlen]
    split <;> simp

/-- A row that is picked by a key from rows with different keys is the one whose key it is, if there is one. -/
theorem pick_rowsWith {β : Type} {keys : List Key} (hkeys : keys.Nodup) (g : Key → Option β) (key : Key) :
    ((rowsWith (keys.map some) key).head?.bind fun i => ((keys.map g)[i]?).join) =
    if key ∈ keys then g key else none := by
  have h := congrArg List.head? (map_rowsWith keys some g key)
  rw [List.head?_map, List.head?_map, filter_key_of_nodup hkeys] at h
  cases hhead : (rowsWith (keys.map some) key).head? with
  | none =>
    rw [hhead] at h
    split at h
    · cases h
    · next hmem => rw [if_neg hmem]; rfl
  | some i =>
    rw [hhead] at h
    split at h
    · next hmem =>
      rw [if_pos hmem]
      exact Option.some.inj h
    · cases h

/-! ## Rows of a join -/

/-- A left row beside each row found for it, or alone if none is found and it is kept. -/
def sideBySide (kind : JoinKind) (found : List Nat) (i : Nat) : List (Nat × Option Nat) :=
  if found = [] ∧ kind = .left then [(i, none)] else found.map fun j => (i, some j)

/-- The row numbers that a join is to put side by side: each left row in order, with each right row of its key in order,
and in a left join alone if there is none. -/
def joinedRows (kind : JoinKind) (left right : List (Option Key)) : List (Nat × Option Nat) :=
  left.zipIdx.flatMap fun x => sideBySide kind (partners right x.1) x.2

/-- An inner join puts each left row beside its partners. -/
theorem joinedRows_inner (left right : List (Option Key)) :
    joinedRows .inner left right = left.zipIdx.flatMap fun x => (partners right x.1).map fun j => (x.2, some j) := by
  unfold joinedRows sideBySide
  simp only [reduceCtorEq, and_false, if_false]

/-- The members of a list beside the right rows that have their keys. -/
def besides {α : Type} (l : List α) (f : α → Option Key) (right : List (Option Key)) : List (α × Nat) :=
  l.flatMap fun a => (partners right (f a)).map fun j => (a, j)

/-- The rows of an inner join, by what they stand for: the left one for a member, the right one for itself. -/
theorem map_joinedRows_inner {α β : Type} (l : List α) (f : α → Option Key) (right : List (Option Key))
    (g : Option α → Option Nat → β) :
    (joinedRows .inner (l.map f) right).map (fun r => g l[r.1]? r.2) =
      (besides l f right).map fun x => g (some x.1) (some x.2) := by
  have hmembers : l.zipIdx.flatMap (fun x => (partners right (f x.1)).map fun j => g (some x.1) (some j)) =
      l.flatMap fun a => (partners right (f a)).map fun j => g (some a) (some j) := by
    conv_rhs => rw [← List.zipIdx_map_fst 0 l, List.flatMap_map]
  rw [joinedRows_inner, List.zipIdx_map, List.flatMap_map, besides, List.map_flatMap, List.map_flatMap]
  simp only [List.map_map, Function.comp_def, Prod.map, id]
  rw [← hmembers]
  apply List.flatMap_congr
  intro x hx
  rw [List.mem_zipIdx_iff_getElem?.1 hx]

/-- A left join in which no row has two partners puts each left row, once and in its place, beside its partner if it has
one. -/
theorem joinedRows_left {left right : List (Option Key)} (h : ∀ key ∈ left, (partners right key).length ≤ 1) :
    joinedRows .left left right = left.zipIdx.map fun x => (x.2, (partners right x.1).head?) := by
  unfold joinedRows
  rw [← List.flatMap_singleton' (left.zipIdx.map _), List.flatMap_map]
  apply List.flatMap_congr
  intro x hx
  obtain ⟨key, i⟩ := x
  have hlen : (partners right key).length ≤ 1 := h key (List.fst_mem_of_mem_zipIdx hx)
  unfold sideBySide
  cases hpartners : partners right key with
  | nil => simp
  | cons j rest =>
    rw [hpartners] at hlen
    have hrest : rest = [] := List.length_eq_zero_iff.1 (by simpa using hlen)
    simp [hrest]

/-- A left join has a row for each left row, or as many as it has partners. -/
theorem length_joinedRows_left (left right : List (Option Key)) :
    (joinedRows .left left right).length = (left.map fun key => max 1 (partners right key).length).sum := by
  unfold joinedRows
  conv_rhs => rw [← List.zipIdx_map_fst 0 left, List.map_map]
  rw [List.length_flatMap]
  refine congrArg List.sum (List.map_congr_left fun x _ => ?_)
  unfold sideBySide
  cases hpartners : partners right x.1 with
  | nil => simp [hpartners]
  | cons j rest => simp [hpartners]

/-- Parts of one at least sum up to more than their number, unless each is one. -/
theorem sum_max_one {α : Type} (l : List α) (g : α → Nat) : l.length ≤ (l.map fun a => max 1 (g a)).sum ∧
    ((l.map fun a => max 1 (g a)).sum = l.length ↔ ∀ a ∈ l, g a ≤ 1) := by
  induction l with
  | nil => simp
  | cons a l ih =>
    obtain ⟨hle, heq⟩ := ih
    rw [List.map_cons, List.sum_cons, List.length_cons, List.forall_mem_cons, ← heq]
    omega

/-- A left join keeps the number of left rows, or has more: where a left row has two partners. -/
theorem length_joinedRows_left_eq_iff {left right : List (Option Key)} :
    (joinedRows .left left right).length = left.length ↔ ∀ key ∈ left, (partners right key).length ≤ 1 := by
  rw [length_joinedRows_left]
  exact (sum_max_one left _).2

/-- A left join has at least as many rows as its left side. -/
theorem le_length_joinedRows_left (left right : List (Option Key)) :
    left.length ≤ (joinedRows .left left right).length := by
  rw [length_joinedRows_left]
  exact (sum_max_one left _).1

/-- Where right rows are numbered in another way, in which each left key has the same partners, a join is the same but
for the numbers. -/
theorem joinedRows_renumber (kind : JoinKind) {left right right' : List (Option Key)} {number : Nat → Option Nat}
    (h : ∀ key ∈ left, (partners right' key).map number = (partners right key).map some) :
    (joinedRows kind left right').map (fun r => (r.1, r.2.bind number)) = joinedRows kind left right := by
  unfold joinedRows
  rw [List.map_flatMap]
  refine List.flatMap_congr fun x hx => ?_
  obtain ⟨key, i⟩ := x
  have hpartners := h key (List.fst_mem_of_mem_zipIdx hx)
  have hrows : ((partners right' key).map fun j => (i, some j)).map (fun r => (r.1, r.2.bind number)) =
      (partners right key).map fun j => (i, some j) := by
    have hpairs := congrArg (List.map fun j => (i, j)) hpartners
    simpa [Function.comp_def] using hpairs
  have hnil : partners right' key = [] ↔ partners right key = [] := by
    rw [← List.map_eq_nil_iff (f := number), hpartners, List.map_eq_nil_iff]
  show (sideBySide kind (partners right' key) i).map (fun r => (r.1, r.2.bind number)) =
    sideBySide kind (partners right key) i
  unfold sideBySide
  simp only [hnil]
  split
  · rfl
  · exact hrows

/-- Where rows are left out that are not among a key's partners, the key has the partners that it had. -/
theorem partners_kept {keys : List (Option Key)} {kept : Nat → Bool} {key : Option Key}
    (h : ∀ i ∈ partners keys key, kept i = true) :
    (partners (((List.range keys.length).filter kept).map fun i => (keys[i]?).join) key).map
        (fun j => ((List.range keys.length).filter kept)[j]?) = (partners keys key).map some := by
  cases key with
  | none => rfl
  | some key =>
    have hmap := map_rowsWith ((List.range keys.length).filter kept) (fun i => (keys[i]?).join) some key
    have hfilter : ((List.range keys.length).filter kept).filter (fun i => decide ((keys[i]?).join = some key)) =
        rowsWith keys key := by
      rw [rowsWith_eq_filter, List.filter_filter]
      refine List.filter_congr fun i hi => ?_
      by_cases hkey : (keys[i]?).join = some key
      · have hmem : i ∈ rowsWith keys key := by
          rw [rowsWith_eq_filter]
          exact List.mem_filter.2 ⟨hi, decide_eq_true hkey⟩
        simp [hkey, h i hmem]
      · simp [hkey]
    rw [hfilter] at hmap
    show (rowsWith _ key).map _ = (rowsWith keys key).map some
    rw [← hmap]
    refine List.map_congr_left fun j _ => ?_
    rw [List.getElem?_map]
    cases ((List.range keys.length).filter kept)[j]? <;> rfl

/-! ## Groups -/

theorem mem_groupKeys {keys : List (Option Key)} {key : Key} : key ∈ groupKeys keys ↔ some key ∈ keys := by
  unfold groupKeys
  show key ∈ AscSet.ofList (keys.filterMap id) ↔ _
  simp

theorem nodup_groupKeys (keys : List (Option Key)) : (groupKeys keys).Nodup := AscSet.nodup_toList _

/-- No group is empty, and its first row has its key. -/
theorem head?_rowsWith_of_mem_groupKeys {keys : List (Option Key)} {key : Key} (h : key ∈ groupKeys keys) :
    ∃ i, (rowsWith keys key).head? = some i ∧ keys[i]? = some (some key) := by
  obtain ⟨i, hi⟩ := List.mem_iff_getElem?.1 (mem_groupKeys.1 h)
  have hne : rowsWith keys key ≠ [] := List.ne_nil_of_mem (mem_rowsWith.2 hi)
  exact ⟨_, List.head?_eq_some_head hne, mem_rowsWith.1 (List.head_mem hne)⟩

end TieWalk
