import Mathlib.Algebra.Group.Nat.Defs
import Mathlib.Algebra.Ring.Int.Defs
import Mathlib.Data.List.Perm.Basic
import TieWalk.Aggregate.Summation
import TieWalk.Proofs.Basics

/-!
# What a sum is, whatever the order

The two ways to sum up numbers differ in the order of the additions and in the zeros that they start from or put for
gaps. What they have in common is said by `IsSum`: every number is added once, and nothing else is but zeros.
-/

namespace TieWalk

variable {α : Type} [Add α] {zero : α}

/-- A number that comes about by adding up numbers, each once and in any order, and zeros. -/
inductive IsSum (zero : α) : List α → α → Prop where
  | zero : IsSum zero [] zero
  | one (a : α) : IsSum zero [a] a
  | add {l m n : List α} {a b : α} : IsSum zero l a → IsSum zero m b → n.Perm (l ++ m) → IsSum zero n (a + b)

namespace IsSum

theorem perm {l m : List α} {a : α} (h : IsSum zero l a) (hlm : l.Perm m) : IsSum zero m a := by
  cases h with
  | zero =>
    rw [List.nil_perm.1 hlm]
    exact .zero
  | one =>
    rw [← List.singleton_perm.1 hlm]
    exact .one a
  | add hl hm hn => exact .add hl hm (hlm.symm.trans hn)

theorem append {l m : List α} {a b : α} (hl : IsSum zero l a) (hm : IsSum zero m b) : IsSum zero (l ++ m) (a + b) :=
  .add hl hm (.refl _)

/-- Adding one number after another. -/
theorem foldl {l : List α} {a : α} (h : IsSum zero l a) (rest : List α) :
    IsSum zero (l ++ rest) (rest.foldl (· + ·) a) := by
  induction rest generalizing l a with
  | nil =>
    rw [List.append_nil]
    exact h
  | cons b rest ih =>
    have hb := ih (h.append (.one b))
    rw [List.append_assoc, List.singleton_append] at hb
    exact hb

/-- Zeros that stand for gaps count for nothing. -/
theorem of_map_getD {cells : List (Option α)} {a : α} (h : IsSum zero (cells.map fun cell => cell.getD zero) a) :
    IsSum zero (cells.filterMap id) a := by
  generalize hvalues : (cells.map fun cell => cell.getD zero) = values at h
  induction h generalizing cells with
  | zero =>
    rw [List.map_eq_nil_iff.1 hvalues]
    exact .zero
  | one a =>
    obtain ⟨cell, rfl, hcell⟩ := List.map_eq_singleton_iff.1 hvalues
    cases cell with
    | none =>
      rw [← hcell]
      exact .zero
    | some b =>
      rw [← hcell]
      exact .one b
  | @add l m n a b hl hm hn ihl ihm =>
    -- The order in which the cells' numbers are added is an order of the cells.
    obtain ⟨ordered, hordered, hperm⟩ : ∃ ordered : List (Option α),
        l ++ m = ordered.map (fun cell => cell.getD zero) ∧ ordered.Perm cells := by
      have hcomp := congrFun (congrFun (List.eq_map_comp_perm fun cell : Option α => cell.getD zero) (l ++ m)) cells
      exact hcomp.mpr (hvalues ▸ hn.symm)
    obtain ⟨first, second, rfl, hfirst, hsecond⟩ := List.map_eq_append_iff.1 hordered.symm
    have hsum := (ihl hfirst).append (ihm hsecond)
    rw [← List.filterMap_append] at hsum
    exact hsum.perm (hperm.filterMap id)

end IsSum

/-! ## Sums by parts -/

/-- Numbers that are sums of parts, by halves, are a sum of the whole. -/
theorem isSum_byHalves {parts : List (List α)} {sums : List α} (h : List.Forall₂ (IsSum zero) parts sums) :
    IsSum zero parts.flatten (Summation.byHalves zero sums) := by
  induction sums using Summation.byHalves.induct generalizing parts with
  | case1 =>
    cases h
    rw [Summation.byHalves]
    exact .zero
  | case2 a =>
    cases h with
    | cons ha hnil =>
      cases hnil
      rw [Summation.byHalves, List.flatten_cons, List.flatten_nil, List.append_nil]
      exact ha
  | case3 a b rest half ihtake =>
    rename_i ihdrop
    have hsum := (ihtake (List.forall₂_take _ h)).append (ihdrop (List.forall₂_drop _ h))
    rw [← List.flatten_append, List.take_append_drop] at hsum
    rw [Summation.byHalves]
    exact hsum

/-- Parts laid upon parts: what is added member by member is a sum of both. -/
theorem forall₂_zipWith_add {parts parts' : List (List α)} {sums sums' : List α}
    (h : List.Forall₂ (IsSum zero) parts sums) (h' : List.Forall₂ (IsSum zero) parts' sums') :
    List.Forall₂ (IsSum zero) (List.zipWith (· ++ ·) parts parts') (List.zipWith (· + ·) sums sums') := by
  induction h generalizing parts' sums' with
  | nil => exact .nil
  | cons ha _ ih =>
    cases h' with
    | nil => exact .nil
    | cons ha' hrest' => exact .cons (ha.append ha') (ih hrest')

omit [Add α] in
/-- Columns that are put under each other hold what the columns of both held. -/
theorem flatten_zipWith_perm (parts parts' : List (List α)) (h : parts.length = parts'.length) :
    (List.zipWith (· ++ ·) parts parts').flatten.Perm (parts.flatten ++ parts'.flatten) := by
  induction parts generalizing parts' with
  | nil =>
    rw [List.length_eq_zero_iff.1 h.symm]
    exact .refl _
  | cons part rest ih =>
    cases parts' with
    | nil => cases h
    | cons part' rest' =>
      have hrest := ih rest' (Nat.succ.inj h)
      rw [List.zipWith_cons_cons, List.flatten_cons, List.flatten_cons, List.flatten_cons, List.append_assoc,
        List.append_assoc]
      refine List.Perm.append_left part ?_
      refine (List.Perm.append_left part' hrest).trans ?_
      rw [← List.append_assoc, ← List.append_assoc]
      exact List.Perm.append_right _ List.perm_append_comm

/-- Numbers that are sums of parts, by folding, are a sum of the whole: no half is longer than the other. -/
theorem isSum_byFolding {parts : List (List α)} {sums : List α} {k : Nat} (hlength : sums.length = 2 ^ k)
    (h : List.Forall₂ (IsSum zero) parts sums) : IsSum zero parts.flatten (Summation.byFolding zero sums) := by
  induction k generalizing parts sums with
  | zero =>
    obtain ⟨a, rfl⟩ := List.length_eq_one_iff.1 hlength
    cases h with
    | cons ha hnil =>
      cases hnil
      rw [Summation.byFolding, List.flatten_cons, List.flatten_nil, List.append_nil]
      exact ha
  | succ k ih =>
    have hpow := Nat.one_le_two_pow (n := k)
    rcases sums with _ | ⟨a, _ | ⟨b, rest⟩⟩
    · rw [List.length_nil, Nat.pow_succ] at hlength
      omega
    · rw [List.length_singleton, Nat.pow_succ] at hlength
      omega
    · have hhalf : (rest.length + 2) / 2 = 2 ^ k := by
        rw [List.length_cons, List.length_cons, Nat.pow_succ] at hlength
        omega
      have htake : ((a :: b :: rest).take (2 ^ k)).length = 2 ^ k := by
        rw [List.length_take, hlength, Nat.pow_succ]
        omega
      have hdrop : ((a :: b :: rest).drop (2 ^ k)).length = 2 ^ k := by
        rw [List.length_drop, hlength, Nat.pow_succ]
        omega
      have hfirst := List.forall₂_take (2 ^ k) h
      have hsecond := List.forall₂_drop (2 ^ k) h
      have hsum := ih (by rw [List.length_zipWith, htake, hdrop, Nat.min_self]) (forall₂_zipWith_add hfirst hsecond)
      rw [Summation.byFolding]
      simp only [hhalf]
      refine hsum.perm ((flatten_zipWith_perm _ _ ?_).trans ?_)
      · rw [hfirst.length_eq, hsecond.length_eq, htake, hdrop]
      · rw [← List.flatten_append, List.take_append_drop]

/-! ## Runs and blocks -/

theorem flatten_runsOf {β : Type} (n : Nat) (l : List β) : (runsOf n l).flatten = l := by
  induction l using runsOf.induct n with
  | case1 => simp [runsOf]
  | case2 a rest ih =>
    rw [runsOf, List.flatten_cons, ih, List.cons_append, List.take_append_drop]

/-- A list whose length is a multiple of that of its runs has no shorter run. -/
theorem length_of_mem_runsOf {β : Type} {n : Nat} (hn : 0 < n) {l : List β} (h : n ∣ l.length) :
    ∀ run ∈ runsOf n l, run.length = n := by
  induction l using runsOf.induct n with
  | case1 =>
    rw [runsOf]
    exact nofun
  | case2 a rest ih =>
    have hle : n ≤ rest.length + 1 := Nat.le_of_dvd (Nat.succ_pos _) h
    have hdvd : n ∣ (rest.drop (n - 1)).length := by
      have hsub := Nat.dvd_sub h (Nat.dvd_refl n)
      rw [List.length_cons] at hsub
      rw [List.length_drop, show rest.length - (n - 1) = rest.length + 1 - n by omega]
      exact hsub
    intro run hrun
    rw [runsOf] at hrun
    rcases List.mem_cons.1 hrun with rfl | hrun
    · rw [List.length_cons, List.length_take]
      omega
    · exact ih hdvd run hrun

/-- Runs of one length added column by column: each column's sum is one of what stands in it. -/
theorem exists_foldl_zipWith {parts : List (List α)} {sums : List α} (h : List.Forall₂ (IsSum zero) parts sums)
    (runs : List (List α)) (hruns : ∀ run ∈ runs, run.length = sums.length) :
    ∃ columns, List.Forall₂ (IsSum zero) columns (runs.foldl (List.zipWith (· + ·)) sums) ∧
      columns.flatten.Perm (parts.flatten ++ runs.flatten) ∧
      (runs.foldl (List.zipWith (· + ·)) sums).length = sums.length := by
  induction runs generalizing parts sums with
  | nil => exact ⟨parts, h, by simp, rfl⟩
  | cons run rest ih =>
    have hrun : run.length = sums.length := hruns run List.mem_cons_self
    have hones : List.Forall₂ (IsSum zero) (run.map fun a => [a]) run := by
      rw [List.forall₂_map_left_iff]
      exact List.forall₂_same.2 fun a _ => .one a
    have hflat : (run.map fun a => [a]).flatten = run := by
      rw [← List.flatMap_def]
      exact List.flatMap_singleton' run
    have hlength : (List.zipWith (· + ·) sums run).length = sums.length := by
      rw [List.length_zipWith, hrun, Nat.min_self]
    obtain ⟨columns, hcolumns, hperm, hlast⟩ := ih (forall₂_zipWith_add h hones) fun r hr => by
      rw [hlength]
      exact hruns r (List.mem_cons_of_mem _ hr)
    refine ⟨columns, hcolumns, hperm.trans ?_, hlast.trans hlength⟩
    have hzip := flatten_zipWith_perm parts (run.map fun a => [a])
      (by rw [List.length_map, hrun, h.length_eq])
    rw [hflat] at hzip
    rw [List.flatten_cons, ← List.append_assoc]
    exact List.Perm.append_right _ hzip

/-- The sum of a block is a sum of its numbers. -/
theorem isSum_ofBlock {block : List α} (h : block.length = Summation.blockSize) :
    IsSum zero block (Summation.ofBlock zero block) := by
  have hzeros : List.Forall₂ (IsSum zero) (List.replicate Summation.blockWidth [])
      (List.replicate Summation.blockWidth zero) :=
    List.forall₂_iff_get.2 ⟨by simp, fun i _ _ => by simpa using IsSum.zero⟩
  have hruns : ∀ run ∈ runsOf Summation.blockWidth block, run.length =
      (List.replicate Summation.blockWidth zero).length := by
    rw [List.length_replicate]
    exact length_of_mem_runsOf (by decide) (h ▸ by decide)
  obtain ⟨columns, hcolumns, hperm, hlength⟩ := exists_foldl_zipWith hzeros (runsOf Summation.blockWidth block) hruns
  rw [flatten_runsOf] at hperm
  have hsum := isSum_byFolding (k := 4) (by rw [hlength, List.length_replicate]; rfl) hcolumns
  unfold Summation.ofBlock
  refine hsum.perm (hperm.trans ?_)
  simp

/-- The sum in blocks is a sum: the numbers before the first whole block are added last. -/
theorem isSum_inBlocks (values : List α) : IsSum zero values (Summation.inBlocks zero values) := by
  unfold Summation.inBlocks
  simp only
  have hdvd : Summation.blockSize ∣ (values.drop (values.length % Summation.blockSize)).length := by
    rw [List.length_drop]
    exact Nat.dvd_sub_mod _
  have hblocks : List.Forall₂ (IsSum zero)
      (runsOf Summation.blockSize (values.drop (values.length % Summation.blockSize)))
      ((runsOf Summation.blockSize (values.drop (values.length % Summation.blockSize))).map
        (Summation.ofBlock zero)) := by
    rw [List.forall₂_map_right_iff]
    refine List.forall₂_same.2 fun block hblock => isSum_ofBlock ?_
    exact length_of_mem_runsOf (by decide) hdvd block hblock
  have hwhole := isSum_byHalves hblocks
  rw [flatten_runsOf] at hwhole
  have hrest : IsSum zero (values.take (values.length % Summation.blockSize)) _ := IsSum.zero.foldl _
  refine (hwhole.append hrest).perm (List.perm_append_comm.trans ?_)
  rw [List.take_append_drop]

end TieWalk
