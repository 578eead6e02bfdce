import Mathlib.Data.List.Forall2
import TieWalk.AscSet

/-!
# Lists and steps that may fail

What it says of steps that may fail that they succeeded, one after another or for each member of a list, and what is
left of a list without its repeats.
-/

namespace TieWalk

/-- Two steps succeed exactly when the first does and the second does with what it gave. -/
theorem bind_eq_ok_iff {α β ε : Type} {x : Except ε α} {f : α → Except ε β} {b : β} :
    x >>= f = .ok b ↔ ∃ a, x = .ok a ∧ f a = .ok b := by
  cases x with
  | error e =>
    constructor
    · intro h
      cases h
    · rintro ⟨a, h, -⟩
      cases h
  | ok a =>
    constructor
    · intro h
      exact ⟨a, rfl, h⟩
    · rintro ⟨a', h, hf⟩
      cases h
      exact hf

/-- Of two steps, the first fails or the second does with what the first gave. -/
theorem bind_eq_error_iff {α β ε : Type} {x : Except ε α} {f : α → Except ε β} {e : ε} :
    x >>= f = .error e ↔ x = .error e ∨ ∃ a, x = .ok a ∧ f a = .error e := by
  cases x with
  | error e' =>
    constructor
    · intro h
      cases h
      exact Or.inl rfl
    · rintro (h | ⟨a, h, -⟩)
      · cases h
        rfl
      · cases h
  | ok a =>
    constructor
    · intro h
      exact Or.inr ⟨a, rfl, h⟩
    · rintro (h | ⟨a', h, hf⟩)
      · cases h
      · cases h
        exact hf

/-- What stands on the right of related lists is related to something on the left. -/
theorem exists_mem_left_of_forall₂ {α β : Type} {R : α → β → Prop} {l : List α} {r : List β} (h : List.Forall₂ R l r) :
    ∀ b ∈ r, ∃ a ∈ l, R a b := by
  induction h with
  | nil => exact nofun
  | cons hab _ ih =>
    intro b hb
    rcases List.mem_cons.1 hb with rfl | hb
    · exact ⟨_, List.mem_cons_self, hab⟩
    · obtain ⟨a, ha, hR⟩ := ih b hb
      exact ⟨a, List.mem_cons_of_mem _ ha, hR⟩

/-- Each member of the first of two related lists is related to one of the second. -/
theorem exists_mem_right_of_forall₂ {α β : Type} {R : α → β → Prop} {l : List α} {r : List β} (h : List.Forall₂ R l r) :
    ∀ a ∈ l, ∃ b ∈ r, R a b :=
  exists_mem_left_of_forall₂ h.flip

/-- Two relations from list to list, one after the other. -/
theorem forall₂_comp {α β γ : Type} {R : α → β → Prop} {S : β → γ → Prop} {l : List α} {m : List β} {r : List γ}
    (h : List.Forall₂ R l m) (h' : List.Forall₂ S m r) : List.Forall₂ (fun a c => ∃ b, R a b ∧ S b c) l r := by
  induction h generalizing r with
  | nil =>
    cases h'
    exact .nil
  | cons hab _ ih =>
    cases h' with
    | cons hbc hrest => exact .cons ⟨_, hab, hbc⟩ (ih hrest)

/-- Members that are each related to something are related to a list. -/
theorem exists_forall₂_iff {α β : Type} {R : α → β → Prop} {l : List α} :
    (∃ r, List.Forall₂ R l r) ↔ ∀ a ∈ l, ∃ b, R a b := by
  constructor
  · rintro ⟨r, h⟩
    induction h with
    | nil => exact nofun
    | cons hab _ ih =>
      intro a ha
      rcases List.mem_cons.1 ha with rfl | ha
      · exact ⟨_, hab⟩
      · exact ih a ha
  · intro h
    induction l with
    | nil => exact ⟨[], .nil⟩
    | cons a rest ih =>
      obtain ⟨b, hb⟩ := h a List.mem_cons_self
      obtain ⟨r, hr⟩ := ih fun x hx => h x (List.mem_cons_of_mem _ hx)
      exact ⟨b :: r, .cons hb hr⟩

/-- Two lists are related exactly when they have the same length and what stands in the same place is related. -/
theorem forall₂_iff_getElem? {α β : Type} {R : α → β → Prop} {l : List α} {r : List β} :
    List.Forall₂ R l r ↔ r.length = l.length ∧ ∀ (k : Nat) (a : α), l[k]? = some a → ∃ b, r[k]? = some b ∧ R a b := by
  rw [List.forall₂_iff_get]
  constructor
  · rintro ⟨hlength, hR⟩
    refine ⟨hlength.symm, fun k a ha => ?_⟩
    obtain ⟨hk, rfl⟩ := List.getElem?_eq_some_iff.1 ha
    exact ⟨r.get ⟨k, hlength ▸ hk⟩, List.getElem?_eq_getElem _, hR k hk (hlength ▸ hk)⟩
  · rintro ⟨hlength, hR⟩
    refine ⟨hlength.symm, fun k hk hk' => ?_⟩
    obtain ⟨b, hb, hab⟩ := hR k _ (List.getElem?_eq_getElem hk)
    rw [List.getElem?_eq_getElem hk'] at hb
    cases hb
    exact hab

/-- A list is traversed without error exactly when each member is, and the results stand in the order of the members. -/
theorem mapM_eq_ok_iff {α β ε : Type} {f : α → Except ε β} {l : List α} {r : List β} :
    l.mapM f = .ok r ↔ List.Forall₂ (fun a b => f a = .ok b) l r := by
  induction l generalizing r with
  | nil =>
    rw [List.mapM_nil, List.forall₂_nil_left_iff]
    constructor
    · intro h
      cases h
      rfl
    · rintro rfl
      rfl
  | cons a l ih =>
    rw [List.mapM_cons, List.forall₂_cons_left_iff]
    simp only [bind_eq_ok_iff, ih]
    constructor
    · rintro ⟨b, hb, r', hr, h⟩
      cases h
      exact ⟨b, r', hb, hr, rfl⟩
    · rintro ⟨b, r', hb, hr, rfl⟩
      exact ⟨b, hb, r', hr, rfl⟩

/-- A traversal fails as its first member does that fails. -/
theorem mapM_append_cons_eq_error {α β ε : Type} {f : α → Except ε β} {before after : List α} {a : α} {e : ε}
    (hbefore : ∀ b ∈ before, ∃ c, f b = .ok c) (ha : f a = .error e) : (before ++ a :: after).mapM f = .error e := by
  induction before with
  | nil =>
    rw [List.nil_append, List.mapM_cons, ha]
    rfl
  | cons b before ih =>
    obtain ⟨c, hc⟩ := hbefore b List.mem_cons_self
    rw [List.cons_append, List.mapM_cons, hc, ih fun b hb => hbefore b (List.mem_cons_of_mem _ hb)]
    rfl

/-- A traversal fails exactly as its first member does that fails. -/
theorem mapM_eq_error_iff {α β ε : Type} {f : α → Except ε β} {l : List α} {e : ε} : l.mapM f = .error e ↔
    ∃ before a after, l = before ++ a :: after ∧ (∀ b ∈ before, ∃ c, f b = .ok c) ∧ f a = .error e := by
  constructor
  · intro h
    induction l with
    | nil => cases h
    | cons a l ih =>
      rw [List.mapM_cons] at h
      cases ha : f a with
      | error e' =>
        rw [ha] at h
        cases h
        exact ⟨[], a, l, rfl, nofun, ha⟩
      | ok b =>
        rw [ha] at h
        cases hl : l.mapM f with
        | error e' =>
          rw [hl] at h
          cases h
          obtain ⟨before, a', after, rfl, hbefore, ha'⟩ := ih hl
          exact ⟨a :: before, a', after, rfl, List.forall_mem_cons.2 ⟨⟨b, ha⟩, hbefore⟩, ha'⟩
        | ok r =>
          rw [hl] at h
          cases h
  · rintro ⟨before, a, after, rfl, hbefore, ha⟩
    exact mapM_append_cons_eq_error hbefore ha

/-- A traversal that fails fails at a member. -/
theorem exists_of_mapM_eq_error {α β ε : Type} {f : α → Except ε β} {l : List α} {e : ε} (h : l.mapM f = .error e) :
    ∃ a ∈ l, f a = .error e := by
  obtain ⟨before, a, after, rfl, -, ha⟩ := mapM_eq_error_iff.1 h
  exact ⟨a, List.mem_append_right _ List.mem_cons_self, ha⟩

/-- Members traversed with their numbers, which play no part in whether a step fails. -/
theorem mapM_zipIdx {α β γ ε : Type} {f : α × Nat → Except ε γ} {g : α → Except ε β} {join : Nat → α → β → γ}
    {l : List α} (h : ∀ a ∈ l, ∀ k, f (a, k) = (g a).map (join k a)) (start : Nat) :
    (l.zipIdx start).mapM f =
      (l.mapM g).map fun found => ((l.zip found).zipIdx start).map fun x => join x.2 x.1.1 x.1.2 := by
  induction l generalizing start with
  | nil => rfl
  | cons a l ih =>
    obtain ⟨ha, hl⟩ := List.forall_mem_cons.1 h
    rw [List.zipIdx_cons, List.mapM_cons, List.mapM_cons, ha, ih hl]
    cases g a with
    | error e => rfl
    | ok b => cases l.mapM g <;> rfl

/-- A list in which nothing stands twice is its own list without repeats. -/
theorem eraseDups_of_nodup {α : Type} [BEq α] [LawfulBEq α] {l : List α} (h : l.Nodup) : l.eraseDups = l := by
  induction l with
  | nil => rfl
  | cons a rest ih =>
    obtain ⟨ha, hrest⟩ := List.nodup_cons.1 h
    have hfilter : rest.filter (fun b => !b == a) = rest := by
      rw [List.filter_eq_self]
      intro b hb
      have hba : b ≠ a := fun heq => ha (heq ▸ hb)
      simp [hba]
    rw [List.eraseDups_cons, hfilter, ih hrest]

/-- What the empty list has, and a list whenever what differs from its head behind it has it, every list has: repeats
are erased one member at a time. -/
@[elab_as_elim]
theorem eraseDups_induction {α : Type} [BEq α] {motive : List α → Prop} (nil : motive [])
    (cons : ∀ a rest, motive (rest.filter fun b => !b == a) → motive (a :: rest)) (l : List α) : motive l := by
  induction hn : l.length using Nat.strongRecOn generalizing l with
  | ind n ih =>
    cases l with
    | nil => exact nil
    | cons a rest =>
      have hlen : (rest.filter fun b => !b == a).length < n := by
        have := List.length_filter_le (fun b => !b == a) rest
        rw [List.length_cons] at hn
        omega
      exact cons a rest (ih _ hlen _ rfl)

/-- Nothing stands twice in a list without its repeats. -/
theorem nodup_eraseDups {α : Type} [BEq α] [LawfulBEq α] (l : List α) : l.eraseDups.Nodup := by
  induction l using eraseDups_induction with
  | nil => exact List.nodup_nil
  | cons a rest ih =>
    rw [List.eraseDups_cons]
    refine List.nodup_cons.2 ⟨fun hmem => ?_, ih⟩
    simp at hmem

/-- Repeats are the same before and after a function that tells the members of a list apart. -/
theorem map_eraseDups {α β : Type} [BEq α] [LawfulBEq α] [BEq β] [LawfulBEq β] {f : α → β} {l : List α}
    (h : ∀ a ∈ l, ∀ b ∈ l, f a = f b → a = b) : (l.map f).eraseDups = l.eraseDups.map f := by
  induction l using eraseDups_induction with
  | nil => rfl
  | cons a rest ih =>
    have hrest : ∀ b ∈ rest.filter (fun b => !b == a), b ∈ a :: rest :=
      fun b hb => List.mem_cons_of_mem _ (List.mem_filter.1 hb).1
    have hfilter : (rest.map f).filter (fun b => !b == f a) = (rest.filter fun b => !b == a).map f := by
      rw [List.filter_map]
      refine congrArg (List.map f) (List.filter_congr fun b hb => ?_)
      have hiff : f b = f a ↔ b = a :=
        ⟨h b (List.mem_cons_of_mem _ hb) a List.mem_cons_self, congrArg f⟩
      by_cases hba : b = a
      · simp [hba]
      · simp [hba, hiff]
    rw [List.map_cons, List.eraseDups_cons, List.eraseDups_cons, List.map_cons, hfilter,
      ih fun b hb c hc => h b (hrest b hb) c (hrest c hc)]

/-- No member of a set stands in it twice. -/
theorem AscSet.nodup_toList {α : Type} [Ord α] [Std.TransOrd α] (s : AscSet α) : s.toList.Nodup := by
  refine s.ascending.imp fun {a b} hab heq => ?_
  have hself : compare a a = .eq := Std.ReflCmp.compare_self
  rw [← heq, hself] at hab
  cases hab

end TieWalk
