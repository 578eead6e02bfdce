import TieWalk.Error
import TieWalk.Proofs.Basics

/-!
# Rules, and checks that follow them

A rule is known by the errors that report it broken. A check follows a list of rules when it passes where all of them
hold, and refuses with the error of the first that is broken where one is (`Follows.ok_iff`, `Follows.error_iff`).
Checks made one after another follow their rules one after another (`Follows.bind`).
-/

namespace TieWalk

/-- A rule, as the errors that report it broken: one where it is, and none where it holds. -/
structure Rule where
  Reports : Error → Prop
  unique : ∀ e e', Reports e → Reports e' → e = e'

namespace Rule

/-- Nothing reports the rule broken. -/
def Holds (rule : Rule) : Prop := ∀ e, ¬ rule.Reports e

/-- Something has to be so. -/
def must (p : Prop) (error : Error) : Rule where
  Reports e := ¬ p ∧ e = error
  unique := by
    rintro e e' ⟨-, rfl⟩ ⟨-, rfl⟩
    rfl

/-- Something has to be so of a thing, where it is there. -/
def about {α : Type} (x : Option α) (p : α → Prop) (error : α → Error) : Rule where
  Reports e := ∃ a, x = some a ∧ ¬ p a ∧ e = error a
  unique := by
    rintro e e' ⟨a, ha, -, rfl⟩ ⟨a', ha', -, rfl⟩
    rw [ha] at ha'
    cases ha'
    rfl

theorem holds_must_iff {p : Prop} {error : Error} : (must p error).Holds ↔ p := by
  constructor
  · intro h
    by_contra hp
    exact h error ⟨hp, rfl⟩
  · rintro hp e ⟨hnot, -⟩
    exact hnot hp

/-- A rule about a thing that is not there holds. -/
theorem holds_about_none {α : Type} {p : α → Prop} {error : α → Error} : (about none p error).Holds := by
  rintro e ⟨a, ⟨⟩, -⟩

/-- A rule about something that is there says what it says of it. -/
theorem holds_about_some_iff {α : Type} {a : α} {p : α → Prop} {error : α → Error} :
    (about (some a) p error).Holds ↔ p a := by
  constructor
  · intro h
    by_contra hp
    exact h (error a) ⟨a, rfl, hp, rfl⟩
  · rintro hp e ⟨_, ⟨⟩, hnot, -⟩
    exact hnot hp

/-- An error reports the first rule of a list that is broken: all rules before it hold. -/
inductive First : List Rule → Error → Prop where
  | here {rule : Rule} {rest : List Rule} {e : Error} : rule.Reports e → First (rule :: rest) e
  | later {rule : Rule} {rest : List Rule} {e : Error} : rule.Holds → First rest e → First (rule :: rest) e

namespace First

variable {l r : List Rule} {e e' : Error}

/-- Where a rule is broken not all rules hold. -/
theorem not_forall_holds (h : First l e) : ¬ ∀ rule ∈ l, rule.Holds := by
  induction h with
  | here hrule =>
    intro hall
    exact hall _ List.mem_cons_self _ hrule
  | later _ _ ih =>
    intro hall
    exact ih fun rule hrule => hall rule (List.mem_cons_of_mem _ hrule)

/-- All rules hold, or there is an error to report. -/
theorem forall_holds_or_exists (l : List Rule) : (∀ rule ∈ l, rule.Holds) ∨ ∃ e, First l e := by
  induction l with
  | nil => exact Or.inl nofun
  | cons rule l ih =>
    by_cases hholds : rule.Holds
    · rcases ih with hall | ⟨e, hfirst⟩
      · exact Or.inl (List.forall_mem_cons.2 ⟨hholds, hall⟩)
      · exact Or.inr ⟨e, .later hholds hfirst⟩
    · obtain ⟨e, he⟩ := not_forall_not.1 hholds
      exact Or.inr ⟨e, .here he⟩

/-- There is one error to report. -/
theorem unique (h : First l e) (h' : First l e') : e = e' := by
  induction h with
  | here hrule =>
    cases h' with
    | here hrule' => exact Rule.unique _ _ _ hrule hrule'
    | later hholds _ => exact absurd hrule (hholds _)
  | later hholds _ ih =>
    cases h' with
    | here hrule' => exact absurd hrule' (hholds _)
    | later _ hrest => exact ih hrest

/-- The first broken rule of two lists is that of the first, or all of the first hold and it is that of the second. -/
theorem append_iff : First (l ++ r) e ↔ First l e ∨ ((∀ rule ∈ l, rule.Holds) ∧ First r e) := by
  induction l with
  | nil =>
    constructor
    · intro h
      exact Or.inr ⟨nofun, h⟩
    · rintro (h | ⟨-, h⟩)
      · cases h
      · exact h
  | cons rule l ih =>
    constructor
    · intro h
      cases h with
      | here hrule => exact Or.inl (.here hrule)
      | later hholds hrest =>
        rcases ih.1 hrest with hl | ⟨hall, hr⟩
        · exact Or.inl (.later hholds hl)
        · exact Or.inr ⟨List.forall_mem_cons.2 ⟨hholds, hall⟩, hr⟩
    · rintro (h | ⟨hall, hr⟩)
      · cases h with
        | here hrule => exact .here hrule
        | later hholds hrest => exact .later hholds (ih.2 (Or.inl hrest))
      · obtain ⟨hholds, hrest⟩ := List.forall_mem_cons.1 hall
        exact .later hholds (ih.2 (Or.inr ⟨hrest, hr⟩))

section

variable {α : Type} {rules : α → List Rule}

/-- Rules that hold may be put back among the others. -/
theorem of_filter {p : α → Bool} {l : List α} (hout : ∀ a ∈ l, p a = false → ∀ rule ∈ rules a, rule.Holds)
    (h : First ((l.filter p).flatMap rules) e) : First (l.flatMap rules) e := by
  induction l with
  | nil => exact h
  | cons a l ih =>
    have hrest : ∀ b ∈ l, p b = false → ∀ rule ∈ rules b, rule.Holds := fun b hb => hout b (List.mem_cons_of_mem _ hb)
    rw [List.flatMap_cons, append_iff]
    by_cases ha : p a = true
    · rw [List.filter_cons_of_pos ha, List.flatMap_cons, append_iff] at h
      rcases h with h | ⟨hholds, h⟩
      · exact Or.inl h
      · exact Or.inr ⟨hholds, ih hrest h⟩
    · rw [List.filter_cons_of_neg ha] at h
      exact Or.inr ⟨hout a List.mem_cons_self (by simpa using ha), ih hrest h⟩

/-- Rules that are repeated change nothing: a rule that comes again is broken or holds as it did the first time. -/
theorem of_eraseDups [BEq α] [LawfulBEq α] {l : List α} (h : First (l.eraseDups.flatMap rules) e) :
    First (l.flatMap rules) e := by
  induction l using eraseDups_induction with
  | nil => exact h
  | cons a rest ih =>
    rw [List.eraseDups_cons, List.flatMap_cons, append_iff] at h
    rw [List.flatMap_cons, append_iff]
    rcases h with h | ⟨hholds, h⟩
    · exact Or.inl h
    · refine Or.inr ⟨hholds, of_filter ?_ (ih h)⟩
      intro b _ hb
      have hba : b = a := by simpa using hb
      rw [hba]
      exact hholds

end

end First

end Rule

/-- A check passes where all rules hold, and refuses with the error of the first that is broken. -/
structure Follows {α : Type} (check : Except Error α) (rules : List Rule) : Prop where
  holds : ∀ a, check = .ok a → ∀ rule ∈ rules, rule.Holds
  first : ∀ e, check = .error e → Rule.First rules e

namespace Follows

variable {α β : Type} {check : Except Error α} {rules : List Rule}

/-- A check that follows rules fails for the first one that is broken. -/
theorem error_iff (h : Follows check rules) {e : Error} : check = .error e ↔ Rule.First rules e := by
  constructor
  · exact h.first e
  · intro hfirst
    cases hcheck : check with
    | ok a => exact absurd (h.holds a hcheck) hfirst.not_forall_holds
    | error e' => rw [(h.first e' hcheck).unique hfirst]

/-- A check that follows rules passes when all of them hold. -/
theorem ok_iff (h : Follows check rules) : (∃ a, check = .ok a) ↔ ∀ rule ∈ rules, rule.Holds := by
  constructor
  · rintro ⟨a, ha⟩
    exact h.holds a ha
  · intro hall
    cases hcheck : check with
    | ok a => exact ⟨a, rfl⟩
    | error e => exact absurd hall (h.first e hcheck).not_forall_holds

/-- Where there is nothing to check, there are no rules. -/
theorem pass (a : α) : Follows (.ok a : Except Error α) [] where
  holds := by simp
  first := nofun

/-- A check that reports a broken rule refuses whatever rules come after. -/
theorem refuse {rule : Rule} {e : Error} (h : rule.Reports e) :
    Follows (.error e : Except Error α) (rule :: rules) where
  holds := nofun
  first := by
    rintro e' ⟨⟩
    exact .here h

/-- A rule that is known to hold needs no check. -/
theorem skip {rule : Rule} (hrule : rule.Holds) (h : Follows check rules) : Follows check (rule :: rules) where
  holds a ha := List.forall_mem_cons.2 ⟨hrule, h.holds a ha⟩
  first e he := .later hrule (h.first e he)

/-- A test whether what has to be so is not, and then other checks. -/
theorem test {p bad : Prop} [Decidable bad] {e : Error} (hbad : bad ↔ ¬ p) (h : ¬ bad → Follows check rules) :
    Follows (if bad then .error e else check) (.must p e :: rules) := by
  by_cases hb : bad
  · rw [if_pos hb]
    exact refuse ⟨hbad.1 hb, rfl⟩
  · rw [if_neg hb]
    exact skip (Rule.holds_must_iff.2 (not_not.1 (hbad.not.1 hb))) (h hb)

/-- A test whether what has to be so of a thing is not, and then other checks. -/
theorem test_about {γ : Type} {c : γ} {p : γ → Prop} {error : γ → Error} {bad : Prop} [Decidable bad] {e : Error}
    (he : e = error c) (hbad : bad ↔ ¬ p c) (h : ¬ bad → Follows check rules) :
    Follows (if bad then .error e else check) (.about (some c) p error :: rules) := by
  by_cases hb : bad
  · rw [if_pos hb]
    exact refuse ⟨c, rfl, hbad.1 hb, he⟩
  · rw [if_neg hb]
    exact skip (Rule.holds_about_some_iff.2 (not_not.1 (hbad.not.1 hb))) (h hb)

/-- Checks one after another follow their rules one after another. -/
theorem bind {next : α → Except Error β} {more : List Rule} (h : Follows check rules)
    (hnext : ∀ a, check = .ok a → Follows (next a) more) : Follows (check >>= next) (rules ++ more) := by
  cases hcheck : check with
  | error e =>
    refine ⟨nofun, ?_⟩
    rintro e' ⟨⟩
    exact Rule.First.append_iff.2 (Or.inl (h.first e hcheck))
  | ok a =>
    have hrest := hnext a hcheck
    refine ⟨?_, ?_⟩
    · intro b hb
      exact List.forall_mem_append.2 ⟨h.holds a hcheck, hrest.holds b hb⟩
    · intro e he
      exact Rule.First.append_iff.2 (Or.inr ⟨h.holds a hcheck, hrest.first e he⟩)

/-- What a check gives besides its refusals plays no part. -/
theorem of_error_iff {check' : Except Error β} (h : Follows check rules)
    (hsame : ∀ e, check' = .error e ↔ check = .error e) : Follows check' rules where
  holds b hb := by
    cases hcheck : check with
    | ok a => exact h.holds a hcheck
    | error e =>
      have hb' := (hsame e).2 hcheck
      rw [hb] at hb'
      cases hb'
  first e he := h.first e ((hsame e).1 he)

/-- A check of one rule. -/
theorem single {rule : Rule} (h : ∀ e, check = .error e ↔ rule.Reports e) : Follows check [rule] := by
  cases hcheck : check with
  | ok a =>
    refine skip (fun e he => ?_) (pass a)
    have herror := (h e).2 he
    rw [hcheck] at herror
    cases herror
  | error e => exact refuse ((h e).1 hcheck)

/-- A check of each member of a list, in order. -/
theorem mapM {f : α → Except Error β} {ruleOf : α → Rule} (h : ∀ a, Follows (f a) [ruleOf a]) (l : List α) :
    Follows (l.mapM f) (l.map ruleOf) := by
  induction l with
  | nil => exact pass []
  | cons a l ih =>
    rw [List.mapM_cons, List.map_cons, ← List.singleton_append]
    refine (h a).bind fun b _ => ih.of_error_iff fun e => ?_
    show (l.mapM f >>= fun _ => _) = _ ↔ _
    cases l.mapM f <;> simp [Bind.bind, Except.bind, pure, Except.pure]

/-- Rules that are checked once may be stated as often as they are asked for. -/
theorem of_eraseDups {γ : Type} [BEq γ] [LawfulBEq γ] {l : List γ} {rulesOf : γ → List Rule}
    (h : Follows check (l.eraseDups.flatMap rulesOf)) : Follows check (l.flatMap rulesOf) where
  holds a ha := by
    intro rule hrule
    obtain ⟨x, hx, hrule⟩ := List.mem_flatMap.1 hrule
    exact h.holds a ha rule (List.mem_flatMap.2 ⟨x, List.mem_eraseDups.2 hx, hrule⟩)
  first e he := (h.first e he).of_eraseDups

end Follows

end TieWalk
