import Mathlib.Data.List.Sort
import TieWalk.Proofs.Query.Checking

/-!
# The verdict on a path

`WrittenPath.Verdict` says what the check of a path has to find, without a word about how the check goes through its
hops: no variable; the first hop, outward from the sample, whose context is not known; else the first hop with a foreign
code, and the smallest of its foreign codes; else a query with the hops as they were written and each variable once. A
path has this verdict and no other (`WrittenPath.check_eq_iff_verdict`), and the path that a query is rewritten as has
the query for its verdict.
-/

namespace TieWalk

/-! ## First occurrences -/

/-- The members of a list, each once, in the order in which they first stand in it. -/
structure IsFirsts (l firsts : List String) : Prop where
  mem_iff : ∀ a, a ∈ firsts ↔ a ∈ l
  ordered : firsts.Pairwise fun a b => l.idxOf a < l.idxOf b

/-- What comes first among the members that pass a test comes first among all. -/
theorem idxOf_lt_of_filter {l : List String} {p : String → Bool} {a b : String} (ha : p a = true) (hb : p b = true)
    (h : (l.filter p).idxOf a < (l.filter p).idxOf b) : l.idxOf a < l.idxOf b := by
  induction l with
  | nil => exact absurd h (lt_irrefl _)
  | cons c l ih =>
    rw [List.idxOf_cons, List.idxOf_cons]
    by_cases hc : p c = true
    · rw [List.filter_cons_of_pos hc, List.idxOf_cons, List.idxOf_cons] at h
      grind
    · rw [List.filter_cons_of_neg hc] at h
      have := ih h
      grind

/-- What is left of a list without its repeats stands in the order of first occurrences. -/
theorem pairwise_eraseDups (l : List String) : l.eraseDups.Pairwise fun a b => l.idxOf a < l.idxOf b := by
  induction l using eraseDups_induction with
  | nil => exact .nil
  | cons a rest ih =>
    have hne : ∀ b ∈ (rest.filter fun b => !b == a).eraseDups, (!b == a) = true :=
      fun b hb => (List.mem_filter.1 (List.mem_eraseDups.1 hb)).2
    have hsucc : ∀ b, (!b == a) = true → (a :: rest).idxOf b = rest.idxOf b + 1 := by
      intro b hb
      have hba : b ≠ a := by simpa using hb
      rw [List.idxOf_cons_ne rest hba.symm]
    rw [List.eraseDups_cons, List.pairwise_cons]
    constructor
    · intro b hb
      rw [List.idxOf_cons_self, hsucc b (hne b hb)]
      exact Nat.succ_pos _
    · refine ih.imp_of_mem fun {b c} hb hc hlt => ?_
      rw [hsucc b (hne b hb), hsucc c (hne c hc)]
      exact Nat.succ_lt_succ (idxOf_lt_of_filter (hne b hb) (hne c hc) hlt)

/-- There is one list of first occurrences. -/
theorem isFirsts_iff {l firsts : List String} : IsFirsts l firsts ↔ firsts = l.eraseDups := by
  constructor
  · intro h
    have : Std.Irrefl fun a b : String => l.idxOf a < l.idxOf b := ⟨fun a => lt_irrefl _⟩
    have : Std.Antisymm fun a b : String => l.idxOf a < l.idxOf b := ⟨fun a b hab hba => absurd hab hba.asymm⟩
    refine List.Pairwise.eq_of_mem_iff h.ordered (pairwise_eraseDups l) fun a => ?_
    rw [h.mem_iff, List.mem_eraseDups]
  · rintro rfl
    exact ⟨fun a => List.mem_eraseDups, pairwise_eraseDups l⟩

/-! ## The verdict -/

/-- A written hop names a context, blanks at the ends of the name apart. -/
def WrittenHop.Names (spec : WrittenHop) (context : Context) : Prop := Text.trim spec.context = context.name

/-- A hop of a known context is checked by its codes alone. -/
theorem WrittenHop.check_of_names {spec : WrittenHop} {context : Context} (h : spec.Names context) :
    spec.check = Hop.check context spec.codes := by
  unfold check
  rw [Context.ofText_eq_ok_iff.2 h]
  rfl

namespace WrittenPath

/-- What the check of a path has to find. -/
inductive Verdict (p : WrittenPath) : Except QueryFault Query → Prop where
  /-- There is nothing to aggregate. -/
  | noVariables (hvars : p.vars = []) : Verdict p (.error .noVariables)
  /-- A hop names no context, and all hops before it do. -/
  | unknownContext {before after : List WrittenHop} {spec : WrittenHop} (hvars : p.vars ≠ [])
      (hhops : p.hops = before ++ spec :: after) (hbefore : ∀ b ∈ before, ∃ context, b.Names context)
      (hspec : ∀ context, ¬ spec.Names context) : Verdict p (.error (.unknownContext (Text.trim spec.context)))
  /-- Every hop names a context; a hop has a foreign code, and no hop before it has one. -/
  | invalidCode {before after : List WrittenHop} {spec : WrittenHop} {context : Context} {code : Code}
    (hvars : p.vars ≠ [])
      (hknown : ∀ b ∈ p.hops, ∃ context, b.Names context) (hhops : p.hops = before ++ spec :: after)
      (hbefore : ∀ b ∈ before, ∀ context, b.Names context → b.codes.IsWithin context) (hspec : spec.Names context)
      (hcode : spec.codes.IsFirstForeign context code) : Verdict p (.error (.invalidCode context code))
  /-- Every hop names a context that has its codes. -/
  | query {q : Query} (hvars : p.vars ≠ [])
      (hhops : List.Forall₂ (fun spec hop => spec.Names hop.context ∧ hop.codes = spec.codes ∧
        hop.codes.IsWithin hop.context)
        p.hops q.hops)
      (hdirection : q.direction = p.direction) (hfirsts : IsFirsts p.vars q.vars) : Verdict p (.ok q)

variable {p : WrittenPath}

/-- The hops of a query are the written ones, each in the context that it names. -/
theorem check_eq_ok_iff_names {q : Query} : p.check = .ok q ↔ p.vars ≠ [] ∧
    List.Forall₂ (fun spec hop => spec.Names hop.context ∧ hop.codes = spec.codes ∧ hop.codes.IsWithin hop.context)
      p.hops q.hops ∧ q.direction = p.direction ∧ IsFirsts p.vars q.vars := by
  rw [check_eq_ok_iff, List.forall₂_map_left_iff, isFirsts_iff]
  simp only [Hop.IsMeant, Context.ofText_eq_ok_iff]
  exact Iff.rfl

theorem Verdict.check_eq {outcome : Except QueryFault Query} (h : p.Verdict outcome) : p.check = outcome := by
  cases h with
  | noVariables hvars => exact check_of_noVariables hvars
  | unknownContext hvars hhops hbefore hspec =>
    rw [check_eq_passes hvars,
      mapM_eq_error_iff.2 ⟨_, _, _, hhops, fun b hb => ?_, Context.ofText_eq_error_iff.2 ⟨hspec, rfl⟩⟩]
    · rfl
    · obtain ⟨context, hcontext⟩ := hbefore b hb
      exact ⟨context, Context.ofText_eq_ok_iff.2 hcontext⟩
  | @invalidCode before after spec context code hvars hknown hhops hbefore hspec hcode =>
    obtain ⟨found, hfound⟩ := exists_forall₂_iff.2 hknown
    have hcontexts : p.hops.mapM (fun spec => Context.ofText spec.context) = .ok found :=
      mapM_eq_ok_iff.2 (hfound.imp fun _ _ => Context.ofText_eq_ok_iff.2)
    have hhop : spec.check = .error (.invalidCode context code) := by
      rw [WrittenHop.check_of_names hspec]
      exact Hop.check_eq_error_iff.2 ⟨code, hcode, rfl⟩
    have hpassed : ∀ b ∈ before, ∃ hop, b.check = .ok hop := by
      intro b hb
      obtain ⟨c, hc⟩ := hknown b (hhops ▸ List.mem_append_left _ hb)
      rw [WrittenHop.check_of_names hc]
      exact ⟨⟨c, b.codes⟩, Hop.check_eq_ok_iff.2 ⟨rfl, hbefore b hb c hc⟩⟩
    rw [check_eq_passes hvars, hcontexts, mapM_eq_error_iff.2 ⟨before, spec, after, hhops, hpassed, hhop⟩]
    rfl
  | query hvars hhops hdirection hfirsts => exact check_eq_ok_iff_names.2 ⟨hvars, hhops, hdirection, hfirsts⟩

/-- Every path has a verdict, the one that the check finds. -/
theorem verdict_check (p : WrittenPath) : p.Verdict p.check := by
  by_cases hvars : p.vars = []
  · have h := Verdict.noVariables hvars
    rwa [← h.check_eq] at h
  cases hcheck : p.check with
  | ok q =>
    obtain ⟨-, hhops, hdirection, hfirsts⟩ := check_eq_ok_iff_names.1 hcheck
    exact .query hvars hhops hdirection hfirsts
  | error e =>
    rw [check_eq_passes hvars] at hcheck
    rcases bind_eq_error_iff.1 hcheck with hcontexts | ⟨found, hfound, hrest⟩
    · obtain ⟨before, spec, after, hhops, hbefore, hspec⟩ := mapM_eq_error_iff.1 hcontexts
      obtain ⟨hunknown, rfl⟩ := Context.ofText_eq_error_iff.1 hspec
      refine .unknownContext hvars hhops (fun b hb => ?_) hunknown
      obtain ⟨context, hcontext⟩ := hbefore b hb
      exact ⟨context, Context.ofText_eq_ok_iff.1 hcontext⟩
    · rcases bind_eq_error_iff.1 hrest with hhops | ⟨hops, -, hok⟩
      · have hknown : ∀ b ∈ p.hops, ∃ context, b.Names context :=
          exists_forall₂_iff.1 ⟨found, (mapM_eq_ok_iff.1 hfound).imp fun _ _ => Context.ofText_eq_ok_iff.1⟩
        obtain ⟨before, spec, after, hsplit, hbefore, hspec⟩ := mapM_eq_error_iff.1 hhops
        obtain ⟨context, hcontext⟩ := hknown spec (hsplit ▸ List.mem_append_right _ List.mem_cons_self)
        rw [WrittenHop.check_of_names hcontext] at hspec
        obtain ⟨code, hcode, rfl⟩ := Hop.check_eq_error_iff.1 hspec
        refine .invalidCode hvars hknown hsplit (fun b hb c hc => ?_) hcontext hcode
        obtain ⟨hop, hhop⟩ := hbefore b hb
        rw [WrittenHop.check_of_names hc] at hhop
        exact (Hop.check_eq_ok_iff.1 hhop).2
      · cases hok

end WrittenPath

/-! ## Writing a query again -/

/-- A query as a path, its hops at any places of a text. -/
def Query.rewritten (q : Query) (place : Nat → Nat) : WrittenPath where
  direction := q.direction
  hops := q.hops.zipIdx.map fun (hop, i) => ⟨hop.context.name, hop.codes, place i⟩
  vars := q.vars

/-- What a query says as a path does not depend on the places. -/
theorem Query.content_rewritten (q : Query) (place : Nat → Nat) :
    (q.rewritten place).hops.map WrittenHop.content = q.hops.map fun hop => (hop.context.name, hop.codes) := by
  unfold rewritten
  conv_rhs => rw [← List.zipIdx_map_fst 0 q.hops, List.map_map]
  rw [List.map_map]
  rfl

/-- A query that a check gave passes the check again as it is. -/
theorem WrittenPath.check_rewritten {p : WrittenPath} {q : Query} (h : p.check = .ok q) (place : Nat → Nat) :
    (q.rewritten place).check = .ok q := by
  obtain ⟨hvars, hhops, -, hq⟩ := check_eq_ok_iff.1 h
  refine check_eq_ok_iff.2 ⟨?_, ?_, rfl, ?_⟩
  · intro hnil
    obtain ⟨a, ha⟩ := List.exists_mem_of_ne_nil _ hvars
    have hmem := List.mem_eraseDups.2 ha
    rw [← hq, show q.vars = [] from hnil] at hmem
    cases hmem
  · rw [Query.content_rewritten, List.forall₂_map_left_iff, List.forall₂_same]
    intro hop hhop
    obtain ⟨x, -, -, -, hwithin⟩ := exists_mem_left_of_forall₂ hhops hop hhop
    exact ⟨Context.ofText_name hop.context, rfl, hwithin⟩
  · show q.vars = q.vars.eraseDups
    rw [hq, eraseDups_of_nodup (nodup_eraseDups p.vars)]

/-- The check of a path gives the verdict on it and no other; and a query that it gives, written as a path with its hops
at any places, is given again. -/
theorem WrittenPath.check_eq_iff_verdict (p : WrittenPath) : (∀ outcome, p.check = outcome ↔ p.Verdict outcome) ∧
    ∀ q place, p.check = .ok q → (q.rewritten place).check = .ok q := by
  refine ⟨fun outcome => ⟨?_, Verdict.check_eq⟩, fun q place h => check_rewritten h place⟩
  rintro rfl
  exact verdict_check p

/-- A path that no text gives: a name with blanks at its ends, a hop that lists no code, and a variable that comes
again. -/
def blankedPath : WrittenPath where
  direction := .sampleFirst
  hops := [⟨" Family\t", .only (AscSet.ofList [302, 301]), 9⟩, ⟨"Neighbors", .only .empty, 9⟩, ⟨"Colleagues", .all, 0⟩]
  vars := ["Age", "Income", "Age"]

/-- The query of the path. -/
def unblankedQuery : Query where
  direction := .sampleFirst
  hops := [⟨.family, .only (AscSet.ofList [301, 302])⟩, ⟨.neighbors, .only .empty⟩, .all .colleagues]
  vars := ["Age", "Income"]

/-- The path passes, and so does its query, written with all its hops at one place. -/
theorem blankedPath_verdict : blankedPath.check = .ok unblankedQuery ∧ blankedPath.Verdict (.ok unblankedQuery) ∧
    (unblankedQuery.rewritten fun _ => 3).check = .ok unblankedQuery := by
  have hcheck : blankedPath.check = .ok unblankedQuery := by decide +kernel
  obtain ⟨hverdict, hrewritten⟩ := WrittenPath.check_eq_iff_verdict blankedPath
  exact ⟨hcheck, (hverdict _).1 hcheck, hrewritten _ _ hcheck⟩

/-- An unknown context further out comes before a foreign code. -/
example : WrittenPath.check ⟨.variablesFirst, [⟨"Family", .only (AscSet.ofList [999]), 0⟩, ⟨" Friends", .all, 0⟩],
    ["Income"]⟩ = .error (.unknownContext "Friends") := by
  decide +kernel

end TieWalk
