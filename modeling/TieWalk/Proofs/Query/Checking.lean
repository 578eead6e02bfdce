import TieWalk.Proofs.Basics
import TieWalk.Query.Check

/-!
# What the check of a path makes of it

The check of a path goes through its hops twice, once for their contexts and once for their codes
(`WrittenPath.check_eq_passes`); of a hop's foreign codes it reports the smallest. A path passes the check exactly when
it has a variable, each of its contexts is known and each listed code belongs to its hop's context; the query has the
hops and the variables of the path, repeats apart (`WrittenPath.check_eq_ok_iff`). The places of the hops and the way
round of the text play no part in it (`WrittenPath.check_congr`).
-/

namespace TieWalk

/-! ## Hops -/

/-- Every code that is listed belongs to the context. -/
def Selection.IsWithin (s : Selection) (context : Context) : Prop :=
  match s with
  | .all => True
  | .only codes => ∀ code ∈ codes, code ∈ context.codes

/-- No code is foreign to a context that a selection is within. -/
theorem Selection.foreignCode?_eq_none_iff {s : Selection} {context : Context} :
    s.foreignCode? context = none ↔ s.IsWithin context := by
  cases s with
  | all => exact iff_of_true rfl trivial
  | only codes =>
    show (codes.toList.find? fun code => !decide (code ∈ context.codes)) = none ↔ ∀ code ∈ codes, code ∈ context.codes
    simp only [List.find?_eq_none, Bool.not_eq_true, Bool.not_eq_false', decide_eq_true_iff]
    exact Iff.rfl

/-- A selection makes a hop of a context that it is within. -/
theorem Hop.check_eq_ok_iff {context : Context} {codes : Selection} {hop : Hop} :
    Hop.check context codes = .ok hop ↔ hop = ⟨context, codes⟩ ∧ codes.IsWithin context := by
  rw [← Selection.foreignCode?_eq_none_iff]
  unfold Hop.check
  cases codes.foreignCode? context with
  | none => simp [eq_comm]
  | some code => simp

/-- A code is the smallest of those that a selection lists and its context does not have. -/
def Selection.IsFirstForeign (s : Selection) (context : Context) (code : Code) : Prop :=
  ∃ codes, s = .only codes ∧ code ∈ codes ∧ code ∉ context.codes ∧ ∀ other ∈ codes, other ∉ context.codes → code ≤ other

/-- The first member of a set that passes a test is the smallest that does. -/
theorem AscSet.find?_eq_some_iff {codes : AscSet Code} {p : Code → Bool} {code : Code} :
    codes.toList.find? p = some code ↔
    code ∈ codes ∧ p code = true ∧ ∀ other ∈ codes, p other = true → code ≤ other := by
  have hleast : ∀ {found}, codes.toList.find? p = some found → ∀ other ∈ codes, p other = true → found ≤ other := by
    intro found hfound other hother hp
    obtain ⟨-, before, after, hlist, hbefore⟩ := List.find?_eq_some_iff_append.1 hfound
    have hascending := codes.ascending
    have hmem : other ∈ codes.toList := hother
    rw [hlist] at hascending hmem
    rcases List.mem_append.1 hmem with hmem | hmem
    · simpa [hp] using hbefore other hmem
    · rcases List.mem_cons.1 hmem with rfl | hmem
      · exact UInt32.le_refl _
      · have hlt := (List.pairwise_cons.1 (List.pairwise_append.1 hascending).2.1).1 other hmem
        exact UInt32.le_of_lt (Std.compare_eq_lt.1 hlt)
  constructor
  · intro h
    exact ⟨List.mem_of_find?_eq_some h, List.find?_some h, hleast h⟩
  · rintro ⟨hmem, hp, hall⟩
    obtain ⟨found, hfound⟩ := Option.isSome_iff_exists.1 (List.find?_isSome.2 ⟨code, hmem, hp⟩)
    have hle := hleast hfound code hmem hp
    have hge := hall found (List.mem_of_find?_eq_some hfound) (List.find?_some hfound)
    rw [hfound, UInt32.le_antisymm hle hge]

/-- The foreign code that is found is the least one. -/
theorem Selection.foreignCode?_eq_some_iff {s : Selection} {context : Context} {code : Code} :
    s.foreignCode? context = some code ↔ s.IsFirstForeign context code := by
  unfold IsFirstForeign
  cases s with
  | all => simp [foreignCode?]
  | only codes => simp [foreignCode?, AscSet.find?_eq_some_iff]

/-- A selection that is not within its context is refused for its least foreign code. -/
theorem Hop.check_eq_error_iff {context : Context} {codes : Selection} {e : QueryFault} :
    Hop.check context codes = .error e ↔ ∃ code, codes.IsFirstForeign context code ∧ e = .invalidCode context code := by
  simp only [← Selection.foreignCode?_eq_some_iff]
  unfold Hop.check
  cases codes.foreignCode? context <;> simp [eq_comm]

/-- The name of a context is read as that context. -/
theorem Context.ofText_name (c : Context) : Context.ofText c.name = .ok c := by cases c <;> decide

/-- A text names the context whose name it is, blanks at its ends apart. -/
theorem Context.ofText_eq_ok_iff {text : String} {context : Context} :
    Context.ofText text = .ok context ↔ Text.trim text = context.name := by
  rw [← Context.ofName?_eq_some_iff]
  unfold Context.ofText
  cases Context.ofName? (Text.trim text) <;> simp

/-- A text that names no context is refused, without the blanks at its ends. -/
theorem Context.ofText_eq_error_iff {text : String} {e : QueryFault} :
    Context.ofText text = .error e ↔ (∀ context : Context, Text.trim text ≠ context.name) ∧
    e = .unknownContext (Text.trim text) := by
  simp only [ne_eq, ← Context.ofName?_eq_some_iff]
  unfold Context.ofText
  cases Context.ofName? (Text.trim text) <;> simp [eq_comm]

/-! ## Written hops -/

/-- What a written hop says, its place in the text apart. -/
def WrittenHop.content (spec : WrittenHop) : String × Selection := (spec.context, spec.codes)

/-- A hop of the codebook is what a name and a selection mean. -/
def Hop.IsMeant (content : String × Selection) (hop : Hop) : Prop :=
  Context.ofText content.1 = .ok hop.context ∧ hop.codes = content.2 ∧ hop.codes.IsWithin hop.context

/-- A written hop looked up and checked by itself. -/
def WrittenHop.check (spec : WrittenHop) : Except QueryFault Hop :=
  Context.ofText spec.context >>= fun context => Hop.check context spec.codes

/-- A written hop passes as the hop that it means. -/
theorem WrittenHop.check_eq_ok_iff {spec : WrittenHop} {hop : Hop} :
    spec.check = .ok hop ↔ Hop.IsMeant spec.content hop := by
  unfold check
  rw [bind_eq_ok_iff]
  constructor
  · rintro ⟨context, hcontext, hhop⟩
    obtain ⟨rfl, hwithin⟩ := Hop.check_eq_ok_iff.1 hhop
    exact ⟨hcontext, rfl, hwithin⟩
  · rintro ⟨hcontext, hcodes, hwithin⟩
    obtain ⟨context, codes⟩ := hop
    cases hcodes
    exact ⟨context, hcontext, Hop.check_eq_ok_iff.2 ⟨rfl, hwithin⟩⟩

/-- A written hop is refused for a context that is not known, or for a code that its context does not have. -/
theorem WrittenHop.cases_of_check_eq_error {spec : WrittenHop} {e : QueryFault} (h : spec.check = .error e) :
    (∃ name, e = .unknownContext name) ∨ ∃ context code, e = .invalidCode context code := by
  rcases bind_eq_error_iff.1 h with hname | ⟨context, -, hcodes⟩
  · exact .inl ⟨_, (Context.ofText_eq_error_iff.1 hname).2⟩
  · obtain ⟨code, -, rfl⟩ := Hop.check_eq_error_iff.1 hcodes
    exact .inr ⟨context, code, rfl⟩

/-! ## Paths -/

namespace WrittenPath

theorem contexts_eq_mapM (specs : List WrittenHop) :
    contexts specs = specs.mapM fun spec => Context.ofText spec.context := by
  induction specs with
  | nil => rfl
  | cons spec rest ih =>
    rw [contexts, List.mapM_cons, ih]
    cases Context.ofText spec.context with
    | error e => rfl
    | ok context => cases rest.mapM fun spec => Context.ofText spec.context <;> rfl

/-- Hops whose contexts are known are checked one after another. -/
theorem checkedHops_zip_eq_mapM {specs : List WrittenHop} {found : List Context}
    (h : List.Forall₂ (fun spec context => Context.ofText spec.context = .ok context) specs found) :
    checkedHops (specs.zip found) = specs.mapM WrittenHop.check := by
  induction h with
  | nil => rfl
  | @cons spec context specs found hname _ ih =>
    have hspec : spec.check = Hop.check context spec.codes := by
      rw [WrittenHop.check, hname]
      rfl
    rw [List.zip_cons_cons, List.mapM_cons, checkedHops, ih, hspec]
    cases Hop.check context spec.codes with
    | error e => rfl
    | ok hop => cases specs.mapM WrittenHop.check <;> rfl

/-- A path with variables is checked in two passes over its hops: one for their contexts, and one for their codes. -/
theorem check_eq_passes {p : WrittenPath} (hvars : p.vars ≠ []) : p.check = (do
    let _ ← p.hops.mapM fun spec => Context.ofText spec.context
    let hops ← p.hops.mapM WrittenHop.check
    return ⟨p.direction, hops, p.vars.eraseDups⟩) := by
  unfold check
  rw [if_neg (by simpa using hvars), contexts_eq_mapM]
  cases hfound : p.hops.mapM fun spec => Context.ofText spec.context with
  | error e => rfl
  | ok found =>
    simp only [checkedHops_zip_eq_mapM (mapM_eq_ok_iff.1 hfound)]
    cases p.hops.mapM WrittenHop.check <;> rfl

/-- A path without variables is refused for that alone. -/
theorem check_of_noVariables {p : WrittenPath} (hvars : p.vars = []) : p.check = .error .noVariables := by
  unfold check
  rw [if_pos (by simpa using hvars)]

/-- A path passes the check exactly when it has a variable and its hops are meant; the query has these hops, and the
variables without their repeats. -/
theorem check_eq_ok_iff {p : WrittenPath} {q : Query} : p.check = .ok q ↔
    p.vars ≠ [] ∧ List.Forall₂ (fun x hop => Hop.IsMeant x hop) (p.hops.map WrittenHop.content) q.hops ∧
      q.direction = p.direction ∧ q.vars = p.vars.eraseDups := by
  by_cases hvars : p.vars = []
  · simp [check_of_noVariables hvars, hvars]
  · rw [check_eq_passes hvars, List.forall₂_map_left_iff]
    simp only [bind_eq_ok_iff, mapM_eq_ok_iff, WrittenHop.check_eq_ok_iff]
    constructor
    · rintro ⟨-, -, hops, hhops, h⟩
      cases h
      exact ⟨hvars, hhops, rfl, rfl⟩
    · rintro ⟨-, hhops, hdirection, hq⟩
      refine ⟨q.hops.map Hop.context, List.forall₂_map_right_iff.2 (hhops.imp fun _ _ h => h.1), q.hops, hhops, ?_⟩
      rw [← hdirection, ← hq]
      rfl

/-- Two paths with the same contents and variables are checked alike, whichever way round they were written. -/
theorem check_congr {p p' : WrittenPath} (hhops : p.hops.map WrittenHop.content = p'.hops.map WrittenHop.content)
    (hvars : p.vars = p'.vars) : p'.check = p.check.map fun q => { q with direction := p'.direction } := by
  have hmap : ∀ {β : Type} (f : String × Selection → Except QueryFault β),
      p.hops.mapM (f ∘ WrittenHop.content) = p'.hops.mapM (f ∘ WrittenHop.content) := by
    intro β f
    rw [← List.mapM_map, hhops, List.mapM_map]
  have hcontexts : p.hops.mapM (fun spec => Context.ofText spec.context) =
      p'.hops.mapM fun spec => Context.ofText spec.context :=
    hmap fun x => Context.ofText x.1
  have hchecked : p.hops.mapM WrittenHop.check = p'.hops.mapM WrittenHop.check :=
    hmap fun x => Context.ofText x.1 >>= fun context => Hop.check context x.2
  by_cases hnil : p'.vars = []
  · rw [check_of_noVariables hnil, check_of_noVariables (hvars.trans hnil)]
    rfl
  · rw [check_eq_passes hnil, check_eq_passes (hvars ▸ hnil), hvars, hcontexts, hchecked]
    cases p'.hops.mapM fun spec => Context.ofText spec.context with
    | error e => rfl
    | ok found => cases p'.hops.mapM WrittenHop.check <;> rfl

/-- A path is refused because it has no variable, for a context that is not known, or for a code that its context does
not have. -/
theorem cases_of_check_eq_error {p : WrittenPath} {e : QueryFault} (h : p.check = .error e) :
    e = .noVariables ∨ (∃ name, e = .unknownContext name) ∨ ∃ context code, e = .invalidCode context code := by
  by_cases hvars : p.vars = []
  · rw [check_of_noVariables hvars] at h
    cases h
    exact .inl rfl
  · rw [check_eq_passes hvars, bind_eq_error_iff] at h
    rcases h with hcontexts | ⟨found, -, h⟩
    · obtain ⟨spec, -, hspec⟩ := exists_of_mapM_eq_error hcontexts
      exact .inr (.inl ⟨_, (Context.ofText_eq_error_iff.1 hspec).2⟩)
    · rcases bind_eq_error_iff.1 h with hhops | ⟨hops, -, h⟩
      · obtain ⟨spec, -, hspec⟩ := exists_of_mapM_eq_error hhops
        exact .inr (WrittenHop.cases_of_check_eq_error hspec)
      · cases h

end WrittenPath

end TieWalk
