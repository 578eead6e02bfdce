import TieWalk.Proofs.Query.NormalForm

/-!
# Hops by themselves

A hop can be read by itself or within a query. Put between the sample and one variable, a text with brackets is read by
itself exactly as the one hop of that query: to the same hop or to the same refusal. A text of several segments is a hop
in neither way, whatever arrows, brackets or anchors are in it, since the query's own anchor is before its first arrow
and the variable after its last. Only a name without brackets is read by itself alone.
-/

namespace TieWalk

open Token (IsLayout IsWord IsWritten)

/-! ## Derivations do not depend on places -/

namespace Grammar

variable {ts us : List PlacedToken}

/-- Placed tokens that begin with a token have it at some place. -/
theorem map_token_eq_cons_iff {t : Token} {rest : List Token} : us.map PlacedToken.token = t :: rest ↔
    ∃ i more, us = ⟨t, i⟩ :: more ∧ more.map PlacedToken.token = rest := by
  rw [List.map_eq_cons_iff]
  constructor
  · rintro ⟨⟨t, i⟩, more, rfl, rfl, hmore⟩
    exact ⟨i, more, rfl, hmore⟩
  · rintro ⟨i, more, rfl, hmore⟩
    exact ⟨⟨t, i⟩, more, rfl, rfl, hmore⟩

theorem map_token_eq_singleton_iff {t : Token} : us.map PlacedToken.token = [t] ↔ ∃ i, us = [⟨t, i⟩] := by
  rw [map_token_eq_cons_iff]
  constructor
  · rintro ⟨i, more, rfl, hmore⟩
    exact ⟨i, by rw [List.map_eq_nil_iff.1 hmore]⟩
  · rintro ⟨i, rfl⟩
    exact ⟨i, [], rfl, rfl⟩

/-- Codes are read from the tokens, wherever these are placed. -/
theorem IsCodes.of_map_token {codes : List Code} (h : IsCodes ts codes)
    (htokens : us.map PlacedToken.token = ts.map PlacedToken.token) : IsCodes us codes := by
  induction h generalizing us with
  | last _ hcode =>
    obtain ⟨i, rfl⟩ := map_token_eq_singleton_iff.1 htokens
    exact .last i hcode
  | more _ _ hcode _ ih =>
    obtain ⟨i, us, rfl, hrest⟩ := map_token_eq_cons_iff.1 htokens
    obtain ⟨j, us, rfl, hcodes⟩ := map_token_eq_cons_iff.1 hrest
    exact .more i j hcode (ih hcodes)

/-- A selection is read from the tokens, wherever these are placed. -/
theorem IsSelection.of_map_token {s : Selection} (h : IsSelection ts s)
    (htokens : us.map PlacedToken.token = ts.map PlacedToken.token) : IsSelection us s := by
  cases h with
  | all _ hw =>
    obtain ⟨i, rfl⟩ := map_token_eq_singleton_iff.1 htokens
    exact .all i hw
  | only hcodes hset => exact .only (hcodes.of_map_token htokens) hset

/-- The same tokens in other places stand for the same hop, its place apart. -/
theorem IsHop.exists_of_map_token {spec : WrittenHop} (h : IsHop ts spec)
    (htokens : us.map PlacedToken.token = ts.map PlacedToken.token) :
    ∃ spec', IsHop us spec' ∧ spec'.content = spec.content := by
  cases h with
  | mk name _ _ _ hselection =>
    obtain ⟨i, us, rfl, hrest⟩ := map_token_eq_cons_iff.1 htokens
    obtain ⟨j, us, rfl, hbrackets⟩ := map_token_eq_cons_iff.1 hrest
    rw [List.map_append, List.map_eq_append_iff] at hbrackets
    obtain ⟨inner, last, rfl, hinner, hlast⟩ := hbrackets
    obtain ⟨k, rfl⟩ := map_token_eq_singleton_iff.1 hlast
    exact ⟨_, .mk name i j k (hselection.of_map_token hinner), rfl⟩

/-- Hops have brackets. -/
theorem IsHops.map_token_ne_word {specs : List WrittenHop} (h : IsHops ts specs) (w : String) :
    ts.map PlacedToken.token ≠ [.word w] := by
  cases h with
  | last h =>
    cases h
    simp
  | more _ h _ =>
    cases h
    simp

/-! ## The tokens of a query with one variable -/

/-- No arrow is within a variable list. -/
theorem IsNames.token_ne_arrow {names : List String} (h : IsNames ts names) : ∀ t ∈ ts, t.token ≠ .arrow := by
  induction h with
  | last => simp
  | more _ _ _ _ ih => simpa using ih

/-- There is no arrow in the list of the variables. -/
theorem IsVars.token_ne_arrow {names : List String} (h : IsVars ts names) : ∀ t ∈ ts, t.token ≠ .arrow := by
  cases h with
  | none => simp
  | some _ _ hnames => simpa [or_imp, forall_and] using hnames.token_ne_arrow

/-- What is before the last arrow, and what is after it. -/
theorem eq_of_append_arrow {as bs cs ds : List PlacedToken} {i j : Nat}
    (h : as ++ ⟨.arrow, i⟩ :: bs = cs ++ ⟨.arrow, j⟩ :: ds)
    (hbs : ∀ t ∈ bs, t.token ≠ .arrow) (hds : ∀ t ∈ ds, t.token ≠ .arrow) : as = cs ∧ bs = ds := by
  rcases List.append_eq_append_iff.1 h with ⟨more, hmore, hrest⟩ | ⟨more, hmore, hrest⟩
  · cases more with
    | nil => simp_all
    | cons t more =>
      obtain ⟨-, rfl⟩ := List.cons.inj hrest
      exact absurd rfl (hbs ⟨.arrow, j⟩ (by simp))
  · cases more with
    | nil => simp_all
    | cons t more =>
      obtain ⟨-, rfl⟩ := List.cons.inj hrest
      exact absurd rfl (hds ⟨.arrow, i⟩ (by simp))

/-- Tokens stand between the sample and a list of one variable, though in other places than by themselves. -/
def IsEnclosed (name : String) (ts all : List PlacedToken) : Prop :=
  ∃ as i us j vs, all = as ++ ⟨.arrow, i⟩ :: (us ++ ⟨.arrow, j⟩ :: vs) ∧ IsAnchor as ∧
    us.map PlacedToken.token = ts.map PlacedToken.token ∧ IsVars vs [name]

variable {all : List PlacedToken} {name : String}

/-- A hop, enclosed, is a path of this hop. -/
theorem IsHop.exists_isPath {spec : WrittenHop} (h : IsHop ts spec) (hall : IsEnclosed name ts all) :
    ∃ p, IsPath all p ∧ p.direction = .sampleFirst ∧ p.hops.map WrittenHop.content = [spec.content] ∧
      p.vars = [name] := by
  obtain ⟨as, i, us, j, vs, rfl, hanchor, hus, hvars⟩ := hall
  obtain ⟨spec', hspec, hcontent⟩ := h.exists_of_map_token hus
  exact ⟨_, .sampleFirst i j hanchor (.last hspec) hvars, rfl, by simp [hcontent], rfl⟩

/-- Enclosed tokens that derive a path are hops by themselves, other places apart. -/
theorem IsPath.exists_isHops {p : WrittenPath} (h : IsPath all p) (hall : IsEnclosed name ts all) :
    ∃ us, us.map PlacedToken.token = ts.map PlacedToken.token ∧ IsHops us p.hops := by
  obtain ⟨as, i, us, j, vs, heq, ⟨k, -⟩, hus, hvars⟩ := hall
  cases h with
  | variablesFirst _ _ hvars' _ _ => cases hvars' <;> simp at heq
  | sampleFirst _ _ hanchor hhops hvars' =>
    obtain ⟨⟩ := hanchor
    simp only [List.cons_append, List.nil_append, List.cons.injEq] at heq
    obtain ⟨rfl, -⟩ := eq_of_append_arrow heq.2.2 hvars'.token_ne_arrow hvars.token_ne_arrow
    exact ⟨_, hus, hhops⟩

end Grammar

/-! ## Texts around hops -/

/-- The query for one variable of the persons that a hop leads to, with the hop as it is written. -/
def queryAround (hop name : String) : String := "sample -> " ++ hop ++ " -> [" ++ name ++ "]"

section Around

variable {text name : String} {ts all : List PlacedToken}

theorem toList_queryAround : (queryAround text name).toList =
    anchor.toList ++ (" -> ".toList ++ (text.toList ++ (" -> ".toList ++ (variablesText [name]).toList))) := by
  simp [queryAround, anchor, variablesText, String.intercalate_singleton, String.toList_append]

/-- The tokens of a text are enclosed by those of the query around it. -/
theorem exists_isLayout_queryAround (hname : IsWord name) (h : IsLayout 0 ts text.toList) :
    ∃ all, IsLayout 0 all (queryAround text name).toList ∧ Grammar.IsEnclosed name ts all := by
  have htext : IsWritten (fun us => us.map PlacedToken.token = ts.map PlacedToken.token) text.toList := h.exists_at
  have hvars : IsWritten (Grammar.IsVars · [name]) (variablesText [name]).toList :=
    Grammar.isWritten_vars (List.cons_ne_nil _ _) (List.forall_mem_singleton.2 hname)
  have hrest : IsWritten (fun rest => ∃ us j vs, rest = us ++ ⟨.arrow, j⟩ :: vs ∧
      us.map PlacedToken.token = ts.map PlacedToken.token ∧ Grammar.IsVars vs [name]) _ :=
    htext.arrow hvars fun j us vs hus hvs => ⟨us, j, vs, rfl, hus, hvs⟩
  have hall : IsWritten (Grammar.IsEnclosed name ts) _ := Grammar.isWritten_anchor.arrow hrest ?_
  · rw [toList_queryAround]
    exact hall 0
  · rintro i as _ has ⟨us, j, vs, rfl, hus, hvs⟩
    exact ⟨as, i, us, j, vs, rfl, has, hus, hvs⟩

/-- Where the query around a text has tokens, the text has them by itself: no token reaches over the spaces on either
side. -/
theorem exists_isLayout_of_queryAround (h : IsLayout 0 all (queryAround text name).toList) :
    ∃ ts, IsLayout 0 ts text.toList := by
  have hcut : (queryAround text name).toList =
      "sample ->".toList ++ ([' '] ++ text.toList ++ (" -> ".toList ++ (variablesText [name]).toList)) := by
    simp [toList_queryAround, anchor]
  rw [hcut] at h
  obtain ⟨-, rest, -, -, hrest⟩ := h.exists_of_append (by simp [Token.isSpacing])
  obtain ⟨us, -, -, hus, -⟩ := hrest.exists_of_append (by simp [Token.isSpacing])
  obtain ⟨ts, hts, -⟩ := (hus.of_prepend (List.forall_mem_singleton.2 rfl)).exists_at 0
  exact ⟨ts, hts⟩

end Around

/-! ## Reading both -/

/-- A hop is read by itself from the name of a context, for all its codes, and from the tokens that derive it. -/
theorem WrittenHop.ofText_eq_ok_iff {text : String} {spec : WrittenHop} : WrittenHop.ofText text = .ok spec ↔
    ∃ ts, Token.scan 0 text.toList = .ok ts ∧
      ((∃ name i, ts = [⟨.word name, i⟩] ∧ spec = ⟨name, .all, i⟩) ∨ Grammar.IsHop ts spec) := by
  unfold WrittenHop.ofText
  constructor
  · intro h
    split at h
    · cases h
    · next name i htokens =>
      cases h
      exact ⟨_, (Grammar.tokens_eq_ok_iff.1 htokens).2, .inl ⟨name, i, rfl, rfl⟩⟩
    · next ts _ htokens =>
      split at h
      · cases h
      · next hhop =>
        cases h
        obtain ⟨used, rfl, hused⟩ := Grammar.hop_eq_ok_iff.1 hhop
        rw [List.append_nil] at htokens
        exact ⟨used, (Grammar.tokens_eq_ok_iff.1 htokens).2, .inr hused⟩
      · cases h
  · rintro ⟨ts, hscan, hts⟩
    have hne : ts ≠ [] := by
      rcases hts with ⟨name, i, rfl, -⟩ | hhop
      · simp
      · cases hhop
        simp
    have hblank := (Token.scan_eq_ok_iff.1 hscan).isAllBlank_eq_false hne
    rw [Grammar.tokens_eq_ok_iff.2 ⟨hblank, hscan⟩]
    rcases hts with ⟨name, i, rfl, rfl⟩ | hhop
    · rfl
    · have hread : Grammar.hop text.utf8ByteSize ts = .ok (spec, []) :=
        Grammar.hop_eq_ok_iff.2 ⟨ts, (List.append_nil ts).symm, hhop⟩
      split
      · next herr => cases herr
      · next hok =>
        cases hok
        exact absurd rfl ((Grammar.IsHops.last hhop).map_token_ne_word _)
      · next hok =>
        cases hok
        simp only [hread]

/-- What is read by itself as a hop is then looked up and checked. -/
theorem Hop.ofText_of_written {text : String} {spec : WrittenHop} (h : WrittenHop.ofText text = .ok spec) :
    Hop.ofText text = spec.check := by
  unfold Hop.ofText WrittenHop.check
  simp only [h]
  cases Context.ofText spec.context <;> rfl

/-- A path of one hop and one variable is checked as its hop. -/
theorem WrittenPath.check_singleton (direction : Direction) (spec : WrittenHop) (name : String) :
    (⟨direction, [spec], [name]⟩ : WrittenPath).check = spec.check.map fun hop => ⟨direction, [hop], [name]⟩ := by
  have hvars : [name].eraseDups = [name] := eraseDups_of_nodup (List.pairwise_singleton _ name)
  unfold WrittenPath.check WrittenHop.check
  rw [if_neg (by simp), hvars, WrittenPath.contexts, WrittenPath.contexts]
  cases Context.ofText spec.context with
  | error e => rfl
  | ok context =>
    show _ = (Hop.check context spec.codes).map _
    simp only [List.zip_cons_cons, List.zip_nil_right, WrittenPath.checkedHops]
    cases Hop.check context spec.codes <;> rfl

section Around

variable {text name : String} {ts : List PlacedToken} (hname : IsWord name)

include hname

/-- Around tokens that derive a hop, a path of this hop is read. -/
theorem WrittenPath.exists_ofText_queryAround {spec : WrittenHop} (hscan : Token.scan 0 text.toList = .ok ts)
    (hhop : Grammar.IsHop ts spec) :
    ∃ p, WrittenPath.ofText (queryAround text name) = .ok p ∧ p.direction = .sampleFirst ∧
      p.hops.map WrittenHop.content = [spec.content] ∧ p.vars = [name] := by
  obtain ⟨all, hlayout, hall⟩ := exists_isLayout_queryAround hname (Token.scan_eq_ok_iff.1 hscan)
  obtain ⟨p, hpath, hp⟩ := hhop.exists_isPath hall
  have hblank := hlayout.isAllBlank_eq_false hpath.ne_nil
  exact ⟨p, WrittenPath.ofText_eq_ok_iff.2 ⟨hblank, all, Token.scan_eq_ok_iff.2 hlayout, hpath⟩, hp⟩

/-- Where a path is read around a text, the text has tokens that derive its hops, other places apart. -/
theorem WrittenPath.exists_isHops_of_queryAround {p : WrittenPath}
    (h : WrittenPath.ofText (queryAround text name) = .ok p) :
    ∃ ts us, Token.scan 0 text.toList = .ok ts ∧ us.map PlacedToken.token = ts.map PlacedToken.token ∧
      Grammar.IsHops us p.hops := by
  obtain ⟨-, all, hscan, hpath⟩ := WrittenPath.ofText_eq_ok_iff.1 h
  obtain ⟨ts, hts⟩ := exists_isLayout_of_queryAround (Token.scan_eq_ok_iff.1 hscan)
  obtain ⟨all', hlayout, hall⟩ := exists_isLayout_queryAround hname hts
  rw [Token.scan_eq_ok_iff.2 hlayout] at hscan
  cases hscan
  obtain ⟨us, hus, hhops⟩ := hpath.exists_isHops hall
  exact ⟨ts, us, Token.scan_eq_ok_iff.2 hts, hus, hhops⟩

/-- Around tokens that derive a hop, the query of this hop is read, or it is refused as the hop by itself. -/
theorem Query.ofText_queryAround {spec : WrittenHop} (hscan : Token.scan 0 text.toList = .ok ts)
    (hhop : Grammar.IsHop ts spec) :
    Query.ofText (queryAround text name) = (Hop.ofText text).map fun hop => ⟨.sampleFirst, [hop], [name]⟩ := by
  obtain ⟨p, hread, hdirection, hhops, hvars⟩ := WrittenPath.exists_ofText_queryAround hname hscan hhop
  have hpath : Query.ofText (queryAround text name) = p.check := by
    unfold Query.ofText
    rw [hread]
  have halone : Hop.ofText text = spec.check :=
    Hop.ofText_of_written (WrittenHop.ofText_eq_ok_iff.2 ⟨ts, hscan, .inr hhop⟩)
  rw [hpath, halone, WrittenPath.check_congr (p := ⟨.sampleFirst, [spec], [name]⟩) hhops.symm hvars.symm,
    WrittenPath.check_singleton, hdirection]
  cases spec.check <;> rfl

/-- Around the name of a context alone no path is read: the text is refused for its form. -/
theorem Query.isOfForm_of_queryAround_word {w : String} {i : Nat}
    (hscan : Token.scan 0 text.toList = .ok [⟨.word w, i⟩]) :
    ∃ e, Query.ofText (queryAround text name) = .error e ∧ e.IsOfForm := by
  obtain ⟨all, hlayout, hall⟩ := exists_isLayout_queryAround hname (Token.scan_eq_ok_iff.1 hscan)
  have hblank : Text.isAllBlank (queryAround text name) = false := by
    refine hlayout.isAllBlank_eq_false ?_
    obtain ⟨as, j, us, k, vs, rfl, -⟩ := hall
    simp
  rcases WrittenPath.ofText_cases (queryAround text name) with ⟨hblank', -⟩ | ⟨-, ⟨_, p, -, -, hok⟩ | ⟨e, hform, herr⟩⟩
  · rw [hblank] at hblank'
    cases hblank'
  · obtain ⟨ts, us, hts, hus, hhops⟩ := WrittenPath.exists_isHops_of_queryAround hname hok
    rw [hscan] at hts
    cases hts
    exact absurd hus (hhops.map_token_ne_word w)
  · refine ⟨e, ?_, hform⟩
    unfold Query.ofText
    rw [herr]

/-- A hop read around a text that is not a word alone is read from the text by itself. -/
theorem Hop.ofText_eq_ok_iff_queryAround (hword : ∀ w i, Token.scan 0 text.toList ≠ .ok [⟨.word w, i⟩]) {hop : Hop} :
    Hop.ofText text = .ok hop ↔ ∃ q, Query.ofText (queryAround text name) = .ok q ∧ q.hops = [hop] := by
  have hread : ∀ {ts spec}, Token.scan 0 text.toList = .ok ts → Grammar.IsHop ts spec → (Hop.ofText text = .ok hop ↔
      ∃ q, Query.ofText (queryAround text name) = .ok q ∧ q.hops = [hop]) := by
    intro ts spec hscan hhop
    rw [Query.ofText_queryAround hname hscan hhop]
    cases Hop.ofText text <;> simp [Except.map]
  constructor
  · intro h
    cases hwritten : WrittenHop.ofText text with
    | error e => simp [Hop.ofText, hwritten] at h
    | ok spec =>
      obtain ⟨ts, hscan, ⟨w, i, rfl, -⟩ | hhop⟩ := WrittenHop.ofText_eq_ok_iff.1 hwritten
      · exact absurd hscan (hword w i)
      · exact (hread hscan hhop).1 h
  · rintro ⟨q, hq, hhops⟩
    cases hpath : WrittenPath.ofText (queryAround text name) with
    | error e => simp [Query.ofText, hpath] at hq
    | ok p =>
      obtain ⟨ts, us, hscan, hus, hderived⟩ := WrittenPath.exists_isHops_of_queryAround hname hpath
      have hcheck : p.check = .ok q := by simpa [Query.ofText, hpath] using hq
      obtain ⟨-, hmeant, -⟩ := WrittenPath.check_eq_ok_iff.1 hcheck
      have hlength : p.hops.length = 1 := by simpa [hhops] using hmeant.length_eq
      obtain ⟨spec, hspec⟩ := List.length_eq_one_iff.1 hlength
      rw [hspec] at hderived
      cases hderived with
      | last hhop =>
        obtain ⟨spec', hhop', -⟩ := hhop.exists_of_map_token hus.symm
        exact (hread hscan hhop').2 ⟨q, hq, hhops⟩
      | more _ _ hmore => cases hmore

end Around

/-- A hop that is shown is read as the hop that it shows. -/
theorem Hop.ofText_text {hop : Hop} (hinhabited : hop.codes.IsInhabited) (hwithin : hop.codes.IsWithin hop.context) :
    Hop.ofText hop.text = .ok hop := by
  have hname : IsWord hop.content.1 := hop.context.isWord_name
  obtain ⟨ts, hlayout, spec, hspec, hcontent⟩ := Grammar.isWritten_hop hname hinhabited 0
  have hwritten : WrittenHop.ofText hop.text = .ok spec :=
    WrittenHop.ofText_eq_ok_iff.2 ⟨ts, Token.scan_eq_ok_iff.2 hlayout, .inr hspec⟩
  rw [Hop.ofText_of_written hwritten, WrittenHop.check_eq_ok_iff, hcontent]
  exact ⟨Context.ofText_name hop.context, rfl, hwithin⟩

/-- A text that is not a word alone is read by itself as a hop exactly when the query around it has this hop alone, and
where its tokens derive a hop both are refused alike, for the context or for a code. The name of a context alone is read
by itself as all of the context, while the query around it is refused for its form. What a hop is shown as is read as
this hop. -/
theorem Hop.ofText_agrees_with_query (text name : String) (hname : IsWord name) :
    ((∀ w i, Token.scan 0 text.toList ≠ .ok [⟨.word w, i⟩]) → ∀ hop,
      Hop.ofText text = .ok hop ↔ ∃ q, Query.ofText (queryAround text name) = .ok q ∧ q.hops = [hop]) ∧
    (∀ ts spec, Token.scan 0 text.toList = .ok ts → Grammar.IsHop ts spec → ∀ e,
      (Hop.ofText text = .error e ↔ Query.ofText (queryAround text name) = .error e) ∧
      (Hop.ofText text = .error e → (∃ given, e = .unknownContext given) ∨
        ∃ context code, e = .invalidCode context code)) ∧
    (∀ (context : Context) (i : Nat), Token.scan 0 text.toList = .ok [⟨.word context.name, i⟩] →
      Hop.ofText text = .ok (Hop.all context) ∧
      ∃ position fault, Query.ofText (queryAround text name) = .error (.malformed position fault)) ∧
    ∀ hop : Hop, hop.codes.IsInhabited → hop.codes.IsWithin hop.context → Hop.ofText hop.text = .ok hop := by
  refine ⟨fun hword hop => Hop.ofText_eq_ok_iff_queryAround hname hword, ?_, ?_, fun hop => Hop.ofText_text⟩
  · intro ts spec hscan hhop e
    constructor
    · rw [Query.ofText_queryAround hname hscan hhop]
      cases Hop.ofText text <;> simp [Except.map]
    · rw [Hop.ofText_of_written (WrittenHop.ofText_eq_ok_iff.2 ⟨ts, hscan, .inr hhop⟩)]
      exact WrittenHop.cases_of_check_eq_error
  · intro context i hscan
    have hwritten : WrittenHop.ofText text = .ok ⟨context.name, .all, i⟩ :=
      WrittenHop.ofText_eq_ok_iff.2 ⟨_, hscan, .inl ⟨context.name, i, rfl, rfl⟩⟩
    obtain ⟨_, herr, position, fault, rfl⟩ := Query.isOfForm_of_queryAround_word hname hscan
    refine ⟨?_, position, fault, herr⟩
    rw [Hop.ofText_of_written hwritten, WrittenHop.check_eq_ok_iff]
    exact ⟨Context.ofText_name context, rfl, trivial⟩

/-- Parents and co-parents, a code that families do not have, and a context by its name alone, each by itself and before
the income. -/
theorem Hop.ofText_of_families :
    let parents : Hop := ⟨.family, .only (AscSet.ofList [301, 302])⟩
    (∃ q, Query.ofText (queryAround "Family[302, 0301]" "Income") = .ok q ∧ q.hops = [parents]) ∧
      Query.ofText (queryAround "Family[999]" "Income") = .error (.invalidCode .family 999) ∧
      (Hop.ofText " Family" = .ok (Hop.all .family) ∧
        ∃ position fault, Query.ofText (queryAround " Family" "Income") = .error (.malformed position fault)) ∧
      Hop.ofText parents.text = .ok parents := by
  intro parents
  have hname : IsWord "Income" := Token.isWord_of_all rfl (by decide)
  have hlisted : Token.scan 0 "Family[302, 0301]".toList = .ok [⟨.word "Family", 0⟩, ⟨.opening, 6⟩, ⟨.number "302", 7⟩,
      ⟨.comma, 10⟩, ⟨.number "0301", 12⟩, ⟨.closing, 16⟩] := by decide +kernel
  have hforeign : Token.scan 0 "Family[999]".toList = .ok [⟨.word "Family", 0⟩, ⟨.opening, 6⟩, ⟨.number "999", 7⟩,
      ⟨.closing, 10⟩] := by decide +kernel
  have halone : Token.scan 0 " Family".toList = .ok [⟨.word "Family", 1⟩] := by decide +kernel
  have hcode : Text.natOfDigits "999".toList = (999 : Code).toNat := by decide +kernel
  have hhop : Grammar.IsHop _ ⟨"Family", .only (AscSet.ofList [999]), 0⟩ :=
    .mk "Family" 0 6 10 (Grammar.isSelection_ofList (.last 7 hcode))
  refine ⟨?_, ?_, ?_, ?_⟩
  · have hwords : ∀ w i, Token.scan 0 "Family[302, 0301]".toList ≠ .ok [⟨.word w, i⟩] := by
      intro w i hword
      rw [hlisted] at hword
      cases hword
    exact ((Hop.ofText_agrees_with_query _ "Income" hname).1 hwords parents).1 (by decide +kernel)
  · exact ((Hop.ofText_agrees_with_query _ "Income" hname).2.1 _ _ hforeign hhop _).1.1 (by decide +kernel)
  · exact (Hop.ofText_agrees_with_query _ "Income" hname).2.2.1 .family 1 halone
  · have hinhabited : (AscSet.ofList [301, 302] : AscSet Code).toList ≠ [] := by decide +kernel
    have hwithin : parents.codes.foreignCode? .family = none := by decide +kernel
    exact (Hop.ofText_agrees_with_query "" "Income" hname).2.2.2 parents hinhabited
      (Selection.foreignCode?_eq_none_iff.1 hwithin)

end TieWalk
