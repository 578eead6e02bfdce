import TieWalk.Proofs.Query.Spelling
import TieWalk.Proofs.Query.Words

/-!
# The normal form of a query

A query is shown with the sample in front, its hops outward, its codes in ascending order and arrows between spaces.
What is shown is read again as the query that was shown (`Query.ofText_text`): each rule of the grammar has its way of
being written, and tokens that are written side by side are told apart again. Only the direction in which the query was
first written is lost, so the normal form of a normal form is itself, and queries with the same normal form mean the
same.
-/

namespace TieWalk

/-! ## Queries that can be shown -/

/-- A list of codes has one at least. -/
def Selection.IsInhabited : Selection → Prop
  | .all => True
  | .only codes => codes.toList ≠ []

/-- There is a hop and a variable at least, the codes of each hop are all of its context or some of them, and the
variables are words that differ. -/
structure Query.IsWellFormed (q : Query) : Prop where
  hops_ne_nil : q.hops ≠ []
  inhabited : ∀ hop ∈ q.hops, hop.codes.IsInhabited
  within : ∀ hop ∈ q.hops, hop.codes.IsWithin hop.context
  vars_ne_nil : q.vars ≠ []
  vars_nodup : q.vars.Nodup
  vars_words : ∀ name ∈ q.vars, Token.IsWord name

/-! ## Tokens side by side -/

namespace Token

/-- The text, wherever it starts, is a layout of tokens of which `R` holds. -/
def IsWritten (R : List PlacedToken → Prop) (cs : List Char) : Prop := ∀ start, ∃ ts, IsLayout start ts cs ∧ R ts

variable {R S T : List PlacedToken → Prop} {cs ds : List Char} {t : Token}

/-- A letter or an underscore with word characters after it is a word. -/
theorem isWord_of_all {w : String} {c : Char} {part : List Char} (hw : w.toList = c :: part)
    (h : (isWordStart c && part.all isWordPart) = true) : IsWord w := by
  obtain ⟨hstart, hpart⟩ := Bool.and_eq_true_iff.1 h
  exact ⟨c, part, hw, hstart, List.all_eq_true.1 hpart⟩

theorem isWritten_nil : IsWritten (fun ts => ts = []) [] := fun _ => ⟨[], .blank nofun, rfl⟩

theorem IsWritten.imp (h : IsWritten R cs) (hRS : ∀ ts, R ts → S ts) : IsWritten S cs := by
  intro start
  obtain ⟨ts, hlayout, hts⟩ := h start
  exact ⟨ts, hlayout, hRS ts hts⟩

/-- Spacing in front makes no difference. -/
theorem IsWritten.spaced {gap : List Char} (hgap : ∀ c ∈ gap, isSpacing c = true) (h : IsWritten R cs) :
    IsWritten R (gap ++ cs) := by
  intro start
  obtain ⟨ts, hlayout, hts⟩ := h (start + width gap)
  exact ⟨ts, hlayout.prepend hgap, hts⟩

/-- One token more, with nothing before what follows it. -/
theorem IsWritten.cons (ht : t.IsProper) (hends : t.EndsBefore cs) (h : IsWritten R cs)
    (hS : ∀ i ts, R ts → S (⟨t, i⟩ :: ts)) : IsWritten S (t.text.toList ++ cs) := by
  intro start
  obtain ⟨ts, hlayout, hts⟩ := h (start + width [] + width t.text.toList)
  have hcons : IsLayout start (⟨t, start + width []⟩ :: ts) ([] ++ (t.text.toList ++ cs)) :=
    .token nofun ht hends hlayout
  exact ⟨_, hcons, hS _ ts hts⟩

/-- A token by itself. -/
theorem isWritten_text (ht : t.IsProper) (hS : ∀ i, S [⟨t, i⟩]) : IsWritten S t.text.toList := by
  have hends : t.EndsBefore [] := t.endsBefore_of_head? nofun
  have hwritten : IsWritten S (t.text.toList ++ []) := isWritten_nil.cons ht hends fun i ts hts => hts ▸ hS i
  rwa [List.append_nil] at hwritten

/-- Two texts side by side, where no token goes on from the first into the second. -/
theorem IsWritten.append (h : IsWritten R cs) (hds : ∀ c ∈ ds.head?, isWordPart c = false) (h' : IsWritten S ds)
    (hT : ∀ ts us, R ts → S us → T (ts ++ us)) : IsWritten T (cs ++ ds) := by
  intro start
  obtain ⟨ts, hlayout, hts⟩ := h start
  obtain ⟨us, hlayout', hus⟩ := h' (start + width cs)
  exact ⟨ts ++ us, hlayout.append hds hlayout', hT ts us hts hus⟩

/-- Two texts with an arrow between spaces. -/
theorem IsWritten.arrow (h : IsWritten R cs) (h' : IsWritten S ds)
    (hT : ∀ i ts us, R ts → S us → T (ts ++ ⟨.arrow, i⟩ :: us)) : IsWritten T (cs ++ (" -> ".toList ++ ds)) := by
  have hspace : ∀ c ∈ [' '], isSpacing c = true := List.forall_mem_singleton.2 rfl
  have hrest : IsWritten (fun ts => ∃ i us, ts = ⟨.arrow, i⟩ :: us ∧ S us)
      ([' '] ++ (Token.arrow.text.toList ++ ([' '] ++ ds))) :=
    .spaced hspace (.cons trivial trivial (h'.spaced hspace) fun i us hus => ⟨i, us, rfl, hus⟩)
  refine h.append ?_ hrest ?_
  · intro c hc
    cases hc
    decide
  · rintro ts _ hts ⟨i, us, rfl, hus⟩
    exact hT i ts us hts hus

end Token

/-! ## The rules of the grammar -/

/-- The digits of a number are a numeral. -/
theorem Text.isNumeral_toString (n : Nat) : Text.isNumeral (toString n).toList = true := by
  rw [Nat.toString_eq_ofList_toDigits, String.toList_ofList, Text.isNumeral, Bool.and_eq_true, List.all_eq_true]
  refine ⟨?_, fun c hc => Nat.isDigit_of_mem_toDigits (by decide) (by decide) hc⟩
  simp [Nat.toDigits_ne_nil]

/-- The digits of a number spell it. -/
theorem Text.natOfDigits_toString (n : Nat) : Text.natOfDigits (toString n).toList = n := by
  rw [Nat.toString_eq_ofList_toDigits, String.toList_ofList]
  exact Nat.ofDigitChars_ten_toDigits

namespace Grammar

open Token (IsWritten IsWord)

/-- A list of tokens of one kind is written with commas between them. -/
theorem isWritten_commas {α : Type} {token : α → Token} {R : List PlacedToken → List α → Prop}
    (hlast : ∀ a i, R [⟨token a, i⟩] [a])
    (hmore : ∀ a i j ts as, R ts as → R (⟨token a, i⟩ :: ⟨.comma, j⟩ :: ts) (a :: as))
    {l : List α} (hl : l ≠ []) (hproper : ∀ a ∈ l, (token a).IsProper) :
    IsWritten (R · l) (",".intercalate (l.map fun a => (token a).text)).toList := by
  induction l with
  | nil => exact absurd rfl hl
  | cons a rest ih =>
    obtain ⟨ha, hrest⟩ := List.forall_mem_cons.1 hproper
    cases rest with
    | nil =>
      rw [List.map_cons, List.map_nil, String.intercalate_singleton]
      exact Token.isWritten_text ha (hlast a)
    | cons b rest =>
      rw [List.map_cons, String.intercalate_cons_of_ne_nil (by simp), String.toList_append, String.toList_append,
        List.append_assoc]
      have hcomma : IsWritten (fun ts => ∃ j us, ts = ⟨.comma, j⟩ :: us ∧ R us (b :: rest))
          (Token.comma.text.toList ++ (",".intercalate ((b :: rest).map fun a => (token a).text)).toList) :=
        (ih (by simp) hrest).cons trivial trivial fun j us hus => ⟨j, us, rfl, hus⟩
      refine hcomma.cons ha (Token.endsBefore_of_head? _ ?_) ?_
      · intro c hc
        cases hc
        decide
      · rintro i _ ⟨j, us, rfl, hus⟩
        exact hmore a i j us _ hus

theorem isWritten_names {names : List String} (hne : names ≠ []) (hwords : ∀ name ∈ names, IsWord name) :
    IsWritten (IsNames · names) (",".intercalate names).toList := by
  have h := isWritten_commas (R := IsNames) IsNames.last (fun name i j _ _ => .more name i j) hne hwords
  simpa [Token.text] using h

theorem isWritten_codes {codes : List Code} (hne : codes ≠ []) :
    IsWritten (IsCodes · codes) (",".intercalate (codes.map fun c => toString c.toNat)).toList :=
  isWritten_commas (R := IsCodes) (fun c i => .last i (Text.natOfDigits_toString c.toNat))
    (fun c i j _ _ => .more i j (Text.natOfDigits_toString c.toNat)) hne fun c _ => Text.isNumeral_toString c.toNat

/-- What follows in brackets is closed after it. -/
theorem isWritten_closing {R S : List PlacedToken → Prop} {cs : List Char} (h : IsWritten R cs)
    (hS : ∀ k ts, R ts → S (ts ++ [⟨.closing, k⟩])) : IsWritten S (cs ++ Token.closing.text.toList) := by
  have hclosing : IsWritten (fun ts => ∃ k, ts = [⟨.closing, k⟩]) Token.closing.text.toList :=
    Token.isWritten_text trivial fun k => ⟨k, rfl⟩
  refine h.append ?_ hclosing ?_
  · intro c hc
    cases hc
    decide
  · rintro ts _ hts ⟨k, rfl⟩
    exact hS k ts hts

theorem isWritten_vars {names : List String} (hne : names ≠ []) (hwords : ∀ name ∈ names, IsWord name) :
    IsWritten (IsVars · names) (variablesText names).toList := by
  rw [variablesText, String.toList_append, String.toList_append, List.append_assoc]
  have hclosed : IsWritten (fun ts => ∃ us k, ts = us ++ [⟨.closing, k⟩] ∧ IsNames us names) _ :=
    isWritten_closing (isWritten_names hne hwords) fun k us hus => ⟨us, k, rfl, hus⟩
  refine hclosed.cons (t := .opening) trivial trivial ?_
  rintro i _ ⟨us, k, rfl, hus⟩
  exact .some i k hus

/-- A selection that is not empty is written. -/
theorem isWritten_selection {s : Selection} (hs : s.IsInhabited) : IsWritten (IsSelection · s) s.text.toList := by
  cases s with
  | all =>
    have hword : IsWord "all" := Token.isWord_of_all rfl (by decide)
    exact Token.isWritten_text (t := .word "all") hword fun i => .all i (by decide)
  | only codes => exact (isWritten_codes hs).imp fun ts hts => .only hts fun c => Iff.rfl

/-- A name with a selection in brackets is written as a hop. -/
theorem isWritten_hop {content : String × Selection} (hname : IsWord content.1) (hs : content.2.IsInhabited) :
    IsWritten (fun ts => ∃ spec, IsHop ts spec ∧ spec.content = content) (hopText content.1 content.2).toList := by
  obtain ⟨name, s⟩ := content
  rw [hopText, String.toList_append, String.toList_append, String.toList_append, List.append_assoc, List.append_assoc]
  have hclosed : IsWritten (fun ts => ∃ us k, ts = us ++ [⟨.closing, k⟩] ∧ IsSelection us s) _ :=
    isWritten_closing (isWritten_selection hs) fun k us hus => ⟨us, k, rfl, hus⟩
  have hopened : IsWritten (fun ts => ∃ us j k, ts = ⟨.opening, j⟩ :: (us ++ [⟨.closing, k⟩]) ∧ IsSelection us s)
      (Token.opening.text.toList ++ (s.text.toList ++ Token.closing.text.toList)) := by
    refine hclosed.cons trivial trivial ?_
    rintro j _ ⟨us, k, rfl, hus⟩
    exact ⟨us, j, k, rfl, hus⟩
  refine hopened.cons (t := .word name) hname (Token.endsBefore_of_head? _ ?_) ?_
  · intro c hc
    cases hc
    decide
  · rintro i _ ⟨us, j, k, rfl, hus⟩
    exact ⟨⟨name, s, i⟩, .mk name i j k hus, rfl⟩

/-- Hops are written with arrows between them and before what comes last. -/
theorem isWritten_hops {S : List PlacedToken → Prop} {last : String} (hlast : IsWritten S last.toList)
    {contents : List (String × Selection)} (hne : contents ≠ [])
    (hcontents : ∀ content ∈ contents, IsWord content.1 ∧ content.2.IsInhabited) :
    IsWritten (fun ts => ∃ hs i us specs, ts = hs ++ ⟨.arrow, i⟩ :: us ∧ IsHops hs specs ∧
        specs.map WrittenHop.content = contents ∧ S us)
      (" -> ".intercalate (contents.map (fun content => hopText content.1 content.2) ++ [last])).toList := by
  induction contents with
  | nil => exact absurd rfl hne
  | cons content rest ih =>
    obtain ⟨⟨hname, hs⟩, hrest⟩ := List.forall_mem_cons.1 hcontents
    rw [List.map_cons, List.cons_append, String.intercalate_cons_of_ne_nil (by simp), String.toList_append,
      String.toList_append, List.append_assoc]
    have hhop := isWritten_hop hname hs
    by_cases hnil : rest = []
    · subst hnil
      rw [List.map_nil, List.nil_append, String.intercalate_singleton]
      refine hhop.arrow hlast ?_
      rintro i ts us ⟨spec, hspec, rfl⟩ hus
      exact ⟨ts, i, us, [spec], rfl, .last hspec, rfl, hus⟩
    · refine hhop.arrow (ih hnil hrest) ?_
      rintro j ts _ ⟨spec, hspec, rfl⟩ ⟨hs, i, us, specs, rfl, hhops, rfl, hus⟩
      exact ⟨ts ++ ⟨.arrow, j⟩ :: hs, i, us, spec :: specs, by simp, .more j hspec hhops, rfl, hus⟩

theorem isWritten_anchor : IsWritten IsAnchor anchor.toList := by
  have hword : IsWord anchor := Token.isWord_of_all rfl (by decide)
  exact Token.isWritten_text (t := .word anchor) hword fun i => .mk i (by decide)

end Grammar

/-! ## Whole queries -/

section Spelled

variable {hops : List (String × Selection)} {vars : List String} (hne : hops ≠ [])
  (hhops : ∀ hop ∈ hops, Token.IsWord hop.1 ∧ hop.2.IsInhabited) (hvne : vars ≠ [])
  (hvars : ∀ name ∈ vars, Token.IsWord name)

include hne hhops hvne hvars

/-- The sample, the hops outward and the variables, with arrows between them. -/
theorem isSpelling_sampleFirst : IsSpelling .sampleFirst hops vars
    (" -> ".intercalate (anchor :: hops.map (fun hop => hopText hop.1 hop.2) ++ [variablesText vars])) := by
  have hrest := Grammar.isWritten_hops (Grammar.isWritten_vars hvne hvars) hne hhops
  have hall := Grammar.isWritten_anchor.arrow hrest (T := fun ts => ∃ p, Grammar.IsPath ts p ∧
    p.direction = .sampleFirst ∧ p.hops.map WrittenHop.content = hops ∧ p.vars = vars) ?_
  · obtain ⟨ts, hlayout, p, hp⟩ := hall 0
    refine ⟨ts, p, ?_, hp⟩
    rw [List.cons_append, String.intercalate_cons_of_ne_nil (by simp), String.toList_append, String.toList_append,
      List.append_assoc]
    exact hlayout
  · rintro i a _ ha ⟨hs, j, vs, specs, rfl, hspecs, rfl, hvs⟩
    exact ⟨_, .sampleFirst i j ha hspecs hvs, rfl, rfl, rfl⟩

end Spelled

/-! ## What is read can be shown -/

namespace Grammar

/-- A selection that is read is not empty. -/
theorem IsSelection.isInhabited {ts : List PlacedToken} {s : Selection} (h : IsSelection ts s) : s.IsInhabited := by
  cases h with
  | all => trivial
  | @only _ codes _ hcodes hset =>
    have hne : codes ≠ [] := by cases hcodes <;> simp
    obtain ⟨code, hcode⟩ := List.exists_mem_of_ne_nil codes hne
    exact List.ne_nil_of_mem ((hset code).2 hcode)

/-- The selections of hops that are read are not empty. -/
theorem IsHops.isInhabited {ts : List PlacedToken} {specs : List WrittenHop} (h : IsHops ts specs) :
    ∀ spec ∈ specs, spec.codes.IsInhabited := by
  have hhop : ∀ {ts spec}, IsHop ts spec → spec.codes.IsInhabited := by
    rintro _ _ ⟨_, _, _, _, hselection⟩
    exact hselection.isInhabited
  induction h with
  | last h => exact List.forall_mem_singleton.2 (hhop h)
  | more _ h _ ih => exact List.forall_mem_cons.2 ⟨hhop h, ih⟩

/-- The hops of a path are one at least, and none lists no code. -/
theorem IsPath.hops_isInhabited {ts : List PlacedToken} {p : WrittenPath} (h : IsPath ts p) :
    p.hops ≠ [] ∧ ∀ spec ∈ p.hops, spec.codes.IsInhabited := by
  cases h with
  | variablesFirst _ _ _ hhops _ =>
    exact ⟨mt List.reverse_eq_nil_iff.1 hhops.ne_nil,
      fun spec hspec => hhops.isInhabited spec (List.mem_reverse.1 hspec)⟩
  | sampleFirst _ _ _ hhops _ => exact ⟨hhops.ne_nil, hhops.isInhabited⟩

end Grammar

/-- The names of the contexts are words. -/
theorem Context.isWord_name (c : Context) : Token.IsWord c.name := by
  cases c with
  | family => exact Token.isWord_of_all rfl (by decide)
  | colleagues => exact Token.isWord_of_all rfl (by decide)
  | neighbors => exact Token.isWord_of_all rfl (by decide)
  | schoolmates => exact Token.isWord_of_all rfl (by decide)
  | housemates => exact Token.isWord_of_all rfl (by decide)

/-- What a hop is written as. -/
def Hop.content (hop : Hop) : String × Selection := (hop.context.name, hop.codes)

namespace Query

/-- A query that is read can be shown. -/
theorem isWellFormed_of_ofText {text : String} {q : Query} (h : Query.ofText text = .ok q) : q.IsWellFormed := by
  obtain ⟨hvne, hnodup, hwords⟩ := vars_of_ofText h
  unfold Query.ofText at h
  split at h
  · cases h
  · next p hread =>
    obtain ⟨-, ts, -, hpath⟩ := WrittenPath.ofText_eq_ok_iff.1 hread
    obtain ⟨hne, hinhabited⟩ := hpath.hops_isInhabited
    obtain ⟨-, hmeant, -, -⟩ := WrittenPath.check_eq_ok_iff.1 h
    have hhop : ∀ hop ∈ q.hops, ∃ spec ∈ p.hops, Hop.IsMeant spec.content hop :=
      exists_mem_left_of_forall₂ (List.forall₂_map_left_iff.1 hmeant)
    refine ⟨?_, ?_, ?_, hvne, hnodup, hwords⟩
    · intro hnil
      rw [hnil, List.forall₂_nil_right_iff, List.map_eq_nil_iff] at hmeant
      exact hne hmeant
    · intro hop hmem
      obtain ⟨spec, hspec, -, hcodes, -⟩ := hhop hop hmem
      rw [hcodes]
      exact hinhabited spec hspec
    · intro hop hmem
      obtain ⟨_, _, -, -, hwithin⟩ := hhop hop hmem
      exact hwithin

/-- The normal form of a query spells out its hops and variables. -/
theorem IsWellFormed.isSpelling_text {q : Query} (h : q.IsWellFormed) :
    IsSpelling .sampleFirst (q.hops.map Hop.content) q.vars q.text := by
  have hne : q.hops.map Hop.content ≠ [] := mt List.map_eq_nil_iff.1 h.hops_ne_nil
  have hhops : ∀ content ∈ q.hops.map Hop.content, Token.IsWord content.1 ∧ content.2.IsInhabited := by
    intro content hcontent
    obtain ⟨hop, hmem, rfl⟩ := List.mem_map.1 hcontent
    exact ⟨hop.context.isWord_name, h.inhabited hop hmem⟩
  have hspelling := isSpelling_sampleFirst hne hhops h.vars_ne_nil h.vars_words
  rw [List.map_map] at hspelling
  exact hspelling

/-- The normal form is read as the query that it shows. -/
theorem IsWellFormed.ofText_text {q : Query} (h : q.IsWellFormed) :
    Query.ofText q.text = .ok { q with direction := .sampleFirst } := by
  obtain ⟨p, hread, hdirection, hhops, hvars⟩ := isSpelling_iff.1 h.isSpelling_text
  unfold Query.ofText
  simp only [hread]
  rw [WrittenPath.check_eq_ok_iff, hhops, hvars, hdirection, List.forall₂_map_left_iff, List.forall₂_same]
  refine ⟨h.vars_ne_nil, fun hop hmem => ?_, rfl, (eraseDups_of_nodup h.vars_nodup).symm⟩
  exact ⟨Context.ofText_name hop.context, rfl, h.within hop hmem⟩

/-- Queries that can be shown and have the same normal form mean the same. -/
theorem IsWellFormed.eq_of_tokens_eq {q q' : Query} (h : q.IsWellFormed) (h' : q'.IsWellFormed)
    (htokens : q.tokens = q'.tokens) : q.hops = q'.hops ∧ q.vars = q'.vars := by
  have htext : q.text = q'.text := congrArg (" -> ".intercalate ·) htokens
  have hread := h.ofText_text
  rw [htext, h'.ofText_text, Except.ok.injEq, Query.mk.injEq] at hread
  exact ⟨hread.2.1.symm, hread.2.2.symm⟩

/-- What is read can be shown, and what is shown is read as the same query, from the sample. So the normal form of a
normal form is itself, and queries that are read and have the same normal form have the same hops and variables. -/
theorem normalForm_roundTrip :
    (∀ text q, Query.ofText text = .ok q → q.IsWellFormed) ∧
    (∀ q : Query, q.IsWellFormed → Query.ofText q.text = .ok { q with direction := .sampleFirst }) ∧
    (∀ text q, Query.ofText text = .ok q → ∃ q', Query.ofText q.text = .ok q' ∧ q'.tokens = q.tokens ∧
      q'.text = q.text) ∧
    ∀ text text' q q', Query.ofText text = .ok q → Query.ofText text' = .ok q' → q.tokens = q'.tokens →
      q.hops = q'.hops ∧ q.vars = q'.vars := by
  refine ⟨fun text q => isWellFormed_of_ofText, fun q => IsWellFormed.ofText_text, ?_, ?_⟩
  · intro text q h
    exact ⟨_, (isWellFormed_of_ofText h).ofText_text, rfl, rfl⟩
  · intro text text' q q' h h' htokens
    exact (isWellFormed_of_ofText h).eq_of_tokens_eq (isWellFormed_of_ofText h') htokens

/-- Two ways of asking for the age and the income of the colleagues of parents and co-parents. -/
theorem colleaguesOfParents_normalForm :
    let hops := [⟨.family, .only (AscSet.ofList [301, 302])⟩, Hop.all .colleagues]
    let inward : Query := ⟨.variablesFirst, hops, ["Age", "Income"]⟩
    let outward : Query := ⟨.sampleFirst, hops, ["Age", "Income"]⟩
    Query.ofText "[Age, Income, Age] -> Colleagues[ALL] -> Family[302,301] -> sample" = .ok inward ∧
      Query.ofText "sample->Family[0301,302]->Colleagues[all]->[Age,Income]" = .ok outward ∧ inward.IsWellFormed ∧
      inward.text = "sample -> Family[301,302] -> Colleagues[all] -> [Age,Income]" ∧
      Query.ofText inward.text = .ok outward ∧
      (∃ q, Query.ofText inward.text = .ok q ∧ q.tokens = inward.tokens ∧ q.text = inward.text) ∧
      inward.hops = outward.hops ∧ inward.vars = outward.vars := by
  intro hops inward outward
  have hinward : Query.ofText "[Age, Income, Age] -> Colleagues[ALL] -> Family[302,301] -> sample" = .ok inward := by
    decide +kernel
  have houtward : Query.ofText "sample->Family[0301,302]->Colleagues[all]->[Age,Income]" = .ok outward := by
    decide +kernel
  obtain ⟨hwellFormed, hread, hagain, hmeaning⟩ := normalForm_roundTrip
  have hinwardForm : inward.IsWellFormed := hwellFormed _ _ hinward
  exact ⟨hinward, houtward, hinwardForm, by decide +kernel, hread _ hinwardForm, hagain _ _ hinward,
    hmeaning _ _ _ _ hinward houtward rfl⟩

end Query

end TieWalk
