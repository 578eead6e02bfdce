import TieWalk.Proofs.Query.Checking
import TieWalk.Proofs.Query.Layout
import TieWalk.Proofs.Query.Reading

/-!
# Spellings of a query

The same hops and variables can be written in many ways: from the sample or from the variables, with more or less
spacing, each set of codes in any order, with repeats and leading zeros, and the two words of the grammar in any case. A
spelling is a layout of tokens that the grammar derives. Whatever the spelling, the outcome is the same, the direction
apart (`Query.ofText_eq_of_spellings`).
-/

namespace TieWalk

/-! ## Texts that are not blank -/

namespace Text

/-- The blank characters, one by one. -/
def blanks : List Char :=
  ([9, 10, 11, 12, 13, 0x20, 0x85, 0xA0, 0x1680, 0x2000, 0x2001, 0x2002, 0x2003, 0x2004, 0x2005, 0x2006, 0x2007, 0x2008,
    0x2009, 0x200A, 0x2028, 0x2029, 0x202F, 0x205F, 0x3000] : List Nat).map Char.ofNat

theorem mem_blanks {c : Char} (h : isBlank c = true) : c ∈ blanks := by
  rw [blanks, List.mem_map]
  refine ⟨c.toNat, ?_, Char.ofNat_toNat c⟩
  simp only [isBlank, Bool.or_eq_true, Bool.and_eq_true, decide_eq_true_eq, beq_iff_eq] at h
  simp only [List.mem_cons, List.not_mem_nil, or_false]
  omega

end Text

namespace Token

/-- A token has a character that is not blank. -/
theorem exists_not_isBlank {t : Token} (ht : t.IsProper) : ∃ c ∈ t.text.toList, Text.isBlank c = false := by
  cases t with
  | arrow => exact ⟨'-', by decide, by decide⟩
  | opening => exact ⟨'[', by decide, by decide⟩
  | closing => exact ⟨']', by decide, by decide⟩
  | comma => exact ⟨',', by decide, by decide⟩
  | word w =>
    obtain ⟨c, rest, hw, hstart, -⟩ := ht
    refine ⟨c, by simp [text, hw], ?_⟩
    by_contra hblank
    have hnone : Text.blanks.any isWordStart = false := by decide +kernel
    exact List.any_eq_false.1 hnone c (Text.mem_blanks (by simpa using hblank)) hstart
  | number digits =>
    obtain ⟨c, rest, hdigits⟩ : ∃ c rest, digits.toList = c :: rest := by
      refine List.exists_cons_of_ne_nil fun hnil => ?_
      simp [IsProper, Text.isNumeral, hnil] at ht
    refine ⟨c, by simp [text, hdigits], ?_⟩
    have hdigit : c.isDigit = true := by
      simp only [IsProper, Text.isNumeral, hdigits, List.all_cons, Bool.and_eq_true] at ht
      exact ht.2.1
    by_contra hblank
    have hnone : Text.blanks.any Char.isDigit = false := by decide
    exact List.any_eq_false.1 hnone c (Text.mem_blanks (by simpa using hblank)) hdigit

/-- A text in which a token stands is not blank. -/
theorem IsLayout.isAllBlank_eq_false {start : Nat} {ts : List PlacedToken} {text : String}
    (h : IsLayout start ts text.toList) (hne : ts ≠ []) : Text.isAllBlank text = false := by
  unfold Text.isAllBlank
  generalize text.toList = cs at h
  cases h with
  | blank => exact absurd rfl hne
  | token _ hproper _ _ =>
    obtain ⟨c, hc, hblank⟩ := exists_not_isBlank hproper
    rw [List.all_eq_false]
    exact ⟨c, by simp [hc], by simp [hblank]⟩

end Token

theorem Grammar.IsPath.ne_nil {ts : List PlacedToken} {p : WrittenPath} (h : Grammar.IsPath ts p) : ts ≠ [] := by
  cases h <;> simp

/-! ## Spellings -/

/-- The text spells out the hops, outward from the sample, and the variables: it is a layout of tokens that the grammar
derives. -/
def IsSpelling (direction : Direction) (hops : List (String × Selection)) (vars : List String) (text : String) : Prop :=
  ∃ ts p, Token.IsLayout 0 ts text.toList ∧ Grammar.IsPath ts p ∧
    p.direction = direction ∧ p.hops.map WrittenHop.content = hops ∧ p.vars = vars

variable {direction direction' : Direction} {hops : List (String × Selection)} {vars : List String}
    {text text' : String}

/-- The spellings are the texts that are read as the hops and the variables. -/
theorem isSpelling_iff : IsSpelling direction hops vars text ↔
    ∃ p, WrittenPath.ofText text = .ok p ∧ p.direction = direction ∧ p.hops.map WrittenHop.content = hops ∧
      p.vars = vars := by
  constructor
  · rintro ⟨ts, p, hlayout, hpath, hp⟩
    have hblank : Text.isAllBlank text = false := hlayout.isAllBlank_eq_false hpath.ne_nil
    exact ⟨p, WrittenPath.ofText_eq_ok_iff.2 ⟨hblank, ts, Token.scan_eq_ok_iff.2 hlayout, hpath⟩, hp⟩
  · rintro ⟨p, hread, hp⟩
    obtain ⟨-, ts, hscan, hpath⟩ := WrittenPath.ofText_eq_ok_iff.1 hread
    exact ⟨ts, p, Token.scan_eq_ok_iff.1 hscan, hpath, hp⟩

/-- Two spellings of the same hops and variables are read alike, the direction apart. -/
theorem IsSpelling.ofText_eq (h : IsSpelling direction hops vars text) (h' : IsSpelling direction' hops vars text') :
    Query.ofText text' = (Query.ofText text).map fun q => { q with direction := direction' } := by
  obtain ⟨p, hread, -, rfl, rfl⟩ := isSpelling_iff.1 h
  obtain ⟨p', hread', rfl, hhops, hvars⟩ := isSpelling_iff.1 h'
  unfold Query.ofText
  simp only [hread, hread']
  exact WrittenPath.check_congr hhops.symm hvars.symm

/-- A spelling gives a query with its direction. -/
theorem IsSpelling.direction_eq (h : IsSpelling direction hops vars text) {q : Query} (hq : Query.ofText text = .ok q) :
    q.direction = direction := by
  obtain ⟨p, hread, rfl, -, -⟩ := isSpelling_iff.1 h
  unfold Query.ofText at hq
  rw [hread] at hq
  exact (WrittenPath.check_eq_ok_iff.1 hq).2.2.1

/-- A spelling is refused because it has no variable, for a context that is not known, or for a code that its context
does not have, never for its form. -/
theorem IsSpelling.cases_of_error (h : IsSpelling direction hops vars text) {e : QueryFault}
    (he : Query.ofText text = .error e) :
    e = .noVariables ∨ (∃ name, e = .unknownContext name) ∨ ∃ context code, e = .invalidCode context code := by
  obtain ⟨p, hread, -⟩ := isSpelling_iff.1 h
  unfold Query.ofText at he
  rw [hread] at he
  exact WrittenPath.cases_of_check_eq_error he

/-- However the same hops and variables are spelled, the outcome is the same: queries with the same hops, variables and
normal form, each with its own direction, or the same refusal of what is written. -/
theorem Query.ofText_eq_of_spellings (h : IsSpelling direction hops vars text)
    (h' : IsSpelling direction' hops vars text') :
    (∃ q q', Query.ofText text = .ok q ∧ Query.ofText text' = .ok q' ∧ q.direction = direction ∧
      q'.direction = direction' ∧ q'.hops = q.hops ∧ q'.vars = q.vars ∧ q'.tokens = q.tokens) ∨
    ∃ e, Query.ofText text = .error e ∧ Query.ofText text' = .error e ∧
      (e = .noVariables ∨ (∃ name, e = .unknownContext name) ∨ ∃ context code, e = .invalidCode context code) := by
  have hboth := h.ofText_eq h'
  cases hq : Query.ofText text with
  | ok q =>
    rw [hq] at hboth
    exact .inl ⟨q, _, rfl, hboth, h.direction_eq hq, rfl, rfl, rfl, rfl⟩
  | error e =>
    rw [hq] at hboth
    exact .inr ⟨e, rfl, hboth, h.cases_of_error hq⟩

/-- The parents' classmates, from the sample, and from the variables with more spacing, codes out of order and repeated.
-/
theorem classmatesOfParents_ofText_eq :
    let hops := [("Family", Selection.only (AscSet.ofList [301])), ("Schoolmates", .only (AscSet.ofList [501, 502]))]
    let outward := "sample->Family[301]->Schoolmates[501,502]->[Income]"
    let inward := "[Income] -> Schoolmates[ 0502, 501,502 ]\n\t-> Family[301,301] -> SAMPLE "
    IsSpelling .sampleFirst hops ["Income"] outward ∧ IsSpelling .variablesFirst hops ["Income"] inward ∧
      ((∃ q q', Query.ofText outward = .ok q ∧ Query.ofText inward = .ok q' ∧ q.direction = .sampleFirst ∧
        q'.direction = .variablesFirst ∧ q'.hops = q.hops ∧ q'.vars = q.vars ∧ q'.tokens = q.tokens) ∨
      ∃ e, Query.ofText outward = .error e ∧ Query.ofText inward = .error e ∧
        (e = .noVariables ∨ (∃ name, e = .unknownContext name) ∨ ∃ context code, e = .invalidCode context code)) := by
  intro hops outward inward
  have houtward : IsSpelling .sampleFirst hops ["Income"] outward :=
    isSpelling_iff.2 ⟨⟨.sampleFirst, [⟨"Family", .only (AscSet.ofList [301]), 8⟩,
      ⟨"Schoolmates", .only (AscSet.ofList [501, 502]), 21⟩], ["Income"]⟩, by decide +kernel⟩
  have hinward : IsSpelling .variablesFirst hops ["Income"] inward :=
    isSpelling_iff.2 ⟨⟨.variablesFirst, [⟨"Family", .only (AscSet.ofList [301]), 45⟩,
      ⟨"Schoolmates", .only (AscSet.ofList [501, 502]), 12⟩], ["Income"]⟩, by decide +kernel⟩
  exact ⟨houtward, hinward, Query.ofText_eq_of_spellings houtward hinward⟩

end TieWalk
