import Mathlib.Data.List.Chain
import TieWalk.Proofs.Query.Layout

/-!
# Texts in pieces

A text falls into pieces, each a token with the gap of spacing in front of it, up to an end in which no token is left.
Scanning goes through the pieces one by one (`scan_spell`), and every text falls into pieces (`exists_spell`), so what
scanning gives is seen from them: the tokens of all pieces where the end is spacing, and otherwise the place in the end
at which no token starts. Pieces can be put together as one pleases, if a gap is kept between two tokens that would else
run into one another.
-/

namespace TieWalk

namespace Token

/-! ## Pieces -/

/-- A token with the gap in front of it. -/
structure Piece where
  gap : List Char
  token : Token

/-- The gap is spacing, and the token is one. -/
def Piece.IsProper (p : Piece) : Prop := (∀ c ∈ p.gap, isSpacing c = true) ∧ p.token.IsProper

/-- The text of pieces one after another, and what comes after them. -/
def spell (pieces : List Piece) (after : List Char) : List Char :=
  pieces.foldr (fun p rest => p.gap ++ (p.token.text.toList ++ rest)) after

/-- The tokens of pieces that stand one after another from a byte offset on, each at the offset of its own first byte.
-/
def place (start : Nat) : List Piece → List PlacedToken
  | [] => []
  | p :: rest => ⟨p.token, start + width p.gap⟩ :: place (start + width p.gap + width p.token.text.toList) rest

/-- Proper pieces, whose tokens all go as far as they can in what follows them. -/
def AreWhole (after : List Char) : List Piece → Prop
  | [] => True
  | p :: rest => p.IsProper ∧ p.token.EndsBefore (spell rest after) ∧ AreWhole after rest

/-- No token stands at the start of a text. -/
def StartsNone (cs : List Char) : Prop := ∀ t : Token, t.IsProper → ¬t.text.toList <+: cs

/-- After whole tokens and spacing, the text comes to a character at which no token starts. -/
def IsStray (cs : List Char) (offset : Nat) (found : Char) : Prop :=
  ∃ pieces gap rest, cs = spell pieces (gap ++ found :: rest) ∧ AreWhole (gap ++ found :: rest) pieces ∧
    (∀ c ∈ gap, isSpacing c = true) ∧ isSpacing found = false ∧ StartsNone (found :: rest) ∧
    offset = width (spell pieces gap)

/-- Two tokens that are read as one, or as others, where nothing stands between them. -/
def RunsInto : Token → Token → Prop
  | .word _, .word _ => True
  | .word _, .number _ => True
  | .number _, .number _ => True
  | _, _ => False

/-- There is a gap between tokens that would run into one another. -/
def AreApart (pieces : List Piece) : Prop := pieces.IsChain fun p q => p.token.RunsInto q.token → q.gap ≠ []

variable {pieces : List Piece} {after gap rest : List Char}

theorem spell_cons (p : Piece) (pieces : List Piece) (after : List Char) :
    spell (p :: pieces) after = p.gap ++ (p.token.text.toList ++ spell pieces after) := rfl

/-- Pieces are spelled out before what comes after them. -/
theorem spell_eq_append (pieces : List Piece) (after : List Char) : spell pieces after = spell pieces [] ++ after := by
  induction pieces with
  | nil => rfl
  | cons p pieces ih => rw [spell_cons, spell_cons, ih, List.append_assoc, List.append_assoc]

/-! ## Texts at which a token starts -/

/-- A token at the start of a text goes on to a whole one. -/
theorem exists_whole {t : Token} (ht : t.IsProper) (rest : List Char) :
    ∃ (u : Token) (rest' : List Char), u.IsProper ∧ u.EndsBefore rest' ∧
      t.text.toList ++ rest = u.text.toList ++ rest' := by
  cases t with
  | arrow => exact ⟨.arrow, rest, trivial, trivial, rfl⟩
  | opening => exact ⟨.opening, rest, trivial, trivial, rfl⟩
  | closing => exact ⟨.closing, rest, trivial, trivial, rfl⟩
  | comma => exact ⟨.comma, rest, trivial, trivial, rfl⟩
  | word w =>
    obtain ⟨c, part, hw, hstart, hpart⟩ := ht
    refine ⟨.word (String.ofList (c :: (part ++ rest.takeWhile isWordPart))), rest.dropWhile isWordPart,
      ⟨c, _, String.toList_ofList, hstart, fun x hx => ?_⟩, eq_false_of_mem_head?_dropWhile, ?_⟩
    · exact (List.mem_append.1 hx).elim (hpart x) List.mem_takeWhile_imp
    · simp [text, hw]
  | number digits =>
    refine ⟨.number (String.ofList (digits.toList ++ rest.takeWhile Char.isDigit)), rest.dropWhile Char.isDigit, ?_,
      eq_false_of_mem_head?_dropWhile, ?_⟩
    · obtain ⟨hsome, hall⟩ := Bool.and_eq_true_iff.1 ht
      have hne : digits.toList ≠ [] := by simpa using hsome
      have hmore : (rest.takeWhile Char.isDigit).all Char.isDigit = true :=
        List.all_eq_true.2 fun x hx => List.mem_takeWhile_imp hx
      rw [IsProper, String.toList_ofList, Text.isNumeral, List.all_append, hall, hmore]
      simp [hne]
    · simp [text]

/-- Nothing is read off a text exactly when no token starts it. -/
theorem first?_eq_none_iff {cs : List Char} : first? cs = none ↔ StartsNone cs := by
  constructor
  · rintro h t ht ⟨rest, rfl⟩
    obtain ⟨u, rest', hu, hends, heq⟩ := exists_whole ht rest
    rw [heq, first?_append hu hends] at h
    cases h
  · intro h
    by_contra hsome
    obtain ⟨⟨t, rest⟩, hfirst⟩ := Option.ne_none_iff_exists'.1 hsome
    obtain ⟨hproper, -, hcs⟩ := of_first?_eq_some hfirst
    exact h t hproper ⟨rest, hcs.symm⟩

/-- Scanning stops at a character at which no token starts. -/
theorem scan_stray {c : Char} (hgap : ∀ x ∈ gap, isSpacing x = true) (hc : isSpacing c = false)
    (hnone : StartsNone (c :: rest)) (start : Nat) : scan start (gap ++ c :: rest) = .error ⟨start + width gap, c⟩ := by
  have hhead : ∀ x ∈ (c :: rest).head?, isSpacing x = false := by simpa using hc
  obtain ⟨htake, hdrop⟩ := takeWhile_dropWhile_append hgap hhead
  rw [scan]
  split
  · next hnil =>
    rw [hdrop] at hnil
    cases hnil
  · next c' after hcs =>
    rw [hdrop] at hcs
    cases hcs
    simp only [htake]
    split
    · rfl
    · next hsome =>
      rw [first?_eq_none_iff.2 hnone] at hsome
      cases hsome

/-! ## Scanning pieces -/

/-- Whole pieces are scanned one by one, and then what comes after them. -/
theorem scan_spell (h : AreWhole after pieces) (start : Nat) :
    scan start (spell pieces after) = (scan (start + width (spell pieces [])) after).map (place start pieces ++ ·) := by
  induction pieces generalizing start with
  | nil =>
    show scan start after = (scan start after).map fun ts => ts
    cases scan start after <;> rfl
  | cons p pieces ih =>
    obtain ⟨⟨hgap, hproper⟩, hends, hrest⟩ := h
    rw [spell_cons, spell_cons, scan_token hgap hproper hends, ih hrest, width_append, width_append]
    simp only [← Nat.add_assoc]
    cases scan (start + width p.gap + width p.token.text.toList + width (spell pieces [])) after <;> rfl

/-- Every text falls into whole pieces and an end: spacing, or spacing and a character at which no token starts. -/
theorem exists_spell (cs : List Char) : ∃ pieces after, cs = spell pieces after ∧ AreWhole after pieces ∧
    ((∀ c ∈ after, isSpacing c = true) ∨ ∃ gap c rest, after = gap ++ c :: rest ∧ (∀ x ∈ gap, isSpacing x = true) ∧
      isSpacing c = false ∧ StartsNone (c :: rest)) := by
  induction hn : cs.length using Nat.strongRecOn generalizing cs with
  | ind n ih =>
    have hcut : cs.takeWhile isSpacing ++ cs.dropWhile isSpacing = cs := List.takeWhile_append_dropWhile
    have hgap : ∀ c ∈ cs.takeWhile isSpacing, isSpacing c = true := fun c hc => List.mem_takeWhile_imp hc
    cases hdrop : cs.dropWhile isSpacing with
    | nil =>
      rw [hdrop, List.append_nil] at hcut
      exact ⟨[], cs, rfl, trivial, .inl (hcut ▸ hgap)⟩
    | cons c after =>
      have hhead : c ∈ (cs.dropWhile isSpacing).head? := by
        rw [hdrop]
        rfl
      have hc : isSpacing c = false := eq_false_of_mem_head?_dropWhile c hhead
      cases hfirst : first? (c :: after) with
      | none =>
        refine ⟨[], cs, rfl, trivial,
          .inr ⟨cs.takeWhile isSpacing, c, after, ?_, hgap, hc, first?_eq_none_iff.1 hfirst⟩⟩
        rw [← hdrop, hcut]
      | some x =>
        obtain ⟨t, rest⟩ := x
        obtain ⟨hproper, hends, htext⟩ := of_first?_eq_some hfirst
        have hshorter : rest.length < n := by
          have hle := length_dropWhile_le isSpacing cs
          have hlt := length_lt_of_first? hfirst
          rw [hdrop] at hle
          omega
        obtain ⟨pieces, last, rfl, hwhole, hlast⟩ := ih rest.length hshorter rest rfl
        refine ⟨⟨cs.takeWhile isSpacing, t⟩ :: pieces, last, ?_, ⟨⟨hgap, hproper⟩, hends, hwhole⟩, hlast⟩
        rw [spell_cons, ← htext, ← hdrop, hcut]

/-- A text is scanned into the tokens of whole pieces before spacing. -/
theorem scan_eq_ok_iff_spell {cs : List Char} {ts : List PlacedToken} : scan 0 cs = .ok ts ↔
    ∃ pieces gap, cs = spell pieces gap ∧ AreWhole gap pieces ∧ (∀ c ∈ gap, isSpacing c = true) ∧
      ts = place 0 pieces := by
  have hread : ∀ {pieces gap}, AreWhole gap pieces → (∀ c ∈ gap, isSpacing c = true) →
      scan 0 (spell pieces gap) = .ok (place 0 pieces) := by
    intro pieces gap hwhole hgap
    rw [scan_spell hwhole, scan_gap hgap]
    exact congrArg Except.ok (List.append_nil _)
  constructor
  · intro h
    obtain ⟨pieces, after, rfl, hwhole, hgap | ⟨gap, c, rest, rfl, hgap, hc, hnone⟩⟩ := exists_spell cs
    · rw [hread hwhole hgap] at h
      cases h
      exact ⟨pieces, after, rfl, hwhole, hgap, rfl⟩
    · rw [scan_spell hwhole, scan_stray hgap hc hnone] at h
      cases h
  · rintro ⟨pieces, gap, rfl, hwhole, hgap, rfl⟩
    exact hread hwhole hgap

/-- Scanning fails where the text comes, after whole tokens, to a character at which no token starts. -/
theorem scan_eq_error_iff {cs : List Char} {offset : Nat} {found : Char} :
    scan 0 cs = .error ⟨offset, found⟩ ↔ IsStray cs offset found := by
  have hread : ∀ {pieces gap c rest}, AreWhole (gap ++ c :: rest) pieces → (∀ x ∈ gap, isSpacing x = true) →
      isSpacing c = false → StartsNone (c :: rest) →
      scan 0 (spell pieces (gap ++ c :: rest)) = .error ⟨width (spell pieces gap), c⟩ := by
    intro pieces gap c rest hwhole hgap hc hnone
    rw [scan_spell hwhole, scan_stray hgap hc hnone, spell_eq_append pieces gap, width_append, Nat.zero_add]
    rfl
  constructor
  · intro h
    obtain ⟨pieces, after, rfl, hwhole, hgap | ⟨gap, c, rest, rfl, hgap, hc, hnone⟩⟩ := exists_spell cs
    · rw [scan_spell hwhole, scan_gap hgap] at h
      cases h
    · rw [hread hwhole hgap hc hnone] at h
      cases h
      exact ⟨pieces, gap, rest, rfl, hwhole, hgap, hc, hnone, rfl⟩
  · rintro ⟨pieces, gap, rest, rfl, hwhole, hgap, hc, hnone, rfl⟩
    exact hread hwhole hgap hc hnone

/-! ## Places in a text -/

/-- The bytes of a text, counted character by character. -/
theorem utf8ByteSize_ofList (cs : List Char) : (String.ofList cs).utf8ByteSize = width cs := by
  induction cs with
  | nil => rfl
  | cons c cs ih =>
    rw [← List.singleton_append, String.ofList_append, String.utf8ByteSize_append, ih, width_append,
      ← String.singleton_eq_ofList, String.utf8ByteSize_singleton]
    rfl

/-- The text of a token stands in a text from a byte offset on, and what comes after it does not belong to it. -/
def StandsAt (text : String) (t : Token) (offset : Nat) : Prop :=
  ∃ before after : String, text = before ++ t.text ++ after ∧ before.utf8ByteSize = offset ∧ t.EndsBefore after.toList

/-- The token of a piece stands where its piece is placed. -/
theorem exists_of_mem_place {start : Nat} (h : AreWhole after pieces) {t : PlacedToken} (ht : t ∈ place start pieces) :
    ∃ before rest, spell pieces after = before ++ (t.token.text.toList ++ rest) ∧ t.offset = start + width before ∧
      t.token.EndsBefore rest := by
  induction pieces generalizing start with
  | nil => cases ht
  | cons p pieces ih =>
    obtain ⟨-, hends, hrest⟩ := h
    rcases List.mem_cons.1 ht with rfl | ht
    · exact ⟨p.gap, spell pieces after, rfl, rfl, hends⟩
    · obtain ⟨before, rest, htext, hoffset, hends'⟩ := ih hrest ht
      refine ⟨p.gap ++ (p.token.text.toList ++ before), rest, ?_, ?_, hends'⟩
      · rw [spell_cons, htext, List.append_assoc, List.append_assoc]
      · rw [hoffset, width_append, width_append]
        omega

/-- Every token stands in the text at its offset. -/
theorem standsAt_of_scan {text : String} {ts : List PlacedToken} (h : scan 0 text.toList = .ok ts) :
    ∀ t ∈ ts, StandsAt text t.token t.offset := by
  obtain ⟨pieces, gap, htext, hwhole, -, rfl⟩ := scan_eq_ok_iff_spell.1 h
  intro t ht
  obtain ⟨before, rest, hspell, hoffset, hends⟩ := exists_of_mem_place hwhole ht
  refine ⟨String.ofList before, String.ofList rest, ?_, ?_, by rwa [String.toList_ofList]⟩
  · apply String.toList_injective
    rw [htext, hspell]
    simp
  · rw [utf8ByteSize_ofList, hoffset, Nat.zero_add]

/-! ## Pieces put together -/

/-- Spacing is no part of a word. -/
theorem isWordPart_eq_false_of_isSpacing {c : Char} (h : isSpacing c = true) : isWordPart c = false := by
  rcases isSpacing_iff.1 h with rfl | rfl | rfl | rfl
  all_goals decide

/-- A token ends before one that it does not run into. -/
theorem endsBefore_of_not_runsInto {t u : Token} (hu : u.IsProper) (h : ¬t.RunsInto u) (rest : List Char) :
    t.EndsBefore (u.text.toList ++ rest) := by
  cases t with
  | arrow | opening | closing | comma => trivial
  | word w =>
    cases u with
    | word _ | number _ => exact absurd trivial h
    | arrow | opening | closing | comma =>
      rintro c ⟨⟩
      decide
  | number digits =>
    cases u with
    | number _ => exact absurd trivial h
    | word w =>
      obtain ⟨first, part, hw, hstart, -⟩ := hu
      intro c hc
      rw [show (Token.word w).text.toList = first :: part from hw] at hc
      cases hc
      exact isDigit_eq_false_of_isWordStart hstart
    | arrow | opening | closing | comma =>
      rintro c ⟨⟩
      decide

/-- Tokens end before spacing. -/
theorem endsBefore_of_spacing (t : Token) (hgap : ∀ c ∈ gap, isSpacing c = true) : t.EndsBefore gap :=
  t.endsBefore_of_head? fun c hc => isWordPart_eq_false_of_isSpacing (hgap c (List.mem_of_mem_head? hc))

/-- Proper pieces that are kept apart are whole before spacing. -/
theorem areWhole_of_areApart (hproper : ∀ p ∈ pieces, p.IsProper) (h : AreApart pieces)
    (hgap : ∀ c ∈ gap, isSpacing c = true) : AreWhole gap pieces := by
  induction pieces with
  | nil => trivial
  | cons p pieces ih =>
    obtain ⟨hp, hpieces⟩ := List.forall_mem_cons.1 hproper
    refine ⟨hp, ?_, ih hpieces h.tail⟩
    cases pieces with
    | nil => exact p.token.endsBefore_of_spacing hgap
    | cons q pieces =>
      obtain ⟨hq, -⟩ := List.forall_mem_cons.1 hpieces
      have hapart : p.token.RunsInto q.token → q.gap ≠ [] := (List.isChain_cons_cons.1 h).1
      rw [spell_cons]
      cases hqgap : q.gap with
      | nil => exact endsBefore_of_not_runsInto hq.2 (fun hruns => hapart hruns hqgap) _
      | cons c more =>
        -- The gap decides: what comes after its first character is not looked at.
        refine p.token.endsBefore_of_head? fun c' hc' => ?_
        cases hc'
        exact isWordPart_eq_false_of_isSpacing (hq.1 c (hqgap ▸ List.mem_cons_self))

/-- Nothing of a text is lost or added when it is scanned: it is spelled by whole tokens with spacing around them, and
they are what is found, each standing in the text at its byte offset. A text is refused at the first character, after
whole tokens, at which no token starts. Pieces that are put together with gaps wherever two tokens would run into one
another are found again. -/
theorem scan_is_lossless (text : String) :
    (∀ ts, scan 0 text.toList = .ok ts ↔ ∃ pieces gap, text.toList = spell pieces gap ∧ AreWhole gap pieces ∧
      (∀ c ∈ gap, isSpacing c = true) ∧ ts = place 0 pieces) ∧
    (∀ ts, scan 0 text.toList = .ok ts → ∀ t ∈ ts, StandsAt text t.token t.offset) ∧
    (∀ offset found, scan 0 text.toList = .error ⟨offset, found⟩ ↔ IsStray text.toList offset found) ∧
    ∀ pieces gap, text.toList = spell pieces gap → (∀ p ∈ pieces, p.IsProper) → AreApart pieces →
      (∀ c ∈ gap, isSpacing c = true) → scan 0 text.toList = .ok (place 0 pieces) := by
  refine ⟨fun ts => scan_eq_ok_iff_spell, fun ts => standsAt_of_scan, fun offset found => scan_eq_error_iff, ?_⟩
  intro pieces gap htext hproper hapart hgap
  exact scan_eq_ok_iff_spell.2 ⟨pieces, gap, htext, areWhole_of_areApart hproper hapart hgap, hgap, rfl⟩

/-- A number and a word side by side, words with a point, a letter of two bytes and a numeral that is no digit, and no
gap around an arrow. -/
def crowdedPieces : List Piece :=
  [⟨['\t'], .number "301"⟩, ⟨[], .word "abc"⟩, ⟨[' '], .word "é.b"⟩, ⟨[], .arrow⟩, ⟨[], .word "_½"⟩]

/-- The crowded pieces are found where they stand, and a point behind a number is where scanning stops. -/
theorem crowdedPieces_scanned :
    (∀ p ∈ crowdedPieces, p.IsProper) ∧ AreApart crowdedPieces ∧
    scan 0 "\t301abc é.b->_½\r\n".toList =
      .ok [⟨.number "301", 1⟩, ⟨.word "abc", 4⟩, ⟨.word "é.b", 8⟩, ⟨.arrow, 12⟩, ⟨.word "_½", 14⟩] ∧
    StandsAt "\t301abc é.b->_½\r\n" .arrow 12 ∧
    IsStray "a.1 1.5".toList 5 '.' := by
  have hproper : ∀ p ∈ crowdedPieces, p.IsProper := by
    have habc : IsWord "abc" := ⟨'a', ['b', 'c'], rfl, by decide, List.all_eq_true.1 (by decide)⟩
    have hpoint : IsWord "é.b" := ⟨'é', ['.', 'b'], rfl, by decide +kernel, List.all_eq_true.1 (by decide)⟩
    have hnumeral : IsWord "_½" := ⟨'_', ['½'], rfl, by decide, List.all_eq_true.1 (by decide +kernel)⟩
    have hspacing : ∀ p ∈ crowdedPieces, ∀ c ∈ p.gap, isSpacing c = true := by simp [crowdedPieces, isSpacing]
    intro p hp
    refine ⟨hspacing p hp, ?_⟩
    simp only [crowdedPieces, List.mem_cons, List.not_mem_nil, or_false] at hp
    rcases hp with rfl | rfl | rfl | rfl | rfl
    · exact rfl
    · exact habc
    · exact hpoint
    · exact trivial
    · exact hnumeral
  have hapart : AreApart crowdedPieces := by
    simp [AreApart, crowdedPieces, RunsInto]
  have hscan : scan 0 "\t301abc é.b->_½\r\n".toList = .ok (place 0 crowdedPieces) :=
    (scan_is_lossless _).2.2.2 crowdedPieces ['\r', '\n'] (by decide +kernel) hproper hapart
      (List.all_eq_true.1 (by decide))
  refine ⟨hproper, hapart, hscan, (scan_is_lossless _).2.1 _ hscan ⟨.arrow, 12⟩ (by decide +kernel), ?_⟩
  exact ((scan_is_lossless _).2.2.1 _ _).1 (by decide +kernel)

end Token

end TieWalk
