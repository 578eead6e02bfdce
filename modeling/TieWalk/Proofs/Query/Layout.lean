import Mathlib.Data.List.TakeWhile
import TieWalk.Query.Token
import TieWalk.Text.Decimal

/-!
# Layouts of tokens

A layout of tokens is a text in which they stand one after another with nothing but spacing around them, each at its
offset and each at its full length. Scanning gives tokens exactly when the text is a layout of them (`scan_eq_ok_iff`):
no character is lost, none is read twice, and how much spacing there is makes no difference.
-/

namespace TieWalk

namespace Token

/-- A letter or underscore, then letters, numerals, underscores and points. -/
def IsWord (w : String) : Prop :=
  ∃ c rest, w.toList = c :: rest ∧ isWordStart c = true ∧ ∀ x ∈ rest, isWordPart x = true

/-- The text of a word is a word, that of a number one or more digits. -/
def IsProper : Token → Prop
  | .word w => IsWord w
  | .number digits => Text.isNumeral digits.toList = true
  | _ => True

/-- The token ends where `rest` begins: its last character is followed by none that would belong to it. -/
def EndsBefore : Token → List Char → Prop
  | .word _, rest => ∀ c ∈ rest.head?, isWordPart c = false
  | .number _, rest => ∀ c ∈ rest.head?, c.isDigit = false
  | _, _ => True

/-- A layout, from a byte offset on: the tokens, with spacing before each of them and at the end. -/
inductive IsLayout : Nat → List PlacedToken → List Char → Prop where
  | blank {start : Nat} {gap : List Char} : (∀ c ∈ gap, isSpacing c = true) → IsLayout start [] gap
  | token {start : Nat} {gap rest : List Char} {t : Token} {ts : List PlacedToken} :
      (∀ c ∈ gap, isSpacing c = true) → t.IsProper → t.EndsBefore rest →
        IsLayout (start + width gap + width t.text.toList) ts rest →
          IsLayout start (⟨t, start + width gap⟩ :: ts) (gap ++ (t.text.toList ++ rest))

/-! ## Characters -/

/-- Digits and letters lie apart. -/
theorem isDigit_eq_false_of_isWordStart {c : Char} (h : isWordStart c = true) : c.isDigit = false := by
  by_contra hdigit
  have hrange : 48 ≤ c.toNat ∧ c.toNat ≤ 57 := Char.isDigit_iff_toNat.1 (by simpa using hdigit)
  simp only [isWordStart, Text.isLetter, Bool.or_eq_true, Bool.and_eq_true, decide_eq_true_eq, beq_iff_eq] at h
  rcases h with (h | ⟨h, -⟩) | rfl
  · rcases Bool.or_eq_true_iff.1 (show (c.isUpper || c.isLower) = true from h) with hcase | hcase
    · have hlow : 'A'.val ≤ c.val := (of_decide_eq_true hcase).1
      have hbound : 65 ≤ c.toNat := UInt32.le_iff_toNat_le.1 hlow
      omega
    · have hlow : 'a'.val ≤ c.val := of_decide_eq_true (Bool.and_eq_true_iff.1 hcase).1
      have hbound : 97 ≤ c.toNat := UInt32.le_iff_toNat_le.1 hlow
      omega
  · omega
  · exact absurd hrange (by decide)

/-- What stands between tokens starts none. -/
theorem isSpacing_iff {c : Char} : isSpacing c = true ↔ c = ' ' ∨ c = '\t' ∨ c = '\r' ∨ c = '\n' := by
  simp [isSpacing, or_assoc]

/-- No token starts with spacing. -/
theorem first?_eq_none_of_isSpacing {c : Char} (h : isSpacing c = true) (cs : List Char) : first? (c :: cs) = none := by
  rcases isSpacing_iff.1 h with rfl | rfl | rfl | rfl
  all_goals
    unfold first?
    rfl

/-! ## One token -/

/-- What a run of characters ends at does not belong to it. -/
theorem eq_false_of_mem_head?_dropWhile {p : Char → Bool} {l : List Char} :
    ∀ c ∈ (l.dropWhile p).head?, p c = false := by
  intro c hc
  have := List.head?_dropWhile_not p l
  rw [Option.mem_def.1 hc] at this
  simpa using this

/-- A run of characters that goes no further. -/
theorem takeWhile_dropWhile_append {p : Char → Bool} {l rest : List Char} (hl : ∀ c ∈ l, p c = true)
    (hrest : ∀ c ∈ rest.head?, p c = false) : (l ++ rest).takeWhile p = l ∧ (l ++ rest).dropWhile p = rest := by
  rw [List.takeWhile_append_of_pos hl, List.dropWhile_append_of_pos hl]
  cases rest with
  | nil => simp
  | cons c rest =>
    have hc : p c = false := hrest c rfl
    simp [hc]

/-- What is read off a text is a whole token, and the rest is the rest. -/
theorem of_first?_eq_some {cs rest : List Char} {t : Token} (h : first? cs = some (t, rest)) :
    t.IsProper ∧ t.EndsBefore rest ∧ cs = t.text.toList ++ rest := by
  unfold first? at h
  split at h
  case h_5 c after _ _ _ _ =>
    split at h
    · next hdigit =>
      cases h
      refine ⟨?_, eq_false_of_mem_head?_dropWhile, ?_⟩
      · have hall : (after.takeWhile Char.isDigit).all Char.isDigit = true :=
          List.all_eq_true.2 fun x hx => List.mem_takeWhile_imp hx
        simp [IsProper, Text.isNumeral, hdigit, hall]
      · simp [text]
    · split at h
      · next hstart =>
        cases h
        refine ⟨⟨c, _, String.toList_ofList, hstart, fun x hx => List.mem_takeWhile_imp hx⟩,
          eq_false_of_mem_head?_dropWhile, ?_⟩
        simp [text]
      · cases h
  case h_6 => cases h
  all_goals
    cases h
    exact ⟨trivial, trivial, rfl⟩

/-- The characters of the tokens that have one text each. -/
def marks : List Char := ['-', '[', ']', ',']

/-- What starts with no mark is a number, a word or nothing. -/
theorem first?_cons {c : Char} {after : List Char} (h : c ∉ marks) :
    first? (c :: after) =
      if c.isDigit then some (.number (String.ofList (c :: after.takeWhile Char.isDigit)), after.dropWhile Char.isDigit)
      else if isWordStart c then some (.word (String.ofList (c :: after.takeWhile isWordPart)),
        after.dropWhile isWordPart)
      else none := by
  unfold first?
  split
  case h_5 hc =>
    cases hc
    rfl
  case h_6 hc => cases hc
  all_goals
    rename_i hc
    cases hc
    simp [marks] at h

/-- A whole token is read off its text, whatever comes after it. -/
theorem first?_append {t : Token} {rest : List Char} (ht : t.IsProper) (hrest : t.EndsBefore rest) :
    first? (t.text.toList ++ rest) = some (t, rest) := by
  cases t with
  | arrow => rfl
  | opening => rfl
  | closing => rfl
  | comma => rfl
  | word w =>
    obtain ⟨c, part, hw, hstart, hpart⟩ := ht
    obtain ⟨htake, hdrop⟩ := takeWhile_dropWhile_append hpart hrest
    have hmark : c ∉ marks := by
      intro hmem
      have hnone : marks.any isWordStart = false := by decide
      exact List.any_eq_false.1 hnone c hmem hstart
    show first? (w.toList ++ rest) = _
    rw [hw, List.cons_append, first?_cons hmark, isDigit_eq_false_of_isWordStart hstart, hstart, htake, hdrop, ← hw,
      String.ofList_toList]
    rfl
  | number digits =>
    obtain ⟨c, more, hdigits⟩ : ∃ c more, digits.toList = c :: more := by
      refine List.exists_cons_of_ne_nil fun hnil => ?_
      simp [IsProper, Text.isNumeral, hnil] at ht
    have hall : ∀ x ∈ c :: more, x.isDigit = true := by
      simpa [IsProper, Text.isNumeral, hdigits] using ht
    obtain ⟨htake, hdrop⟩ := takeWhile_dropWhile_append (fun x hx => hall x (List.mem_cons_of_mem _ hx)) hrest
    have hmark : c ∉ marks := by
      intro hmem
      have hnone : marks.any Char.isDigit = false := by decide
      exact List.any_eq_false.1 hnone c hmem (hall c List.mem_cons_self)
    show first? (digits.toList ++ rest) = _
    rw [hdigits, List.cons_append, first?_cons hmark, hall c List.mem_cons_self, htake, hdrop, ← hdigits,
      String.ofList_toList]
    rfl

/-! ## All tokens -/

/-- The text of a token is what scanning stops skipping at. -/
theorem takeWhile_dropWhile_isSpacing {gap rest : List Char} {t : Token} (hgap : ∀ c ∈ gap, isSpacing c = true)
    (ht : t.IsProper) (hrest : t.EndsBefore rest) :
    (gap ++ (t.text.toList ++ rest)).takeWhile isSpacing = gap ∧
      (gap ++ (t.text.toList ++ rest)).dropWhile isSpacing = t.text.toList ++ rest := by
  refine takeWhile_dropWhile_append hgap fun c hc => ?_
  obtain ⟨cs, hcs⟩ := List.head?_eq_some_iff.1 (Option.mem_def.1 hc)
  have hfirst := first?_append ht hrest
  by_contra hspacing
  rw [hcs, first?_eq_none_of_isSpacing (by simpa using hspacing)] at hfirst
  cases hfirst

/-- Where only spacing is left, there are no more tokens. -/
theorem scan_gap {gap : List Char} (hgap : ∀ c ∈ gap, isSpacing c = true) (start : Nat) : scan start gap = .ok [] := by
  unfold scan
  split
  · rfl
  · next c after hcs => simp [List.dropWhile_eq_nil_iff.2 hgap] at hcs

/-- After spacing a whole token is read, and then what comes after it. -/
theorem scan_token {gap rest : List Char} {t : Token} (hgap : ∀ c ∈ gap, isSpacing c = true) (ht : t.IsProper)
    (hrest : t.EndsBefore rest) (start : Nat) : scan start (gap ++ (t.text.toList ++ rest)) =
      (scan (start + width gap + width t.text.toList) rest).map (⟨t, start + width gap⟩ :: ·) := by
  obtain ⟨htake, hdrop⟩ := takeWhile_dropWhile_isSpacing hgap ht hrest
  have hfirst := first?_append ht hrest
  rw [scan]
  split
  · next hnil =>
    rw [hdrop] at hnil
    rw [hnil] at hfirst
    cases hfirst
  · next c after hcs =>
    rw [hdrop] at hcs
    rw [hcs] at hfirst
    simp only [htake]
    split
    · next hnone =>
      rw [hfirst] at hnone
      cases hnone
    · next t' rest' hsome =>
      rw [hfirst] at hsome
      cases hsome
      cases scan (start + width gap + width t.text.toList) rest <;> rfl

/-- A text is scanned into tokens exactly when it is a layout of them. -/
theorem scan_eq_ok_iff {start : Nat} {cs : List Char} {ts : List PlacedToken} :
    scan start cs = .ok ts ↔ IsLayout start ts cs := by
  constructor
  · intro h
    fun_induction scan start cs generalizing ts with
    | case1 start cs hcs =>
      cases h
      refine .blank fun c hc => ?_
      rw [List.dropWhile_eq_nil_iff] at hcs
      exact hcs c hc
    | case2 => cases h
    | case3 => cases h
    | case4 start cs c after hcs place t rest ht tokens hrest =>
      rename_i ih
      cases h
      obtain ⟨hproper, hends, hafter⟩ := of_first?_eq_some ht
      have hlayout : IsLayout start (⟨t, start + width (cs.takeWhile isSpacing)⟩ :: tokens)
          (cs.takeWhile isSpacing ++ (t.text.toList ++ rest)) :=
        .token (fun x hx => List.mem_takeWhile_imp hx) hproper hends (ih hrest)
      rw [← hafter, ← hcs, List.takeWhile_append_dropWhile] at hlayout
      exact hlayout
  · intro h
    induction h with
    | blank hgap => exact scan_gap hgap _
    | token hgap hproper hends _ ih =>
      rw [scan_token hgap hproper hends, ih]
      rfl

/-! ## Layouts side by side -/

@[simp] theorem width_append (cs ds : List Char) : width (cs ++ ds) = width cs + width ds := by
  induction cs with
  | nil => exact (Nat.zero_add _).symm
  | cons c cs ih =>
    show c.utf8Size + width (cs ++ ds) = c.utf8Size + width cs + width ds
    rw [ih, Nat.add_assoc]

/-- Every token of a layout is what its kind says. -/
theorem IsLayout.isProper {start : Nat} {ts : List PlacedToken} {cs : List Char} (h : IsLayout start ts cs) :
    ∀ t ∈ ts, t.token.IsProper := by
  induction h with
  | blank => exact nofun
  | token _ hproper _ _ ih => exact List.forall_mem_cons.2 ⟨hproper, ih⟩

/-- Spacing in front of a layout. -/
theorem IsLayout.prepend {start : Nat} {gap cs : List Char} {ts : List PlacedToken}
    (hgap : ∀ c ∈ gap, isSpacing c = true)
    (h : IsLayout (start + width gap) ts cs) : IsLayout start ts (gap ++ cs) := by
  have hboth : ∀ {more : List Char}, (∀ c ∈ more, isSpacing c = true) → ∀ c ∈ gap ++ more, isSpacing c = true :=
    fun hmore c hc => (List.mem_append.1 hc).elim (hgap c) (hmore c)
  cases h with
  | blank hmore => exact .blank (hboth hmore)
  | @token _ more rest t ts hmore hproper hends hrest =>
    rw [← List.append_assoc, Nat.add_assoc, ← width_append]
    refine .token (hboth hmore) hproper hends ?_
    rw [width_append, ← Nat.add_assoc start]
    exact hrest

/-- Where no letter, numeral, underscore or point follows, every token ends. -/
theorem endsBefore_of_head? (t : Token) {rest : List Char} (h : ∀ c ∈ rest.head?, isWordPart c = false) :
    t.EndsBefore rest := by
  cases t with
  | word w => exact h
  | number digits =>
    intro c hc
    have hpart := h c hc
    simp only [isWordPart, Text.isLetterOrNumeral, Char.isAlphanum, Bool.or_eq_false_iff] at hpart
    exact hpart.1.1.1.2
  | arrow | opening | closing | comma => trivial

/-- Two layouts side by side, where the second starts with nothing that a token would go on with. -/
theorem IsLayout.append {start : Nat} {ts us : List PlacedToken} {cs ds : List Char} (h : IsLayout start ts cs)
    (hds : ∀ c ∈ ds.head?, isWordPart c = false) (h' : IsLayout (start + width cs) us ds) :
    IsLayout start (ts ++ us) (cs ++ ds) := by
  induction h with
  | blank hgap => exact h'.prepend hgap
  | @token start gap rest t ts hgap hproper hends _ ih =>
    -- Only a token that nothing follows could go on into what is put after it.
    have hrest : t.EndsBefore (rest ++ ds) := by
      cases rest with
      | nil => exact t.endsBefore_of_head? hds
      | cons c rest => cases t <;> exact hends
    rw [List.cons_append, List.append_assoc, List.append_assoc]
    refine .token hgap hproper hrest (ih ?_)
    simpa [Nat.add_assoc] using h'

/-! ## Texts cut at spacing -/

/-- What may stand between tokens stands in none. -/
theorem IsProper.isSpacing_eq_false {t : Token} (ht : t.IsProper) : ∀ c ∈ t.text.toList, isSpacing c = false := by
  intro c hc
  by_contra hspacing
  rw [Bool.not_eq_false, isSpacing_iff] at hspacing
  cases t with
  | arrow | opening | closing | comma =>
    rcases hspacing with rfl | rfl | rfl | rfl
    all_goals exact absurd hc (by decide)
  | word w =>
    have hnone : isWordStart c = false ∧ isWordPart c = false := by
      rcases hspacing with rfl | rfl | rfl | rfl <;> decide
    obtain ⟨first, rest, hw, hfirst, hrest⟩ := ht
    have hc : c ∈ first :: rest := hw ▸ hc
    rcases List.mem_cons.1 hc with rfl | hc
    · simp [hnone.1] at hfirst
    · simp [hrest c hc] at hnone
  | number digits =>
    have hnone : c.isDigit = false := by
      rcases hspacing with rfl | rfl | rfl | rfl <;> decide
    have hall : digits.toList.all Char.isDigit = true := (Bool.and_eq_true_iff.1 ht).2
    simp [List.all_eq_true.1 hall c hc] at hnone

/-- A token that ends before a text ends before the start of it. -/
theorem EndsBefore.of_append {t : Token} {cs ds : List Char} (h : t.EndsBefore (cs ++ ds)) : t.EndsBefore cs := by
  cases cs with
  | nil => exact t.endsBefore_of_head? nofun
  | cons c cs => cases t <;> exact h

/-- A layout without the spacing in front of it. -/
theorem IsLayout.of_prepend {start : Nat} {gap cs : List Char} {ts : List PlacedToken}
    (hgap : ∀ c ∈ gap, isSpacing c = true)
    (h : IsLayout start ts (gap ++ cs)) : IsLayout (start + width gap) ts cs := by
  generalize htext : gap ++ cs = text at h
  cases h with
  | blank hall =>
    subst htext
    exact .blank fun c hc => hall c (List.mem_append_right _ hc)
  | @token _ gap' rest t ts hall hproper hends hrest =>
    obtain ⟨more, hmore, rfl, rfl⟩ : ∃ more, (∀ c ∈ more, isSpacing c = true) ∧ gap' = gap ++ more ∧
        cs = more ++ (t.text.toList ++ rest) := by
      obtain ⟨htake, hdrop⟩ := takeWhile_dropWhile_isSpacing hall hproper hends
      rw [← htext, List.takeWhile_append_of_pos hgap] at htake
      rw [← htext, List.dropWhile_append_of_pos hgap] at hdrop
      exact ⟨cs.takeWhile isSpacing, fun c hc => List.mem_takeWhile_imp hc, htake.symm,
        by rw [← hdrop, List.takeWhile_append_dropWhile]⟩
    rw [width_append, ← Nat.add_assoc] at hrest ⊢
    exact .token hmore hproper hends hrest

/-- A layout can be cut in front of spacing: no token stands across the cut. -/
theorem IsLayout.exists_of_append {start : Nat} {ts : List PlacedToken} {cs ds : List Char}
    (h : IsLayout start ts (cs ++ ds)) (hds : ∀ c ∈ ds.head?, isSpacing c = true) :
    ∃ us vs, ts = us ++ vs ∧ IsLayout start us cs ∧ IsLayout (start + width cs) vs ds := by
  generalize htext : cs ++ ds = text at h
  induction h generalizing cs with
  | @blank start gap hgap =>
    subst htext
    exact ⟨[], [], rfl, .blank fun c hc => hgap c (List.mem_append_left _ hc),
      .blank fun c hc => hgap c (List.mem_append_right _ hc)⟩
  | @token start gap rest t ts hgap hproper hends hrest ih =>
    rcases List.append_eq_append_iff.1 htext with ⟨more, rfl, hmore⟩ | ⟨after, rfl, hafter⟩
    · -- The cut is before the token, within the spacing in front of it.
      have hcs : ∀ c ∈ cs, isSpacing c = true := fun c hc => hgap c (List.mem_append_left _ hc)
      have hmoreGap : ∀ c ∈ more, isSpacing c = true := fun c hc => hgap c (List.mem_append_right _ hc)
      refine ⟨[], _, rfl, .blank hcs, ?_⟩
      rw [hmore, width_append, ← Nat.add_assoc]
      refine .token hmoreGap hproper hends ?_
      rwa [width_append, ← Nat.add_assoc] at hrest
    · -- Spacing follows the cut, so it is not within the token.
      obtain ⟨more, rfl, rfl⟩ : ∃ more, after = t.text.toList ++ more ∧ rest = more ++ ds := by
        rcases List.append_eq_append_iff.1 hafter with ⟨more, hmore, hrest⟩ | ⟨within, htoken, hwithin⟩
        · exact ⟨more, hmore, hrest⟩
        · cases within with
          | nil => exact ⟨[], by simpa using htoken.symm, by simpa using hwithin.symm⟩
          | cons c within =>
            have hc : isSpacing c = true := hds c (by simp [hwithin])
            rw [hproper.isSpacing_eq_false c (by simp [htoken])] at hc
            cases hc
      obtain ⟨us, vs, rfl, hus, hvs⟩ := ih rfl
      refine ⟨⟨t, start + width gap⟩ :: us, vs, rfl, .token hgap hproper hends.of_append hus, ?_⟩
      simpa [Nat.add_assoc] using hvs

/-- The tokens of a layout are laid out in its text wherever it starts. -/
theorem IsLayout.exists_at {start : Nat} {ts : List PlacedToken} {cs : List Char} (h : IsLayout start ts cs)
    (start' : Nat) : ∃ us, IsLayout start' us cs ∧ us.map PlacedToken.token = ts.map PlacedToken.token := by
  induction h generalizing start' with
  | blank hgap => exact ⟨[], .blank hgap, rfl⟩
  | @token start gap rest t ts hgap hproper hends _ ih =>
    obtain ⟨us, hus, htokens⟩ := ih (start' + width gap + width t.text.toList)
    exact ⟨_, .token hgap hproper hends hus, by rw [List.map_cons, List.map_cons, htokens]⟩

end Token

end TieWalk
