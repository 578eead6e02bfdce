import TieWalk.Proofs.Query.Derivation

/-!
# What is read as a path

Reading a text ends in one of three ways. A blank text is refused as blank. A text whose tokens the grammar derives
gives the path that they stand for, and any other is refused for its form, at the start of the text, at its end or at
one of its tokens. Names and codes play no part in it.
-/

namespace TieWalk

namespace QueryFault

/-- The refusal is one of form. -/
def IsOfForm (e : QueryFault) : Prop := ∃ position fault, e = .malformed position fault

/-- The refusal is one of form, at the start of the text, at its end or at one of the tokens. -/
def IsPlaced (stop : Nat) (ts : List PlacedToken) (e : QueryFault) : Prop :=
  ∃ position fault, e = .malformed position fault ∧ (position = 0 ∨ position = stop ∨ ∃ t ∈ ts, t.offset = position)

variable {stop : Nat} {ts us : List PlacedToken} {e : QueryFault}

theorem IsPlaced.isOfForm (h : e.IsPlaced stop ts) : e.IsOfForm := by
  obtain ⟨position, fault, he, -⟩ := h
  exact ⟨position, fault, he⟩

/-- A place among tokens is one among any tokens that they are part of. -/
theorem IsPlaced.mono (h : e.IsPlaced stop ts) (hsub : ts ⊆ us) : e.IsPlaced stop us := by
  obtain ⟨position, fault, he, hstart | hstop | ⟨t, ht, hposition⟩⟩ := h
  · exact ⟨position, fault, he, .inl hstart⟩
  · exact ⟨position, fault, he, .inr (.inl hstop)⟩
  · exact ⟨position, fault, he, .inr (.inr ⟨t, hsub ht, hposition⟩)⟩

theorem isPlaced_of_mem {t : PlacedToken} (ht : t ∈ ts) (fault : FormFault) :
    (malformed t.offset fault).IsPlaced stop ts :=
  ⟨_, fault, rfl, .inr (.inr ⟨t, ht, rfl⟩)⟩

end QueryFault

namespace Grammar

/-! ## Refusals -/

variable {stop : Nat} {ts rest : List PlacedToken} {e : QueryFault}

theorem isPlaced_refusal (what : Expectation) : (refusal stop what ts).IsPlaced stop ts := by
  cases ts with
  | nil => exact ⟨stop, _, rfl, .inr (.inl rfl)⟩
  | cons t ts => exact QueryFault.isPlaced_of_mem List.mem_cons_self _

theorem isPlaced_of_variableNames (h : variableNames stop ts = .error e) : e.IsPlaced stop ts := by
  fun_induction variableNames stop ts generalizing e with
  | case1 name i j ts e' herr ih =>
    cases h
    exact (ih herr).mono fun t ht => List.mem_cons_of_mem _ (List.mem_cons_of_mem _ ht)
  | case2 | case3 => cases h
  | case4 =>
    cases h
    exact (isPlaced_refusal _).mono (List.subset_cons_self _ _)
  | case5 =>
    cases h
    exact isPlaced_refusal _

theorem isPlaced_of_vars (h : vars stop ts = .error e) : e.IsPlaced stop ts := by
  unfold vars at h
  split at h
  · cases h
  · exact isPlaced_of_variableNames h

theorem isPlaced_of_codes (h : codes stop ts = .error e) : e.IsPlaced stop ts := by
  fun_induction codes stop ts generalizing e with
  | case1 =>
    cases h
    exact QueryFault.isPlaced_of_mem List.mem_cons_self _
  | case2 digits i code hcode j ts e' herr ih =>
    cases h
    exact (ih herr).mono fun t ht => List.mem_cons_of_mem _ (List.mem_cons_of_mem _ ht)
  | case3 | case4 => cases h
  | case5 =>
    cases h
    exact isPlaced_refusal _

theorem isPlaced_of_selection (h : selection stop ts = .error e) : e.IsPlaced stop ts := by
  unfold selection at h
  split at h
  · split at h
    · cases h
    · cases h
      exact isPlaced_refusal _
  · split at h
    · next herr =>
      cases h
      exact isPlaced_of_codes herr
    · cases h
  · cases h
    exact isPlaced_refusal _

theorem isPlaced_of_bracketed (h : bracketed stop ts = .error e) : e.IsPlaced stop ts := by
  unfold bracketed at h
  split at h
  · split at h
    · next herr =>
      cases h
      exact (isPlaced_of_selection herr).mono (List.subset_cons_self _ _)
    · cases h
    · next hselection =>
      cases h
      obtain ⟨used, rfl, -⟩ := exists_selection_of_selection hselection
      exact (isPlaced_refusal _).mono fun t ht => List.mem_cons_of_mem _ (List.mem_append_right _ ht)
  · cases h
    exact isPlaced_refusal _

theorem isPlaced_of_hop (h : hop stop ts = .error e) : e.IsPlaced stop ts := by
  unfold hop at h
  split at h
  · split at h
    · next herr =>
      cases h
      exact (isPlaced_of_bracketed herr).mono (List.subset_cons_self _ _)
    · cases h
  · cases h
    exact isPlaced_refusal _

theorem isPlaced_of_segment (h : segment stop ts = .error e) : e.IsPlaced stop ts := by
  unfold segment at h
  split at h
  · split at h
    · next herr =>
      cases h
      exact (isPlaced_of_vars herr).mono (List.subset_cons_self _ _)
    · cases h
  · split at h
    · cases h
    · split at h
      · next herr =>
        cases h
        exact isPlaced_of_hop herr
      · cases h
  · cases h
    exact QueryFault.isPlaced_of_mem List.mem_cons_self _
  · cases h
    exact isPlaced_refusal _

theorem isPlaced_of_segments (h : segments stop ts = .error e) : e.IsPlaced stop ts := by
  fun_induction segments stop ts generalizing e with
  | case1 ts e' herr =>
    cases h
    exact isPlaced_of_segment herr
  | case2 | case4 => cases h
  | case3 ts s i rest hs e' herr ih =>
    cases h
    obtain ⟨used, rfl, -⟩ := exists_segment_of_segment hs
    exact (ih herr).mono fun t ht => List.mem_append_right _ (List.mem_cons_of_mem _ ht)
  | case5 ts s rest _ _ hs =>
    cases h
    obtain ⟨used, rfl, -⟩ := exists_segment_of_segment hs
    exact (isPlaced_refusal _).mono (List.subset_append_right _ _)

/-- A segment is placed at its first token. -/
theorem exists_offset_of_segment {s : Nat × Segment} (h : segment stop ts = .ok (s, rest)) :
    ∃ t ∈ ts, t.offset = s.1 := by
  unfold segment at h
  split at h
  · split at h
    · cases h
    · cases h
      exact ⟨_, List.mem_cons_self, rfl⟩
  · split at h
    · cases h
      exact ⟨_, List.mem_cons_self, rfl⟩
    · split at h
      · cases h
      · cases h
        exact ⟨_, List.mem_cons_self, rfl⟩
  · cases h
  · cases h

/-- Every segment is placed at a token. -/
theorem exists_offset_of_segments {placed : List (Nat × Segment)} (h : segments stop ts = .ok placed) :
    ∀ s ∈ placed, ∃ t ∈ ts, t.offset = s.1 := by
  fun_induction segments stop ts generalizing placed with
  | case1 | case3 | case5 => cases h
  | case2 ts s hs =>
    cases h
    exact List.forall_mem_singleton.2 (exists_offset_of_segment hs)
  | case4 ts s i rest hs more hmore ih =>
    cases h
    refine List.forall_mem_cons.2 ⟨exists_offset_of_segment hs, fun s' hs' => ?_⟩
    obtain ⟨t, ht, hposition⟩ := ih hmore s' hs'
    obtain ⟨used, rfl, -⟩ := exists_segment_of_segment hs
    exact ⟨t, List.mem_append_right _ (List.mem_cons_of_mem _ ht), hposition⟩

/-- An inner segment that is no hop is refused where it starts. -/
theorem isPlaced_of_innerHops {inner : List (Nat × Segment)} (hinner : ∀ s ∈ inner, ∃ t ∈ ts, t.offset = s.1)
    (h : innerHops inner = .error e) : e.IsPlaced stop ts := by
  fun_induction innerHops inner generalizing e with
  | case1 | case3 => cases h
  | case2 i spec rest e' herr ih =>
    cases h
    exact ih (List.forall_mem_cons.1 hinner).2 herr
  | case4 =>
    cases h
    obtain ⟨t, ht, rfl⟩ := (List.forall_mem_cons.1 hinner).1
    exact QueryFault.isPlaced_of_mem ht _

theorem isPlaced_of_someHops {inner : List (Nat × Segment)} (hinner : ∀ s ∈ inner, ∃ t ∈ ts, t.offset = s.1)
    (h : someHops stop inner = .error e) : e.IsPlaced stop ts := by
  unfold someHops at h
  split at h
  · cases h
    exact ⟨stop, _, rfl, .inr (.inl rfl)⟩
  · exact isPlaced_of_innerHops hinner h

/-- What is wrong with the segments of a path is refused where a segment starts, or at the end. -/
theorem isPlaced_of_pathOf {placed : List (Nat × Segment)} (hplaced : ∀ s ∈ placed, ∃ t ∈ ts, t.offset = s.1)
    (h : pathOf stop placed = .error e) : e.IsPlaced stop ts := by
  have hinner : ∀ {s : Nat × Segment} {rest : List (Nat × Segment)}, (∀ s' ∈ s :: rest, ∃ t ∈ ts, t.offset = s'.1) →
      ∀ s' ∈ rest.dropLast, ∃ t ∈ ts, t.offset = s'.1 :=
    fun hall s' hs' => hall s' (List.mem_cons_of_mem _ (List.dropLast_subset _ hs'))
  have hstart : ∀ fault, (QueryFault.malformed 0 fault).IsPlaced stop ts := fun fault => ⟨0, fault, rfl, .inl rfl⟩
  unfold pathOf at h
  split at h
  · split at h
    · split at h
      · next herr =>
        cases h
        exact isPlaced_of_someHops (hinner hplaced) herr
      · cases h
    · cases h
      exact hstart _
  · split at h
    · split at h
      · next herr =>
        cases h
        exact isPlaced_of_someHops (hinner hplaced) herr
      · cases h
    · cases h
      exact hstart _
  · cases h
    exact hstart _

/-- A text has tokens when it is not blank and they are found in it. -/
theorem tokens_eq_ok_iff {text : String} :
    tokens text = .ok ts ↔ Text.isAllBlank text = false ∧ Token.scan 0 text.toList = .ok ts := by
  unfold tokens
  cases Text.isAllBlank text with
  | true => simp
  | false => cases Token.scan 0 text.toList <;> simp

end Grammar

/-- Reading a path ends in one of three ways: the text is blank, its tokens form a path, or its form is refused. -/
theorem WrittenPath.ofText_cases (text : String) :
    (Text.isAllBlank text = true ∧ WrittenPath.ofText text = .error .blank) ∨
      (Text.isAllBlank text = false ∧
        ((∃ ts p, Token.scan 0 text.toList = .ok ts ∧ Grammar.IsPath ts p ∧ WrittenPath.ofText text = .ok p) ∨
          (∃ e, e.IsOfForm ∧ WrittenPath.ofText text = .error e))) := by
  unfold WrittenPath.ofText Grammar.tokens
  cases hblank : Text.isAllBlank text with
  | true => exact .inl ⟨rfl, rfl⟩
  | false =>
    refine .inr ⟨rfl, ?_⟩
    rw [if_neg Bool.false_ne_true]
    cases hscan : Token.scan 0 text.toList with
    | error stray => exact .inr ⟨_, ⟨_, _, rfl⟩, rfl⟩
    | ok ts =>
      simp only
      cases hsegments : Grammar.segments text.utf8ByteSize ts with
      | error e => exact .inr ⟨e, (Grammar.isPlaced_of_segments hsegments).isOfForm, rfl⟩
      | ok placed =>
        cases hpath : Grammar.pathOf text.utf8ByteSize placed with
        | error e =>
          have hplaced := Grammar.isPlaced_of_pathOf (Grammar.exists_offset_of_segments hsegments) hpath
          exact .inr ⟨e, hplaced.isOfForm, hpath⟩
        | ok p =>
          have hderives := (Grammar.exists_segments_pathOf_iff _).1 ⟨placed, hsegments, hpath⟩
          exact .inl ⟨ts, p, rfl, hderives, hpath⟩

/-- A path that is read has a derivation, and a derivation is read. -/
theorem WrittenPath.ofText_eq_ok_iff {text : String} {p : WrittenPath} :
    WrittenPath.ofText text = .ok p ↔
      Text.isAllBlank text = false ∧ ∃ ts, Token.scan 0 text.toList = .ok ts ∧ Grammar.IsPath ts p := by
  constructor
  · intro h
    rcases ofText_cases text with ⟨-, herr⟩ | ⟨hblank, ⟨ts, p', hscan, hpath, hok⟩ | ⟨e, -, herr⟩⟩
    · rw [h] at herr
      cases herr
    · rw [h] at hok
      cases hok
      exact ⟨hblank, ts, hscan, hpath⟩
    · rw [h] at herr
      cases herr
  · rintro ⟨hblank, ts, hscan, hpath⟩
    obtain ⟨placed, hsegments, hok⟩ := (Grammar.exists_segments_pathOf_iff text.utf8ByteSize).2 hpath
    unfold WrittenPath.ofText
    rw [Grammar.tokens_eq_ok_iff.2 ⟨hblank, hscan⟩]
    simp only [hsegments, hok]

/-- The texts that are read are those whose tokens the grammar derives, and each is read as what it stands for: hops
outward from the sample, names and repeats as written, and the set of the codes of each hop. A blank text is refused as
blank, and every other text for its form. -/
theorem WrittenPath.ofText_reads_grammar (text : String) :
    (∀ p, WrittenPath.ofText text = .ok p ↔
      Text.isAllBlank text = false ∧ ∃ ts, Token.scan 0 text.toList = .ok ts ∧ Grammar.IsPath ts p) ∧
    (WrittenPath.ofText text = .error .blank ↔ Text.isAllBlank text = true) ∧
    ((∃ position fault, WrittenPath.ofText text = .error (.malformed position fault)) ↔
      Text.isAllBlank text = false ∧ ¬∃ ts p, Token.scan 0 text.toList = .ok ts ∧ Grammar.IsPath ts p) := by
  refine ⟨fun p => WrittenPath.ofText_eq_ok_iff, ?_, ?_⟩
  · rcases WrittenPath.ofText_cases text with ⟨hblank, herr⟩ | ⟨hblank, ⟨ts, p, -, -, hok⟩ | ⟨e, ⟨i, fault, rfl⟩, herr⟩⟩
    · simp [hblank, herr]
    · simp [hblank, hok]
    · simp [hblank, herr]
  · constructor
    · rintro ⟨i, fault, h⟩
      have hnot : ∀ p, WrittenPath.ofText text ≠ .ok p := fun p hok => by
        rw [h] at hok
        cases hok
      rcases WrittenPath.ofText_cases text with ⟨-, herr⟩ | ⟨hblank, -⟩
      · rw [h] at herr
        cases herr
      · refine ⟨hblank, ?_⟩
        rintro ⟨ts, p, hscan, hpath⟩
        exact hnot p (WrittenPath.ofText_eq_ok_iff.2 ⟨hblank, ts, hscan, hpath⟩)
    · rintro ⟨hblank, hnone⟩
      rcases WrittenPath.ofText_cases text with
        ⟨hblank', -⟩ | ⟨-, ⟨ts, p, hscan, hpath, -⟩ | ⟨e, ⟨i, fault, rfl⟩, herr⟩⟩
      · rw [hblank] at hblank'
        cases hblank'
      · exact absurd ⟨ts, p, hscan, hpath⟩ hnone
      · exact ⟨i, fault, herr⟩

end TieWalk
