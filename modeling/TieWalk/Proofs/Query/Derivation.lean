import Mathlib.Data.List.Basic
import TieWalk.Query.Grammar

/-!
# Derivations of the grammar

The grammar of queries as relations between placed tokens and what they stand for, one relation for each rule. Each
reader of `TieWalk.Grammar` then takes tokens off the head of a list exactly when its rule derives them: `segments`
followed by `pathOf` reads a path exactly when `IsPath` derives it (`exists_segments_pathOf_iff`).

An anchor with a bracket after it is no anchor but the name of a context. The rules need not say so, since in a path an
arrow or the end follows the anchor.
-/

namespace TieWalk

namespace Grammar

/-- `word (',' word)*` stands for the words. -/
inductive IsNames : List PlacedToken → List String → Prop where
  | last (name : String) (i : Nat) : IsNames [⟨.word name, i⟩] [name]
  | more {ts : List PlacedToken} {names : List String} (name : String) (i j : Nat) :
      IsNames ts names → IsNames (⟨.word name, i⟩ :: ⟨.comma, j⟩ :: ts) (name :: names)

/-- `'[' ']'` stands for no variables, `'[' names ']'` for the names. -/
inductive IsVars : List PlacedToken → List String → Prop where
  | none (i k : Nat) : IsVars [⟨.opening, i⟩, ⟨.closing, k⟩] []
  | some {ts : List PlacedToken} {names : List String} (i k : Nat) :
      IsNames ts names → IsVars (⟨.opening, i⟩ :: (ts ++ [⟨.closing, k⟩])) names

/-- `number (',' number)*` stands for the codes that the numbers spell, each of which fits a code. -/
inductive IsCodes : List PlacedToken → List Code → Prop where
  | last {digits : String} {code : Code} (i : Nat) :
      Text.natOfDigits digits.toList = code.toNat → IsCodes [⟨.number digits, i⟩] [code]
  | more {ts : List PlacedToken} {codes : List Code} {digits : String} {code : Code} (i j : Nat) :
      Text.natOfDigits digits.toList = code.toNat → IsCodes ts codes →
        IsCodes (⟨.number digits, i⟩ :: ⟨.comma, j⟩ :: ts) (code :: codes)

/-- The word `all`, in any case, stands for every code, a list of codes for the set of them. -/
inductive IsSelection : List PlacedToken → Selection → Prop where
  | all {w : String} (i : Nat) : Text.sameIgnoringCase w "all" = true → IsSelection [⟨.word w, i⟩] .all
  | only {ts : List PlacedToken} {codes : List Code} {set : AscSet Code} :
      IsCodes ts codes → (∀ c, c ∈ set ↔ c ∈ codes) → IsSelection ts (.only set)

/-- `word '[' selection ']'` stands for a hop, whose place is that of the word. -/
inductive IsHop : List PlacedToken → WrittenHop → Prop where
  | mk {ts : List PlacedToken} {codes : Selection} (name : String) (i j k : Nat) :
      IsSelection ts codes →
        IsHop (⟨.word name, i⟩ :: ⟨.opening, j⟩ :: (ts ++ [⟨.closing, k⟩])) ⟨name, codes, i⟩

/-- `hop ('->' hop)*` stands for the hops in written order. -/
inductive IsHops : List PlacedToken → List WrittenHop → Prop where
  | last {ts : List PlacedToken} {spec : WrittenHop} : IsHop ts spec → IsHops ts [spec]
  | more {ts us : List PlacedToken} {spec : WrittenHop} {specs : List WrittenHop} (i : Nat) :
      IsHop ts spec → IsHops us specs → IsHops (ts ++ ⟨.arrow, i⟩ :: us) (spec :: specs)

/-- The word `sample`, in any case. -/
inductive IsAnchor : List PlacedToken → Prop where
  | mk {w : String} (i : Nat) : Text.sameIgnoringCase w anchor = true → IsAnchor [⟨.word w, i⟩]

/-- `variables '->' hops '->' anchor` or the reverse. A path holds its hops outward from the sample. -/
inductive IsPath : List PlacedToken → WrittenPath → Prop where
  | variablesFirst {vs hs a : List PlacedToken} {names : List String} {specs : List WrittenHop} (i j : Nat) :
      IsVars vs names → IsHops hs specs → IsAnchor a →
        IsPath (vs ++ ⟨.arrow, i⟩ :: (hs ++ ⟨.arrow, j⟩ :: a)) ⟨.variablesFirst, specs.reverse, names⟩
  | sampleFirst {vs hs a : List PlacedToken} {names : List String} {specs : List WrittenHop} (i j : Nat) :
      IsAnchor a → IsHops hs specs → IsVars vs names →
        IsPath (a ++ ⟨.arrow, i⟩ :: (hs ++ ⟨.arrow, j⟩ :: vs)) ⟨.sampleFirst, specs, names⟩

/-! ## Variable lists -/

variable {stop : Nat} {ts rest : List PlacedToken}

/-- Names up to a closing bracket are read. -/
theorem variableNames_append {used : List PlacedToken} {names : List String} (h : IsNames used names) (k : Nat) :
    variableNames stop (used ++ ⟨.closing, k⟩ :: rest) = .ok (names, rest) := by
  induction h with
  | last name i => rw [List.cons_append, List.nil_append, variableNames]
  | more name i j _ ih => rw [List.cons_append, List.cons_append, variableNames, ih]

/-- What is read as names are names up to a closing bracket. -/
theorem exists_names_of_variableNames {names : List String} (h : variableNames stop ts = .ok (names, rest)) :
    ∃ used k, ts = used ++ ⟨.closing, k⟩ :: rest ∧ IsNames used names := by
  fun_induction variableNames stop ts generalizing names rest with
  | case1 name i j ts e herr => cases h
  | case2 name i j ts names' rest' hrec ih =>
    cases h
    obtain ⟨used, k, rfl, hnames⟩ := ih hrec
    exact ⟨⟨.word name, i⟩ :: ⟨.comma, j⟩ :: used, k, rfl, .more name i j hnames⟩
  | case3 name i k ts =>
    cases h
    exact ⟨[⟨.word name, i⟩], k, rfl, .last name i⟩
  | case4 | case5 => cases h

/-- What follows an opening bracket is read as variables exactly when it is a variable list together with the bracket.
-/
theorem vars_eq_ok_iff {names : List String} (i : Nat) :
    vars stop ts = .ok (names, rest) ↔ ∃ used, ts = used ++ rest ∧ IsVars (⟨.opening, i⟩ :: used) names := by
  constructor
  · intro h
    unfold vars at h
    split at h
    · next k ts =>
      cases h
      exact ⟨[⟨.closing, k⟩], rfl, .none i k⟩
    · obtain ⟨used, k, rfl, hnames⟩ := exists_names_of_variableNames h
      exact ⟨used ++ [⟨.closing, k⟩], by simp, .some i k hnames⟩
  · rintro ⟨used, rfl, h⟩
    cases h with
    | none _ k => rfl
    | some _ k hnames =>
      rw [List.append_assoc, List.singleton_append, ← variableNames_append hnames k]
      cases hnames <;> rfl

/-! ## Codes and hops -/

/-- Digits spell a code exactly when their number is that of the code. -/
theorem code?_eq_some_iff {digits : String} {code : Code} :
    code? digits = some code ↔ Text.natOfDigits digits.toList = code.toNat := by
  unfold code?
  simp only
  have hbound : codeBound = UInt32.size := rfl
  split
  · next hlt =>
    rw [Option.some.injEq]
    constructor
    · rintro rfl
      exact (UInt32.toNat_ofNat_of_lt hlt).symm
    · intro h
      rw [h, UInt32.ofNat_toNat]
  · next hge =>
    constructor
    · intro h
      cases h
    · intro h
      rw [h] at hge
      exact absurd code.toNat_lt hge

/-- Codes up to a closing bracket are read. -/
theorem codes_append {used : List PlacedToken} {cs : List Code} (h : IsCodes used cs) (k : Nat) :
    codes stop (used ++ ⟨.closing, k⟩ :: rest) = .ok (cs, ⟨.closing, k⟩ :: rest) := by
  induction h with
  | last i hcode =>
    rw [List.cons_append, List.nil_append, codes, code?_eq_some_iff.2 hcode]
  | more i j hcode _ ih =>
    rw [List.cons_append, List.cons_append, codes, code?_eq_some_iff.2 hcode]
    simp only [ih]

/-- What is read as codes are codes. -/
theorem exists_codes_of_codes {cs : List Code} (h : codes stop ts = .ok (cs, rest)) :
    ∃ used, ts = used ++ rest ∧ IsCodes used cs := by
  fun_induction codes stop ts generalizing cs rest with
  | case1 | case2 | case5 => cases h
  | case3 digits i code hcode j ts more rest' hrec ih =>
    cases h
    obtain ⟨used, rfl, hcodes⟩ := ih hrec
    exact ⟨⟨.number digits, i⟩ :: ⟨.comma, j⟩ :: used, rfl, .more i j (code?_eq_some_iff.1 hcode) hcodes⟩
  | case4 digits i code hcode ts hnext =>
    cases h
    exact ⟨[⟨.number digits, i⟩], rfl, .last i (code?_eq_some_iff.1 hcode)⟩

/-- A set is determined by the list whose members it has. -/
theorem isSelection_ofList {codes : List Code} (h : IsCodes ts codes) : IsSelection ts (.only (AscSet.ofList codes)) :=
  .only h fun _ => AscSet.mem_ofList

/-- A selection up to a closing bracket is read. -/
theorem selection_append {used : List PlacedToken} {s : Selection} (h : IsSelection used s) (k : Nat) :
    selection stop (used ++ ⟨.closing, k⟩ :: rest) = .ok (s, ⟨.closing, k⟩ :: rest) := by
  cases h with
  | all i hw => rw [List.cons_append, List.nil_append, selection, if_pos hw]
  | @only _ cs set hcodes hset =>
    have hread : codes stop (used ++ ⟨.closing, k⟩ :: rest) = .ok (cs, _) := codes_append hcodes k
    have hset : AscSet.ofList cs = set := AscSet.ext fun c => by rw [AscSet.mem_ofList, hset]
    rw [← hset]
    cases hcodes with
    | last i _ =>
      rw [List.cons_append] at hread ⊢
      rw [selection, hread]
    | more i j _ _ =>
      rw [List.cons_append] at hread ⊢
      rw [selection, hread]

/-- What is read as a selection is one. -/
theorem exists_selection_of_selection {s : Selection} (h : selection stop ts = .ok (s, rest)) :
    ∃ used, ts = used ++ rest ∧ IsSelection used s := by
  unfold selection at h
  split at h
  · next w i ts =>
    split at h
    · next hw =>
      cases h
      exact ⟨[⟨.word w, i⟩], rfl, .all i hw⟩
    · cases h
  · next digits i ts =>
    split at h
    · cases h
    · next cs rest' hcodes =>
      cases h
      obtain ⟨used, hts, hused⟩ := exists_codes_of_codes hcodes
      exact ⟨used, hts, isSelection_ofList hused⟩
  · cases h

/-- A hop is read off the head of a list exactly when its tokens stand there. -/
theorem hop_eq_ok_iff {spec : WrittenHop} :
    hop stop ts = .ok (spec, rest) ↔ ∃ used, ts = used ++ rest ∧ IsHop used spec := by
  constructor
  · intro h
    unfold hop at h
    split at h
    · next name i ts =>
      split at h
      · cases h
      · next s rest' hbracketed =>
        cases h
        unfold bracketed at hbracketed
        split at hbracketed
        · next j ts =>
          split at hbracketed
          · cases hbracketed
          · next s' k rest' hselection =>
            cases hbracketed
            obtain ⟨used, rfl, hused⟩ := exists_selection_of_selection hselection
            exact ⟨⟨.word name, i⟩ :: ⟨.opening, j⟩ :: (used ++ [⟨.closing, k⟩]), by simp, .mk name i j k hused⟩
          · cases hbracketed
        · cases hbracketed
    · cases h
  · rintro ⟨used, rfl, h⟩
    cases h with
    | mk name i j k hselection =>
      have hread : selection stop (_ ++ ⟨.closing, k⟩ :: rest) = .ok (_, _) := selection_append hselection k
      rw [List.cons_append, List.cons_append, List.append_assoc, List.singleton_append, hop, bracketed, hread]

/-! ## Segments -/

/-- What stands between two arrows. -/
inductive IsSegment : List PlacedToken → Segment → Prop where
  | vars {ts : List PlacedToken} {names : List String} : IsVars ts names → IsSegment ts (.vars names)
  | hop {ts : List PlacedToken} {spec : WrittenHop} : IsHop ts spec → IsSegment ts (.hop spec)
  | anchor {ts : List PlacedToken} : IsAnchor ts → IsSegment ts .anchor

/-- `segment ('->' segment)*` stands for the segments in written order. -/
inductive IsSegments : List PlacedToken → List Segment → Prop where
  | last {ts : List PlacedToken} {s : Segment} : IsSegment ts s → IsSegments ts [s]
  | more {ts us : List PlacedToken} {s : Segment} {ss : List Segment} (i : Nat) :
      IsSegment ts s → IsSegments us ss → IsSegments (ts ++ ⟨.arrow, i⟩ :: us) (s :: ss)

/-- Segments are a segment, an arrow and further segments. -/
theorem isSegments_cons_iff {ts : List PlacedToken} {s : Segment} {ss : List Segment} (hne : ss ≠ []) :
    IsSegments ts (s :: ss) ↔ ∃ us i vs, ts = us ++ ⟨.arrow, i⟩ :: vs ∧ IsSegment us s ∧ IsSegments vs ss := by
  constructor
  · intro h
    cases h with
    | last _ => exact absurd rfl hne
    | @more us vs _ _ i hs hss => exact ⟨us, i, vs, rfl, hs, hss⟩
  · rintro ⟨us, i, vs, rfl, hs, hss⟩
    exact .more i hs hss

theorem opensBracket_nil : opensBracket [] = false := rfl

theorem opensBracket_arrow (i : Nat) (ts : List PlacedToken) : opensBracket (⟨.arrow, i⟩ :: ts) = false := rfl

/-- A segment is read together with the offset at which it starts. The anchor is one only where no bracket follows: with
a bracket after it the word names a context. -/
theorem segment_append (stop : Nat) {used rest : List PlacedToken} {s : Segment} (h : IsSegment used s)
    (hrest : opensBracket rest = false) : ∃ i, segment stop (used ++ rest) = .ok ((i, s), rest) := by
  cases h with
  | vars hvars =>
    cases hvars with
    | none i k => exact ⟨i, rfl⟩
    | @some ts _ i k hnames =>
      have hread : vars stop (ts ++ [⟨.closing, k⟩] ++ rest) = .ok (_, rest) :=
        (vars_eq_ok_iff i).2 ⟨ts ++ [⟨.closing, k⟩], rfl, .some i k hnames⟩
      exact ⟨i, by rw [List.cons_append, segment, hread]⟩
  | hop hhop =>
    have hread : hop stop (used ++ rest) = .ok (_, rest) := hop_eq_ok_iff.2 ⟨used, rfl, hhop⟩
    cases hhop with
    | mk name i j k hselection =>
      refine ⟨i, ?_⟩
      rw [List.cons_append, List.cons_append] at hread ⊢
      rw [segment, hread, if_neg (by simp [opensBracket])]
  | anchor ha =>
    cases ha with
    | mk i hw => exact ⟨i, by rw [List.cons_append, List.nil_append, segment, hrest, hw]; rfl⟩

/-- What is read as a segment is one. -/
theorem exists_segment_of_segment {s : Nat × Segment} (h : segment stop ts = .ok (s, rest)) :
    ∃ used, ts = used ++ rest ∧ IsSegment used s.2 := by
  unfold segment at h
  split at h
  · next i ts =>
    split at h
    · cases h
    · next names rest' hvars =>
      cases h
      obtain ⟨used, rfl, hused⟩ := (vars_eq_ok_iff i).1 hvars
      exact ⟨⟨.opening, i⟩ :: used, rfl, .vars hused⟩
  · next w i ts =>
    split at h
    · next hw =>
      cases h
      rw [Bool.and_eq_true] at hw
      exact ⟨[⟨.word w, i⟩], rfl, .anchor (.mk i hw.1)⟩
    · split at h
      · cases h
      · next spec rest' hhop =>
        cases h
        obtain ⟨used, hts, hused⟩ := hop_eq_ok_iff.1 hhop
        exact ⟨used, hts, .hop hused⟩
  · cases h
  · cases h

theorem segments_of_last {s : Nat × Segment} (h : segment stop ts = .ok (s, [])) : segments stop ts = .ok [s] := by
  unfold segments
  split <;> simp_all

/-- A segment before an arrow is followed by further ones. -/
theorem segments_of_arrow {s : Nat × Segment} {i : Nat} {more : List (Nat × Segment)}
    (h : segment stop ts = .ok (s, ⟨.arrow, i⟩ :: rest)) (hmore : segments stop rest = .ok more) :
    segments stop ts = .ok (s :: more) := by
  unfold segments
  split <;> simp_all

/-- Segments are read, each with its place. -/
theorem exists_segments_of_isSegments (stop : Nat) {ss : List Segment} (h : IsSegments ts ss) :
    ∃ placed, segments stop ts = .ok placed ∧ placed.map Prod.snd = ss := by
  induction h with
  | @last ts s hs =>
    obtain ⟨i, hread⟩ := segment_append stop hs (opensBracket_nil)
    rw [List.append_nil] at hread
    exact ⟨[(i, s)], segments_of_last hread, rfl⟩
  | @more ts us s ss k hs _ ih =>
    obtain ⟨placed, hplaced, hmap⟩ := ih
    obtain ⟨i, hread⟩ := segment_append stop hs (opensBracket_arrow k us)
    exact ⟨(i, s) :: placed, segments_of_arrow hread hplaced, by rw [List.map_cons, hmap]⟩

/-- What is read as segments are segments. -/
theorem isSegments_of_segments {placed : List (Nat × Segment)} (h : segments stop ts = .ok placed) :
    IsSegments ts (placed.map Prod.snd) := by
  fun_induction segments stop ts generalizing placed with
  | case1 ts e hs => cases h
  | case2 ts s hs =>
    cases h
    obtain ⟨used, rfl, hused⟩ := exists_segment_of_segment hs
    rw [List.append_nil]
    exact .last hused
  | case3 ts s i rest hs e herr ih => cases h
  | case4 ts s i rest hs more hmore ih =>
    cases h
    obtain ⟨used, rfl, hused⟩ := exists_segment_of_segment hs
    exact .more i hused (ih hmore)
  | case5 => cases h

/-! ## Paths -/

/-- Inner segments pass exactly when all of them are hops. -/
theorem innerHops_eq_ok_iff {inner : List (Nat × Segment)} {specs : List WrittenHop} :
    innerHops inner = .ok specs ↔ inner.map Prod.snd = specs.map Segment.hop := by
  induction inner generalizing specs with
  | nil => cases specs <;> simp [innerHops]
  | cons placed rest ih =>
    obtain ⟨i, s⟩ := placed
    cases s with
    | hop spec =>
      cases hrest : innerHops rest with
      | error e =>
        simp only [innerHops, hrest, List.map_cons, reduceCtorEq, false_iff]
        cases specs with
        | nil => simp
        | cons spec' specs' =>
          intro h
          rw [List.map_cons, List.cons.injEq] at h
          have := ih.2 h.2
          rw [hrest] at this
          cases this
      | ok more =>
        have hmore := ih.1 hrest
        simp only [innerHops, hrest, List.map_cons, Except.ok.injEq, hmore]
        cases specs with
        | nil => simp
        | cons spec' specs' =>
          have hinj : Function.Injective Segment.hop := fun a b h => by cases h; rfl
          rw [List.map_cons, List.cons.injEq, List.cons.injEq, Segment.hop.injEq,
            (List.map_injective_iff.2 hinj).eq_iff]
    | vars names => cases specs <;> simp [innerHops]
    | anchor => cases specs <;> simp [innerHops]

/-- Inner segments that are hops pass if there is one. -/
theorem someHops_eq_ok_iff {inner : List (Nat × Segment)} {specs : List WrittenHop} :
    someHops stop inner = .ok specs ↔ specs ≠ [] ∧ inner.map Prod.snd = specs.map Segment.hop := by
  unfold someHops
  cases inner with
  | nil => cases specs <;> simp
  | cons placed rest =>
    rw [if_neg (by simp), innerHops_eq_ok_iff]
    refine ⟨fun h => ⟨?_, h⟩, And.right⟩
    rintro rfl
    cases h

/-- Segments whose last is known, as those before it and the last. -/
theorem map_snd_eq_append_iff {placed : List (Nat × Segment)} {specs : List WrittenHop} {s : Segment} :
    placed.map Prod.snd = specs.map Segment.hop ++ [s] ↔
      ∃ i, placed.getLast? = some (i, s) ∧ placed.dropLast.map Prod.snd = specs.map Segment.hop := by
  rcases List.eq_nil_or_concat placed with rfl | ⟨inner, ⟨i, t⟩, rfl⟩
  · simp
  · rw [List.concat_eq_append, List.map_append, List.map_cons, List.map_nil, List.append_singleton_inj]
    simp [and_comm]

/-- Segments form a path exactly when they are the variables, one or more hops and the anchor, or the same from behind.
-/
theorem pathOf_eq_ok_iff {placed : List (Nat × Segment)} {p : WrittenPath} :
    pathOf stop placed = .ok p ↔ ∃ names specs, specs ≠ [] ∧
      ((placed.map Prod.snd = .vars names :: (specs.map Segment.hop ++ [.anchor]) ∧
          p = ⟨.variablesFirst, specs.reverse, names⟩) ∨
        (placed.map Prod.snd = .anchor :: (specs.map Segment.hop ++ [.vars names]) ∧
          p = ⟨.sampleFirst, specs, names⟩)) := by
  constructor
  · intro h
    unfold pathOf at h
    split at h
    · next i names rest =>
      split at h
      · next j hlast =>
        split at h
        · cases h
        · next specs hspecs =>
          cases h
          obtain ⟨hne, hinner⟩ := someHops_eq_ok_iff.1 hspecs
          refine ⟨names, specs, hne, .inl ⟨?_, rfl⟩⟩
          rw [List.map_cons, map_snd_eq_append_iff.2 ⟨j, hlast, hinner⟩]
      · cases h
    · next i rest =>
      split at h
      · next j names hlast =>
        split at h
        · cases h
        · next specs hspecs =>
          cases h
          obtain ⟨hne, hinner⟩ := someHops_eq_ok_iff.1 hspecs
          refine ⟨names, specs, hne, .inr ⟨?_, rfl⟩⟩
          rw [List.map_cons, map_snd_eq_append_iff.2 ⟨j, hlast, hinner⟩]
      · cases h
    · cases h
  · rintro ⟨names, specs, hne, ⟨hplaced, rfl⟩ | ⟨hplaced, rfl⟩⟩
    · obtain ⟨⟨i, _⟩, rest, rfl, rfl, hrest⟩ := List.map_eq_cons_iff.1 hplaced
      obtain ⟨j, hlast, hinner⟩ := map_snd_eq_append_iff.1 hrest
      rw [pathOf, hlast]
      simp only [someHops_eq_ok_iff.2 ⟨hne, hinner⟩]
    · obtain ⟨⟨i, _⟩, rest, rfl, rfl, hrest⟩ := List.map_eq_cons_iff.1 hplaced
      obtain ⟨j, hlast, hinner⟩ := map_snd_eq_append_iff.1 hrest
      rw [pathOf, hlast]
      simp only [someHops_eq_ok_iff.2 ⟨hne, hinner⟩]

/-- Hops are one at least. -/
theorem IsHops.ne_nil {specs : List WrittenHop} (h : IsHops ts specs) : specs ≠ [] := by
  rintro rfl
  cases h

/-- Hops and a last segment, arrows between them all. -/
theorem isSegments_hops_append_iff {specs : List WrittenHop} {s : Segment} (hne : specs ≠ []) :
    IsSegments ts (specs.map Segment.hop ++ [s]) ↔
      ∃ hs i us, ts = hs ++ ⟨.arrow, i⟩ :: us ∧ IsHops hs specs ∧ IsSegment us s := by
  induction specs generalizing ts with
  | nil => exact absurd rfl hne
  | cons spec specs ih =>
    rw [List.map_cons, List.cons_append, isSegments_cons_iff (by simp)]
    constructor
    · rintro ⟨hs, i, us, rfl, ⟨⟩ | hhop | ⟨⟩, hrest⟩
      cases specs with
      | nil =>
        cases hrest with
        | last hlast => exact ⟨hs, i, us, rfl, .last hhop, hlast⟩
        | more _ _ hrest => cases hrest
      | cons spec' specs' =>
        obtain ⟨hs', j, us', rfl, hhops, hlast⟩ := (ih (List.cons_ne_nil _ _)).1 hrest
        exact ⟨hs ++ ⟨.arrow, i⟩ :: hs', j, us', by simp, .more i hhop hhops, hlast⟩
    · rintro ⟨hs, i, us, rfl, hhops, hlast⟩
      cases hhops with
      | last hhop => exact ⟨hs, i, us, rfl, .hop hhop, .last hlast⟩
      | @more hs us' _ specs j hhop hhops =>
        exact ⟨hs, j, us' ++ ⟨.arrow, i⟩ :: us, by simp, .hop hhop, (ih hhops.ne_nil).2 ⟨us', i, us, rfl, hhops, hlast⟩⟩

/-- A list of tokens is read as a path exactly when the grammar derives the path from it. -/
theorem exists_segments_pathOf_iff (stop : Nat) {p : WrittenPath} :
    (∃ placed, segments stop ts = .ok placed ∧ pathOf stop placed = .ok p) ↔ IsPath ts p := by
  constructor
  · rintro ⟨placed, hplaced, hpath⟩
    have hsegments := isSegments_of_segments hplaced
    obtain ⟨names, specs, hne, ⟨hmap, rfl⟩ | ⟨hmap, rfl⟩⟩ := pathOf_eq_ok_iff.1 hpath
    · rw [hmap, isSegments_cons_iff (by simp)] at hsegments
      obtain ⟨vs, i, rest, rfl, ⟨hvars⟩ | ⟨⟩ | ⟨⟩, hrest⟩ := hsegments
      obtain ⟨hs, j, a, rfl, hhops, ⟨⟩ | ⟨⟩ | ⟨ha⟩⟩ := (isSegments_hops_append_iff hne).1 hrest
      exact .variablesFirst i j hvars hhops ha
    · rw [hmap, isSegments_cons_iff (by simp)] at hsegments
      obtain ⟨a, i, rest, rfl, ⟨⟩ | ⟨⟩ | ⟨ha⟩, hrest⟩ := hsegments
      obtain ⟨hs, j, vs, rfl, hhops, ⟨hvars⟩ | ⟨⟩ | ⟨⟩⟩ := (isSegments_hops_append_iff hne).1 hrest
      exact .sampleFirst i j ha hhops hvars
  · intro h
    cases h with
    | @variablesFirst vs hs a names specs i j hvars hhops ha =>
      have hne := hhops.ne_nil
      have hsegments : IsSegments _ (.vars names :: (specs.map Segment.hop ++ [.anchor])) :=
        .more i (.vars hvars) ((isSegments_hops_append_iff hne).2 ⟨hs, j, a, rfl, hhops, .anchor ha⟩)
      obtain ⟨placed, hplaced, hmap⟩ := exists_segments_of_isSegments stop hsegments
      exact ⟨placed, hplaced, pathOf_eq_ok_iff.2 ⟨names, specs, hne, .inl ⟨hmap, rfl⟩⟩⟩
    | @sampleFirst vs hs a names specs i j ha hhops hvars =>
      have hne := hhops.ne_nil
      have hsegments : IsSegments _ (.anchor :: (specs.map Segment.hop ++ [.vars names])) :=
        .more i (.anchor ha) ((isSegments_hops_append_iff hne).2 ⟨hs, j, vs, rfl, hhops, .vars hvars⟩)
      obtain ⟨placed, hplaced, hmap⟩ := exists_segments_of_isSegments stop hsegments
      exact ⟨placed, hplaced, pathOf_eq_ok_iff.2 ⟨names, specs, hne, .inr ⟨hmap, rfl⟩⟩⟩

end Grammar

end TieWalk
