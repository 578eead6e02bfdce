import TieWalk.Proofs.Query.Pieces
import TieWalk.Proofs.Query.Reading
import TieWalk.Query.Check

/-!
# Places in a query

A hop that is read keeps the place of its context's name, and a text that is refused for its form is refused at a place.
Both are offsets in bytes. A hop's is that of the word in the text, so hops stand in the order in which they are
written; a refusal's is the start of the text, its end, the start of a token or the first character at which none
starts, and so always between characters.
-/

namespace TieWalk

/-! ## Hops -/

/-- The name of a hop's context, as a word of the text. -/
def WrittenHop.word (h : WrittenHop) : PlacedToken := ⟨.word h.context, h.position⟩

/-- The hops of a path in the order in which they are written. -/
def WrittenPath.hopsAsWritten (p : WrittenPath) : List WrittenHop :=
  match p.direction with
  | .variablesFirst => p.hops.reverse
  | .sampleFirst => p.hops

namespace Grammar

variable {ts : List PlacedToken}

/-- The word of a hop is one of its tokens. -/
theorem IsHop.word_sublist {spec : WrittenHop} (h : IsHop ts spec) : [spec.word].Sublist ts := by
  cases h with
  | mk name i j k _ => exact (List.nil_sublist _).cons_cons _

/-- The words of hops stand among their tokens in the order of the hops. -/
theorem IsHops.words_sublist {specs : List WrittenHop} (h : IsHops ts specs) :
    (specs.map WrittenHop.word).Sublist ts := by
  induction h with
  | last hhop => exact hhop.word_sublist
  | more i hhop _ ih => exact hhop.word_sublist.append (ih.cons _)

/-- The words of the hops stand among the tokens of a path, in the order in which they are written. -/
theorem IsPath.words_sublist {p : WrittenPath} (h : IsPath ts p) :
    (p.hopsAsWritten.map WrittenHop.word).Sublist ts := by
  have hwithin : ∀ {as hs bs : List PlacedToken} {specs : List WrittenHop} (i j : Nat), IsHops hs specs →
      (specs.map WrittenHop.word).Sublist (as ++ ⟨.arrow, i⟩ :: (hs ++ ⟨.arrow, j⟩ :: bs)) := by
    intro as hs bs specs i j hhops
    have hmore : hs.Sublist (hs ++ ⟨.arrow, j⟩ :: bs) := List.sublist_append_left _ _
    exact hhops.words_sublist.trans ((hmore.cons _).trans (List.sublist_append_right _ _))
  cases h with
  | variablesFirst i j _ hhops _ =>
    show (List.map WrittenHop.word (List.reverse (List.reverse _))).Sublist _
    rw [List.reverse_reverse]
    exact hwithin i j hhops
  | sampleFirst i j _ hhops _ => exact hwithin i j hhops

end Grammar

namespace Token

/-- A token takes at least one byte. -/
theorem IsProper.width_pos {t : Token} (ht : t.IsProper) : 0 < width t.text.toList := by
  have hends : t.EndsBefore [] := t.endsBefore_of_head? nofun
  have hlonger := length_lt_of_first? (first?_append ht hends)
  rw [List.append_nil, List.length_nil] at hlonger
  obtain ⟨c, rest, htext⟩ := List.exists_cons_of_length_pos hlonger
  have hc := c.utf8Size_pos
  rw [htext]
  show 0 < c.utf8Size + width rest
  omega

/-- Tokens stand one after another: each starts before the next one does. -/
theorem IsLayout.pairwise_offset {start : Nat} {ts : List PlacedToken} {cs : List Char} (h : IsLayout start ts cs) :
    (∀ t ∈ ts, start ≤ t.offset) ∧ ts.Pairwise fun t u => t.offset < u.offset := by
  induction h with
  | blank => exact ⟨nofun, .nil⟩
  | @token start gap rest t ts _ hproper _ _ ih =>
    obtain ⟨hafter, hpairwise⟩ := ih
    have hwidth := hproper.width_pos
    refine ⟨List.forall_mem_cons.2 ⟨Nat.le_add_right _ _, fun u hu => ?_⟩, .cons (fun u hu => ?_) hpairwise⟩
    · have hle := hafter u hu
      omega
    · have hle := hafter u hu
      show start + width gap < u.offset
      omega

end Token

/-- Each hop of a path that is read stands in the text with the name of its context, and the hops stand in written
order. -/
theorem WrittenPath.places_of_ofText {text : String} {p : WrittenPath} (h : WrittenPath.ofText text = .ok p) :
    (∀ hop ∈ p.hopsAsWritten, Token.StandsAt text (.word hop.context) hop.position) ∧
      p.hopsAsWritten.Pairwise fun a b => a.position < b.position := by
  obtain ⟨-, ts, hscan, hpath⟩ := WrittenPath.ofText_eq_ok_iff.1 h
  have hwords := hpath.words_sublist
  refine ⟨fun hop hhop => ?_, ?_⟩
  · exact Token.standsAt_of_scan hscan hop.word (hwords.subset (List.mem_map_of_mem hhop))
  · have hpairwise := (Token.scan_eq_ok_iff.1 hscan).pairwise_offset.2.sublist hwords
    rwa [List.pairwise_map] at hpairwise

/-! ## Refusals -/

/-- The start of a text, its end, the start of a token of it, or a character at which none starts. -/
def IsFaultPlace (text : String) (position : Nat) : Prop :=
  position = 0 ∨ position = text.utf8ByteSize ∨
    (∃ ts, Token.scan 0 text.toList = .ok ts ∧ ∃ t ∈ ts, t.offset = position) ∨
    ∃ found, Token.IsStray text.toList position found

variable {text : String} {ts : List PlacedToken} {position : Nat} {fault : FormFault}

/-- A refusal that is placed by the tokens of a text is at a place where a fault can be. -/
theorem isFaultPlace_of_isPlaced (hscan : Token.scan 0 text.toList = .ok ts)
    (h : (QueryFault.malformed position fault).IsPlaced text.utf8ByteSize ts) : IsFaultPlace text position := by
  obtain ⟨_, _, heq, hplace⟩ := h
  cases heq
  rcases hplace with hstart | hend | htoken
  · exact .inl hstart
  · exact .inr (.inl hend)
  · exact .inr (.inr (.inl ⟨ts, hscan, htoken⟩))

/-- A text that has no tokens is refused where none starts. -/
theorem Grammar.isFaultPlace_of_tokens (h : tokens text = .error (.malformed position fault)) :
    IsFaultPlace text position := by
  unfold tokens at h
  split at h
  · cases h
  · split at h
    · next stray hstray =>
      cases h
      exact .inr (.inr (.inr ⟨_, Token.scan_eq_error_iff.1 hstray⟩))
    · cases h

/-- A path that is malformed is so at a place where a fault can be. -/
theorem WrittenPath.isFaultPlace_of_ofText (h : WrittenPath.ofText text = .error (.malformed position fault)) :
    IsFaultPlace text position := by
  unfold WrittenPath.ofText at h
  split at h
  · next htokens =>
    cases h
    exact Grammar.isFaultPlace_of_tokens htokens
  · next ts htokens =>
    have hscan := (Grammar.tokens_eq_ok_iff.1 htokens).2
    split at h
    · next hsegments =>
      cases h
      exact isFaultPlace_of_isPlaced hscan (Grammar.isPlaced_of_segments hsegments)
    · next placed hsegments =>
      exact isFaultPlace_of_isPlaced hscan (Grammar.isPlaced_of_pathOf (Grammar.exists_offset_of_segments hsegments) h)

/-- A hop that is malformed is so at a place where a fault can be. -/
theorem WrittenHop.isFaultPlace_of_ofText (h : WrittenHop.ofText text = .error (.malformed position fault)) :
    IsFaultPlace text position := by
  unfold WrittenHop.ofText at h
  split at h
  · next htokens =>
    cases h
    exact Grammar.isFaultPlace_of_tokens htokens
  · cases h
  · next ts _ htokens =>
    have hscan := (Grammar.tokens_eq_ok_iff.1 htokens).2
    split at h
    · next hhop =>
      cases h
      exact isFaultPlace_of_isPlaced hscan (Grammar.isPlaced_of_hop hhop)
    · cases h
    · next t rest hhop =>
      cases h
      obtain ⟨used, rfl, -⟩ := Grammar.hop_eq_ok_iff.1 hhop
      exact .inr (.inr (.inl ⟨_, hscan, t, by simp, rfl⟩))

/-- A hop by itself is refused for its form when it is read, not when it is looked up. -/
theorem Hop.isFaultPlace_of_ofText (h : Hop.ofText text = .error (.malformed position fault)) :
    IsFaultPlace text position := by
  unfold Hop.ofText at h
  split at h
  · next hwritten =>
    cases h
    exact WrittenHop.isFaultPlace_of_ofText hwritten
  · split at h
    · next hcontext =>
      cases h
      unfold Context.ofText at hcontext
      split at hcontext <;> cases hcontext
    · unfold Hop.check at h
      split at h <;> cases h

/-- Where a text is cut in two, its bytes are cut between characters. -/
theorem isValid_of_toList_eq {before rest : List Char} (h : text.toList = before ++ rest)
    (hposition : position = Token.width before) : String.Pos.Raw.IsValid text ⟨position⟩ := by
  rw [String.Pos.Raw.isValid_iff_exists_append]
  refine ⟨String.ofList before, String.ofList rest, ?_, ?_⟩
  · rw [← String.ofList_append, ← h, String.ofList_toList]
  · rw [hposition, ← Token.utf8ByteSize_ofList]
    rfl

/-- Every place at which a text can be refused is between two characters of it, or at one of its ends. -/
theorem IsFaultPlace.isValid (h : IsFaultPlace text position) : String.Pos.Raw.IsValid text ⟨position⟩ := by
  rcases h with rfl | rfl | ⟨ts, hscan, t, ht, rfl⟩ | ⟨found, pieces, gap, rest, htext, -, -, -, -, hposition⟩
  · exact String.Pos.Raw.isValid_zero
  · exact String.Pos.Raw.isValid_rawEndPos
  · obtain ⟨before, after, htext, hoffset, -⟩ := Token.standsAt_of_scan hscan t ht
    rw [String.Pos.Raw.isValid_iff_exists_append]
    exact ⟨before, t.token.text ++ after, by rw [htext, String.append_assoc], by rw [← hoffset]; rfl⟩
  · have hcut : text.toList = Token.spell pieces gap ++ found :: rest := by
      rw [htext, Token.spell_eq_append, Token.spell_eq_append pieces gap, List.append_assoc]
    exact isValid_of_toList_eq hcut hposition

/-- Of a path that is read, every hop is placed at the byte offset at which the text spells the name of its context, and
the offsets ascend outward from the sample where the text starts with it and descend where it starts with the variables.
A text that is refused for its form, as a query or as a hop by itself, is refused at its start, at its end, at the start
of a token or at the first character at which none starts: within the text, and between characters. -/
theorem places_are_exact (text : String) :
    (∀ p, WrittenPath.ofText text = .ok p →
      (∀ hop ∈ p.hops, Token.StandsAt text (.word hop.context) hop.position) ∧
      (p.direction = .sampleFirst → p.hops.Pairwise fun a b => a.position < b.position) ∧
      (p.direction = .variablesFirst → p.hops.Pairwise fun a b => b.position < a.position)) ∧
    ∀ position fault, WrittenPath.ofText text = .error (.malformed position fault) ∨
        Hop.ofText text = .error (.malformed position fault) →
      position ≤ text.utf8ByteSize ∧ String.Pos.Raw.IsValid text ⟨position⟩ ∧ IsFaultPlace text position := by
  refine ⟨fun p hp => ?_, fun position fault h => ?_⟩
  · obtain ⟨hstands, hordered⟩ := WrittenPath.places_of_ofText hp
    unfold WrittenPath.hopsAsWritten at hstands hordered
    cases hdirection : p.direction with
    | sampleFirst =>
      simp only [hdirection] at hstands hordered
      exact ⟨hstands, fun _ => hordered, nofun⟩
    | variablesFirst =>
      simp only [hdirection, List.mem_reverse, List.pairwise_reverse] at hstands hordered
      exact ⟨hstands, nofun, fun _ => hordered⟩
  · have hplace : IsFaultPlace text position :=
      h.elim WrittenPath.isFaultPlace_of_ofText Hop.isFaultPlace_of_ofText
    exact ⟨hplace.isValid.le_rawEndPos, hplace.isValid, hplace⟩

/-- Two hops behind letters of two bytes, written from the variables, and a query and a hop that are refused behind such
letters: at a code that no number of 32 bits is, and at a character that starts no token. -/
theorem accentedQueries_places :
    (∃ p, WrittenPath.ofText "[é] -> B[all]\t-> A[1]->sample" = .ok p ∧
      (∀ hop ∈ p.hops, Token.StandsAt "[é] -> B[all]\t-> A[1]->sample" (.word hop.context) hop.position) ∧
      (p.direction = .variablesFirst → p.hops.Pairwise fun a b => b.position < a.position)) ∧
    (∃ fault, WrittenPath.ofText "[é] -> A[4294967296] -> sample" = .error (.malformed 10 fault) ∧
      String.Pos.Raw.IsValid "[é] -> A[4294967296] -> sample" ⟨10⟩) ∧
    ∃ fault, Hop.ofText "é ½" = .error (.malformed 3 fault) ∧ IsFaultPlace "é ½" 3 := by
  have hread : WrittenPath.ofText "[é] -> B[all]\t-> A[1]->sample" =
      .ok ⟨.variablesFirst, [⟨"A", .only (AscSet.ofList [1]), 18⟩, ⟨"B", .all, 8⟩], ["é"]⟩ := by decide +kernel
  have hcode : WrittenPath.ofText "[é] -> A[4294967296] -> sample" =
      .error (.malformed 10 (.codeOutOfRange "4294967296")) := by decide +kernel
  have hstray : Hop.ofText "é ½" = .error (.malformed 3 (.strayCharacter '½')) := by decide +kernel
  obtain ⟨hstands, -, hdescending⟩ := (places_are_exact _).1 _ hread
  exact ⟨⟨_, hread, hstands, hdescending⟩, ⟨_, hcode, ((places_are_exact _).2 _ _ (.inl hcode)).2.1⟩,
    ⟨_, hstray, ((places_are_exact _).2 _ _ (.inr hstray)).2.2⟩⟩

end TieWalk
