import Mathlib.Data.String.Basic
import TieWalk.Text.Utf8

/-!
# Texts and their bytes

A text is decoded from its bytes and from no others: bytes that are decoded are the encoding of what they are decoded
to, and bytes that are not break at the place where no character starts. Texts stand in the order of their bytes.
-/

namespace TieWalk.Text

/-- The bytes of a text in UTF-8. -/
def encode (s : String) : List UInt8 := s.toList.flatMap String.utf8EncodeChar

/-! ## Decoding what was encoded -/

/-- A character is decoded from its bytes, whatever comes after them. -/
theorem firstChar?_encodeChar (c : Char) (rest : List UInt8) :
    firstChar? (String.utf8EncodeChar c ++ rest) = some c := by
  have hlength : (String.utf8EncodeChar c).length ≤ 4 := by
    rw [String.length_utf8EncodeChar]
    exact c.utf8Size_le_four
  rw [firstChar?, List.take_append, List.take_of_length_le hlength, List.toByteArray_append]
  exact ByteArray.utf8DecodeChar?_utf8EncodeChar_append

/-- What a character's bytes leave of bytes that start with them. -/
theorem drop_of_cons_eq_append {b : UInt8} {bytes rest : List UInt8} {c : Char}
    (h : b :: bytes = String.utf8EncodeChar c ++ rest) : bytes.drop (c.utf8Size - 1) = rest := by
  have hpos := c.utf8Size_pos
  have hdrop := congrArg (List.drop c.utf8Size) h
  rw [← String.length_utf8EncodeChar, List.drop_left, String.length_utf8EncodeChar] at hdrop
  rw [← hdrop, ← Nat.succ_pred_eq_of_pos hpos]
  rfl

/-- Characters are decoded from their bytes before whatever comes after them is. -/
theorem decodeChars_encodeChars_append (cs : List Char) (rest : List UInt8) :
    decodeChars (cs.flatMap String.utf8EncodeChar ++ rest) =
      match decodeChars rest with
      | .ok more => .ok (cs ++ more)
      | .error n => .error ((cs.flatMap String.utf8EncodeChar).length + n) := by
  induction cs with
  | nil => cases h : decodeChars rest <;> simp [h]
  | cons c cs ih =>
    obtain ⟨b, bs, hbytes⟩ := List.exists_cons_of_ne_nil (String.utf8EncodeChar_ne_nil (c := c))
    have hfirst := firstChar?_encodeChar c (cs.flatMap String.utf8EncodeChar ++ rest)
    have hrest : (bs ++ (cs.flatMap String.utf8EncodeChar ++ rest)).drop (c.utf8Size - 1) =
        cs.flatMap String.utf8EncodeChar ++ rest := drop_of_cons_eq_append (b := b) (by rw [hbytes, List.cons_append])
    have hlength : (String.utf8EncodeChar c ++ cs.flatMap String.utf8EncodeChar).length =
        c.utf8Size + (cs.flatMap String.utf8EncodeChar).length := by
      rw [List.length_append, String.length_utf8EncodeChar]
    rw [List.flatMap_cons, hlength, List.append_assoc, hbytes, List.cons_append, decodeChars]
    rw [hbytes, List.cons_append] at hfirst
    simp only [hfirst, hrest, ih]
    cases decodeChars rest with
    | ok more => rfl
    | error n => simp only [Nat.add_assoc]

/-- Characters are decoded from their encodings. -/
theorem decodeChars_encodeChars (cs : List Char) : decodeChars (cs.flatMap String.utf8EncodeChar) = .ok cs := by
  have h := decodeChars_encodeChars_append cs []
  rw [decodeChars, List.append_nil] at h
  rw [h]
  exact congrArg Except.ok (List.append_nil cs)

/-- A text is decoded from its bytes. -/
theorem decodeUtf8_encode (s : String) : decodeUtf8 (encode s) = .ok s := by
  rw [decodeUtf8, encode, decodeChars_encodeChars]
  simp

/-- Different texts are encoded differently. -/
theorem encode_injective {s t : String} (h : encode s = encode t) : s = t := by
  have hs := decodeUtf8_encode s
  rw [h, decodeUtf8_encode] at hs
  exact (Except.ok.inj hs).symm

/-! ## Decoding any bytes -/

/-- Bytes start with a character exactly when its encoding stands at their start. -/
theorem firstChar?_eq_some_iff {bytes : List UInt8} {c : Char} :
    firstChar? bytes = some c ↔ ∃ rest, bytes = String.utf8EncodeChar c ++ rest := by
  constructor
  · intro h
    obtain ⟨more, hmore⟩ := ByteArray.exists_of_utf8DecodeChar?_eq_some h
    have hbytes : bytes.take 4 = String.utf8EncodeChar c ++ more.data.toList := by
      simpa using congrArg (fun b => b.data.toList) hmore
    refine ⟨more.data.toList ++ bytes.drop 4, ?_⟩
    rw [← List.append_assoc, ← hbytes, List.take_append_drop]
  · rintro ⟨rest, rfl⟩
    exact firstChar?_encodeChar c rest

/-- The bytes encode a text up to a number of bytes, where others follow that start with no character. -/
def BreaksAt (bytes : List UInt8) (n : Nat) : Prop :=
  ∃ text rest, bytes = encode text ++ rest ∧ (encode text).length = n ∧ rest ≠ [] ∧
    ∀ c more, rest ≠ String.utf8EncodeChar c ++ more

/-- More characters before bytes move the place where they break. -/
theorem BreaksAt.encodeChar_append {bytes : List UInt8} {n : Nat} (h : BreaksAt bytes n) (c : Char) :
    BreaksAt (String.utf8EncodeChar c ++ bytes) (c.utf8Size + n) := by
  obtain ⟨text, rest, rfl, rfl, hne, hstarts⟩ := h
  refine ⟨String.ofList (c :: text.toList), rest, ?_, ?_, hne, hstarts⟩
  · simp [encode]
  · simp [encode]

/-- Bytes are decoded to the text that they encode, or break where the decoding stops. -/
theorem decodeChars_cases (bytes : List UInt8) :
    (∃ cs : List Char, decodeChars bytes = .ok cs ∧ bytes = cs.flatMap String.utf8EncodeChar) ∨
      ∃ n, decodeChars bytes = .error n ∧ BreaksAt bytes n := by
  fun_induction decodeChars bytes with
  | case1 => exact .inl ⟨[], rfl, rfl⟩
  | case2 b rest hnone =>
    refine .inr ⟨0, rfl, "", b :: rest, rfl, rfl, List.cons_ne_nil _ _, fun c more heq => ?_⟩
    rw [firstChar?_eq_some_iff.2 ⟨more, heq⟩] at hnone
    cases hnone
  | case3 b rest c hc cs hcs ih =>
    obtain ⟨more, hmore⟩ := firstChar?_eq_some_iff.1 hc
    rw [drop_of_cons_eq_append hmore] at ih hcs
    rw [hcs] at ih
    rcases ih with ⟨cs', heq, hbytes⟩ | ⟨n, heq, -⟩
    · cases heq
      exact .inl ⟨c :: cs, rfl, by rw [hmore, hbytes, List.flatMap_cons]⟩
    · cases heq
  | case4 b rest c hc n hn ih =>
    obtain ⟨more, hmore⟩ := firstChar?_eq_some_iff.1 hc
    rw [drop_of_cons_eq_append hmore] at ih hn
    rw [hn] at ih
    rcases ih with ⟨cs', heq, -⟩ | ⟨n', heq, hbreaks⟩
    · cases heq
    · cases heq
      exact .inr ⟨_, rfl, hmore ▸ hbreaks.encodeChar_append c⟩

/-- Bytes are decoded to the text that they encode. -/
theorem decodeUtf8_eq_ok_iff {bytes : List UInt8} {s : String} : decodeUtf8 bytes = .ok s ↔ bytes = encode s := by
  constructor
  · intro h
    unfold decodeUtf8 at h
    rcases decodeChars_cases bytes with ⟨cs, hcs, hbytes⟩ | ⟨n, hn, -⟩
    · rw [hcs] at h
      cases h
      rw [hbytes, encode, String.toList_ofList]
    · rw [hn] at h
      cases h
  · rintro rfl
    exact decodeUtf8_encode s

/-- Bytes are not decoded when they break somewhere, and the decoding stops there. -/
theorem decodeUtf8_eq_error_iff {bytes : List UInt8} {n : Nat} : decodeUtf8 bytes = .error n ↔ BreaksAt bytes n := by
  unfold decodeUtf8
  constructor
  · intro h
    rcases decodeChars_cases bytes with ⟨cs, hcs, -⟩ | ⟨n', hn, hbreaks⟩
    · rw [hcs] at h
      cases h
    · rw [hn] at h
      cases h
      exact hbreaks
  · rintro ⟨text, rest, rfl, rfl, hne, hstarts⟩
    obtain ⟨b, rest, rfl⟩ := List.exists_cons_of_ne_nil hne
    have hnone : firstChar? (b :: rest) = none := by
      refine Option.eq_none_iff_forall_ne_some.2 fun c hc => ?_
      obtain ⟨more, hmore⟩ := firstChar?_eq_some_iff.1 hc
      exact hstarts c more hmore
    have hrest : decodeChars (b :: rest) = .error 0 := by
      rw [decodeChars]
      simp only [hnone]
    rw [encode, decodeChars_encodeChars_append, hrest]
    rfl

/-- Bytes that break encode no text. -/
theorem BreaksAt.ne_encode {bytes : List UInt8} {n : Nat} (h : BreaksAt bytes n) (text : String) :
    bytes ≠ encode text := by
  rintro rfl
  have hread := decodeUtf8_eq_error_iff.2 h
  rw [decodeUtf8_encode] at hread
  cases hread

/-! ## The order of bytes -/

/-- The encodings of different characters differ within both, and the lesser character has the lesser byte there. -/
theorem encodeChar_append_lt {c d : Char} (h : c < d) (xs ys : List UInt8) :
    String.utf8EncodeChar c ++ xs < String.utf8EncodeChar d ++ ys := by
  have hlt : c.val.toNat < d.val.toNat := h
  have hbound : d.val.toNat < 0x110000 := by
    have hvalid := d.valid
    rcases hvalid with hvalid | hvalid <;> omega
  unfold String.utf8EncodeChar
  simp only
  generalize c.val.toNat = m at hlt
  generalize d.val.toNat = n at hlt hbound
  split_ifs
  all_goals simp only [List.cons_append, List.nil_append, List.cons_lt_cons_iff, UInt8.lt_iff_toNat_lt,
    ← UInt8.toNat_inj, UInt8.toNat_ofNat', Nat.reducePow]
  -- The bytes lie below 256, so that what is left compares the digits of the two numbers.
  all_goals try simp (disch := omega) only [Nat.mod_eq_of_lt]
  all_goals omega

/-- Texts are in the order of their encodings. -/
theorem encodeChars_lt {cs ds : List Char} (h : cs < ds) :
    cs.flatMap String.utf8EncodeChar < ds.flatMap String.utf8EncodeChar := by
  induction cs generalizing ds with
  | nil =>
    cases ds with
    | nil => exact absurd h (List.not_lt_nil _)
    | cons d ds =>
      obtain ⟨b, bs, hbytes⟩ := List.exists_cons_of_ne_nil (String.utf8EncodeChar_ne_nil (c := d))
      rw [List.flatMap_nil, List.flatMap_cons, hbytes]
      exact List.nil_lt_cons _ _
  | cons c cs ih =>
    cases ds with
    | nil => exact absurd h (List.not_lt_nil _)
    | cons d ds =>
      rw [List.flatMap_cons, List.flatMap_cons]
      rcases List.cons_lt_cons_iff.1 h with hlt | ⟨rfl, hrest⟩
      · exact encodeChar_append_lt hlt _ _
      · exact List.append_left_lt (ih hrest)

/-- Texts stand in the order of their bytes. -/
theorem encode_lt_encode_iff {s t : String} : encode s < encode t ↔ s < t := by
  have himp : ∀ {s t : String}, s < t → encode s < encode t := fun h => encodeChars_lt (String.lt_iff_toList_lt.1 h)
  refine ⟨fun h => ?_, himp⟩
  rcases lt_trichotomy s t with hlt | heq | hgt
  · exact hlt
  · rw [heq] at h
    exact absurd h (List.lt_irrefl _)
  · exact absurd (himp hgt) (List.lt_asymm h)

end TieWalk.Text
