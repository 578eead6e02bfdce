import TieWalk.Proofs.Basics
import TieWalk.Relation.Tie

/-!
# What the rows of a relation table say

A relation table has three cells in each row, each of them blank or a text. A cell that is not blank is meant to be a
decimal number; the rows with three numbers of which the last is a code are the ties of the table, in the order of the
rows. This is said here of the table alone, whatever file it is stored in.
-/

namespace TieWalk

/-! ## Decimal numbers -/

namespace Text

/-- One or more digits, which a sign may precede. -/
inductive IsDecimal : List Char → Int → Prop where
  | unsigned {ds : List Char} : isNumeral ds = true → IsDecimal ds (natOfDigits ds)
  | positive {ds : List Char} : isNumeral ds = true → IsDecimal ('+' :: ds) (natOfDigits ds)
  | negative {ds : List Char} : isNumeral ds = true → IsDecimal ('-' :: ds) (-natOfDigits ds)

/-- A numeral, and nothing else, is read as the number of its digits. -/
theorem readNat?_eq_some_iff {cs : List Char} {n : Nat} :
    readNat? cs = some n ↔ isNumeral cs = true ∧ n = natOfDigits cs := by
  unfold readNat?
  split
  · next h => simp [h, eq_comm]
  · next h => simp [h]

/-- A number has a digit. -/
theorem not_isDecimal_nil {n : Int} : ¬IsDecimal [] n := by
  intro h
  generalize hcs : ([] : List Char) = cs at h
  cases h with
  | unsigned hds =>
    subst hcs
    cases hds
  | positive | negative => cases hcs

/-- A number is read off the texts that spell it. -/
theorem readInt?_eq_some_iff {cs : List Char} {n : Int} : readInt? cs = some n ↔ IsDecimal cs n := by
  constructor
  · intro h
    unfold readInt? at h
    split at h
    all_goals
      obtain ⟨k, hk, rfl⟩ := Option.map_eq_some_iff.1 h
      obtain ⟨hds, rfl⟩ := readNat?_eq_some_iff.1 hk
    · exact .positive hds
    · exact .negative hds
    · exact .unsigned hds
  · intro h
    cases h with
    | unsigned hds =>
      unfold readInt?
      split
      · cases hds
      · cases hds
      · rw [readNat?_eq_some_iff.2 ⟨hds, rfl⟩]
        rfl
    | positive hds => rw [readInt?, readNat?_eq_some_iff.2 ⟨hds, rfl⟩]; rfl
    | negative hds => rw [readInt?, readNat?_eq_some_iff.2 ⟨hds, rfl⟩]; rfl

/-- A long word is read off the texts that spell its number. -/
theorem readLong?_eq_some_iff {cs : List Char} {n : Long} : readLong? cs = some n ↔ IsDecimal cs n.toInt := by
  unfold readLong?
  rw [Option.bind_eq_some_iff, ← readInt?_eq_some_iff]
  constructor
  · rintro ⟨k, hk, hn⟩
    rw [hk, IntType.toInt_of_ofInt? hn]
  · intro h
    exact ⟨n.toInt, h, IntType.ofInt?_toInt n⟩

end Text

/-! ## Cells and rows -/

/-- A cell without a text, or with one that is all blank. -/
def IsBlankCell (cell : Option String) : Prop := ∀ text, cell = some text → Text.trim text = ""

/-- A cell says nothing when it is blank, and otherwise the number that it spells, blanks at its ends apart. -/
def CellSays (cell : Option String) : Option Long → Prop
  | none => IsBlankCell cell
  | some n => ∃ text, cell = some text ∧ Text.IsDecimal (Text.trim text).toList n.toInt

/-- A cell that is not blank spells a long word. -/
def IsReadableCell (cell : Option String) : Prop :=
  ∀ text, cell = some text → Text.trim text ≠ "" → ∃ n : Long, Text.IsDecimal (Text.trim text).toList n.toInt

/-- A cell says something exactly when it can be read. -/
theorem exists_cellSays_iff {cell : Option String} : (∃ n, CellSays cell n) ↔ IsReadableCell cell := by
  constructor
  · rintro ⟨n, hn⟩ text rfl hne
    cases n with
    | none => exact absurd (hn text rfl) hne
    | some n =>
      obtain ⟨text', htext, hdecimal⟩ := hn
      cases htext
      exact ⟨n, hdecimal⟩
  · intro h
    cases cell with
    | none => exact ⟨none, nofun⟩
    | some text =>
      by_cases hblank : Text.trim text = ""
      · exact ⟨none, fun text' htext => Option.some.inj htext ▸ hblank⟩
      · obtain ⟨n, hn⟩ := h text rfl hblank
        exact ⟨some n, text, rfl, hn⟩

/-- A text says nothing if it is blank, and otherwise the long word that it is read as. -/
theorem cellSays_text_iff {text : String} {n : Option Long} : CellSays (some text) n ↔
    (Text.trim text = "" ∧ n = none) ∨
    (Text.trim text ≠ "" ∧ Text.readLong? (Text.trim text).toList = n ∧ n ≠ none) := by
  cases n with
  | none =>
    constructor
    · intro h
      exact .inl ⟨h text rfl, rfl⟩
    · rintro (⟨hblank, -⟩ | ⟨-, -, hne⟩)
      · exact fun text' htext => Option.some.inj htext ▸ hblank
      · exact absurd rfl hne
  | some n =>
    constructor
    · rintro ⟨text', htext, hdecimal⟩
      cases htext
      refine .inr ⟨fun hblank => ?_, Text.readLong?_eq_some_iff.2 hdecimal, nofun⟩
      rw [hblank] at hdecimal
      exact Text.not_isDecimal_nil hdecimal
    · rintro (⟨-, h⟩ | ⟨-, hread, -⟩)
      · cases h
      · exact ⟨text, rfl, Text.readLong?_eq_some_iff.1 hread⟩

/-- A text cell is read as what it says. -/
theorem readCell_eq_ok_iff {column text : String} {n : Option Long} :
    readCell column text = .ok n ↔ CellSays (some text) n := by
  rw [cellSays_text_iff]
  unfold readCell
  simp only [String.isEmpty_iff]
  by_cases hblank : Text.trim text = ""
  · simp [hblank, eq_comm]
  · rw [if_neg hblank]
    cases hread : Text.readLong? (Text.trim text).toList with
    | none => simp [hblank, eq_comm]
    | some m => cases n <;> simp [hblank]

/-- A cell says one thing only. -/
theorem CellSays.unique {cell : Option String} {n m : Option Long} (h : CellSays cell n) (h' : CellSays cell m) :
    n = m := by
  cases cell with
  | none =>
    have hnone : ∀ {k}, CellSays none k → k = none := by
      intro k hk
      cases k with
      | none => rfl
      | some k =>
        obtain ⟨text, htext, -⟩ := hk
        cases htext
    rw [hnone h, hnone h']
  | some text =>
    have hread : readCell "" text = .ok n := readCell_eq_ok_iff.2 h
    rw [readCell_eq_ok_iff.2 h'] at hread
    exact (Except.ok.inj hread).symm

/-- A row of a relation table: three cells, each of them absent or a text. -/
structure TextRow where
  person : Option String
  relative : Option String
  code : Option String

/-- What the cells of a row say. -/
structure NumberRow where
  person : Option Long
  relative : Option Long
  code : Option Long

/-- Each cell of the row says the number. -/
structure TextRow.Says (row : TextRow) (numbers : NumberRow) : Prop where
  person : CellSays row.person numbers.person
  relative : CellSays row.relative numbers.relative
  code : CellSays row.code numbers.code

/-- No cell of the row is anything but blank or a number. -/
structure TextRow.IsReadable (row : TextRow) : Prop where
  person : IsReadableCell row.person
  relative : IsReadableCell row.relative
  code : IsReadableCell row.code

/-- A row says numbers exactly when each of its cells can be read. -/
theorem TextRow.exists_says_iff {row : TextRow} : (∃ numbers, row.Says numbers) ↔ row.IsReadable := by
  constructor
  · rintro ⟨numbers, h⟩
    exact ⟨exists_cellSays_iff.1 ⟨_, h.person⟩, exists_cellSays_iff.1 ⟨_, h.relative⟩,
      exists_cellSays_iff.1 ⟨_, h.code⟩⟩
  · intro h
    obtain ⟨person, hperson⟩ := exists_cellSays_iff.2 h.person
    obtain ⟨relative, hrelative⟩ := exists_cellSays_iff.2 h.relative
    obtain ⟨code, hcode⟩ := exists_cellSays_iff.2 h.code
    exact ⟨⟨person, relative, code⟩, hperson, hrelative, hcode⟩

/-- A row says one row of numbers only. -/
theorem TextRow.Says.unique {row : TextRow} {n m : NumberRow} (h : row.Says n) (h' : row.Says m) : n = m := by
  obtain ⟨person, relative, code⟩ := n
  obtain ⟨person', relative', code'⟩ := m
  cases h.person.unique h'.person
  cases h.relative.unique h'.relative
  cases h.code.unique h'.code
  rfl

/-! ## Ties of a table -/

/-- The tie of a row, where all three numbers are there and the last is a code. -/
def NumberRow.tie? (numbers : NumberRow) : Option Tie :=
  match numbers.person, numbers.relative, numbers.code with
  | some person, some relative, some n =>
    if 0 ≤ n.toInt ∧ n.toInt ≤ 4294967295 then some ⟨person, relative, UInt32.ofNat n.toInt.toNat⟩ else none
  | _, _, _ => none

/-- The ties are those of what the rows say, in the order of the rows. -/
def AreTies (rows : List TextRow) (ties : List Tie) : Prop :=
  ∃ numbers, List.Forall₂ TextRow.Says rows numbers ∧ ties = numbers.filterMap NumberRow.tie?

/-- A table has its ties in one way only. -/
theorem AreTies.unique {rows : List TextRow} {ties ties' : List Tie} (h : AreTies rows ties) (h' : AreTies rows ties') :
    ties = ties' := by
  obtain ⟨numbers, hsaid, rfl⟩ := h
  obtain ⟨numbers', hsaid', rfl⟩ := h'
  have hnumbers : numbers = numbers' := by
    induction hsaid generalizing numbers' with
    | nil =>
      cases hsaid'
      rfl
    | cons hrow _ ih =>
      obtain ⟨row', rest', hrow', hrest', rfl⟩ := List.forall₂_cons_left_iff.1 hsaid'
      rw [hrow.unique hrow', ih _ hrest']
  rw [hnumbers]

/-! ## Reading a table -/

/-- The row of a file that the numbers make. -/
def NumberRow.row (numbers : NumberRow) : Row := Row.ofCells numbers.person numbers.relative numbers.code

/-- The row of numbers is the tie that they make, or nothing. -/
theorem NumberRow.row_eq (numbers : NumberRow) : numbers.row = match numbers.tie? with
    | some e => .tie e
    | none => .nothing := by
  obtain ⟨_ | person, _ | relative, _ | n⟩ := numbers
  case some.some.some =>
    unfold row tie? Row.ofCells Code.ofLong?
    have hbound : (0 ≤ n.toInt ∧ n.toInt.toNat < codeBound) ↔ 0 ≤ n.toInt ∧ n.toInt ≤ 4294967295 := by
      unfold codeBound
      omega
    by_cases hcode : 0 ≤ n.toInt ∧ n.toInt ≤ 4294967295
    · simp only [hbound, if_pos hcode]
    · simp only [hbound, if_neg hcode]
  all_goals rfl

namespace Reading

/-- Rows of numbers are read through, and what comes after them is read then: their ties are handed on before. -/
theorem ofRows_map_row_append (codes : Option (AscSet Code)) (numbers : List NumberRow) (rest : List Row) :
    ofRows codes (numbers.map NumberRow.row ++ rest) =
      ⟨(numbers.filterMap NumberRow.tie?).filter (fun e => e.selectedBy codes) ++ (ofRows codes rest).ties,
        (numbers.filterMap NumberRow.tie?).length + (ofRows codes rest).rowsRead,
        ((numbers.filterMap NumberRow.tie?).filter fun e => e.selectedBy codes).length + (ofRows codes rest).rowsKept,
        (ofRows codes rest).fault?⟩ := by
  induction numbers with
  | nil => simp
  | cons n more ih =>
    rw [List.map_cons, List.cons_append, NumberRow.row_eq, List.filterMap_cons]
    cases n.tie? with
    | none => exact ih
    | some e =>
      simp only [ofRows, ih, accept, List.filter_cons, List.length_cons]
      split
      · simp only [List.cons_append, List.length_cons, Nat.add_right_comm]
      · simp only [Nat.add_right_comm]

/-- Rows of numbers are read through, and give their ties. -/
theorem ofRows_row (numbers : List NumberRow) : ofRows none (numbers.map NumberRow.row) =
    ⟨numbers.filterMap NumberRow.tie?, (numbers.filterMap NumberRow.tie?).length,
      (numbers.filterMap NumberRow.tie?).length,
      none⟩ := by
  have h := ofRows_map_row_append none numbers []
  rw [List.append_nil] at h
  rw [h]
  simp [ofRows, Tie.selectedBy]

/-- A reading ends early at a row that cannot be read, if there is one. -/
theorem fault?_ofRows_ne_none {codes : Option (AscSet Code)} {rows : List Row} {fault : ReadFault}
    (h : .unreadable fault ∈ rows) : (ofRows codes rows).fault? ≠ none := by
  induction rows with
  | nil => cases h
  | cons row rest ih =>
    cases row with
    | unreadable fault' => exact nofun
    | nothing => exact ih ((List.mem_cons.1 h).resolve_left nofun)
    | tie e =>
      rw [ofRows, fault?_accept]
      exact ih ((List.mem_cons.1 h).resolve_left nofun)

end Reading

end TieWalk
