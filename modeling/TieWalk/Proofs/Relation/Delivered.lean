import TieWalk.Proofs.Relation.Readers

/-!
# What a failing read has delivered

A read that fails has handed on ties before it does. A delimited file is read record by record: it has given the ties of
the records before the first bad one. A columnar file is read group by group, and a group column by column: it has given
the ties of the groups before the one with the first bad cell, and the cell that is reported is the first of the first
bad column of that group, which need not be the first row by row.
-/

namespace TieWalk

/-! ## Stored cells -/

/-- A cell as a relation file stores it: a text or a whole number of any width, either of which may be absent. -/
inductive StoredCell where
  | text (cell : Option String)
  | number (cell : Option Int)

namespace StoredCell

/-- A text says what it spells, and a number itself if it is a long word. -/
def Says : StoredCell → Option Long → Prop
  | .text cell, n => CellSays cell n
  | .number cell, n => n = cell.bind Long.ofInt?

/-- The cell holds a text that is neither blank nor a long word. -/
def IsBad : StoredCell → String → Prop
  | .text cell, written =>
    cell = some written ∧ Text.trim written ≠ "" ∧ ¬∃ n : Long, Text.IsDecimal (Text.trim written).toList n.toInt
  | .number _, _ => False

/-- The number in a cell. -/
def read (column : String) : StoredCell → Except ReadFault (Option Long)
  | .text cell => readCell column (cell.getD "")
  | .number cell => .ok (cell.bind Long.ofInt?)

variable {column : String} {cell : StoredCell}

theorem read_text (cell : Option String) : (StoredCell.text cell).read column = readCell column (cell.getD "") := rfl

/-- A stored cell is read as what it says. -/
theorem read_eq_ok_iff {n : Option Long} : cell.read column = .ok n ↔ cell.Says n := by
  cases cell with
  | text cell =>
    rw [read_text]
    exact readCell_getD_eq_ok_iff
  | number cell =>
    show Except.ok _ = Except.ok n ↔ n = _
    rw [Except.ok.injEq, eq_comm]

/-- A cell that is not read is bad, and is reported with its text, blanks at its ends apart. -/
theorem read_eq_error_iff {fault : ReadFault} :
    cell.read column = .error fault ↔ ∃ text, cell.IsBad text ∧ fault = .invalidCell column (Text.trim text) := by
  constructor
  · intro h
    cases cell with
    | number cell => cases h
    | text cell =>
      cases cell with
      | none =>
        have hblank : readCell column (none.getD "") = .ok none := readCell_getD_eq_ok_iff.2 nofun
        have hread : readCell column (none.getD "") = .error fault := h
        rw [hblank] at hread
        cases hread
      | some text =>
        have hread : readCell column text = .error fault := h
        unfold readCell at hread
        simp only [String.isEmpty_iff] at hread
        split at hread
        · cases hread
        · next hne =>
          split at hread
          · cases hread
          · next hnone =>
            cases hread
            refine ⟨text, ⟨rfl, hne, ?_⟩, rfl⟩
            rintro ⟨n, hn⟩
            rw [Text.readLong?_eq_some_iff.2 hn] at hnone
            cases hnone
  · rintro ⟨text, hbad, rfl⟩
    cases cell with
    | number cell => exact hbad.elim
    | text cell =>
      obtain ⟨rfl, hne, hnot⟩ := hbad
      have hnone : Text.readLong? (Text.trim text).toList = none :=
        Option.eq_none_iff_forall_ne_some.2 fun n hn => hnot ⟨n, Text.readLong?_eq_some_iff.1 hn⟩
      show readCell column text = _
      unfold readCell
      simp only [String.isEmpty_iff]
      rw [if_neg hne, hnone]

/-- No cell is bad that says something. -/
theorem IsBad.not_says {text : String} (h : cell.IsBad text) {n : Option Long} : ¬cell.Says n := by
  intro hn
  have hread : cell.read "" = .ok n := read_eq_ok_iff.2 hn
  rw [read_eq_error_iff.2 ⟨text, h, rfl⟩] at hread
  cases hread

/-- A cell says one thing only. -/
theorem Says.unique {n m : Option Long} (h : cell.Says n) (h' : cell.Says m) : n = m := by
  have hread : cell.read "" = .ok n := read_eq_ok_iff.2 h
  rw [read_eq_ok_iff.2 h'] at hread
  exact (Except.ok.inj hread).symm

/-- A cell says something or is bad. -/
theorem exists_says_or_isBad (cell : StoredCell) : (∃ n, cell.Says n) ∨ ∃ text, cell.IsBad text := by
  cases hread : cell.read "" with
  | ok n => exact .inl ⟨n, read_eq_ok_iff.1 hread⟩
  | error fault =>
    obtain ⟨text, hbad, -⟩ := read_eq_error_iff.1 hread
    exact .inr ⟨text, hbad⟩

end StoredCell

/-- Three stored cells. -/
structure StoredRow where
  person : StoredCell
  relative : StoredCell
  code : StoredCell

/-- A row of texts, as stored. -/
def TextRow.stored (row : TextRow) : StoredRow := ⟨.text row.person, .text row.relative, .text row.code⟩

namespace StoredRow

/-- Each cell of the row says the number. -/
structure Says (row : StoredRow) (numbers : NumberRow) : Prop where
  person : row.person.Says numbers.person
  relative : row.relative.Says numbers.relative
  code : row.code.Says numbers.code

/-- Some cell of the row is bad. -/
def IsBad (row : StoredRow) : Prop :=
  (∃ text, row.person.IsBad text) ∨ (∃ text, row.relative.IsBad text) ∨ ∃ text, row.code.IsBad text

/-- The cells of a row, read. -/
def cells (row : StoredRow) : Columnar.Cells where
  person := row.person.read ColumnName.person
  relative := row.relative.read ColumnName.relative
  code := row.code.read ColumnName.code

/-- A row without a bad cell says numbers. -/
theorem exists_says {row : StoredRow} (h : ¬row.IsBad) : ∃ numbers, row.Says numbers := by
  obtain ⟨hperson, hother⟩ := not_or.1 h
  obtain ⟨hrelative, hcode⟩ := not_or.1 hother
  obtain ⟨person, hperson⟩ := row.person.exists_says_or_isBad.resolve_right hperson
  obtain ⟨relative, hrelative⟩ := row.relative.exists_says_or_isBad.resolve_right hrelative
  obtain ⟨code, hcode⟩ := row.code.exists_says_or_isBad.resolve_right hcode
  exact ⟨⟨person, relative, code⟩, hperson, hrelative, hcode⟩

/-- A stored row says one row of numbers only. -/
theorem Says.unique {row : StoredRow} {n m : NumberRow} (h : row.Says n) (h' : row.Says m) : n = m := by
  obtain ⟨person, relative, code⟩ := n
  obtain ⟨person', relative', code'⟩ := m
  cases h.person.unique h'.person
  cases h.relative.unique h'.relative
  cases h.code.unique h'.code
  rfl

/-- A row that says numbers is read as the row that they make. -/
theorem Says.isOk_and_row {row : StoredRow} {numbers : NumberRow} (h : row.Says numbers) :
    row.cells.IsOk ∧ row.cells.row = numbers.row :=
  Columnar.Cells.isOk_and_row (StoredCell.read_eq_ok_iff.2 h.person) (StoredCell.read_eq_ok_iff.2 h.relative)
    (StoredCell.read_eq_ok_iff.2 h.code)

/-- Not every cell of a row with a bad one is read. -/
theorem IsBad.not_isOk {row : StoredRow} (h : row.IsBad) : ¬row.cells.IsOk := by
  rintro ⟨⟨person, hperson⟩, ⟨relative, hrelative⟩, ⟨code, hcode⟩⟩
  rcases h with ⟨text, hbad⟩ | ⟨text, hbad⟩ | ⟨text, hbad⟩
  · exact hbad.not_says (StoredCell.read_eq_ok_iff.1 hperson)
  · exact hbad.not_says (StoredCell.read_eq_ok_iff.1 hrelative)
  · exact hbad.not_says (StoredCell.read_eq_ok_iff.1 hcode)

/-- What says numbers has no bad cell. -/
theorem Says.not_isBad {row : StoredRow} {numbers : NumberRow} (h : row.Says numbers) : ¬row.IsBad :=
  fun hbad => hbad.not_isOk h.isOk_and_row.1

end StoredRow

/-! ## The cell that is reported -/

/-- The first cell of a column that is bad has the text. -/
def IsFirstBad (column : List StoredCell) (text : String) : Prop :=
  ∃ before cell after, column = before ++ cell :: after ∧ (∀ c ∈ before, ∃ n, c.Says n) ∧ cell.IsBad text

/-- Of rows read together the first bad cell of the persons is reported, else that of the relatives, else that of the
codes. -/
inductive Reports (rows : List StoredRow) : ReadFault → Prop where
  | person {text : String} : IsFirstBad (rows.map StoredRow.person) text →
      Reports rows (.invalidCell ColumnName.person (Text.trim text))
  | relative {text : String} : (∀ row ∈ rows, ∃ n, row.person.Says n) → IsFirstBad (rows.map StoredRow.relative) text →
      Reports rows (.invalidCell ColumnName.relative (Text.trim text))
  | code {text : String} : (∀ row ∈ rows, ∃ n, row.person.Says n) → (∀ row ∈ rows, ∃ n, row.relative.Says n) →
      IsFirstBad (rows.map StoredRow.code) text → Reports rows (.invalidCell ColumnName.code (Text.trim text))

namespace Columnar

variable {rows : List StoredRow} {column : String} {cell : StoredRow → StoredCell}

/-- Reading a cell has no fault exactly when the cell says something. -/
theorem faultOf?_read_eq_none_iff {c : StoredCell} : faultOf? (c.read column) = none ↔ ∃ n, c.Says n := by
  rw [faultOf?_eq_none_iff]
  exact exists_congr fun n => StoredCell.read_eq_ok_iff

/-- The fault of a cell is that it is bad, with its text as it stands between its blanks. -/
theorem faultOf?_read_eq_some_iff {c : StoredCell} {fault : ReadFault} :
    faultOf? (c.read column) = some fault ↔ ∃ text, c.IsBad text ∧ fault = .invalidCell column (Text.trim text) := by
  rw [← StoredCell.read_eq_error_iff]
  cases c.read column <;> simp [faultOf?]

/-- A column without a fault says numbers. -/
theorem findSome?_read_eq_none_iff :
    rows.findSome? (fun row => faultOf? ((cell row).read column)) = none ↔ ∀ row ∈ rows, ∃ n, (cell row).Says n := by
  simp only [List.findSome?_eq_none_iff, faultOf?_read_eq_none_iff]

/-- The first fault of a column is that of its first bad cell. -/
theorem findSome?_read_eq_some_iff {fault : ReadFault} :
    rows.findSome? (fun row => faultOf? ((cell row).read column)) = some fault ↔
      ∃ text, IsFirstBad (rows.map cell) text ∧ fault = .invalidCell column (Text.trim text) := by
  have hmap : rows.findSome? (fun row => faultOf? ((cell row).read column)) =
      (rows.map cell).findSome? fun c => faultOf? (c.read column) := by
    rw [List.findSome?_map]
    rfl
  rw [hmap, List.findSome?_eq_some_iff]
  simp only [faultOf?_read_eq_none_iff, faultOf?_read_eq_some_iff]
  constructor
  · rintro ⟨before, c, after, hcolumn, ⟨text, hbad, hfault⟩, hbefore⟩
    exact ⟨text, ⟨before, c, after, hcolumn, hbefore, hbad⟩, hfault⟩
  · rintro ⟨text, ⟨before, c, after, hcolumn, hbefore, hbad⟩, hfault⟩
    exact ⟨before, c, after, hcolumn, ⟨text, hbad, hfault⟩, hbefore⟩

/-- A group reports the first bad cell of its first bad column. -/
theorem groupFault?_eq_some_iff {fault : ReadFault} :
    groupFault? (rows.map StoredRow.cells) = some fault ↔ Reports rows fault := by
  unfold groupFault?
  simp only [List.findSome?_map, Function.comp_def, StoredRow.cells, Option.or_eq_some_iff, findSome?_read_eq_none_iff,
    findSome?_read_eq_some_iff]
  constructor
  · rintro (⟨text, hfirst, rfl⟩ | ⟨hperson, ⟨text, hfirst, rfl⟩ | ⟨hrelative, text, hfirst, rfl⟩⟩)
    · exact .person hfirst
    · exact .relative hperson hfirst
    · exact .code hperson hrelative hfirst
  · intro h
    cases h with
    | person hfirst => exact .inl ⟨_, hfirst, rfl⟩
    | relative hperson hfirst => exact .inr ⟨hperson, .inl ⟨_, hfirst, rfl⟩⟩
    | code hperson hrelative hfirst => exact .inr ⟨hperson, .inr ⟨hrelative, _, hfirst, rfl⟩⟩

/-- A row read alone is reported like a group of one. -/
theorem groupRows_singleton (c : Cells) : groupRows [c] = [c.row] := by
  obtain ⟨person, relative, code⟩ := c
  cases person with
  | error fault => rfl
  | ok person =>
    cases relative with
    | error fault => rfl
    | ok relative => cases code <;> rfl

/-- A row read alone is the fault that it reports. -/
theorem row_eq_of_reports {row : StoredRow} {fault : ReadFault} (h : Reports [row] fault) :
    row.cells.row = .unreadable fault := by
  have hgroup : groupFault? [row.cells] = some fault := groupFault?_eq_some_iff.2 h
  have hrow : [row.cells.row] = [.unreadable fault] := by rw [← groupRows_singleton, groupRows, hgroup]
  exact List.singleton_inj.1 hrow

/-- Rows of which one is bad report a fault. -/
theorem exists_reports {row : StoredRow} (hrow : row ∈ rows) (h : row.IsBad) : ∃ fault, Reports rows fault := by
  cases hfault : groupFault? (rows.map StoredRow.cells) with
  | none => exact absurd (groupFault?_eq_none_iff.1 hfault _ (List.mem_map_of_mem hrow)) h.not_isOk
  | some fault => exact ⟨fault, groupFault?_eq_some_iff.1 hfault⟩

/-- Rows read together that report a fault are one row that cannot be read. -/
theorem groupRows_eq_of_reports {fault : ReadFault} (h : Reports rows fault) :
    groupRows (rows.map StoredRow.cells) = [.unreadable fault] := by
  rw [groupRows, groupFault?_eq_some_iff.2 h]

end Columnar

/-- Rows read together report one fault only. -/
theorem Reports.unique {rows : List StoredRow} {fault fault' : ReadFault} (h : Reports rows fault)
    (h' : Reports rows fault') : fault = fault' := by
  have hfault := Columnar.groupFault?_eq_some_iff.2 h
  rw [Columnar.groupFault?_eq_some_iff.2 h'] at hfault
  exact (Option.some.inj hfault).symm

/-! ## Failing -/

namespace Store

/-- A read of the file fails for the fault, whichever codes are asked for, and has handed on those ties that have one of
them. -/
structure FailsAfter (store : Store) (path : String) (format : RelationFormat) (ties : List Tie)
    (fault : ReadFault) : Prop where
  ties : ∀ codes, (store.read path format codes).ties = ties.filter fun e => e.selectedBy codes
  fault? : ∀ codes, (store.read path format codes).fault? = some fault
  scan : ∀ codes, store.scan path format codes = .error (.unreadable path fault)

/-- A file whose rows are numbers up to one that cannot be read fails there. -/
theorem failsAfter_of_rows {store : Store} {path : String} {format : RelationFormat} {numbers : List NumberRow}
    {fault : ReadFault} {rest : List Row}
    (h : store.rows path format = numbers.map NumberRow.row ++ .unreadable fault :: rest) :
    store.FailsAfter path format (numbers.filterMap NumberRow.tie?) fault := by
  have hread : ∀ codes, store.read path format codes =
      ⟨(numbers.filterMap NumberRow.tie?).filter fun e => e.selectedBy codes, (numbers.filterMap NumberRow.tie?).length,
        ((numbers.filterMap NumberRow.tie?).filter fun e => e.selectedBy codes).length, some fault⟩ := by
    intro codes
    rw [read, h, Reading.ofRows_map_row_append]
    simp [Reading.ofRows]
  refine ⟨fun codes => by rw [hread], fun codes => by rw [hread], fun codes => ?_⟩
  unfold Store.scan
  simp only [hread]

end Store

/-! ## Delimited files -/

namespace Delimited

/-- The columns of a table in a header of names. -/
structure Header.IsOf (header : Header) (names : List String) : Prop where
  width : header.width = names.length
  person : IsColumn names ColumnName.person header.person
  relative : IsColumn names ColumnName.relative header.relative
  code : IsColumn names ColumnName.code header.code

namespace Header

variable {header : Header} {r : Record}

/-- The record is bad: it is not as long as the header, it has a field that is no text, or one of its three cells is
bad. -/
def IsBad (header : Header) (r : Record) : Prop :=
  r.fields.length ≠ header.width ∨ (∃ field ∈ r.fields, ∀ text, field ≠ Text.encode text) ∨
    ∃ texts, r.fields = texts.map Text.encode ∧ (header.textRow texts).stored.IsBad

/-- The record is as long as the header, its fields are texts, and its three cells say the numbers. -/
def Says (header : Header) (r : Record) (numbers : NumberRow) : Prop :=
  ∃ texts, r.fields = texts.map Text.encode ∧ texts.length = header.width ∧ (header.textRow texts).stored.Says numbers

/-- What is reported of a bad record: its length, else its first field that is no text, else its first bad cell. -/
inductive Refuses (header : Header) (r : Record) : ReadFault → Prop where
  | length : r.fields.length ≠ header.width → Refuses header r (.unequalLength r.place r.fields.length header.width)
  | text {before : List String} {field : List UInt8} {after : List (List UInt8)} {n : Nat} :
    r.fields.length = header.width →
      r.fields = before.map Text.encode ++ field :: after → Text.BreaksAt field n →
        Refuses header r (.invalidUtf8 r.place before.length n)
  | cell {texts : List String} {fault : ReadFault} : r.fields = texts.map Text.encode → texts.length = header.width →
      Reports [(header.textRow texts).stored] fault → Refuses header r fault

end Header

/-- Fields are texts, or there is a first that is none. -/
theorem fields_cases (fields : List (List UInt8)) :
    (∃ texts : List String, fields = texts.map Text.encode) ∨
      ∃ (before : List String) (field : List UInt8) (after : List (List UInt8)) (n : Nat),
        fields = before.map Text.encode ++ field :: after ∧ Text.BreaksAt field n := by
  induction fields with
  | nil => exact .inl ⟨[], rfl⟩
  | cons field rest ih =>
    cases hfield : Text.decodeUtf8 field with
    | error n => exact .inr ⟨[], field, rest, n, rfl, Text.decodeUtf8_eq_error_iff.1 hfield⟩
    | ok text =>
      rw [Text.decodeUtf8_eq_ok_iff.1 hfield]
      rcases ih with ⟨texts, rfl⟩ | ⟨before, bad, after, n, rfl, hbreaks⟩
      · exact .inl ⟨text :: texts, rfl⟩
      · exact .inr ⟨text :: before, bad, after, n, rfl, hbreaks⟩

/-- The first field that is no text is reported. -/
theorem decodeFields_of_breaksAt {field : List UInt8} {n : Nat} (h : Text.BreaksAt field n) (place : RecordPlace)
    (number : Nat) (before : List String) (after : List (List UInt8)) :
    decodeFields place number (before.map Text.encode ++ field :: after) =
      .error (.invalidUtf8 place (number + before.length) n) := by
  induction before generalizing number with
  | nil =>
    rw [List.map_nil, List.nil_append, decodeFields, Text.decodeUtf8_eq_error_iff.2 h]
    rfl
  | cons text before ih =>
    rw [List.map_cons, List.cons_append, decodeFields, Text.decodeUtf8_encode]
    simp only [ih, List.length_cons]
    rw [Nat.add_assoc, Nat.add_comm 1]

/-- Encoded texts are the same texts. -/
theorem eq_of_map_encode_eq {texts texts' : List String} (h : texts.map Text.encode = texts'.map Text.encode) :
    texts = texts' :=
  List.map_injective_iff.2 (fun _ _ => Text.encode_injective) h

namespace Header

variable {header : Header} {r : Record}

/-- A record is the row of its three cells, whatever they hold. -/
theorem row_eq_of_texts {texts : List String} (hfields : r.fields = texts.map Text.encode)
    (hwidth : texts.length = header.width) :
    header.row r = (header.textRow texts).stored.cells.row := by
  have hlength : r.fields.length = header.width := by rw [hfields, List.length_map, hwidth]
  unfold row
  rw [if_neg (not_not.2 hlength), Record.texts_eq_ok hfields]
  exact rowOf_readCells header texts

/-- A record without anything bad says numbers and is read as the row that they make. -/
theorem exists_says (h : ¬header.IsBad r) : ∃ numbers, header.Says r numbers ∧ header.row r = numbers.row := by
  obtain ⟨hlength, hother⟩ := not_or.1 h
  obtain ⟨htext, hcell⟩ := not_or.1 hother
  have hwidth := not_not.1 hlength
  rcases fields_cases r.fields with ⟨texts, hfields⟩ | ⟨before, field, after, n, hfields, hbreaks⟩
  · obtain ⟨numbers, hsaid⟩ := StoredRow.exists_says fun hbad => hcell ⟨texts, hfields, hbad⟩
    have hlength : texts.length = header.width := by rw [← hwidth, hfields, List.length_map]
    exact ⟨numbers, ⟨texts, hfields, hlength, hsaid⟩, (row_eq_of_texts hfields hlength).trans hsaid.isOk_and_row.2⟩
  · exact absurd ⟨field, by simp [hfields], hbreaks.ne_encode⟩ htext

/-- A record says one thing only. -/
theorem Says.unique {n m : NumberRow} (h : header.Says r n) (h' : header.Says r m) : n = m := by
  obtain ⟨texts, hfields, -, hsaid⟩ := h
  obtain ⟨texts', hfields', -, hsaid'⟩ := h'
  rw [eq_of_map_encode_eq (hfields.symm.trans hfields')] at hsaid
  exact hsaid.unique hsaid'

/-- No record is bad that says numbers. -/
theorem Says.not_isBad {numbers : NumberRow} (h : header.Says r numbers) : ¬header.IsBad r := by
  obtain ⟨texts, hfields, hwidth, hsaid⟩ := h
  rintro (hlength | ⟨field, hmem, hnot⟩ | ⟨texts', hfields', hbad⟩)
  · rw [hfields, List.length_map] at hlength
    exact hlength hwidth
  · rw [hfields] at hmem
    obtain ⟨text, -, rfl⟩ := List.mem_map.1 hmem
    exact hnot text rfl
  · rw [← eq_of_map_encode_eq (hfields.symm.trans hfields')] at hbad
    exact hsaid.not_isBad hbad

/-- A bad record is refused. -/
theorem exists_refuses (h : header.IsBad r) : ∃ fault, header.Refuses r fault := by
  by_cases hlength : r.fields.length = header.width
  swap
  · exact ⟨_, .length hlength⟩
  rcases fields_cases r.fields with ⟨texts, hfields⟩ | ⟨before, field, after, n, hfields, hbreaks⟩
  · have hbad : (header.textRow texts).stored.IsBad := by
      rcases h with hne | ⟨field, hmem, hnot⟩ | ⟨texts', hfields', hbad⟩
      · exact absurd hlength hne
      · rw [hfields] at hmem
        obtain ⟨text, -, heq⟩ := List.mem_map.1 hmem
        exact absurd heq.symm (hnot text)
      · rw [eq_of_map_encode_eq (hfields.symm.trans hfields')]
        exact hbad
    have hwidth : texts.length = header.width := by rw [← hlength, hfields, List.length_map]
    obtain ⟨fault, hreports⟩ := Columnar.exists_reports List.mem_cons_self hbad
    exact ⟨fault, .cell hfields hwidth hreports⟩
  · exact ⟨_, .text hlength hfields hbreaks⟩

/-- A refused record is a row that cannot be read, for what it is refused for. -/
theorem Refuses.row_eq {fault : ReadFault} (h : header.Refuses r fault) : header.row r = .unreadable fault := by
  cases h with
  | length hlength => exact if_pos hlength
  | text hlength hfields hbreaks =>
    unfold row Record.texts
    rw [if_neg (not_not.2 hlength), hfields, decodeFields_of_breaksAt hbreaks, Nat.zero_add]
  | cell hfields hwidth hreports => rw [row_eq_of_texts hfields hwidth, Columnar.row_eq_of_reports hreports]

/-- A record is refused for one fault only. -/
theorem Refuses.unique {fault fault' : ReadFault} (h : header.Refuses r fault) (h' : header.Refuses r fault') :
    fault = fault' := by
  have hrow := h.row_eq
  rw [h'.row_eq] at hrow
  exact (Row.unreadable.inj hrow).symm

end Header

/-- The file has a header with the columns of a table, and after it the records. -/
def HasRecords (bytes : List UInt8) (header : Header) (data : List Record) : Prop :=
  ∃ (first : Record) (names : List String),
    records bytes = first :: data ∧ first.fields = names.map Text.encode ∧ header.IsOf names

/-- The rows of a file are those of its records. -/
theorem HasRecords.rows_eq {bytes : List UInt8} {header : Header} {data : List Record}
    (h : HasRecords bytes header data) : rows bytes = data.map header.row := by
  obtain ⟨first, names, hrecords, hfirst, hheader⟩ := h
  have hof : headerOf (first :: data) = .ok header := by
    rw [headerOf, Record.texts_eq_ok hfirst]
    exact Header.ofNames_eq_ok hheader.width hheader.person hheader.relative hheader.code
  unfold rows
  simp only [hrecords, hof, List.tail_cons]

/-- Records without anything bad say numbers and are read as the rows that they make. -/
theorem Header.exists_forall₂_says {header : Header} {data : List Record} (h : ∀ r ∈ data, ¬header.IsBad r) :
    ∃ numbers, List.Forall₂ header.Says data numbers ∧ data.map header.row = numbers.map NumberRow.row := by
  induction data with
  | nil => exact ⟨[], .nil, rfl⟩
  | cons r rest ih =>
    obtain ⟨hr, hrest⟩ := List.forall_mem_cons.1 h
    obtain ⟨n, hsaid, hrow⟩ := Header.exists_says hr
    obtain ⟨numbers, hall, hrows⟩ := ih hrest
    exact ⟨n :: numbers, .cons hsaid hall, by rw [List.map_cons, List.map_cons, hrow, hrows]⟩

end Delimited

/-- A delimited file fails at its first bad record: it has given the ties of the records before. -/
theorem Store.exists_failsAfter_csv {store : Store} {path : String} {content : Content} {header : Delimited.Header}
    {before after : List Delimited.Record} {r : Delimited.Record} (hfile : store.Has path content)
    (hrecords : Delimited.HasRecords content.bytes header (before ++ r :: after))
    (hbefore : ∀ b ∈ before, ¬header.IsBad b)
    (hbad : header.IsBad r) : ∃ numbers fault, List.Forall₂ header.Says before numbers ∧ header.Refuses r fault ∧
      store.FailsAfter path .csv (numbers.filterMap NumberRow.tie?) fault := by
  obtain ⟨numbers, hsaid, hnumbers⟩ := Delimited.Header.exists_forall₂_says hbefore
  obtain ⟨fault, hrefuses⟩ := Delimited.Header.exists_refuses hbad
  have hrows : store.rows path .csv = numbers.map NumberRow.row ++ .unreadable fault :: after.map header.row := by
    rw [rows_csv hfile, hrecords.rows_eq, List.map_append, List.map_cons, hnumbers, hrefuses.row_eq]
  exact ⟨numbers, fault, hsaid, hrefuses, failsAfter_of_rows hrows⟩

/-! ## Columnar files -/

namespace Columnar

/-- The cells of a field of texts or of whole numbers. -/
inductive HasCells : Field → List StoredCell → Prop where
  | texts {f : Field} {cells : List (Option String)} : HasTexts f cells → HasCells f (cells.map .text)
  | numbers (name : String) {t : IntType} (cells : List (Option t.Value)) :
      HasCells ⟨name, .int t, cells⟩ (cells.map fun cell => .number (cell.map IntType.Value.toInt))

theorem HasCells.readCells_eq {f : Field} {cells : List StoredCell} (h : HasCells f cells) :
    readCells f = cells.map (StoredCell.read f.name) := by
  cases h with
  | texts htexts =>
    simp only [htexts.readCells_eq, List.map_map, Function.comp_def, StoredCell.read_text]
  | numbers name cells =>
    rw [List.map_map]
    refine List.map_congr_left fun cell _ => ?_
    cases cell <;> rfl

/-- The three columns of a table among some columns, row by row. -/
structure HasRows (columns : Batch) (rows : List StoredRow) : Prop where
  person : ∃ f, columns.field? ColumnName.person = some f ∧ HasCells f (rows.map StoredRow.person)
  relative : ∃ f, columns.field? ColumnName.relative = some f ∧ HasCells f (rows.map StoredRow.relative)
  code : ∃ f, columns.field? ColumnName.code = some f ∧ HasCells f (rows.map StoredRow.code)

/-- The cells of three columns, row by row. -/
theorem HasRows.fileCells_eq {columns : Batch} {rows : List StoredRow} (h : HasRows columns rows) :
    fileCells columns = .ok (rows.map StoredRow.cells) := by
  obtain ⟨person, hperson, hpersons⟩ := h.person
  obtain ⟨relative, hrelative, hrelatives⟩ := h.relative
  obtain ⟨code, hcode, hcodes⟩ := h.code
  rw [fileCells_eq_ok hperson hrelative hcode]
  refine congrArg Except.ok (cellsOf_eq_map ?_ ?_ ?_)
  · rw [hpersons.readCells_eq, List.map_map, (Table.of_field? hperson).2]
    rfl
  · rw [hrelatives.readCells_eq, List.map_map, (Table.of_field? hrelative).2]
    rfl
  · rw [hcodes.readCells_eq, List.map_map, (Table.of_field? hcode).2]
    rfl

/-- Columns of texts are the columns of the rows that they make. -/
theorem hasRows_of_texts {columns : Batch} {rows : List TextRow} {person relative code : Field}
    (hperson : columns.field? ColumnName.person = some person) (hpersons : HasTexts person (rows.map TextRow.person))
    (hrelative : columns.field? ColumnName.relative = some relative)
    (hrelatives : HasTexts relative (rows.map TextRow.relative))
    (hcode : columns.field? ColumnName.code = some code) (hcodes : HasTexts code (rows.map TextRow.code)) :
    HasRows columns (rows.map TextRow.stored) := by
  have hcells : ∀ {f : Field} {cell : TextRow → Option String} {stored : StoredRow → StoredCell},
    HasTexts f (rows.map cell) →
      (∀ row : TextRow, stored row.stored = .text (cell row)) → HasCells f ((rows.map TextRow.stored).map stored) := by
    intro f cell stored htexts hstored
    have hmap : (rows.map TextRow.stored).map stored = (rows.map cell).map StoredCell.text := by
      rw [List.map_map, List.map_map]
      exact List.map_congr_left fun row _ => hstored row
    rw [hmap]
    exact .texts htexts
  exact ⟨⟨person, hperson, hcells hpersons fun _ => rfl⟩, ⟨relative, hrelative, hcells hrelatives fun _ => rfl⟩,
    ⟨code, hcode, hcells hcodes fun _ => rfl⟩⟩

theorem pieces_cons {α : Type} {n : Nat} (hn : 0 < n) (a : α) (rest : List α) :
    pieces n hn (a :: rest) = (a :: rest).take n :: pieces n hn ((a :: rest).drop n) := by
  rw [pieces]

/-- A list that is whole pieces long is cut apart from what comes after it. -/
theorem pieces_append {α : Type} {n : Nat} (hn : 0 < n) (q : Nat) {l : List α} (hl : l.length = n * q) (m : List α) :
    pieces n hn (l ++ m) = pieces n hn l ++ pieces n hn m := by
  induction q generalizing l with
  | zero =>
    rw [Nat.mul_zero, List.length_eq_zero_iff] at hl
    rw [hl, pieces]
    rfl
  | succ q ih =>
    have hle : n ≤ l.length := by
      rw [hl, Nat.mul_succ]
      exact Nat.le_add_left _ _
    obtain ⟨a, rest, rfl⟩ := List.exists_cons_of_length_pos (Nat.lt_of_lt_of_le hn hle)
    have hdrop : ((a :: rest).drop n).length = n * q := by
      rw [List.length_drop, hl, Nat.mul_succ, Nat.add_sub_cancel]
    rw [List.cons_append, pieces_cons, pieces_cons, ← List.cons_append, List.take_append_of_le_length hle,
      List.drop_append_of_le_length hle, ih hdrop, List.cons_append]

/-- Rows without a bad cell say numbers and are read as the rows that they make. -/
theorem exists_forall₂_says (rows : List StoredRow) (h : ∀ row ∈ rows, ¬row.IsBad) :
    ∃ numbers, List.Forall₂ StoredRow.Says rows numbers ∧ (∀ c ∈ rows.map StoredRow.cells, c.IsOk) ∧
      (rows.map StoredRow.cells).map Cells.row = numbers.map NumberRow.row := by
  induction rows with
  | nil => exact ⟨[], .nil, by simp, rfl⟩
  | cons row rest ih =>
    obtain ⟨hrow, hrest⟩ := List.forall_mem_cons.1 h
    obtain ⟨n, hsaid⟩ := StoredRow.exists_says hrow
    obtain ⟨numbers, hall, hok, hrows⟩ := ih hrest
    refine ⟨n :: numbers, .cons hsaid hall, List.forall_mem_cons.2 ⟨hsaid.isOk_and_row.1, hok⟩, ?_⟩
    rw [List.map_cons, List.map_cons, List.map_cons, hsaid.isOk_and_row.2, hrows]

/-- Between two groups the rows of a file can be cut: those of the groups before, then those of the group there, then
others. -/
theorem exists_flatMap_groupRows_eq {l m : List Cells} (q : Nat) (hl : l.length = groupSize * q) (hm : m ≠ []) :
    ∃ rest, (pieces groupSize (by decide) (l ++ m)).flatMap groupRows =
      (pieces groupSize (by decide) l).flatMap groupRows ++ (groupRows (m.take groupSize) ++ rest) := by
  obtain ⟨a, more, rfl⟩ := List.exists_cons_of_ne_nil hm
  refine ⟨(pieces groupSize (by decide) ((a :: more).drop groupSize)).flatMap groupRows, ?_⟩
  rw [pieces_append (by decide) q hl, List.flatMap_append, pieces_cons, List.flatMap_cons]

end Columnar

namespace Store

variable {store : Store} {path : String} {content : Content} {file : Columnar.File}

/-- A columnar file fails at the group of its first bad cell: it has given the ties of the groups before. -/
theorem exists_failsAfter_parquet {before after : List StoredRow} {row : StoredRow} (hfile : store.Has path content)
    (hdecoded : content.columnar = .ok file) (hrows : Columnar.HasRows file.columns (before ++ row :: after))
    (hbefore : ∀ b ∈ before, ¬b.IsBad) (hbad : row.IsBad) : ∃ numbers fault,
      List.Forall₂ StoredRow.Says (before.take (1024 * (before.length / 1024))) numbers ∧
      Reports (((before ++ row :: after).drop (1024 * (before.length / 1024))).take 1024) fault ∧
      store.FailsAfter path .parquet (numbers.filterMap NumberRow.tie?) fault := by
  generalize hstart : 1024 * (before.length / 1024) = start
  have hle : start ≤ before.length := by omega
  have hlength : ((before.take start).map StoredRow.cells).length = Columnar.groupSize * (before.length / 1024) := by
    rw [List.length_map, List.length_take, Nat.min_eq_left hle, ← hstart]
    rfl
  have hsplit : before ++ row :: after = before.take start ++ (before.drop start ++ row :: after) := by
    rw [← List.append_assoc, List.take_append_drop]
  have hdrop : (before ++ row :: after).drop start = before.drop start ++ row :: after :=
    List.drop_append_of_le_length hle
  -- The bad row is less than a group's length away from the start of its group.
  have hmem : row ∈ (before.drop start ++ row :: after).take 1024 := by
    have hshort : (before.drop start).length < 1024 := by
      rw [List.length_drop]
      omega
    rw [List.take_append, List.take_of_length_le hshort.le]
    refine List.mem_append_right _ ?_
    obtain ⟨k, hk⟩ : ∃ k, 1024 - (before.drop start).length = k + 1 := ⟨_, (Nat.succ_pred_eq_of_pos (by omega)).symm⟩
    rw [hk, List.take_succ_cons]
    exact List.mem_cons_self
  obtain ⟨numbers, hsaid, hok, hnumbers⟩ :=
    Columnar.exists_forall₂_says (before.take start) fun b hb => hbefore b (List.mem_of_mem_take hb)
  obtain ⟨fault, hreports⟩ := Columnar.exists_reports hmem hbad
  obtain ⟨rest, hrest⟩ := Columnar.exists_flatMap_groupRows_eq (before.length / 1024) hlength
    (m := (before.drop start ++ row :: after).map StoredRow.cells) (by simp)
  have hfinal : store.rows path .parquet = numbers.map NumberRow.row ++ .unreadable fault ::
      (rest ++ (file.damage?.map fun words => Row.unreadable (.undecodable words)).toList) := by
    rw [rows_parquet hfile hdecoded, Columnar.rows, hrows.fileCells_eq, hsplit, List.map_append]
    simp only
    rw [hrest, Columnar.flatMap_groupRows hok, hnumbers, ← List.map_take, Columnar.groupSize,
      Columnar.groupRows_eq_of_reports hreports, List.append_assoc, List.append_assoc, List.singleton_append]
  exact ⟨numbers, fault, hsaid, hdrop ▸ hreports, failsAfter_of_rows hfinal⟩

/-- A columnar file without a bad cell in the rows that are decoded fails where the decoder does not go on: it has given
the ties of all these rows. -/
theorem exists_failsAfter_damage {rows : List StoredRow} {words : String} (hfile : store.Has path content)
    (hdecoded : content.columnar = .ok file) (hdamage : file.damage? = some words)
    (hrows : Columnar.HasRows file.columns rows) (hgood : ∀ row ∈ rows, ¬row.IsBad) : ∃ numbers,
      List.Forall₂ StoredRow.Says rows numbers ∧
      store.FailsAfter path .parquet (numbers.filterMap NumberRow.tie?) (.undecodable words) := by
  obtain ⟨numbers, hsaid, hok, hnumbers⟩ := Columnar.exists_forall₂_says rows hgood
  have hfinal : store.rows path .parquet = numbers.map NumberRow.row ++ [.unreadable (.undecodable words)] := by
    rw [rows_parquet hfile hdecoded, Columnar.rows, hrows.fileCells_eq, hdamage]
    simp only
    rw [Columnar.flatMap_groupRows hok, hnumbers]
    rfl
  exact ⟨numbers, hsaid, failsAfter_of_rows hfinal⟩

/-- A read that fails has delivered what comes before the fault, for any codes. A delimited file fails at its first bad
record: it has given the ties of the records before, and of that record its length is reported, else its first field
that is no text, else its first bad cell. A columnar file fails at the group of 1024 rows with its first bad cell: it
has given the ties of the groups before, and of that group the first bad cell of the first bad column is reported.
Without a bad cell it fails where its decoder does not go on, after the ties of all rows that were decoded. -/
theorem failing_read_delivers (store : Store) (path : String) :
    (∀ content header before r after, store.Has path content →
      Delimited.HasRecords content.bytes header (before ++ r :: after) → (∀ b ∈ before, ¬header.IsBad b) →
      header.IsBad r → ∃ numbers fault, List.Forall₂ header.Says before numbers ∧ header.Refuses r fault ∧
        store.FailsAfter path .csv (numbers.filterMap NumberRow.tie?) fault) ∧
    (∀ content file before row after, store.Has path content → content.columnar = .ok file →
      Columnar.HasRows file.columns (before ++ row :: after) → (∀ b ∈ before, ¬b.IsBad) → row.IsBad →
      ∃ numbers fault, List.Forall₂ StoredRow.Says (before.take (1024 * (before.length / 1024))) numbers ∧
        Reports (((before ++ row :: after).drop (1024 * (before.length / 1024))).take 1024) fault ∧
        store.FailsAfter path .parquet (numbers.filterMap NumberRow.tie?) fault) ∧
    ∀ content file rows words, store.Has path content → content.columnar = .ok file → file.damage? = some words →
      Columnar.HasRows file.columns rows → (∀ row ∈ rows, ¬row.IsBad) →
      ∃ numbers, List.Forall₂ StoredRow.Says rows numbers ∧
        store.FailsAfter path .parquet (numbers.filterMap NumberRow.tie?) (.undecodable words) :=
  ⟨fun _ _ _ _ _ => exists_failsAfter_csv, fun _ _ _ _ _ => exists_failsAfter_parquet,
    fun _ _ _ _ => exists_failsAfter_damage⟩

/-- A row that is a tie. -/
def goodTexts : TextRow := ⟨some "1", some "10", some "301"⟩

/-- What the row says. -/
def goodNumbers : NumberRow := ⟨some (IntType.i64.wrap 1), some (IntType.i64.wrap 10), some (IntType.i64.wrap 301)⟩

/-- The tie. -/
def goodTie : Tie := ⟨IntType.i64.wrap 1, IntType.i64.wrap 10, 301⟩

/-- A row with a blank cell before a bad one. -/
def blankThenBad : TextRow := ⟨some " ", some "x", some "302"⟩

/-- A row with a bad code. -/
def badCode : TextRow := ⟨some "2", some "11", some "bad"⟩

/-- A row with a bad person. -/
def badPerson : TextRow := ⟨some "x", some "12", some "302"⟩

theorem isBad_of_readCell {text : String} (h : readCell "" text = .error (.invalidCell "" text)) :
    (StoredCell.text (some text)).IsBad text := by
  have hread : (StoredCell.text (some text)).read "" = .error (.invalidCell "" text) := h
  obtain ⟨written, hbad, -⟩ := StoredCell.read_eq_error_iff.1 hread
  cases hbad.1
  exact hbad

theorem says_of_readCell {text : String} {n : Option Long} (h : readCell "" text = .ok n) :
    (StoredCell.text (some text)).Says n := readCell_eq_ok_iff.1 h

theorem says_goodTexts : goodTexts.stored.Says goodNumbers :=
  ⟨says_of_readCell (by decide +kernel), says_of_readCell (by decide +kernel), says_of_readCell (by decide +kernel)⟩

theorem isBad_x : (StoredCell.text (some "x")).IsBad "x" := isBad_of_readCell (by decide +kernel)

/-- The blank cell is passed over, and the cell after it is reported. -/
theorem reports_blankThenBad : Reports [blankThenBad.stored] (.invalidCell ColumnName.relative "x") := by
  have hblank : blankThenBad.stored.person.Says none := says_of_readCell (by decide +kernel)
  rw [show "x" = Text.trim "x" by decide +kernel]
  exact .relative (List.forall_mem_singleton.2 ⟨none, hblank⟩) ⟨[], _, [], rfl, nofun, isBad_x⟩

/-- The bad person is reported, though the bad code stands before it. -/
theorem reports_badPerson :
    Reports [goodTexts.stored, badCode.stored, badPerson.stored] (.invalidCell ColumnName.person "x") := by
  have htwo : badCode.stored.person.Says (some (IntType.i64.wrap 2)) := says_of_readCell (by decide +kernel)
  rw [show "x" = Text.trim "x" by decide +kernel]
  refine .person ⟨[goodTexts.stored.person, badCode.stored.person], _, [], rfl, ?_, isBad_x⟩
  exact List.forall_mem_cons.2 ⟨⟨_, says_goodTexts.person⟩, List.forall_mem_singleton.2 ⟨_, htwo⟩⟩

/-- Good rows say good numbers, and nothing else. -/
theorem eq_of_forall₂_says_goodTexts {n : Nat} {numbers : List NumberRow}
    (h : List.Forall₂ StoredRow.Says (List.replicate n goodTexts.stored) numbers) :
    numbers = List.replicate n goodNumbers := by
  refine List.eq_replicate_iff.2 ⟨by simpa using h.length_eq.symm, fun m hm => ?_⟩
  obtain ⟨row, hrow, hsaid⟩ := exists_mem_left_of_forall₂ h m hm
  rw [List.eq_of_mem_replicate hrow] at hsaid
  exact hsaid.unique says_goodTexts

/-- A delimited file with a good record, one with a blank cell before a bad one, and another one. -/
def blankThenBadBytes : List UInt8 := "RELATIE;RINPERSOON;RINPERSOONRELATIE\n301;1;10\n302; ;x\n302;2;11".toUTF8.toList

/-- The header of the file. -/
def blankThenBadHeader : Delimited.Header := ⟨1, 2, 0, 3⟩

/-- A record with the texts. -/
def recordOf (place : RecordPlace) (texts : List String) : Delimited.Record := ⟨place, texts.map Text.encode⟩

/-- The good record. -/
def goodRecord : Delimited.Record := recordOf ⟨1, 2, 37⟩ ["301", "1", "10"]

/-- The bad record. -/
def badRecord : Delimited.Record := recordOf ⟨2, 3, 46⟩ ["302", " ", "x"]

/-- The records of the file: the second one is bad. -/
theorem hasRecords_blankThenBad : Delimited.HasRecords blankThenBadBytes blankThenBadHeader
    ([goodRecord] ++ badRecord :: [recordOf ⟨3, 4, 54⟩ ["302", "2", "11"]]) := by
  refine ⟨recordOf ⟨0, 1, 0⟩ ["RELATIE", "RINPERSOON", "RINPERSOONRELATIE"], _, by decide +kernel, rfl, rfl, ?_, ?_, ?_⟩
  all_goals
    refine Delimited.columnNumber_eq_ok_iff.1 ?_
    decide +kernel

theorem says_goodRecord : blankThenBadHeader.Says goodRecord goodNumbers := ⟨_, rfl, rfl, says_goodTexts⟩

/-- Of the bad record, the cell after the blank one is reported. -/
theorem refuses_badRecord : blankThenBadHeader.Refuses badRecord (.invalidCell ColumnName.relative "x") :=
  .cell rfl rfl reports_blankThenBad

theorem isBad_badRecord : blankThenBadHeader.IsBad badRecord := .inr (.inr ⟨_, rfl, .inr (.inl ⟨"x", isBad_x⟩)⟩)

/-- A columnar file with one group of good rows, one more good row, and two bad ones. -/
def lateFaultsFile : Batch :=
  let rows := List.replicate 1025 goodTexts ++ [badCode, badPerson]
  ⟨[⟨ColumnName.person, .text, rows.map TextRow.person⟩, ⟨ColumnName.relative, .largeText, rows.map TextRow.relative⟩,
    ⟨ColumnName.code, .text, rows.map TextRow.code⟩], by simp [Field.height, rowsOf]⟩

/-- The rows of the columns: the first bad one is in the second group. -/
theorem hasRows_lateFaults :
    Columnar.HasRows lateFaultsFile (List.replicate 1025 goodTexts.stored ++ badCode.stored :: [badPerson.stored]) := by
  have hstored : List.replicate 1025 goodTexts.stored ++ badCode.stored :: [badPerson.stored] =
      (List.replicate 1025 goodTexts ++ [badCode, badPerson]).map TextRow.stored := by
    rw [List.map_append, List.map_replicate]
    rfl
  rw [hstored]
  exact Columnar.hasRows_of_texts rfl (.text _ _) rfl (.largeText _ _) rfl (.text _ _)

/-- Columns with one good row. -/
def oneGoodColumns : Batch :=
  ⟨[⟨ColumnName.person, .text, [goodTexts.person]⟩, ⟨ColumnName.relative, .text, [goodTexts.relative]⟩,
    ⟨ColumnName.code, .text, [goodTexts.code]⟩], by decide⟩

/-- The row of the columns. -/
theorem hasRows_oneGood : Columnar.HasRows oneGoodColumns ([goodTexts].map TextRow.stored) :=
  Columnar.hasRows_of_texts rfl (.text _ _) rfl (.text _ _) rfl (.text _ _)

/-- A columnar file with the late faults. -/
def lateFaultsContent : Content := ⟨Columnar.magic, .ok ⟨lateFaultsFile, none⟩⟩

/-- A columnar file of which one good row is decoded. -/
def damagedContent : Content := ⟨Columnar.magic, .ok ⟨oneGoodColumns, some "snappy: corrupt input"⟩⟩

/-- A store with the faulty files. -/
def faultyStore : Store :=
  ((Store.empty.write "ties.csv" (.file (.ofBytes blankThenBadBytes))).write "ties.parquet"
    (.file lateFaultsContent)).write "damaged.parquet" (.file damagedContent)

/-- The delimited file has given the tie of its first record. The columnar one has given the ties of its first group; of
the second it reports the bad person, though the bad code stands before it. The damaged one has given the tie of its one
decoded row. -/
theorem faultyStore_delivers :
    (∃ header before r after, faultyStore.Has "ties.csv" (.ofBytes blankThenBadBytes) ∧
      Delimited.HasRecords blankThenBadBytes header (before ++ r :: after) ∧ (∀ b ∈ before, ¬header.IsBad b) ∧
      header.IsBad r ∧
      faultyStore.FailsAfter "ties.csv" .csv [goodTie] (.invalidCell ColumnName.relative "x")) ∧
    (∃ before row after, faultyStore.Has "ties.parquet" lateFaultsContent ∧
      Columnar.HasRows lateFaultsFile (before ++ row :: after) ∧ (∀ b ∈ before, ¬b.IsBad) ∧ row.IsBad ∧
      faultyStore.FailsAfter "ties.parquet" .parquet (List.replicate 1024 goodTie)
        (.invalidCell ColumnName.person "x")) ∧
    ∃ rows, faultyStore.Has "damaged.parquet" damagedContent ∧ Columnar.HasRows oneGoodColumns rows ∧
      (∀ row ∈ rows, ¬row.IsBad) ∧
      faultyStore.FailsAfter "damaged.parquet" .parquet [goodTie] (.undecodable "snappy: corrupt input") := by
  have hbytes : faultyStore.Has "ties.csv" (.ofBytes blankThenBadBytes) := ⟨["ties.csv"], rfl⟩
  have hfile : faultyStore.Has "ties.parquet" lateFaultsContent := ⟨["ties.parquet"], rfl⟩
  have hdamaged : faultyStore.Has "damaged.parquet" damagedContent := ⟨["damaged.parquet"], rfl⟩
  refine ⟨?_, ?_, ?_⟩
  · have hbefore : ∀ b ∈ [goodRecord], ¬blankThenBadHeader.IsBad b :=
      List.forall_mem_singleton.2 says_goodRecord.not_isBad
    obtain ⟨numbers, fault, hnumbers, hrefuses, hfails⟩ :=
      (failing_read_delivers faultyStore "ties.csv").1 _ _ _ _ _ hbytes hasRecords_blankThenBad hbefore isBad_badRecord
    cases hrefuses.unique refuses_badRecord
    cases hnumbers with
    | cons hn hrest =>
      cases hrest
      cases hn.unique says_goodRecord
      exact ⟨_, _, _, _, hbytes, hasRecords_blankThenBad, hbefore, isBad_badRecord, hfails⟩
  · have hbefore : ∀ b ∈ List.replicate 1025 goodTexts.stored, ¬b.IsBad := by
      intro b hb
      rw [List.eq_of_mem_replicate hb]
      exact says_goodTexts.not_isBad
    have hbad : badCode.stored.IsBad := .inr (.inr ⟨"bad", isBad_of_readCell (by decide +kernel)⟩)
    obtain ⟨numbers, fault, hnumbers, hreports, hfails⟩ :=
      (failing_read_delivers faultyStore "ties.parquet").2.1 _ _ _ _ _ hfile rfl hasRows_lateFaults hbefore hbad
    have hgroup : ((List.replicate 1025 goodTexts.stored ++ badCode.stored :: [badPerson.stored]).drop 1024).take 1024 =
        [goodTexts.stored, badCode.stored, badPerson.stored] := by
      rw [List.drop_append_of_le_length (by rw [List.length_replicate]; omega), List.drop_replicate]
      rfl
    rw [List.length_replicate] at hreports hnumbers
    rw [show 1024 * (1025 / 1024) = 1024 from rfl, hgroup] at hreports
    rw [show 1024 * (1025 / 1024) = 1024 from rfl, List.take_replicate] at hnumbers
    cases hreports.unique reports_badPerson
    rw [eq_of_forall₂_says_goodTexts hnumbers,
      List.filterMap_replicate_of_some (show goodNumbers.tie? = some _ from rfl)] at hfails
    exact ⟨_, _, _, hfile, hasRows_lateFaults, hbefore, hbad, hfails⟩
  · have hgood : ∀ row ∈ [goodTexts.stored], ¬row.IsBad := List.forall_mem_singleton.2 says_goodTexts.not_isBad
    obtain ⟨numbers, hnumbers, hfails⟩ :=
      (failing_read_delivers faultyStore "damaged.parquet").2.2 _ _ _ _ hdamaged rfl rfl hasRows_oneGood hgood
    rw [eq_of_forall₂_says_goodTexts (n := 1) hnumbers] at hfails
    exact ⟨_, hdamaged, hasRows_oneGood, hgood, hfails⟩

end Store

end TieWalk
