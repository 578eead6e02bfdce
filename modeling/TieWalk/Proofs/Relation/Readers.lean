import Mathlib.Data.List.Basic
import TieWalk.Proofs.Relation.Cells
import TieWalk.Proofs.Relation.Encoding
import TieWalk.Proofs.Table.Frames
import TieWalk.Walk.Stages

/-!
# Two readers of one table

A relation table can lie in a delimited file, among other columns and with blanks around names and cells, or in a
columnar file, as texts or as whole numbers of any width. Either reader reads it through exactly when each of its cells
is blank or a number, and then gives the ties of the table in the order of its rows (`Store.reads_table`). The readers
differ in how they come to a fault: one ends at the row with the bad cell, the other before the group of that row.
-/

namespace TieWalk

/-! ## Cells as files hold them -/

/-- A file holds a cell as it is, or as any other blank if it is blank. -/
def HoldsCell (stored cell : Option String) : Prop := stored = cell ∨ (IsBlankCell stored ∧ IsBlankCell cell)

/-- A blank cell says nothing. -/
theorem IsBlankCell.says_iff {cell : Option String} (h : IsBlankCell cell) {n : Option Long} :
    CellSays cell n ↔ n = none := by
  constructor
  · intro hn
    exact hn.unique (m := none) h
  · rintro rfl
    exact h

/-- What is held says what it is held for. -/
theorem HoldsCell.says_iff {stored cell : Option String} (h : HoldsCell stored cell) {n : Option Long} :
    CellSays stored n ↔ CellSays cell n := by
  rcases h with rfl | ⟨hstored, hcell⟩
  · exact Iff.rfl
  · rw [hstored.says_iff, hcell.says_iff]

/-- A cell is read as what it says; a cell without a text is read like an empty one. -/
theorem readCell_getD_eq_ok_iff {column : String} {cell : Option String} {n : Option Long} :
    readCell column (cell.getD "") = .ok n ↔ CellSays cell n := by
  cases cell with
  | some text => exact readCell_eq_ok_iff
  | none =>
    have hempty : HoldsCell (some "") none := .inr ⟨fun text htext => Option.some.inj htext ▸ rfl, nofun⟩
    rw [Option.getD_none, readCell_eq_ok_iff, hempty.says_iff]

namespace TextRow

/-- The cells of a row as they are held. -/
structure Holds (stored row : TextRow) : Prop where
  person : HoldsCell stored.person row.person
  relative : HoldsCell stored.relative row.relative
  code : HoldsCell stored.code row.code

/-- What a row is held as says what the row says. -/
theorem Holds.says_iff {stored row : TextRow} (h : stored.Holds row) {numbers : NumberRow} :
    stored.Says numbers ↔ row.Says numbers := by
  constructor
  · intro hsaid
    exact ⟨h.person.says_iff.1 hsaid.person, h.relative.says_iff.1 hsaid.relative, h.code.says_iff.1 hsaid.code⟩
  · intro hsaid
    exact ⟨h.person.says_iff.2 hsaid.person, h.relative.says_iff.2 hsaid.relative, h.code.says_iff.2 hsaid.code⟩

/-- The cells of a row, read. -/
def cells (row : TextRow) : Columnar.Cells where
  person := readCell ColumnName.person (row.person.getD "")
  relative := readCell ColumnName.relative (row.relative.getD "")
  code := readCell ColumnName.code (row.code.getD "")

end TextRow

namespace Columnar

/-- Each cell of a row was read. -/
def Cells.IsOk (c : Cells) : Prop := (∃ n, c.person = .ok n) ∧ (∃ n, c.relative = .ok n) ∧ ∃ n, c.code = .ok n

/-- A row with a cell that was not read cannot be read. -/
theorem Cells.exists_row_eq_unreadable {c : Cells} (h : ¬c.IsOk) : ∃ fault, c.row = .unreadable fault := by
  obtain ⟨person, relative, code⟩ := c
  cases person with
  | error fault => exact ⟨fault, rfl⟩
  | ok person =>
    cases relative with
    | error fault => exact ⟨fault, rfl⟩
    | ok relative =>
      cases code with
      | error fault => exact ⟨fault, rfl⟩
      | ok code => exact absurd ⟨⟨_, rfl⟩, ⟨_, rfl⟩, ⟨_, rfl⟩⟩ h

/-- A row whose cells were read as numbers is the row that they make. -/
theorem Cells.isOk_and_row {c : Cells} {numbers : NumberRow} (hperson : c.person = .ok numbers.person)
    (hrelative : c.relative = .ok numbers.relative) (hcode : c.code = .ok numbers.code) :
    c.IsOk ∧ c.row = numbers.row := by
  refine ⟨⟨⟨_, hperson⟩, ⟨_, hrelative⟩, ⟨_, hcode⟩⟩, ?_⟩
  unfold row
  rw [hperson, hrelative, hcode]
  rfl

end Columnar

/-- Each cell of a row is read exactly when the row is readable. -/
theorem TextRow.isOk_cells_iff {row : TextRow} : row.cells.IsOk ↔ row.IsReadable := by
  unfold Columnar.Cells.IsOk cells
  simp only [readCell_getD_eq_ok_iff, exists_cellSays_iff]
  constructor
  · rintro ⟨hperson, hrelative, hcode⟩
    exact ⟨hperson, hrelative, hcode⟩
  · intro h
    exact ⟨h.person, h.relative, h.code⟩

/-- A row that says numbers is read as the row that they make. -/
theorem TextRow.Says.isOk_and_row {row : TextRow} {numbers : NumberRow} (h : row.Says numbers) :
    row.cells.IsOk ∧ row.cells.row = numbers.row := by
  unfold cells
  apply Columnar.Cells.isOk_and_row
  · simpa only [readCell_getD_eq_ok_iff] using h.person
  · simpa only [readCell_getD_eq_ok_iff] using h.relative
  · simpa only [readCell_getD_eq_ok_iff] using h.code

/-- Rows that hold rows that say numbers are read as the rows that the numbers make. -/
theorem rows_of_holds {stored rows : List TextRow} {numbers : List NumberRow}
    (hholds : List.Forall₂ TextRow.Holds stored rows) (hsaid : List.Forall₂ TextRow.Says rows numbers) :
    (∀ row ∈ stored, row.cells.IsOk) ∧ (stored.map fun row => row.cells.row) = numbers.map NumberRow.row := by
  induction hholds generalizing numbers with
  | nil =>
    cases hsaid
    exact ⟨nofun, rfl⟩
  | cons hrow _ ih =>
    obtain ⟨n, rest, hn, hrest, rfl⟩ := List.forall₂_cons_left_iff.1 hsaid
    obtain ⟨hok, hread⟩ := (hrow.says_iff.2 hn).isOk_and_row
    obtain ⟨hall, hrows⟩ := ih hrest
    refine ⟨List.forall_mem_cons.2 ⟨hok, hall⟩, ?_⟩
    rw [List.map_cons, List.map_cons, hread, hrows]

/-! ## Reading through -/

/-- A scan that handed on each tie that it read. -/
def Scan.ofTies (ties : List Tie) : Scan := ⟨ties, ties.length, ties.length⟩

/-- A decoder of columnar files makes the columns of the content, with nothing left that it could not decode. -/
def Content.DecodesTo (content : Content) (columns : Batch) : Prop := content.columnar = .ok ⟨columns, none⟩

namespace Store

/-- At a path of the store there is a file with the content. -/
def Has (store : Store) (path : String) (content : Content) : Prop :=
  ∃ here, store.find path = .ok (here, .file content)

/-- The file at a path is read through exactly when every cell of the table can be read, and then gives the ties of the
table. -/
def ReadsTable (store : Store) (path : String) (format : RelationFormat) (rows : List TextRow) : Prop :=
  ((∃ scan, store.scan path format none = .ok scan) ↔ ∀ row ∈ rows, row.IsReadable) ∧
    ∀ scan, store.scan path format none = .ok scan → AreTies rows scan.ties

variable {store : Store} {path : String} {format : RelationFormat}

/-- Rows of numbers are read through. -/
theorem scan_eq_ok {numbers : List NumberRow} (h : store.rows path format = numbers.map NumberRow.row) :
    store.scan path format none = .ok (.ofTies (numbers.filterMap NumberRow.tie?)) := by
  unfold scan read
  rw [h, Reading.ofRows_row]
  rfl

/-- Rows among which one cannot be read are not read through. -/
theorem not_scan_of_unreadable {fault : ReadFault} (h : .unreadable fault ∈ store.rows path format) {scan : Scan} :
    store.scan path format none ≠ .ok scan := by
  intro hscan
  unfold Store.scan at hscan
  simp only at hscan
  split at hscan
  · cases hscan
  · next hnone => exact Reading.fault?_ofRows_ne_none h hnone

/-- A file reads a table when it holds the table's cells, gives their rows where all of them can be read, and somewhere
a row that cannot be read where one of them cannot. -/
theorem readsTable_of_rows {stored rows : List TextRow} (hholds : List.Forall₂ TextRow.Holds stored rows)
    (hok : (∀ row ∈ stored, row.cells.IsOk) → store.rows path format = stored.map fun row => row.cells.row)
    (hfault : ∀ row ∈ stored, ¬row.cells.IsOk → ∃ fault, .unreadable fault ∈ store.rows path format) :
    store.ReadsTable path format rows := by
  -- A reading that ends well met no fault, wherever in the file it would have stood.
  have hreadable : (∃ scan, store.scan path format none = .ok scan) → ∀ row ∈ rows, row.IsReadable := by
    rintro ⟨scan, hscan⟩ row hrow
    obtain ⟨held, hheld, hcells⟩ := exists_mem_left_of_forall₂ hholds row hrow
    have hheldOk : held.cells.IsOk := by
      by_contra hnot
      obtain ⟨fault, hmem⟩ := hfault held hheld hnot
      exact not_scan_of_unreadable hmem hscan
    obtain ⟨numbers, hsaid⟩ := TextRow.exists_says_iff.2 (TextRow.isOk_cells_iff.1 hheldOk)
    exact TextRow.exists_says_iff.1 ⟨numbers, hcells.says_iff.1 hsaid⟩
  have hscan : (∀ row ∈ rows, row.IsReadable) → ∃ numbers, List.Forall₂ TextRow.Says rows numbers ∧
      store.scan path format none = .ok (.ofTies (numbers.filterMap NumberRow.tie?)) := by
    intro h
    obtain ⟨numbers, hsaid⟩ := exists_forall₂_iff.2 fun row hrow => TextRow.exists_says_iff.2 (h row hrow)
    have hstored := rows_of_holds hholds hsaid
    exact ⟨numbers, hsaid, scan_eq_ok ((hok hstored.1).trans hstored.2)⟩
  refine ⟨⟨hreadable, fun h => ?_⟩, fun scan hread => ?_⟩
  · obtain ⟨numbers, -, hread⟩ := hscan h
    exact ⟨_, hread⟩
  · obtain ⟨numbers, hsaid, hread'⟩ := hscan (hreadable ⟨scan, hread⟩)
    rw [hread] at hread'
    cases hread'
    exact ⟨numbers, hsaid, rfl⟩

end Store

/-! ## Delimited files -/

namespace Delimited

/-- The first of some names that is a name, blanks at its ends apart. -/
def IsColumn (names : List String) (name : String) (i : Nat) : Prop :=
  (∃ written, names[i]? = some written ∧ Text.trim written = name) ∧
    ∀ j written, j < i → names[j]? = some written → Text.trim written ≠ name

/-- The three cells of a record. -/
def Header.textRow (h : Header) (texts : List String) : TextRow :=
  ⟨texts[h.person]?, texts[h.relative]?, texts[h.code]?⟩

/-- The bytes are a delimited file with the columns of a table among others: a header with their names, and for each row
of the table a record as long as the header that holds its cells. -/
def Stores (bytes : List UInt8) (rows : List TextRow) : Prop :=
  ∃ (names : List String) (records : List (List String)) (header : Header),
    IsFile bytes ((names :: records).map (List.map Text.encode)) ∧ header.width = names.length ∧
      IsColumn names ColumnName.person header.person ∧ IsColumn names ColumnName.relative header.relative ∧
      IsColumn names ColumnName.code header.code ∧ (∀ texts ∈ records, texts.length = header.width) ∧
      List.Forall₂ TextRow.Holds (records.map header.textRow) rows

/-- The number of a column is the place of the first name that is its name, blanks apart. -/
theorem columnNumber_eq_ok_iff {names : List String} {name : String} {i : Nat} :
    columnNumber names name = .ok i ↔ IsColumn names name i := by
  have hfound : names.findIdx? (fun n => Text.trim n == name) = some i ↔ IsColumn names name i := by
    rw [List.findIdx?_eq_some_iff_getElem]
    constructor
    · rintro ⟨hi, hname, hfirst⟩
      refine ⟨⟨names[i], List.getElem?_eq_getElem hi, beq_iff_eq.1 hname⟩, fun j written hj hwritten => ?_⟩
      obtain ⟨-, rfl⟩ := List.getElem?_eq_some_iff.1 hwritten
      simpa using hfirst j hj
    · rintro ⟨⟨written, hwritten, hname⟩, hfirst⟩
      obtain ⟨hi, rfl⟩ := List.getElem?_eq_some_iff.1 hwritten
      refine ⟨hi, beq_iff_eq.2 hname, fun j hj => ?_⟩
      rw [beq_iff_eq]
      exact hfirst j _ hj (List.getElem?_eq_getElem _)
  rw [← hfound]
  unfold columnNumber
  split
  · next k hk => simp [hk]
  · next hk => simp [hk]

/-- A header is found in names where the columns of a table are in their places. -/
theorem Header.ofNames_eq_ok {header : Header} {names : List String} (hwidth : header.width = names.length)
    (hperson : IsColumn names ColumnName.person header.person)
    (hrelative : IsColumn names ColumnName.relative header.relative)
    (hcode : IsColumn names ColumnName.code header.code) : ofNames names = .ok header := by
  unfold ofNames
  rw [columnNumber_eq_ok_iff.2 hperson, columnNumber_eq_ok_iff.2 hrelative, columnNumber_eq_ok_iff.2 hcode, ← hwidth]
  rfl

/-- A record is the row that its three cells make, with the first bad one reported. -/
theorem rowOf_readCells (h : Header) (texts : List String) :
    rowOf (h.readCells texts) = (h.textRow texts).cells.row := by
  unfold Header.readCells Header.textRow TextRow.cells
  simp only
  generalize readCell ColumnName.person (texts[h.person]?.getD "") = person
  generalize readCell ColumnName.relative (texts[h.relative]?.getD "") = relative
  generalize readCell ColumnName.code (texts[h.code]?.getD "") = code
  cases person with
  | error fault => rfl
  | ok person =>
    cases relative with
    | error fault => rfl
    | ok relative => cases code <;> rfl

/-- Records of the header's length are rows. -/
theorem map_row_eq {header : Header} {records : List Record} {written : List (List String)}
    (hrecords : records.map Record.fields = written.map (List.map Text.encode))
    (hwidth : ∀ texts ∈ written, texts.length = header.width) :
    records.map header.row = (written.map header.textRow).map fun row => row.cells.row := by
  induction records generalizing written with
  | nil =>
    rw [List.map_nil, eq_comm, List.map_eq_nil_iff] at hrecords
    rw [hrecords]
    rfl
  | cons r rest ih =>
    obtain ⟨texts, more, rfl, hr, hrest⟩ := List.map_eq_cons_iff.1 hrecords.symm
    obtain ⟨htexts, hwidth⟩ := List.forall_mem_cons.1 hwidth
    have hlength : r.fields.length = header.width := by rw [← hr, List.length_map, htexts]
    rw [List.map_cons, List.map_cons, List.map_cons, ih hrest.symm hwidth, Header.row, if_neg (not_not.2 hlength),
      Record.texts_eq_ok hr.symm, ← rowOf_readCells header texts]

/-- The rows of a file as it was written are those of its records after the header. -/
theorem rows_of_isFile {bytes : List UInt8} {names : List String} {written : List (List String)} {header : Header}
    (hfile : IsFile bytes ((names :: written).map (List.map Text.encode))) (hheader : Header.ofNames names = .ok header)
    (hwidth : ∀ texts ∈ written, texts.length = header.width) :
    rows bytes = (written.map header.textRow).map fun row => row.cells.row := by
  obtain ⟨first, rest, hrecords, hfirst, hrest⟩ := List.map_eq_cons_iff.1 (records_of_isFile hfile)
  have hnames : headerOf (first :: rest) = .ok header := by
    rw [headerOf, Record.texts_eq_ok hfirst]
    exact hheader
  unfold rows
  simp only [hrecords, hnames, List.tail_cons]
  exact map_row_eq hrest hwidth

end Delimited

/-- The rows of a delimited file are those of its bytes. -/
theorem Store.rows_csv {store : Store} {path : String} {content : Content} (hfile : store.Has path content) :
    store.rows path .csv = Delimited.rows content.bytes := by
  obtain ⟨here, hfind⟩ := hfile
  unfold rows
  rw [hfind]

/-- A delimited file reads the table that it stores. -/
theorem Store.readsTable_csv {store : Store} {path : String} {content : Content} {rows : List TextRow}
    (hfile : store.Has path content) (h : Delimited.Stores content.bytes rows) : store.ReadsTable path .csv rows := by
  obtain ⟨names, records, header, hbytes, hlength, hperson, hrelative, hcode, hwidth, hholds⟩ := h
  have hheader := Delimited.Header.ofNames_eq_ok hlength hperson hrelative hcode
  have hrows : store.rows path .csv = (records.map header.textRow).map fun row => row.cells.row :=
    (Store.rows_csv hfile).trans (Delimited.rows_of_isFile hbytes hheader hwidth)
  refine Store.readsTable_of_rows hholds (fun _ => hrows) fun row hrow hnot => ?_
  obtain ⟨fault, hfault⟩ := Columnar.Cells.exists_row_eq_unreadable hnot
  rw [hrows]
  exact ⟨fault, List.mem_map.2 ⟨row, hrow, hfault⟩⟩

/-! ## Columnar files -/

namespace Columnar

/-- The cells of a field of texts, of either kind. -/
inductive HasTexts : Field → List (Option String) → Prop where
  | text (name : String) (cells : List (Option String)) : HasTexts ⟨name, .text, cells⟩ cells
  | largeText (name : String) (cells : List (Option String)) : HasTexts ⟨name, .largeText, cells⟩ cells

/-- The cells of a field of whole numbers of any width, each of them a long word. -/
inductive HasNumbers : Field → List (Option Long) → Prop where
  | int (name : String) {t : IntType} {cells : List (Option t.Value)} {numbers : List (Option Long)} :
      cells.map (Option.map IntType.Value.toInt) = numbers.map (Option.map IntType.Value.toInt) →
        HasNumbers ⟨name, .int t, cells⟩ numbers

/-- Among some columns are those of a table, as texts, and they hold its cells. -/
def StoresTexts (columns : Batch) (rows : List TextRow) : Prop :=
  ∃ (person relative code : Field) (stored : List TextRow), columns.field? ColumnName.person = some person ∧
    columns.field? ColumnName.relative = some relative ∧ columns.field? ColumnName.code = some code ∧
    HasTexts person (stored.map TextRow.person) ∧ HasTexts relative (stored.map TextRow.relative) ∧
    HasTexts code (stored.map TextRow.code) ∧ List.Forall₂ TextRow.Holds stored rows

/-- Among some columns are those of a table, as whole numbers. -/
def StoresNumbers (columns : Batch) (numbers : List NumberRow) : Prop :=
  ∃ person relative code : Field, columns.field? ColumnName.person = some person ∧
    columns.field? ColumnName.relative = some relative ∧ columns.field? ColumnName.code = some code ∧
    HasNumbers person (numbers.map NumberRow.person) ∧ HasNumbers relative (numbers.map NumberRow.relative) ∧
    HasNumbers code (numbers.map NumberRow.code)

/-! ### Groups -/

/-- Pieces put together again. -/
theorem flatten_pieces {α : Type} {length : Nat} (h : 0 < length) (l : List α) : (pieces length h l).flatten = l := by
  fun_induction pieces length h l with
  | case1 => rfl
  | case2 a rest ih => rw [List.flatten_cons, ih, List.take_append_drop]

theorem faultOf?_eq_none_iff {outcome : Except ReadFault (Option Long)} :
    faultOf? outcome = none ↔ ∃ n, outcome = .ok n := by
  cases outcome <;> simp [faultOf?]

/-- A group has no fault when each of its cells was read. -/
theorem groupFault?_eq_none_iff {group : List Cells} : groupFault? group = none ↔ ∀ c ∈ group, c.IsOk := by
  unfold groupFault? Cells.IsOk
  simp only [Option.or_eq_none_iff, List.findSome?_eq_none_iff, faultOf?_eq_none_iff]
  constructor
  · rintro ⟨hperson, hrelative, hcode⟩ c hc
    exact ⟨hperson c hc, hrelative c hc, hcode c hc⟩
  · intro h
    exact ⟨fun c hc => (h c hc).1, fun c hc => (h c hc).2.1, fun c hc => (h c hc).2.2⟩

/-- Where every cell was read, the groups give the rows one after another. -/
theorem flatMap_groupRows {cells : List Cells} (h : ∀ c ∈ cells, c.IsOk) :
    (pieces groupSize (by decide) cells).flatMap groupRows = cells.map Cells.row := by
  have hflatten := flatten_pieces (by decide : 0 < groupSize) cells
  have hgroup : ∀ group ∈ pieces groupSize (by decide) cells, groupRows group = group.map Cells.row := by
    intro group hgroup
    have hok : ∀ c ∈ group, c.IsOk := by
      intro c hc
      refine h c ?_
      rw [← hflatten]
      exact List.mem_flatten.2 ⟨group, hgroup, hc⟩
    rw [groupRows, groupFault?_eq_none_iff.2 hok]
  rw [List.flatMap_congr hgroup, List.flatMap_def, ← List.map_flatten, hflatten]

/-- Where a cell was not read, its group gives a row that cannot be read. -/
theorem exists_unreadable {cells : List Cells} {c : Cells} (hc : c ∈ cells) (h : ¬c.IsOk) :
    ∃ fault, .unreadable fault ∈ (pieces groupSize (by decide) cells).flatMap groupRows := by
  rw [← flatten_pieces (by decide : 0 < groupSize) cells] at hc
  obtain ⟨group, hgroup, hmem⟩ := List.mem_flatten.1 hc
  cases hfault : groupFault? group with
  | none => exact absurd (groupFault?_eq_none_iff.1 hfault c hmem) h
  | some fault =>
    refine ⟨fault, List.mem_flatMap.2 ⟨group, hgroup, ?_⟩⟩
    rw [groupRows, hfault]
    exact List.mem_singleton_self _

/-! ### Columns -/

/-- Columns read from the rows of one list stand row by row. -/
theorem cellsOf_eq_map {α : Type} {person relative code : Field} {l : List α}
    {p r c : α → Except ReadFault (Option Long)} (hperson : readCells person = l.map p)
    (hrelative : readCells relative = l.map r) (hcode : readCells code = l.map c) :
    cellsOf person relative code = l.map fun a => ⟨p a, r a, c a⟩ := by
  rw [cellsOf, hperson, hrelative, hcode, List.zip_map', List.zipWith_map, List.zipWith_self]

/-- The cells of the three columns, where they are there. -/
theorem fileCells_eq_ok {columns : Batch} {person relative code : Field}
    (hperson : columns.field? ColumnName.person = some person)
    (hrelative : columns.field? ColumnName.relative = some relative)
    (hcode : columns.field? ColumnName.code = some code) :
    fileCells columns = .ok (cellsOf person relative code) := by
  unfold fileCells fieldOf
  rw [hperson, hrelative, hcode]
  rfl

/-- The rows of columns that are decoded to their end. -/
theorem rows_of_fileCells {columns : Batch} {cells : List Cells} (h : fileCells columns = .ok cells) :
    rows ⟨columns, none⟩ = (pieces groupSize (by decide) cells).flatMap groupRows := by
  unfold rows
  simp only [h]
  exact List.append_nil _

/-- Texts are read one by one; one that is absent is read like a blank. -/
theorem HasTexts.readCells_eq {f : Field} {cells : List (Option String)} (h : HasTexts f cells) :
    readCells f = cells.map fun cell => readCell f.name (cell.getD "") := by
  have hblank : ∀ column, readCell column (none.getD "") = .ok none := fun _ => readCell_getD_eq_ok_iff.2 nofun
  cases h with
  | text name =>
    refine List.map_congr_left fun cell _ => ?_
    cases cell with
    | none => exact (hblank name).symm
    | some text => rfl
  | largeText name =>
    refine List.map_congr_left fun cell _ => ?_
    cases cell with
    | none => exact (hblank name).symm
    | some text => rfl

/-- Whole numbers within the long words are read as they are. -/
theorem HasNumbers.readCells_eq {f : Field} {numbers : List (Option Long)} (h : HasNumbers f numbers) :
    readCells f = numbers.map .ok := by
  cases h with
  | @int name t cells _ hcells =>
    have hread : ∀ {t : IntType} (cells : List (Option t.Value)),
      (cells.map fun cell => cell.bind fun v => Long.ofInt? v.toInt) =
        (cells.map (Option.map IntType.Value.toInt)).map fun n => n.bind Long.ofInt? := by
      intro t cells
      rw [List.map_map]
      refine List.map_congr_left fun cell _ => ?_
      cases cell <;> rfl
    have hlong : ∀ n : Option Long, (n.bind fun v => Long.ofInt? v.toInt) = n := by
      intro n
      cases n with
      | none => rfl
      | some v => exact IntType.ofInt?_toInt v
    have hnumbers : (cells.map fun cell => cell.bind fun v => Long.ofInt? v.toInt) = numbers := by
      rw [hread, hcells, ← hread]
      exact (List.map_congr_left fun n _ => hlong n).trans (List.map_id _)
    rw [← hnumbers, List.map_map]
    rfl

end Columnar

namespace Store

variable {store : Store} {path : String} {content : Content} {columns : Batch}

/-- The rows of a columnar file, if it is one, are those that its decoder makes. -/
theorem rows_parquet {file : Columnar.File} (hfile : store.Has path content) (hdecoded : content.columnar = .ok file) :
    store.rows path .parquet = Columnar.rows file := by
  obtain ⟨here, hfind⟩ := hfile
  unfold rows
  rw [hfind]
  simp only [hdecoded]

/-- A columnar file of texts reads the table that it stores. -/
theorem readsTable_texts {rows : List TextRow} (hfile : store.Has path content) (hdecodes : content.DecodesTo columns)
    (h : Columnar.StoresTexts columns rows) : store.ReadsTable path .parquet rows := by
  obtain ⟨person, relative, code, stored, hperson, hrelative, hcode, hpersons, hrelatives, hcodes, hholds⟩ := h
  have hcells : Columnar.cellsOf person relative code = stored.map TextRow.cells := by
    refine Columnar.cellsOf_eq_map ?_ ?_ ?_
    · rw [hpersons.readCells_eq, List.map_map, Function.comp_def, (Table.of_field? hperson).2]
    · rw [hrelatives.readCells_eq, List.map_map, Function.comp_def, (Table.of_field? hrelative).2]
    · rw [hcodes.readCells_eq, List.map_map, Function.comp_def, (Table.of_field? hcode).2]
  have hrows : store.rows path .parquet =
      (Columnar.pieces Columnar.groupSize (by decide) (stored.map TextRow.cells)).flatMap Columnar.groupRows := by
    rw [rows_parquet hfile hdecodes, Columnar.rows_of_fileCells (Columnar.fileCells_eq_ok hperson hrelative hcode),
      hcells]
  refine readsTable_of_rows hholds (fun hok => ?_) fun row hrow hnot => ?_
  · rw [hrows, Columnar.flatMap_groupRows (List.forall_mem_map.2 hok), List.map_map, Function.comp_def]
  · rw [hrows]
    exact Columnar.exists_unreadable (List.mem_map_of_mem hrow) hnot

/-- A columnar file of whole numbers is read through, and gives the ties that they make. -/
theorem scan_numbers {numbers : List NumberRow} (hfile : store.Has path content) (hdecodes : content.DecodesTo columns)
    (h : Columnar.StoresNumbers columns numbers) :
    store.scan path .parquet none = .ok (.ofTies (numbers.filterMap NumberRow.tie?)) := by
  obtain ⟨person, relative, code, hperson, hrelative, hcode, hpersons, hrelatives, hcodes⟩ := h
  have hcells : Columnar.cellsOf person relative code =
      numbers.map fun n => ⟨.ok n.person, .ok n.relative, .ok n.code⟩ := by
    refine Columnar.cellsOf_eq_map ?_ ?_ ?_
    · rw [hpersons.readCells_eq, List.map_map, Function.comp_def]
    · rw [hrelatives.readCells_eq, List.map_map, Function.comp_def]
    · rw [hcodes.readCells_eq, List.map_map, Function.comp_def]
  refine scan_eq_ok ?_
  rw [rows_parquet hfile hdecodes, Columnar.rows_of_fileCells (Columnar.fileCells_eq_ok hperson hrelative hcode),
    hcells, Columnar.flatMap_groupRows, List.map_map, Function.comp_def]
  · rfl
  · exact List.forall_mem_map.2 fun n _ => ⟨⟨_, rfl⟩, ⟨_, rfl⟩, ⟨_, rfl⟩⟩

/-- A columnar file of the whole numbers that a table says reads the table. -/
theorem readsTable_numbers {rows : List TextRow} {numbers : List NumberRow} (hfile : store.Has path content)
    (hdecodes : content.DecodesTo columns) (h : Columnar.StoresNumbers columns numbers)
    (hsaid : List.Forall₂ TextRow.Says rows numbers) :
    store.ReadsTable path .parquet rows := by
  have hscan := scan_numbers hfile hdecodes h
  have hreadable : ∀ row ∈ rows, row.IsReadable := by
    intro row hrow
    obtain ⟨n, -, hn⟩ := exists_mem_right_of_forall₂ hsaid row hrow
    exact TextRow.exists_says_iff.1 ⟨n, hn⟩
  refine ⟨⟨fun _ => hreadable, fun _ => ⟨_, hscan⟩⟩, fun scan hread => ?_⟩
  rw [hscan] at hread
  cases hread
  exact ⟨numbers, hsaid, rfl⟩

/-- Files that read one table are read through alike, and give the same ties. -/
theorem ReadsTable.agree {path' : String} {format format' : RelationFormat} {rows : List TextRow}
    (h : store.ReadsTable path format rows) (h' : store.ReadsTable path' format' rows) :
    ((∃ scan, store.scan path format none = .ok scan) ↔ ∃ scan, store.scan path' format' none = .ok scan) ∧
      ∀ scan scan', store.scan path format none = .ok scan → store.scan path' format' none = .ok scan' →
        scan.ties = scan'.ties :=
  ⟨h.1.trans h'.1.symm, fun scan scan' hscan hscan' => (h.2 scan hscan).unique (h'.2 scan' hscan')⟩

/-- A table in a delimited file, or as texts in a columnar one, is read through exactly when each of its cells is blank
or a long word, and then gives its ties; whole numbers in a columnar file are always read through. Copies of one table
give the same ties. -/
theorem reads_table (store : Store) :
    (∀ path content rows, store.Has path content → Delimited.Stores content.bytes rows →
      store.ReadsTable path .csv rows) ∧
    (∀ path content columns rows, store.Has path content → content.DecodesTo columns →
      Columnar.StoresTexts columns rows → store.ReadsTable path .parquet rows) ∧
    (∀ path content columns numbers, store.Has path content → content.DecodesTo columns →
      Columnar.StoresNumbers columns numbers →
        store.scan path .parquet none = .ok (.ofTies (numbers.filterMap NumberRow.tie?))) ∧
    ∀ path content path' content' columns rows, store.Has path content → Delimited.Stores content.bytes rows →
      store.Has path' content' → content'.DecodesTo columns →
      (Columnar.StoresTexts columns rows ∨
        ∃ numbers, List.Forall₂ TextRow.Says rows numbers ∧ Columnar.StoresNumbers columns numbers) →
        ((∃ scan, store.scan path .csv none = .ok scan) ↔ ∃ scan, store.scan path' .parquet none = .ok scan) ∧
          ∀ scan scan', store.scan path .csv none = .ok scan → store.scan path' .parquet none = .ok scan' →
            scan.ties = scan'.ties := by
  refine ⟨fun _ _ _ => readsTable_csv, fun _ _ _ _ => readsTable_texts, fun _ _ _ _ => scan_numbers, ?_⟩
  intro path content path' content' columns rows hbytes hstores hfile hdecodes hcolumns
  have hcsv := readsTable_csv hbytes hstores
  rcases hcolumns with htexts | ⟨numbers, hsaid, hnumbers⟩
  · exact hcsv.agree (readsTable_texts hfile hdecodes htexts)
  · exact hcsv.agree (readsTable_numbers hfile hdecodes hnumbers hsaid)

/-- A table of which one row is a tie: in the others, the code is none or is missing. -/
def oneTie : List TextRow :=
  [⟨some "1", some "10", some "301"⟩, ⟨some "+02", some "11", some " -5"⟩, ⟨some "3", some "12", none⟩]

/-- What the cells of the table say. -/
def oneTieNumbers : List NumberRow :=
  [⟨some (IntType.i64.wrap 1), some (IntType.i64.wrap 10), some (IntType.i64.wrap 301)⟩,
    ⟨some (IntType.i64.wrap 2), some (IntType.i64.wrap 11), some (IntType.i64.wrap (-5))⟩,
    ⟨some (IntType.i64.wrap 3), some (IntType.i64.wrap 12), none⟩]

/-- The table as bytes, with a quoted cell, a padded name and an empty line. -/
def oneTieBytes : List UInt8 :=
  "RELATIE; RINPERSOON ;RINPERSOONRELATIE\r\n301;1;\"10\"\n\n -5;+02;11\n;3;12".toUTF8.toList

/-- The table as texts in columns. -/
def oneTieTexts : Batch :=
  ⟨[⟨ColumnName.code, .largeText, [some "301", some " -5", none]⟩,
    ⟨ColumnName.person, .text, [some "1", some "+02", some "3"]⟩,
    ⟨ColumnName.relative, .text, [some "10", some "11", some "12"]⟩], by decide⟩

/-- The table as numbers in columns. -/
def oneTieColumns : Batch :=
  ⟨[⟨ColumnName.person, .int .u8, [1, 2, 3].map (some <| IntType.u8.wrap ·)⟩,
    ⟨ColumnName.relative, .int .i32, [10, 11, 12].map (some <| IntType.i32.wrap ·)⟩,
    ⟨ColumnName.code, .int .i16, [some (IntType.i16.wrap 301), some (IntType.i16.wrap (-5)), none]⟩], by decide⟩

/-- A store with the table in each form; the paths from the root lead to the same files as those from the working
directory. -/
def oneTieStore : Store :=
  (((Store.emptyAt ["work"]).write "ties.csv" (.file (.ofBytes oneTieBytes))).write "/work/texts.parquet"
    (.file ⟨Columnar.magic, .ok ⟨oneTieTexts, none⟩⟩)).write "numbers.parquet"
      (.file ⟨Columnar.magic, .ok ⟨oneTieColumns, none⟩⟩)

/-- The bytes are the table: an empty line is no row, and quotes are no part of a cell. -/
theorem oneTieBytes_stores : Delimited.Stores oneTieBytes oneTie := by
  open Delimited in
  have hbytes : oneTieBytes =
      (Text.encode "RELATIE" ++ delimiter ::
        (Text.encode " RINPERSOON " ++ delimiter :: Text.encode "RINPERSOONRELATIE")) ++
        0x0D :: 0x0A ::
      ((Text.encode "301" ++ delimiter ::
        (Text.encode "1" ++ delimiter :: (quote :: (doubled (Text.encode "10") ++ [quote])))) ++
        0x0A :: 0x0A ::
      ((Text.encode " -5" ++ delimiter :: (Text.encode "+02" ++ delimiter :: Text.encode "11")) ++ 0x0A ::
      (Text.encode "" ++ delimiter :: (Text.encode "3" ++ delimiter :: Text.encode "12")))) := by
    decide +kernel
  have hplain : ∀ s ∈ ["RELATIE", " RINPERSOON ", "RINPERSOONRELATIE", "301", "1", " -5", "+02", "11", "", "3", "12"],
      (Text.encode s).head? ≠ some Delimited.quote ∧
        ∀ b ∈ Text.encode s, b ≠ Delimited.delimiter ∧ Delimited.isLineEnd b = false := by
    decide +kernel
  have hbare := fun s hs => Delimited.IsField.bare (hplain s hs).1 (hplain s hs).2
  have hnumber : ∀ {names name i}, Delimited.columnNumber names name = .ok i → Delimited.IsColumn names name i :=
    Delimited.columnNumber_eq_ok_iff.1
  refine ⟨["RELATIE", " RINPERSOON ", "RINPERSOONRELATIE"], [["301", "1", "10"], [" -5", "+02", "11"], ["", "3", "12"]],
    ⟨1, 2, 0, 3⟩, .unmarked (by decide +kernel) ?_, rfl, hnumber (by decide +kernel), hnumber (by decide +kernel),
    hnumber (by decide +kernel), by decide, ?_⟩
  · rw [hbytes]
    refine .more (.more (hbare _ (by simp)) (.more (hbare _ (by simp)) (.last (hbare _ (by simp))))) (by decide +kernel)
      rfl ?_
    refine .emptyLine rfl ?_
    refine .more (.more (hbare _ (by simp)) (.more (hbare _ (by simp)) (.last (.quoted _)))) (by decide +kernel) rfl ?_
    refine .emptyLine rfl ?_
    refine .more (.more (hbare _ (by simp)) (.more (hbare _ (by simp)) (.last (hbare _ (by simp))))) (by decide +kernel)
      rfl ?_
    exact .last (.more (hbare _ (by simp)) (.more (hbare _ (by simp)) (.last (hbare _ (by simp))))) (by decide +kernel)
  · refine .cons ⟨.inl rfl, .inl rfl, .inl rfl⟩
      (.cons ⟨.inl rfl, .inl rfl, .inl rfl⟩ (.cons ⟨.inl rfl, .inl rfl, .inr ?_⟩ .nil))
    refine ⟨?_, nofun⟩
    intro text htext
    cases htext
    rfl

/-- The columns of texts are the table. -/
theorem oneTieTexts_stores : Columnar.StoresTexts oneTieTexts oneTie :=
  ⟨_, _, _, oneTie, rfl, rfl, rfl, .text .., .text .., .largeText ..,
    List.forall₂_same.2 fun _ _ => ⟨.inl rfl, .inl rfl, .inl rfl⟩⟩

/-- The columns of numbers hold the numbers. -/
theorem oneTieColumns_stores : Columnar.StoresNumbers oneTieColumns oneTieNumbers :=
  ⟨_, _, _, rfl, rfl, rfl, .int _ (by decide), .int _ (by decide), .int _ (by decide)⟩

/-- The table says the numbers. -/
theorem forall₂_says_oneTie : List.Forall₂ TextRow.Says oneTie oneTieNumbers := by
  have hcell : ∀ {text n}, readCell "" text = .ok (some n) → CellSays (some text) (some n) := readCell_eq_ok_iff.1
  refine .cons ⟨hcell ?_, hcell ?_, hcell ?_⟩
    (.cons ⟨hcell ?_, hcell ?_, hcell ?_⟩ (.cons ⟨hcell ?_, hcell ?_, nofun⟩ .nil))
  all_goals decide +kernel

/-- All three files of the store give the one tie. -/
theorem oneTie_reads_table :
    oneTieStore.ReadsTable "ties.csv" .csv oneTie ∧ oneTieStore.ReadsTable "texts.parquet" .parquet oneTie ∧
      oneTieStore.scan "/work/numbers.parquet" .parquet none =
        .ok ⟨[⟨IntType.i64.wrap 1, IntType.i64.wrap 10, 301⟩], 1, 1⟩ ∧
      ∃ scan, oneTieStore.scan "ties.csv" .csv none = .ok scan ∧
        scan.ties = [⟨IntType.i64.wrap 1, IntType.i64.wrap 10, 301⟩] := by
  have hbytes : oneTieStore.Has "ties.csv" (.ofBytes oneTieBytes) := ⟨["work", "ties.csv"], rfl⟩
  have htexts : oneTieStore.Has "texts.parquet" ⟨Columnar.magic, .ok ⟨oneTieTexts, none⟩⟩ :=
    ⟨["work", "texts.parquet"], rfl⟩
  have hcolumns : oneTieStore.Has "/work/numbers.parquet" ⟨Columnar.magic, .ok ⟨oneTieColumns, none⟩⟩ :=
    ⟨["work", "numbers.parquet"], rfl⟩
  obtain ⟨hcsv, hparquet, hnumbers, hagree⟩ := reads_table oneTieStore
  have hscan := hnumbers _ _ _ _ hcolumns rfl oneTieColumns_stores
  obtain ⟨hread, hties⟩ :=
    hagree _ _ _ _ _ _ hbytes oneTieBytes_stores hcolumns rfl (.inr ⟨_, forall₂_says_oneTie, oneTieColumns_stores⟩)
  obtain ⟨scan, hok⟩ := hread.2 ⟨_, hscan⟩
  exact ⟨hcsv _ _ _ hbytes oneTieBytes_stores, hparquet _ _ _ _ htexts rfl oneTieTexts_stores, hscan, scan, hok,
    hties _ _ hok hscan⟩

end Store

end TieWalk
