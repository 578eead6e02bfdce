import TieWalk.Proofs.Table.Crossing
import TieWalk.Proofs.Table.Joining

/-!
# Joining as a relation

What a join is, said without a word about how rows are found: for each left row in order, the right rows with the same
key in order, and for a left join the row alone where there are none. The columns are those of the left table, then
those of the right one without its key, and each cell is the one that stands in its table. Two tables of which neither
has a column of the row number's name are joined so whenever their keys are texts, or whole numbers of types that can be
compared, and the names of the columns differ (`Table.join_is_relational`).
-/

namespace TieWalk

/-! ## Keys -/

/-- Two types of keys that are joined: texts, or whole numbers, of which not one type is the widest unsigned one and the
other a signed one. -/
def ColumnType.MatchesKey (left right : ColumnType) : Prop :=
  (left = .text ∧ right = .text) ∨
    ∃ t u, left = .int t ∧ right = .int u ∧ (t = .u64 → u.isSigned = false) ∧ (u = .u64 → t.isSigned = false)

/-- Two types of whole numbers that are not joined. -/
def ColumnType.MixesSigns (left right : ColumnType) : Prop :=
  ∃ t u, left = .int t ∧ right = .int u ∧ ((t = .u64 ∧ u.isSigned = true) ∨ (u = .u64 ∧ t.isSigned = true))

/-- What a key says. -/
def Key.scalar : Key → Scalar
  | .number n => .number n
  | .text s => .text s

namespace ColumnType

variable {left right : ColumnType}

/-- Whole numbers and texts. -/
def IsKeyed (t : ColumnType) : Prop := t = .text ∨ ∃ i, t = .int i

theorem MatchesKey.isKeyed (h : left.MatchesKey right) : left.IsKeyed ∧ right.IsKeyed := by
  rcases h with ⟨hl, hr⟩ | ⟨t, u, hl, hr, -⟩
  · exact ⟨.inl hl, .inl hr⟩
  · exact ⟨.inr ⟨t, hl⟩, .inr ⟨u, hr⟩⟩

/-- Whole numbers and texts are keys, which say what they say. -/
theorem IsKeyed.exists_key {t : ColumnType} (h : t.IsKeyed) (v : t.Carrier) :
    ∃ key, t.key? v = some key ∧ t.scalar v = key.scalar := by
  rcases h with rfl | ⟨i, rfl⟩ <;> exact ⟨_, rfl, rfl⟩

/-- Types that match can be joined. -/
theorem MatchesKey.joins (h : left.MatchesKey right) : left.joins right = true := by
  rcases h with ⟨rfl, rfl⟩ | ⟨t, u, rfl, rfl, ht, hu⟩
  · rfl
  · cases t <;> cases u <;> simp_all [joins, widens, IntType.isSigned]

/-- Types that mix signs cannot be joined. -/
theorem MixesSigns.not_joins (h : left.MixesSigns right) : left.joins right = false := by
  obtain ⟨t, u, rfl, rfl, ⟨rfl, hu⟩ | ⟨rfl, ht⟩⟩ := h
  · cases u <;> first | rfl | cases hu
  · cases t <;> first | rfl | cases ht

end ColumnType

/-- The keys of two rows are there and say the same. -/
def SameKey (leftKey rightKey : Column) (i j : Nat) : Prop :=
  ∃ s, leftKey.scalars[i]? = some (some s) ∧ rightKey.scalars[j]? = some (some s)

/-- Different keys are different values. -/
theorem Key.scalar_injective {key key' : Key} (h : key.scalar = key'.scalar) : key = key' := by
  cases key <;> cases key' <;> cases h <;> rfl

/-- The rows of a keyed column that say something are those that have a key. -/
theorem Column.getElem?_scalars_eq_some_iff {c : Column} (h : c.type.IsKeyed) {i : Nat} {s : Scalar} :
    c.scalars[i]? = some (some s) ↔ ∃ key, c.keys[i]? = some (some key) ∧ s = key.scalar := by
  unfold scalars keys
  rw [List.getElem?_map, List.getElem?_map]
  rcases c.cells[i]? with _ | _ | v
  · simp
  · simp
  · obtain ⟨key, hkey, hscalar⟩ := h.exists_key v
    simp [hkey, hscalar, eq_comm]

/-- Rows have the same key exactly when what they are joined by is there and equal. -/
theorem sameKey_iff {leftKey rightKey : Column} (hl : leftKey.type.IsKeyed) (hr : rightKey.type.IsKeyed) {i j : Nat} :
    SameKey leftKey rightKey i j ↔
      ∃ key, leftKey.keys[i]? = some (some key) ∧ rightKey.keys[j]? = some (some key) := by
  unfold SameKey
  simp only [Column.getElem?_scalars_eq_some_iff hl, Column.getElem?_scalars_eq_some_iff hr]
  constructor
  · rintro ⟨_, ⟨key, hleft, rfl⟩, key', hright, hsame⟩
    rw [← Key.scalar_injective hsame] at hright
    exact ⟨key, hleft, hright⟩
  · rintro ⟨key, hleft, hright⟩
    exact ⟨key.scalar, ⟨key, hleft, rfl⟩, key, hright, rfl⟩

/-! ## Rows -/

/-- The rows that a left row becomes: found for it are the right rows with its key, in order. -/
def IsRowsOf (kind : JoinKind) (leftKey rightKey : Column) (i : Nat) (rows : List (Nat × Option Nat)) : Prop :=
  ∃ found : List Nat, found.Pairwise (· < ·) ∧ (∀ j, j ∈ found ↔ SameKey leftKey rightKey i j) ∧
    rows = sideBySide kind found i

/-- The rows of a join: what each left row becomes, in order. -/
def AreJoined (kind : JoinKind) (leftKey rightKey : Column) (rows : List (Nat × Option Nat)) : Prop :=
  ∃ parts, List.Forall₂ (IsRowsOf kind leftKey rightKey) (List.range leftKey.height) parts ∧ rows = parts.flatten

theorem zipIdx_eq_map_range {α : Type} (l : List (Option α)) :
    l.zipIdx = (List.range l.length).map fun i => ((l[i]?).join, i) := by
  apply List.ext_getElem
  · simp
  · intro i h h'
    have hi : i < l.length := by simpa using h
    simp [hi]

/-- What a join puts side by side, left row by left row. -/
theorem joinedRows_eq (kind : JoinKind) (left right : List (Option Key)) :
    joinedRows kind left right =
    ((List.range left.length).map fun i => sideBySide kind (partners right (left[i]?).join) i).flatten := by
  unfold joinedRows
  rw [zipIdx_eq_map_range, List.flatMap_map, List.flatMap_def]

/-- The partners of a left row are the right rows with its key. -/
theorem mem_partners_iff_sameKey {leftKey rightKey : Column} (hl : leftKey.type.IsKeyed) (hr : rightKey.type.IsKeyed)
    {i j : Nat} : j ∈ partners rightKey.keys (leftKey.keys[i]?).join ↔ SameKey leftKey rightKey i j := by
  rw [sameKey_iff hl hr, mem_partners]

/-- The rows of a join are those that are joined. -/
theorem areJoined_joinedRows {kind : JoinKind} {leftKey rightKey : Column} (hl : leftKey.type.IsKeyed)
    (hr : rightKey.type.IsKeyed) : AreJoined kind leftKey rightKey (joinedRows kind leftKey.keys rightKey.keys) := by
  refine ⟨_, ?_, joinedRows_eq kind _ _⟩
  rw [show leftKey.keys.length = leftKey.height from List.length_map _, List.forall₂_map_right_iff, List.forall₂_same]
  intro i _
  exact ⟨_, pairwise_partners _ _, fun j => mem_partners_iff_sameKey hl hr, rfl⟩

/-- Every row that a join puts on either side is there. -/
theorem AreJoined.lt_height {kind : JoinKind} {leftKey rightKey : Column} {rows : List (Nat × Option Nat)}
    (h : AreJoined kind leftKey rightKey rows) : ∀ r ∈ rows, r.1 < leftKey.height ∧ ∀ j ∈ r.2, j < rightKey.height := by
  obtain ⟨parts, hparts, rfl⟩ := h
  intro r hr
  obtain ⟨part, hpart, hmem⟩ := List.mem_flatten.1 hr
  obtain ⟨i, hi, found, -, hfound, rfl⟩ := exists_mem_left_of_forall₂ hparts part hpart
  have hsome : ∀ j ∈ found, j < rightKey.height := by
    intro j hj
    obtain ⟨s, -, hright⟩ := (hfound j).1 hj
    obtain ⟨hlt, -⟩ := List.getElem?_eq_some_iff.1 hright
    simpa [Column.scalars, Column.height] using hlt
  unfold sideBySide at hmem
  split at hmem
  · cases List.mem_singleton.1 hmem
    exact ⟨List.mem_range.1 hi, nofun⟩
  · obtain ⟨j, hj, rfl⟩ := List.mem_map.1 hmem
    refine ⟨List.mem_range.1 hi, fun j' hj' => ?_⟩
    cases hj'
    exact hsome j hj

/-! ## Columns -/

/-- A column under a name, with the cells of another one at row numbers, and absent ones where there is no row number.
-/
def Column.IsTakenFrom (d c : Column) (name : String) (rows : List (Option Nat)) : Prop :=
  ∃ cells, d = ⟨name, c.type, cells⟩ ∧ List.Forall₂ (fun row cell =>
    match row with
    | some i => c.cells[i]? = some cell
    | none => cell = none) rows cells

/-- Rows that are picked are taken from the column. -/
theorem Column.isTakenFrom_pick {c : Column} {rows : List (Option Nat)} (h : ∀ row ∈ rows, ∀ i ∈ row, i < c.height)
    (name : String) : ((c.pick rows).rename name).IsTakenFrom c name rows := by
  refine ⟨rows.map fun row => row.bind fun i => (c.cells[i]?).join, rfl, ?_⟩
  rw [List.forall₂_map_right_iff, List.forall₂_same]
  intro row hrow
  cases row with
  | none => rfl
  | some i =>
    have hi : i < c.cells.length := h _ hrow i rfl
    simp [hi]

/-- The names of the columns of a join: the left ones, then the right ones but the key's, each with a suffix if it is a
left one. -/
def joinNames (left right : List String) (rightOn : String) : List String :=
  left ++ (right.filter fun name => name != rightOn).map fun name => if name ∈ left then name ++ "_right" else name

/-- A frame is the join of two: each row is a left row beside a right one with the same key or beside absent cells. -/
def Frame.IsJoin (output : Frame) (kind : JoinKind) (left right : Frame) (leftKey rightKey : Column) : Prop :=
  ∃ rows leftColumns rightColumns, AreJoined kind leftKey rightKey rows ∧ output.columns = leftColumns ++ rightColumns ∧
    List.Forall₂ (fun c d => d.IsTakenFrom c c.name (rows.map fun r => some r.1)) left.columns leftColumns ∧
    List.Forall₂ (fun c d => d.IsTakenFrom c (if c.name ∈ left.names then c.name ++ "_right" else c.name)
      (rows.map Prod.snd))
      (right.columns.filter fun c => c.name != rightKey.name) rightColumns

namespace Frame

variable {left right output : Frame} {leftKey rightKey : Column} {kind : JoinKind} {leftOn rightOn : String}

/-- The names of a join's columns. -/
theorem map_name_joinedColumns (hrow : ColumnName.rowNumber ∉ right.names) :
    (joinedColumns kind left right leftKey rightKey).map Column.name =
    joinNames left.names right.names rightKey.name := by
  rw [joinedColumns_eq fun name hname _ heq => hrow (heq ▸ hname), joinNames, List.map_append, List.map_map,
    List.map_map, names, names, List.filter_map, List.map_map]
  rfl

/-- The columns of a join are taken from the two frames, row by row as it puts them side by side. -/
theorem isJoin_of_columns (hleft : leftKey ∈ left.columns) (hright : rightKey ∈ right.columns)
    (hl : leftKey.type.IsKeyed) (hr : rightKey.type.IsKeyed) (hrow : ColumnName.rowNumber ∉ right.names)
    (h : output.columns = joinedColumns kind left right leftKey rightKey) :
    output.IsJoin kind left right leftKey rightKey := by
  have hjoined : AreJoined kind leftKey rightKey (joinedRows kind leftKey.keys rightKey.keys) :=
    areJoined_joinedRows hl hr
  have hbounds := hjoined.lt_height
  rw [joinedColumns_eq fun name hname _ heq => hrow (heq ▸ hname)] at h
  refine ⟨_, _, _, hjoined, h, ?_, ?_⟩
  · rw [List.forall₂_map_right_iff, List.forall₂_same]
    intro c hc
    refine Column.isTakenFrom_pick (fun row hmem i hi => ?_) c.name
    obtain ⟨r, hr, rfl⟩ := List.mem_map.1 hmem
    cases hi
    rw [← left.height_eq_of_mem hc, left.height_eq_of_mem hleft]
    exact (hbounds r hr).1
  · rw [List.forall₂_map_right_iff, List.forall₂_same]
    intro c hc
    refine Column.isTakenFrom_pick (fun row hmem i hi => ?_) _
    obtain ⟨r, hr, rfl⟩ := List.mem_map.1 hmem
    rw [← right.height_eq_of_mem (List.mem_filter.1 hc).1, right.height_eq_of_mem hright]
    exact (hbounds r hr).2 i hi

/-- Frames with keys that can be compared are joined, if the names of the columns differ. -/
theorem exists_isJoin (hleft : left.column? leftOn = some leftKey) (hright : right.column? rightOn = some rightKey)
    (hlo : leftOn ≠ everyColumn) (hro : rightOn ≠ everyColumn) (hrowLeft : ColumnName.rowNumber ∉ left.names)
    (hrowRight : ColumnName.rowNumber ∉ right.names) (htypes : leftKey.type.MatchesKey rightKey.type)
    (hnames : (joinNames left.names right.names rightOn).Nodup) (kind : JoinKind) :
    ∃ output, left.join right leftOn rightOn kind = .ok output ∧ output.IsJoin kind left right leftKey rightKey := by
  obtain ⟨hleftMem, -⟩ := mem_columns_of_column? hleft
  obtain ⟨hrightMem, hname⟩ := mem_columns_of_column? hright
  have hdistinct : ((joinedColumns kind left right leftKey rightKey).map Column.name).Nodup := by
    rw [map_name_joinedColumns hrowRight, hname]
    exact hnames
  obtain ⟨output, houtput⟩ := exists_ofColumns? hdistinct fun c hc => height_of_mem_columnsOf hc
  have hcolumns := ofColumns?_eq_ok_iff.1 houtput
  obtain ⟨hl, hr⟩ := htypes.isKeyed
  refine ⟨output, ?_, isJoin_of_columns hleftMem hrightMem hl hr hrowRight hcolumns⟩
  exact join_eq_ok_iff.2 ⟨leftKey, rightKey, hleft, hright, hlo, hro, hrowLeft, htypes.joins, hcolumns⟩

/-- Frames whose keys are whole numbers that cannot be compared are not joined, and the two types are reported. -/
theorem join_eq_error_of_mixesSigns (hleft : left.column? leftOn = some leftKey)
    (hright : right.column? rightOn = some rightKey)
    (hlo : leftOn ≠ everyColumn) (hro : rightOn ≠ everyColumn) (hrow : ColumnName.rowNumber ∉ left.names)
    (htypes : leftKey.type.MixesSigns rightKey.type) (kind : JoinKind) :
    left.join right leftOn rightOn kind = .error (.operation (.keyTypes leftKey.type rightKey.type)) := by
  rw [join_eq_orderedJoin]
  unfold orderedJoin
  rw [columnOr_eq_ok_iff.2 hleft, columnOr_eq_ok_iff.2 hright]
  simp [hlo, hro, hrow, htypes.not_joins]

end Frame

/-! ## Tables -/

namespace Table

/-- Tables whose keys are there are joined as frames that say what they say. -/
theorem exists_join_eq {left right : Table} {leftOn rightOn : String} {leftKey rightKey : Column} (hl : left.IsFramable)
    (hr : right.IsFramable) (hleft : left.column? leftOn = .ok (some leftKey))
    (hright : right.column? rightOn = .ok (some rightKey)) :
    ∃ l r : Frame, l.IsOf left ∧ r.IsOf right ∧ l.names = left.names ∧ r.names = right.names ∧
      l.column? leftOn = some leftKey ∧
      r.column? rightOn = some rightKey ∧
      ∀ kind, left.join right leftOn rightOn kind = l.join r leftOn rightOn kind := by
  obtain ⟨l, hlf, hlof⟩ := exists_isOf hl
  obtain ⟨r, hrf, hrof⟩ := exists_isOf hr
  have hlcol := (of_toFrame hlf).2 leftOn
  have hrcol := (of_toFrame hrf).2 rightOn
  rw [hleft] at hlcol
  rw [hright] at hrcol
  refine ⟨l, r, hlof, hrof, (of_toFrame hlf).1, (of_toFrame hrf).1, (Except.ok.inj hlcol).symm,
    (Except.ok.inj hrcol).symm, ?_⟩
  intro kind
  unfold join joinBy
  rw [hasColumn_iff.2 (of_column? hleft).2.2, hasColumn_iff.2 (of_column? hright).2.2, hlf, hrf]
  rfl

/-- In whatever exact way rows are found, tables are joined alike. -/
theorem joinBy_eq_join {find : PairFinder} (h : find.IsExact) (left right : Table) (leftOn rightOn : String)
    (kind : JoinKind) : left.joinBy find right leftOn rightOn kind = left.join right leftOn rightOn kind := by
  unfold join joinBy
  simp only [Frame.joinBy_eq_orderedJoin h, Frame.joinBy_eq_orderedJoin PairFinder.isExact_hashed]

/-- A join of tables is the ordered relational join, in whatever order rows are found beforehand. A missing left key is
reported before a missing right one. Tables of which neither has a column of the row number's name, and whose keys are
not under the name of every column, are joined when their keys are texts, or whole numbers that can be compared, and the
names of the columns differ: each left row in order stands beside each right row with its key in order, an absent key is
no key, a left row without partner is kept in a left join alone, and every cell is that of its table. Whole numbers that
cannot be compared are reported by their types. -/
theorem join_is_relational (left right : Table) (leftOn rightOn : String) (kind : JoinKind) :
    (∀ find : PairFinder, find.IsExact →
      left.joinBy find right leftOn rightOn kind = left.join right leftOn rightOn kind) ∧
    (leftOn ∉ left.names →
      left.join right leftOn rightOn kind = .error (.column .intermediate leftOn .joinKeyMissing)) ∧
    (leftOn ∈ left.names → rightOn ∉ right.names →
      left.join right leftOn rightOn kind = .error (.column .intermediate rightOn .joinKeyMissing)) ∧
    ∀ leftKey rightKey, left.IsFramable → right.IsFramable → left.column? leftOn = .ok (some leftKey) →
      right.column? rightOn = .ok (some rightKey) → leftOn ≠ Frame.everyColumn → rightOn ≠ Frame.everyColumn →
      ColumnName.rowNumber ∉ left.names → ColumnName.rowNumber ∉ right.names →
        (leftKey.type.MatchesKey rightKey.type → (joinNames left.names right.names rightOn).Nodup →
          ∃ l r output : Frame, l.IsOf left ∧ r.IsOf right ∧ left.join right leftOn rightOn kind = .ok output ∧
            output.IsJoin kind l r leftKey rightKey) ∧
        (leftKey.type.MixesSigns rightKey.type →
          left.join right leftOn rightOn kind = .error (.operation (.keyTypes leftKey.type rightKey.type))) := by
  refine ⟨fun find h => joinBy_eq_join h left right leftOn rightOn kind, fun hmissing => ?_, fun hleft hmissing => ?_,
    ?_⟩
  · simp [join, joinBy, hasColumn_eq_false_iff.2 hmissing]
  · simp [join, joinBy, hasColumn_iff.2 hleft, hasColumn_eq_false_iff.2 hmissing]
  · intro leftKey rightKey hl hr hleft hright hlo hro hrowLeft hrowRight
    obtain ⟨l, r, hlof, hrof, hlnames, hrnames, hlcol, hrcol, hjoin⟩ := exists_join_eq hl hr hleft hright
    rw [← hlnames] at hrowLeft
    rw [← hrnames] at hrowRight
    rw [← hlnames, ← hrnames, hjoin]
    constructor
    · intro htypes hnames
      obtain ⟨output, houtput, hisJoin⟩ := Frame.exists_isJoin hlcol hrcol hlo hro hrowLeft hrowRight htypes hnames kind
      exact ⟨l, r, output, hlof, hrof, houtput, hisJoin⟩
    · exact fun htypes => Frame.join_eq_error_of_mixesSigns hlcol hrcol hlo hro hrowLeft htypes kind

/-- A frame of long words as keys, one of them twice and one absent. -/
def longKeys : Frame where
  columns := [⟨"k", .long, [some (IntType.i64.wrap 1), none, some (IntType.i64.wrap 2), some (IntType.i64.wrap 1)]⟩,
    ⟨"v", .text, [some "a", some "b", none, some "d"]⟩]
  distinct := by decide
  even := by decide

/-- A record batch of narrow keys under another name, beside a column that clashes. -/
def narrowKeys : Batch where
  fields := [⟨"v", .bool, [some true, some false, none]⟩,
    ⟨"id", .int .u8, [some (IntType.u8.wrap 1), none, some (IntType.u8.wrap 1)]⟩]
  even := by decide

/-- The record batch's keys as a frame column. -/
def narrowKeyColumn : Column := ⟨"id", .long, [some (IntType.i64.wrap 1), none, some (IntType.i64.wrap 1)]⟩

/-- The two are joined, as an inner join and as a left one, and with the rows found in order to begin with. The rows of
the key that stands on both sides twice come in the order of the left ones. -/
theorem long_narrow_joined : ∃ leftKey rightKey, PairFinder.IsExact joinedRows ∧
    (Table.frame longKeys).column? "k" = .ok (some leftKey) ∧
    (Table.batch narrowKeys).column? "id" = .ok (some rightKey) ∧
    leftKey.type.MatchesKey rightKey.type ∧ (joinNames longKeys.names narrowKeys.names "id").Nodup ∧
      ∀ kind, ∃ l r output : Frame, l.IsOf (.frame longKeys) ∧ r.IsOf (.batch narrowKeys) ∧
      (Table.frame longKeys).join (.batch narrowKeys) "k" "id" kind = .ok output ∧
      output.IsJoin kind l r leftKey rightKey ∧
      (Table.frame longKeys).joinBy joinedRows (.batch narrowKeys) "k" "id" kind = .ok output ∧
      (kind = .inner → output.column? "v" = some ⟨"v", .text, [some "a", some "a", some "d", some "d"]⟩ ∧
        output.column? "v_right" = some ⟨"v_right", .bool, [some true, none, some true, none]⟩) ∧
      (kind = .left → output.column? "v" = some ⟨"v", .text, [some "a", some "a", some "b", none, some "d", some "d"]⟩ ∧
        output.column? "v_right" = some ⟨"v_right", .bool, [some true, none, none, none, some true, none]⟩) := by
  have hleft : (Table.frame longKeys).column? "k" = .ok (some ⟨"k", .long, _⟩) := rfl
  have hright : (Table.batch narrowKeys).column? "id" = .ok (some narrowKeyColumn) := rfl
  have htypes : ColumnType.MatchesKey .long .long := .inr ⟨_, _, rfl, rfl, nofun, nofun⟩
  have hnames : (joinNames longKeys.names narrowKeys.names "id").Nodup := by decide
  refine ⟨_, _, PairFinder.isExact_joinedRows, hleft, hright, htypes, hnames, fun kind => ?_⟩
  obtain ⟨hfind, -, -, hjoin⟩ := join_is_relational (.frame longKeys) (.batch narrowKeys) "k" "id" kind
  obtain ⟨l, r, output, hl, hr, houtput, hisJoin⟩ :=
    (hjoin _ _ trivial ⟨by decide, by decide⟩ hleft hright (by decide) (by decide) (by decide) (by decide)).1 htypes
    hnames
  refine ⟨l, r, output, hl, hr, houtput, hisJoin, ?_, ?_, ?_⟩
  · rw [hfind joinedRows PairFinder.isExact_joinedRows]
    exact houtput
  · rintro rfl
    cases houtput
    exact ⟨rfl, rfl⟩
  · rintro rfl
    cases houtput
    exact ⟨rfl, rfl⟩

/-- A frame of one widest unsigned key. -/
def unsignedKeys : Frame where
  columns := [⟨"k", .int .u64, [some (IntType.u64.wrap 1)]⟩, ⟨"w", .long, [some (IntType.i64.wrap 2)]⟩]
  distinct := by decide
  even := by decide

/-- A record batch with a column of dates. -/
def datedKeys : Batch where
  fields := [⟨"k", .int .i64, [some (IntType.i64.wrap 1)]⟩, ⟨"w", .date, [some (IntType.i32.wrap 0)]⟩]
  even := by decide

/-- A frame whose key bears the name of every column. -/
def starKeys : Frame where
  columns := [⟨Frame.everyColumn, .long, [some (IntType.i64.wrap 1)]⟩]
  distinct := by decide
  even := by decide

/-- Not every two tables with keys of whole numbers are joined, though none of the names is taken: not long words with
the widest unsigned ones, not a record batch of dates, and not by the name of every column. -/
theorem not_all_joined :
    (longKeys.columns.map Column.type ++ unsignedKeys.columns.map Column.type).all
    (fun t => t.isInteger || t == .text) = true ∧
    ColumnName.rowNumber ∉ longKeys.names ++ unsignedKeys.names ++ datedKeys.names ++ starKeys.names ∧
    (joinNames longKeys.names unsignedKeys.names "k").Nodup ∧ (joinNames longKeys.names datedKeys.names "k").Nodup ∧
    (joinNames longKeys.names starKeys.names Frame.everyColumn).Nodup ∧
    (Table.frame longKeys).join (.frame unsignedKeys) "k" "k" .inner =
      .error (.operation (.keyTypes .long (.int .u64))) ∧
    (Table.frame longKeys).join (.batch datedKeys) "k" "k" .inner = .error (.frame (.unsupportedField "w" .date)) ∧
    (Table.frame longKeys).join (.frame starKeys) "k" Frame.everyColumn .inner = .error (.operation .everyColumn) := by
  refine ⟨by decide, by decide, by decide, by decide, by decide, rfl, rfl, rfl⟩

end Table

end TieWalk
