import TieWalk.Proofs.Table.Pairing

/-!
# What a join gives

However rows are found, a join gives the columns of the rows in order (`Frame.joinBy_eq_orderedJoin`): the numbers of
the left rows, by which it sorts, leave no trace but their name. It fails for a name, that of the numbers included, or
for keys that cannot be the same, never for what its cells hold. Where no right name but the key's is taken on the left,
nothing is renamed.
-/

namespace TieWalk

/-! ## The ordered join -/

/-- The columns of rows that stand side by side: those of the left frame, then those of the right one except its key,
renamed where they clash with one of the left names or with that of the row numbers. -/
def columnsOf (rows : List (Nat × Option Nat)) (left right : Frame) (rightKey : Column) : List Column :=
  (left.pick (rows.map fun r => some r.1)).columns ++ ((right.drop rightKey.name).pick (rows.map Prod.snd)).columns.map
    fun c => c.rename (joinedName (ColumnName.rowNumber :: left.names) c.name)

/-- The columns of a join, of the rows in order. -/
def joinedColumns (kind : JoinKind) (left right : Frame) (leftKey rightKey : Column) : List Column :=
  columnsOf (joinedRows kind leftKey.keys rightKey.keys) left right rightKey

/-- A join of frames whose rows are gone through in order, without row numbers but with their name taken. -/
def Frame.orderedJoin (left right : Frame) (leftOn rightOn : String) (kind : JoinKind) : Except Error Frame :=
  match left.columnOr leftOn, right.columnOr rightOn with
  | .error e, _ => .error e
  | _, .error e => .error e
  | .ok leftKey, .ok rightKey =>
    if leftOn = everyColumn || rightOn = everyColumn then .error (.operation .everyColumn)
    else if ColumnName.rowNumber ∈ left.names then .error (.operation (.repeatedName ColumnName.rowNumber))
    else if leftKey.type.joins rightKey.type then Frame.ofColumns? (joinedColumns kind left right leftKey rightKey)
    else .error (.operation (.keyTypes leftKey.type rightKey.type))

/-- The columns of other rows are picked from those of the rows that are found, where each is found. -/
theorem map_pick_columnsOf {rows rows' : List (Nat × Option Nat)} {order : List (Option Nat)} (left right : Frame)
    (rightKey : Column) (h : ∀ g : Nat × Option Nat → Option Nat,
      order.map (fun row => row.bind fun i => ((rows.map g)[i]?).join) = rows'.map g) :
    (columnsOf rows left right rightKey).map (fun c => c.pick order) = columnsOf rows' left right rightKey := by
  unfold columnsOf
  simp only [Frame.pick, List.map_append, List.map_map, Function.comp_def, Column.pick_pick, h, Column.name_pick]
  refine congrArg (_ ++ ·) (List.map_congr_left fun c _ => ?_)
  show ((c.pick (rows.map Prod.snd)).pick order).rename (joinedName _ c.name) = _
  rw [Column.pick_pick, h]

/-- Every column of rows side by side has a cell for each of them. -/
theorem height_of_mem_columnsOf {rows : List (Nat × Option Nat)} {left right : Frame} {rightKey c : Column}
    (h : c ∈ columnsOf rows left right rightKey) : c.height = rows.length := by
  unfold columnsOf at h
  rcases List.mem_append.1 h with h | h
  · obtain ⟨d, -, rfl⟩ := List.mem_map.1 h
    simp
  · obtain ⟨d, hd, rfl⟩ := List.mem_map.1 h
    obtain ⟨e, -, rfl⟩ := List.mem_map.1 hd
    simp

/-- Rows are picked from columns of one height before or after these are made a frame. -/
theorem Frame.ofColumns?_map_pick {columns : List Column} {n : Nat} (h : ∀ c ∈ columns, c.height = n)
    (order : List (Option Nat)) :
    ofColumns? (columns.map fun c => c.pick order) = (ofColumns? columns).map fun f => f.pick order := by
  have hnames : (columns.map fun c => c.pick order).map Column.name = columns.map Column.name := by
    rw [List.map_map]
    rfl
  by_cases hnodup : (columns.map Column.name).Nodup
  · obtain ⟨f, hf⟩ := exists_ofColumns? hnodup h
    rw [hf]
    refine ofColumns?_eq_ok_iff.2 ?_
    rw [← ofColumns?_eq_ok_iff.1 hf]
    rfl
  · unfold ofColumns?
    rw [dif_neg hnodup, dif_neg (hnames ▸ hnodup), hnames]
    rfl

/-- The rows that are found, brought into the order of their numbers, are those of the ordered join. -/
theorem Frame.map_inOrder_join {find : PairFinder} (h : find.IsExact) (kind : JoinKind) {left : Frame} (right : Frame)
    {leftKey : Column} (rightKey : Column) (hheight : leftKey.height = left.height) :
    ((NumberedFrame.mk (List.range left.height) left).join find kind right leftKey rightKey).map NumberedFrame.inOrder =
      ofColumns? (joinedColumns kind left right leftKey rightKey) := by
  have hnumbers : ((find kind leftKey.keys rightKey.keys).map fun r => (List.range left.height)[r.1]?.getD 0) =
      (find kind leftKey.keys rightKey.keys).map Prod.fst := by
    apply List.map_congr_left
    rintro ⟨i, row?⟩ hr
    have hlt : i < left.height := by
      rw [← hheight]
      have hbelongs := (h.mem_iff _ _ _ _ _).1 hr
      cases row? with
      | none => simpa [Column.keys, Column.height] using hbelongs.2.1
      | some j =>
        obtain ⟨key, hkey, -⟩ := hbelongs
        simpa [Column.keys, Column.height] using (List.getElem?_eq_some_iff.1 hkey).1
    simp [hlt]
  have horder : ∀ g : Nat × Option Nat → Option Nat,
      ((sortByNumber ((find kind leftKey.keys rightKey.keys).map Prod.fst).zipIdx).map fun r => some r.2).map
          (fun row => row.bind fun i => (((find kind leftKey.keys rightKey.keys).map g)[i]?).join) =
        (joinedRows kind leftKey.keys rightKey.keys).map g := by
    intro g
    rw [← sortByNumber_find h, List.map_map]
    exact map_sortByNumber_zipIdx _ g
  have hjoin : (NumberedFrame.mk (List.range left.height) left).join find kind right leftKey rightKey =
      (ofColumns? (columnsOf (find kind leftKey.keys rightKey.keys) left right rightKey)).map
        fun joined => ⟨(find kind leftKey.keys rightKey.keys).map Prod.fst, joined⟩ := by
    unfold NumberedFrame.join
    simp only [hnumbers]
    split
    · next e he =>
      have he : ofColumns? (columnsOf (find kind leftKey.keys rightKey.keys) left right rightKey) = .error e := he
      rw [he]
      rfl
    · next joined hjoined =>
      have hjoined : ofColumns? (columnsOf (find kind leftKey.keys rightKey.keys) left right rightKey) = .ok joined :=
        hjoined
      rw [hjoined]
      rfl
  rw [hjoin, joinedColumns, ← map_pick_columnsOf left right rightKey horder,
    ofColumns?_map_pick fun c => height_of_mem_columnsOf]
  cases ofColumns? (columnsOf (find kind leftKey.keys rightKey.keys) left right rightKey) <;> rfl

/-- Whatever exact way there is to find rows, and in whatever order it finds them, the join is the ordered one. -/
theorem Frame.joinBy_eq_orderedJoin {find : PairFinder} (h : find.IsExact) (left right : Frame)
    (leftOn rightOn : String) (kind : JoinKind) :
    left.joinBy find right leftOn rightOn kind = left.orderedJoin right leftOn rightOn kind := by
  unfold joinBy orderedJoin numbered
  cases hleft : left.columnOr leftOn with
  | error e => rfl
  | ok leftKey =>
    cases hright : right.columnOr rightOn with
    | error e => rfl
    | ok rightKey =>
      have hheight : leftKey.height = left.height := height_of_column? (columnOr_eq_ok_iff.1 hleft)
      have hjoin := map_inOrder_join h kind right rightKey hheight
      by_cases hrow : ColumnName.rowNumber ∈ left.names
      · simp only [hrow, if_true]
      · simp only [hrow, if_false]
        split
        · rfl
        · split
          · rw [← hjoin]
            cases (NumberedFrame.mk (List.range left.height) left).join find kind right leftKey rightKey <;> rfl
          · rfl

/-- A join is the ordered one. -/
theorem Frame.join_eq_orderedJoin (left right : Frame) (leftOn rightOn : String) (kind : JoinKind) :
    left.join right leftOn rightOn kind = left.orderedJoin right leftOn rightOn kind :=
  joinBy_eq_orderedJoin PairFinder.isExact_hashed left right leftOn rightOn kind

/-! ## Names -/

/-- No right column but the key bears a name of the left ones or of the row number. -/
def Apart (left right : Frame) (rightOn : String) : Prop :=
  ∀ name ∈ right.names, name ≠ rightOn → name ∉ left.names ∧ name ≠ ColumnName.rowNumber

namespace Frame

variable {left right j : Frame} {leftOn rightOn : String} {kind : JoinKind} {leftKey rightKey : Column}

/-- A join succeeds when its keys can be the same, the row number's name is free and the names of its columns differ. -/
theorem join_eq_ok_iff : left.join right leftOn rightOn kind = .ok j ↔
    ∃ leftKey rightKey, left.column? leftOn = some leftKey ∧ right.column? rightOn = some rightKey ∧
      leftOn ≠ everyColumn ∧ rightOn ≠ everyColumn ∧ ColumnName.rowNumber ∉ left.names ∧
      leftKey.type.joins rightKey.type = true ∧ j.columns = joinedColumns kind left right leftKey rightKey := by
  rw [join_eq_orderedJoin]
  unfold orderedJoin columnOr
  cases hl : left.column? leftOn with
  | none => simp
  | some leftKey =>
    cases hr : right.column? rightOn with
    | none => simp
    | some rightKey =>
      simp only [Option.some.injEq, exists_and_left, exists_eq_left']
      by_cases hevery : leftOn = everyColumn ∨ rightOn = everyColumn
      · rw [if_pos (by simpa using hevery)]
        constructor
        · intro h
          cases h
        · rintro ⟨hlo, hro, -⟩
          exact absurd hevery (not_or.2 ⟨hlo, hro⟩)
      · rw [if_neg (by simpa using hevery)]
        obtain ⟨hlo, hro⟩ := not_or.1 hevery
        by_cases hrow : ColumnName.rowNumber ∈ left.names
        · simp [hrow]
        · by_cases hjoins : leftKey.type.joins rightKey.type = true
          · simp [hrow, hjoins, hlo, hro, ofColumns?_eq_ok_iff]
          · simp [hrow, hjoins]

/-- The columns of a join where no right one but the key bears the name of the row number: the left ones, and the right
ones but the key, with a suffix to those whose names are taken. -/
theorem joinedColumns_eq (hrow : ∀ name ∈ right.names, name ≠ rightKey.name → name ≠ ColumnName.rowNumber) :
    joinedColumns kind left right leftKey rightKey =
      left.columns.map (fun c => c.pick ((joinedRows kind leftKey.keys rightKey.keys).map fun r => some r.1)) ++
        (right.columns.filter fun c => c.name != rightKey.name).map
          fun c => (c.pick ((joinedRows kind leftKey.keys rightKey.keys).map Prod.snd)).rename
            (if c.name ∈ left.names then c.name ++ "_right" else c.name) := by
  unfold joinedColumns columnsOf
  simp only [pick, drop, List.map_map, List.append_cancel_left_eq]
  apply List.map_congr_left
  intro c hc
  obtain ⟨hmem, hne⟩ := List.mem_filter.1 hc
  have hname : c.name ≠ ColumnName.rowNumber := hrow c.name (List.mem_map_of_mem hmem) (bne_iff_ne.1 hne)
  simp [joinedName, hname]

/-- Right columns apart from the left ones keep their names. -/
theorem joinedColumns_of_apart (hkey : rightKey.name = rightOn) (h : Apart left right rightOn) :
    joinedColumns kind left right leftKey rightKey =
      left.columns.map (fun c => c.pick ((joinedRows kind leftKey.keys rightKey.keys).map fun r => some r.1)) ++
        (right.columns.filter fun c => c.name != rightOn).map
          fun c => c.pick ((joinedRows kind leftKey.keys rightKey.keys).map Prod.snd) := by
  subst hkey
  rw [joinedColumns_eq fun name hname hne => (h name hname hne).2, List.append_cancel_left_eq]
  apply List.map_congr_left
  intro c hc
  obtain ⟨hmem, hne⟩ := List.mem_filter.1 hc
  rw [if_neg (h c.name (List.mem_map_of_mem hmem) (bne_iff_ne.1 hne)).1]
  rfl

/-- The names of a join of columns that are apart. -/
theorem names_of_join (h : left.join right leftOn rightOn kind = .ok j) (hapart : Apart left right rightOn) :
    j.names = left.names ++ right.names.filter fun name => name != rightOn := by
  obtain ⟨leftKey, rightKey, -, hright, -, -, -, -, hcolumns⟩ := join_eq_ok_iff.1 h
  rw [joinedColumns_of_apart (mem_columns_of_column? hright).2 hapart] at hcolumns
  rw [names, hcolumns]
  simp [names, List.filter_map, Function.comp_def]

/-- A join never gives a column with the row number's name: the name is taken while it runs. -/
theorem rowNumber_not_mem_names_of_join (h : left.join right leftOn rightOn kind = .ok j) :
    ColumnName.rowNumber ∉ j.names := by
  obtain ⟨leftKey, rightKey, -, -, -, -, hrow, -, hcolumns⟩ := join_eq_ok_iff.1 h
  intro hmem
  obtain ⟨c, hc, hname⟩ := List.mem_map.1 hmem
  rw [hcolumns, joinedColumns, columnsOf] at hc
  rcases List.mem_append.1 hc with hc | hc
  · obtain ⟨d, hd, rfl⟩ := List.mem_map.1 hc
    exact hrow (List.mem_map.2 ⟨d, hd, hname⟩)
  · obtain ⟨d, -, rfl⟩ := List.mem_map.1 hc
    rw [Column.name_rename, joinedName] at hname
    split at hname
    · have hlen := congrArg String.length hname
      have hright : ("_right".length, ColumnName.rowNumber.length) = (6, 5) := by decide
      rw [String.length_append, (Prod.mk.inj hright).1, (Prod.mk.inj hright).2] at hlen
      omega
    · next hfree =>
      refine hfree ?_
      rw [hname]
      exact List.mem_cons_self

/-- Columns that are apart are joined under different names. -/
theorem nodup_names_joinedColumns (hkey : rightKey.name = rightOn) (h : Apart left right rightOn) :
    ((joinedColumns kind left right leftKey rightKey).map Column.name).Nodup := by
  rw [joinedColumns_of_apart hkey h, List.map_append, List.map_map, List.map_map, List.nodup_append]
  refine ⟨left.distinct, right.distinct.sublist (List.filter_sublist.map _), ?_⟩
  intro name hleft name' hright heq
  subst heq
  obtain ⟨c, hc, rfl⟩ := List.mem_map.1 hright
  obtain ⟨hmem, hname⟩ := List.mem_filter.1 hc
  have hnot : c.name ∉ left.names := (h c.name (List.mem_map_of_mem hmem) (bne_iff_ne.1 hname)).1
  exact hnot hleft

/-- Frames whose columns are apart can be joined, the row number's name being free and the keys being of one type. -/
theorem exists_join (hleft : left.column? leftOn = some leftKey) (hright : right.column? rightOn = some rightKey)
    (hlo : leftOn ≠ everyColumn) (hro : rightOn ≠ everyColumn) (hrow : ColumnName.rowNumber ∉ left.names)
    (htype : leftKey.type = rightKey.type) (hapart : Apart left right rightOn) (kind : JoinKind) :
    ∃ j, left.join right leftOn rightOn kind = .ok j ∧ j.columns = joinedColumns kind left right leftKey rightKey := by
  have hnames : ((joinedColumns kind left right leftKey rightKey).map Column.name).Nodup :=
    nodup_names_joinedColumns (mem_columns_of_column? hright).2 hapart
  obtain ⟨j, hj⟩ := exists_ofColumns? hnames fun c hc => height_of_mem_columnsOf hc
  have hcolumns := ofColumns?_eq_ok_iff.1 hj
  have hjoins : leftKey.type.joins rightKey.type = true := by
    rw [htype]
    simp [ColumnType.joins]
  refine ⟨j, ?_, hcolumns⟩
  rw [join_eq_ok_iff]
  exact ⟨leftKey, rightKey, hleft, hright, hlo, hro, hrow, hjoins, hcolumns⟩

/-! ## Left joins -/

/-- Where each key has at most one partner, a left join leaves the left columns as they are. -/
theorem pick_joinedRows_left {leftKeys rightKeys : List (Option Key)} {c : Column}
    (hheight : c.height = leftKeys.length) (hunique : ∀ key ∈ leftKeys, (partners rightKeys key).length ≤ 1) :
    c.pick ((joinedRows .left leftKeys rightKeys).map fun r => some r.1) = c := by
  have hrows : (joinedRows .left leftKeys rightKeys).map (fun r => some r.1) = (List.range c.height).map some := by
    rw [joinedRows_left hunique, List.map_map, hheight, List.range_eq_range', ← List.zipIdx_map_snd 0 leftKeys,
      List.map_map]
    rfl
  rw [hrows, Column.pick_range]

/-- Where each key has at most one partner, that one stands beside the row. -/
theorem snd_joinedRows_left {leftKeys rightKeys : List (Option Key)}
    (hunique : ∀ key ∈ leftKeys, (partners rightKeys key).length ≤ 1) :
    (joinedRows .left leftKeys rightKeys).map Prod.snd = leftKeys.map fun key => (partners rightKeys key).head? := by
  rw [joinedRows_left hunique, List.map_map]
  conv_rhs => rw [← List.zipIdx_map_fst 0 leftKeys, List.map_map]
  rfl

end Frame

/-- Frames joined as tables are joined as frames, their keys being there. -/
theorem Table.join_frames {left right : Frame} {leftOn rightOn : String} (hl : leftOn ∈ left.names)
    (hr : rightOn ∈ right.names) (kind : JoinKind) :
    (Table.frame left).join (.frame right) leftOn rightOn kind = left.join right leftOn rightOn kind := by
  have hl : (Table.frame left).hasColumn leftOn = true := Table.hasColumn_iff.2 hl
  have hr : (Table.frame right).hasColumn rightOn = true := Table.hasColumn_iff.2 hr
  unfold Table.join Table.joinBy
  simp [hl, hr, Table.toFrame, Frame.join]

/-- Tables are joined as the frames that they turn into. -/
theorem Table.exists_frames_of_join {left right : Table} {j : Frame} {leftOn rightOn : String} {kind : JoinKind}
    (h : left.join right leftOn rightOn kind = .ok j) :
    ∃ l r, left.toFrame = .ok l ∧ right.toFrame = .ok r ∧ l.join r leftOn rightOn kind = .ok j := by
  unfold Table.join Table.joinBy at h
  split at h
  · cases h
  · split at h
    · cases h
    · split at h
      · cases h
      · next l hl =>
        split at h
        · cases h
        · next r hr => exact ⟨l, r, hl, hr, h⟩

end TieWalk
