import Mathlib.Data.Finset.Card
import TieWalk.Proofs.Table.Attaching

/-!
# What stands beside each sample row

Whatever is keyed by person can be put beside a sample, in any order of its rows, with absent keys and with keys that
come again, so long as no person of the sample has two rows in it: that is the one cause of refusal, and the row count
tells it, since a left join drops no row. Beside each sample row stand the cells of the row that has the person's key.
Rows that no sample person has a key of might as well not be there.
-/

namespace TieWalk

/-! ## What has to be so -/

/-- No identifier has the key of two rows. -/
def OneRowEach (ids key : Column) : Prop :=
  ∀ e, some e ∈ ids.longs → ∀ i j : Nat, key.longs[i]? = some (some e) → key.longs[j]? = some (some e) → i = j

/-- The cell of a column for the person of a sample row: that of the one row with the person's key. It is absent where
no row has the key, and where the sample's identifier is no long word. -/
def Column.IsCellFor (c key : Column) : Option Person → Option c.type.Carrier → Prop
  | none, cell => cell = none
  | some e, cell =>
    (∃ i : Nat, key.longs[i]? = some (some e) ∧ (∀ j : Nat, key.longs[j]? = some (some e) → j = i) ∧
      c.cells[i]? = some cell) ∨ ((∀ i : Nat, key.longs[i]? ≠ some (some e)) ∧ cell = none)

/-- A frame is the sample's, row by row and as it was, with each column but the key beside it. -/
def IsBeside (f aggregated : Frame) (ids key : Column) (output : Frame) : Prop :=
  ∃ columns, output.columns = f.columns ++ columns ∧
    List.Forall₂ (fun c d => ∃ cells : List (Option c.type.Carrier), d = ⟨c.name, c.type, cells⟩ ∧
      List.Forall₂ (c.IsCellFor key) ids.longs cells)
      (aggregated.columns.filter fun c => c.name != ColumnName.samplePerson) columns

/-! ## Keys and rows -/

/-- Long words are long words as they are. -/
theorem Column.toLongs_of_long {c : Column} (h : c.type = .long) : c.toLongs = c := by
  obtain ⟨name, type, cells⟩ := c
  cases h
  have hcells : (Column.mk name .long cells).longs = cells := by
    conv_rhs => rw [← List.map_id cells]
    apply List.map_congr_left
    intro cell _
    cases cell with
    | none => rfl
    | some v => exact IntType.ofInt?_toInt v
  exact congrArg (Column.mk name .long) hcells

/-- The keys of a column of long words are those of persons. -/
theorem Column.keys_of_long {c : Column} (h : c.type = .long) : c.keys = c.longs.map (Option.map Key.ofPerson) := by
  rw [← c.keys_toLongs, toLongs_of_long h]

/-- A row has a person's key where its long word is the person. -/
theorem mem_partners_iff {key : Column} (htype : key.type = .long) {e : Person} {i : Nat} :
    i ∈ partners key.keys (some (Key.ofPerson e)) ↔ key.longs[i]? = some (some e) := by
  rw [Column.keys_of_long htype]
  show i ∈ rowsWith _ _ ↔ _
  rw [mem_rowsWith, List.getElem?_map]
  constructor
  · intro h
    obtain ⟨id, hid, h⟩ := Option.map_eq_some_iff.1 h
    obtain ⟨e', rfl, he⟩ := Option.map_eq_some_iff.1 h
    rw [hid, Key.ofPerson_injective he]
  · intro h
    rw [h]
    rfl

/-- There is at most one partner where any two are the same. -/
theorem length_partners_le_one_iff {keys : List (Option Key)} {key : Option Key} :
    (partners keys key).length ≤ 1 ↔ ∀ i ∈ partners keys key, ∀ j ∈ partners keys key, i = j := by
  have hnodup : (partners keys key).Nodup := by
    cases key with
    | none => exact List.nodup_nil
    | some key => exact nodup_rowsWith keys key
  rw [← List.toFinset_card_of_nodup hnodup, Finset.card_le_one]
  simp only [List.mem_toFinset]

/-- There is one row for each person exactly when each key has at most one partner. -/
theorem oneRowEach_iff {ids key : Column} (htype : key.type = .long) :
    OneRowEach ids key ↔ ∀ id ∈ ids.toLongs.keys, (partners key.keys id).length ≤ 1 := by
  rw [Column.keys_toLongs, List.forall_mem_map]
  simp only [length_partners_le_one_iff]
  constructor
  · intro h id hid
    cases id with
    | none => exact nofun
    | some e =>
      intro i hi j hj
      exact h e hid i j ((mem_partners_iff htype).1 hi) ((mem_partners_iff htype).1 hj)
  · intro h e he i j hi hj
    exact h (some e) he i ((mem_partners_iff htype).2 hi) j ((mem_partners_iff htype).2 hj)

/-- A cell that is picked by the key of a person, of which there is one at most, is the person's. -/
theorem isCellFor_pick {c key : Column} (htype : key.type = .long) (hheight : c.height = key.height)
    {id : Option Person} (hunique : (partners key.keys (id.map Key.ofPerson)).length ≤ 1) :
    c.IsCellFor key id ((partners key.keys (id.map Key.ofPerson)).head?.bind fun i => (c.cells[i]?).join) := by
  cases id with
  | none => exact rfl
  | some e =>
    rw [length_partners_le_one_iff] at hunique
    cases hpartners : partners key.keys (some (Key.ofPerson e)) with
    | nil =>
      refine .inr ⟨fun i hi => ?_, by simp [hpartners]⟩
      rw [← mem_partners_iff htype, hpartners] at hi
      cases hi
    | cons i rest =>
      have hi : i ∈ partners key.keys (some (Key.ofPerson e)) := hpartners ▸ List.mem_cons_self
      have hkey := (mem_partners_iff htype).1 hi
      refine .inl ⟨i, hkey, fun j hj => hunique j ((mem_partners_iff htype).2 hj) i hi, ?_⟩
      have hlt : i < c.cells.length := by
        obtain ⟨hlt, -⟩ := List.getElem?_eq_some_iff.1 hkey
        have hlength : key.longs.length = c.cells.length := by
          rw [Column.longs, List.length_map]
          exact hheight.symm
        omega
      simp [hpartners, List.getElem?_eq_getElem hlt]

/-! ## Rows that are left out -/

namespace Frame

/-- The columns of a join are the same where rows are left out on the right with which no left row is joined. -/
theorem joinedColumns_kept {kind : JoinKind} {left right : Frame} {leftKey rightKey : Column} {kept : Nat → Bool}
    (hheight : right.height = rightKey.height)
    (hkept : ∀ key ∈ leftKey.keys, ∀ i ∈ partners rightKey.keys key, kept i = true) :
    joinedColumns kind left (right.pick (((List.range right.height).filter kept).map some)) leftKey
        (rightKey.pick (((List.range right.height).filter kept).map some)) =
      joinedColumns kind left right leftKey rightKey := by
  have hlength : right.height = rightKey.keys.length := by
    rw [hheight]
    simp [Column.keys, Column.height]
  rw [hlength]
  have hkeys : (rightKey.pick (((List.range rightKey.keys.length).filter kept).map some)).keys =
      ((List.range rightKey.keys.length).filter kept).map fun i => (rightKey.keys[i]?).join := by
    rw [Column.keys_pick, List.map_map]
    rfl
  -- A row that is kept has a new number; what is picked by it is picked by the old one.
  have hrows := joinedRows_renumber kind fun key hkey => partners_kept (hkept key hkey)
  unfold joinedColumns columnsOf
  rw [hkeys, ← hrows]
  have hjoin : ∀ row : Option Nat, (row.map some).join = row := by
    intro row
    cases row <;> rfl
  simp only [List.map_map, pick, drop, List.filter_map, Function.comp_def, Column.name_pick, Column.pick_pick,
    List.getElem?_map, hjoin]

/-- A join is the same where rows are left out on the right with which no left row is joined. -/
theorem join_kept {left right : Frame} {leftOn rightOn : String} {leftKey rightKey : Column} {kept : Nat → Bool}
    (hleft : left.column? leftOn = some leftKey) (hright : right.column? rightOn = some rightKey)
    (hkept : ∀ key ∈ leftKey.keys, ∀ i ∈ partners rightKey.keys key, kept i = true) (kind : JoinKind) :
    left.join (right.pick (((List.range right.height).filter kept).map some)) leftOn rightOn kind =
      left.join right leftOn rightOn kind := by
  have htype : ∀ rows, (rightKey.pick rows).type = rightKey.type := fun _ => rfl
  rw [join_eq_orderedJoin, join_eq_orderedJoin]
  unfold orderedJoin columnOr
  simp only [column?_pick, hleft, hright, Option.map_some, htype,
    joinedColumns_kept (height_of_column? hright).symm hkept]

end Frame

/-! ## Putting rows beside a sample -/

section

variable {sample : Table} {f aggregated : Frame} {ids key : Column} (hf : sample.toFrame = .ok f)
  (hids : f.column? ColumnName.person = some ids) (hfree : ColumnName.samplePerson ∉ f.names)
  (hrow : ColumnName.rowNumber ∉ f.names) (hkey : aggregated.column? ColumnName.samplePerson = some key)
  (htype : key.type = .long) (hapart : Apart f aggregated ColumnName.samplePerson)

include hf hids hfree hkey htype

/-- Rows that are not the sample persons' may be left out. -/
theorem attach_keep {flags : List Bool}
    (hflags : ∀ (i : Nat) (e : Person), some e ∈ ids.longs → key.longs[i]? = some (some e) →
    flags[i]? = some true) : sample.attach (aggregated.keep flags) = sample.attach aggregated := by
  obtain ⟨keyed, hkeyed, hcolumns⟩ := exists_keyedSample hids hfree
  have hleft : keyed.column? ColumnName.samplePerson = some (ids.toLongs.rename ColumnName.samplePerson) := by
    refine Frame.column?_eq_some_iff.2 ⟨?_, rfl⟩
    rw [hcolumns]
    exact List.mem_append_right _ List.mem_cons_self
  have hkept : ∀ k ∈ (ids.toLongs.rename ColumnName.samplePerson).keys, ∀ i ∈ partners key.keys k,
      flags[i]?.getD false = true := by
    show ∀ k ∈ ids.toLongs.keys, _
    rw [Column.keys_toLongs]
    intro k hk i hi
    obtain ⟨id, hid, rfl⟩ := List.mem_map.1 hk
    cases id with
    | none => cases hi
    | some e =>
      rw [hflags i e hid ((mem_partners_iff htype).1 hi)]
      rfl
  have hjoin := Frame.join_kept hleft hkey hkept .left
  unfold Table.attach
  rw [hf]
  simp only [hkeyed]
  show (if ColumnName.samplePerson ∉ (aggregated.pick _).names then _ else _) = _
  rw [Frame.names_pick]
  unfold Frame.keep
  rw [hjoin]

include hrow hapart

/-- What is put beside a sample stands beside its persons' rows. -/
theorem isBeside_of_attach {output : Frame} (h : sample.attach aggregated = .ok output) (hone : OneRowEach ids key) :
    IsBeside f aggregated ids key output := by
  have hunique := (oneRowEach_iff htype).1 hone
  obtain ⟨output', hattach, hcolumns⟩ := Table.exists_attach hids hfree hrow hkey htype hapart hf hunique
  rw [h] at hattach
  cases hattach
  refine ⟨_, hcolumns, ?_⟩
  rw [List.forall₂_map_right_iff, List.forall₂_same]
  intro c hc
  refine ⟨_, rfl, ?_⟩
  rw [Column.keys_toLongs, List.map_map, List.map_map, List.forall₂_map_right_iff, List.forall₂_same]
  intro id hid
  have hheight : c.height = key.height := by
    rw [← aggregated.height_eq_of_mem (List.mem_filter.1 hc).1, height_of_column? hkey]
  refine isCellFor_pick htype hheight (hunique _ ?_)
  rw [Column.keys_toLongs]
  exact List.mem_map_of_mem hid

/-- Rows keyed by person are put beside a sample exactly when no identifier of the sample has two, and are refused for
the number of rows that would come out otherwise. What is put beside the sample are the cells of each row's person, and
rows that are not the sample persons' have no part in it. -/
theorem attach_puts_beside :
    ((∃ output, sample.attach aggregated = .ok output) ↔ OneRowEach ids key) ∧
    (¬ OneRowEach ids key → ∃ n, sample.height < n ∧
      sample.attach aggregated = .error (.frame (.rowCount n sample.height))) ∧
    (∀ output, sample.attach aggregated = .ok output → IsBeside f aggregated ids key output) ∧
    ∀ flags : List Bool, (∀ (i : Nat) (e : Person), some e ∈ ids.longs → key.longs[i]? = some (some e) →
      flags[i]? = some true) → sample.attach (aggregated.keep flags) = sample.attach aggregated := by
  -- The guard compares row counts, and a left join drops none: the counts agree where each sample row has one partner
  -- at most.
  obtain ⟨placed, hattach, -⟩ := Table.exists_attachedRows hids hfree hrow hkey htype hapart hf
  have hheight : ids.toLongs.keys.length = sample.height := by
    rw [← Table.height_of_toFrame hf hids, ← height_of_column? hids]
    simp [Column.keys, Column.toLongs, Column.longs, Column.height]
  have hlength : (attachedRows ids key).length = sample.height ↔ OneRowEach ids key := by
    rw [oneRowEach_iff htype, ← hheight]
    exact length_joinedRows_left_eq_iff
  have hsucceeds : (∃ output, sample.attach aggregated = .ok output) ↔ OneRowEach ids key := by
    rw [← hlength, hattach]
    by_cases h : (attachedRows ids key).length = sample.height
    · simp [h]
    · simp [h]
  refine ⟨hsucceeds, fun hnot => ⟨(attachedRows ids key).length, ?_, ?_⟩, fun output h => ?_, fun flags hflags => ?_⟩
  · have hle := le_length_joinedRows_left ids.toLongs.keys key.keys
    rw [hheight] at hle
    exact lt_of_le_of_ne hle fun heq => hnot (hlength.1 heq.symm)
  · rw [hattach, if_neg (hlength.not.2 hnot)]
  · exact isBeside_of_attach hf hids hfree hrow hkey htype hapart h (hsucceeds.1 ⟨output, h⟩)
  · exact attach_keep hf hids hfree hkey htype hflags

end

/-- Identifiers out of order, one of them twice, one absent, and one that is no long word. -/
def unorderedIds : Column :=
  ⟨ColumnName.person, .int .u64, [some (IntType.u64.wrap 3), some (IntType.u64.wrap 1), none,
    some (IntType.u64.wrap 0xFFFFFFFFFFFFFFFF), some (IntType.u64.wrap 1)]⟩

/-- The persons with these identifiers. -/
def unorderedPersons : Frame :=
  ⟨[⟨"Name", .text, [some "a", some "b", none, some "d", some "b"]⟩, unorderedIds],
    by simp [unorderedIds, ColumnName.person], by decide⟩

/-- Keys: two absent, two of one person, and one more of a person given. -/
def townKeys (person : Int) : Column :=
  ⟨ColumnName.samplePerson, .long,
    [some (IntType.i64.wrap 1), none, some (IntType.i64.wrap 7), some (IntType.i64.wrap 7), none,
    some (IntType.i64.wrap person)]⟩

/-- The towns of these persons. -/
def keyedTowns (person : Int) : Frame :=
  ⟨[⟨"Town", .text, [some "Delft", some "Gouda", none, some "Leiden", some "Venlo", some "Breda"]⟩, townKeys person],
    by simp [townKeys, ColumnName.samplePerson], by simp [townKeys, Column.height, heightOf]⟩

/-- The towns stand beside the persons while each person has one, and are refused when a person has two, although
another person has none. -/
theorem unorderedPersons_beside :
    (∃ output, (Table.frame unorderedPersons).attach (keyedTowns 3) = .ok output ∧
      IsBeside unorderedPersons (keyedTowns 3) unorderedIds (townKeys 3) output) ∧
    ∃ n, 5 < n ∧ (Table.frame unorderedPersons).attach (keyedTowns 1) = .error (.frame (.rowCount n 5)) := by
  have hapart : ∀ person, Apart unorderedPersons (keyedTowns person) ColumnName.samplePerson := by
    intro person name hname hne
    have hname : name ∈ ["Town", ColumnName.samplePerson] := hname
    obtain rfl : name = "Town" := by simpa [hne] using hname
    exact ⟨by decide, by decide⟩
  obtain ⟨hone, -, hbeside, -⟩ := @attach_puts_beside (.frame unorderedPersons) unorderedPersons (keyedTowns 3)
    unorderedIds (townKeys 3) rfl rfl (by decide) (by decide) rfl rfl (hapart 3)
  obtain ⟨-, htwo, -, -⟩ := @attach_puts_beside (.frame unorderedPersons) unorderedPersons (keyedTowns 1)
    unorderedIds (townKeys 1) rfl rfl (by decide) (by decide) rfl rfl (hapart 1)
  obtain ⟨output, houtput⟩ := hone.2 ((oneRowEach_iff rfl).2 (by decide))
  refine ⟨⟨output, houtput, hbeside output houtput⟩, htwo fun h => ?_⟩
  exact absurd (h (IntType.i64.wrap 1) (by decide) 0 5 (by decide) (by decide)) (by decide)

end TieWalk
