import TieWalk.Proofs.Table.Converting

/-!
# Crossing between frames and record batches

A frame that becomes a record batch, and a record batch that becomes a frame, keep what their cells say: names, order,
absent cells and values stand as they were, and only the types that hold the values become normal. What is normal
crosses as it is, so a table that has crossed once does not change any more.
-/

namespace TieWalk

/-! ## What cells say -/

/-- What a cell says, whatever type its column has: a whole number, a fraction, a text, a truth value, bytes or numbers.
-/
inductive Scalar where
  | number (value : Int)
  | real (value : Float)
  | text (value : String)
  | truth (value : Bool)
  | bytes (values : List UInt8)
  | numbers (values : List (Option Int))

namespace ColumnType

/-- What a value says. A date and a time are numbers, and a narrow float is the double that it is equal to. -/
def scalar : (t : ColumnType) → t.Carrier → Scalar
  | .int _, v => .number v.toInt
  | .float32, x => .real x.toFloat
  | .float64, x => .real x
  | .text, s => .text s
  | .bool, b => .truth b
  | .null, v => nomatch v
  | .date, d => .number d.toInt
  | .datetime _ _, n => .number n.toInt
  | .duration _, n => .number n.toInt
  | .time, n => .number n.toInt
  | .binary, bytes => .bytes bytes
  | .longList, values => .numbers (values.map (Option.map IntType.Value.toInt))

/-- The type that the values of a type are in after they have crossed. -/
def normalized : ColumnType → ColumnType
  | .int .u64 => .int .u64
  | .int _ => .long
  | .float32 => .float64
  | t => t

end ColumnType

/-- The type that the values of a field are in after they have crossed. -/
def FieldType.normalized : FieldType → FieldType
  | .int .u64 => .int .u64
  | .int _ => .int .i64
  | .float32 => .float64
  | .largeText => .text
  | t => t

/-- The normal type of a field holds what the normal type of its values holds. -/
theorem FieldType.plain_normalized (t : FieldType) : t.normalized.plain = t.plain.normalized := by
  cases t with
  | int t => cases t <;> rfl
  | float32 | float64 | text | largeText | bool | null | date | binary => rfl

/-- Fields of normal types that hold the same values have the same type. -/
theorem FieldType.eq_of_plain_eq {t u : FieldType} (ht : t.normalized = t) (hu : u.normalized = u)
    (h : t.plain = u.plain) : t = u := by
  cases t with
  | largeText => cases ht
  | int => cases u <;> simp_all [plain]
  | text => cases u <;> simp_all [plain, normalized]
  | float32 | float64 | bool | null | date | binary => cases u <;> simp_all [plain]

theorem FieldType.normalized_normalized (t : FieldType) : t.normalized.normalized = t.normalized := by
  cases t with
  | int t => cases t <;> rfl
  | float32 | float64 | text | largeText | bool | null | date | binary => rfl

namespace Column

/-- What the cells of a column say, with the absent ones in their places. -/
def scalars (c : Column) : List (Option Scalar) := c.cells.map (Option.map c.type.scalar)

/-- A column says what another one says, under the same name, in the normal type. -/
structure IsNormalOf (d c : Column) : Prop where
  name : d.name = c.name
  type : d.type = c.type.normalized
  scalars : d.scalars = c.scalars

/-- What says the same has as many rows. -/
theorem IsNormalOf.height {c d : Column} (h : d.IsNormalOf c) : d.height = c.height := by
  have hlength := congrArg List.length h.scalars
  unfold Column.scalars at hlength
  rwa [List.length_map, List.length_map] at hlength

/-- Integers that all fit say the same as long words. -/
theorem scalars_toLongs {name : String} {t : IntType} (ht : t ≠ .u64) (cells : List (Option t.Value)) :
    (toLongs ⟨name, .int t, cells⟩).scalars = scalars ⟨name, .int t, cells⟩ := by
  show (cells.map fun cell => cell.bind (ColumnType.toLong? (.int t) ·)).map (Option.map (ColumnType.scalar .long)) =
    cells.map (Option.map (ColumnType.scalar (.int t)))
  rw [List.map_map]
  apply List.map_congr_left
  intro cell _
  cases cell with
  | none => rfl
  | some v =>
    obtain ⟨w, hw⟩ := IntType.exists_long ht v
    have hlong : ColumnType.toLong? (.int t) v = some w := hw
    simp only [Function.comp_apply, Option.bind_some, hlong, Option.map_some, ColumnType.scalar]
    rw [IntType.toInt_of_ofInt? hw]

/-- The normal form of a column says what the column says. -/
theorem isNormalOf_of_normal? {c d : Column} (h : c.normal? = some d) : d.IsNormalOf c := by
  refine ⟨name_of_normal? h, ?_, ?_⟩
  · obtain ⟨name, type, cells⟩ := c
    cases type with
    | int t => cases t <;> (cases h; rfl)
    | float32 | float64 | text | bool | null => cases h; rfl
    | date | datetime | duration | time | binary | longList => cases h
  · obtain ⟨name, type, cells⟩ := c
    cases type with
    | int t =>
      by_cases ht : t = .u64
      · subst ht
        cases h
        rfl
      · have hd : d = toLongs ⟨name, .int t, cells⟩ := by
          cases t <;> first | exact absurd rfl ht | (cases h; rfl)
        rw [hd]
        exact scalars_toLongs ht cells
    | float32 =>
      cases h
      show (cells.map (Option.map Float32.toFloat)).map (Option.map (ColumnType.scalar .float64)) =
        cells.map (Option.map (ColumnType.scalar .float32))
      rw [List.map_map]
      apply List.map_congr_left
      intro cell _
      cases cell <;> rfl
    | float64 | text | bool | null => cases h; rfl
    | date | datetime | duration | time | binary | longList => cases h

/-- What is normal is its own normal form. -/
theorem normal?_eq_self {c : Column} (hconverts : c.type.converts = true) (htype : c.type.normalized = c.type) :
    c.normal? = some c := by
  obtain ⟨name, type, cells⟩ := c
  cases type with
  | int t =>
    cases t with
    | u64 => rfl
    | i64 =>
      have hcells : (cells.map fun cell => cell.bind (ColumnType.toLong? (.int .i64) ·)) = cells := by
        conv_rhs => rw [← List.map_id cells]
        apply List.map_congr_left
        intro cell _
        cases cell with
        | none => rfl
        | some v => exact IntType.ofInt?_toInt v
      show some (⟨name, .int .i64, _⟩ : Column) = some ⟨name, .int .i64, cells⟩
      exact congrArg (fun cells => some (⟨name, .int .i64, cells⟩ : Column)) hcells
    | i8 | i16 | i32 | u8 | u16 | u32 => cases htype
  | float64 | text | bool | null => rfl
  | float32 => cases htype
  | date | datetime | duration | time | binary | longList => cases hconverts

/-- A column that has crossed stays as it is. -/
theorem normal?_normal? {c d : Column} (h : c.normal? = some d) : d.normal? = some d := by
  apply normal?_eq_self (converts_of_normal? h)
  rw [(isNormalOf_of_normal? h).type]
  cases c.type with
  | int t => cases t <;> rfl
  | float32 | float64 | text | bool | null | date | datetime | duration | time | binary | longList => rfl

end Column

/-! ## Fields -/

namespace Field

/-- What the cells of a field say. -/
def scalars (f : Field) : List (Option Scalar) := f.plain.scalars

/-- A field says what another one says, under the same name, in the normal type. -/
structure IsNormalOf (g f : Field) : Prop where
  name : g.name = f.name
  type : g.type = f.type.normalized
  scalars : g.scalars = f.scalars

/-- What says the same has as many rows. -/
theorem IsNormalOf.height {f g : Field} (h : g.IsNormalOf f) : g.height = f.height := by
  have hlength := congrArg List.length h.scalars
  unfold Field.scalars Column.scalars at hlength
  rwa [List.length_map, List.length_map] at hlength

/-- A column becomes the field of a normal type that holds its normal form. -/
theorem ofColumn_eq_ok_iff {c : Column} {field : Field} :
    ofColumn c = .ok field ↔ c.normal? = some field.plain ∧ field.type.normalized = field.type := by
  constructor
  · intro h
    refine ⟨normal?_of_ofColumn h, ?_⟩
    obtain ⟨name, type, cells⟩ := c
    cases type with
    | int t => cases t <;> (cases h; rfl)
    | float32 | float64 | text | bool | null => cases h; rfl
    | date | datetime | duration | time | binary | longList => cases h
  · rintro ⟨hnormal, htype⟩
    have hconverts := Column.converts_of_normal? hnormal
    obtain ⟨name, type, cells⟩ := field
    rw [ofColumn_eq, hnormal]
    cases type with
    | largeText | float32 => cases htype
    | date | binary => cases hconverts
    | int | float64 | text | bool | null => rfl

/-- A field becomes a column, and the column a field, in its normal type. -/
theorem isNormalOf_of_toColumn {field back : Field} {c : Column} (hc : field.toColumn = .ok c)
    (hback : ofColumn c = .ok back) : back.IsNormalOf field := by
  have hplain := toColumn_eq_ok_iff.1 hc
  obtain ⟨hnormal, htype⟩ := ofColumn_eq_ok_iff.1 hback
  rw [Column.normal?_normal? hplain] at hnormal
  cases hnormal
  have hfield := Column.isNormalOf_of_normal? hplain
  refine ⟨hfield.name, ?_, hfield.scalars⟩
  apply FieldType.eq_of_plain_eq htype (FieldType.normalized_normalized _)
  rw [FieldType.plain_normalized]
  exact hfield.type

/-- A field of a normal type crosses as it is. -/
theorem toColumn_ofColumn_plain {field : Field} (hconverts : field.type.plain.converts = true)
    (htype : field.type.normalized = field.type) :
    field.toColumn = .ok field.plain ∧ ofColumn field.plain = .ok field := by
  have hnormal : field.plain.normal? = some field.plain := by
    apply Column.normal?_eq_self hconverts
    show field.type.plain.normalized = field.type.plain
    rw [← FieldType.plain_normalized, htype]
  exact ⟨toColumn_eq_ok_iff.2 hnormal, ofColumn_eq_ok_iff.2 ⟨hnormal, htype⟩⟩

/-- A column of a type without a normal form is named with its type. -/
theorem ofColumn_eq_error {c : Column} (h : c.type.converts = false) :
    ofColumn c = .error (.frame (.unsupportedColumn c.name c.type)) := by
  obtain ⟨name, type, cells⟩ := c
  cases type with
  | int | float32 | float64 | text | bool | null => cases h
  | date | datetime | duration | time | binary | longList => rfl

end Field

/-! ## Record batches of frames -/

namespace Batch

variable {b : Batch} {f : Frame}

/-- Record batches with the same fields are equal. -/
theorem ext {b b' : Batch} (h : b.fields = b'.fields) : b = b' := by
  cases b
  cases b'
  cases h
  rfl

theorem ofFields?_eq_ok_iff {fields : List Field} : ofFields? fields = .ok b ↔ b.fields = fields := by
  constructor
  · intro h
    unfold ofFields? at h
    split at h
    · cases h
      rfl
    · cases h
  · rintro rfl
    exact dif_pos b.even

/-- A frame becomes the record batch of its columns in normal form, if it has columns. -/
theorem ofFrame_eq_ok_iff : ofFrame f = .ok b ↔
    f.columns ≠ [] ∧ List.Forall₂ (fun c field => Field.ofColumn c = .ok field) f.columns b.fields := by
  rw [← mapM_eq_ok_iff]
  unfold ofFrame
  cases hfields : f.columns.mapM Field.ofColumn with
  | error e => simp
  | ok fields =>
    have hlength := (mapM_eq_ok_iff.1 hfields).length_eq
    cases fields with
    | nil =>
      have hnil : f.columns = [] := List.length_eq_zero_iff.1 hlength
      simp [hnil]
    | cons first rest =>
      have hne : f.columns ≠ [] := by
        intro hnil
        rw [hnil] at hlength
        cases hlength
      show ofFields? (first :: rest) = .ok b ↔ _
      rw [ofFields?_eq_ok_iff, and_iff_right hne, Except.ok.injEq, eq_comm]

/-- Of the columns that keep a frame from crossing the first is named. -/
theorem ofFrame_eq_error_of_find? {c : Column} (h : f.columns.find? (fun c => !c.type.converts) = some c) :
    ofFrame f = .error (.frame (.unsupportedColumn c.name c.type)) := by
  obtain ⟨hc, before, after, hcolumns, hbefore⟩ := List.find?_eq_some_iff_append.1 h
  have hfails : f.columns.mapM Field.ofColumn = .error (.frame (.unsupportedColumn c.name c.type)) := by
    rw [hcolumns]
    apply mapM_append_cons_eq_error
    · intro d hd
      exact Field.exists_ofColumn_iff.2 (by simpa using hbefore d hd)
    · exact Field.ofColumn_eq_error (by simpa using hc)
  unfold ofFrame
  rw [hfails]

/-- Fields that are named as columns are have their names in the same order. -/
theorem names_of_forall₂
    (h : List.Forall₂ (fun (c : Column) (field : Field) => field.name = c.name) f.columns b.fields) :
    b.names = f.names := by
  rw [← List.forall₂_eq_eq_eq, names, Frame.names, List.forall₂_map_left_iff, List.forall₂_map_right_iff]
  exact h.flip

/-- What a record batch gives back says what it says, in normal types. -/
structure IsNormalOf (back b : Batch) : Prop where
  fields : List.Forall₂ (fun field g => g.IsNormalOf field) b.fields back.fields
  height : back.height = b.height

end Batch

/-- What a frame gives back says what it says, in normal types. -/
structure Frame.IsNormalOf (g f : Frame) : Prop where
  columns : List.Forall₂ (fun c d => d.IsNormalOf c) f.columns g.columns
  height : g.height = f.height

/-- A frame is a table, or says column by column what a record batch says, in normal types. -/
def Frame.IsOf (f : Frame) : Table → Prop
  | .frame g => f = g
  | .batch b => List.Forall₂ (fun field c => c.IsNormalOf field.plain) b.fields f.columns

/-- Columns that are as high as others pair by pair are as high as they are altogether. -/
theorem heightOf_eq_of_forall₂ {l r : List Column} (h : List.Forall₂ (fun c d => d.height = c.height) l r) :
    heightOf r = heightOf l := by
  cases h with
  | nil => rfl
  | cons hcd _ => exact hcd

theorem rowsOf_eq_of_forall₂ {l r : List Field} (h : List.Forall₂ (fun f g => g.height = f.height) l r) :
    rowsOf r = rowsOf l := by
  cases h with
  | nil => rfl
  | cons hfg _ => exact hfg

namespace Table

variable {b : Batch} {f : Frame}

/-- A record batch whose names differ becomes the frame of its fields in normal form. -/
theorem toFrame_batch_eq_ok_iff (h : b.names.Nodup) :
    (Table.batch b).toFrame = .ok f ↔ List.Forall₂ (fun field c => field.toColumn = .ok c) b.fields f.columns := by
  have hfield : ∀ field ∈ b.fields, ∀ c, (Table.batch b).column? field.name = .ok (some c) ↔
      field.toColumn = .ok c := by
    intro field hmem c
    have hfound := (field?_eq_some_iff h).2 ⟨hmem, rfl⟩
    rw [column?_batch_eq_ok_iff, hfound, Field.toColumn_eq_ok_iff]
    simp
  unfold toFrame
  rw [select_eq_ok_iff, Batch.names, List.forall₂_map_left_iff]
  constructor
  · intro hforall
    have hall := (List.forall₂_and_left _ _).2 ⟨fun field hmem => hmem, hforall⟩
    exact hall.imp fun field c hc => (hfield field hc.1 c).1 hc.2
  · intro hforall
    have hall := (List.forall₂_and_left _ _).2 ⟨fun field hmem => hmem, hforall⟩
    exact hall.imp fun field c hc => (hfield field hc.1 c).2 hc.2

/-- The record batch of a frame gives back a frame that says the same, and that gives the same record batch. -/
theorem exists_toFrame_of_ofFrame (h : Batch.ofFrame f = .ok b) :
    ∃ g, (Table.batch b).toFrame = .ok g ∧ g.IsNormalOf f ∧ Batch.ofFrame g = .ok b := by
  obtain ⟨hne, hcolumns⟩ := Batch.ofFrame_eq_ok_iff.1 h
  have hnormal : List.Forall₂ (fun c field => field.plain.IsNormalOf c) f.columns b.fields :=
    hcolumns.imp fun c field hc => Column.isNormalOf_of_normal? (Field.ofColumn_eq_ok_iff.1 hc).1
  have hcross : ∀ field ∈ b.fields, field.toColumn = .ok field.plain ∧ Field.ofColumn field.plain = .ok field := by
    intro field hfield
    obtain ⟨c, -, hc⟩ := exists_mem_left_of_forall₂ hcolumns field hfield
    obtain ⟨hplain, htype⟩ := Field.ofColumn_eq_ok_iff.1 hc
    exact Field.toColumn_ofColumn_plain (Column.converts_of_normal? hplain) htype
  have hnames : b.names.Nodup := by
    rw [Batch.names_of_forall₂ (hnormal.imp fun c field hc => hc.name)]
    exact f.distinct
  -- The frame that comes back has the fields' own columns, since these are normal already.
  obtain ⟨g, hg⟩ : ∃ g, Frame.ofColumns? (b.fields.map Field.plain) = .ok g := by
    apply Frame.exists_ofColumns? (n := b.height)
    · rw [List.map_map]
      exact hnames
    · intro c hc
      obtain ⟨field, hfield, rfl⟩ := List.mem_map.1 hc
      exact b.even field hfield
  have hback : g.columns = b.fields.map Field.plain := Frame.ofColumns?_eq_ok_iff.1 hg
  have hnormals : List.Forall₂ (fun c d => d.IsNormalOf c) f.columns g.columns := by
    rw [hback, List.forall₂_map_right_iff]
    exact hnormal
  refine ⟨g, ?_, ⟨hnormals, heightOf_eq_of_forall₂ (hnormals.imp fun c d hd => hd.height)⟩, ?_⟩
  · rw [toFrame_batch_eq_ok_iff hnames, hback, List.forall₂_map_right_iff, List.forall₂_same]
    exact fun field hfield => (hcross field hfield).1
  · rw [Batch.ofFrame_eq_ok_iff, hback, List.forall₂_map_left_iff, List.forall₂_same]
    refine ⟨?_, fun field hfield => (hcross field hfield).2⟩
    intro hnil
    rw [List.map_eq_nil_iff] at hnil
    rw [hnil, List.forall₂_nil_right_iff] at hcolumns
    exact hne hcolumns

/-- The frame of a record batch gives back a record batch that says the same. -/
theorem exists_ofFrame_of_toFrame (h : (Table.batch b).toFrame = .ok f) (hne : b.fields ≠ []) :
    ∃ back, Batch.ofFrame f = .ok back ∧ back.IsNormalOf b := by
  obtain ⟨hnames, -⟩ := exists_toFrame_batch_iff.1 ⟨f, h⟩
  have hcolumns := (toFrame_batch_eq_ok_iff hnames).1 h
  obtain ⟨back, hback⟩ : ∃ back, Batch.ofFrame f = .ok back := by
    refine Batch.exists_ofFrame_iff.2 ⟨?_, converts_of_toFrame_batch h⟩
    intro hnil
    rw [hnil, List.forall₂_nil_right_iff] at hcolumns
    exact hne hcolumns
  have hfields : List.Forall₂ (fun field g => g.IsNormalOf field) b.fields back.fields := by
    apply (forall₂_comp hcolumns (Batch.ofFrame_eq_ok_iff.1 hback).2).imp
    rintro field g ⟨c, hc, hg⟩
    exact Field.isNormalOf_of_toColumn hc hg
  exact ⟨back, hback, hfields, rowsOf_eq_of_forall₂ (hfields.imp fun field g hg => hg.height)⟩

/-- A record batch of normal types crosses as it is. -/
theorem eq_of_ofFrame_of_toFrame {back : Batch} (h : (Table.batch b).toFrame = .ok f)
    (hback : Batch.ofFrame f = .ok back)
    (hnormal : ∀ field ∈ b.fields, field.type.normalized = field.type) : back = b := by
  obtain ⟨hnames, hconverts⟩ := exists_toFrame_batch_iff.1 ⟨f, h⟩
  have hcolumns := (toFrame_batch_eq_ok_iff hnames).1 h
  have hsame : List.Forall₂ Eq b.fields back.fields := by
    have hall := (List.forall₂_and_left _ _).2
      ⟨fun field hfield => hfield, forall₂_comp hcolumns (Batch.ofFrame_eq_ok_iff.1 hback).2⟩
    apply hall.imp
    rintro field g ⟨hfield, c, hc, hg⟩
    obtain ⟨hplain, hof⟩ := Field.toColumn_ofColumn_plain (hconverts field hfield) (hnormal field hfield)
    rw [hplain] at hc
    cases hc
    rw [hof] at hg
    exact Except.ok.inj hg
  rw [List.forall₂_eq_eq_eq] at hsame
  exact Batch.ext hsame.symm

/-- A frame, or a record batch that converts. -/
def IsFramable : Table → Prop
  | .frame _ => True
  | .batch b => (Table.batch b).Converts

/-- A table that is framable turns into a frame that says what it says. -/
theorem exists_isOf {t : Table} (h : t.IsFramable) : ∃ f, t.toFrame = .ok f ∧ f.IsOf t := by
  cases t with
  | frame f => exact ⟨f, rfl, rfl⟩
  | batch b =>
    obtain ⟨f, hf⟩ := exists_toFrame_batch_iff.2 h
    refine ⟨f, hf, ((toFrame_batch_eq_ok_iff h.1).1 hf).imp fun field c hc => ?_⟩
    exact Column.isNormalOf_of_normal? (Field.toColumn_eq_ok_iff.1 hc)

/-- Crossing keeps what tables say. A frame with columns becomes a record batch exactly when all of them convert, and
otherwise the first that does not is named; the frame that comes back says the same and becomes the same record batch
again. A record batch that converts becomes a frame, from which a record batch comes back that says the same, and is the
same where its types are normal. -/
theorem crossing_keeps_scalars :
    (∀ f : Frame, f.columns ≠ [] →
      ((∃ b, (Table.frame f).toBatch = .ok b) ↔ ∀ c ∈ f.columns, c.type.converts = true) ∧
      (∀ c, f.columns.find? (fun c => !c.type.converts) = some c →
        (Table.frame f).toBatch = .error (.frame (.unsupportedColumn c.name c.type))) ∧
      ∀ b, (Table.frame f).toBatch = .ok b →
        ∃ g, (Table.batch b).toFrame = .ok g ∧ g.IsNormalOf f ∧ (Table.frame g).toBatch = .ok b) ∧
    ∀ b : Batch, b.fields ≠ [] → (Table.batch b).Converts →
      ∃ f back, (Table.batch b).toFrame = .ok f ∧ (Table.frame f).toBatch = .ok back ∧ back.IsNormalOf b ∧
        ((∀ field ∈ b.fields, field.type.normalized = field.type) → back = b) := by
  constructor
  · intro f hne
    refine ⟨?_, fun c hc => Batch.ofFrame_eq_error_of_find? hc, fun b hb => exists_toFrame_of_ofFrame hb⟩
    show (∃ b, Batch.ofFrame f = .ok b) ↔ _
    rw [Batch.exists_ofFrame_iff]
    exact and_iff_right hne
  · intro b hne hconverts
    obtain ⟨f, hf⟩ := exists_toFrame_batch_iff.2 hconverts
    obtain ⟨back, hback, hnormal⟩ := exists_ofFrame_of_toFrame hf hne
    exact ⟨f, back, hf, hback, hnormal, eq_of_ofFrame_of_toFrame hf hback⟩

/-- A frame of a number beyond all long words, a narrow one, a text, and gaps in different places. -/
def gappedFrame : Frame where
  columns := [⟨"Fortune", .int .u64, [some (IntType.u64.wrap 0xFFFFFFFFFFFFFFFF), none]⟩,
    ⟨"Change", .int .i8, [none, some (IntType.i8.wrap (-1))]⟩, ⟨"City", .text, [some "Ede", none]⟩]
  distinct := by decide
  even := by decide

/-- A record batch of long texts and narrow numbers. -/
def gappedBatch : Batch where
  fields := [⟨"City", .largeText, [none, some "Ede"]⟩, ⟨"Age", .int .u8, [some (IntType.u8.wrap 255), none]⟩]
  even := by decide

/-- The frame crosses and comes back, and so does the record batch. -/
theorem gapped_crosses :
    (gappedFrame.columns ≠ [] ∧ ∃ b g, (Table.frame gappedFrame).toBatch = .ok b ∧ (Table.batch b).toFrame = .ok g ∧
      g.IsNormalOf gappedFrame ∧ (Table.frame g).toBatch = .ok b) ∧
    gappedBatch.fields ≠ [] ∧ (Table.batch gappedBatch).Converts ∧ ∃ f back, (Table.batch gappedBatch).toFrame = .ok f ∧
      (Table.frame f).toBatch = .ok back ∧ back.IsNormalOf gappedBatch := by
  have hconverts : (Table.batch gappedBatch).Converts := by
    refine ⟨?_, ?_⟩ <;> decide
  obtain ⟨hiff, -, hback⟩ := crossing_keeps_scalars.1 gappedFrame (List.cons_ne_nil _ _)
  obtain ⟨b, hb⟩ := hiff.2 (by decide)
  obtain ⟨g, hg, hnormal, hagain⟩ := hback b hb
  obtain ⟨f, back, hf, hbatch, hsame, -⟩ := crossing_keeps_scalars.2 gappedBatch (List.cons_ne_nil _ _) hconverts
  exact ⟨⟨List.cons_ne_nil _ _, b, g, hb, hg, hnormal, hagain⟩, List.cons_ne_nil _ _, hconverts, f, back, hf, hbatch,
    hsame⟩

end Table

end TieWalk
