import TieWalk.Proofs.Table.Attaching

/-!
# What converts

A column converts between frames and record batches when its type has a normal form. A record batch becomes a frame when
all of its fields convert and its names differ; a frame becomes a record batch when it has a column and all of them
convert.
-/

namespace TieWalk

/-- Values of the type have a normal form, and cross between frames and record batches in it. -/
def ColumnType.converts : ColumnType → Bool
  | .int _ | .float32 | .float64 | .text | .bool | .null => true
  | .date | .datetime _ _ | .duration _ | .time | .binary | .longList => false

namespace Column

/-- A column has a normal form exactly when its type converts. -/
theorem exists_normal?_iff {c : Column} : (∃ d, c.normal? = some d) ↔ c.type.converts = true := by
  obtain ⟨name, type, cells⟩ := c
  cases type with
  | int t => cases t <;> simp [normal?, ColumnType.converts]
  | float32 | float64 | text | bool | null | date | datetime | duration | time | binary | longList =>
    simp [normal?, ColumnType.converts]

/-- A normal form converts again. -/
theorem converts_of_normal? {c d : Column} (h : c.normal? = some d) : d.type.converts = true := by
  unfold normal? at h
  split at h <;> first | (cases h; rfl) | cases h

end Column

namespace Field

/-- A column becomes a field exactly when it has a normal form, and the field is as long. -/
theorem exists_ofColumn_iff {c : Column} : (∃ field, ofColumn c = .ok field) ↔ c.type.converts = true := by
  rw [ofColumn_eq]
  obtain ⟨name, type, cells⟩ := c
  cases type with
  | int t => cases t <;> simp [Column.normal?, Column.toLongs, ColumnType.converts]
  | float32 | float64 | text | bool | null | date | datetime | duration | time | binary | longList =>
    simp [Column.normal?, ColumnType.converts]

theorem height_of_ofColumn {c : Column} {field : Field} (h : ofColumn c = .ok field) : field.height = c.height :=
  Column.height_of_normal? (normal?_of_ofColumn h)

end Field

namespace Batch

theorem exists_ofFields? {fields : List Field} {n : Nat} (h : ∀ field ∈ fields, field.height = n) :
    ∃ b, ofFields? fields = .ok b := by
  have heven : ∀ field ∈ fields, field.height = rowsOf fields := by
    cases fields with
    | nil => exact nofun
    | cons first rest =>
      intro field hfield
      rw [h field hfield, rowsOf, h first List.mem_cons_self]
  exact ⟨⟨fields, heven⟩, dif_pos heven⟩

/-- A frame becomes a record batch when it has a column and all of them convert. -/
theorem exists_ofFrame_iff {f : Frame} :
    (∃ b, ofFrame f = .ok b) ↔ f.columns ≠ [] ∧ ∀ c ∈ f.columns, c.type.converts = true := by
  have hforall : (∃ fields, f.columns.mapM Field.ofColumn = .ok fields) ↔ ∀ c ∈ f.columns, c.type.converts = true := by
    simp only [mapM_eq_ok_iff, exists_forall₂_iff, Field.exists_ofColumn_iff]
  constructor
  · rintro ⟨b, hb⟩
    unfold ofFrame at hb
    split at hb
    · cases hb
    · cases hb
    · next fields hne hfields =>
      refine ⟨?_, hforall.1 ⟨fields, hfields⟩⟩
      intro hnil
      rw [hnil] at hfields
      cases hfields
      exact hne rfl
  · rintro ⟨hne, hconverts⟩
    obtain ⟨fields, hfields⟩ := hforall.2 hconverts
    have hcolumns := mapM_eq_ok_iff.1 hfields
    have hheight : ∀ field ∈ fields, field.height = f.height := by
      intro field hfield
      obtain ⟨c, hc, hof⟩ := exists_mem_left_of_forall₂ hcolumns field hfield
      rw [Field.height_of_ofColumn hof]
      exact f.even c hc
    obtain ⟨b, hb⟩ := exists_ofFields? hheight
    refine ⟨b, ?_⟩
    unfold ofFrame
    rw [hfields]
    cases fields with
    | nil => exact absurd (List.length_eq_zero_iff.1 hcolumns.length_eq) hne
    | cons first rest => exact hb

end Batch

namespace Table

/-- Every column converts; those of a record batch have different names as well. -/
def Converts : Table → Prop
  | .frame f => ∀ c ∈ f.columns, c.type.converts = true
  | .batch b => b.names.Nodup ∧ ∀ field ∈ b.fields, field.type.plain.converts = true

/-- A record batch becomes a frame exactly when it converts. -/
theorem exists_toFrame_batch_iff {b : Batch} : (∃ f, (Table.batch b).toFrame = .ok f) ↔ (Table.batch b).Converts := by
  unfold toFrame Converts
  rw [exists_select_iff]
  apply and_congr_right
  intro hnodup
  constructor
  · intro h field hfield
    obtain ⟨c, hc⟩ := h field.name (List.mem_map_of_mem hfield)
    obtain ⟨field', hfield', hnormal⟩ := column?_batch_eq_ok_iff.1 hc
    rw [(field?_eq_some_iff hnodup).2 ⟨hfield, rfl⟩] at hfield'
    cases hfield'
    exact Column.exists_normal?_iff.1 ⟨c, hnormal⟩
  · intro h name hname
    obtain ⟨field, hmem, rfl⟩ := List.mem_map.1 hname
    obtain ⟨c, hc⟩ : ∃ c, field.plain.normal? = some c := Column.exists_normal?_iff.2 (h field hmem)
    exact ⟨c, column?_batch_eq_ok_iff.2 ⟨field, (field?_eq_some_iff hnodup).2 ⟨hmem, rfl⟩, hc⟩⟩

/-- The frame of a record batch converts back. -/
theorem converts_of_toFrame_batch {b : Batch} {f : Frame} (h : (Table.batch b).toFrame = .ok f) :
    ∀ c ∈ f.columns, c.type.converts = true := by
  intro c hc
  have hcolumn : f.column? c.name = some c := Frame.column?_eq_some_iff.2 ⟨hc, rfl⟩
  have hbatch := (of_toFrame h).2 c.name
  rw [hcolumn] at hbatch
  obtain ⟨field, -, hnormal⟩ := column?_batch_eq_ok_iff.1 hbatch
  exact Column.converts_of_normal? hnormal

end Table

end TieWalk
