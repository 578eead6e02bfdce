import Mathlib.Data.List.Nodup
import TieWalk.Json.Basic
import TieWalk.Proofs.Basics

/-!
# Values as others write them

Another program may write the fields of a record in an order of its own and put further fields among them. Read by the
names of its fields, such a record has the values that it would have had, each again as others write it; this is said
once, for any record, and a decoder of records has only to say how it reads the values.
-/

namespace TieWalk

/-- Members that are each read so are read as the list. -/
theorem mapM_eq_some_of_forall₂ {α β : Type} {f : α → Option β} {l : List α} {r : List β}
    (h : List.Forall₂ (fun a b => f a = some b) l r) : l.mapM f = some r := by
  induction h with
  | nil => rfl
  | cons hab _ ih =>
    rw [List.mapM_cons, hab, ih]
    rfl

namespace Json

/-- A value as another program may write it: the fields of any record in another order, and fields with further names
among them. The codes of a selection, which stand under their one name, are no record. -/
inductive IsLoosened : Json → Json → Prop where
  | same (j : Json) : IsLoosened j j
  | list {items items' : List Json} : List.Forall₂ IsLoosened items items' → IsLoosened (.list items) (.list items')
  | record {fields fields' further written : List (String × Json)} : fields.map Prod.fst ≠ ["Codes"] →
      fields'.map Prod.fst = fields.map Prod.fst →
      List.Forall₂ IsLoosened (fields.map Prod.snd) (fields'.map Prod.snd) →
      (∀ f ∈ further, f.1 ∉ fields.map Prod.fst) → written.Perm (fields' ++ further) →
      IsLoosened (.record fields) (.record written)

/-! ## What can be loosened -/

theorem eq_of_isLoosened_text {s : String} {j : Json} (h : IsLoosened (.text s) j) : j = .text s := by
  cases h
  rfl

theorem eq_of_isLoosened_nat {n : Nat} {j : Json} (h : IsLoosened (.nat n) j) : j = .nat n := by
  cases h
  rfl

/-- A list is written item by item, in order. -/
theorem isLoosened_list_iff {items : List Json} {j : Json} :
    IsLoosened (.list items) j ↔ ∃ items', j = .list items' ∧ List.Forall₂ IsLoosened items items' := by
  constructor
  · intro h
    cases h with
    | same => exact ⟨items, rfl, List.forall₂_same.2 fun item _ => .same item⟩
    | list h => exact ⟨_, rfl, h⟩
  · rintro ⟨items', rfl, h⟩
    exact .list h

/-- The record of the codes of a selection is written in one way. -/
theorem eq_of_isLoosened_codes {codes j : Json} (h : IsLoosened (.record [("Codes", codes)]) j) :
    j = .record [("Codes", codes)] := by
  cases h with
  | same => rfl
  | record hrecord => exact absurd rfl hrecord

/-- A record is written with its fields, each in one of its ways, and further ones, in any order. -/
theorem exists_of_isLoosened_record {fields : List (String × Json)} {j : Json} (h : IsLoosened (.record fields) j) :
    ∃ fields' further written, j = .record written ∧ fields'.map Prod.fst = fields.map Prod.fst ∧
      List.Forall₂ IsLoosened (fields.map Prod.snd) (fields'.map Prod.snd) ∧
      (∀ f ∈ further, f.1 ∉ fields.map Prod.fst) ∧ written.Perm (fields' ++ further) := by
  cases h with
  | same => exact ⟨fields, [], fields, rfl, rfl, List.forall₂_same.2 fun v _ => .same v, nofun, by simp⟩
  | record _ hnames hvalues hfurther hperm => exact ⟨_, _, _, rfl, hnames, hvalues, hfurther, hperm⟩

/-! ## What is read from a record -/

/-- A field among others of different names, and among further ones, is the only one of its name, in whatever order. -/
theorem field?_of_perm {fields further written : List (String × Json)} (hnodup : (fields.map Prod.fst).Nodup)
    (hfurther : ∀ f ∈ further, f.1 ∉ fields.map Prod.fst) (hperm : written.Perm (fields ++ further)) {name : String}
    {v : Json} (hv : (name, v) ∈ fields) : field? written name = some v := by
  have hfields : (fields.filter fun f => f.1 == name).Perm [(name, v)] := by
    refine (List.perm_ext_iff_of_nodup (hnodup.of_map.filter _) (List.nodup_singleton _)).2 fun f => ?_
    rw [List.mem_filter, beq_iff_eq, List.mem_singleton]
    constructor
    · rintro ⟨hf, hname⟩
      exact List.inj_on_of_nodup_map hnodup hf hv hname
    · rintro rfl
      exact ⟨hv, rfl⟩
  have hnone : (further.filter fun f => f.1 == name) = [] := by
    refine List.filter_eq_nil_iff.2 fun f hf hname => hfurther f hf ?_
    rw [beq_iff_eq.1 hname]
    exact List.mem_map_of_mem hv
  have hwritten := hperm.filter fun f => f.1 == name
  rw [List.filter_append, hnone, List.append_nil] at hwritten
  unfold field?
  rw [List.perm_singleton.1 (hwritten.trans hfields)]

/-- Fields of different names are found among further ones, in whatever order. -/
theorem fields?_of_perm {fields further written : List (String × Json)} (hnodup : (fields.map Prod.fst).Nodup)
    (hfurther : ∀ f ∈ further, f.1 ∉ fields.map Prod.fst) (hperm : written.Perm (fields ++ further)) :
    (Json.record written).fields? (fields.map Prod.fst) = some (fields.map Prod.snd) := by
  refine mapM_eq_some_of_forall₂ ?_
  rw [List.forall₂_map_left_iff, List.forall₂_map_right_iff, List.forall₂_same]
  exact fun f hf => field?_of_perm hnodup hfurther hperm hf

/-- The fields of a record are found by their names however the record is written, each with its value as it is written.
-/
theorem fields?_of_isLoosened {fields : List (String × Json)} {j : Json} (hnodup : (fields.map Prod.fst).Nodup)
    (h : IsLoosened (.record fields) j) : ∃ values, j.fields? (fields.map Prod.fst) = some values ∧
      List.Forall₂ IsLoosened (fields.map Prod.snd) values := by
  obtain ⟨fields', further, written, rfl, hnames, hvalues, hfurther, hperm⟩ := exists_of_isLoosened_record h
  rw [← hnames] at hnodup hfurther ⊢
  exact ⟨_, fields?_of_perm hnodup hfurther hperm, hvalues⟩

end Json

end TieWalk
