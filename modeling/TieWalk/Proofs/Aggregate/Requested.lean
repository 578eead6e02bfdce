import Mathlib.Data.List.Nodup
import TieWalk.Proofs.Basics
import TieWalk.Aggregate.Basic
import TieWalk.Relation.Names

/-!
# Aggregates as they are asked for

Every function that is asked for becomes an aggregate of every column, under a label that is a name of its statistic.
The output names that come of labels and columns are names of nothing else in a walk.
-/

namespace TieWalk

namespace Aggregate

/-- The statistic that a function name asks for, and its label. -/
def labelOf (name : String) : Except Error (Statistic × String) :=
  match Statistic.ofName? name with
  | some s => .ok (s, Text.trim name)
  | none => .error (.unknownFunction name)

/-- A label is the function's name as it was asked for, blanks at its ends apart. -/
theorem labelOf_eq_ok_iff {name : String} {x : Statistic × String} :
    labelOf name = .ok x ↔ Statistic.ofName? name = some x.1 ∧ x.2 = Text.trim name := by
  unfold labelOf
  cases Statistic.ofName? name <;> simp [Prod.ext_iff, eq_comm]

/-- A name that no function has is refused as it was given. -/
theorem labelOf_eq_error_iff {name : String} {e : Error} :
    labelOf name = .error e ↔ Statistic.ofName? name = none ∧ e = .unknownFunction name := by
  unfold labelOf
  cases Statistic.ofName? name <;> simp [eq_comm]

/-- Function names are labelled one after another. -/
theorem labelled_eq_mapM (functions : List String) : labelled functions = functions.mapM labelOf := by
  induction functions with
  | nil => rfl
  | cons name rest ih =>
    rw [labelled, List.mapM_cons, ih]
    cases hname : Statistic.ofName? name with
    | none =>
      rw [labelOf_eq_error_iff.2 ⟨hname, rfl⟩]
      rfl
    | some s =>
      have hlabel : labelOf name = .ok (s, Text.trim name) := labelOf_eq_ok_iff.2 ⟨hname, rfl⟩
      rw [hlabel]
      cases rest.mapM labelOf <;> rfl

/-- Every function name that is asked for gives its statistic and its label. -/
theorem labelled_eq_ok_iff {functions : List String} {found : List (Statistic × String)} :
    labelled functions = .ok found ↔
      List.Forall₂ (fun name x => Statistic.ofName? name = some x.1 ∧ x.2 = Text.trim name) functions found := by
  rw [labelled_eq_mapM, mapM_eq_ok_iff]
  simp only [labelOf_eq_ok_iff]

/-- What is asked for is an aggregate for each column under each label, if there is a label at all. -/
theorem requestAll_eq_ok_iff {functions columns : List String} {aggregates : List Aggregate} :
    requestAll functions columns = .ok aggregates ↔
      functions ≠ [] ∧ ∃ found, labelled functions = .ok found ∧
        aggregates = found.eraseDups.flatMap fun x => columns.map fun c => ⟨x.1, x.2, c⟩ := by
  unfold requestAll
  cases functions with
  | nil => simp
  | cons name rest =>
    rw [if_neg (by simp)]
    cases labelled (name :: rest) <;> simp [eq_comm]

/-- Functions that are all known can be asked for. -/
theorem exists_requestAll {functions : List String} (hne : functions ≠ [])
    (hknown : ∀ name ∈ functions, ∃ s, Statistic.ofName? name = some s) (columns : List String) :
    ∃ aggregates, requestAll functions columns = .ok aggregates := by
  have hlabels : ∀ name ∈ functions, ∃ x : Statistic × String, Statistic.ofName? name = some x.1 ∧
      x.2 = Text.trim name := by
    intro name hname
    obtain ⟨s, hs⟩ := hknown name hname
    exact ⟨(s, Text.trim name), hs, rfl⟩
  obtain ⟨found, hfound⟩ := exists_forall₂_iff.2 hlabels
  exact ⟨_, requestAll_eq_ok_iff.2 ⟨hne, found, labelled_eq_ok_iff.2 hfound, rfl⟩⟩

/-- The label of an aggregate is one of the names of its statistic, the case of letters apart. -/
def IsLabelled (a : Aggregate) : Prop := Statistic.requestNames.lookup (Text.lowercase a.label) = some a.statistic

/-- A label is, in lower case, a name of its function. -/
theorem lookup_of_labelled {functions : List String} {found : List (Statistic × String)}
    (h : labelled functions = .ok found)
    {x : Statistic × String} (hx : x ∈ found) : Statistic.requestNames.lookup (Text.lowercase x.2) = some x.1 := by
  have hforall := labelled_eq_ok_iff.1 h
  clear h
  induction hforall with
  | nil => cases hx
  | cons hname _ ih =>
    rcases List.mem_cons.1 hx with rfl | hx
    · obtain ⟨hs, hlabel⟩ := hname
      rw [hlabel]
      exact hs
    · exact ih hx

/-- What is asked for is labelled and of one of the columns. -/
theorem of_mem_requestAll {functions columns : List String} {aggregates : List Aggregate}
    (h : requestAll functions columns = .ok aggregates) {a : Aggregate} (ha : a ∈ aggregates) :
    a.column ∈ columns ∧ a.IsLabelled := by
  obtain ⟨-, found, hfound, rfl⟩ := requestAll_eq_ok_iff.1 h
  obtain ⟨x, hx, ha⟩ := List.mem_flatMap.1 ha
  obtain ⟨c, hc, rfl⟩ := List.mem_map.1 ha
  exact ⟨hc, lookup_of_labelled hfound (List.mem_eraseDups.1 hx)⟩

/-- Every column is aggregated. -/
theorem exists_of_requestAll {functions columns : List String} {aggregates : List Aggregate}
    (h : requestAll functions columns = .ok aggregates) {c : String} (hc : c ∈ columns) :
    ∃ a ∈ aggregates, a.column = c := by
  obtain ⟨hne, found, hfound, rfl⟩ := requestAll_eq_ok_iff.1 h
  have hlabelled := labelled_eq_ok_iff.1 hfound
  cases hlabelled with
  | nil => exact absurd rfl hne
  | @cons name x rest more hname hrest =>
    refine ⟨⟨x.1, x.2, c⟩, ?_, rfl⟩
    exact List.mem_flatMap.2 ⟨x, List.mem_eraseDups.2 List.mem_cons_self, List.mem_map.2 ⟨c, hc, rfl⟩⟩

/-- Every label that is asked for, in the order of the first requests, with every column in turn. -/
theorem labels_of_requestAll {functions columns : List String} {aggregates : List Aggregate}
    (h : requestAll functions columns = .ok aggregates) :
    (aggregates.map fun a => (a.label, a.column)) =
      (functions.map Text.trim).eraseDups.flatMap fun label => columns.map fun c => (label, c) := by
  obtain ⟨-, found, hfound, rfl⟩ := requestAll_eq_ok_iff.1 h
  have hlabels : functions.map Text.trim = found.map Prod.snd := by
    have hforall := labelled_eq_ok_iff.1 hfound
    clear hfound h
    induction hforall with
    | nil => rfl
    | cons hname _ ih => rw [List.map_cons, List.map_cons, ih, hname.2]
  -- A label is a name of one statistic only.
  have hdistinct : ∀ x ∈ found, ∀ y ∈ found, x.2 = y.2 → x = y := by
    intro x hx y hy hlabel
    have hlookup := lookup_of_labelled hfound hx
    rw [hlabel, lookup_of_labelled hfound hy] at hlookup
    exact Prod.ext (Option.some.inj hlookup).symm hlabel
  rw [hlabels, map_eraseDups hdistinct, List.flatMap_map, List.map_flatMap]
  simp only [List.map_map, Function.comp_def]

/-- There is an underscore in every output name. -/
theorem underscore_mem_outputName (a : Aggregate) : '_' ∈ a.outputName.toList := by
  simp [outputName]

/-- An output column is not named as the sample person. -/
theorem outputName_ne_samplePerson (a : Aggregate) : a.outputName ≠ ColumnName.samplePerson := by
  intro h
  have hmem := a.underscore_mem_outputName
  rw [h] at hmem
  exact absurd hmem (by decide)

/-- No name of a statistic starts with another one and an underscore after it. -/
theorem not_isPrefixOf_requestNames :
    ∀ n ∈ Statistic.requestNames.map Prod.fst, ∀ m ∈ Statistic.requestNames.map Prod.fst,
    (n.toList ++ ['_']).isPrefixOf m.toList = false := by
  decide

/-- A label is, in lower case, one of the names that can be asked for. -/
theorem IsLabelled.lowercase_mem {a : Aggregate} (h : a.IsLabelled) :
    Text.lowercase a.label ∈ Statistic.requestNames.map Prod.fst := by
  obtain ⟨before, after, hnames, -⟩ := List.lookup_eq_some_iff.1 h
  rw [hnames]
  simp

/-- No label starts with another one and an underscore after it. -/
theorem IsLabelled.label_ne_append {a b : Aggregate} (ha : a.IsLabelled) (hb : b.IsLabelled) (rest : List Char) :
    b.label.toList ≠ a.label.toList ++ '_' :: rest := by
  intro h
  have hlower : ∀ s : String, (Text.lowercase s).toList = s.toList.map Char.toLower := fun s => String.toList_ofList
  have hfalse := not_isPrefixOf_requestNames _ ha.lowercase_mem _ hb.lowercase_mem
  have hprefix : (Text.lowercase a.label).toList ++ ['_'] <+: (Text.lowercase b.label).toList := by
    refine ⟨rest.map Char.toLower, ?_⟩
    have hunderscore : '_'.toLower = '_' := by decide
    rw [hlower, hlower, h, List.map_append, List.map_cons, hunderscore]
    simp
  rw [List.isPrefixOf_iff_prefix.2 hprefix] at hfalse
  cases hfalse

/-- Different aggregates have different output columns: where a label ends is seen from the name, although both a label
and a column's name may have underscores. -/
theorem IsLabelled.eq_of_outputName_eq {a b : Aggregate} (ha : a.IsLabelled) (hb : b.IsLabelled)
    (h : a.outputName = b.outputName) : a = b := by
  have hlist : a.label.toList ++ '_' :: a.column.toList = b.label.toList ++ '_' :: b.column.toList := by
    have hname : ∀ c : Aggregate, c.outputName.toList = c.label.toList ++ '_' :: c.column.toList :=
      fun c => by simp [outputName]
    rw [← hname, ← hname, h]
  obtain ⟨hlabel, hcolumn⟩ : a.label.toList = b.label.toList ∧ a.column.toList = b.column.toList := by
    rcases List.append_eq_append_iff.1 hlist with ⟨more, hb', hrest⟩ | ⟨more, ha', hrest⟩
    · cases more with
      | nil => exact ⟨by simpa using hb'.symm, by simpa using hrest⟩
      | cons c more =>
        obtain ⟨rfl, -⟩ := List.cons.inj hrest
        exact absurd hb' (ha.label_ne_append hb more)
    · cases more with
      | nil => exact ⟨by simpa using ha', by simpa using hrest.symm⟩
      | cons c more =>
        obtain ⟨rfl, -⟩ := List.cons.inj hrest
        exact absurd ha' (hb.label_ne_append ha more)
  have hsame : a.label = b.label := String.toList_inj.1 hlabel
  have hsameColumn : a.column = b.column := String.toList_inj.1 hcolumn
  have hstatistic : some a.statistic = some b.statistic := by rw [← ha, ← hb, hsame]
  obtain ⟨statistic, label, column⟩ := a
  obtain ⟨statistic', label', column'⟩ := b
  cases hstatistic
  cases hsame
  cases hsameColumn
  rfl

/-- No two output columns of a request have the same name. -/
theorem nodup_outputNames {functions columns : List String} {aggregates : List Aggregate}
    (h : requestAll functions columns = .ok aggregates) (hcolumns : columns.Nodup) :
    (aggregates.map outputName).Nodup := by
  have hlabelled : ∀ a ∈ aggregates, a.IsLabelled := fun a ha => (of_mem_requestAll h ha).2
  refine List.Nodup.map_on (fun a ha b hb hname => (hlabelled a ha).eq_of_outputName_eq (hlabelled b hb) hname) ?_
  obtain ⟨-, found, -, rfl⟩ := requestAll_eq_ok_iff.1 h
  rw [List.nodup_flatMap]
  refine ⟨fun x _ => ?_, ?_⟩
  · refine List.Nodup.map (fun c d hcd => ?_) hcolumns
    exact congrArg Aggregate.column hcd
  · refine (nodup_eraseDups found).imp fun {x y} hne => ?_
    intro a ha hb
    obtain ⟨c, -, rfl⟩ := List.mem_map.1 ha
    obtain ⟨d, -, hd⟩ := List.mem_map.1 hb
    exact hne (Prod.ext (congrArg Aggregate.statistic hd).symm (congrArg Aggregate.label hd).symm)

/-- An output column is not named as a row number, since no statistic's name starts with an underscore. -/
theorem IsLabelled.outputName_ne_rowNumber {a : Aggregate} (h : a.IsLabelled) :
    a.outputName ≠ ColumnName.rowNumber := by
  intro hname
  have hmem := h.lowercase_mem
  have hstart : ∀ n ∈ Statistic.requestNames.map Prod.fst, n.toList.head? ≠ none ∧ n.toList.head? ≠ some '_' := by
    decide
  have hlower : (Text.lowercase a.label).toList = a.label.toList.map Char.toLower := String.toList_ofList
  obtain ⟨hne, hnot⟩ := hstart _ hmem
  rw [hlower] at hne hnot
  have hlist : a.label.toList ++ '_' :: a.column.toList = ['_', '_', 'r', 'o', 'w'] := by
    have hrow : ColumnName.rowNumber.toList = ['_', '_', 'r', 'o', 'w'] := by decide
    rw [← hrow, ← hname]
    simp [outputName]
  cases hlabel : a.label.toList with
  | nil =>
    rw [hlabel] at hne
    exact hne rfl
  | cons d rest =>
    rw [hlabel] at hnot hlist
    have hd : d = '_' := (List.cons.inj hlist).1
    rw [hd] at hnot
    exact hnot rfl

end Aggregate

end TieWalk
