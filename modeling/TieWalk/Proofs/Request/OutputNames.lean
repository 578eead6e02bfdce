import TieWalk.Proofs.Request.Checked

/-!
# The names of output columns

Functions are asked for by name, and each name that is not like one before it is a label of its own: `avg`, `AVG` and
`mean` make three columns of every variable. The columns' names are still different, because no label is the beginning
of another one with an underscore after it. So an output column that a request is refused for is always a column of the
sample, and never another output column.
-/

namespace TieWalk

/-! ## The names of statistics -/

namespace Statistic

/-- A name is one of those under which a statistic can be asked for, the case of letters apart. -/
def IsCalled (s : Statistic) (name : String) : Prop :=
  ∃ known, (known, s) ∈ requestNames ∧ Text.sameIgnoringCase name known = true

/-- A text asks for a statistic, blanks at its ends apart. -/
def IsKnown (text : String) : Prop := ∃ s : Statistic, s.IsCalled (Text.trim text)

/-- Each name that can be asked for is that of one function. -/
theorem lookup_requestNames : ∀ x ∈ requestNames, requestNames.lookup x.1 = some x.2 := by
  decide

/-- A name is one of those that can be asked for, in any case, if it is so in lower case. -/
theorem sameIgnoringCase_requestNames {known : String} (hknown : known ∈ requestNames.map Prod.fst) (name : String) :
    Text.sameIgnoringCase name known = true ↔ Text.lowercase name = known := by
  have hsmall : ∀ n ∈ requestNames.map Prod.fst, n.toList.map Char.toLower = n.toList := by decide
  unfold Text.sameIgnoringCase Text.lowercase
  rw [beq_iff_eq, hsmall known hknown, ← String.toList_inj, String.toList_ofList]

/-- A function is found by the names it is called by. -/
theorem lookup_lowercase_eq_some_iff {name : String} {s : Statistic} :
    requestNames.lookup (Text.lowercase name) = some s ↔ s.IsCalled name := by
  constructor
  · intro h
    obtain ⟨before, after, hnames, -⟩ := List.lookup_eq_some_iff.1 h
    have hmem : (Text.lowercase name, s) ∈ requestNames := by
      rw [hnames]
      simp
    exact ⟨_, hmem, (sameIgnoringCase_requestNames (List.mem_map_of_mem hmem) name).2 rfl⟩
  · rintro ⟨known, hmem, hsame⟩
    rw [(sameIgnoringCase_requestNames (List.mem_map_of_mem hmem) name).1 hsame]
    exact lookup_requestNames _ hmem

/-- A text asks for the function that it calls, blanks at its ends apart. -/
theorem ofName?_eq_some_iff {text : String} {s : Statistic} : ofName? text = some s ↔ s.IsCalled (Text.trim text) :=
  lookup_lowercase_eq_some_iff

/-- A function is found exactly for the names that are known. -/
theorem isSome_ofName?_iff {text : String} : (ofName? text).isSome = true ↔ IsKnown text := by
  rw [Option.isSome_iff_exists]
  exact exists_congr fun s => ofName?_eq_some_iff

theorem ofName?_eq_none_iff_not_isKnown {text : String} : ofName? text = none ↔ ¬ IsKnown text := by
  rw [← isSome_ofName?_iff, Option.not_isSome_iff_eq_none]

instance (text : String) : Decidable (IsKnown text) := decidable_of_iff _ isSome_ofName?_iff

end Statistic

/-! ## What is requested -/

namespace Aggregate

variable {functions columns : List String}

/-- A label is a name of one statistic. -/
theorem IsLabelled.isCalled_iff {a : Aggregate} (h : a.IsLabelled) {s : Statistic} :
    s.IsCalled a.label ↔ s = a.statistic := by
  have hlookup : Statistic.requestNames.lookup (Text.lowercase a.label) = some a.statistic := h
  rw [← Statistic.lookup_lowercase_eq_some_iff, hlookup, Option.some.injEq, eq_comm]

theorem exists_labelOf_iff {name : String} : (∃ x, labelOf name = .ok x) ↔ Statistic.IsKnown name := by
  simp only [labelOf_eq_ok_iff, Statistic.ofName?_eq_some_iff]
  constructor
  · rintro ⟨x, hcalled, -⟩
    exact ⟨x.1, hcalled⟩
  · rintro ⟨s, hcalled⟩
    exact ⟨(s, Text.trim name), hcalled, rfl⟩

/-- Where there is something to request, the first function that is not known is reported, as it was written. -/
theorem requestAll_eq_error_iff {e : Error} : requestAll functions columns = .error e ↔
    (functions = [] ∧ e = .noFunctions) ∨ ∃ before name after, functions = before ++ name :: after ∧
      (∀ n ∈ before, Statistic.IsKnown n) ∧ ¬ Statistic.IsKnown name ∧ e = .unknownFunction name := by
  have hlabelled : labelled functions = .error e ↔ ∃ before name after, functions = before ++ name :: after ∧
      (∀ n ∈ before, Statistic.IsKnown n) ∧ ¬ Statistic.IsKnown name ∧ e = .unknownFunction name := by
    rw [labelled_eq_mapM, mapM_eq_error_iff]
    simp only [labelOf_eq_error_iff, exists_labelOf_iff, Statistic.ofName?_eq_none_iff_not_isKnown]
  rw [← hlabelled]
  unfold requestAll
  cases functions with
  | nil => simp [labelled, eq_comm]
  | cons name rest =>
    rw [if_neg (by simp)]
    cases labelled (name :: rest) <;> simp

end Aggregate

/-! ## What the checks report

Every check but that of the output names reports something else than a taken name, whatever the tables are.
-/

/-- What is reported of a table that lacks a column, cannot be built, or does not admit an operation. -/
inductive Error.IsOfTable : Error → Prop where
  | missing (role : TableRole) (name : String) : IsOfTable (.column role name .missing)
  | frame (fault : FrameFault) : IsOfTable (.frame fault)
  | operation (fault : OperationFault) : IsOfTable (.operation fault)

/-- A field that does not convert is reported of its table. -/
theorem Field.isOfTable_of_toColumn {field : Field} {e : Error} (h : field.toColumn = .error e) : e.IsOfTable := by
  rw [toColumn_eq] at h
  split at h <;> cases h
  exact .frame _

namespace Table

variable {t : Table} {name : String} {e : Error}

theorem isOfTable_of_column? (h : t.column? name = .error e) : e.IsOfTable := by
  cases t with
  | frame f => cases h
  | batch b =>
    rw [column?_batch] at h
    split at h
    · cases h
    · next field _ =>
      cases hcolumn : field.toColumn with
      | ok c =>
        rw [hcolumn] at h
        cases h
      | error e' =>
        rw [hcolumn] at h
        cases h
        exact Field.isOfTable_of_toColumn hcolumn

theorem isOfTable_of_columnType? (h : t.columnType? name = .error e) : e.IsOfTable := by
  unfold columnType? at h
  split at h
  · cases h
  · next hcolumn =>
    cases h
    exact isOfTable_of_column? hcolumn

theorem isOfTable_of_require {role : TableRole} (h : t.require role name = .error e) : e.IsOfTable := by
  unfold require at h
  split at h
  · cases h
  · cases h
    exact .missing role name
  · next hcolumn =>
    cases h
    exact isOfTable_of_column? hcolumn

theorem isOfTable_of_ofColumns? {columns : List Column} (h : Frame.ofColumns? columns = .error e) : e.IsOfTable := by
  unfold Frame.ofColumns? at h
  split at h
  · split at h <;> cases h
    exact .operation _
  · cases h
    exact .operation _

theorem isOfTable_of_select {names : List String} (h : t.select names = .error e) : e.IsOfTable := by
  unfold select at h
  split at h
  · exact isOfTable_of_ofColumns? h
  · next hcolumns =>
    cases h
    obtain ⟨n, -, hcolumn⟩ := exists_of_mapM_eq_error hcolumns
    exact isOfTable_of_require hcolumn

theorem isOfTable_of_toFrame (h : t.toFrame = .error e) : e.IsOfTable := by
  cases t with
  | frame f => cases h
  | batch b => exact isOfTable_of_select h

theorem isOfTable_of_columnFor {f : Frame} (h : f.columnFor name = .error e) : e.IsOfTable := by
  unfold Frame.columnFor Frame.columnOr at h
  split at h
  · split at h <;> cases h
    exact .operation _
  · split at h <;> cases h
    exact .operation _

theorem isOfTable_of_truth {f : Frame} {condition : Condition} (h : condition.truth f = .error e) : e.IsOfTable := by
  induction condition generalizing e with
  | compares column comparison value =>
    unfold Condition.truth at h
    split at h
    · next hcolumn =>
      cases h
      exact isOfTable_of_columnFor hcolumn
    · split at h <;> cases h
      exact .operation _
  | isAbsent column =>
    unfold Condition.truth at h
    split at h <;> cases h
    next hcolumn => exact isOfTable_of_columnFor hcolumn
  | isPresent column =>
    unfold Condition.truth at h
    split at h <;> cases h
    next hcolumn => exact isOfTable_of_columnFor hcolumn
  | either first second ihfirst ihsecond =>
    unfold Condition.truth at h
    split at h
    · next hfirst =>
      cases h
      exact ihfirst hfirst
    · split at h <;> cases h
      next hsecond => exact ihsecond hsecond

theorem isOfTable_of_rowsWhere {condition : Condition} (h : t.rowsWhere condition = .error e) : e.IsOfTable := by
  unfold rowsWhere at h
  split at h
  · next hframe =>
    cases h
    exact isOfTable_of_toFrame hframe
  · split at h <;> cases h
    next htruth => exact isOfTable_of_truth htruth

end Table

/-- What is reported is not that the name of an output column is taken. -/
def Error.IsOfInput (e : Error) : Prop := ∀ role name, e ≠ .column role name .outputNameTaken

/-- What is reported of a table is reported of the input. -/
theorem Error.IsOfTable.isOfInput {e : Error} (h : e.IsOfTable) : e.IsOfInput := by
  intro role name
  cases h <;> simp

theorem Sample.isOfInput_of_checkIdentifiers {sample : Table} {e : Error} (h : checkIdentifiers sample = .error e) :
    e.IsOfInput := by
  unfold checkIdentifiers at h
  split at h
  · next hids =>
    cases h
    exact (Table.isOfTable_of_require hids).isOfInput
  · intro role name
    repeat' split at h
    all_goals cases h
    all_goals simp

theorem Sample.isOfInput_of_checkIdSpace {sample : Table} {idSpace : String} {e : Error}
    (h : checkIdSpace sample idSpace = .error e) : e.IsOfInput := by
  unfold checkIdSpace at h
  split at h
  · next htype =>
    cases h
    exact (Table.isOfTable_of_columnType? htype).isOfInput
  · cases h
  · split at h
    · next hrows =>
      cases h
      exact (Table.isOfTable_of_rowsWhere hrows).isOfInput
    · split at h <;> cases h
      intro role name
      simp
  · cases h
    intro role name
    simp

/-- What is reported of a sample is reported of the input. -/
theorem Sample.isOfInput_of_check {sample : Table} {idSpace : String} {e : Error}
    (h : check sample idSpace = .error e) : e.IsOfInput := by
  unfold check at h
  split at h
  · next hids =>
    cases h
    exact isOfInput_of_checkIdentifiers hids
  · exact isOfInput_of_checkIdSpace h

namespace Characteristics

variable {characteristics : Table} {e : Error}

theorem isOfInput_of_checkVariables {vars : List String} (h : checkVariables characteristics vars = .error e) :
    e.IsOfInput := by
  unfold checkVariables at h
  split at h
  · next found hfound =>
    cases h
    obtain ⟨name, -, hname⟩ := List.exists_of_findSome?_eq_some hfound
    obtain ⟨fault, hfault, hsame⟩ := Option.map_eq_some_iff.1 hname
    cases hsame
    intro role name'
    unfold variableFault? at hfault
    repeat' split at hfault
    all_goals cases hfault
    all_goals simp
  · cases h

/-- What is reported of characteristics is reported of the input. -/
theorem isOfInput_of_check {vars : List String} (h : check characteristics vars = .error e) : e.IsOfInput := by
  unfold check at h
  split at h
  · next hids =>
    cases h
    exact (Table.isOfTable_of_require hids).isOfInput
  · split at h
    · exact isOfInput_of_checkVariables h
    · cases h
      intro role name
      simp

theorem isOfInput_of_checkTypes {aggregates : List Aggregate} (h : checkTypes characteristics aggregates = .error e) :
    e.IsOfInput := by
  induction aggregates with
  | nil => cases h
  | cons a rest ih =>
    unfold checkTypes at h
    split at h
    · next htype =>
      cases h
      exact (Table.isOfTable_of_columnType? htype).isOfInput
    · dsimp only at h
      split at h
      · exact ih h
      · cases h
        intro role name
        simp

end Characteristics

/-- What is reported of the functions is reported of the input. -/
theorem Aggregate.isOfInput_of_requestAll {functions columns : List String} {e : Error}
    (h : requestAll functions columns = .error e) : e.IsOfInput := by
  intro role name
  rcases requestAll_eq_error_iff.1 h with ⟨-, rfl⟩ | ⟨-, -, -, -, -, -, rfl⟩ <;> simp

/-! ## The names of the output -/

namespace Request

/-- Different names pass exactly where none of them was taken before. -/
theorem checkNames_eq_ok_iff_of_nodup {taken names : List String} (hnodup : names.Nodup) :
    checkNames taken names = .ok () ↔ ∀ name ∈ names, name ∉ taken := by
  rw [checkNames_eq_ok_iff, and_iff_right hnodup]

/-- Of different names, the one that is refused was taken before. -/
theorem exists_of_checkNames {taken names : List String} {e : Error} (hnodup : names.Nodup)
    (h : checkNames taken names = .error e) :
    ∃ name ∈ names, name ∈ taken ∧ e = .column .sample name .outputNameTaken := by
  induction names generalizing taken with
  | nil => cases h
  | cons name rest ih =>
    obtain ⟨hname, hrest⟩ := List.nodup_cons.1 hnodup
    unfold checkNames at h
    split at h
    · next htaken =>
      cases h
      exact ⟨name, List.mem_cons_self, htaken, rfl⟩
    · obtain ⟨other, hother, htaken, rfl⟩ := ih hrest h
      have hne : other ≠ name := fun heq => hname (heq ▸ hother)
      exact ⟨other, List.mem_cons_of_mem _ hother, List.mem_of_ne_of_mem hne htaken, rfl⟩

/-- An output column that a request is refused for is a column of the sample. -/
theorem mem_names_of_check {r : Request} {name : String}
    (h : r.check = .error (.column .sample name .outputNameTaken)) :
    name ∈ r.sample.names := by
  rcases bind_eq_error_iff.1 h with hquery | ⟨q, hquery, h⟩
  · obtain ⟨cause, -, ⟨⟩⟩ := Error.ofQuery_eq_error_iff.1 hquery
  rcases bind_eq_error_iff.1 h with hsample | ⟨-, -, h⟩
  · exact absurd rfl (Sample.isOfInput_of_check hsample _ _)
  rcases bind_eq_error_iff.1 h with hcharacteristics | ⟨-, -, h⟩
  · exact absurd rfl (Characteristics.isOfInput_of_check hcharacteristics _ _)
  rcases bind_eq_error_iff.1 h with hrequest | ⟨aggregates, hrequest, h⟩
  · exact absurd rfl (Aggregate.isOfInput_of_requestAll hrequest _ _)
  rcases bind_eq_error_iff.1 h with htypes | ⟨-, -, h⟩
  · exact absurd rfl (Characteristics.isOfInput_of_checkTypes htypes _ _)
  rcases bind_eq_error_iff.1 h with hnames | ⟨-, -, h⟩
  · -- The variables of a query differ, so the output columns do.
    obtain ⟨-, hnodup, -⟩ := Query.vars_of_ofText (Error.ofQuery_eq_ok_iff.1 hquery)
    obtain ⟨_, -, htaken, ⟨⟩⟩ := exists_of_checkNames (Aggregate.nodup_outputNames hrequest hnodup) hnames
    exact htaken
  · cases h

end Request

/-! ## Functions by name -/

namespace Aggregate

/-- A request for a mean that is already a column of the sample. -/
def meanTwice : Request where
  query := "sample -> Family[301] -> [Income]"
  sample := .frame ⟨[.ofLongs ColumnName.person [IntType.i64.wrap 1], ⟨"Mean_Income", .null, [none]⟩],
    by decide, by decide⟩
  characteristics := .frame ⟨[.ofLongs ColumnName.person [], .ofLongs "Income" []], by decide, by decide⟩
  options := { functions := ["avg", "AVG", " Mean "] }

end Aggregate

end TieWalk
