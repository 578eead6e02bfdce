import TieWalk.Proofs.Aggregate.Requested
import TieWalk.Proofs.Query.Words
import TieWalk.Proofs.Table.Frames
import TieWalk.Request.Check

/-!
# What the checks of a request establish

Each check says what it takes to pass it, and `Request.Checked.Holds` is what they say together about a request that
passes all of them. What comes after the checks relies on nothing else.
-/

namespace TieWalk

/-! ## The sample -/

namespace Sample

variable {sample : Table} {idSpace : String}

/-- A sample has identifiers if there is a column of integers for them, all present, and the name of the keys is free.
-/
theorem checkIdentifiers_eq_ok_iff : checkIdentifiers sample = .ok () ↔
    ∃ ids, sample.column? ColumnName.person = .ok (some ids) ∧ ids.type.isInteger = true ∧ ids.nullCount = 0 ∧
      ColumnName.samplePerson ∉ sample.names := by
  unfold checkIdentifiers
  cases hids : sample.require .sample ColumnName.person with
  | error e =>
    constructor
    · intro h
      cases h
    · rintro ⟨ids, hcolumn, -⟩
      rw [Table.require_eq_ok_iff.2 hcolumn] at hids
      cases hids
  | ok ids =>
    have hcolumn := Table.require_eq_ok_iff.1 hids
    rw [← Table.hasColumn_iff]
    simp only [hcolumn, Except.ok.injEq, Option.some.injEq, exists_eq_left']
    cases htype : ids.type.isInteger with
    | false => simp
    | true =>
      by_cases hnull : 0 < ids.nullCount
      · simp only [Bool.not_true, Bool.false_eq_true, if_false, if_pos hnull]
        constructor
        · intro h
          cases h
        · rintro ⟨-, h, -⟩
          omega
      · have hzero : ids.nullCount = 0 := by omega
        cases sample.hasColumn ColumnName.samplePerson <;> simp [hzero]

theorem checkIdentifiers_of_check (h : check sample idSpace = .ok ()) : checkIdentifiers sample = .ok () := by
  unfold check at h
  split at h
  · cases h
  · next hids => exact hids

/-- The persons of a sample are the different numbers among its identifiers. -/
theorem persons_eq_ok {ids : Column} (h : sample.column? ColumnName.person = .ok (some ids)) :
    persons sample = .ok (ids.longs.filterMap id).eraseDups := by
  unfold persons
  rw [Table.require_eq_ok_iff.2 h]

end Sample

/-! ## The characteristics -/

namespace Characteristics

variable {characteristics : Table} {vars : List String}

/-- Nothing is wrong with a variable that is a column of the characteristics and no identifier. -/
theorem variableFault?_eq_none_iff {name : String} : variableFault? characteristics name = none ↔
    name ≠ ColumnName.person ∧ name ≠ ColumnName.samplePerson ∧ name ∈ characteristics.names := by
  rw [← Table.hasColumn_iff]
  unfold variableFault?
  by_cases hperson : name = ColumnName.person
  · simp [hperson]
  · by_cases hsample : name = ColumnName.samplePerson
    · simp [hsample]
    · cases characteristics.hasColumn name <;> simp [hperson, hsample]

/-- Variables pass exactly when nothing is wrong with any of them. -/
theorem checkVariables_eq_ok_iff : checkVariables characteristics vars = .ok () ↔
    ∀ name ∈ vars, name ≠ ColumnName.person ∧ name ≠ ColumnName.samplePerson ∧ name ∈ characteristics.names := by
  have hall : (vars.findSome? fun name => (variableFault? characteristics name).map fun fault => (name, fault)) = none ↔
      ∀ name ∈ vars, name ≠ ColumnName.person ∧ name ≠ ColumnName.samplePerson ∧ name ∈ characteristics.names := by
    rw [List.findSome?_eq_none_iff]
    simp only [Option.map_eq_none_iff, variableFault?_eq_none_iff]
  unfold checkVariables
  rw [← hall]
  split
  · next h => simp [h]
  · next h => simp [h]

/-- Characteristics pass with integers as identifiers and with all variables. -/
theorem check_eq_ok_iff : check characteristics vars = .ok () ↔
    (∃ ids, characteristics.column? ColumnName.person = .ok (some ids) ∧
      (ids.type.isInteger = true ∨ ids.type = .null)) ∧
      ∀ name ∈ vars, name ≠ ColumnName.person ∧ name ≠ ColumnName.samplePerson ∧ name ∈ characteristics.names := by
  rw [← checkVariables_eq_ok_iff]
  unfold check
  cases hids : characteristics.require .characteristics ColumnName.person with
  | error e =>
    constructor
    · intro h
      cases h
    · rintro ⟨⟨ids, hcolumn, -⟩, -⟩
      rw [Table.require_eq_ok_iff.2 hcolumn] at hids
      cases hids
  | ok ids =>
    simp only [Table.require_eq_ok_iff.1 hids, Except.ok.injEq, Option.some.injEq, exists_eq_left']
    by_cases htype : ids.type.isInteger = true ∨ ids.type = .null
    · rw [if_pos (by simpa using htype)]
      exact ⟨fun h => ⟨htype, h⟩, fun h => h.2⟩
    · rw [if_neg (by simpa using htype)]
      constructor
      · intro h
        cases h
      · exact fun h => absurd h.1 htype

/-- Types pass exactly when each aggregate accepts that of its column. -/
theorem checkTypes_eq_ok_iff {aggregates : List Aggregate} : checkTypes characteristics aggregates = .ok () ↔
    ∀ a ∈ aggregates, ∃ type, characteristics.columnType? a.column = .ok type ∧
      a.statistic.accepts (type.getD .null) = true := by
  induction aggregates with
  | nil => simp [checkTypes]
  | cons a rest ih =>
    rw [List.forall_mem_cons, ← ih, checkTypes]
    cases htype : characteristics.columnType? a.column with
    | error e => simp
    | ok type =>
      simp only [Except.ok.injEq, exists_eq_left']
      cases haccepts : a.statistic.accepts (type.getD .null) <;> simp

theorem columnType?_eq_ok_iff {name : String} {type : Option ColumnType} : characteristics.columnType? name = .ok type ↔
    ∃ c, characteristics.column? name = .ok c ∧ type = c.map Column.type := by
  unfold Table.columnType?
  cases characteristics.column? name <;> simp [eq_comm]

end Characteristics

/-! ## The names of the output -/

/-- Names pass that differ and are not taken. -/
theorem Request.checkNames_eq_ok_iff {taken names : List String} :
    checkNames taken names = .ok () ↔ names.Nodup ∧ ∀ name ∈ names, name ∉ taken := by
  induction names generalizing taken with
  | nil => simp [checkNames]
  | cons name rest ih =>
    rw [checkNames]
    by_cases h : name ∈ taken
    · rw [if_pos h]
      constructor
      · intro h
        cases h
      · exact fun hall => absurd h (hall.2 name List.mem_cons_self)
    · rw [if_neg h, ih, List.nodup_cons]
      constructor
      · rintro ⟨hnodup, hfree⟩
        refine ⟨⟨fun hmem => hfree name hmem List.mem_cons_self, hnodup⟩, fun n hn => ?_⟩
        rcases List.mem_cons.1 hn with rfl | hn
        · exact h
        · exact fun hmem => hfree n hn (List.mem_cons_of_mem _ hmem)
      · rintro ⟨⟨hname, hnodup⟩, hfree⟩
        refine ⟨hnodup, fun n hn hmem => ?_⟩
        rcases List.mem_cons.1 hmem with rfl | hmem
        · exact hname hn
        · exact hfree n (List.mem_cons_of_mem _ hn) hmem

/-! ## The whole request -/

theorem Error.ofQuery_eq_ok_iff {α : Type} {x : Except QueryFault α} {a : α} : ofQuery x = .ok a ↔ x = .ok a := by
  unfold ofQuery
  cases x <;> simp

theorem Error.ofQuery_eq_error_iff {α : Type} {x : Except QueryFault α} {e : Error} :
    ofQuery x = .error e ↔ ∃ cause, x = .error cause ∧ e = .query cause := by
  unfold ofQuery
  cases x <;> simp [eq_comm]

namespace Request

/-- A request passes exactly when each of its checks does. -/
theorem check_eq_ok_iff {r : Request} {checked : Checked} : r.check = .ok checked ↔
    Query.ofText r.query = .ok checked.query ∧ Sample.check r.sample r.options.idSpace = .ok () ∧
      Characteristics.check r.characteristics checked.query.vars = .ok () ∧
      Aggregate.requestAll r.options.functions checked.query.vars = .ok checked.aggregates ∧
      Characteristics.checkTypes r.characteristics checked.aggregates = .ok () ∧
      checkNames r.sample.names (checked.aggregates.map Aggregate.outputName) = .ok () := by
  unfold check
  simp only [bind_eq_ok_iff, Error.ofQuery_eq_ok_iff]
  constructor
  · rintro ⟨q, hq, ⟨⟩, hsample, ⟨⟩, hcharacteristics, found, hrequest, ⟨⟩, htypes, ⟨⟩, hnames, h⟩
    cases h
    exact ⟨hq, hsample, hcharacteristics, hrequest, htypes, hnames⟩
  · rintro ⟨hq, hsample, hcharacteristics, hrequest, htypes, hnames⟩
    exact ⟨_, hq, (), hsample, (), hcharacteristics, _, hrequest, (), htypes, (), hnames, rfl⟩

/-- A request gives the tokens of the query that its checks pass on. -/
theorem tokens_eq_ok_iff {r : Request} {ts : List String} :
    r.tokens = .ok ts ↔ ∃ checked, r.check = .ok checked ∧ ts = checked.query.tokens := by
  unfold tokens
  cases r.check <;> simp [eq_comm]

/-- No tokens are given for the one reason that a check refuses. -/
theorem tokens_eq_error_iff {r : Request} {e : Error} : r.tokens = .error e ↔ r.check = .error e := by
  unfold tokens
  cases r.check <;> simp

/-- What the checks establish about a request that passes them. -/
structure Checked.Holds (checked : Checked) (r : Request) : Prop where
  /-- Identifiers of the sample are integers, and all present. -/
  sampleIds : ∃ ids, r.sample.column? ColumnName.person = .ok (some ids) ∧ ids.type.isInteger = true ∧ ids.nullCount = 0
  samplePerson_free : ColumnName.samplePerson ∉ r.sample.names
  ids : ∃ ids, r.characteristics.column? ColumnName.person = .ok (some ids) ∧
    (ids.type.isInteger = true ∨ ids.type = .null)
  vars_nodup : checked.query.vars.Nodup
  /-- A variable is a column of the characteristics that can be read, no identifier, and no name for every column. -/
  of_mem_vars : ∀ name ∈ checked.query.vars, name ≠ ColumnName.person ∧ name ≠ ColumnName.samplePerson ∧
    name ≠ Frame.everyColumn ∧
    ∃ c, r.characteristics.column? name = .ok (some c)
  aggregated : ∀ name ∈ checked.query.vars, ∃ a ∈ checked.aggregates, a.column = name
  of_mem_aggregates : ∀ a ∈ checked.aggregates, a.column ∈ checked.query.vars ∧ a.IsLabelled
  accepts : ∀ a ∈ checked.aggregates, ∀ c, r.characteristics.column? a.column = .ok (some c) →
    a.statistic.accepts c.type = true
  outputNames_nodup : (checked.aggregates.map Aggregate.outputName).Nodup
  outputNames_free : ∀ a ∈ checked.aggregates, a.outputName ∉ r.sample.names

/-- A request that passes the checks is as they say. -/
theorem holds_of_check {r : Request} {checked : Checked} (h : r.check = .ok checked) : checked.Holds r := by
  obtain ⟨hquery, hsample, hcharacteristics, hrequest, htypes, hnames⟩ := check_eq_ok_iff.1 h
  obtain ⟨-, hnodup, hword⟩ := Query.vars_of_ofText hquery
  obtain ⟨ids, hids, hinteger, hnull, hfree⟩ :=
    Sample.checkIdentifiers_eq_ok_iff.1 (Sample.checkIdentifiers_of_check hsample)
  obtain ⟨hpersons, hvars⟩ := Characteristics.check_eq_ok_iff.1 hcharacteristics
  have htypes := Characteristics.checkTypes_eq_ok_iff.1 htypes
  obtain ⟨houtputs, hapart⟩ := checkNames_eq_ok_iff.1 hnames
  have haggregated : ∀ name ∈ checked.query.vars, ∃ a ∈ checked.aggregates, a.column = name :=
    fun name hname => Aggregate.exists_of_requestAll hrequest hname
  refine
    { sampleIds := ⟨ids, hids, hinteger, hnull⟩
      samplePerson_free := hfree
      ids := hpersons
      vars_nodup := hnodup
      of_mem_vars := fun name hname => ?_
      aggregated := haggregated
      of_mem_aggregates := fun a ha => Aggregate.of_mem_requestAll hrequest ha
      accepts := fun a ha c hc => ?_
      outputNames_nodup := houtputs
      outputNames_free := fun a ha => hapart _ (List.mem_map_of_mem ha) }
  · obtain ⟨hperson, hsamplePerson, hcolumn⟩ := hvars name hname
    refine ⟨hperson, hsamplePerson, (hword name hname).ne_everyColumn, ?_⟩
    -- That the column can be read is known from the check of its type: the name alone could be that of a field that
    -- cannot.
    obtain ⟨a, ha, rfl⟩ := haggregated name hname
    obtain ⟨type, htype, -⟩ := htypes a ha
    obtain ⟨c, hc, -⟩ := Characteristics.columnType?_eq_ok_iff.1 htype
    cases c with
    | none => exact absurd hcolumn (Table.column?_eq_none_iff.1 hc)
    | some c => exact ⟨c, hc⟩
  · obtain ⟨type, htype, haccepts⟩ := htypes a ha
    obtain ⟨c', hc', rfl⟩ := Characteristics.columnType?_eq_ok_iff.1 htype
    rw [hc] at hc'
    cases hc'
    exact haccepts

end Request

end TieWalk
