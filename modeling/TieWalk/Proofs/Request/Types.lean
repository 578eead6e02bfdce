import TieWalk.Proofs.Request.Success
import TieWalk.Proofs.Table.Crossing

/-!
# The types of aggregates

What type the column of an aggregate has is read off the names and types of the characteristics. The sample, the
relation files and the cells of either table have no part in it: a column that nobody reaches, or that has no value, is
of the type that it would have been of otherwise.
-/

namespace TieWalk

/-! ## What is known without cells -/

/-- The type of a statistic of a column: a column without values is one of doubles, and what is narrower than 32 bits is
summed up to long words. -/
def Statistic.outputType : Statistic → ColumnType → ColumnType
  | .mean, _ | .deviation, _ => .float64
  | .count, _ => .long
  | .sum, .int .i8 | .sum, .int .i16 | .sum, .int .u8 | .sum, .int .u16 => .long
  | .sum, t | .least, t | .greatest, t => if t = .null then .float64 else t

/-- The names and types of a table's columns. -/
inductive Schema where
  | frame (columns : List (String × ColumnType))
  | batch (fields : List (String × FieldType))
  deriving DecidableEq

/-- The type of a column as a walk reads it: the type of a frame's column, and of a record batch's the normal one. -/
def Schema.type? : Schema → String → Option ColumnType
  | .frame columns, name => columns.lookup name
  | .batch fields, name => (fields.lookup name).map fun t => t.plain.normalized

/-- What is known of a table without its cells. -/
def Table.schema : Table → Schema
  | .frame f => .frame (f.columns.map fun c => (c.name, c.type))
  | .batch b => .batch (b.fields.map fun field => (field.name, field.type))

/-- A column has the name of an aggregate and the type that the schema of the characteristics gives it. -/
def Aggregate.IsTyped (schema : Schema) (a : Aggregate) (d : Column) : Prop :=
  d.name = a.outputName ∧ ∃ type, schema.type? a.column = some type ∧ d.type = a.statistic.outputType type

/-- An answer is a frame of the sample's columns and of these. -/
def Request.Adds (r : Request) (o : Outcome) (columns : List Column) : Prop :=
  ∃ f t, r.sample.toFrame = .ok f ∧ o.table = .frame t ∧ t.columns = f.columns ++ columns

/-! ## Types are read off a schema -/

theorem lookup_map_eq_find? {α β : Type} (l : List α) (key : α → String) (value : α → β) (name : String) :
    (l.map fun x => (key x, value x)).lookup name = (l.find? fun x => key x == name).map value := by
  induction l with
  | nil => rfl
  | cons x rest ih =>
    rw [List.map_cons, List.lookup_cons, List.find?_cons, ih, Bool.beq_comm]
    cases key x == name <;> rfl

/-- A column that is read has the type that the schema says. -/
theorem Table.type?_of_column? {t : Table} {name : String} {c : Column} (h : t.column? name = .ok (some c)) :
    t.schema.type? name = some c.type := by
  cases t with
  | frame f =>
    have hc : f.column? name = some c := Except.ok.inj h
    exact (lookup_map_eq_find? _ _ _ _).trans (congrArg (Option.map Column.type) hc)
  | batch b =>
    obtain ⟨field, hfield, hnormal⟩ := column?_batch_eq_ok_iff.1 h
    have htype : (b.fields.map fun field => (field.name, field.type)).lookup name = some field.type := by
      rw [lookup_map_eq_find?]
      exact congrArg (Option.map Field.type) hfield
    show Option.map _ _ = _
    rw [htype, Option.map_some, (Column.isNormalOf_of_normal? hnormal).type]
    rfl

/-- A statistic that accepts a column has the type that it has of the column's type. -/
theorem Statistic.resultType_nullAsFloat {s : Statistic} {c : Column} (h : s.accepts c.type = true) :
    s.resultType c.nullAsFloat.type = s.outputType c.type := by
  rw [Column.type_nullAsFloat]
  generalize c.type = type at h ⊢
  cases s with
  | mean | deviation | count => rfl
  | least | greatest => rfl
  -- A sum of truth values would be a count, but it is not accepted.
  | sum =>
    cases type with
    | int t => cases t <;> rfl
    | _ => first | rfl | cases h

/-- Columns of the same aggregates by the same schema have the same names and types. -/
theorem map_type_of_isTyped {schema : Schema} {aggregates : List Aggregate} {columns columns' : List Column}
    (h : List.Forall₂ (Aggregate.IsTyped schema) aggregates columns)
    (h' : List.Forall₂ (Aggregate.IsTyped schema) aggregates columns') :
    columns'.map (fun d => (d.name, d.type)) = columns.map fun d => (d.name, d.type) := by
  induction h generalizing columns' with
  | nil =>
    cases h'
    rfl
  | cons had _ ih =>
    cases h' with
    | cons had' hrest =>
      obtain ⟨hname, type, htype, hd⟩ := had
      obtain ⟨hname', type', htype', hd'⟩ := had'
      rw [htype] at htype'
      cases htype'
      rw [List.map_cons, List.map_cons, ih hrest, hname, hname', hd, hd']

namespace Request

variable {r r' : Request} {store store' : Store}

/-- An answer in frames adds to the sample a column for each aggregate, of the type that the schema says. -/
theorem exists_isTyped_of_run {o : Outcome} (h : r.run store = .ok o) (hframe : r.options.output = .frame) :
    ∃ checked columns, r.check = .ok checked ∧ r.Adds o columns ∧
      List.Forall₂ (Aggregate.IsTyped r.characteristics.schema) checked.aggregates columns := by
  obtain ⟨checked, f, attached, columns, hcheck, hf, htable, -, -, hcolumns, hforall⟩ := exists_beside_of_run h
  rw [hframe] at htable
  refine ⟨checked, columns, hcheck, ⟨f, attached, hf, (Except.ok.inj htable).symm, hcolumns⟩, ?_⟩
  refine ((List.forall₂_and_left _ _).2 ⟨fun a ha => ha, hforall⟩).imp ?_
  rintro a d ⟨ha, c, how, reached, hc, rfl⟩
  exact ⟨rfl, c.type, Table.type?_of_column? hc,
    Statistic.resultType_nullAsFloat ((holds_of_check hcheck).accepts a ha c hc)⟩

/-- What is added to the sample is read off the answer. -/
theorem Adds.unique {o : Outcome} {columns columns' : List Column} (h : r.Adds o columns) (h' : r.Adds o columns') :
    columns' = columns := by
  obtain ⟨f, t, hf, ht, hcolumns⟩ := h
  obtain ⟨f', t', hf', ht', hcolumns'⟩ := h'
  rw [hf] at hf'
  cases hf'
  rw [ht] at ht'
  cases ht'
  exact List.append_cancel_left (hcolumns'.symm.trans hcolumns)

/-- The same query and functions, fit for the tables of two requests, are the same query and aggregates. -/
theorem checked_eq_of_same {checked checked' : Checked} (h : r.check = .ok checked) (h' : r'.check = .ok checked')
    (hquery : r'.query = r.query) (hfunctions : r'.options.functions = r.options.functions) : checked' = checked := by
  obtain ⟨hq, -, -, ha, -⟩ := check_eq_ok_iff.1 h
  obtain ⟨hq', -, -, ha', -⟩ := check_eq_ok_iff.1 h'
  obtain ⟨query, aggregates⟩ := checked
  obtain ⟨query', aggregates'⟩ := checked'
  rw [hquery, hq] at hq'
  cases hq'
  rw [hfunctions, ha] at ha'
  cases ha'
  rfl

/-- What an answer in frames adds to the sample is typed by the schema of the characteristics: doubles for means and
deviations, long words for counts and for sums of numbers narrower than 32 bits, and otherwise the type of the column,
or doubles if it has no values. Whatever the samples, the files and the cells, the same query and functions over the
same schema add columns of the same names and types. -/
theorem types_follow_schema {o : Outcome} (h : r.run store = .ok o) (hframe : r.options.output = .frame) :
    (∃ checked columns, r.check = .ok checked ∧ r.Adds o columns ∧
      List.Forall₂ (Aggregate.IsTyped r.characteristics.schema) checked.aggregates columns) ∧
    ∀ {r' : Request} {store' : Store} {o' : Outcome} {columns columns' : List Column}, r'.run store' = .ok o' →
      r'.options.output = .frame → r'.query = r.query → r'.options.functions = r.options.functions →
      r'.characteristics.schema = r.characteristics.schema → r.Adds o columns → r'.Adds o' columns' →
      columns'.map (fun d => (d.name, d.type)) = columns.map fun d => (d.name, d.type) := by
  refine ⟨exists_isTyped_of_run h hframe, fun {r' _ _ _ _} h' hframe' hquery hfunctions hschema hadds hadds' => ?_⟩
  obtain ⟨checked, columns, hcheck, hcolumns, htyped⟩ := exists_isTyped_of_run h hframe
  obtain ⟨checked', columns', hcheck', hcolumns', htyped'⟩ := exists_isTyped_of_run h' hframe'
  cases checked_eq_of_same hcheck hcheck' hquery hfunctions
  rw [hschema] at htyped'
  rw [hcolumns.unique hadds, hcolumns'.unique hadds']
  exact map_type_of_isTyped htyped htyped'

/-- Persons without anything but their identifiers. -/
def bare (persons : List Int) : Frame :=
  ⟨[.ofNumbers ColumnName.person persons], by simp, by simp [heightOf]⟩

/-- A parent's income, and a column without values. -/
def sparseIncome (income : Option IntType.i32.Value) : Frame :=
  ⟨[.ofNumbers ColumnName.person [10], ⟨"Income", .int .i32, [income]⟩, ⟨"Wealth", .null, [none]⟩],
    by simp [Column.ofNumbers, Column.ofLongs, ColumnName.person],
    by simp [Column.ofNumbers, Column.ofLongs, Column.height, heightOf]⟩

/-- A request for the incomes of the parents of some persons. -/
def sparseParents (persons : List Int) (income : Option IntType.i32.Value) : Request where
  query := "[Income, Wealth] -> Family[301] -> sample"
  sample := .frame (bare persons)
  characteristics := .frame (sparseIncome income)
  options := { base := "data", format := .csv, functions := ["avg", "sum", "count"] }

/-- An answer about a person with a parent's income has the types of an answer about nobody from an income that is
absent. -/
theorem sparseParents_types : ∃ o o' columns columns',
    (sparseParents [1] (some (IntType.i32.wrap 7))).run oneParent = .ok o ∧
    (sparseParents [] none).run oneParent = .ok o' ∧ o.reached = 1 ∧ o'.reached = 0 ∧
    (sparseParents [1] (some (IntType.i32.wrap 7))).Adds o columns ∧ (sparseParents [] none).Adds o' columns' ∧
    columns.map (fun d => (d.name, d.type)) =
    [("avg_Income", .float64), ("avg_Wealth", .float64), ("sum_Income", .int .i32),
      ("sum_Wealth", .float64), ("count_Income", .long), ("count_Wealth", .long)] ∧
    columns'.map (fun d => (d.name, d.type)) = columns.map fun d => (d.name, d.type) := by
  have hreached : ((sparseParents [1] (some (IntType.i32.wrap 7))).run oneParent).map
    (fun o => (o.reached, o.table.schema)) =
      .ok (1, .frame [(ColumnName.person, .long), ("avg_Income", .float64), ("avg_Wealth", .float64),
        ("sum_Income", .int .i32), ("sum_Wealth", .float64), ("count_Income", .long), ("count_Wealth", .long)]) := by
    decide +kernel
  have hunreached : ((sparseParents [] none).run oneParent).map (fun o => o.reached) = .ok 0 := by decide +kernel
  cases hrun : (sparseParents [1] (some (IntType.i32.wrap 7))).run oneParent with
  | error e =>
    rw [hrun] at hreached
    cases hreached
  | ok o =>
    cases hrun' : (sparseParents [] none).run oneParent with
    | error e =>
      rw [hrun'] at hunreached
      cases hunreached
    | ok o' =>
      obtain ⟨⟨-, columns, -, hadds, -⟩, hsame⟩ := types_follow_schema hrun rfl
      obtain ⟨⟨-, columns', -, hadds', -⟩, -⟩ := types_follow_schema hrun' rfl
      rw [hrun] at hreached
      rw [hrun'] at hunreached
      obtain ⟨hone, hschema⟩ := Prod.mk.inj (Except.ok.inj hreached)
      refine ⟨o, o', columns, columns', rfl, rfl, hone, Except.ok.inj hunreached, hadds, hadds', ?_,
        hsame hrun' rfl rfl rfl rfl hadds hadds'⟩
      obtain ⟨f, t, hf, ht, hcolumns⟩ := hadds
      cases hf
      rw [ht, Table.schema, hcolumns, List.map_append] at hschema
      exact List.append_cancel_left (Schema.frame.inj hschema)

end Request

end TieWalk
