import TieWalk.Proofs.Aggregate.Exact
import TieWalk.Proofs.Request.Success

/-!
# What a request means

An answer is the sample with a column for each function of each variable beside it. A cell of such a column is the
statistic of the variable over the persons to whom a chain of ties leads from the row's person, however many chains
there are and however often the person stands in the sample. `Request.IsAnswer` says so of a table, without a word about
pairs, joins or groups, and `Statistic.IsOf` says what the statistics are.
-/

namespace TieWalk

/-- The rows of the persons to whom chains lead from a person, each once. -/
structure IsReach (store : Store) (located : LocatedPlan) (rowIds : Column) (e : Person) (rows : List Nat) : Prop where
  nodup : rows.Nodup
  mem_iff : ∀ i, i ∈ rows ↔ ∃ a, Chain store located.format located.stages e a ∧ rowIds.longs[i]? = some (some a)

/-- The cell of an aggregate for the person of a sample row: the statistic of the values in the rows that the person
reaches. It is absent where no row is reached, and where the sample's identifier is no long word. -/
def Aggregate.IsCell (a : Aggregate) (store : Store) (located : LocatedPlan) (rowIds c : Column) :
    Option Person → Option (a.statistic.resultType c.type).Carrier → Prop
  | none, cell => cell = none
  | some e, cell => ∃ rows, IsReach store located rowIds e rows ∧
      ((rows = [] ∧ cell = none) ∨ (rows ≠ [] ∧ a.statistic.IsOf c.type (c.valuesAt rows) cell))

/-- The column of an aggregate of characteristics, for the persons of the sample rows. Where a variable has no values at
all, it is taken for one of doubles. -/
def Aggregate.IsColumn (a : Aggregate) (store : Store) (located : LocatedPlan) (characteristics : Frame)
    (rowIds : Column) (persons : List (Option Person)) (d : Column) : Prop :=
  ∃ (c : Column) (cells : List (Option (a.statistic.resultType c.nullAsFloat.type).Carrier)),
    characteristics.column? a.column = some c ∧ d = ⟨a.outputName, a.statistic.resultType c.nullAsFloat.type, cells⟩ ∧
      List.Forall₂ (a.IsCell store located rowIds c.nullAsFloat) persons cells

namespace Request

/-- A table answers a request for two frames from located files. -/
structure IsAnswer (r : Request) (checked : Checked) (store : Store) (located : LocatedPlan)
    (sample characteristics : Frame) (t : Frame) : Prop where
  /-- There is an aggregate for each label and each variable, label by label. -/
  requested : (checked.aggregates.map fun a => (a.label, a.column)) =
    (r.options.functions.map Text.trim).eraseDups.flatMap fun label => checked.query.vars.map fun name => (label, name)
  labelled : ∀ a ∈ checked.aggregates, a.IsLabelled
  /-- The sample's columns stand as they are, and then a column for each aggregate. -/
  columns : ∃ ids rowIds columns, sample.column? ColumnName.person = some ids ∧
    characteristics.column? ColumnName.person = some rowIds ∧ t.columns = sample.columns ++ columns ∧
      List.Forall₂ (fun a d => a.IsColumn store located characteristics rowIds ids.longs d) checked.aggregates columns

variable {r : Request} {store : Store} {checked : Checked} {located : LocatedPlan} {f g : Frame}

/-- The rows that the pairs of a walk lead to are the rows that chains lead to. -/
theorem isReach_reachedRows {pairs : AscSet Pair} {ids rowIds : Column}
    (hpairs : ∀ p, p ∈ pairs ↔ some p.sample ∈ ids.longs ∧ Chain store located.format located.stages p.sample p.reached)
    {e : Person} (he : some e ∈ ids.longs) :
    IsReach store located rowIds e (reachedRows pairs rowIds (Key.ofPerson e)) where
  nodup := nodup_reachedRows _
  mem_iff i := by
    rw [mem_reachedRows]
    refine exists_congr fun a => and_congr_left' ?_
    rw [hpairs]
    exact and_iff_right he

/-- A statistic that accepts a column accepts it also where it is taken for one of doubles. -/
theorem accepts_nullAsFloat {s : Statistic} {c : Column} (h : s.accepts c.type = true) :
    s.accepts c.nullAsFloat.type = true := by
  rw [Column.type_nullAsFloat]
  split
  · cases s <;> rfl
  · exact h

/-- The column beside a sample is the one that is meant. -/
theorem isColumn_beside {pairs : AscSet Pair} {ids rowIds c : Column}
    (hpairs : ∀ p, p ∈ pairs ↔ some p.sample ∈ ids.longs ∧ Chain store located.format located.stages p.sample p.reached)
    {a : Aggregate} (hc : g.column? a.column = some c) (haccepts : a.statistic.accepts c.type = true)
    (how : Summation) :
    a.IsColumn store located g rowIds ids.longs
      (a.beside how c.nullAsFloat (ids.longs.map (rowsFrom pairs rowIds))) := by
  refine ⟨c, _, hc, rfl, ?_⟩
  rw [List.forall₂_map_right_iff, List.forall₂_map_right_iff]
  apply List.forall₂_same.2
  intro person hperson
  cases person with
  | none => exact if_pos rfl
  | some e =>
    refine ⟨reachedRows pairs rowIds (Key.ofPerson e), isReach_reachedRows hpairs hperson, ?_⟩
    by_cases h : reachedRows pairs rowIds (Key.ofPerson e) = []
    · exact .inl ⟨h, if_pos h⟩
    · refine .inr ⟨h, ?_⟩
      rw [show (if rowsFrom pairs rowIds (some e) = [] then none else _) = _ from if_neg h]
      exact Statistic.isOf_value? how _ (accepts_nullAsFloat haccepts)

/-- A sample with a person twice, a person without ties, and an identifier that is no long word. -/
def fourPersons : Frame :=
  ⟨[⟨ColumnName.person, .int .u64, [1, 1, 5, 0xFFFFFFFFFFFFFFFF].map (some <| IntType.u64.wrap ·)⟩],
    by decide, by decide⟩

/-- Incomes, of which a person has two. -/
def incomes : Frame :=
  ⟨[.ofNumbers ColumnName.person [20, 21, 20, 30], .ofNumbers "Income" [100, 200, 300, 900]], by decide, by decide⟩

/-- A request for the colleagues of the parents, all at once. -/
def colleaguesOfParents : Request where
  query := "[Income] -> Colleagues[all] -> Family[301, 302] -> sample"
  sample := .frame fourPersons
  characteristics := .frame incomes
  options := { base := "data", format := .csv, mode := .deferred, functions := ["count", " max "] }

/-- A file of the rows of a relation. -/
def relationFile (rows : String) : Entry :=
  .file (.ofBytes ("RINPERSOON;RINPERSOONRELATIE;RELATIE\n" ++ rows).toUTF8.toList)

/-- A store in which both parents of a person have the same colleague. -/
def sharedColleague : Store :=
  (Store.empty.write "data/FAMILIENETWERKTAB/FAMILIENETWERK2020TABV1.csv"
    (relationFile "1;10;301\n1;11;302\n1;12;303\n")).write
    "data/COLLEGANETWERKTAB/COLLEGANETWERK2020TABV1.csv"
    (relationFile "10;20;201\n11;20;201\n11;21;201\n12;30;201\n")

/-- What the checks make of the request. -/
def checkedColleagues : Checked :=
  ⟨⟨.variablesFirst, [⟨.family, .only (AscSet.ofList [301, 302])⟩, ⟨.colleagues, .all⟩], ["Income"]⟩,
    [⟨.count, "count", "Income"⟩, ⟨.greatest, "max", "Income"⟩]⟩

/-- The plan of the request with its files. -/
def locatedColleagues : LocatedPlan where
  stages :=
    [⟨⟨0, ⟨.family, .only (AscSet.ofList [301, 302])⟩, AscSet.ofList [301, 302]⟩,
      "data/FAMILIENETWERKTAB/FAMILIENETWERK2020TABV1.csv"⟩,
    ⟨⟨1, ⟨.colleagues, .all⟩, AscSet.ofList [201]⟩, "data/COLLEGANETWERKTAB/COLLEGANETWERK2020TABV1.csv"⟩]
  aggregates := [⟨.count, "count", "Income"⟩, ⟨.greatest, "max", "Income"⟩]
  vars := ["Income"]
  format := .csv

end Request

end TieWalk
