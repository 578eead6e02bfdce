import TieWalk.Proofs.Request.Checked
import TieWalk.Proofs.Request.Rule
import TieWalk.Proofs.Table.Filtering

/-!
# Which requests are valid

A request for two frames is valid when its query is one and when a list of rules holds: those for the sample, for the
characteristics, for the functions, for what each function makes of each variable, and for the names of the output. The
rules say nothing of how they are checked. The checks follow them: they pass where all rules hold, and refuse with the
error of the first that is broken (`Request.tokens_follow_rules`).
-/

namespace TieWalk

/-- The column of a name that a frame has to have. -/
theorem Table.require_frame (f : Frame) (role : TableRole) (name : String) :
    (Table.frame f).require role name =
      match f.column? name with
      | some c => .ok c
      | none => .error (.column role name .missing) := by
  have hcolumn : (Table.frame f).column? name = .ok (f.column? name) := rfl
  unfold require
  rw [hcolumn]
  cases f.column? name <;> rfl

/-! ## The sample -/

namespace Sample

/-- A sample has identifiers, which are integers and all present, and no column of the name that carries them. -/
def idRules (f : Frame) : List Rule := [
  .must (ColumnName.person ∈ f.names) (.column .sample ColumnName.person .missing),
  .about (f.column? ColumnName.person) (fun ids => ids.type.isInteger = true)
    fun ids => .column .sample ColumnName.person (.identifiersNotIntegers (some ids.type)),
  .about (f.column? ColumnName.person) (fun ids => none ∉ ids.cells)
    fun ids => .column .sample ColumnName.person (.nullIdentifiers ids.nullCount),
  .must (ColumnName.samplePerson ∉ f.names) (.column .sample ColumnName.samplePerson .reserved)]

/-- The name space of a sample, where it says one, is a text and the expected one in every row. -/
def idSpaceRules (f : Frame) (idSpace : String) : List Rule := [
  .about (f.column? ColumnName.idSpace) (fun c => c.type = .text)
    fun c => .column .sample ColumnName.idSpace (.notText c.type),
  .about (f.column? ColumnName.idSpace) (fun c => ∀ cell ∈ c.texts, cell = some idSpace)
    fun c => .column .sample ColumnName.idSpace
      (.otherIdSpace idSpace (c.textsApartFrom idSpace).length (c.textsApartFrom idSpace).head?.join)]

theorem nullCount_pos_iff {c : Column} : 0 < c.nullCount ↔ none ∈ c.cells := by
  unfold Column.nullCount
  rw [List.length_pos_iff_exists_mem]
  simp

/-- The identifiers of a sample are checked by their rules. -/
theorem checkIdentifiers_follows (f : Frame) : Follows (checkIdentifiers (.frame f)) (idRules f) := by
  unfold checkIdentifiers idRules
  rw [Table.require_frame]
  cases hids : f.column? ColumnName.person with
  | none =>
    have hmissing : ColumnName.person ∉ f.names := Frame.column?_eq_none_iff.1 hids
    exact Follows.refuse ⟨hmissing, rfl⟩
  | some ids =>
    refine Follows.skip (Rule.holds_must_iff.2 (Frame.mem_names_of_column? hids)) ?_
    refine Follows.test_about rfl ?_ fun _ => ?_
    · simp
    refine Follows.test_about rfl ?_ fun _ => ?_
    · rw [nullCount_pos_iff, not_not]
    refine Follows.test ?_ fun _ => Follows.pass ()
    rw [not_not]
    exact Table.hasColumn_iff

/-- No text is apart from the expected one exactly when every text is that one. -/
theorem textsApartFrom_eq_nil_iff {c : Column} {s : String} :
    c.textsApartFrom s = [] ↔ ∀ cell ∈ c.texts, cell = some s := by
  unfold Column.textsApartFrom
  simp [List.filter_eq_nil_iff]

/-- The identifier space of a sample is checked by its rules. -/
theorem checkIdSpace_follows (f : Frame) (idSpace : String) :
    Follows (checkIdSpace (.frame f) idSpace) (idSpaceRules f idSpace) := by
  unfold checkIdSpace idSpaceRules
  have htypes :
      (Table.frame f).columnType? ColumnName.idSpace = .ok ((f.column? ColumnName.idSpace).map Column.type) := rfl
  rw [htypes]
  cases hc : f.column? ColumnName.idSpace with
  | none =>
    exact Follows.skip Rule.holds_about_none (Follows.skip Rule.holds_about_none (Follows.pass ()))
  | some c =>
    rw [Option.map_some]
    by_cases htext : c.type = .text
    · refine Follows.skip (Rule.holds_about_some_iff.2 htext) ?_
      obtain ⟨others, hothers, hheight, hfirst⟩ := exists_rowsWhere_outsideIdSpace idSpace hc htext
      simp only [htext, hothers, hheight, hfirst]
      by_cases hnil : c.textsApartFrom idSpace = []
      · rw [if_pos (List.length_eq_zero_iff.2 hnil)]
        exact Follows.skip (Rule.holds_about_some_iff.2 (textsApartFrom_eq_nil_iff.1 hnil)) (Follows.pass ())
      · rw [if_neg fun hlength => hnil (List.length_eq_zero_iff.1 hlength)]
        exact Follows.refuse ⟨c, rfl, fun hall => hnil (textsApartFrom_eq_nil_iff.2 hall), rfl⟩
    · split
      · next h => cases h
      · next h => cases h
      · next h => exact absurd (Option.some.inj (Except.ok.inj h)) htext
      · next h =>
        cases h
        exact Follows.refuse ⟨c, rfl, htext, rfl⟩

theorem check_follows (f : Frame) (idSpace : String) :
    Follows (check (.frame f) idSpace) (idRules f ++ idSpaceRules f idSpace) := by
  have hcheck : check (.frame f) idSpace =
      (checkIdentifiers (.frame f) >>= fun _ => checkIdSpace (.frame f) idSpace) := by
    unfold check
    cases checkIdentifiers (.frame f) <;> rfl
  rw [hcheck]
  exact (checkIdentifiers_follows f).bind fun _ _ => checkIdSpace_follows f idSpace

end Sample

/-! ## The characteristics -/

namespace Characteristics

/-- Characteristics have identifiers, which are integers unless there are none at all. -/
def idRules (g : Frame) : List Rule := [
  .must (ColumnName.person ∈ g.names) (.column .characteristics ColumnName.person .missing),
  .about (g.column? ColumnName.person) (fun ids => ids.type.isInteger = true ∨ ids.type = .null)
    fun _ => .column .characteristics ColumnName.person (.identifiersNotIntegers none)]

/-- A variable is no identifier, and a column. -/
def variableRules (g : Frame) (name : String) : List Rule := [
  .must (name ≠ ColumnName.person ∧ name ≠ ColumnName.samplePerson)
    (.column .characteristics name .identifierAggregated),
  .must (name ∈ g.names) (.column .characteristics name .missing)]

/-- An aggregate accepts the type of its column. -/
def typeRule (g : Frame) (a : Aggregate) : Rule :=
  .about (g.column? a.column) (fun c => a.statistic.accepts c.type = true)
    fun c => .column .characteristics a.column (.cannotAggregate a.statistic c.type)

variable {g : Frame}

theorem checkVariables_single_follows (g : Frame) (name : String) :
    Follows (checkVariables (.frame g) [name]) (variableRules g name) := by
  unfold checkVariables variableRules
  rw [List.findSome?_singleton]
  unfold variableFault?
  by_cases hid : name = ColumnName.person ∨ name = ColumnName.samplePerson
  · rw [if_pos (by simpa using hid)]
    refine Follows.refuse ⟨?_, rfl⟩
    rintro ⟨hperson, hsample⟩
    exact hid.elim hperson hsample
  · rw [if_neg (by simpa using hid)]
    refine Follows.skip (Rule.holds_must_iff.2 (not_or.1 hid)) ?_
    by_cases hmem : name ∈ g.names
    · rw [if_pos (Table.hasColumn_iff.2 hmem)]
      exact Follows.skip (Rule.holds_must_iff.2 hmem) (Follows.pass ())
    · rw [if_neg fun h => hmem (Table.hasColumn_iff.1 h)]
      exact Follows.refuse ⟨hmem, rfl⟩

/-- Variables are checked one after another, each by its rules. -/
theorem checkVariables_follows (g : Frame) (vars : List String) :
    Follows (checkVariables (.frame g) vars) (vars.flatMap (variableRules g)) := by
  induction vars with
  | nil => exact Follows.pass ()
  | cons name rest ih =>
    have hstep : checkVariables (.frame g) (name :: rest) =
        (checkVariables (.frame g) [name] >>= fun _ => checkVariables (.frame g) rest) := by
      unfold checkVariables
      rw [List.findSome?_cons, List.findSome?_singleton]
      cases variableFault? (.frame g) name <;> rfl
    rw [hstep, List.flatMap_cons]
    exact (checkVariables_single_follows g name).bind fun _ _ => ih

theorem check_follows (g : Frame) (vars : List String) :
    Follows (check (.frame g) vars) (idRules g ++ vars.flatMap (variableRules g)) := by
  unfold check idRules
  rw [Table.require_frame]
  cases hids : g.column? ColumnName.person with
  | none =>
    have hmissing : ColumnName.person ∉ g.names := Frame.column?_eq_none_iff.1 hids
    exact Follows.refuse ⟨hmissing, rfl⟩
  | some ids =>
    refine Follows.skip (Rule.holds_must_iff.2 (Frame.mem_names_of_column? hids)) ?_
    by_cases htype : ids.type.isInteger = true ∨ ids.type = .null
    · simp only [if_pos (show (ids.type.isInteger || decide (ids.type = .null)) = true by simpa using htype)]
      exact Follows.skip (Rule.holds_about_some_iff.2 htype) (checkVariables_follows g vars)
    · simp only [if_neg (show ¬ (ids.type.isInteger || decide (ids.type = .null)) = true by simpa using htype)]
      exact Follows.refuse ⟨ids, rfl, htype, rfl⟩

/-- Every statistic accepts a column without values. -/
theorem accepts_null (s : Statistic) : s.accepts .null = true := by
  cases s <;> rfl

theorem checkTypes_follows (g : Frame) (aggregates : List Aggregate) :
    Follows (checkTypes (.frame g) aggregates) (aggregates.map (typeRule g)) := by
  induction aggregates with
  | nil => exact Follows.pass ()
  | cons a rest ih =>
    have htypes : (Table.frame g).columnType? a.column = .ok ((g.column? a.column).map Column.type) := rfl
    rw [checkTypes, htypes, List.map_cons]
    unfold typeRule
    cases hc : g.column? a.column with
    | none =>
      -- A variable without a column is refused before; here it counts as a column without values.
      simp only [Option.map_none, Option.getD_none, if_pos (accepts_null a.statistic)]
      exact Follows.skip Rule.holds_about_none ih
    | some c =>
      simp only [Option.map_some, Option.getD_some]
      by_cases haccepts : a.statistic.accepts c.type = true
      · rw [if_pos haccepts]
        exact Follows.skip (Rule.holds_about_some_iff.2 haccepts) ih
      · rw [if_neg haccepts]
        exact Follows.refuse ⟨c, rfl, haccepts, rfl⟩

end Characteristics

/-! ## The functions and their output -/

theorem Statistic.ofName?_eq_none_iff {name : String} :
    ofName? name = none ↔ Text.lowercase (Text.trim name) ∉ requestNames.map Prod.fst := by
  unfold ofName?
  rw [List.lookup_eq_none_iff]
  simp only [List.mem_map, not_exists, not_and, bne_iff_ne]
  exact forall₂_congr fun _ _ => ne_comm

namespace Aggregate

/-- A function is known by its name, blanks at the name's ends and the case of its letters apart. -/
def knownRule (name : String) : Rule :=
  .must (Text.lowercase (Text.trim name) ∈ Statistic.requestNames.map Prod.fst) (.unknownFunction name)

/-- There is a function, and every function is known. -/
def functionRules (functions : List String) : List Rule :=
  .must (functions ≠ []) .noFunctions :: functions.map knownRule

/-- What functions ask for of columns: function by function in the order in which they are named, each column in turn.
-/
def asked (functions columns : List String) : List Aggregate :=
  functions.flatMap fun name =>
    (Statistic.ofName? name).toList.flatMap fun s => columns.map fun column => ⟨s, Text.trim name, column⟩

theorem labelOf_follows (name : String) : Follows (labelOf name) [knownRule name] := by
  refine Follows.single fun e => ?_
  rw [labelOf_eq_error_iff, Statistic.ofName?_eq_none_iff]
  rfl

theorem labelled_follows (functions : List String) : Follows (labelled functions) (functions.map knownRule) := by
  rw [labelled_eq_mapM]
  exact Follows.mapM labelOf_follows functions

/-- Functions are asked for by their rules. -/
theorem requestAll_follows (functions columns : List String) :
    Follows (requestAll functions columns) (functionRules functions) := by
  unfold requestAll functionRules
  refine Follows.test ?_ fun _ => ?_
  · rw [List.isEmpty_iff, not_not]
  · refine (labelled_follows functions).of_error_iff fun e => ?_
    cases labelled functions <;> simp

/-- What is asked for is, but for repeats, what is requested. -/
theorem asked_eq_flatMap {functions columns : List String} {found : List (Statistic × String)}
    (h : labelled functions = .ok found) :
    asked functions columns = found.flatMap fun x => columns.map fun column => ⟨x.1, x.2, column⟩ := by
  have hforall := labelled_eq_ok_iff.1 h
  clear h
  unfold asked
  induction hforall with
  | nil => rfl
  | cons hname _ ih =>
    obtain ⟨hs, hlabel⟩ := hname
    rw [List.flatMap_cons, List.flatMap_cons, ih, hs, hlabel, Option.toList_some, List.flatMap_singleton]

/-- The aggregates that are asked for are those of the request. -/
theorem mem_asked_iff {functions columns : List String} {aggregates : List Aggregate} {a : Aggregate}
    (h : requestAll functions columns = .ok aggregates) : a ∈ asked functions columns ↔ a ∈ aggregates := by
  obtain ⟨-, found, hfound, rfl⟩ := requestAll_eq_ok_iff.1 h
  rw [asked_eq_flatMap hfound]
  simp only [List.mem_flatMap, List.mem_eraseDups]

/-- A check of each aggregate that is requested follows the rules of all that is asked for. -/
theorem follows_asked {α : Type} {check : Except Error α} {functions columns : List String}
    {aggregates : List Aggregate} {rule : Aggregate → Rule} (h : requestAll functions columns = .ok aggregates)
    (hcheck : Follows check (aggregates.map rule)) :
    Follows check ((asked functions columns).map rule) := by
  obtain ⟨-, found, hfound, rfl⟩ := requestAll_eq_ok_iff.1 h
  rw [asked_eq_flatMap hfound, List.map_flatMap]
  rw [List.map_flatMap] at hcheck
  exact hcheck.of_eraseDups

end Aggregate

namespace Request

/-- An output column is no column of the sample, and the column of no other aggregate. -/
def outputRule (f : Frame) (all : List Aggregate) (a : Aggregate) : Rule :=
  .must (a.outputName ∉ f.names ∧ ∀ b ∈ all, b.outputName = a.outputName → b = a)
    (.column .sample a.outputName .outputNameTaken)

/-- Where no two aggregates have a column in common, the names are checked against those of the sample alone. -/
theorem checkNames_follows (f : Frame) {all aggregates : List Aggregate} {taken : List String}
    (hnodup : (aggregates.map Aggregate.outputName).Nodup)
    (hall : ∀ a ∈ aggregates, ∀ b ∈ all, b.outputName = a.outputName → b = a)
    (htaken : ∀ a ∈ aggregates, a.outputName ∈ taken ↔ a.outputName ∈ f.names) :
    Follows (checkNames taken (aggregates.map Aggregate.outputName)) (aggregates.map (outputRule f all)) := by
  induction aggregates generalizing taken with
  | nil => exact Follows.pass ()
  | cons a rest ih =>
    rw [List.map_cons, List.nodup_cons] at hnodup
    have hname := htaken a List.mem_cons_self
    rw [List.map_cons, List.map_cons, checkNames]
    refine Follows.test ?_ fun _ => ih hnodup.2 ?_ ?_
    · rw [and_iff_left (hall a List.mem_cons_self), not_not, hname]
    · exact fun b hb => hall b (List.mem_cons_of_mem _ hb)
    · intro b hb
      have hne : b.outputName ≠ a.outputName := by
        intro heq
        exact hnodup.1 (List.mem_map.2 ⟨b, hb, heq⟩)
      rw [List.mem_cons, or_iff_right hne]
      exact htaken b (List.mem_cons_of_mem _ hb)

/-! ## The whole request -/

/-- The rules for a request of variables, in the order in which a broken one is reported: for the sample, for the
characteristics and each variable, for the functions, for each function of each variable, and for the name of each
output column. -/
def rules (sample characteristics : Frame) (o : Options) (vars : List String) : List Rule :=
  (Sample.idRules sample ++ Sample.idSpaceRules sample o.idSpace) ++
    ((Characteristics.idRules characteristics ++ vars.flatMap (Characteristics.variableRules characteristics)) ++
      (Aggregate.functionRules o.functions ++
        ((Aggregate.asked o.functions vars).map (Characteristics.typeRule characteristics) ++
          (Aggregate.asked o.functions vars).map (outputRule sample (Aggregate.asked o.functions vars)))))

/-- A request is checked by its rules, in their order. -/
theorem check_follows {text : String} {f g : Frame} {o : Options} {q : Query} (hquery : Query.ofText text = .ok q) :
    Follows (check ⟨text, .frame f, .frame g, o⟩) (rules f g o q.vars) := by
  obtain ⟨-, hnodup, -⟩ := Query.vars_of_ofText hquery
  unfold check rules
  rw [hquery]
  refine (Sample.check_follows f o.idSpace).bind fun _ _ => ?_
  refine (Characteristics.check_follows g q.vars).bind fun _ _ => ?_
  refine (Aggregate.requestAll_follows o.functions q.vars).bind fun aggregates haggregates => ?_
  refine (Aggregate.follows_asked haggregates (Characteristics.checkTypes_follows g aggregates)).bind fun _ _ => ?_
  have houtputs := Aggregate.nodup_outputNames haggregates hnodup
  have halone : ∀ a ∈ aggregates, ∀ b ∈ Aggregate.asked o.functions q.vars, b.outputName = a.outputName → b = a := by
    intro a ha b hb heq
    exact List.inj_on_of_nodup_map houtputs ((Aggregate.mem_asked_iff haggregates).1 hb) ha heq
  have hnames := checkNames_follows f houtputs halone fun _ _ => Iff.rfl
  refine (Aggregate.follows_asked haggregates hnames).of_error_iff fun e => ?_
  show (checkNames f.names _ >>= fun _ => _) = _ ↔ _
  cases checkNames f.names (aggregates.map Aggregate.outputName) <;> simp [Bind.bind, Except.bind, pure, Except.pure]

/-- A request for two frames gives its query's tokens exactly when the query is one and every rule holds; otherwise it
is refused for the query, or with the error of the first rule that is broken. -/
theorem tokens_follow_rules (text : String) (f g : Frame) (o : Options) :
    (∀ ts, tokens ⟨text, .frame f, .frame g, o⟩ = .ok ts ↔
      ∃ q, Query.ofText text = .ok q ∧ (∀ rule ∈ rules f g o q.vars, rule.Holds) ∧ ts = q.tokens) ∧
    ∀ e, tokens ⟨text, .frame f, .frame g, o⟩ = .error e ↔
      (∃ cause, Query.ofText text = .error cause ∧ e = .query cause) ∨
        ∃ q, Query.ofText text = .ok q ∧ Rule.First (rules f g o q.vars) e := by
  cases hquery : Query.ofText text with
  | error cause =>
    have htokens : tokens ⟨text, .frame f, .frame g, o⟩ = .error (.query cause) := by
      unfold tokens check
      rw [hquery]
      rfl
    simp [htokens, eq_comm]
  | ok q =>
    have hfollows : Follows (tokens ⟨text, .frame f, .frame g, o⟩) (rules f g o q.vars) :=
      (check_follows hquery).of_error_iff fun _ => tokens_eq_error_iff
    have htokens : ∀ ts, tokens ⟨text, .frame f, .frame g, o⟩ = .ok ts → ts = q.tokens := by
      intro ts hts
      obtain ⟨checked, hcheck, rfl⟩ := tokens_eq_ok_iff.1 hts
      have hsame : Query.ofText text = .ok checked.query := (check_eq_ok_iff.1 hcheck).1
      rw [hquery] at hsame
      cases hsame
      rfl
    constructor
    · intro ts
      constructor
      · intro hts
        exact ⟨q, rfl, hfollows.holds ts hts, htokens ts hts⟩
      · rintro ⟨_, ⟨⟩, hall, rfl⟩
        obtain ⟨ts, hts⟩ := hfollows.ok_iff.2 hall
        rw [hts, htokens ts hts]
    · intro e
      rw [hfollows.error_iff]
      simp

end Request

end TieWalk
