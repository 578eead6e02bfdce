import TieWalk.Proofs.Request.Success
import TieWalk.Proofs.Table.Crossing

/-!
# Tables and the frames they turn into

A record batch that turns into a frame can be told from the frame by nothing that a request asks of its tables: it has
the same names, rows and columns, and whatever is chosen, filtered or put beside it is taken from the frame. So a
request has the same answer, or the same error, whichever of the two it is given.
-/

namespace TieWalk

/-! ## What is asked of a table -/

namespace Table

variable {t : Table} {f : Frame}

theorem names_eq_of_toFrame (h : t.toFrame = .ok f) : t.names = (Table.frame f).names := (of_toFrame h).1.symm

theorem column?_eq_of_toFrame (h : t.toFrame = .ok f) (name : String) : t.column? name = (Table.frame f).column? name :=
  (of_toFrame h).2 name

theorem hasColumn_eq_of_toFrame (h : t.toFrame = .ok f) (name : String) :
    t.hasColumn name = (Table.frame f).hasColumn name := by
  unfold hasColumn
  rw [names_eq_of_toFrame h]

/-- A table has as many rows as its frame, without columns too. -/
theorem height_eq_of_toFrame (h : t.toFrame = .ok f) : t.height = (Table.frame f).height := by
  cases t with
  | frame g =>
    cases h
    rfl
  | batch b =>
    obtain ⟨hnames, -⟩ := exists_toFrame_batch_iff.1 ⟨f, h⟩
    have hcolumns := (toFrame_batch_eq_ok_iff hnames).1 h
    show rowsOf b.fields = heightOf f.columns
    generalize b.fields = fields at hcolumns ⊢
    generalize f.columns = columns at hcolumns ⊢
    cases hcolumns with
    | nil => rfl
    | cons hc _ => exact (Column.height_of_normal? (Field.toColumn_eq_ok_iff.1 hc)).symm

theorem require_eq_of_toFrame (h : t.toFrame = .ok f) (role : TableRole) (name : String) :
    t.require role name = (Table.frame f).require role name := by
  unfold require
  rw [column?_eq_of_toFrame h]

theorem columnType?_eq_of_toFrame (h : t.toFrame = .ok f) (name : String) :
    t.columnType? name = (Table.frame f).columnType? name := by
  unfold columnType?
  rw [column?_eq_of_toFrame h]

theorem select_eq_of_toFrame (h : t.toFrame = .ok f) (names : List String) :
    t.select names = (Table.frame f).select names := by
  have hrequire : t.require .intermediate = (Table.frame f).require .intermediate :=
    funext fun name => require_eq_of_toFrame h .intermediate name
  unfold select
  rw [hrequire]

theorem rowsWhere_eq_of_toFrame (h : t.toFrame = .ok f) (condition : Condition) :
    t.rowsWhere condition = (Table.frame f).rowsWhere condition := by
  unfold rowsWhere
  rw [h]
  rfl

theorem attach_eq_of_toFrame (h : t.toFrame = .ok f) (aggregated : Frame) :
    t.attach aggregated = (Table.frame f).attach aggregated := by
  unfold attach
  rw [h, height_eq_of_toFrame h]
  rfl

end Table

/-! ## Checks -/

section

variable {t : Table} {f : Frame} (h : t.toFrame = .ok f)

include h

theorem Sample.check_eq_of_toFrame (idSpace : String) : check t idSpace = check (.frame f) idSpace := by
  have hids : checkIdentifiers t = checkIdentifiers (.frame f) := by
    unfold checkIdentifiers
    rw [Table.require_eq_of_toFrame h, Table.hasColumn_eq_of_toFrame h]
  have hspace : checkIdSpace t idSpace = checkIdSpace (.frame f) idSpace := by
    unfold checkIdSpace
    rw [Table.columnType?_eq_of_toFrame h, Table.rowsWhere_eq_of_toFrame h]
  unfold check
  rw [hids, hspace]

theorem Sample.persons_eq_of_toFrame : persons t = persons (.frame f) := by
  unfold persons
  rw [Table.require_eq_of_toFrame h]

theorem Characteristics.check_eq_of_toFrame (vars : List String) : check t vars = check (.frame f) vars := by
  have hfault : variableFault? t = variableFault? (.frame f) := by
    funext name
    unfold variableFault?
    rw [Table.hasColumn_eq_of_toFrame h]
  have hvars : checkVariables t vars = checkVariables (.frame f) vars := by
    unfold checkVariables
    rw [hfault]
  unfold check
  rw [Table.require_eq_of_toFrame h, hvars]

theorem Characteristics.checkTypes_eq_of_toFrame (aggregates : List Aggregate) :
    checkTypes t aggregates = checkTypes (.frame f) aggregates := by
  induction aggregates with
  | nil => rfl
  | cons a rest ih =>
    rw [checkTypes, checkTypes, Table.columnType?_eq_of_toFrame h, ih]

/-! ## Walks -/

/-- Pairs are summarized over a table as over its frame. -/
theorem summarize_eq_of_toFrame (pairs : AscSet Pair) (vars : List String) (aggregates : List Aggregate) :
    summarize pairs t vars aggregates = summarize pairs (.frame f) vars aggregates := by
  have hframe : characteristicsFrame t vars = characteristicsFrame (.frame f) vars := by
    unfold characteristicsFrame
    rw [Table.select_eq_of_toFrame h]
  unfold summarize
  rw [hframe]

/-- Whichever way a plan is run, its aggregates are taken from the frame of the characteristics. -/
theorem LocatedPlan.run_eq_of_toFrame (p : LocatedPlan) (mode : WalkMode) (store : Store) (ids : List Person) :
    p.run mode store ids t = p.run mode store ids (.frame f) := by
  cases mode with
  | eager =>
    show p.runEager store ids t = p.runEager store ids (.frame f)
    unfold runEager
    simp only [summarize_eq_of_toFrame h]
  | deferred =>
    show (PlanTree.ofPlan p).simplify.run store ids t = (PlanTree.ofPlan p).simplify.run store ids (.frame f)
    unfold PlanTree.run
    simp only [summarize_eq_of_toFrame h]

end

/-! ## Requests -/

namespace Request

/-- The request for other tables. -/
def onFrames (r : Request) (sample characteristics : Frame) : Request :=
  { r with sample := .frame sample, characteristics := .frame characteristics }

variable {r : Request} {f g : Frame}

/-- A request is checked as that for the frames of its tables. -/
theorem check_onFrames (hsample : r.sample.toFrame = .ok f) (hcharacteristics : r.characteristics.toFrame = .ok g) :
    r.check = (r.onFrames f g).check := by
  unfold check
  rw [Sample.check_eq_of_toFrame hsample, Table.names_eq_of_toFrame hsample]
  simp only [Characteristics.check_eq_of_toFrame hcharacteristics,
    Characteristics.checkTypes_eq_of_toFrame hcharacteristics]
  rfl

/-- A request is run as that for the frames of its tables. -/
theorem run_onFrames (hsample : r.sample.toFrame = .ok f) (hcharacteristics : r.characteristics.toFrame = .ok g)
    (store : Store) : r.run store = (r.onFrames f g).run store := by
  unfold run
  rw [check_onFrames hsample hcharacteristics, Sample.persons_eq_of_toFrame hsample]
  simp only [LocatedPlan.run_eq_of_toFrame hcharacteristics, Table.attach_eq_of_toFrame hsample]
  rfl

/-- A table that is a record batch only if it converts turns into a frame. -/
theorem exists_toFrame_of_converts {t : Table} (h : ∀ b, t = .batch b → t.Converts) : ∃ f, t.toFrame = .ok f := by
  cases t with
  | frame f => exact ⟨f, rfl⟩
  | batch b => exact Table.exists_toFrame_batch_iff.2 (h b rfl)

/-- A sample and characteristics, either or both of them a record batch that converts, turn into frames for which the
request has the same tokens or the same refusal, and from every store the same outcome or the same error. -/
theorem answers_alike_on_frames (r : Request) (hsample : ∀ b, r.sample = .batch b → r.sample.Converts)
    (hcharacteristics : ∀ b, r.characteristics = .batch b → r.characteristics.Converts) :
    ∃ f g, r.sample.toFrame = .ok f ∧ r.characteristics.toFrame = .ok g ∧ r.tokens = (r.onFrames f g).tokens ∧
      ∀ store, r.run store = (r.onFrames f g).run store := by
  obtain ⟨f, hf⟩ := exists_toFrame_of_converts hsample
  obtain ⟨g, hg⟩ := exists_toFrame_of_converts hcharacteristics
  refine ⟨f, g, hf, hg, ?_, fun store => run_onFrames hf hg store⟩
  unfold tokens
  rw [check_onFrames hf hg]

/-- A request of two record batches with narrow numbers, and with a row of gaps. -/
def narrowBatches : Request where
  query := "[Income] -> Family[301] -> sample"
  sample := .batch ⟨[⟨ColumnName.person, .int .u8, [some (IntType.u8.wrap 1)]⟩], by decide⟩
  characteristics := .batch ⟨[⟨ColumnName.person, .int .i32, [some (IntType.i32.wrap 10), none]⟩,
    ⟨"Income", .int .i16, [some (IntType.i16.wrap 100), none]⟩], by decide⟩
  options := { base := "data", format := .csv, functions := ["max"] }

/-- The request is answered, and its frames have the same answer. -/
theorem narrowBatches_alike : (∀ b, narrowBatches.sample = .batch b → narrowBatches.sample.Converts) ∧
    (∀ b, narrowBatches.characteristics = .batch b → narrowBatches.characteristics.Converts) ∧
    ∃ f g o, narrowBatches.sample.toFrame = .ok f ∧ narrowBatches.characteristics.toFrame = .ok g ∧
      narrowBatches.run oneParent = .ok o ∧ o.reached = 1 ∧ (narrowBatches.onFrames f g).run oneParent = .ok o := by
  have hsample : narrowBatches.sample.Converts := by
    refine ⟨?_, ?_⟩ <;> decide
  have hcharacteristics : narrowBatches.characteristics.Converts := by
    refine ⟨?_, ?_⟩ <;> decide
  obtain ⟨f, g, hf, hg, -, hrun⟩ :=
    answers_alike_on_frames narrowBatches (fun _ _ => hsample) fun _ _ => hcharacteristics
  have hreached : (narrowBatches.run oneParent).map Outcome.reached = .ok 1 := by decide +kernel
  cases ho : narrowBatches.run oneParent with
  | error e =>
    rw [ho] at hreached
    cases hreached
  | ok o =>
    rw [ho] at hreached
    refine ⟨fun _ _ => hsample, fun _ _ => hcharacteristics, f, g, o, hf, hg, rfl, Except.ok.inj hreached, ?_⟩
    rw [← hrun, ho]

end Request

end TieWalk
