import TieWalk.Json.Plan
import TieWalk.Proofs.Json.Loosening

/-!
# Decoding restores

What is encoded is decoded to the same value, and still is when another program has written its records in its own way.
Every part of a path, a query or a plan is treated the same: a decoder reads a value from an encoding however loosely
that is written, and a decoder of records or lists does if those of their parts do. Positions and counts are words of 64
bits, which is all that is asked of a value.
-/

namespace TieWalk

namespace Json

variable {α : Type}

/-- A decoder reads a value from an encoding, however loosely that is written. -/
def Reads (ofJson? : Json → Option α) (j : Json) (a : α) : Prop :=
  ∀ written, IsLoosened j written → ofJson? written = some a

/-- A value is decoded to itself, both from its encoding and from any looser writing of that. -/
def Restores (toJson : α → Json) (ofJson? : Json → Option α) (a : α) : Prop :=
  ofJson? (toJson a) = some a ∧ Reads ofJson? (toJson a) a

/-- What is read in every way it can be written is read back. -/
theorem Reads.restores {toJson : α → Json} {ofJson? : Json → Option α} {a : α} (h : Reads ofJson? (toJson a) a) :
    Restores toJson ofJson? a :=
  ⟨h _ (.same _), h⟩

/-! ## Texts, counts and lists -/

/-- A text is written in one way. -/
theorem reads_of_text {ofJson? : Json → Option α} {s : String} {a : α} (h : ofJson? (.text s) = some a) :
    Reads ofJson? (.text s) a := by
  intro j hj
  rw [eq_of_isLoosened_text hj, h]

theorem reads_text (s : String) : Reads text? (.text s) s := reads_of_text rfl

theorem reads_nat {bound n : Nat} (h : n < bound) : Reads (natBelow? bound) (.nat n) n := by
  intro j hj
  rw [eq_of_isLoosened_nat hj]
  exact if_pos h

theorem reads_count {n : Nat} (h : n < countBound) : Reads count? (.nat n) n := reads_nat h

/-- A list is read as its members are. -/
theorem reads_list {item? : Json → Option α} {encode : α → Json} {l : List α} (h : ∀ a ∈ l, Reads item? (encode a) a) :
    Reads (listOf? item?) (.list (l.map encode)) l := by
  intro j hj
  obtain ⟨items, rfl, hitems⟩ := isLoosened_list_iff.1 hj
  clear hj
  rw [List.forall₂_map_left_iff] at hitems
  refine mapM_eq_some_of_forall₂ ?_
  -- Only the members at hand have to be read, since a plan's or a path's numbers are bounded one by one.
  induction hitems with
  | nil => exact .nil
  | cons hitem _ ih => exact .cons (h _ List.mem_cons_self _ hitem) (ih fun a ha => h a (List.mem_cons_of_mem _ ha))

theorem reads_texts (l : List String) : Reads (listOf? text?) (.texts l) l := reads_list fun s _ => reads_text s

end Json

open Json

/-! ## Directions, contexts and selections -/

theorem Direction.reads (d : Direction) : Reads ofJson? d.toJson d := by
  refine reads_of_text ?_
  cases d <;> rfl

theorem Context.reads (c : Context) : Reads ofJson? c.toJson c :=
  reads_of_text (ofName?_name c)

theorem Statistic.reads (s : Statistic) : Reads ofJson? s.toJson s := by
  refine reads_of_text ?_
  cases s <;> rfl

theorem Code.reads (c : Code) : Reads Code.ofJson? (Code.toJson c) c := by
  intro j hj
  have hbound : c.toNat < codeBound := c.toNat_lt
  unfold Code.ofJson?
  rw [reads_nat hbound j hj, Option.map_some, UInt32.ofNat_toNat]

theorem AscSet.reads_codes (codes : AscSet Code) : Reads codesOfJson? codes.codesToJson codes := by
  intro j hj
  unfold codesOfJson?
  rw [reads_list (fun c _ => Code.reads c) j hj, Option.map_some, ofList_toList]

/-- A selection is read from the text of all codes, or from the record of its own. -/
theorem Selection.reads (s : Selection) : Reads ofJson? s.toJson s := by
  cases s with
  | all => exact reads_of_text rfl
  | only codes =>
    -- The record of the codes is no record of fields: it is decoded as it was written.
    intro j hj
    rw [eq_of_isLoosened_codes hj]
    show (AscSet.codesOfJson? codes.codesToJson).map only = _
    rw [AscSet.reads_codes codes _ (.same _), Option.map_some]

/-! ## Records -/

theorem WrittenHop.reads {h : WrittenHop} (hposition : h.position < countBound) : Reads ofJson? h.toJson h := by
  intro j hj
  obtain ⟨values, hfields, hvalues⟩ := fields?_of_isLoosened (by simp) hj
  obtain _ | ⟨hcontext, _ | ⟨hcodes, _ | ⟨hpos, ⟨⟩⟩⟩⟩ := hvalues
  simp only [List.map_cons, List.map_nil] at hfields
  unfold ofJson?
  rw [hfields]
  simp [reads_text _ _ hcontext, Selection.reads _ _ hcodes, reads_count hposition _ hpos]

/-- A path is read with its hops, if their positions can be held. -/
theorem WrittenPath.reads {p : WrittenPath} (hpositions : ∀ h ∈ p.hops, h.position < countBound) :
    Reads ofJson? p.toJson p := by
  intro j hj
  obtain ⟨values, hfields, hvalues⟩ := fields?_of_isLoosened (by simp) hj
  obtain _ | ⟨hdirection, _ | ⟨hhops, _ | ⟨hvars, ⟨⟩⟩⟩⟩ := hvalues
  simp only [List.map_cons, List.map_nil] at hfields
  unfold ofJson?
  rw [hfields]
  simp [Direction.reads _ _ hdirection, reads_list (fun h hh => WrittenHop.reads (hpositions h hh)) _ hhops,
    reads_texts _ _ hvars]

theorem Hop.reads {h : Hop} : Reads ofJson? h.toJson h := by
  intro j hj
  obtain ⟨values, hfields, hvalues⟩ := fields?_of_isLoosened (by simp) hj
  obtain _ | ⟨hcontext, _ | ⟨hcodes, ⟨⟩⟩⟩ := hvalues
  simp only [List.map_cons, List.map_nil] at hfields
  unfold ofJson?
  rw [hfields]
  simp [Context.reads _ _ hcontext, Selection.reads _ _ hcodes]

theorem Query.reads {q : Query} : Reads ofJson? q.toJson q := by
  intro j hj
  obtain ⟨values, hfields, hvalues⟩ := fields?_of_isLoosened (by simp) hj
  obtain _ | ⟨hdirection, _ | ⟨hhops, _ | ⟨hvars, ⟨⟩⟩⟩⟩ := hvalues
  simp only [List.map_cons, List.map_nil] at hfields
  unfold ofJson?
  rw [hfields]
  simp [Direction.reads _ _ hdirection, reads_list (fun _ _ => Hop.reads) _ hhops, reads_texts _ _ hvars]

theorem Stage.reads {s : Stage} (hindex : s.index < countBound) : Reads ofJson? s.toJson s := by
  intro j hj
  obtain ⟨values, hfields, hvalues⟩ := fields?_of_isLoosened (by simp) hj
  obtain _ | ⟨hat, _ | ⟨hhop, _ | ⟨hcodes, ⟨⟩⟩⟩⟩ := hvalues
  simp only [List.map_cons, List.map_nil] at hfields
  unfold ofJson?
  rw [hfields]
  simp [reads_count hindex _ hat, Hop.reads _ hhop, AscSet.reads_codes _ _ hcodes]

theorem Aggregate.reads {a : Aggregate} : Reads ofJson? a.toJson a := by
  intro j hj
  obtain ⟨values, hfields, hvalues⟩ := fields?_of_isLoosened (by simp) hj
  obtain _ | ⟨hstatistic, _ | ⟨hlabel, _ | ⟨hcolumn, ⟨⟩⟩⟩⟩ := hvalues
  simp only [List.map_cons, List.map_nil] at hfields
  unfold ofJson?
  rw [hfields]
  simp [Statistic.reads _ _ hstatistic, reads_text _ _ hlabel, reads_text _ _ hcolumn]

/-- A plan is read with its stages, if their numbers can be held. -/
theorem Plan.reads {p : Plan} (hindices : ∀ s ∈ p.stages, s.index < countBound) : Reads ofJson? p.toJson p := by
  intro j hj
  obtain ⟨values, hfields, hvalues⟩ := fields?_of_isLoosened (by simp) hj
  obtain _ | ⟨hquery, _ | ⟨hstages, _ | ⟨haggregates, _ | ⟨hvars, _ | ⟨hhints, ⟨⟩⟩⟩⟩⟩⟩ := hvalues
  simp only [List.map_cons, List.map_nil] at hfields
  unfold ofJson?
  rw [hfields]
  simp [reads_text _ _ hquery, reads_list (fun s hs => Stage.reads (hindices s hs)) _ hstages,
    reads_list (fun _ _ => Aggregate.reads) _ haggregates, reads_texts _ _ hvars, reads_texts _ _ hhints]

/-- A notice is read if its numbers can be held. -/
theorem Notice.reads {n : Notice} (hstage : n.stage < countBound) (hcollapsed : n.collapsed < countBound) :
    Reads ofJson? n.toJson n := by
  intro j hj
  obtain ⟨values, hfields, hvalues⟩ := fields?_of_isLoosened (by simp) hj
  obtain _ | ⟨hat, _ | ⟨hcontext, _ | ⟨hnumber, ⟨⟩⟩⟩⟩ := hvalues
  simp only [List.map_cons, List.map_nil] at hfields
  unfold ofJson?
  rw [hfields]
  simp [reads_count hstage _ hat, Context.reads _ _ hcontext, reads_count hcollapsed _ hnumber]

/-- Paths, queries, plans, aggregates and notices are restored, whatever they hold. -/
theorem decoding_restores :
    (∀ p : WrittenPath, (∀ h ∈ p.hops, h.position < countBound) → Restores WrittenPath.toJson WrittenPath.ofJson? p) ∧
    (∀ q : Query, Restores Query.toJson Query.ofJson? q) ∧
    (∀ p : Plan, (∀ s ∈ p.stages, s.index < countBound) → Restores Plan.toJson Plan.ofJson? p) ∧
    (∀ a : Aggregate, Restores Aggregate.toJson Aggregate.ofJson? a) ∧
    ∀ n : Notice, n.stage < countBound → n.collapsed < countBound → Restores Notice.toJson Notice.ofJson? n :=
  ⟨fun _ h => (WrittenPath.reads h).restores, fun _ => Query.reads.restores, fun _ h => (Plan.reads h).restores,
    fun _ => Aggregate.reads.restores, fun _ h h' => (Notice.reads h h').restores⟩

/-- A path of one hop. -/
def remarkedPath : WrittenPath := ⟨.sampleFirst, [⟨"Family", .only (AscSet.ofList [301, 302]), 10⟩], ["Income"]⟩

/-- The fields of its hop, from last to first, behind a remark. -/
def remarkedHopFields : List (String × Json) :=
  [("remark", .record [("context", .null)]), ("position", .nat 10),
    ("codes", .record [("Codes", .list [.nat 301, .nat 302])]),
    ("context", .text "Family")]

/-- The fields of the path, from last to first, behind a remark. -/
def remarkedPathFields : List (String × Json) :=
  [("remark", .text "parents"), ("variables", .texts ["Income"]), ("hops", .list [.record remarkedHopFields]),
    ("direction", .text "SampleFirst")]

/-- The path is restored from its fields with remarks among them, a plan with a stage from its encoding, and so is a
notice with the greatest count. -/
theorem remarkedPath_restored : WrittenPath.ofJson? (.record remarkedPathFields) = some remarkedPath ∧
    Plan.ofJson? (Plan.toJson ⟨"", [⟨0, .all .family, .empty⟩], [], [], []⟩) =
    some ⟨"", [⟨0, .all .family, .empty⟩], [], [], []⟩ ∧
    Notice.ofJson? (Notice.toJson ⟨1, .family, 0xFFFFFFFFFFFFFFFF⟩) = some ⟨1, .family, 0xFFFFFFFFFFFFFFFF⟩ := by
  have hhop : IsLoosened (WrittenHop.toJson ⟨"Family", .only (AscSet.ofList [301, 302]), 10⟩)
      (.record remarkedHopFields) :=
    .record (by simp) (show (remarkedHopFields.tail.reverse).map Prod.fst = _ by rfl)
      (List.forall₂_same.2 fun j _ => .same j)
      (show ∀ f ∈ remarkedHopFields.take 1, _ by simp [remarkedHopFields]) (List.reverse_perm _).symm
  have hpath : IsLoosened remarkedPath.toJson (.record remarkedPathFields) :=
    .record (by simp) (show (remarkedPathFields.tail.reverse).map Prod.fst = _ by rfl)
      (.cons (.same _) (.cons (.list (.cons hhop .nil)) (.cons (.same _) .nil)))
      (show ∀ f ∈ remarkedPathFields.take 1, _ by simp [remarkedPathFields]) (List.reverse_perm _).symm
  exact ⟨(decoding_restores.1 remarkedPath (by decide)).2 _ hpath, (decoding_restores.2.2.1 _ (by decide)).1,
    (decoding_restores.2.2.2.2 _ (by decide) (by decide)).1⟩

end TieWalk
