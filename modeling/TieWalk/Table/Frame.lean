import TieWalk.Error
import TieWalk.Table.Column

/-!
# Frames

A frame is a list of columns with different names and the same number of cells. Both are part of the type, so whatever
builds a frame from columns has to check them (`ofColumns?`) or keep them (`pick`, `put`, `drop`).
-/

namespace TieWalk

/-- The number of rows of columns that agree on it: that of the first, and none where there is no column. -/
def heightOf : List Column → Nat
  | [] => 0
  | c :: _ => c.height

theorem even_of_forall {columns : List Column} {n : Nat} (h : ∀ c ∈ columns, c.height = n) :
    ∀ c ∈ columns, c.height = heightOf columns := by
  cases columns with
  | nil => exact nofun
  | cons a l =>
    intro c hc
    rw [h c hc, heightOf, h a List.mem_cons_self]

/-- Columns of one height with different names. -/
structure Frame where
  columns : List Column
  distinct : (columns.map Column.name).Nodup
  even : ∀ c ∈ columns, c.height = heightOf columns

namespace Frame

/-- The number of rows. -/
def height (f : Frame) : Nat := heightOf f.columns

/-- The column names, in order. -/
def names (f : Frame) : List String := f.columns.map Column.name

/-- The column of a name. -/
def column? (f : Frame) (name : String) : Option Column := f.columns.find? fun c => c.name == name

/-- The frame of columns, if their names differ and their heights agree. -/
def ofColumns? (columns : List Column) : Except Error Frame :=
  if distinct : (columns.map Column.name).Nodup then
    if even : ∀ c ∈ columns, c.height = heightOf columns then .ok ⟨columns, distinct, even⟩
    else .error (.operation .unevenColumns)
  else
    let names := columns.map Column.name
    .error (.operation (.repeatedName ((names.find? fun n => 1 < names.count n).getD "")))

/-- The column of a name, which an operation needs. -/
def columnOr (f : Frame) (name : String) : Except Error Column :=
  match f.column? name with
  | some c => .ok c
  | none => .error (.operation (.unknownColumn name))

/-- The name by which an operation takes every column of a frame, whether or not a column bears it. -/
def everyColumn : String := "*"

/-- The column that an operation takes by a name. -/
def columnFor (f : Frame) (name : String) : Except Error Column :=
  if name = everyColumn then
    match f.columns with
    | [c] => .ok c
    | _ => .error (.operation .everyColumn)
  else f.columnOr name

/-- The rows of row numbers, in their order; a missing row number gives a row of absent cells. -/
def pick (f : Frame) (rows : List (Option Nat)) : Frame where
  columns := f.columns.map fun c => c.pick rows
  distinct := by simpa [Function.comp_def] using f.distinct
  even := even_of_forall fun c hc => by
    obtain ⟨_, _, rfl⟩ := List.mem_map.1 hc
    exact Column.height_pick _ rows

/-- The frame without the column of a name. -/
def drop (f : Frame) (name : String) : Frame where
  columns := f.columns.filter fun c => c.name != name
  distinct := f.distinct.sublist (List.filter_sublist.map _)
  even := even_of_forall fun c hc => f.even c (List.mem_filter.1 hc).1

/-- The columns, each replaced by one of the same name and height. -/
def mapColumns (f : Frame) (g : Column → Column) (hname : ∀ c, (g c).name = c.name)
    (hheight : ∀ c, (g c).height = c.height) : Frame where
  columns := f.columns.map g
  distinct := by simpa [Function.comp_def, hname] using f.distinct
  even := even_of_forall fun c hc => by
    obtain ⟨d, hd, rfl⟩ := List.mem_map.1 hc
    rw [hheight, f.even d hd]

/-- The cells of a column as long words; other columns are kept. -/
def castLongs (f : Frame) (name : String) : Frame :=
  f.mapColumns (fun c => if c.name = name then c.toLongs else c) (fun c => by split <;> simp)
  (fun c => by split <;> simp)

/-- Columns without values among those named, as columns of absent doubles. -/
def castNulls (f : Frame) (names : List String) : Frame :=
  f.mapColumns (fun c => if c.name ∈ names then c.nullAsFloat else c) (fun c => by split <;> simp)
    (fun c => by split <;> simp)

/-- The frame with a column put in the place of the one with its name, or after all others. -/
def put (f : Frame) (c : Column) (h : c.height = f.height) : Frame :=
  if hmem : c.name ∈ f.names then
    { columns := f.columns.map fun d => if d.name = c.name then c else d
      distinct := by
        have : (f.columns.map fun d => if d.name = c.name then c else d).map Column.name = f.names := by
          simp only [List.map_map, names]
          refine List.map_congr_left fun d _ => ?_
          simp only [Function.comp]
          split
          · next e => exact e.symm
          · rfl
        rw [this]
        exact f.distinct
      even := even_of_forall fun d hd => by
        obtain ⟨e, he, rfl⟩ := List.mem_map.1 hd
        split
        · exact h
        · exact f.even e he }
  else
    { columns := f.columns ++ [c]
      distinct := by
        rw [List.map_append, List.nodup_append]
        exact ⟨f.distinct, by simp, fun a ha b hb e => hmem (by simp_all [names])⟩
      even := even_of_forall fun d hd => by
        rcases List.mem_append.1 hd with hd | hd
        · exact f.even d hd
        · rw [List.mem_singleton.1 hd, h]
          rfl }

/-- The rows whose flag is set. -/
def keep (f : Frame) (flags : List Bool) : Frame :=
  f.pick (((List.range f.height).filter fun i => flags[i]?.getD false).map some)

@[simp] theorem names_pick (f : Frame) (rows : List (Option Nat)) : (f.pick rows).names = f.names := by
  simp [names, pick, Function.comp_def]

theorem mem_columns_of_column? {f : Frame} {name : String} {c : Column} (h : f.column? name = some c) :
    c ∈ f.columns ∧ c.name = name :=
  ⟨List.mem_of_find?_eq_some h, by simpa using List.find?_some h⟩

theorem columns_of_ofColumns? {columns : List Column} {f : Frame} (h : ofColumns? columns = .ok f) :
    f.columns = columns := by
  unfold ofColumns? at h
  split at h
  · split at h
    · cases h; rfl
    · cases h
  · cases h

end Frame

end TieWalk
