import TieWalk.Table.Join

/-!
# Putting aggregates beside the sample

The aggregates are keyed by sample person, one row for each person who reached someone. They are joined to the sample by
the person identifier as a long word, so that every sample row stands exactly once, in its place, with absent cells
where there is nothing to put.
-/

namespace TieWalk

theorem height_of_column? {f : Frame} {name : String} {c : Column} (h : f.column? name = some c) :
    c.height = f.height :=
  f.even c (Frame.mem_columns_of_column? h).1

/-- The sample with its person identifiers repeated as long words under the name that aggregates are keyed by. -/
def keyedSample (f : Frame) : Except Error Frame :=
  match h : f.column? ColumnName.person with
  | none => .error (.operation (.unknownColumn ColumnName.person))
  | some ids => .ok (f.put (ids.toLongs.rename ColumnName.samplePerson) (by simp [height_of_column? h]))

/-- Puts the columns of aggregates beside those of the sample. -/
def Table.attach (sample : Table) (aggregated : Frame) : Except Error Frame :=
  if ColumnName.samplePerson ∉ aggregated.names then
    .error (.column .intermediate ColumnName.samplePerson .missing)
  else
    match sample.toFrame with
    | .error e => .error e
    | .ok f =>
      match keyedSample f with
      | .error e => .error e
      | .ok keyed =>
        match keyed.join aggregated ColumnName.samplePerson ColumnName.samplePerson .left with
        | .error e => .error e
        | .ok joined =>
          let output := joined.drop ColumnName.samplePerson
          if output.height = sample.height then .ok output
          else .error (.frame (.rowCount output.height sample.height))

end TieWalk
