import TieWalk.Proofs.Walk.Counting

/-!
# Selecting while reading

A file can be read for some codes only, or for all, with the ties of other codes left out afterwards. Both come to the
same: the same ties in the same order, whether the file is read through or not, the same fault and the same number of
ties read. That is why a walk can ask each file for the codes of its stage alone.
-/

namespace TieWalk

variable {store : Store} {path : String} {format : RelationFormat}

/-- What a file is read through with: the ties that are handed on, the number of all that it has, and that of those
handed on. -/
theorem Store.scan_of_fault?_eq_none {codes : Option (AscSet Code)} (h : (store.read path format none).fault? = none) :
    store.scan path format codes = .ok ⟨(store.read path format codes).ties, (store.read path format none).ties.length,
      (store.read path format codes).ties.length⟩ := by
  have hfault : (store.read path format codes).fault? = none := by
    unfold read
    rw [Reading.fault?_ofRows, ← Reading.fault?_ofRows none]
    exact h
  have hread : (store.read path format codes).rowsRead = (store.read path format none).ties.length :=
    Reading.rowsRead_ofRows codes _
  have hkept : (store.read path format codes).rowsKept = (store.read path format codes).ties.length :=
    Reading.rowsKept_ofRows codes _
  unfold scan
  simp only [hfault, hread, hkept]

/-- A file that is not read through is not read through for any codes, and for the same fault. -/
theorem Store.scan_of_fault?_eq_some {codes : Option (AscSet Code)} {fault : ReadFault}
    (h : (store.read path format none).fault? = some fault) :
    store.scan path format codes = .error (.unreadable path fault) := by
  have hfault : (store.read path format codes).fault? = some fault := by
    unfold read
    rw [Reading.fault?_ofRows, ← Reading.fault?_ofRows none]
    exact h
  unfold scan
  simp only [hfault]

/-- A walk of one stage reports as many rows kept as its file hands on. -/
theorem rowsKept_of_walkStages {pairs : AscSet Pair} {s : LocatedStage} {course : Course}
    (h : walkStages store format pairs [s] = .ok course) :
    course.stages.map HopStats.rowsKept = [(store.read s.path format (some s.stage.codes)).ties.length] := by
  obtain ⟨-, hstages, -⟩ := report_of_walkStages h
  have hties : (store.read s.path format (some s.stage.codes)).ties = s.keptTies store format := Reading.ties_ofRows _ _
  rw [hstages, hties]
  rfl

/-- To read a file for some codes is to read it for all and to select from what it gives. The ties that are handed on,
also before a fault, are those with the codes, in their order, and the fault is the same. Either both readings fail,
with the same error, or both read the file through: then they read as many ties, of which without codes all are handed
on and counted as kept, and with codes those that are handed on. What is handed on for the codes is what a walk reports
as kept. -/
theorem Store.read_selects (store : Store) (path : String) (format : RelationFormat) (codes : AscSet Code) :
    (store.read path format (some codes)).ties =
    (store.read path format none).ties.filter (fun e => decide (e.code ∈ codes)) ∧
    (store.read path format (some codes)).fault? = (store.read path format none).fault? ∧
    ((∃ fault, store.scan path format none = .error (.unreadable path fault) ∧
        store.scan path format (some codes) = .error (.unreadable path fault)) ∨
      ∃ all kept, store.scan path format none = .ok all ∧ store.scan path format (some codes) = .ok kept ∧
        all.ties = (store.read path format none).ties ∧ kept.ties = (store.read path format (some codes)).ties ∧
        kept.rowsRead = all.rowsRead ∧ all.ties.length = all.rowsRead ∧ all.rowsKept = all.rowsRead ∧
        kept.rowsKept = kept.ties.length) ∧
    ∀ pairs s course, s.path = path → s.stage.codes = codes → walkStages store format pairs [s] = .ok course →
      course.stages.map HopStats.rowsKept = [(store.read path format (some codes)).ties.length] := by
  refine ⟨Reading.ties_ofRows codes _, ?_, ?_, ?_⟩
  · unfold read
    rw [Reading.fault?_ofRows, Reading.fault?_ofRows]
  · cases hfault : (store.read path format none).fault? with
    | some fault => exact .inl ⟨fault, scan_of_fault?_eq_some hfault, scan_of_fault?_eq_some hfault⟩
    | none =>
      exact .inr ⟨_, _, scan_of_fault?_eq_none hfault, scan_of_fault?_eq_none hfault, rfl, rfl, rfl, rfl, rfl, rfl⟩
  · rintro pairs s course rfl rfl h
    exact rowsKept_of_walkStages h

/-- A file of two ties with different codes, between which a row has no relative. -/
def parentsBytes : List UInt8 := "RINPERSOON;RINPERSOONRELATIE;RELATIE\n1;10;301\n1; ;302\n1;11;302".toUTF8.toList

/-- A store with the file. -/
def parentsStore : Store := Store.empty.write "ties.csv" (.file (.ofBytes parentsBytes))

/-- The stage that keeps one of the codes. -/
def secondParents : LocatedStage := ⟨⟨0, ⟨.family, .only (AscSet.ofList [302])⟩, AscSet.ofList [302]⟩, "ties.csv"⟩

/-- For the one code the second tie is handed on, of two that are read; a walk reports one row kept. -/
theorem parents_selected :
    (parentsStore.read "ties.csv" .csv (some (AscSet.ofList [302]))).ties =
    [⟨IntType.i64.wrap 1, IntType.i64.wrap 11, 302⟩] ∧
    (∃ kept, parentsStore.scan "ties.csv" .csv (some (AscSet.ofList [302])) = .ok kept ∧ kept.rowsRead = 2 ∧
      kept.rowsKept = 1) ∧
    ∃ course, walkStages parentsStore .csv (Pair.seeds [IntType.i64.wrap 1]) [secondParents] = .ok course ∧
      course.stages.map HopStats.rowsKept = [1] := by
  have hall : parentsStore.read "ties.csv" .csv none =
      ⟨[⟨IntType.i64.wrap 1, IntType.i64.wrap 10, 301⟩, ⟨IntType.i64.wrap 1, IntType.i64.wrap 11, 302⟩], 2, 2,
        none⟩ := by
    decide +kernel
  obtain ⟨hties, hfault, hscans, hwalk⟩ := Store.read_selects parentsStore "ties.csv" .csv (AscSet.ofList [302])
  have hsecond : (parentsStore.read "ties.csv" .csv (some (AscSet.ofList [302]))).ties =
      [⟨IntType.i64.wrap 1, IntType.i64.wrap 11, 302⟩] := by
    rw [hties, hall]
    decide
  have hreads : parentsStore.ReadsAll .csv [secondParents] := by
    refine List.forall_mem_singleton.2 ?_
    show (parentsStore.read "ties.csv" .csv none).fault? = none
    rw [hall]
  obtain ⟨course, hcourse, -⟩ := exists_walkStages_seeds hreads [IntType.i64.wrap 1]
  refine ⟨hsecond, ?_, course, hcourse, ?_⟩
  · rcases hscans with ⟨fault, hnone, -⟩ | ⟨all, kept, -, hkept, hallTies, hkeptTies, hrows, hlength, -, hkeptLength⟩
    · obtain ⟨scan, hscan⟩ : ∃ scan, parentsStore.scan "ties.csv" .csv none = .ok scan :=
        ⟨_, Store.scan_of_fault?_eq_none (by rw [hall])⟩
      rw [hnone] at hscan
      cases hscan
    · refine ⟨kept, hkept, ?_, ?_⟩
      · rw [hrows, ← hlength, hallTies, hall]
        rfl
      · rw [hkeptLength, hkeptTies, hsecond]
        rfl
  · rw [hwalk _ _ _ rfl rfl hcourse, hsecond]
    rfl

end TieWalk
