import TieWalk.Proofs.Query.NormalForm
import TieWalk.Proofs.Relation.Cells
import TieWalk.Relation.Locate

/-!
# The newest file of a table

The files of a relation table carry their version in their names. A name says a version when it is put together as the
register puts its names together, and reading a name finds the version that it says (`version?_eq_some_iff`). Of the
files in a table's directory the one with the greatest version is taken; what else is there, and the order in which a
directory is listed, play no part in it.
-/

namespace TieWalk

/-! ## Names that say a version -/

/-- A file name says a version: it is the name of the table without `TAB`, the year, `TABV`, the digits of the version,
a point, and the extension of the format in any case. Versions are numbers of 32 bits, and zeros may lead their digits.
-/
def SaysVersion (context : Context) (year : Int) (format : RelationFormat) (name : String) (version : Nat) : Prop :=
  ∃ stem digits extension : String, stem ++ "TAB" = context.tableName ∧
    name = stem ++ toString year ++ "TABV" ++ digits ++ "." ++ extension ∧
    Text.isNumeral digits.toList = true ∧ Text.natOfDigits digits.toList = version ∧ version ≤ 4294967295 ∧
    Text.sameIgnoringCase extension format.extension = true

variable {context : Context} {year : Int} {format : RelationFormat} {name : String} {version : Nat}

/-- A table's name ends in `TAB` after its stem, and after nothing else. -/
theorem append_eq_tableName_iff {stem : String} : stem ++ "TAB" = context.tableName ↔ stem = context.tableStem := by
  unfold Context.tableName
  exact String.append_left_inj "TAB"

/-- The characters of a name that says a version. -/
theorem saysVersion_iff : SaysVersion context year format name version ↔
    ∃ digits extension : List Char, name.toList = (versionedStem context year).toList ++ (digits ++ '.' :: extension) ∧
      Text.isNumeral digits = true ∧ Text.natOfDigits digits = version ∧ version ≤ 4294967295 ∧
      Text.sameIgnoringCase (String.ofList extension) format.extension = true := by
  constructor
  · rintro ⟨stem, digits, extension, hstem, rfl, hdigits⟩
    obtain rfl := append_eq_tableName_iff.1 hstem
    refine ⟨digits.toList, extension.toList, ?_, by simpa using hdigits⟩
    simp [versionedStem]
  · rintro ⟨digits, extension, hname, hdigits⟩
    refine ⟨context.tableStem, String.ofList digits, String.ofList extension, append_eq_tableName_iff.2 rfl, ?_,
      by simpa using hdigits⟩
    apply String.toList_injective
    simp [hname, versionedStem]

/-- No digit is a point. -/
theorem Text.ne_point_of_isNumeral {digits : List Char} (h : Text.isNumeral digits = true) :
    ∀ c ∈ digits, (c != '.') = true := by
  intro c hc
  have hdigit : c.isDigit = true := by
    simp only [Text.isNumeral, Bool.and_eq_true, List.all_eq_true] at h
    exact h.2 c hc
  rw [bne_iff_ne]
  rintro rfl
  exact absurd hdigit (by decide)

/-- The version that is read off a name is the one that the name says. -/
theorem version?_eq_some_iff :
    version? name context year format = some version ↔ SaysVersion context year format name version := by
  rw [saysVersion_iff]
  unfold version?
  constructor
  · intro h
    simp only at h
    split at h
    · next hstem =>
      obtain ⟨rest, hrest⟩ := List.isPrefixOf_iff_prefix.1 hstem
      rw [← hrest, List.drop_left] at h
      split at h
      · cases h
      · next point extension hpoint =>
        split at h
        · next hextension =>
          rw [Option.filter_eq_some_iff, Text.readNat?_eq_some_iff, decide_eq_true_eq] at h
          obtain ⟨⟨hdigits, hversion⟩, hbound⟩ := h
          -- What the characters up to the first point end at is that point.
          have hhead : ∀ c ∈ (rest.dropWhile fun c => c != '.').head?, (c != '.') = false :=
            Token.eq_false_of_mem_head?_dropWhile
          rw [hpoint] at hhead
          obtain rfl : point = '.' := by simpa using hhead point rfl
          refine ⟨_, extension, ?_, hdigits, hversion.symm, Nat.le_of_lt_succ hbound, hextension⟩
          rw [← hrest, ← hpoint, List.takeWhile_append_dropWhile]
        · cases h
    · cases h
  · rintro ⟨digits, extension, hname, hdigits, hversion, hbound, hextension⟩
    have hpoint : ∀ c ∈ ('.' :: extension).head?, (c != '.') = false := by simp
    obtain ⟨htake, hdrop⟩ := Token.takeWhile_dropWhile_append (Text.ne_point_of_isNumeral hdigits) hpoint
    have hstem : (versionedStem context year).toList.isPrefixOf name.toList = true :=
      List.isPrefixOf_iff_prefix.2 ⟨_, hname.symm⟩
    have hread : Text.readNat? digits = some version := Text.readNat?_eq_some_iff.2 ⟨hdigits, hversion.symm⟩
    simp only [hstem, if_true]
    rw [hname, List.drop_left, htake, hdrop]
    have hlt : version < versionBound := Nat.lt_succ_of_le hbound
    simp [hextension, hread, hlt]

/-- Zeros in front of digits make no difference to their number. -/
theorem Text.natOfDigits_zeros (n : Nat) (digits : List Char) :
    Text.natOfDigits (List.replicate n '0' ++ digits) = Text.natOfDigits digits := by
  induction n with
  | zero => rfl
  | succ n ih => exact ih

/-- A numeral with zeros in front of it is one. -/
theorem Text.isNumeral_zeros (n : Nat) {digits : List Char} (h : Text.isNumeral digits = true) :
    Text.isNumeral (List.replicate n '0' ++ digits) = true := by
  induction n with
  | zero => exact h
  | succ n ih =>
    have hall : (List.replicate n '0' ++ digits).all Char.isDigit = true := (Bool.and_eq_true_iff.1 ih).2
    rw [List.replicate_succ, List.cons_append, Text.isNumeral, List.all_cons, hall]
    rfl

/-- A number's digits say the number as a version, with any zeros in front. -/
theorem saysVersion_toString {zeros : Nat} {extension : String} (hversion : version ≤ 4294967295)
    (hextension : Text.sameIgnoringCase extension format.extension = true) :
    SaysVersion context year format (context.tableStem ++ toString year ++ "TABV" ++
      String.ofList (List.replicate zeros '0' ++ (toString version).toList) ++ "." ++ extension) version := by
  refine ⟨context.tableStem, _, extension, append_eq_tableName_iff.2 rfl, rfl, ?_, ?_, hversion, hextension⟩
  · rw [String.toList_ofList]
    exact Text.isNumeral_zeros zeros (Text.isNumeral_toString version)
  · rw [String.toList_ofList, Text.natOfDigits_zeros, Text.natOfDigits_toString]

/-! ## The greatest version -/

/-- Going through files, the better of two at a time, ends at one of them that none is better than. -/
theorem foldl_better (first : Nat × String) (rest : List (Nat × String)) :
    rest.foldl (fun best n => if best.1 < n.1 then n else best) first ∈ first :: rest ∧
      ∀ x ∈ first :: rest, x.1 ≤ (rest.foldl (fun best n => if best.1 < n.1 then n else best) first).1 := by
  induction rest generalizing first with
  | nil => simp
  | cons n rest ih =>
    rw [List.foldl_cons]
    obtain ⟨hmem, hmax⟩ := ih (if first.1 < n.1 then n else first)
    rw [List.forall_mem_cons] at hmax
    obtain ⟨hbetter, hrest⟩ := hmax
    by_cases hlt : first.1 < n.1
    · simp only [hlt, if_true] at hmem hbetter hrest ⊢
      refine ⟨List.mem_cons_of_mem _ hmem, ?_⟩
      simp only [List.forall_mem_cons]
      exact ⟨by omega, hbetter, hrest⟩
    · simp only [hlt, if_false] at hmem hbetter hrest ⊢
      refine ⟨?_, ?_⟩
      · rcases List.mem_cons.1 hmem with h | h
        · rw [h]
          exact List.mem_cons_self
        · exact List.mem_cons_of_mem _ (List.mem_cons_of_mem _ h)
      · simp only [List.forall_mem_cons]
        exact ⟨hbetter, by omega, hrest⟩

/-- There is a newest of any files, one with the greatest version. -/
theorem exists_newest?_of_ne_nil {names : List (Nat × String)} (h : names ≠ []) :
    ∃ v name, newest? names = some name ∧ (v, name) ∈ names ∧ ∀ x ∈ names, x.1 ≤ v := by
  cases names with
  | nil => exact absurd rfl h
  | cons first rest =>
    obtain ⟨hmem, hmax⟩ := foldl_better first rest
    exact ⟨_, _, rfl, hmem, hmax⟩

/-! ## Files in a directory -/

namespace Store

variable {s s' : Store} {base : String}

/-- The directory of a table holds a file of a version. -/
def HasVersion (s : Store) (base : String) (context : Context) (year : Int) (format : RelationFormat) (name : String)
    (version : Nat) : Prop :=
  ∃ names, s.list? (tableDirectory base context format) = some names ∧ name ∈ names ∧
    SaysVersion context year format name version

/-- The files of a table with their versions, in the order of the directory. -/
def versions (s : Store) (base : String) (context : Context) (year : Int) (format : RelationFormat) :
    List (Nat × String) :=
  ((s.list? (tableDirectory base context format)).getD []).filterMap fun name =>
    (version? name context year format).map fun v => (v, name)

/-- The versions that are listed are those that the store has. -/
theorem mem_versions_iff : (version, name) ∈ s.versions base context year format ↔
    s.HasVersion base context year format name version := by
  have hmem : (version, name) ∈ s.versions base context year format ↔
      name ∈ (s.list? (tableDirectory base context format)).getD [] ∧ SaysVersion context year format name version := by
    simp [versions, ← version?_eq_some_iff]
  rw [hmem]
  unfold HasVersion
  cases s.list? (tableDirectory base context format) <;> simp

/-- The newest file is that of the greatest version listed, if there is one. -/
theorem newestFile_eq : s.newestFile base context year format =
    match newest? (s.versions base context year format) with
    | some name => .ok (joinPath (tableDirectory base context format) name)
    | none => .error (.noRelationFile context year (tableDirectory base context format)) :=
  rfl

/-- Where no name says a version, no file is found. -/
theorem newestFile_of_none (h : ∀ name version, ¬s.HasVersion base context year format name version) :
    s.newestFile base context year format =
    .error (.noRelationFile context year (tableDirectory base context format)) := by
  have hnil : s.versions base context year format = [] := by
    rw [List.eq_nil_iff_forall_not_mem]
    rintro ⟨version, name⟩ hmem
    exact h name version (mem_versions_iff.1 hmem)
  rw [newestFile_eq, hnil]
  rfl

/-- Where a name says a version, the file is found whose version is the greatest. -/
theorem exists_newestFile (h : s.HasVersion base context year format name version) :
    ∃ newest v, s.newestFile base context year format = .ok (joinPath (tableDirectory base context format) newest) ∧
      s.HasVersion base context year format newest v ∧
      ∀ other w, s.HasVersion base context year format other w → w ≤ v := by
  have hne : s.versions base context year format ≠ [] := List.ne_nil_of_mem (mem_versions_iff.2 h)
  obtain ⟨v, newest, hnewest, hmem, hmax⟩ := exists_newest?_of_ne_nil hne
  refine ⟨newest, v, ?_, mem_versions_iff.1 hmem, fun other w hother => hmax (w, other) (mem_versions_iff.2 hother)⟩
  rw [newestFile_eq, hnewest]

/-- No file of a version is in a directory that cannot be listed, nor in one none of whose names says a version. -/
theorem forall_not_hasVersion_iff : (∀ name version, ¬s.HasVersion base context year format name version) ↔
    s.list? (tableDirectory base context format) = none ∨
      ∃ names, s.list? (tableDirectory base context format) = some names ∧
        ∀ name ∈ names, ∀ v, ¬SaysVersion context year format name v := by
  unfold HasVersion
  cases s.list? (tableDirectory base context format) with
  | none => simp
  | some names =>
    simp only [Option.some.injEq, exists_eq_left', not_and, reduceCtorEq, false_or]
    exact ⟨fun h name hname v => h name v hname, fun h name v hname => h name hname v⟩

/-- No two files in the directory of a table have one version. -/
def HasDistinctVersions (s : Store) (base : String) (context : Context) (year : Int) (format : RelationFormat) : Prop :=
  ∀ a b v, s.HasVersion base context year format a v → s.HasVersion base context year format b v → a = b

/-- The newest file is the one with the greatest version. -/
theorem newestFile_eq_ok_iff (hdistinct : s.HasDistinctVersions base context year format) {path : String} :
    s.newestFile base context year format = .ok path ↔
      ∃ name v, s.HasVersion base context year format name v ∧
        (∀ other w, s.HasVersion base context year format other w → w ≤ v) ∧
        path = joinPath (tableDirectory base context format) name := by
  constructor
  · intro h
    by_cases hsome : ∃ name version, s.HasVersion base context year format name version
    · obtain ⟨name, version, hversion⟩ := hsome
      obtain ⟨newest, v, hnewest, hhas, hmax⟩ := exists_newestFile hversion
      rw [h] at hnewest
      exact ⟨newest, v, hhas, hmax, Except.ok.inj hnewest⟩
    · push Not at hsome
      rw [newestFile_of_none hsome] at h
      cases h
  · rintro ⟨name, v, hhas, hmax, rfl⟩
    obtain ⟨newest, w, hnewest, hhas', hmax'⟩ := exists_newestFile hhas
    -- Both are greatest, so their versions are one, and so are the files.
    obtain rfl : v = w := Nat.le_antisymm (hmax' name v hhas) (hmax newest w hhas')
    rw [hnewest, hdistinct name newest v hhas hhas']

/-- No file is found exactly when no name in the directory says a version. -/
theorem newestFile_eq_error_iff {e : Error} : s.newestFile base context year format = .error e ↔
    (∀ name version, ¬s.HasVersion base context year format name version) ∧
      e = .noRelationFile context year (tableDirectory base context format) := by
  constructor
  · intro h
    have hnone : ∀ name version, ¬s.HasVersion base context year format name version := by
      intro name version hversion
      obtain ⟨newest, v, hnewest, -⟩ := exists_newestFile hversion
      rw [h] at hnewest
      cases hnewest
    rw [newestFile_of_none hnone] at h
    exact ⟨hnone, (Except.error.inj h).symm⟩
  · rintro ⟨hnone, rfl⟩
    exact newestFile_of_none hnone

/-- Of the files in the directory of a table, no two with one version, the one with the greatest version is found. None
is found exactly when the directory cannot be listed or no name in it says a version, and this is said of the context,
the year and the directory. Every number of 32 bits can stand in a name, with any zeros in front of it and the extension
in any case. Directories with the same files of any version give the same, however they are listed and whatever else
they hold. -/
theorem newestFile_has_greatest (hdistinct : s.HasDistinctVersions base context year format) :
    (∀ path, s.newestFile base context year format = .ok path ↔
      ∃ name v, s.HasVersion base context year format name v ∧
        (∀ other w, s.HasVersion base context year format other w → w ≤ v) ∧
        path = joinPath (tableDirectory base context format) name) ∧
    (∀ e, s.newestFile base context year format = .error e ↔
      (s.list? (tableDirectory base context format) = none ∨
        ∃ names, s.list? (tableDirectory base context format) = some names ∧
          ∀ name ∈ names, ∀ v, ¬SaysVersion context year format name v) ∧
      e = .noRelationFile context year (tableDirectory base context format)) ∧
    (∀ version zeros extension, version ≤ 4294967295 → Text.sameIgnoringCase extension format.extension = true →
      version? (context.tableStem ++ toString year ++ "TABV" ++
        String.ofList (List.replicate zeros '0' ++ (toString version).toList) ++ "." ++ extension) context year format =
          some version) ∧
    ∀ s' : Store,
      (∀ name v, s'.HasVersion base context year format name v ↔ s.HasVersion base context year format name v) →
      s'.newestFile base context year format = s.newestFile base context year format := by
  refine ⟨fun path => newestFile_eq_ok_iff hdistinct, fun e => ?_,
    fun version zeros extension hversion hextension => ?_,
    fun s' hsame => ?_⟩
  · rw [newestFile_eq_error_iff, forall_not_hasVersion_iff]
  · exact version?_eq_some_iff.2 (saysVersion_toString hversion hextension)
  · have hdistinct' : s'.HasDistinctVersions base context year format :=
      fun a b v ha hb => hdistinct a b v ((hsame a v).1 ha) ((hsame b v).1 hb)
    cases hnewest : s.newestFile base context year format with
    | ok path =>
      obtain ⟨name, v, hhas, hmax, rfl⟩ := (newestFile_eq_ok_iff hdistinct).1 hnewest
      refine (newestFile_eq_ok_iff hdistinct').2 ⟨name, v, (hsame name v).2 hhas, fun other w hother => ?_, rfl⟩
      exact hmax other w ((hsame other w).1 hother)
    | error e =>
      obtain ⟨hnone, rfl⟩ := newestFile_eq_error_iff.1 hnewest
      exact newestFile_of_none fun name version hversion => hnone name version ((hsame name version).1 hversion)

end Store

/-- A store with files of these names in the directory of the housemates' table. -/
def housemateFiles (names : List String) : Store where
  entries := (["data"], .directory) :: (["data", "HUISGENOTENNETWERKTAB"], .directory) ::
    names.map fun name => (["data", "HUISGENOTENNETWERKTAB", name], .file (.ofBytes []))

/-- Versions that are written with and without zeros, and names that say no version of the year. -/
def manyHousemateFiles : Store := housemateFiles [
  "HUISGENOTENNETWERK2020TABV9.csv", "HUISGENOTENNETWERK2020TABV4294967296.csv", "HUISGENOTENNETWERK20201TABV99.csv",
  "HUISGENOTENNETWERK2020TABV010.CSV", "HUISGENOTENNETWERK2020TABV99.csv.bak", "HUISGENOTENNETWERK2020TABV+99.csv",
  "HUISGENOTENNETWERK2020TABV.csv", "BURENNETWERK2020TABV99.csv", "HUISGENOTENNETWERK2020TABV99.parquet"]

/-- The tenth version is found, among all these names and beside the ninth alone, wherever it is listed. -/
theorem manyHousemateFiles_newest :
    manyHousemateFiles.HasDistinctVersions "data" .housemates 2020 .csv ∧
    manyHousemateFiles.newestFile "data" .housemates 2020 .csv =
      .ok "data/HUISGENOTENNETWERKTAB/HUISGENOTENNETWERK2020TABV010.CSV" ∧
    (housemateFiles ["HUISGENOTENNETWERK2020TABV010.CSV", "HUISGENOTENNETWERK2020TABV9.csv"]).newestFile "data"
      .housemates 2020 .csv = manyHousemateFiles.newestFile "data" .housemates 2020 .csv := by
  have hversions : manyHousemateFiles.versions "data" .housemates 2020 .csv =
      [(9, "HUISGENOTENNETWERK2020TABV9.csv"), (10, "HUISGENOTENNETWERK2020TABV010.CSV")] := by
    decide +kernel
  have hfew : (housemateFiles ["HUISGENOTENNETWERK2020TABV010.CSV", "HUISGENOTENNETWERK2020TABV9.csv"]).versions
      "data" .housemates
      2020 .csv = [(10, "HUISGENOTENNETWERK2020TABV010.CSV"), (9, "HUISGENOTENNETWERK2020TABV9.csv")] := by
    decide +kernel
  have hhas : ∀ name v, manyHousemateFiles.HasVersion "data" .housemates 2020 .csv name v ↔
      v = 9 ∧ name = "HUISGENOTENNETWERK2020TABV9.csv" ∨ v = 10 ∧ name = "HUISGENOTENNETWERK2020TABV010.CSV" := by
    intro name v
    rw [← Store.mem_versions_iff, hversions]
    simp
  have hdistinct : manyHousemateFiles.HasDistinctVersions "data" .housemates 2020 .csv := by
    intro a b v ha hb
    rcases (hhas a v).1 ha with ⟨hv, rfl⟩ | ⟨hv, rfl⟩ <;> rcases (hhas b v).1 hb with ⟨hw, rfl⟩ | ⟨hw, rfl⟩
    · rfl
    · omega
    · omega
    · rfl
  obtain ⟨hfound, -, -, hsame⟩ := Store.newestFile_has_greatest hdistinct
  refine ⟨hdistinct,
    (hfound _).2 ⟨"HUISGENOTENNETWERK2020TABV010.CSV", 10, (hhas _ _).2 (by simp), ?_, by decide +kernel⟩, ?_⟩
  · intro other w hother
    rcases (hhas other w).1 hother with ⟨rfl, -⟩ | ⟨rfl, -⟩ <;> omega
  · apply hsame
    intro name v
    rw [hhas, ← Store.mem_versions_iff, hfew]
    simp [or_comm]

end TieWalk
