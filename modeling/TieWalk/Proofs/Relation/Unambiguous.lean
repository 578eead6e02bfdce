import TieWalk.Proofs.Relation.Newest

/-!
# Names of one table only

A file name says a version of one context, one year and one format, if it says one at all. The tables' names differ in
their first letters, a year ends before the first `T` after them, a version before the first point, and no extension is
that of both formats. What is found for a context, a year and a format is therefore never a file that is named for
others.
-/

namespace TieWalk

/-! ## The parts of a name -/

/-- Where a mark is first found, what is before it and what is after it are the same. -/
theorem eq_of_append_mark {mark : Char} {as bs cs ds : List Char} (h : as ++ mark :: bs = cs ++ mark :: ds)
    (has : mark ∉ as) (hcs : mark ∉ cs) : as = cs ∧ bs = ds := by
  have hcut : ∀ xs ys : List Char, mark ∉ xs → (xs ++ mark :: ys).takeWhile (· != mark) = xs := by
    intro xs ys hxs
    have hall : ∀ c ∈ xs, (c != mark) = true := fun c hc => bne_iff_ne.2 fun heq => hxs (heq ▸ hc)
    exact (Token.takeWhile_dropWhile_append hall (by simp)).1
  have hbefore : as = cs := by rw [← hcut as bs has, h, hcut cs ds hcs]
  rw [hbefore] at h
  exact ⟨hbefore, (List.cons.inj (List.append_cancel_left h)).2⟩

/-- The names of the tables differ in their first letters. -/
theorem Context.eq_of_tableStem_append {a b : Context} {cs ds : List Char}
    (h : a.tableStem.toList ++ cs = b.tableStem.toList ++ ds) : a = b := by
  have hletters : ∀ c ∈ all, ∀ d ∈ all, c.tableStem.toList.head? = d.tableStem.toList.head? → c = d := by decide
  have hletter : ∀ c ∈ all, c.tableStem.toList.head?.isSome = true := by decide
  refine hletters a (mem_all a) b (mem_all b) ?_
  have hheads := congrArg List.head? h
  rw [List.head?_append, List.head?_append] at hheads
  rwa [Option.or_of_isSome (hletter a (mem_all a)), Option.or_of_isSome (hletter b (mem_all b))] at hheads

/-- Numbers are written with digits alone. -/
theorem not_mem_toString_nat {mark : Char} (hdigit : mark.isDigit = false) (k : Nat) : mark ∉ (toString k).toList := by
  intro hmark
  have hall : (toString k).toList.all Char.isDigit = true := (Bool.and_eq_true_iff.1 (Text.isNumeral_toString k)).2
  rw [List.all_eq_true.1 hall mark hmark] at hdigit
  cases hdigit

/-- The numeral of a negative number is that of its size with a minus in front. -/
theorem toList_toString_negSucc (k : Nat) : (toString (Int.negSucc k)).toList = '-' :: (toString (k + 1)).toList := by
  show ("-" ++ toString (k + 1)).toList = _
  rw [String.toList_append]
  rfl

/-- Years are written with digits and perhaps a minus sign. -/
theorem not_mem_toString_int {mark : Char} (hdigit : mark.isDigit = false) (hsign : mark ≠ '-') (n : Int) :
    mark ∉ (toString n).toList := by
  cases n with
  | ofNat k => exact not_mem_toString_nat hdigit k
  | negSucc k =>
    rw [toList_toString_negSucc]
    exact List.not_mem_cons_of_ne_of_not_mem hsign (not_mem_toString_nat hdigit (k + 1))

/-- Different years are written differently. -/
theorem eq_of_toList_toString_eq {m n : Int} (h : (toString m).toList = (toString n).toList) : m = n := by
  have hnat : ∀ {j k : Nat}, (toString j).toList = (toString k).toList → j = k := by
    intro j k hjk
    rw [← Text.natOfDigits_toString j, hjk, Text.natOfDigits_toString]
  have hsign : ∀ j k : Nat, (toString j).toList ≠ '-' :: (toString (k + 1)).toList := by
    intro j k hjk
    have hminus : '-' ∉ (toString j).toList := not_mem_toString_nat (by decide) j
    exact hminus (hjk ▸ List.mem_cons_self)
  cases m with
  | ofNat j =>
    cases n with
    | ofNat k => exact congrArg Int.ofNat (hnat h)
    | negSucc k => exact absurd (h.trans (toList_toString_negSucc k)) (hsign j k)
  | negSucc j =>
    cases n with
    | ofNat k => exact absurd (h.symm.trans (toList_toString_negSucc j)) (hsign k j)
    | negSucc k =>
      rw [toList_toString_negSucc, toList_toString_negSucc] at h
      exact congrArg Int.negSucc (Nat.succ_injective (hnat (List.cons.inj h).2))

/-- The formats have extensions that differ, the case of letters apart. -/
theorem RelationFormat.eq_of_sameIgnoringCase {a b : RelationFormat} {extension : String}
    (ha : Text.sameIgnoringCase extension a.extension = true)
    (hb : Text.sameIgnoringCase extension b.extension = true) :
    a = b := by
  simp only [Text.sameIgnoringCase, beq_iff_eq] at ha hb
  rw [ha] at hb
  cases a <;> cases b
  · rfl
  · exact absurd hb (by decide)
  · exact absurd hb (by decide)
  · rfl

variable {context context' : Context} {year year' : Int} {format format' : RelationFormat} {name : String}
  {version version' : Nat}

/-- A name says at most one version, and that of one context, one year and one format. -/
theorem SaysVersion.unique (h : SaysVersion context year format name version)
    (h' : SaysVersion context' year' format' name version') :
    context = context' ∧ year = year' ∧ format = format' ∧ version = version' := by
  obtain ⟨digits, extension, hname, hdigits, rfl, -, hextension⟩ := saysVersion_iff.1 h
  obtain ⟨digits', extension', hname', hdigits', rfl, -, hextension'⟩ := saysVersion_iff.1 h'
  have hboth : context.tableStem.toList ++
      ((toString year).toList ++ 'T' :: ("ABV".toList ++ (digits ++ '.' :: extension))) =
      context'.tableStem.toList ++
      ((toString year').toList ++ 'T' :: ("ABV".toList ++ (digits' ++ '.' :: extension'))) := by
    rw [hname'] at hname
    simpa [versionedStem] using hname.symm
  obtain rfl := Context.eq_of_tableStem_append hboth
  -- Neither year has the letter that comes after it.
  obtain ⟨hyear, hrest⟩ := eq_of_append_mark (List.append_cancel_left hboth)
    (not_mem_toString_int (by decide) (by decide) year)
    (not_mem_toString_int (by decide) (by decide) year')
  have hnoPoint : ∀ {ds : List Char}, Text.isNumeral ds = true → '.' ∉ ds :=
    fun hds hmem => absurd (Text.ne_point_of_isNumeral hds '.' hmem) (by decide)
  obtain ⟨rfl, rfl⟩ := eq_of_append_mark (List.append_cancel_left hrest) (hnoPoint hdigits) (hnoPoint hdigits')
  exact ⟨rfl, eq_of_toList_toString_eq hyear, RelationFormat.eq_of_sameIgnoringCase hextension hextension', rfl⟩

/-! ## The last name of a path -/

namespace Store

theorem cutAtSlashes_ne_nil (cs : List Char) : cutAtSlashes cs ≠ [] := by
  cases cs with
  | nil => simp [cutAtSlashes]
  | cons c cs =>
    rw [cutAtSlashes]
    split <;> simp

/-- What is on either side of a slash is cut by itself. -/
theorem cutAtSlashes_append (cs ds : List Char) :
    cutAtSlashes (cs ++ '/' :: ds) = cutAtSlashes cs ++ cutAtSlashes ds := by
  induction cs with
  | nil => simp [cutAtSlashes]
  | cons c cs ih =>
    rw [List.cons_append, cutAtSlashes, cutAtSlashes, ih]
    cases hslash : c == '/' with
    | true => rfl
    | false =>
      obtain ⟨word, words, hwords⟩ := List.exists_cons_of_ne_nil (cutAtSlashes_ne_nil cs)
      rw [hwords]
      rfl

/-- A text without a slash is one piece. -/
theorem cutAtSlashes_of_not_mem {cs : List Char} (h : '/' ∉ cs) : cutAtSlashes cs = [cs] := by
  induction cs with
  | nil => rfl
  | cons c cs ih =>
    rw [List.mem_cons, not_or] at h
    have hslash : (c == '/') = false := beq_false_of_ne (Ne.symm h.1)
    rw [cutAtSlashes, ih h.2, hslash]

/-- A path with one more name ends in that name. -/
theorem getLast?_piecesOf_joinPath {name : String} (h : '/' ∉ name.toList) (directory : String) :
    (piecesOf (joinPath directory name)).getLast? = some name := by
  have hlast : ∀ cs : List Char, (cutAtSlashes (cs ++ '/' :: name.toList)).getLast? = some name.toList := by
    intro cs
    rw [cutAtSlashes_append, cutAtSlashes_of_not_mem h, List.getLast?_concat]
  unfold piecesOf
  rw [List.getLast?_map]
  suffices hcut : (cutAtSlashes (joinPath directory name).toList).getLast? = some name.toList by
    rw [hcut, Option.map_some, String.ofList_toList]
  unfold joinPath
  split
  · next hend =>
    rw [Bool.or_eq_true, beq_iff_eq] at hend
    rw [String.toList_append]
    rcases hend with hempty | hslash
    · rw [String.isEmpty_iff.1 hempty, String.toList_empty, List.nil_append, cutAtSlashes_of_not_mem h]
      rfl
    · obtain ⟨before, hbefore⟩ := List.getLast?_eq_some_iff.1 hslash
      rw [hbefore, List.append_assoc]
      exact hlast before
  · rw [String.toList_append, String.toList_append, List.append_assoc]
    exact hlast directory.toList

end Store

/-- There is no slash in a name that says a version. -/
theorem SaysVersion.slash_not_mem (h : SaysVersion context year format name version) : '/' ∉ name.toList := by
  obtain ⟨digits, extension, hname, hdigits, -, -, hextension⟩ := saysVersion_iff.1 h
  have hstem : ∀ c ∈ Context.all, '/' ∉ c.tableStem.toList := by decide
  have hyear : '/' ∉ (toString year).toList := not_mem_toString_int (by decide) (by decide) year
  have hdigit : '/' ∉ digits := by
    intro hmem
    have hall : digits.all Char.isDigit = true := (Bool.and_eq_true_iff.1 hdigits).2
    exact absurd (List.all_eq_true.1 hall '/' hmem) (by decide)
  have hend : '/' ∉ extension := by
    intro hmem
    simp only [Text.sameIgnoringCase, String.toList_ofList, beq_iff_eq] at hextension
    have hlower : '/' ∈ format.extension.toList.map Char.toLower := hextension ▸ List.mem_map.2 ⟨'/', hmem, by decide⟩
    cases format
    all_goals exact absurd hlower (by decide)
  have hparts : name.toList =
      context.tableStem.toList ++ ((toString year).toList ++ ("TABV".toList ++ (digits ++ '.' :: extension))) := by
    rw [hname, versionedStem, String.toList_append, String.toList_append]
    simp only [List.append_assoc]
  have hmarks : '/' ∉ "TABV".toList := by decide
  rw [hparts]
  simp only [List.mem_append, List.mem_cons, not_or]
  exact ⟨hstem context (Context.mem_all context), hyear, hmarks, hdigit, by decide, hend⟩

/-- No file name is that of two contexts, two years, two formats or two versions. The file that is found for a context,
a year and a format is named for them, and for nothing else. -/
theorem version?_unambiguous :
    (∀ name context year format version context' year' format' version',
      version? name context year format = some version → version? name context' year' format' = some version' →
        context = context' ∧ year = year' ∧ format = format' ∧ version = version') ∧
    ∀ (s : Store) base context year format path, s.newestFile base context year format = .ok path →
      ∃ name version, (Store.piecesOf path).getLast? = some name ∧ version? name context year format = some version ∧
        ∀ context' year' format' version', version? name context' year' format' = some version' →
          context' = context ∧ year' = year ∧ format' = format ∧ version' = version := by
  have hunique : ∀ name context year format version context' year' format' version',
      version? name context year format = some version → version? name context' year' format' = some version' →
        context = context' ∧ year = year' ∧ format = format' ∧ version = version' :=
    fun name _ _ _ _ _ _ _ _ h h' => (version?_eq_some_iff.1 h).unique (version?_eq_some_iff.1 h')
  refine ⟨hunique, fun s base context year format path hpath => ?_⟩
  by_cases hsome : ∃ name version, s.HasVersion base context year format name version
  · obtain ⟨name, version, hversion⟩ := hsome
    obtain ⟨newest, v, hnewest, ⟨-, -, -, hsays⟩, -⟩ := Store.exists_newestFile hversion
    rw [hpath] at hnewest
    cases hnewest
    have hread : version? newest context year format = some v := version?_eq_some_iff.2 hsays
    exact ⟨newest, v, Store.getLast?_piecesOf_joinPath hsays.slash_not_mem _, hread,
      fun _ _ _ _ hother => hunique newest _ _ _ _ _ _ _ _ hother hread⟩
  · push Not at hsome
    rw [Store.newestFile_of_none hsome] at hpath
    cases hpath

/-- Files of the years 202, 2020 and -202 of one table. -/
def alikeHousemateFiles : Store := housemateFiles [
  "HUISGENOTENNETWERK2020TABV3.csv", "HUISGENOTENNETWERK202TABV02.CSV", "HUISGENOTENNETWERK-202TABV4.csv"]

/-- A version of a year before the first, and the file of the year 202 among those of years that start or end alike. -/
theorem alikeHousemateFiles_unambiguous :
    version? "FAMILIENETWERK-20TABV010.Parquet" .family (-20) .parquet = some 10 ∧
    (∀ context year format version, version? "FAMILIENETWERK-20TABV010.Parquet" context year format = some version →
      Context.family = context ∧ -20 = year ∧ RelationFormat.parquet = format ∧ 10 = version) ∧
    alikeHousemateFiles.newestFile "data" .housemates 202 .csv =
      .ok "data/HUISGENOTENNETWERKTAB/HUISGENOTENNETWERK202TABV02.CSV" ∧
    ∃ name version,
      (Store.piecesOf "data/HUISGENOTENNETWERKTAB/HUISGENOTENNETWERK202TABV02.CSV").getLast? = some name ∧
      version? name .housemates 202 .csv = some version ∧
      ∀ context year format version', version? name context year format = some version' →
        context = .housemates ∧ year = 202 ∧ format = .csv ∧ version' = version := by
  have hversion : version? "FAMILIENETWERK-20TABV010.Parquet" .family (-20) .parquet = some 10 := by decide +kernel
  have hfound : alikeHousemateFiles.newestFile "data" .housemates 202 .csv =
      .ok "data/HUISGENOTENNETWERKTAB/HUISGENOTENNETWERK202TABV02.CSV" := by decide +kernel
  exact ⟨hversion, fun context year format version h => version?_unambiguous.1 _ _ _ _ _ _ _ _ _ hversion h, hfound,
    version?_unambiguous.2 _ _ _ _ _ _ hfound⟩

end TieWalk
