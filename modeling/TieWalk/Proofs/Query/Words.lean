import TieWalk.Proofs.Query.Checking
import TieWalk.Proofs.Query.Layout
import TieWalk.Proofs.Query.Reading

/-!
# Words of a query

A word starts with a letter or an underscore and goes on with letters, numerals, underscores and points. The variables
of a query are words of its text, each once, and there is one at least.
-/

namespace TieWalk

namespace Token

/-- Every word that is scanned is one. -/
theorem isWord_of_scan {start : Nat} {cs : List Char} {ts : List PlacedToken} (h : scan start cs = .ok ts) {w : String}
    {i : Nat} (hw : ⟨.word w, i⟩ ∈ ts) : IsWord w :=
  (scan_eq_ok_iff.1 h).isProper _ hw

/-- No word is the name that stands for every column. -/
theorem IsWord.ne_everyColumn {w : String} (h : IsWord w) : w ≠ "*" := by
  rintro rfl
  obtain ⟨c, rest, hw, hstart, -⟩ := h
  have hc : c = '*' := (List.cons.inj (hw.symm.trans (by decide : "*".toList = ['*']))).1
  rw [hc] at hstart
  exact absurd hstart (by decide)

end Token

namespace Grammar

/-- Every name is the word of a token. -/
theorem IsNames.mem_word {ts : List PlacedToken} {names : List String} (h : IsNames ts names) {name : String}
    (hname : name ∈ names) : ∃ i, ⟨.word name, i⟩ ∈ ts := by
  induction h with
  | last _ i =>
    rw [List.mem_singleton.1 hname]
    exact ⟨i, List.mem_cons_self⟩
  | more _ i j _ ih =>
    rcases List.mem_cons.1 hname with rfl | hname
    · exact ⟨i, List.mem_cons_self⟩
    · obtain ⟨k, hk⟩ := ih hname
      exact ⟨k, List.mem_cons_of_mem _ (List.mem_cons_of_mem _ hk)⟩

theorem IsVars.mem_word {ts : List PlacedToken} {names : List String} (h : IsVars ts names) {name : String}
    (hname : name ∈ names) : ∃ i, ⟨.word name, i⟩ ∈ ts := by
  cases h with
  | none => cases hname
  | some i k hnames =>
    obtain ⟨j, hj⟩ := hnames.mem_word hname
    exact ⟨j, List.mem_cons_of_mem _ (List.mem_append_left _ hj)⟩

/-- The variables of a path are words of it. -/
theorem IsPath.mem_word {ts : List PlacedToken} {p : WrittenPath} (h : IsPath ts p) {name : String}
    (hname : name ∈ p.vars) : ∃ i, ⟨.word name, i⟩ ∈ ts := by
  cases h with
  | variablesFirst i j hvars _ _ =>
    obtain ⟨k, hk⟩ := hvars.mem_word hname
    exact ⟨k, List.mem_append_left _ hk⟩
  | sampleFirst i j _ _ hvars =>
    obtain ⟨k, hk⟩ := hvars.mem_word hname
    exact ⟨k, by simp [hk]⟩

end Grammar

/-- A query has a variable, each of its variables once, and all of them words. -/
theorem Query.vars_of_ofText {text : String} {q : Query} (h : Query.ofText text = .ok q) :
    q.vars ≠ [] ∧ q.vars.Nodup ∧ ∀ name ∈ q.vars, Token.IsWord name := by
  unfold Query.ofText at h
  split at h
  · cases h
  · next p hp =>
    obtain ⟨-, ts, hscan, hpath⟩ := WrittenPath.ofText_eq_ok_iff.1 hp
    obtain ⟨hne, -, -, hvars⟩ := WrittenPath.check_eq_ok_iff.1 h
    rw [hvars]
    refine ⟨?_, nodup_eraseDups _, fun name hname => ?_⟩
    · obtain ⟨v, hv⟩ := List.exists_mem_of_ne_nil _ hne
      exact List.ne_nil_of_mem (List.mem_eraseDups.2 hv)
    · obtain ⟨i, hi⟩ := hpath.mem_word (List.mem_eraseDups.1 hname)
      exact Token.isWord_of_scan hscan hi

end TieWalk
