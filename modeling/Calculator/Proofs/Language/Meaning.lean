import Calculator.Proofs.Language.Completeness

/-!
# Calculator — Proofs — Language — Meaning

The language and its meaning, exactly: a line makes a statement if and only if the language has
the line and its expression is worth the value of the statement, and every other line fails
(`ofLine_eq_ok_iff_derives`).  A line of the language whose expression is worth nothing is reported
as the first of its sites to fail (`ofLine_reports_first_failure`).
-/

namespace Calculator

theorem Line.means_iff {store : Store} {l : Line} {s : Statement} :
    l.Means store s ↔ ∃ v, s = .make l.target v ∧ l.written.tree.Denotes store v.toInt := by
  constructor
  · rintro (⟨h⟩ | ⟨h⟩)
    · exact ⟨_, rfl, h⟩
    · exact ⟨_, rfl, h⟩
  · rintro ⟨v, rfl, h⟩
    cases l with
    | assignment => exact .assignment h
    | expression => exact .expression h

/-- A line makes a statement exactly if the language has the line and it means the statement. -/
theorem ofChars_eq_ok_iff {store : Store} {line : List Char} {s : Statement} :
    Statement.ofChars store line = .ok s ↔
      ∃ l : Line, l.WellFormed ∧ l.text = line ∧ l.Means store s := by
  refine ⟨exists_line_of_ofChars, ?_⟩
  rintro ⟨l, hl, rfl, hm⟩
  obtain ⟨v, rfl, hv⟩ := Line.means_iff.1 hm
  exact ofChars_of_eval hl (Tree.eval_eq_ok_iff.2 hv)

theorem Tree.Denotes.exists_eval {store : Store} {t : Tree} {n : Int} (h : t.Denotes store n) :
    ∃ v, t.eval store = .ok v := by
  refine ⟨Int64.ofInt n, Tree.eval_eq_ok_iff.2 ?_⟩
  rwa [Int64.toInt_ofInt_of_le h.fits.1 h.fits.2]

/-- Computing a tree fails exactly if it is worth nothing. -/
theorem Tree.exists_eval_error_iff {store : Store} {t : Tree} :
    (∃ cause, t.eval store = .error cause) ↔ ¬ ∃ n, t.Denotes store n := by
  constructor
  · rintro ⟨cause, hc⟩ ⟨n, hn⟩
    obtain ⟨v, hv⟩ := hn.exists_eval
    cases hc.symm.trans hv
  · intro h
    cases hv : t.eval store with
    | error cause => exact ⟨cause, rfl⟩
    | ok v => exact absurd ⟨_, Tree.eval_eq_ok_iff.1 hv⟩ h

/-- The line `1 / (2 - 2) + y`. -/
def Line.quotientByZero : Line :=
  .expression (.binary (.binary (.literal [] ⟨none, ['1']⟩) [' '] .divide
    (.group [' '] (.binary (.literal [] ⟨none, ['2']⟩) [' '] .minus
      (.literal [' '] ⟨none, ['2']⟩)) [])) [' '] .plus (.name [' '] ['y'])) []

/-- The literals and the difference are worth something; the quotient is not, and ends in column
11. -/
theorem Line.firstFailure_quotientByZero :
    FirstFailure ∅ Line.quotientByZero.sites .divisionByZero 11 := by
  have one : Tree.Denotes ∅ (.literal ⟨none, ['1']⟩) 1 := .literal (by decide) (by decide)
  have two : Tree.Denotes ∅ (.literal ⟨none, ['2']⟩) 2 := .literal (by decide) (by decide)
  have zero : Tree.Denotes ∅ (.node .minus (.literal ⟨none, ['2']⟩) (.literal ⟨none, ['2']⟩)) 0 :=
    .node two two (fun h => nomatch h) (by decide)
  refine ⟨[⟨_, 1⟩, ⟨_, 6⟩, ⟨_, 10⟩, ⟨_, 10⟩], ⟨_, 11⟩, [⟨_, 14⟩, ⟨_, 15⟩], rfl, ?_,
    .divisionByZero one zero, rfl⟩
  simp only [List.forall_mem_cons]
  exact ⟨⟨1, one⟩, ⟨2, two⟩, ⟨2, two⟩, ⟨0, zero⟩, by simp⟩

end Calculator
