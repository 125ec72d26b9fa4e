import Mathlib.Data.List.Basic
import Calculator.Proofs.Language.Completeness
import Calculator.Proofs.Reading.Lockstep

/-!
# Calculator — Proofs — Layout — Placement

An expression is read alike wherever it stands.  `Displaced` relates the places of two lines that
have gone over the same text from places where the same comes next; reading keeps places displaced
(`lockstep_displaced`), so nothing that was read before, be it an equals sign or an operator, has a
part in what is read now.

**Placement** (`ofLine_assignment_placed`).  Behind the equals sign of an assignment every text, be
it an expression or not, is read as it is read behind `0+`, and as it is read on a line of its own
unless it begins with the keyword.
-/

namespace Calculator

open Statement (keyword)

/-! ### Places where the same comes next -/

/-- `c` and `c'` are as far behind `base` and `base'`, over the same text. -/
def Displaced (base base' c c' : Cursor) : Prop :=
  ∃ u, base.Passes u c ∧ base'.Passes u c'

variable {store : Store} {base base' c c' d d' : Cursor} {u : List Char}

namespace Displaced

theorem refl (base base' : Cursor) : Displaced base base' base base' :=
  ⟨[], .refl base, .refl base'⟩

theorem after_eq (hbase : base'.after = base.after) (h : Displaced base base' c c') :
    c'.after = c.after := by
  obtain ⟨u, hu, hu'⟩ := h
  exact List.append_cancel_left (hu'.1.symm.trans (hbase.trans hu.1))

/-- What is passed over at the one place is passed over at the other. -/
theorem passes (hbase : base'.after = base.after) (h : Displaced base base' c c')
    (hp : c.Passes u d) : ∃ d', c'.Passes u d' ∧ d'.after = d.after ∧ Displaced base base' d d' := by
  obtain ⟨d', hp', hd'⟩ := Cursor.exists_passes ((h.after_eq hbase).trans hp.1)
  obtain ⟨v, hv, hv'⟩ := h
  exact ⟨d', hp', hd', v ++ u, hv.trans hp, hv'.trans hp'⟩

/-- Places stay as far apart as they were at first. -/
theorem column {shift : Nat} (hbase : base.column = base'.column + shift)
    (h : Displaced base base' c c') : c.column = c'.column + shift := by
  obtain ⟨u, hu, hu'⟩ := h
  rw [hu.column, hu'.column, hbase, Nat.add_right_comm]

end Displaced

/-- Reading keeps places displaced. -/
theorem lockstep_displaced (store : Store) (hbase : base'.after = base.after) :
    Lockstep store store (Displaced base base') where
  blanks {c c'} h := by
    obtain ⟨space, d, hp, hs, hb⟩ := c.exists_blanks
    obtain ⟨d', hp', hd', h⟩ := h.passes hbase hp
    rw [Cursor.skipBlanks_eq hp hs hb, Cursor.skipBlanks_eq hp' hs (hd' ▸ hb)]
    exact h
  head? h _ _ := by rw [h.after_eq hbase]
  symbol h _ hp hp' := by
    obtain ⟨e', he', -, h⟩ := h.passes hbase hp
    exact hp'.unique he' ▸ h
  literal h _ _ hp hd := by
    obtain ⟨e', hp', he', h⟩ := h.passes hbase hp
    exact ⟨e', hp', he' ▸ hd, h⟩
  name h _ _ hp hd := by
    obtain ⟨e', hp', he', h⟩ := h.passes hbase hp
    exact ⟨rfl, e', hp', he' ▸ hd, h⟩

/-! ### Behind a zero -/

/-- What is added to zero is worth what it is worth alone. -/
theorem Operator.plus_apply_zero (v : Value) : Operator.plus.apply 0 v = .ok v := by
  refine Operator.apply_eq_ok_iff.2 ⟨by simp, ?_⟩
  change v.toInt = (0 : Value).toInt + v.toInt
  rw [Int64.toInt_zero, Int.zero_add]

/-- The chain that begins with zero goes on, behind the sign, as the chain that begins there. -/
theorem expression_behind_zero (hp : c.Passes ['0', '+'] d) :
    expression store c = expression store d := by
  obtain ⟨e, hc, he⟩ := hp.split (u := ['0'])
  have hfollow : Follow 1 e.after := by
    rw [he.1]
    exact follow_operator blanks_nil .plus d.after
  have hzero : Tree.eval store (.literal ⟨none, ['0']⟩) = .ok 0 :=
    Tree.eval_literal_eq_ok_iff.2 (by decide)
  have hreach : Reaches store maxNesting 1 c 0 e :=
    reaches_of_eval (w := .literal [] ⟨none, ['0']⟩) (by decide) (Nat.le_refl 1) (by decide)
      (Nat.zero_le _) hzero hc hfollow
  have hplus : e.Passes ([] ++ [Operator.plus.symbol]) d := he
  have hf : (readerAt store maxNesting 2).Forward := forward_readerAt store maxNesting 2
  refine hreach _ ?_
  rcases chain_cases 1 hf d with ⟨f, hr, h⟩ | ⟨first, e', hr, h⟩
  · rw [show expression store d = .error f from h]
    exact .operandFails blanks_nil rfl hplus hr
  · exact .turn blanks_nil rfl hplus hr (Operator.plus_apply_zero first) h

/-! ### Lines -/

/-- Either `line` assigns to `name` what `line'` is worth, or both are reported for the same cause
with the same detail, and `line` as many columns further on. -/
inductive AssignsAlike (store : Store) (name : String) (shift : Nat) (line line' : String) : Prop
    where
  | value {v : Value} (h : Statement.ofLine store line = .ok (.assignment name v))
      (h' : Statement.ofLine store line' = .ok (.expression v))
  | report {kind : Kind} {detail : String} {column : Nat}
      (h : Statement.ofLine store line = .error ⟨kind, detail, some (column + shift), some line⟩)
      (h' : Statement.ofLine store line' = .error ⟨kind, detail, some column, some line'⟩)

/-- An assignment and an expression that come to displaced places before they read the same. -/
theorem assignsAlike_of_targetRun {letters : List Char} {line line' : String} {shift : Nat}
    (ht : TargetRun (.start line.toList) (.ok (some letters, d)))
    (ht' : TargetRun (.start line'.toList) (.ok (none, c)))
    (hexpr : expression store c = expression store d') (hafter : d'.after = d.after)
    (hcolumn : d.column = d'.column + shift) :
    AssignsAlike store (String.ofList letters) shift line line' := by
  have hends := (lockstep_displaced store hafter).expression (.refl d d')
  have report {cause : Cause} {e e' : Cursor} (h : Displaced d d' e e')
      (hl : Statement.ofChars store line.toList = .error ⟨cause, e⟩)
      (hl' : Statement.ofChars store line'.toList = .error ⟨cause, e'⟩) :
      AssignsAlike store (String.ofList letters) shift line line' := by
    have hplace : Statement.ofLine store line =
        .error ⟨cause.kind, cause.detail, some (e'.column + shift), some line⟩ := by
      rw [← h.column hcolumn]
      exact ofLine_eq_error_iff.2 ⟨_, hl, rfl⟩
    exact .report hplace (ofLine_eq_error_iff.2 ⟨_, hl', rfl⟩)
  cases hr : expression store d with
  | error f =>
      obtain ⟨place, hr', h⟩ := (hr ▸ hends).of_error
      exact report h (LineRun.expressionFails ht hr).eq
        (LineRun.expressionFails ht' (hexpr.trans hr')).eq
  | ok ve =>
      obtain ⟨v, e⟩ := ve
      obtain ⟨e', hr', h⟩ := (hr ▸ hends).of_ok
      have hnext := h.after_eq hafter
      by_cases he : e.after = []
      · exact .value (ofLine_eq_ok_iff.2 (LineRun.finished ht hr he).eq)
          (ofLine_eq_ok_iff.2 (LineRun.finished ht' (hexpr.trans hr') (hnext.trans he)).eq)
      · exact report h (LineRun.unfinished ht hr he).eq
          (LineRun.unfinished ht' (hexpr.trans hr') (hnext.symm ▸ he)).eq

/-- The place of the expression of an assignment, behind the equals sign. -/
theorem exists_assignment_place {letters : List Char} (hn : IsName letters) (text : String) :
    ∃ d, TargetRun (.start ("let " ++ String.ofList letters ++ "=" ++ text).toList)
        (.ok (some letters, d)) ∧
      d.after = text.toList ∧ d.column = letters.length + 5 := by
  have hline : (Cursor.start ("let " ++ String.ofList letters ++ "=" ++ text).toList).after =
      [] ++ keyword ++ [' '] ++ letters ++ [] ++ ['='] ++ text.toList := by
    simp [Cursor.start, keyword]
  obtain ⟨d, hd, hafter⟩ := Cursor.exists_passes hline
  refine ⟨d, .assignment blanks_nil (by decide) hn blanks_nil hd, hafter, ?_⟩
  rw [hd.column]
  simp [Cursor.start, Cursor.column, keyword]

/-- The place of the second operand of a sum that begins with zero: the whole is read from there. -/
theorem exists_summand_place (store : Store) (text : String) :
    ∃ c d, TargetRun (.start ("0+" ++ text).toList) (.ok (none, c)) ∧
      expression store c = expression store d ∧ d.after = text.toList ∧ d.column = 2 := by
  have hline : (Cursor.start ("0+" ++ text).toList).after = ['0', '+'] ++ text.toList := by
    simp [Cursor.start]
  obtain ⟨d, hd, hafter⟩ := Cursor.exists_passes hline
  have hk : ¬ keyword <+: (Cursor.start ("0+" ++ text).toList).after := by
    rw [hline]
    rintro ⟨rest, h⟩
    cases h
  exact ⟨_, d, .expression blanks_nil (.refl _) (hline ▸ stops_cons_iff.2 (by decide)) hk,
    expression_behind_zero hd, hafter, hd.column⟩

/-- The place of an expression on a line of its own. -/
theorem exists_line_place (store : Store) {text : String}
    (hk : ¬ Line.BeginsWithKeyword text.toList) :
    ∃ c d, TargetRun (.start text.toList) (.ok (none, c)) ∧
      expression store c = expression store d ∧ d.after = text.toList ∧ d.column = 0 := by
  obtain ⟨space, c, hp, hs, hb⟩ := (Cursor.start text.toList).exists_blanks
  have hk' := mt (Line.beginsWithKeyword_iff_of_passes hp hs hb).2 hk
  exact ⟨c, .start text.toList, .expression hs hp hb hk',
    (readerAt_eq_of_blanks store maxNesting hs hp).symm, rfl, rfl⟩

/-- **Placement.**  An assignment to a name assigns what its text is worth behind `0+`, or is
reported as that is, with the column moved by the length of what stands before; and so it does with
the text on a line of its own, if that does not begin with the keyword. -/
theorem ofLine_assignment_placed (store : Store) {name : String} (hn : IsName name.toList)
    (text : String) :
    AssignsAlike store name (name.length + 3) ("let " ++ name ++ "=" ++ text) ("0+" ++ text) ∧
      (¬ Line.BeginsWithKeyword text.toList →
        AssignsAlike store name (name.length + 5) ("let " ++ name ++ "=" ++ text) text) := by
  obtain ⟨letters, rfl⟩ : ∃ letters, String.ofList letters = name := ⟨_, String.ofList_toList⟩
  rw [String.toList_ofList] at hn
  rw [String.length_ofList]
  obtain ⟨d, ht, hafter, hcolumn⟩ := exists_assignment_place hn text
  constructor
  · obtain ⟨c, d', ht', hexpr, hafter', hcolumn'⟩ := exists_summand_place store text
    refine assignsAlike_of_targetRun ht ht' hexpr (hafter'.trans hafter.symm) ?_
    rw [hcolumn, hcolumn', Nat.add_comm 2]
  · intro hk
    obtain ⟨c, d', ht', hexpr, hafter', hcolumn'⟩ := exists_line_place store hk
    refine assignsAlike_of_targetRun ht ht' hexpr (hafter'.trans hafter.symm) ?_
    rw [hcolumn, hcolumn', Nat.zero_add]

/-- A quotient is reported where it stands, behind an assignment to a name that the keyword
begins. -/
theorem ofLine_assignment_placed_quotient :
    IsName "letter".toList ∧
    Statement.ofLine ∅ "2 * (7 / 0) + y" =
      .error ⟨.divisionByZero, "", some 10, some "2 * (7 / 0) + y"⟩ ∧
    Statement.ofLine ∅ "0+2 * (7 / 0) + y" =
      .error ⟨.divisionByZero, "", some 12, some "0+2 * (7 / 0) + y"⟩ ∧
    Statement.ofLine ∅ "let letter=2 * (7 / 0) + y" =
      .error ⟨.divisionByZero, "", some 21, some "let letter=2 * (7 / 0) + y"⟩ := by
  have hn : IsName "letter".toList := by decide
  have hk : ¬ Line.BeginsWithKeyword "2 * (7 / 0) + y".toList := by decide +kernel
  have h : Statement.ofLine ∅ "2 * (7 / 0) + y" =
      .error ⟨.divisionByZero, "", some 10, some "2 * (7 / 0) + y"⟩ := by decide +kernel
  have hlength : "letter".length = 6 := by decide
  have hline : "let " ++ "letter" ++ "=" ++ "2 * (7 / 0) + y" = "let letter=2 * (7 / 0) + y" := by
    decide
  have hline' : "0+" ++ "2 * (7 / 0) + y" = "0+2 * (7 / 0) + y" := by decide
  obtain ⟨hzero, halone⟩ := ofLine_assignment_placed ∅ hn "2 * (7 / 0) + y"
  rw [hlength, hline] at hzero halone
  rw [hline'] at hzero
  cases halone hk with
  | value _ h' => cases h.symm.trans h'
  | report hl h' =>
      cases h.symm.trans h'
      cases hzero with
      | value hl' _ => cases hl.symm.trans hl'
      | report hl' h'' =>
          cases hl.symm.trans hl'
          exact ⟨hn, h, h'', hl⟩

end Calculator
