import Calculator.Grammar.Line
import Calculator.Proofs.Reading.Chains

/-!
# Calculator — Proofs — Reading — Lines

What the reader of a line can do.  `TargetRun` has one rule for each way the text before the
expression of a line is read: there may be nothing but blanks, or the keyword, a name and an
equals sign.  `LineRun` puts the reading of the expression and the end of the line behind it, and
describes `Statement.ofChars` exactly (`lineRun_iff`).
-/

namespace Calculator

open Statement (keyword)

/-! ### The keyword -/

theorem stops_keyword (p : Char → Bool) (hp : p 'l' = false) (rest : List Char) :
    Stops p (keyword ++ rest) :=
  stops_cons_iff.2 hp

theorem Line.beginsWithKeyword_iff {text : List Char} :
    BeginsWithKeyword text ↔ ∃ space, Blanks space ∧ space ++ keyword <+: text := by
  constructor
  · intro h
    refine ⟨text.takeWhile isBlank, List.all_eq_true.1 List.all_takeWhile, ?_⟩
    have := (List.prefix_append_right_inj (text.takeWhile isBlank)).2 h
    rwa [List.takeWhile_append_dropWhile] at this
  · rintro ⟨space, hs, rest, rfl⟩
    rw [BeginsWithKeyword, List.append_assoc, hs.dropWhile_append (stops_keyword isBlank rfl rest)]
    exact List.prefix_append _ _

/-- Behind the blanks it shows whether a line begins with the keyword. -/
theorem Line.beginsWithKeyword_iff_of_passes {line space : List Char} {d : Cursor}
    (hp : (Cursor.start line).Passes space d) (hs : Blanks space) (hb : Stops isBlank d.after) :
    BeginsWithKeyword line ↔ keyword <+: d.after := by
  rw [BeginsWithKeyword, (show line = _ from hp.1), hs.dropWhile_append hb]

/-- A text that does not begin with the keyword does not get to by what no word goes on in. -/
theorem Line.not_beginsWithKeyword_append {line u rest : List Char}
    (h : ¬ BeginsWithKeyword line) (hu : u <+: line)
    (hrest : Stops (fun x => isBlank x || isLetter x) rest) : ¬ BeginsWithKeyword (u ++ rest) := by
  rw [beginsWithKeyword_iff] at h ⊢
  rintro ⟨space, hs, hp⟩
  -- blanks and the keyword cannot go past `u`, so they are in the line already
  refine h ⟨space, hs, (hrest.prefix_of_prefix_append (fun x hx => ?_) hp).trans hu⟩
  rcases List.mem_append.1 hx with hx | hx
  · rw [hs x hx, Bool.true_or]
  · have hl : ∀ x ∈ keyword, isLetter x = true := by decide
    rw [hl x hx, Bool.or_true]

/-- What stands before the equals sign of an assignment is blanks and letters. -/
theorem Line.mem_target {space space' name space'' : List Char} (hs : Blanks space)
    (hs' : Blanks space') (hn : IsName name) (hs'' : Blanks space'') :
    ∀ x ∈ space ++ keyword ++ space' ++ name ++ space'', (isBlank x || isLetter x) = true := by
  have hkey : ∀ x ∈ keyword, isLetter x = true := by decide
  intro x hx
  rw [Bool.or_eq_true]
  simp only [List.mem_append, or_assoc] at hx
  rcases hx with hx | hx | hx | hx | hx
  · exact .inl (hs x hx)
  · exact .inr (hkey x hx)
  · exact .inl (hs' x hx)
  · exact .inr (hn.2 x hx)
  · exact .inl (hs'' x hx)

/-! ### The rules -/

/-- The statement of an expression, or of an assignment to a name. -/
def Statement.make : Option (List Char) → Value → Statement
  | none, value => .expression value
  | some name, value => .assignment (String.ofList name) value

/-- The ways the text before an expression is read: what is assigned to, and where the expression
begins. -/
inductive TargetRun (c : Cursor) : Outcome (Option (List Char)) → Prop where
  | expression {space : List Char} {d : Cursor} (hs : Blanks space) (hp : c.Passes space d)
      (hb : Stops isBlank d.after) (hk : ¬ keyword <+: d.after) : TargetRun c (.ok (none, d))
  | noName {space space' : List Char} {d : Cursor} (hs : Blanks space) (hs' : Blanks space')
      (hp : c.Passes (space ++ keyword ++ space') d) (hb : Stops isBlank d.after)
      (hd : Stops isLetter d.after) : TargetRun c (.error ⟨.expectedVariable, d⟩)
  | noEquals {space space' name space'' : List Char} {d : Cursor} (hs : Blanks space)
      (hs' : Blanks space') (hn : IsName name) (hs'' : Blanks space'')
      (hp : c.Passes (space ++ keyword ++ space' ++ name ++ space'') d)
      (hb : Stops isBlank d.after) (hd : Stops isLetter (space'' ++ d.after))
      (he : d.after.head? ≠ some '=') : TargetRun c (.error ⟨.expectedEquals, d⟩)
  | assignment {space space' name space'' : List Char} {d : Cursor} (hs : Blanks space)
      (hs' : Blanks space') (hn : IsName name) (hs'' : Blanks space'')
      (hp : c.Passes (space ++ keyword ++ space' ++ name ++ space'' ++ ['=']) d) :
      TargetRun c (.ok (some name, d))

/-- The ways a line is read from its beginning. -/
inductive LineRun (store : Store) (c : Cursor) : Except Fault Statement → Prop where
  | targetFails {f : Fault} (ht : TargetRun c (.error f)) : LineRun store c (.error f)
  | expressionFails {target : Option (List Char)} {d : Cursor} {f : Fault}
      (ht : TargetRun c (.ok (target, d))) (hr : expression store d = .error f) :
      LineRun store c (.error f)
  | unfinished {target : Option (List Char)} {d e : Cursor} {v : Value}
      (ht : TargetRun c (.ok (target, d))) (hr : expression store d = .ok (v, e))
      (he : e.after ≠ []) : LineRun store c (.error ⟨.unexpectedInput, e⟩)
  | finished {target : Option (List Char)} {d e : Cursor} {v : Value}
      (ht : TargetRun c (.ok (target, d))) (hr : expression store d = .ok (v, e))
      (he : e.after = []) : LineRun store c (.ok (.make target v))

/-! ### The reader follows the rules -/

variable {store : Store} {c d : Cursor}

/-- Behind the keyword an assignment is read. -/
theorem read_eq_readAssignment {space : List Char} (hs : Blanks space)
    (hp : c.Passes (space ++ keyword) d) : Statement.read store c = Statement.readAssignment store d := by
  obtain ⟨e, hp, he⟩ := hp.split
  have hb : Stops isBlank e.after := he.1 ▸ stops_keyword isBlank (by decide) _
  simp only [Statement.read, Cursor.skipBlanks_eq hp hs hb, Cursor.passes_text_iff.1 he]

/-- A target that is read by the rules is what the reader of a statement reads first. -/
theorem TargetRun.read_eq {out : Outcome (Option (List Char))} (h : TargetRun c out) :
    Statement.read store c = (do
      let (target, d) ← out
      let (value, past) ← Calculator.expression store d
      .ok (.make target value, past)) := by
  cases h with
  | expression hs hp hb hk =>
      simp only [Statement.read, Cursor.skipBlanks_eq hp hs hb,
        Cursor.skipText?_eq_none_iff.2 hk]
      rfl
  | @noName _ _ d hs hs' hp hb hd =>
      obtain ⟨e, hp, he⟩ := hp.split
      simp only [read_eq_readAssignment hs hp, Statement.readAssignment,
        Cursor.skipBlanks_eq he hs' hb, Cursor.takeWhile_eq (.refl d) (by simp) hd]
      rfl
  | @noEquals _ _ name _ d hs hs' hn hs'' hp hb hd he =>
      obtain ⟨e, hp, hed⟩ := hp.split
      obtain ⟨f, hp, hfe⟩ := hp.split
      obtain ⟨g, hp, hgf⟩ := hp.split
      have hne : name.isEmpty = false := List.isEmpty_eq_false_iff.2 hn.1
      have hf : Stops isBlank f.after := hfe.1 ▸ hn.stops_isBlank _
      simp only [read_eq_readAssignment hs hp, Statement.readAssignment,
        Cursor.skipBlanks_eq hgf hs' hf, Cursor.takeWhile_eq hfe hn.2 (hed.1 ▸ hd), hne,
        Cursor.skipBlanks_eq hed hs'' hb, Cursor.skipChar?_eq_none_iff.2 he]
      rfl
  | @assignment _ _ name space'' d hs hs' hn hs'' hp =>
      obtain ⟨e, hp, hed⟩ := hp.split
      obtain ⟨f, hp, hfe⟩ := hp.split
      obtain ⟨g, hp, hgf⟩ := hp.split
      obtain ⟨i, hp, hig⟩ := hp.split
      have hne : name.isEmpty = false := List.isEmpty_eq_false_iff.2 hn.1
      have hb : Stops isBlank e.after := hed.1 ▸ stops_cons_iff.2 (by decide)
      have hl : Stops isLetter f.after := hfe.1 ▸ hs''.stops
        (fun _ => isLetter_eq_false_of_isBlank) (hed.1 ▸ stops_cons_iff.2 (by decide))
      have hg : Stops isBlank g.after := hgf.1 ▸ hn.stops_isBlank _
      simp only [read_eq_readAssignment hs hp, Statement.readAssignment,
        Cursor.skipBlanks_eq hig hs' hg, Cursor.takeWhile_eq hgf hn.2 hl, hne,
        Cursor.skipBlanks_eq hfe hs'' hb, Cursor.skipChar?_eq_some_iff.2 hed]
      rfl

/-- Every line is read by the rules as far as its target. -/
theorem exists_targetRun (c : Cursor) : ∃ out, TargetRun c out := by
  obtain ⟨space, d, hp, hs, hb⟩ := c.exists_blanks
  by_cases hk : keyword <+: d.after
  · obtain ⟨rest, hk⟩ := hk
    obtain ⟨e, he, -⟩ := Cursor.exists_passes hk.symm
    obtain ⟨space', f, hf, hs', hb⟩ := e.exists_blanks
    have hp := (hp.trans he).trans hf
    obtain ⟨name, g, hg, hn, hl⟩ := Cursor.exists_run isLetter f
    by_cases hne : name = []
    · subst hne
      obtain rfl := hg.unique (.refl f)
      exact ⟨_, .noName hs hs' hp hb hl⟩
    · obtain ⟨space'', i, hi, hs'', hb⟩ := g.exists_blanks
      have hp := (hp.trans hg).trans hi
      by_cases he : i.after.head? = some '='
      · obtain ⟨rest, he⟩ := List.head?_eq_some_iff.1 he
        obtain ⟨j, hj, -⟩ := Cursor.exists_passes (u := ['=']) he
        exact ⟨_, .assignment hs hs' ⟨hne, hn⟩ hs'' (hp.trans hj)⟩
      · exact ⟨_, .noEquals hs hs' ⟨hne, hn⟩ hs'' hp hb (hi.1 ▸ hl) he⟩
  · exact ⟨_, .expression hs hp hb hk⟩

theorem TargetRun.forward {out : Outcome (Option (List Char))} (h : TargetRun c out) :
    ∃ u, c.Passes u out.place := by
  cases h with
  | expression _ hp _ _ | noName _ _ hp _ _ | noEquals _ _ _ _ hp _ _ _
  | assignment _ _ _ _ hp => exact ⟨_, hp⟩

theorem forward_read (store : Store) : (Statement.read store).Forward := by
  intro c
  obtain ⟨⟨f⟩ | ⟨target, d⟩, ht⟩ := exists_targetRun c
  · rw [ht.read_eq]
    exact ht.forward
  · rw [ht.read_eq]
    obtain ⟨u, hu⟩ := ht.forward
    obtain ⟨u', hu'⟩ := forward_expression store d
    refine ⟨u ++ u', hu.trans ?_⟩
    change d.Passes u' (Outcome.place ((Calculator.expression store d).bind _))
    cases hr : Calculator.expression store d with
    | error f =>
        rw [hr] at hu'
        exact hu'
    | ok vd =>
        rw [hr] at hu'
        exact hu'

/-- A line that is read by the rules makes the statement that the reader makes. -/
theorem LineRun.eq {line : List Char} {out : Except Fault Statement}
    (h : LineRun store (.start line) out) : Statement.ofChars store line = out := by
  cases h with
  | targetFails ht =>
      rw [Statement.ofChars, ht.read_eq]
      rfl
  | expressionFails ht hr => simp [Statement.ofChars, ht.read_eq, hr, bind, Except.bind]
  | unfinished ht hr he =>
      simp [Statement.ofChars, ht.read_eq, hr, bind, Except.bind, Cursor.atEnd, he]
  | finished ht hr he =>
      simp [Statement.ofChars, ht.read_eq, hr, bind, Except.bind, Cursor.atEnd, he]

theorem exists_lineRun (store : Store) (c : Cursor) : ∃ out, LineRun store c out := by
  obtain ⟨⟨f⟩ | ⟨target, d⟩, ht⟩ := exists_targetRun c
  · exact ⟨_, .targetFails ht⟩
  · cases hr : expression store d with
    | error f => exact ⟨_, .expressionFails ht hr⟩
    | ok ve =>
        by_cases he : ve.2.after = []
        · exact ⟨_, .finished ht hr he⟩
        · exact ⟨_, .unfinished ht hr he⟩

theorem lineRun_iff {line : List Char} {out : Except Fault Statement} :
    LineRun store (.start line) out ↔ Statement.ofChars store line = out := by
  refine ⟨LineRun.eq, ?_⟩
  rintro rfl
  obtain ⟨out, h⟩ := exists_lineRun store (.start line)
  rwa [h.eq]

/-- Behind its target a line fails where its expression ends. -/
theorem TargetRun.place_eq {line : List Char} {target : Option (List Char)} {f : Fault}
    (ht : TargetRun (.start line) (.ok (target, d)))
    (h : Statement.ofChars store line = .error f) :
    f.place = Outcome.place (Calculator.expression store d) := by
  cases hr : Calculator.expression store d with
  | error f' =>
      cases (LineRun.expressionFails ht hr).eq.symm.trans h
      rfl
  | ok ve =>
      by_cases he : ve.2.after = []
      · cases (LineRun.finished ht hr he).eq.symm.trans h
      · cases (LineRun.unfinished ht hr he).eq.symm.trans h
        rfl

theorem ofLine_eq_ok_iff {line : String} {s : Statement} :
    Statement.ofLine store line = .ok s ↔ Statement.ofChars store line.toList = .ok s := by
  rw [Statement.ofLine]
  cases Statement.ofChars store line.toList with
  | ok s' => exact ⟨fun h => Except.ok.inj h ▸ rfl, fun h => Except.ok.inj h ▸ rfl⟩
  | error f => exact ⟨fun h => (nomatch h), fun h => (nomatch h)⟩

theorem ofLine_eq_error_iff {line : String} {report : Diagnostic} :
    Statement.ofLine store line = .error report ↔
      ∃ f, Statement.ofChars store line.toList = .error f ∧ f.diagnostic line = report := by
  rw [Statement.ofLine]
  cases Statement.ofChars store line.toList with
  | ok s => exact ⟨fun h => (nomatch h), fun ⟨_, h, _⟩ => (nomatch h)⟩
  | error f =>
      constructor
      · intro h
        exact ⟨f, rfl, Except.error.inj h⟩
      · rintro ⟨f', hf, rfl⟩
        exact Except.error.inj hf ▸ rfl

/-- Of the store nothing matters to a line but what its expression comes to. -/
theorem ofLine_eq_of_expression_eq {store' : Store} {line : String}
    (h : ∀ target d, TargetRun (.start line.toList) (.ok (target, d)) →
      Calculator.expression store' d = Calculator.expression store d) :
    Statement.ofLine store' line = Statement.ofLine store line := by
  obtain ⟨out, run⟩ := exists_lineRun store (.start line.toList)
  have run' : LineRun store' (.start line.toList) out := by
    cases run with
    | targetFails ht => exact .targetFails ht
    | expressionFails ht hr => exact .expressionFails ht ((h _ _ ht).trans hr)
    | unfinished ht hr he => exact .unfinished ht ((h _ _ ht).trans hr) he
    | finished ht hr he => exact .finished ht ((h _ _ ht).trans hr) he
  rw [Statement.ofLine, Statement.ofLine, run.eq, run'.eq]

/-- What a line assigns to is read before its expression. -/
theorem targetRun_of_ofLine {line name : String} {v : Value}
    (h : Statement.ofLine store line = .ok (.assignment name v)) :
    ∃ d, TargetRun (.start line.toList) (.ok (some name.toList, d)) := by
  generalize hs : Statement.assignment name v = s at h
  obtain ⟨out, hrun⟩ := exists_lineRun store (.start line.toList)
  obtain rfl := hrun.eq.symm.trans (ofLine_eq_ok_iff.1 h)
  cases hrun with
  | @finished target d _ _ ht =>
      cases target with
      | none => cases hs
      | some letters =>
          cases hs
          rw [String.toList_ofList]
          exact ⟨d, ht⟩

/-- A line of blanks is reported at its end, where an operand is missed. -/
theorem ofLine_of_blanks (store : Store) {line : String} (h : Blanks line.toList) :
    Statement.ofLine store line =
      .error ⟨.unexpectedEndOfInput, "", some line.length, some line⟩ := by
  have hline : (Cursor.start line.toList).after = line.toList ++ [] := by simp [Cursor.start]
  obtain ⟨d, hp, hd⟩ := Cursor.exists_passes hline
  have ht : TargetRun (.start line.toList) (.ok (none, d)) :=
    .expression h hp (hd ▸ stops_nil _) (hd ▸ by decide)
  have hr : expression store d = .error ⟨.unexpectedEndOfInput, d⟩ :=
    readerAt_eq_of_ended store maxNesting blanks_nil (.refl d) hd
  have hcolumn : d.column = line.length := by
    rw [hp.column, String.length_toList]
    exact Nat.zero_add _
  rw [← hcolumn]
  exact ofLine_eq_error_iff.2 ⟨_, (LineRun.expressionFails ht hr).eq, rfl⟩

end Calculator
