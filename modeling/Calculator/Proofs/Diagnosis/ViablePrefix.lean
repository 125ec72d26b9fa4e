import Calculator.Proofs.Diagnosis.Locality

/-!
# Calculator — Proofs — Diagnosis — Viable prefix

A line is reported where it stops being the beginning of a line of the language.  What a reader
has passed over when it fails begins an expression that zeros and closing parentheses complete
(`Begun`), by one completion for each way to fail (`AtomRun.begun`, `ChainRun.begun`); and no
completion of this kind makes the keyword out of a text that did not begin with it.

That no later column would do comes from locality: where a line of the language went on from the
character at which a line is reported, it would be reported too, for the same cause; but a line of
the language is only reported for what its expression comes to (`not_isText_of_error`).

**The viable prefix** (`ofLine_error_at_first`).  The text before the column of a report begins a
line of the language, and if the report is not about a value, no longer text does.
-/

namespace Calculator

open Statement (keyword)

/-! ### Texts that begin an expression -/

/-- A zero, with an optional sign. -/
def Written.zero (space : List Char) (sign : Option Sign) : Written := .literal space ⟨sign, ['0']⟩

theorem Written.wellFormed_zero {space : List Char} (hs : Blanks space) (sign : Option Sign)
    (precedence : Nat) : (zero space sign).WellFormed precedence :=
  ⟨hs, List.cons_ne_nil _ _, List.forall_mem_singleton.2 (by decide)⟩

/-- The text between `c` and `d` begins an expression, with blanks behind it, that is completed by
zeros and closing parentheses. -/
def Begun (precedence room : Nat) (c d : Cursor) : Prop :=
  ∃ (u rest : List Char) (w : Written) (space : List Char), c.Passes u d ∧
    (∀ x ∈ rest, x = '0' ∨ x = ')') ∧ w.WellFormed precedence ∧ w.depth ≤ room ∧ Blanks space ∧
    u ++ rest = w.text ++ space

variable {store : Store} {precedence room : Nat} {c d e f : Cursor} {v a : Value}
  {space : List Char}

namespace Begun

theorem mono {q : Nat} (h : Begun q room c d) (hpq : precedence ≤ q) :
    Begun precedence room c d := by
  obtain ⟨u, rest, w, space, hp, hrest, hw, h⟩ := h
  exact ⟨u, rest, w, space, hp, hrest, hw.mono hpq, h⟩

theorem of_spelled (h : Spelled store precedence room c v d) : Begun precedence room c d := by
  obtain ⟨w, space, hw, hd, hs, hp, -⟩ := h
  exact ⟨_, [], w, space, hp, by simp, hw, hd, hs, List.append_nil _⟩

/-- Where an atom is expected a zero can stand. -/
theorem blanks (hs : Blanks space) (hp : c.Passes space d) : Begun 3 room c d :=
  ⟨space, ['0'], .zero space none, [], hp, by simp, Written.wellFormed_zero hs none 3,
    Nat.zero_le _, blanks_nil, (List.append_nil _).symm⟩

/-- Behind a sign without digits a zero can stand; a literal with digits is complete. -/
theorem literal {l : Literal} (hs : Blanks space) (hl : l.IsWord)
    (hp : c.Passes (space ++ l.text) d) : Begun 3 room c d := by
  by_cases hd : l.digits = []
  · refine ⟨_, ['0'], .zero space l.sign, [], hp, by simp, Written.wellFormed_zero hs l.sign 3,
      Nat.zero_le _, blanks_nil, ?_⟩
    simp [Written.zero, Written.text, Literal.text, hd]
  · exact ⟨_, [], .literal space l, [], hp, by simp, ⟨hs, hd, hl.1⟩, Nat.zero_le _, blanks_nil, rfl⟩

/-- An opened parenthesis can be closed. -/
theorem group (hs : Blanks space) (hp : c.Passes (space ++ ['(']) d) (h : Begun 1 room d e) :
    Begun 3 (room + 1) c e := by
  obtain ⟨u, rest, w, space', hpu, hrest, hw, hd, hs', hu⟩ := h
  refine ⟨_, rest ++ [')'], .group space w space', [], hp.trans hpu, ?_, ⟨hs, hw, hs'⟩,
    Nat.succ_le_succ hd, blanks_nil, ?_⟩
  · intro x hx
    rcases List.mem_append.1 hx with hx | hx
    · exact hrest x hx
    · exact .inr (List.mem_singleton.1 hx)
  · have := congrArg (fun text => space ++ '(' :: (text ++ [')'])) hu
    simpa [Written.text] using this

/-- What begins the right operand of an operator begins the whole. -/
theorem binary {op : Operator} (h : Spelled store op.precedence room c a d) (hs : Blanks space)
    (hp : d.Passes (space ++ [op.symbol]) e) (h' : Begun (op.precedence + 1) room e f) :
    Begun op.precedence room c f := by
  obtain ⟨w₁, space₁, hw₁, hd₁, hs₁, hp₁, -⟩ := h
  obtain ⟨u, rest, w₂, space₂, hpu, hrest, hw₂, hd₂, hs₂, hu⟩ := h'
  refine ⟨_, rest, .binary w₁ (space₁ ++ space) op w₂, space₂, (hp₁.trans hp).trans hpu, hrest,
    ⟨Nat.le_refl _, hw₁, blanks_append_iff.2 ⟨hs₁, hs⟩, hw₂⟩, Nat.max_le.2 ⟨hd₁, hd₂⟩, hs₂, ?_⟩
  have := congrArg (fun text => w₁.text ++ (space₁ ++ (space ++ op.symbol :: text))) hu
  simpa [Written.text] using this

end Begun

/-- What the reader has passed over when it fails begins an expression. -/
def Reader.Viable (precedence room : Nat) (r : Reader Value) : Prop :=
  ∀ c f, r c = .error f → Begun precedence room c f.place

theorem AtomRun.begun {inside : Option (Reader Value)} {fault : Fault}
    (h : AtomRun store inside c (.error fault))
    (hi : ∀ r, inside = some r → ∃ n, room = n + 1 ∧ r.Sound store 1 n ∧ r.Viable 1 n) :
    Begun 3 room c fault.place := by
  cases h with
  | ended hs hp _ | tooDeep hs hp _ _ | unexpected hs hp _ _ _ | undefined hs _ hp _ _ _ =>
      exact .blanks hs hp
  | malformed hs hl hp _ _ => exact .literal hs hl hp
  | insideFails hs hp hi' hr =>
      obtain ⟨n, rfl, -, hv⟩ := hi _ hi'
      exact .group hs hp (hv _ _ hr)
  | unclosed hs hp hi' hr _ =>
      obtain ⟨n, rfl, hn, -⟩ := hi _ hi'
      exact .group hs hp (.of_spelled (hn _ _ _ hr))

theorem ChainRun.begun {operand : Reader Value} {left : Value} {out : Outcome Value}
    {fault : Fault} (h : ChainRun precedence operand left d out)
    (ho : operand.Sound store (precedence + 1) room) (hv : operand.Viable (precedence + 1) room)
    (hl : Spelled store precedence room c left d) (hout : out = .error fault) :
    Begun precedence room c fault.place := by
  induction h with
  | done => cases hout
  | operandFails hs hop hp hr =>
      cases hout
      subst hop
      exact .binary hl hs hp (hv _ _ hr)
  | applyFails hs hop hp hr _ =>
      cases hout
      subst hop
      exact .binary hl hs hp (.of_spelled (ho _ _ _ hr))
  | turn hs hop hp hr ha _ ih =>
      subst hop
      exact ih (hl.binary hs hp (ho _ _ _ hr) ha) hout

theorem viable_chain {operand : Reader Value} (hf : operand.Forward)
    (ho : operand.Sound store (precedence + 1) room) (hv : operand.Viable (precedence + 1) room) :
    Reader.Viable precedence room (chain precedence operand) := by
  intro c fault h
  rcases chain_cases precedence hf c with ⟨_, hr, hc⟩ | ⟨first, e, hr, hc⟩
  · cases hc.symm.trans h
    exact (hv _ _ hr).mono (Nat.le_succ _)
  · exact (h ▸ hc).begun ho hv ((ho _ _ _ hr).mono (Nat.le_succ _)) rfl

theorem viable_readerAt (store : Store) (room : Nat) : (readerAt store room 1).Viable 1 room := by
  refine (reader_induction store (P := fun p n r => r.Sound store p n ∧ r.Viable p n)
    (fun _ hi => ⟨?_, ?_⟩) (fun _ hf h => ⟨sound_chain hf h.1, viable_chain hf h.1 h.2⟩)
    room).2.2.2
  · exact sound_atomWith fun r hr => (hi r hr).imp fun _ h => ⟨h.1, h.2.2.1⟩
  · exact fun _ _ h => (atomRun_iff.2 h).begun fun r hr => (hi r hr).imp fun _ h => ⟨h.1, h.2.2⟩

/-- How far an expression is read, one is begun. -/
theorem begun_of_expression {out : Outcome Value} (h : expression store c = out) :
    Begun 1 maxNesting c out.place := by
  cases out with
  | ok => exact .of_spelled (spelled_of_readerAt _ _ _ _ _ h)
  | error => exact viable_readerAt _ _ _ _ h

/-! ### Texts that begin a line -/

/-- The language has a line that begins with the text. -/
def Line.IsBegun (text : List Char) : Prop := ∃ line, Line.IsText line ∧ text <+: line

/-- Where an expression is begun behind a target, a line is begun. -/
theorem TargetRun.isBegun {line : List Char} {target : Option (List Char)}
    (h : TargetRun (.start line) (.ok (target, d))) (store : Store) :
    ∃ u, (Cursor.start line).Passes u (Outcome.place (Calculator.expression store d)) ∧
      Line.IsBegun u := by
  cases h with
  | expression hs hp hb hk =>
      -- read from the beginning of the line, so that the blanks are part of what is begun
      have hread : Calculator.expression store (.start line) = Calculator.expression store d :=
        readerAt_eq_of_blanks store maxNesting hs hp
      obtain ⟨u, rest, w, space, hpu, hrest, hw, hd, hsp, hu⟩ := begun_of_expression hread
      have hkey : ¬ Line.BeginsWithKeyword line :=
        mt (Line.beginsWithKeyword_iff_of_passes hp hs hb).1 hk
      refine ⟨u, hpu, _, ⟨.expression w space, ⟨hw, hd, hsp, ?_⟩, hu.symm⟩, List.prefix_append _ _⟩
      have hstop : Stops (fun x => isBlank x || isLetter x) rest := by
        intro x hx
        rcases hrest x (List.mem_of_mem_head? hx) with rfl | rfl <;> decide
      rw [← hu]
      exact Line.not_beginsWithKeyword_append hkey ⟨_, hpu.1.symm⟩ hstop
  | @assignment space space' name space'' _ hs hs' hn hs'' hp =>
      obtain ⟨u, rest, w, trailing, hpu, -, hw, hd, ht, hu⟩ := begun_of_expression rfl
      refine ⟨_, hp.trans hpu, _, ⟨.assignment space space' name space'' w trailing,
        ⟨hs, hs', hn, hs'', hw, hd, ht⟩, rfl⟩, rest, ?_⟩
      simp [Line.text, ← hu]

/-- Where no assignment can go on, one could till there. -/
theorem TargetRun.isBegun_of_error {line : List Char} {fault : Fault}
    (h : TargetRun (.start line) (.error fault)) :
    ∃ u, (Cursor.start line).Passes u fault.place ∧ Line.IsBegun u := by
  have hzero := Written.wellFormed_zero blanks_nil none 1
  cases h with
  | @noName space space' _ hs hs' hp hb hd =>
      refine ⟨_, hp, _, ⟨.assignment space space' ['a'] [] (.zero [] none) [],
        ⟨hs, hs', by decide, blanks_nil, hzero, Nat.zero_le _, blanks_nil⟩, rfl⟩,
        ['a', '=', '0'], ?_⟩
      simp [Line.text, Written.zero, Written.text, Literal.text]
  | @noEquals space space' name space'' _ hs hs' hn hs'' hp hb hd he =>
      refine ⟨_, hp, _, ⟨.assignment space space' name space'' (.zero [] none) [],
        ⟨hs, hs', hn, hs'', hzero, Nat.zero_le _, blanks_nil⟩, rfl⟩, ['=', '0'], ?_⟩
      simp [Line.text, Written.zero, Written.text, Literal.text]

/-- What is before the place of a fault begins a line of the language. -/
theorem exists_isBegun_of_error {line : List Char} {fault : Fault}
    (h : Statement.ofChars store line = .error fault) :
    ∃ u, (Cursor.start line).Passes u fault.place ∧ Line.IsBegun u := by
  have run := lineRun_iff.2 h
  cases run with
  | targetFails ht => exact ht.isBegun_of_error
  | expressionFails ht hr | unfinished ht hr _ =>
      obtain ⟨u, hp, hu⟩ := ht.isBegun store
      rw [hr] at hp
      exact ⟨u, hp, hu⟩

/-! ### Faults of the text -/

/-- The text is wrong, and not what it comes to. -/
def Cause.IsSyntactic : Cause → Prop
  | .malformedInteger l => ∃ s : Sign, l.text = [s.symbol]
  | .divisionByZero | .undefinedVariable _ | .overflow => False
  | _ => True

theorem Cause.IsSyntactic.width_eq_zero {cause : Cause} (h : cause.IsSyntactic) :
    cause.width = 0 := by
  cases cause with
  | undefinedVariable => exact h.elim
  | _ => rfl

/-- What an expression of the language fails for is no fault of its text. -/
theorem Written.WellFormed.not_isSyntactic {w : Written} {cause : Cause}
    (hw : w.WellFormed precedence) (hv : w.tree.eval store = .error cause) :
    ¬ cause.IsSyntactic := by
  induction w generalizing precedence with
  | literal space l =>
      obtain ⟨-, rfl⟩ := Tree.eval_literal_eq_error_iff.1 hv
      rintro ⟨s, hl⟩
      obtain ⟨-, hne, hd⟩ := hw
      obtain ⟨_ | sign, digits⟩ := l
      · obtain rfl : digits = [s.symbol] := hl
        have := hd s.symbol (List.mem_singleton_self _)
        rw [isDigit_eq_false_of_mem_punctuation _ s.symbol_mem_punctuation] at this
        cases this
      · exact hne (List.cons.inj hl).2
  | name space letters =>
      obtain ⟨-, rfl⟩ := Tree.eval_name_eq_error_iff.1 hv
      exact id
  | group space inside space' ih => exact ih hw.2.1 hv
  | binary left space op right ihl ihr =>
      obtain ⟨-, hl, -, hr⟩ := hw
      rcases Tree.eval_node_eq_error_iff.1 hv with hv | ⟨a, -, hv | ⟨b, -, hv⟩⟩
      · exact ihl hl hv
      · exact ihr hr hv
      · rcases Operator.apply_eq_error_iff.1 hv with ⟨rfl, -, -⟩ | ⟨rfl, -, -⟩
        · exact id
        · exact id

/-- A line with a fault of its text is not a line of the language. -/
theorem not_isText_of_error {line : List Char} {fault : Fault}
    (h : Statement.ofChars store line = .error fault) (hf : fault.cause.IsSyntactic) :
    ¬ Line.IsText line := by
  rintro ⟨l, hl, rfl⟩
  cases hv : l.written.tree.eval store with
  | ok v => cases (ofChars_of_eval hl hv).symm.trans h
  | error cause =>
      obtain ⟨place, hplace, -⟩ := ofChars_of_eval_error hl hv
      cases hplace.symm.trans h
      exact hl.expression.1.not_isSyntactic hv hf

/-- A fault of the text is found at the first character that no line of the language goes on
with. -/
theorem not_isBegun_of_error {line : List Char} {fault : Fault}
    (h : Statement.ofChars store line = .error fault) (hf : fault.cause.IsSyntactic)
    (hlt : fault.place.column < line.length) :
    ¬ Line.IsBegun (line.take (fault.place.column + 1)) := by
  rintro ⟨text, htext, hp⟩
  have hsame : line.take (fault.place.column + 1) = text.take (fault.place.column + 1) := by
    rw [List.prefix_iff_eq_take, List.length_take_of_le hlt] at hp
    exact hp
  obtain ⟨place, hplace, -⟩ :=
    ofChars_error_local h (Nat.le_of_eq (by rw [hf.width_eq_zero, Nat.add_zero])) hsame
  exact not_isText_of_error hplace hf htext

/-- The report is about the text: about what comes next in it, or about a sign without digits. -/
def Diagnostic.IsSyntactic (d : Diagnostic) : Prop :=
  d.kind ∈ [.unexpectedEndOfInput, .unexpectedCharacter, .unexpectedInput, .expectedEquals,
    .expectedVariable, .expectedCloseParen, .nestingTooDeep] ∨
  d.kind = .malformedInteger ∧ ∃ s : Sign, d.detail = String.ofList ['"', s.symbol, '"']

theorem Fault.isSyntactic_diagnostic_iff (f : Fault) (line : String) :
    (f.diagnostic line).IsSyntactic ↔ f.cause.IsSyntactic := by
  obtain ⟨cause, place⟩ := f
  cases cause with
  | malformedInteger l =>
      have hdetail : ∀ s : Sign, String.ofList ('"' :: l.text ++ ['"']) =
          String.ofList ['"', s.symbol, '"'] ↔ l.text = [s.symbol] := fun s => by
        rw [String.ofList_inj, List.cons_append, List.cons_inj_right]
        exact (List.append_left_inj ['"'] : l.text ++ ['"'] = [s.symbol] ++ ['"'] ↔ _)
      constructor
      · rintro (h | ⟨-, s, h⟩)
        · exact absurd h (by decide : Kind.malformedInteger ∉ _)
        · exact ⟨s, (hdetail s).1 h⟩
      · rintro ⟨s, h⟩
        exact .inr ⟨rfl, s, (hdetail s).2 h⟩
  | _ =>
      simp [Diagnostic.IsSyntactic, Fault.diagnostic, Diagnostic.locate, Diagnostic.ofCause,
        Cause.kind, Cause.IsSyntactic]

/-- **The viable prefix.**  The text before the column of a report begins a line of the language.
If the report is about the text, the column is the first place where this is so: no line of the
language begins with one character more, or, at the end of the line, the line is none itself. -/
theorem ofLine_error_at_first {line : String} {report : Diagnostic}
    (h : Statement.ofLine store line = .error report) :
    ∃ column, report.column = some column ∧ column ≤ line.toList.length ∧
      (∃ text, Line.IsText text ∧ line.toList.take column <+: text) ∧
      (report.IsSyntactic →
        (column < line.toList.length →
          ∀ text, Line.IsText text → ¬ line.toList.take (column + 1) <+: text) ∧
        (column = line.toList.length → ¬ Line.IsText line.toList)) := by
  obtain ⟨f, hf, rfl⟩ := ofLine_eq_error_iff.1 h
  obtain ⟨u, hp, hu⟩ := exists_isBegun_of_error hf
  have hline : line.toList = u ++ f.place.after := hp.1
  have hcolumn : f.place.column = u.length := hp.column.trans (Nat.zero_add _)
  refine ⟨f.place.column, rfl, ?_, ?_, fun hsyn => ?_⟩
  · rw [hline, hcolumn, List.length_append]
    exact Nat.le_add_right _ _
  · rwa [hline, hcolumn, List.take_left]
  · rw [f.isSyntactic_diagnostic_iff] at hsyn
    refine ⟨fun hlt text htext hprefix => ?_, fun _ => not_isText_of_error hf hsyn⟩
    exact not_isBegun_of_error hf hsyn hlt ⟨text, htext, hprefix⟩

/-- Where a parenthesis is open behind a number, a line could go on, but not with a name. -/
theorem ofLine_error_at_first_close :
    Statement.ofLine ∅ "(1x)" = .error ⟨.expectedCloseParen, "", some 2, some "(1x)"⟩ ∧
      (∃ text, Line.IsText text ∧ "(1".toList <+: text) ∧
      ∀ text, Line.IsText text → ¬ "(1x".toList <+: text := by
  have h : Statement.ofLine ∅ "(1x)" = .error ⟨.expectedCloseParen, "", some 2, some "(1x)"⟩ := rfl
  obtain ⟨column, hc, -, hbegun, hfirst⟩ := ofLine_error_at_first h
  obtain rfl : 2 = column := Option.some.inj hc
  have hsyn : Diagnostic.IsSyntactic ⟨.expectedCloseParen, "", some 2, some "(1x)"⟩ :=
    .inl (by decide)
  exact ⟨h, hbegun, (hfirst hsyn).1 (by decide)⟩

end Calculator
