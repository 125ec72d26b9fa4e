import Calculator.Grammar.Failure
import Calculator.Proofs.Language.Soundness

/-!
# Calculator — Proofs — Language — Completeness

What is written is read.  A reader comes as far as the end of a written expression that is
followed by nothing that goes on with it (`Follow`).  If the expression comes to a value the
reader has that value there (`reaches_of_eval`); if it does not, the reader fails as the first of
its sites to fail does, and where that site reports (`fails_of_eval`).
-/

namespace Calculator

/-! ### What may follow an expression -/

/-- What may follow an expression of a precedence: nothing that goes on with its last word, and no
operator that binds more tightly. -/
structure Follow (precedence : Nat) (rest : List Char) : Prop where
  letters : Stops isLetter rest
  digits : Stops isDigit rest
  operators : ∀ op : Operator, (rest.dropWhile isBlank).head? = some op.symbol →
    op.precedence ≤ precedence

variable {store : Store} {precedence room : Nat} {c d e : Cursor} {v : Value} {op : Operator}
  {space rest : List Char}

theorem Follow.mono {q : Nat} (h : Follow precedence rest) (hq : precedence ≤ q) :
    Follow q rest :=
  ⟨h.letters, h.digits, fun op ho => Nat.le_trans (h.operators op ho) hq⟩

theorem follow_append (hs : Blanks space) (hb : Stops isBlank rest) (hl : Stops isLetter rest)
    (hd : Stops isDigit rest)
    (ho : ∀ op : Operator, rest.head? = some op.symbol → op.precedence ≤ precedence) :
    Follow precedence (space ++ rest) where
  letters := hs.stops (fun _ => isLetter_eq_false_of_isBlank) hl
  digits := hs.stops (fun _ => isDigit_eq_false_of_isBlank) hd
  operators := by rwa [hs.dropWhile_append hb]

theorem follow_blanks (hs : Blanks space) : Follow precedence space := by
  have h : Follow precedence (space ++ []) :=
    follow_append hs (stops_nil _) (stops_nil _) (stops_nil _) (by simp)
  rwa [List.append_nil] at h

theorem Operator.symbol_ne_close (op : Operator) : op.symbol ≠ ')' := by
  cases op <;> decide

theorem follow_close (hs : Blanks space) (rest : List Char) :
    Follow precedence (space ++ ')' :: rest) := by
  refine follow_append hs (stops_cons_iff.2 (by decide)) (stops_cons_iff.2 (by decide))
    (stops_cons_iff.2 (by decide)) fun op ho => ?_
  exact absurd (Option.some.inj ho).symm op.symbol_ne_close

theorem Operator.symbol_injective {op op' : Operator} (h : op.symbol = op'.symbol) : op = op' :=
  Option.some.inj ((ofChar?_eq_some_iff.2 rfl).symm.trans (ofChar?_eq_some_iff.2 h))

/-- An operator may follow the expressions that bind as tightly. -/
theorem follow_operator (hs : Blanks space) (op : Operator) (rest : List Char) :
    Follow op.precedence (space ++ op.symbol :: rest) := by
  have hm := op.symbol_mem_punctuation
  refine follow_append hs (stops_cons_iff.2 (isBlank_eq_false_of_mem_punctuation _ hm))
    (stops_cons_iff.2 (isLetter_eq_false_of_mem_punctuation _ hm))
    (stops_cons_iff.2 (isDigit_eq_false_of_mem_punctuation _ hm)) fun op' ho => ?_
  obtain rfl := Operator.symbol_injective (Option.some.inj ho)
  exact Nat.le_refl _

/-! ### How far a reader comes -/

/-- The reader of an operand has the value `v` at `d`.  An atom is read then; a chain goes on from
there. -/
def Reaches (store : Store) (room precedence : Nat) (c : Cursor) (v : Value) (d : Cursor) : Prop :=
  match precedence with
  | 3 => readerAt store room 3 c = .ok (v, d)
  | p => ∀ out, ChainRun p (readerAt store room (p + 1)) v d out → readerAt store room p c = out

theorem reaches_iff (hp : precedence = 1 ∨ precedence = 2) :
    Reaches store room precedence c v d ↔
      ∀ out, ChainRun precedence (readerAt store room (precedence + 1)) v d out →
        readerAt store room precedence c = out := by
  rcases hp with rfl | rfl <;> rfl

/-- The place where an operand of a chain ends: the operands of plus and minus are products, and a
product passes over the blanks behind it. -/
def settle (precedence : Nat) (d : Cursor) : Cursor :=
  if precedence = 1 then d.skipBlanks else d

/-- An operand that is followed by nothing that goes on with it is read. -/
theorem Reaches.readerAt_eq (hp : precedence = 1 ∨ precedence = 2)
    (h : Reaches store room (precedence + 1) c v d) (hf : Follow precedence d.after) :
    readerAt store room (precedence + 1) c = .ok (v, settle precedence d) := by
  rcases hp with rfl | rfl
  · obtain ⟨space, e, hp, hs, hb⟩ := d.exists_blanks
    rw [settle, if_pos rfl, Cursor.skipBlanks_eq hp hs hb]
    refine h _ (.done hs hp hb fun op ho => ?_)
    have := hf.operators op
    rw [hp.1, hs.dropWhile_append hb] at this
    exact Nat.ne_of_lt (Nat.lt_succ_of_le (this ho))
  · exact h

/-- It does not matter to a chain whether the blanks before an operator are passed over already. -/
theorem ChainRun.settle {operand : Reader Value} {out : Outcome Value}
    (h : ChainRun precedence operand v d out) :
    ChainRun precedence operand v (settle precedence d) out := by
  unfold Calculator.settle
  split
  · cases h with
    | done hs hp hb hd =>
        rw [Cursor.skipBlanks_eq hp hs hb]
        exact .done blanks_nil (.refl _) hb hd
    | operandFails hs ho hp hr =>
        exact .operandFails blanks_nil ho (skipBlanks_passes_operator hs hp) hr
    | applyFails hs ho hp hr ha =>
        exact .applyFails blanks_nil ho (skipBlanks_passes_operator hs hp) hr ha
    | turn hs ho hp hr ha next =>
        exact .turn blanks_nil ho (skipBlanks_passes_operator hs hp) hr ha next
  · exact h

/-! ### From an operand to the chains around it -/

/-- What holds at a precedence holds below it if it is kept by each chain. -/
theorem lower_induction {P : Nat → Prop} {p q : Nat} (hp : 1 ≤ p) (hpq : p ≤ q) (hq : q ≤ 3)
    (step : ∀ n, n = 1 ∨ n = 2 → p ≤ n → P (n + 1) → P n) (h : P q) : P p := by
  obtain ⟨k, rfl⟩ := Nat.exists_eq_add_of_le hpq
  induction k with
  | zero => exact h
  | succ k ih => exact ih (by omega) (by omega) (step (p + k) (by omega) (by omega) h)

theorem Reaches.lower {q : Nat} (hp : 1 ≤ precedence) (hpq : precedence ≤ q) (hq : q ≤ 3)
    (hf : Follow precedence d.after) (h : Reaches store room q c v d) :
    Reaches store room precedence c v d := by
  refine lower_induction hp hpq hq (fun n hn hpn h => (reaches_iff hn).2 fun out hout => ?_) h
  rw [readerAt_eq_chain store room hn]
  exact hout.settle.chain_eq (forward_readerAt _ _ _) (h.readerAt_eq hn (hf.mono hpn))

theorem readerAt_eq_error_of_le {q : Nat} {f : Fault} (hp : 1 ≤ precedence) (hpq : precedence ≤ q)
    (hq : q ≤ 3) (h : readerAt store room q c = .error f) :
    readerAt store room precedence c = .error f := by
  refine lower_induction (P := fun n => readerAt store room n c = .error f) hp hpq hq
    (fun n hn _ h => ?_) h
  rw [readerAt_eq_chain store room hn]
  exact chain_eq_error h

/-! ### Written expressions -/

theorem Literal.isWord {l : Literal} (hne : l.digits ≠ []) (hd : ∀ x ∈ l.digits, isDigit x = true) :
    l.IsWord :=
  ⟨hd, fun _ => hne⟩

/-- An atom with no parentheses is read whatever the room. -/
theorem readerAt_of_atomRun {out : Outcome Value}
    (h : ∀ inside, AtomRun store inside c out) : readerAt store room 3 c = out := by
  cases room with
  | zero =>
      rw [readerAt_zero]
      exact (h _).eq
  | succ n =>
      rw [readerAt_succ]
      exact (h _).eq

/-- An expression is read to its end where neither a blank nor an operator comes next. -/
theorem Reaches.expression_eq (h : Reaches store room 1 c v d) (hs : Blanks space)
    (hp : d.Passes space e) (hb : Stops isBlank e.after)
    (ho : ∀ op : Operator, e.after.head? ≠ some op.symbol) :
    readerAt store room 1 c = .ok (v, e) :=
  h _ (.done hs hp hb fun op h => absurd h (ho op))

/-- The places in a text in parentheses; the closing one may follow what is inside. -/
theorem exists_group_places {space' : List Char} {inside : Written} (hs' : Blanks space')
    (hc : c.Passes (Written.group space inside space').text d) :
    ∃ e f g, c.Passes (space ++ ['(']) e ∧ e.Passes inside.text f ∧ f.Passes space' g ∧
      g.Passes [')'] d ∧ Follow 1 f.after := by
  have hc : c.Passes (space ++ ['('] ++ inside.text ++ space' ++ [')']) d := by
    simpa [Written.text] using hc
  obtain ⟨g, hc, hg⟩ := hc.split
  obtain ⟨f, hc, hf⟩ := hc.split
  obtain ⟨e, hc, he⟩ := hc.split
  refine ⟨e, f, g, hc, he, hf, hg, ?_⟩
  rw [hf.1, hg.1]
  exact follow_close hs' d.after

/-- The places around an operator, which may follow its left operand. -/
theorem exists_binary_places {left right : Written} (hs : Blanks space)
    (hc : c.Passes (Written.binary left space op right).text d) :
    ∃ e f, c.Passes left.text e ∧ e.Passes (space ++ [op.symbol]) f ∧ f.Passes right.text d ∧
      Follow op.precedence e.after := by
  have hc : c.Passes (left.text ++ (space ++ [op.symbol]) ++ right.text) d := by
    simpa [Written.text] using hc
  obtain ⟨f, hc, hf⟩ := hc.split
  obtain ⟨e, hc, he⟩ := hc.split
  refine ⟨e, f, hc, he, hf, ?_⟩
  rw [he.1, List.append_assoc]
  exact follow_operator hs op _

/-- The reader of an operand comes as far as the end of a written one with its value. -/
theorem reaches_of_eval {w : Written} (hw : w.WellFormed precedence) (hp : 1 ≤ precedence)
    (hp' : precedence ≤ 3) (hr : w.depth ≤ room) (hv : w.tree.eval store = .ok v)
    (hc : c.Passes w.text d) (hf : Follow precedence d.after) :
    Reaches store room precedence c v d := by
  induction w generalizing precedence room c d v with
  | literal space l =>
      obtain ⟨hs, hne, hd⟩ := hw
      refine Reaches.lower hp hp' (Nat.le_refl 3) hf (readerAt_of_atomRun fun _ => ?_)
      exact .literal hs (Literal.isWord hne hd) hc hf.digits
        (Literal.value?_eq_some_iff.2 (Tree.eval_literal_eq_ok_iff.1 hv))
  | name space letters =>
      refine Reaches.lower hp hp' (Nat.le_refl 3) hf (readerAt_of_atomRun fun _ => ?_)
      exact .name hw.1 hw.2 hc hf.letters (Tree.eval_name_eq_ok_iff.1 hv)
  | group space inside space' ih =>
      obtain ⟨hs, hw, hs'⟩ := hw
      obtain ⟨e, f, g, hce, hef, hfg, hgd, hfollow⟩ := exists_group_places hs' hc
      obtain _ | n := room
      · exact absurd hr (Nat.not_succ_le_zero _)
      -- blanks and the closing parenthesis follow what is inside, so it is read up to there
      have inner := (ih hw (Nat.le_refl 1) (by decide) (Nat.le_of_succ_le_succ hr) hv hef
        hfollow).expression_eq hs' hfg (hgd.1 ▸ stops_cons_iff.2 (by decide)) fun op ho => by
          rw [hgd.1] at ho
          exact op.symbol_ne_close (Option.some.inj ho).symm
      refine Reaches.lower hp hp' (Nat.le_refl 3) hf ?_
      exact (AtomRun.group hs hce rfl inner hgd).eq
  | binary left space op right ihl ihr =>
      obtain ⟨hop, hl, hs, hr'⟩ := hw
      obtain ⟨a, b, ha, hb, hv⟩ := Tree.eval_node_eq_ok_iff.1 hv
      obtain ⟨hdl, hdr⟩ := Nat.max_le.1 hr
      obtain ⟨e, f, hce, hef, hfd, hfe⟩ := exists_binary_places hs hc
      have hq := op.precedence_eq
      have h1 := op.one_le_precedence
      have h3 := op.precedence_lt_three
      have hfd' := hf.mono hop
      have hleft := ihl hl h1 (Nat.le_of_lt h3) hdl ha hce hfe
      have hright := ihr hr' (Nat.le_add_left 1 _) h3 hdr hb hfd (hfd'.mono (Nat.le_succ _))
      -- the chain has the left value before the operator, and takes it with the next turn
      refine Reaches.lower hp hop (Nat.le_of_lt h3) hf ((reaches_iff hq).2 fun out hout => ?_)
      exact (reaches_iff hq).1 hleft out
        (.turn hs rfl hef (hright.readerAt_eq hq hfd') hv hout.settle)

theorem settle_column (d : Cursor) (op : Operator) :
    (settle op.precedence d).column = op.reportColumn d.line d.column := by
  unfold settle Operator.reportColumn
  split
  · rw [Cursor.drop_line]
    exact (Cursor.passes_skipWhile isBlank d).column
  · rfl

/-- The reader of an operand fails as the first site of a written one does. -/
theorem fails_of_eval {w : Written} {cause : Cause} (hw : w.WellFormed precedence)
    (hp : 1 ≤ precedence) (hp' : precedence ≤ 3) (hr : w.depth ≤ room)
    (hv : w.tree.eval store = .error cause) (hc : c.Passes w.text d)
    (hf : Follow precedence d.after) :
    ∃ place, readerAt store room precedence c = .error ⟨cause, place⟩ ∧
      FirstFailure store (w.sites c.line c.column) cause place.column := by
  induction w generalizing precedence room c d with
  | literal space l =>
      obtain ⟨hs, hne, hd⟩ := hw
      obtain ⟨hn, rfl⟩ := Tree.eval_literal_eq_error_iff.1 hv
      refine ⟨d, readerAt_eq_error_of_le hp hp' (Nat.le_refl 3) (readerAt_of_atomRun fun _ =>
        .malformed hs (Literal.isWord hne hd) hc hf.digits hn), ?_⟩
      rw [hc.column]
      exact .singleton (.literal ((Literal.value?_eq_none_iff.1 hn).resolve_left hne))
  | name space letters =>
      obtain ⟨hn, rfl⟩ := Tree.eval_name_eq_error_iff.1 hv
      obtain ⟨e, hce, hed⟩ := hc.split
      refine ⟨e, readerAt_eq_error_of_le hp hp' (Nat.le_refl 3) (readerAt_of_atomRun fun _ =>
        .undefined hw.1 hw.2 hce hed hf.letters hn), ?_⟩
      rw [hce.column]
      exact .singleton (.name hn)
  | group space inside space' ih =>
      obtain ⟨hs, hw, hs'⟩ := hw
      obtain ⟨e, f, g, hce, hef, hfg, hgd, hfollow⟩ := exists_group_places hs' hc
      obtain _ | n := room
      · exact absurd hr (Nat.not_succ_le_zero _)
      obtain ⟨place, hplace, hfirst⟩ :=
        ih hw (Nat.le_refl 1) (by decide) (Nat.le_of_succ_le_succ hr) hv hef hfollow
      refine ⟨place, readerAt_eq_error_of_le hp hp' (Nat.le_refl 3)
        (AtomRun.insideFails hs hce rfl hplace).eq, ?_⟩
      rwa [hce.line, hce.column] at hfirst
  | binary left space op right ihl ihr =>
      obtain ⟨hop, hl, hs, hr'⟩ := hw
      obtain ⟨hdl, hdr⟩ := Nat.max_le.1 hr
      obtain ⟨e, f, hce, hef, hfd, hfe⟩ := exists_binary_places hs hc
      have hq := op.precedence_eq
      have h1 := op.one_le_precedence
      have h3 := op.precedence_lt_three
      have hfd' := hf.mono hop
      -- the left operand fails, or the right one, or the operator itself
      rcases Tree.eval_node_eq_error_iff.1 hv with hv | ⟨a, ha, hv⟩
      · obtain ⟨place, hplace, hfirst⟩ := ihl hl h1 (Nat.le_of_lt h3) hdl hv hce hfe
        exact ⟨place, readerAt_eq_error_of_le hp hop (Nat.le_of_lt h3) hplace,
          hfirst.append_right.append_right⟩
      have hleft := reaches_of_eval hl h1 (Nat.le_of_lt h3) hdl ha hce hfe
      have sites := Written.denotes_sites c.line c.column (Tree.eval_eq_ok_iff.1 ha)
      rcases hv with hv | ⟨b, hb, hv⟩
      · obtain ⟨place, hplace, hfirst⟩ :=
          ihr hr' (Nat.le_add_left 1 _) h3 hdr hv hfd (hfd'.mono (Nat.le_succ _))
        refine ⟨place, readerAt_eq_error_of_le hp hop (Nat.le_of_lt h3)
          ((reaches_iff hq).1 hleft _ (.operandFails hs rfl hef hplace)), ?_⟩
        rw [hef.line, hce.line, (hce.trans hef).column] at hfirst
        exact (hfirst.append_left sites).append_right
      · have hright := (reaches_of_eval hr' (Nat.le_add_left 1 _) h3 hdr hb hfd
          (hfd'.mono (Nat.le_succ _))).readerAt_eq hq hfd'
        refine ⟨_, readerAt_eq_error_of_le hp hop (Nat.le_of_lt h3)
          ((reaches_iff hq).1 hleft _ (.applyFails hs rfl hef hright hv)), ?_⟩
        rw [settle_column, hc.line, hc.column]
        refine (FirstFailure.singleton (Tree.fails_of_apply ha hb hv)).append_left fun s hs => ?_
        rcases List.mem_append.1 hs with hs | hs
        · exact sites s hs
        · exact Written.denotes_sites _ _ (Tree.eval_eq_ok_iff.1 hb) s hs

/-! ### Lines -/

/-- The reader of a line of the language comes to its expression. -/
theorem exists_expression_place {l : Line} (hl : l.WellFormed) (store : Store) :
    ∃ c d e, TargetRun (.start l.text) (.ok (l.target, d)) ∧
      expression store d = readerAt store maxNesting 1 c ∧ c.line = l.text ∧
      c.column = l.lead.length ∧ c.Passes l.written.text e ∧ e.after = l.trailing := by
  cases l with
  | assignment space space' name space'' w trailing =>
      obtain ⟨hs, hs', hn, hs'', -⟩ := hl
      have htext : (Cursor.start (Line.assignment space space' name space'' w trailing).text).after
          = space ++ Statement.keyword ++ space' ++ name ++ space'' ++ ['='] ++
            (w.text ++ trailing) := by simp [Cursor.start, Line.text]
      obtain ⟨d, hd, hd'⟩ := Cursor.exists_passes htext
      obtain ⟨e, he, he'⟩ := Cursor.exists_passes hd'
      exact ⟨d, d, e, .assignment hs hs' hn hs'' hd, rfl, hd.line,
        hd.column.trans (Nat.zero_add _), he, he'⟩
  | expression w trailing =>
      obtain ⟨space, d, hd, hs, hb⟩ := (Cursor.start (w.text ++ trailing)).exists_blanks
      obtain ⟨e, he, he'⟩ := Cursor.exists_passes (c := Cursor.start (w.text ++ trailing)) rfl
      have hk : ¬ Statement.keyword <+: d.after :=
        mt (Line.beginsWithKeyword_iff_of_passes hd hs hb).2 hl.2.2.2
      exact ⟨_, d, e, .expression hs hd hb hk, (readerAt_eq_of_blanks store maxNesting hs hd).symm,
        rfl, rfl, he, he'⟩

/-- A line of the language makes its statement if its expression comes to a value. -/
theorem ofChars_of_eval {l : Line} (hl : l.WellFormed) (hv : l.written.tree.eval store = .ok v) :
    Statement.ofChars store l.text = .ok (.make l.target v) := by
  obtain ⟨c, d, e, ht, hexpr, -, -, hc, he⟩ := exists_expression_place hl store
  obtain ⟨hw, hd, htr⟩ := hl.expression
  have hf : Follow 1 e.after := he ▸ follow_blanks htr
  obtain ⟨past, hp, hpast⟩ := Cursor.exists_passes (c := e) (he.trans (List.append_nil _).symm)
  have hread := (reaches_of_eval hw (Nat.le_refl 1) (by decide) hd hv hc hf).expression_eq htr hp
    (hpast ▸ stops_nil _) (by simp [hpast])
  exact (LineRun.finished ht (hexpr.trans hread) hpast).eq

/-- A line of the language fails as the first of its sites does if its expression comes to none. -/
theorem ofChars_of_eval_error {l : Line} {cause : Cause} (hl : l.WellFormed)
    (hv : l.written.tree.eval store = .error cause) :
    ∃ place, Statement.ofChars store l.text = .error ⟨cause, place⟩ ∧
      FirstFailure store l.sites cause place.column := by
  obtain ⟨c, d, e, ht, hexpr, hline, hcol, hc, he⟩ := exists_expression_place hl store
  obtain ⟨hw, hd, htr⟩ := hl.expression
  have hf : Follow 1 e.after := he ▸ follow_blanks htr
  obtain ⟨place, hplace, hfirst⟩ := fails_of_eval hw (Nat.le_refl 1) (by decide) hd hv hc hf
  refine ⟨place, (LineRun.expressionFails ht (hexpr.trans hplace)).eq, ?_⟩
  rwa [hline, hcol] at hfirst

end Calculator
