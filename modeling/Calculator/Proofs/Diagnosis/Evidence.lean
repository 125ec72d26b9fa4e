import Calculator.Proofs.Language.Meaning
import Calculator.Proofs.Language.Nesting
import Calculator.Proofs.Reading.Endings

/-!
# Calculator — Proofs — Diagnosis — Evidence

A report is borne out by the line.  The place of a fault divides the line into the text before it
and the text after it, and `Evidence` has one rule for each cause of a fault in an expression, which
says what these two texts have to be like.  Evidence is found where the fault is made
(`AtomRun.evidence`, `ChainRun.evidence`), and a text in front of the expression only adds to it: the
parentheses that are open there (`Evidence.prepend`).  `Line.Evidence` has the rules for the rest of
a line.

**Evidence** (`ofLine_error_borne_out`).  A report names its line and a place in it, and what it says
of the place is borne out by the text on both sides and by the store.
-/

namespace Calculator

open Statement (keyword)

/-! ### What the texts have to be like -/

/-- What bears out a fault in an expression: the text before its place, the text after it and the
store.  Where the text before it begins, `room` parentheses may be open at once. -/
inductive Evidence (store : Store) (room : Nat) (before after : List Char) : Cause → Prop where
  /-- Nothing comes next. -/
  | ended (ha : after = []) : Evidence store room before after .unexpectedEndOfInput
  /-- What comes next is no blank and begins no atom. -/
  | unexpected {x : Char} (ha : after.head? = some x) (hb : isBlank x = false)
      (hx : ¬ OpensAtom x) : Evidence store room before after (.unexpectedCharacter x)
  /-- A literal ends here that has no digits or does not fit. -/
  | malformed {l : Literal} (hl : l.IsWord) (hb : l.text <:+ before) (ha : Stops isDigit after)
      (hv : l.digits = [] ∨ ¬ Value.Fits l.number) :
      Evidence store room before after (.malformedInteger l)
  /-- A name that is not set comes next, from its first letter to its last. -/
  | undefined {letters rest : List Char} (hn : IsName letters) (hb : Stops isLetter before.reverse)
      (ha : after = letters ++ rest) (hr : Stops isLetter rest)
      (hs : store[String.ofList letters]? = none) :
      Evidence store room before after (.undefinedVariable (String.ofList letters))
  /-- A parenthesis comes next, and all that may be open are. -/
  | tooDeep (hb : excess before = room) (ha : after.head? = some '(') :
      Evidence store room before after .nestingTooDeep
  /-- A parenthesis is open, and what comes next neither goes on inside it nor closes it. -/
  | unclosed (hb : 0 < excess before) (ha : after.head? ≠ some ')') (hs : Stops isBlank after)
      (ho : ∀ op : Operator, after.head? ≠ some op.symbol) :
      Evidence store room before after .expectedCloseParen
  /-- An operator with its operands ends here and fails by itself.  Behind a sum the blanks are
  passed over, behind a product they are not. -/
  | operator {op : Operator} {left right : Written} {space front trailing : List Char}
      {cause : Cause} (hw : (Written.binary left space op right).WellFormed op.precedence)
      (hb : before = front ++ (Written.binary left space op right).text ++ trailing)
      (ht : Blanks trailing) (ha : if op.precedence = 1 then Stops isBlank after else trailing = [])
      (hf : (Tree.node op left.tree right.tree).Fails store cause) :
      Evidence store room before after cause

variable {store : Store} {precedence room : Nat} {c d e f : Cursor}
  {space before after lead : List Char} {cause : Cause} {fault : Fault}

/-- A text in front adds the parentheses that are open behind it. -/
theorem Evidence.prepend (h : Evidence store room before after cause) {n : Nat}
    (hn : excess lead = n) (hl : Stops isLetter lead.reverse) :
    Evidence store (room + n) (lead ++ before) after cause := by
  cases h with
  | ended ha => exact .ended ha
  | unexpected ha hb hx => exact .unexpected ha hb hx
  | malformed hl' hb ha hv => exact .malformed hl' (hb.trans (List.suffix_append lead before)) ha hv
  | undefined hn' hb ha hr hs =>
      refine .undefined hn' ?_ ha hr hs
      rw [List.reverse_append]
      exact hb.append hl
  | tooDeep hb ha =>
      refine .tooDeep ?_ ha
      rw [excess_append, hn, hb]
      omega
  | unclosed hb ha hs ho =>
      refine .unclosed ?_ ha hs ho
      rw [excess_append, hn]
      omega
  | @operator op left right space front trailing _ hw hb ht ha hf =>
      have hb : lead ++ before =
          lead ++ front ++ (Written.binary left space op right).text ++ trailing := by
        rw [hb]
        simp only [List.append_assoc]
      exact .operator hw hb ht ha hf

/-! ### Where faults are made -/

/-- What is before the place where the reader fails, and what is after it, bears out the fault. -/
def Reader.Evident (store : Store) (room : Nat) (r : Reader Value) : Prop :=
  ∀ c fault, r c = .error fault →
    ∃ u, c.Passes u fault.place ∧ Evidence store room u fault.place.after fault.cause

theorem excess_open (hs : Blanks space) : excess (space ++ ['(']) = 1 := by
  rw [excess_append, hs.flat.excess_eq]
  rfl

theorem AtomRun.evidence {inside : Option (Reader Value)}
    (h : AtomRun store inside c (.error fault)) (hnone : inside = none → room = 0)
    (hi : ∀ r, inside = some r → ∃ n, room = n + 1 ∧ r.Sound store 1 n ∧ r.Ending 1 ∧
      r.Evident store n) :
    ∃ u, c.Passes u fault.place ∧ Evidence store room u fault.place.after fault.cause := by
  cases h with
  | ended hs hp hd => exact ⟨_, hp, .ended hd⟩
  | malformed hs hl hp hd hv =>
      exact ⟨_, hp, .malformed hl (List.suffix_append _ _) hd (Literal.value?_eq_none_iff.1 hv)⟩
  | undefined hs hn hp he hd hv =>
      exact ⟨_, hp, .undefined hn hs.stops_reverse he.1 hd hv⟩
  | tooDeep hs hp he hi =>
      refine ⟨_, hp, .tooDeep ?_ (by rw [he.1]; rfl)⟩
      rw [hs.flat.excess_eq, hnone hi]
      rfl
  | insideFails hs hp hi' hr =>
      obtain ⟨n, rfl, -, -, hn⟩ := hi _ hi'
      obtain ⟨u, hu, h⟩ := hn _ _ hr
      exact ⟨_, hp.trans hu,
        h.prepend (excess_open hs) (stops_reverse_concat_iff.2 (by decide))⟩
  | unclosed hs hp hi' hr he =>
      obtain ⟨n, rfl, hsound, hends, -⟩ := hi _ hi'
      obtain ⟨w, trailing, hw, -, ht, hp', -⟩ := hsound _ _ _ hr
      have hend := hends _ _ _ hr
      refine ⟨_, hp.trans hp', .unclosed ?_ he (hend.settled (by decide)) hend.head?_ne_symbol⟩
      rw [excess_append, excess_open hs, Written.excess_text_append_blanks hw ht]
      decide
  | unexpected hs hp he hb hx => exact ⟨_, hp, .unexpected (by rw [he.1]; rfl) hb hx⟩

/-- What bears out a fault of the right operand bears it out behind the left one. -/
theorem Evidence.behind_operator {op : Operator} {w : Written} {trailing : List Char}
    (h : Evidence store room before after cause) (hw : w.WellFormed precedence)
    (ht : Blanks trailing) (hs : Blanks space) :
    Evidence store room (w.text ++ trailing ++ (space ++ [op.symbol]) ++ before) after cause := by
  refine h.prepend (n := 0) ?_ ?_
  · rw [excess_append, Written.excess_text_append_blanks hw ht,
      (Written.flat_operator hs op).excess_eq]
    rfl
  · rw [← List.append_assoc]
    exact stops_reverse_concat_iff.2
      (isLetter_eq_false_of_mem_punctuation _ op.symbol_mem_punctuation)

/-- An operator that fails bears it out itself. -/
theorem Spelled.evidence {op : Operator} {a b : Value}
    (h : Spelled store op.precedence room c a d) (hs : Blanks space)
    (hp : d.Passes (space ++ [op.symbol]) e) (h' : Spelled store (op.precedence + 1) room e b f)
    (hend : Ends (op.precedence + 1) f) (ha : op.apply a b = .error cause) :
    ∃ u, c.Passes u f ∧ Evidence store room u f.after cause := by
  obtain ⟨w₁, space₁, hw₁, -, hs₁, hp₁, hv₁⟩ := h
  obtain ⟨w₂, space₂, hw₂, -, hs₂, hp₂, hv₂⟩ := h'
  have hw : (Written.binary w₁ (space₁ ++ space) op w₂).WellFormed op.precedence :=
    ⟨Nat.le_refl _, hw₁, blanks_append_iff.2 ⟨hs₁, hs⟩, hw₂⟩
  have hb : w₁.text ++ space₁ ++ (space ++ [op.symbol]) ++ (w₂.text ++ space₂) =
      [] ++ (Written.binary w₁ (space₁ ++ space) op w₂).text ++ space₂ := by
    simp [Written.text]
  have hafter : if op.precedence = 1 then Stops isBlank f.after else space₂ = [] := by
    rcases op.precedence_eq with ho | ho
    · rw [if_pos ho]
      exact hend.settled (by rw [ho]; decide)
    · rw [if_neg (by rw [ho]; decide)]
      rw [ho] at hend
      exact hend.eq_nil hs₂ hp₂
  exact ⟨_, (hp₁.trans hp).trans hp₂,
    .operator hw hb hs₂ hafter (Tree.fails_of_apply hv₁ hv₂ ha)⟩

theorem ChainRun.evidence {operand : Reader Value} {left : Value} {out : Outcome Value}
    (h : ChainRun precedence operand left d out)
    (ho : operand.Sound store (precedence + 1) room) (hend : operand.Ending (precedence + 1))
    (hv : operand.Evident store room) (hl : Spelled store precedence room c left d)
    (hout : out = .error fault) :
    ∃ u, c.Passes u fault.place ∧ Evidence store room u fault.place.after fault.cause := by
  induction h with
  | done => cases hout
  | operandFails hs hop hp hr =>
      cases hout
      obtain ⟨w, trailing, hw, -, ht, hp', -⟩ := hl
      obtain ⟨u, hu, h⟩ := hv _ _ hr
      exact ⟨_, (hp'.trans hp).trans hu, h.behind_operator hw ht hs⟩
  | applyFails hs hop hp hr ha =>
      cases hout
      subst hop
      exact hl.evidence hs hp (ho _ _ _ hr) (hend _ _ _ hr) ha
  | turn hs hop hp hr ha _ ih =>
      subst hop
      exact ih (hl.binary hs hp (ho _ _ _ hr) ha) hout

theorem evident_chain {operand : Reader Value} (hf : operand.Forward)
    (ho : operand.Sound store (precedence + 1) room) (hend : operand.Ending (precedence + 1))
    (hv : operand.Evident store room) :
    Reader.Evident store room (chain precedence operand) := by
  intro c fault h
  rcases chain_cases precedence hf c with ⟨_, hr, hc⟩ | ⟨first, e, hr, hc⟩
  · cases hc.symm.trans h
    exact hv _ _ hr
  · exact (h ▸ hc).evidence ho hend hv ((ho _ _ _ hr).mono (Nat.le_succ _)) rfl

theorem evident_readerAt (store : Store) (room : Nat) :
    (readerAt store room 1).Evident store room := by
  refine (reader_induction store
    (P := fun p n r => r.Sound store p n ∧ r.Ending p ∧ r.Evident store n)
    (fun hnone hi => ⟨?_, ending_atomWith _, ?_⟩)
    (fun hp hf h => ⟨sound_chain hf h.1, ending_chain (by omega) hf h.2.1,
      evident_chain hf h.1 h.2.1 h.2.2⟩) room).2.2.2.2
  · exact sound_atomWith fun r hr => (hi r hr).imp fun _ h => ⟨h.1, h.2.2.1⟩
  · exact fun _ _ h => (atomRun_iff.2 h).evidence hnone fun r hr =>
      (hi r hr).imp fun _ h => ⟨h.1, h.2.2⟩

/-! ### Lines -/

/-- What bears out a fault in a line. -/
inductive Line.Evidence (store : Store) (before after : List Char) : Cause → Prop where
  /-- The fault is one of the expression. -/
  | expression {cause : Cause} (h : Calculator.Evidence store maxNesting before after cause) :
      Evidence store before after cause
  /-- The keyword is there, and no name follows. -/
  | noName {space space' : List Char} (hs : Blanks space) (hs' : Blanks space')
      (hb : before = space ++ keyword ++ space') (ha : Stops isBlank after)
      (hl : Stops isLetter after) : Evidence store before after .expectedVariable
  /-- The keyword and a name are there, and no equals sign follows. -/
  | noEquals {space space' name space'' : List Char} (hs : Blanks space) (hs' : Blanks space')
      (hn : IsName name) (hs'' : Blanks space'')
      (hb : before = space ++ keyword ++ space' ++ name ++ space'')
      (hl : Stops isLetter (space'' ++ after)) (ha : Stops isBlank after)
      (he : after.head? ≠ some '=') : Evidence store before after .expectedEquals
  /-- The text before makes a statement, and something follows with which it cannot go on. -/
  | unfinished {s : Statement} {x : Char}
      (hb : Statement.ofLine store (String.ofList before) = .ok s) (ha : after.head? = some x)
      (hx : isBlank x = false) (ho : ∀ op : Operator, x ≠ op.symbol) :
      Evidence store before after .unexpectedInput

/-- What stands before the expression of a line opens no parenthesis and does not end with a letter,
so a fault of the expression is borne out in the whole line. -/
theorem TargetRun.evidence {line : List Char} {target : Option (List Char)}
    (h : TargetRun (.start line) (.ok (target, d)))
    (hr : Calculator.expression store d = .error fault) :
    ∃ u, (Cursor.start line).Passes u fault.place ∧
      Evidence store maxNesting u fault.place.after fault.cause := by
  obtain ⟨lead, hlead, hflat, hstop⟩ := h.exists_flat
  obtain ⟨u, hu, hev⟩ := evident_readerAt store maxNesting _ _ hr
  exact ⟨_, hlead.trans hu, hev.prepend (n := 0) hflat.excess_eq hstop⟩

/-- Each fault of a line is borne out by the texts around its place. -/
theorem exists_evidence_of_error {line : List Char}
    (h : Statement.ofChars store line = .error fault) :
    ∃ u, (Cursor.start line).Passes u fault.place ∧
      Line.Evidence store u fault.place.after fault.cause := by
  have run := lineRun_iff.2 h
  cases run with
  | targetFails ht =>
      cases ht with
      | noName hs hs' hp hb hd => exact ⟨_, hp, .noName hs hs' rfl hb hd⟩
      | noEquals hs hs' hn hs'' hp hb hd he => exact ⟨_, hp, .noEquals hs hs' hn hs'' rfl hd hb he⟩
  | expressionFails ht hr => exact (ht.evidence hr).imp fun _ h => ⟨h.1, .expression h.2⟩
  | @unfinished target _ _ v ht hr he =>
      obtain ⟨l, hl, hp, hm⟩ := ht.exists_line hr
      obtain ⟨x, rest, hx⟩ := List.exists_cons_of_ne_nil he
      have hend := ending_readerAt store maxNesting _ _ _ hr
      have hb := hend.settled (by decide)
      rw [hx, stops_cons_iff] at hb
      have hline : Statement.ofLine store (String.ofList l.text) = .ok (.make target v) := by
        rw [ofLine_eq_ok_iff, String.toList_ofList]
        exact ofChars_eq_ok_iff.2 ⟨l, hl, rfl, hm⟩
      refine ⟨_, hp, .unfinished hline (by rw [hx]; rfl) hb fun op ho => ?_⟩
      exact hend.head?_ne_symbol op (by rw [hx, ho]; rfl)

end Calculator
