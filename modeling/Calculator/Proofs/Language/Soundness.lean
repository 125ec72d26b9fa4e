import Calculator.Proofs.Reading.Lines

/-!
# Calculator — Proofs — Language — Soundness

What is read is written.  `Spelled store precedence room c v d` says that the text between `c` and
`d` is an expression of that precedence, with at most `room` parentheses open at once and blanks
behind it, whose tree comes to `v`.  Whatever an operand's reader takes is spelled so
(`spelled_of_readerAt`), and a line that makes a statement is a line of the language that means it
(`exists_line_of_ofChars`).
-/

namespace Calculator

open Statement (keyword)

/-- An expression may stand where one that binds less tightly may. -/
theorem Written.WellFormed.mono {w : Written} {p q : Nat} (h : w.WellFormed q) (hpq : p ≤ q) :
    w.WellFormed p := by
  cases w with
  | literal | name | group => exact h
  | binary left space op right => exact ⟨Nat.le_trans hpq h.1, h.2⟩

/-- The text between `c` and `d` is an expression, with blanks behind it, that comes to `v`. -/
def Spelled (store : Store) (precedence room : Nat) (c : Cursor) (v : Value) (d : Cursor) : Prop :=
  ∃ (w : Written) (space : List Char), w.WellFormed precedence ∧ w.depth ≤ room ∧ Blanks space ∧
    c.Passes (w.text ++ space) d ∧ w.tree.eval store = .ok v

variable {store : Store} {precedence room : Nat} {c d e f : Cursor} {v a b : Value}
  {space : List Char}

namespace Spelled

theorem mono {q : Nat} (h : Spelled store q room c v d) (hpq : precedence ≤ q) :
    Spelled store precedence room c v d := by
  obtain ⟨w, space, hw, h⟩ := h
  exact ⟨w, space, hw.mono hpq, h⟩

theorem blanks (h : Spelled store precedence room c v d) (hs : Blanks space)
    (hp : d.Passes space e) : Spelled store precedence room c v e := by
  obtain ⟨w, space', hw, hd, hs', hp', hv⟩ := h
  refine ⟨w, space' ++ space, hw, hd, blanks_append_iff.2 ⟨hs', hs⟩, ?_, hv⟩
  rw [← List.append_assoc]
  exact hp'.trans hp

/-- An operator between two expressions makes one of them. -/
theorem binary {op : Operator} (h : Spelled store op.precedence room c a d) (hs : Blanks space)
    (hp : d.Passes (space ++ [op.symbol]) e) (h' : Spelled store (op.precedence + 1) room e b f)
    (hv : op.apply a b = .ok v) : Spelled store op.precedence room c v f := by
  obtain ⟨w₁, space₁, hw₁, hd₁, hs₁, hp₁, ha⟩ := h
  obtain ⟨w₂, space₂, hw₂, hd₂, hs₂, hp₂, hb⟩ := h'
  refine ⟨.binary w₁ (space₁ ++ space) op w₂, space₂,
    ⟨Nat.le_refl _, hw₁, blanks_append_iff.2 ⟨hs₁, hs⟩, hw₂⟩, Nat.max_le.2 ⟨hd₁, hd₂⟩, hs₂, ?_,
    Tree.eval_node_eq_ok_iff.2 ⟨a, b, ha, hb, hv⟩⟩
  have := (hp₁.trans hp).trans hp₂
  simpa [Written.text] using this

/-- Parentheses around an expression make an atom. -/
theorem group (hs : Blanks space) (hp : c.Passes (space ++ ['(']) d)
    (h : Spelled store 1 room d v e) (he : e.Passes [')'] f) :
    Spelled store 3 (room + 1) c v f := by
  obtain ⟨w, space', hw, hd, hs', hp', hv⟩ := h
  refine ⟨.group space w space', [], ⟨hs, hw, hs'⟩, Nat.succ_le_succ hd, blanks_nil, ?_, hv⟩
  have := (hp.trans hp').trans he
  simpa [Written.text] using this

end Spelled

/-! ### Operands -/

theorem ChainRun.spelled {operand : Reader Value} {left : Value} {out : Outcome Value}
    (h : ChainRun precedence operand left d out)
    (ho : ∀ c v d, operand c = .ok (v, d) → Spelled store (precedence + 1) room c v d)
    (hl : Spelled store precedence room c left d) (hout : out = .ok (v, e)) :
    Spelled store precedence room c v e := by
  induction h with
  | done hs hp _ _ =>
      cases hout
      exact hl.blanks hs hp
  | operandFails | applyFails => cases hout
  | turn hs hop hp hr ha _ ih =>
      subst hop
      exact ih (hl.binary hs hp (ho _ _ _ hr) ha) hout

theorem AtomRun.spelled {inside : Option (Reader Value)} {out : Outcome Value}
    (h : AtomRun store inside c out)
    (hi : ∀ r, inside = some r → ∃ n, room = n + 1 ∧
      ∀ c v d, r c = .ok (v, d) → Spelled store 1 n c v d)
    (hout : out = .ok (v, e)) : Spelled store 3 room c v e := by
  cases h with
  | @literal space l _ _ hs hl hp hd hv =>
      cases hout
      obtain ⟨hne, hn⟩ := Literal.value?_eq_some_iff.1 hv
      refine ⟨.literal space l, [], ⟨hs, hne, hl.1⟩, Nat.zero_le _, blanks_nil, ?_,
        Tree.eval_literal_eq_ok_iff.2 ⟨hne, hn⟩⟩
      rwa [List.append_nil]
  | @name space letters _ _ hs hn hp hd hv =>
      cases hout
      refine ⟨.name space letters, [], ⟨hs, hn⟩, Nat.zero_le _, blanks_nil, ?_,
        Tree.eval_name_eq_ok_iff.2 hv⟩
      rwa [List.append_nil]
  | group hs hp hi' hr he =>
      cases hout
      obtain ⟨n, rfl, hn⟩ := hi _ hi'
      exact .group hs hp (hn _ _ _ hr) he
  | ended | malformed | undefined | tooDeep | insideFails | unclosed | unexpected => cases hout

/-- Whatever the reader takes is spelled. -/
def Reader.Sound (store : Store) (precedence room : Nat) (r : Reader Value) : Prop :=
  ∀ c v d, r c = .ok (v, d) → Spelled store precedence room c v d

theorem sound_atomWith {inside : Option (Reader Value)}
    (hi : ∀ r, inside = some r → ∃ n, room = n + 1 ∧ r.Sound store 1 n) :
    Reader.Sound store 3 room (atomWith store inside) :=
  fun _ _ _ h => (atomRun_iff.2 h).spelled hi rfl

theorem sound_chain {operand : Reader Value} (hf : operand.Forward)
    (ho : operand.Sound store (precedence + 1) room) :
    Reader.Sound store precedence room (chain precedence operand) := by
  intro c v d h
  rcases chain_cases precedence hf c with ⟨_, hr, hc⟩ | ⟨first, e, hr, hc⟩
  · rw [hc] at h
    cases h
  · exact (h ▸ hc).spelled ho ((ho _ _ _ hr).mono (Nat.le_succ _)) rfl

theorem spelled_of_readerAt (store : Store) (room : Nat) :
    ∀ c v d, readerAt store room 1 c = .ok (v, d) → Spelled store 1 room c v d :=
  (reader_induction store (P := fun p n r => r.Sound store p n)
    (fun _ hi => sound_atomWith fun r hr => (hi r hr).imp fun _ h => ⟨h.1, h.2.2⟩)
    (fun _ hf ho => sound_chain hf ho) room).2.2

/-! ### Lines -/

theorem Cursor.Passes.eq_line {line u : List Char} (h : (Cursor.start line).Passes u d)
    (hd : d.after = []) : u = line := by
  have := h.1
  rw [hd, List.append_nil] at this
  exact this.symm

/-- What is read of a line up to the end of its expression is a line of the language. -/
theorem TargetRun.exists_line {line : List Char} {target : Option (List Char)}
    (ht : TargetRun (.start line) (.ok (target, d)))
    (hr : Calculator.expression store d = .ok (v, e)) :
    ∃ l : Line, l.WellFormed ∧ (Cursor.start line).Passes l.text e ∧
      l.Means store (.make target v) := by
  cases ht with
  | expression hs hp hb hk =>
      -- the blanks before an expression are written with its first word
      have hr : readerAt store maxNesting 1 (.start line) = .ok (v, e) :=
        (readerAt_eq_of_blanks store maxNesting hs hp).trans hr
      obtain ⟨w, trailing, hw, hd, ht, hp', hv⟩ := spelled_of_readerAt _ _ _ _ _ hr
      have hkey : ¬ Line.BeginsWithKeyword (w.text ++ trailing ++ []) :=
        Line.not_beginsWithKeyword_append
          (mt (Line.beginsWithKeyword_iff_of_passes hp hs hb).1 hk) ⟨_, hp'.1.symm⟩ (stops_nil _)
      rw [List.append_nil] at hkey
      exact ⟨.expression w trailing, ⟨hw, hd, ht, hkey⟩, hp',
        .expression (Tree.eval_eq_ok_iff.1 hv)⟩
  | @assignment space space' name space'' _ hs hs' hn hs'' hp =>
      obtain ⟨w, trailing, hw, hd, ht, hp', hv⟩ := spelled_of_readerAt _ _ _ _ _ hr
      refine ⟨.assignment space space' name space'' w trailing,
        ⟨hs, hs', hn, hs'', hw, hd, ht⟩, ?_, .assignment (Tree.eval_eq_ok_iff.1 hv)⟩
      simpa [Line.text] using hp.trans hp'

/-- A line that makes a statement is a line of the language, and means the statement. -/
theorem exists_line_of_ofChars {line : List Char} {s : Statement}
    (h : Statement.ofChars store line = .ok s) :
    ∃ l : Line, l.WellFormed ∧ l.text = line ∧ l.Means store s := by
  have run := lineRun_iff.2 h
  cases run with
  | finished ht hr he =>
      obtain ⟨l, hl, hp, hm⟩ := ht.exists_line hr
      exact ⟨l, hl, hp.eq_line he, hm⟩

end Calculator
