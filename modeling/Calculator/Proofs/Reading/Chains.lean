import Calculator.Proofs.Reading.Atoms

/-!
# Calculator — Proofs — Reading — Chains

What a reader of a chain can do.  `ChainRun` has one rule for each way a chain goes on behind a
left-hand side; it describes the reader exactly as long as the operand never goes back in the line
(`chainRun_iff`), for then the bound of `chainFrom` is never met.  No reader of an expression goes
back (`forward_expression`).

`reader_induction` is the induction behind every statement on expressions: what holds of an atom,
whatever reads inside its parentheses, and is kept by both kinds of chain holds at every depth.
-/

namespace Calculator

/-! ### Precedences -/

theorem Operator.precedence_eq (op : Operator) : op.precedence = 1 ∨ op.precedence = 2 := by
  cases op <;> decide

theorem Operator.one_le_precedence (op : Operator) : 1 ≤ op.precedence := by
  cases op <;> decide

theorem Operator.precedence_lt_three (op : Operator) : op.precedence < 3 := by
  cases op <;> decide

/-! ### The rules -/

/-- The ways a chain goes on behind a left-hand side. -/
inductive ChainRun (precedence : Nat) (operand : Reader Value) :
    Value → Cursor → Outcome Value → Prop where
  | done {left : Value} {c d : Cursor} {space : List Char} (hs : Blanks space)
      (hp : c.Passes space d) (hb : Stops isBlank d.after)
      (hd : ∀ op : Operator, d.after.head? = some op.symbol → op.precedence ≠ precedence) :
      ChainRun precedence operand left c (.ok (left, d))
  | operandFails {left : Value} {c d : Cursor} {space : List Char} {op : Operator} {f : Fault}
      (hs : Blanks space) (ho : op.precedence = precedence)
      (hp : c.Passes (space ++ [op.symbol]) d) (hr : operand d = .error f) :
      ChainRun precedence operand left c (.error f)
  | applyFails {left right : Value} {c d e : Cursor} {space : List Char} {op : Operator}
      {cause : Cause} (hs : Blanks space) (ho : op.precedence = precedence)
      (hp : c.Passes (space ++ [op.symbol]) d) (hr : operand d = .ok (right, e))
      (ha : op.apply left right = .error cause) :
      ChainRun precedence operand left c (.error ⟨cause, e⟩)
  | turn {left right value : Value} {c d e : Cursor} {space : List Char} {op : Operator}
      {out : Outcome Value} (hs : Blanks space) (ho : op.precedence = precedence)
      (hp : c.Passes (space ++ [op.symbol]) d) (hr : operand d = .ok (right, e))
      (ha : op.apply left right = .ok value) (next : ChainRun precedence operand value e out) :
      ChainRun precedence operand left c out

/-! ### The reader follows the rules -/

variable {precedence : Nat} {operand : Reader Value} {left right : Value} {c d e : Cursor}
  {op : Operator} {space : List Char} {out : Outcome Value}

theorem operatorAt?_eq_some_iff :
    operatorAt? precedence c = some (op, d) ↔
      op.precedence = precedence ∧ c.Passes [op.symbol] d := by
  simp only [operatorAt?, Option.bind_eq_bind, Option.bind_eq_some_iff, Prod.exists,
    Option.ite_none_right_eq_some, Option.some.injEq, Prod.mk.injEq, Operator.ofChar?_eq_some_iff,
    ← Cursor.passes_singleton_iff]
  constructor
  · rintro ⟨x, past, hp, op', rfl, ho, rfl, rfl⟩
    exact ⟨ho, hp⟩
  · rintro ⟨ho, hp⟩
    exact ⟨_, d, hp, op, rfl, ho, rfl, rfl⟩

theorem operatorAt?_eq_none_iff :
    operatorAt? precedence c = none ↔
      ∀ op : Operator, c.after.head? = some op.symbol → op.precedence ≠ precedence := by
  rw [Option.eq_none_iff_forall_ne_some]
  constructor
  · intro h op hc ho
    obtain ⟨rest, hc⟩ := List.head?_eq_some_iff.1 hc
    obtain ⟨d, hd, -⟩ := Cursor.exists_passes (u := [op.symbol]) hc
    exact h (op, d) (operatorAt?_eq_some_iff.2 ⟨ho, hd⟩)
  · rintro h ⟨op, d⟩ hc
    obtain ⟨ho, hp⟩ := operatorAt?_eq_some_iff.1 hc
    exact h op (by rw [hp.1]; rfl) ho

/-- A chain is over where no operator of its precedence comes next. -/
theorem chainFrom_eq_of_done (bound : List Char) (hs : Blanks space) (hp : c.Passes space d)
    (hb : Stops isBlank d.after)
    (hd : ∀ op : Operator, d.after.head? = some op.symbol → op.precedence ≠ precedence) :
    chainFrom precedence operand bound left c = .ok (left, d) := by
  cases bound with
  | nil => rw [chainFrom, Cursor.skipBlanks_eq hp hs hb]
  | cons x bound =>
      simp only [chainFrom, Cursor.skipBlanks_eq hp hs hb, operatorAt?_eq_none_iff.2 hd]

/-- Blanks before an operator are passed over. -/
theorem skipBlanks_passes_operator (hs : Blanks space) (hp : c.Passes (space ++ [op.symbol]) d) :
    c.skipBlanks.Passes [op.symbol] d := by
  obtain ⟨d', hp, hd⟩ := hp.split
  rwa [Cursor.skipBlanks_eq hp hs (hd.1 ▸ stops_cons_iff.2
    (isBlank_eq_false_of_mem_punctuation _ op.symbol_mem_punctuation))]

theorem operatorAt?_skipBlanks (hs : Blanks space) (ho : op.precedence = precedence)
    (hp : c.Passes (space ++ [op.symbol]) d) :
    operatorAt? precedence c.skipBlanks = some (op, d) :=
  operatorAt?_eq_some_iff.2 ⟨ho, skipBlanks_passes_operator hs hp⟩

theorem length_after_lt {x : Char} (hp : c.Passes (space ++ [x]) d) :
    d.after.length < c.after.length := by
  rw [hp.length, List.length_append, List.length_singleton]
  omega

/-- The bound allows a turn where an operator comes next. -/
theorem exists_turn {x : Char} {bound : List Char} (hp : c.Passes (space ++ [x]) d)
    (hn : c.after.length ≤ bound.length) : ∃ y rest, bound = y :: rest :=
  List.exists_cons_of_length_pos
    (Nat.lt_of_lt_of_le (Nat.zero_lt_of_lt (length_after_lt hp)) hn)

/-- A chain that goes by the rules is what the reader reads, if the bound is large enough.  Each
turn takes an operator at least, and the operand does not give it back. -/
theorem ChainRun.eq (hf : operand.Forward) (h : ChainRun precedence operand left c out)
    {bound : List Char} (hn : c.after.length ≤ bound.length) :
    chainFrom precedence operand bound left c = out := by
  induction h generalizing bound with
  | done hs hp hb hd => exact chainFrom_eq_of_done bound hs hp hb hd
  | operandFails hs ho hp hr =>
      obtain ⟨x, bound, rfl⟩ := exists_turn hp hn
      simp only [chainFrom, operatorAt?_skipBlanks hs ho hp, hr, bind, Except.bind]
  | applyFails hs ho hp hr ha =>
      obtain ⟨x, bound, rfl⟩ := exists_turn hp hn
      simp only [chainFrom, operatorAt?_skipBlanks hs ho hp, hr, ha, bind, Except.bind]
  | @turn _ right value c d e _ _ _ hs ho hp hr ha next ih =>
      obtain ⟨x, bound, rfl⟩ := exists_turn hp hn
      obtain ⟨u, hu⟩ := hf.ok hr
      simp only [chainFrom, operatorAt?_skipBlanks hs ho hp, hr, ha, bind, Except.bind]
      refine ih (Nat.le_of_lt_succ ?_)
      calc e.after.length ≤ d.after.length := hu.length ▸ Nat.le_add_left _ _
        _ < c.after.length := length_after_lt hp
        _ ≤ bound.length + 1 := hn

/-- Every chain goes by the rules, and takes fewer turns than there are characters left. -/
theorem exists_chainRun (precedence : Nat) (hf : operand.Forward) (left : Value) (c : Cursor) :
    ∃ out, ChainRun precedence operand left c out := by
  obtain ⟨space, d, hp, hs, hb⟩ := c.exists_blanks
  cases ho : operatorAt? precedence d with
  | none => exact ⟨_, .done hs hp hb (operatorAt?_eq_none_iff.1 ho)⟩
  | some opd =>
      obtain ⟨op, past⟩ := opd
      obtain ⟨ho, hd⟩ := operatorAt?_eq_some_iff.1 ho
      have hp := hp.trans hd
      cases hr : operand past with
      | error f => exact ⟨_, .operandFails hs ho hp hr⟩
      | ok re =>
          obtain ⟨right, e⟩ := re
          cases ha : op.apply left right with
          | error cause => exact ⟨_, .applyFails hs ho hp hr ha⟩
          | ok value =>
              obtain ⟨u, hu⟩ := hf.ok hr
              -- the operand does not give the operator back, so less of the line is left
              have hlt : e.after.length < c.after.length :=
                Nat.lt_of_le_of_lt (hu.length ▸ Nat.le_add_left _ _) (length_after_lt hp)
              obtain ⟨out, next⟩ := exists_chainRun precedence hf value e
              exact ⟨out, .turn hs ho hp hr ha next⟩
termination_by c.after.length

theorem chainRun_iff (hf : operand.Forward) :
    ChainRun precedence operand left c out ↔
      chainFrom precedence operand c.after left c = out := by
  refine ⟨fun h => h.eq hf (Nat.le_refl _), ?_⟩
  rintro rfl
  obtain ⟨out, h⟩ := exists_chainRun precedence hf left c
  rwa [h.eq hf (Nat.le_refl _)]

/-- A chain begins with its first operand and fails with it. -/
theorem chain_cases (precedence : Nat) (hf : operand.Forward) (c : Cursor) :
    (∃ f, operand c = .error f ∧ chain precedence operand c = .error f) ∨
      ∃ first d, operand c = .ok (first, d) ∧
        ChainRun precedence operand first d (chain precedence operand c) := by
  rw [chain]
  cases operand c with
  | error f => exact .inl ⟨f, rfl, rfl⟩
  | ok vd => exact .inr ⟨vd.1, vd.2, rfl, (chainRun_iff hf).2 rfl⟩

theorem chain_eq_error {f : Fault} (hr : operand c = .error f) :
    chain precedence operand c = .error f := by
  rw [chain, hr]
  rfl

theorem ChainRun.chain_eq (hf : operand.Forward) (hr : operand c = .ok (left, d))
    (h : ChainRun precedence operand left d out) : chain precedence operand c = out := by
  rw [chain, hr]
  exact (chainRun_iff hf).1 h

/-! ### No reader goes back -/

theorem ChainRun.forward (hf : operand.Forward) (h : ChainRun precedence operand left c out) :
    ∃ u, c.Passes u out.place := by
  induction h with
  | done _ hp _ _ => exact ⟨_, hp⟩
  | operandFails _ _ hp hr =>
      obtain ⟨u, hu⟩ := hf.error hr
      exact ⟨_, hp.trans hu⟩
  | applyFails _ _ hp hr _ =>
      obtain ⟨u, hu⟩ := hf.ok hr
      exact ⟨_, hp.trans hu⟩
  | turn _ _ hp hr _ _ ih =>
      obtain ⟨u, hu⟩ := hf.ok hr
      obtain ⟨u', hu'⟩ := ih
      exact ⟨_, (hp.trans hu).trans hu'⟩

/-- A chain does not go back behind the end of its first operand. -/
theorem exists_passes_chain (precedence : Nat) (hf : operand.Forward) (c : Cursor) :
    ∃ u, (Outcome.place (operand c)).Passes u (Outcome.place (chain precedence operand c)) := by
  rcases chain_cases precedence hf c with ⟨f, hr, h⟩ | ⟨first, d, hr, h⟩
  · rw [hr, h]
    exact ⟨[], .refl _⟩
  · rw [hr]
    exact h.forward hf

/-- From an operator on a chain goes by the rules, and not back behind the end of the operand. -/
theorem exists_chainRun_of_operator (hf : operand.Forward) (hs : Blanks space)
    (ho : op.precedence = precedence) (hp : c.Passes (space ++ [op.symbol]) d) (left : Value) :
    ∃ out, ChainRun precedence operand left c out ∧
      ∃ u, (Outcome.place (operand d)).Passes u out.place := by
  cases hr : operand d with
  | error f => exact ⟨_, .operandFails hs ho hp hr, [], .refl _⟩
  | ok re =>
      obtain ⟨right, e⟩ := re
      cases ha : op.apply left right with
      | error cause => exact ⟨_, .applyFails hs ho hp hr ha, [], .refl _⟩
      | ok value =>
          obtain ⟨out, next⟩ := exists_chainRun precedence hf value e
          exact ⟨out, .turn hs ho hp hr ha next, next.forward hf⟩

theorem forward_chain (precedence : Nat) (hf : operand.Forward) :
    (chain precedence operand).Forward := by
  intro c
  obtain ⟨u, hu⟩ := hf c
  obtain ⟨u', hu'⟩ := exists_passes_chain precedence hf c
  exact ⟨_, hu.trans hu'⟩

theorem AtomRun.forward {store : Store} {inside : Option (Reader Value)}
    (hf : ∀ r, inside = some r → r.Forward) (h : AtomRun store inside c out) :
    ∃ u, c.Passes u out.place := by
  cases h with
  | ended _ hp _ | literal _ _ hp _ _ | malformed _ _ hp _ _ | name _ _ hp _ _
  | undefined _ _ hp _ _ _ | tooDeep _ hp _ _ | unexpected _ hp _ _ _ => exact ⟨_, hp⟩
  | insideFails _ hp hi hr =>
      obtain ⟨u, hu⟩ := (hf _ hi).error hr
      exact ⟨_, hp.trans hu⟩
  | unclosed _ hp hi hr _ =>
      obtain ⟨u, hu⟩ := (hf _ hi).ok hr
      exact ⟨_, hp.trans hu⟩
  | group _ hp hi hr he =>
      obtain ⟨u, hu⟩ := (hf _ hi).ok hr
      exact ⟨_, (hp.trans hu).trans he⟩

theorem forward_atomWith {store : Store} {inside : Option (Reader Value)}
    (hf : ∀ r, inside = some r → r.Forward) : (atomWith store inside).Forward :=
  fun _ => (atomRun_iff.2 rfl).forward hf

/-! ### Induction on the readers of an expression -/

/-- The reader of an operand of a precedence, with `room` for more parentheses; at the lowest
precedence it reads an expression. -/
def readerAt (store : Store) (room : Nat) : Nat → Reader Value
  | 1 => chain 1 (chain 2 (atom store room))
  | 2 => chain 2 (atom store room)
  | _ => atom store room

theorem readerAt_zero (store : Store) : readerAt store 0 3 = atomWith store none := rfl

theorem readerAt_succ (store : Store) (room : Nat) :
    readerAt store (room + 1) 3 = atomWith store (some (readerAt store room 1)) := rfl

theorem readerAt_eq_chain (store : Store) (room : Nat) (hp : precedence = 1 ∨ precedence = 2) :
    readerAt store room precedence = chain precedence (readerAt store room (precedence + 1)) := by
  rcases hp with rfl | rfl <;> rfl

/-- What holds of an atom whatever reads inside its parentheses, and is kept by both kinds of
chain, holds of all readers. -/
theorem reader_induction (store : Store) {P : Nat → Nat → Reader Value → Prop}
    (atom : ∀ {room : Nat} {inside : Option (Reader Value)}, (inside = none → room = 0) →
      (∀ r, inside = some r → ∃ n, room = n + 1 ∧ r.Forward ∧ P 1 n r) →
      P 3 room (atomWith store inside))
    (chain : ∀ {precedence room : Nat} {r : Reader Value}, precedence = 1 ∨ precedence = 2 →
      r.Forward → P (precedence + 1) room r → P precedence room (chain precedence r))
    (room : Nat) :
    P 3 room (readerAt store room 3) ∧ P 2 room (readerAt store room 2) ∧
      P 1 room (readerAt store room 1) := by
  have chains : ∀ {n : Nat}, (readerAt store n 3).Forward → P 3 n (readerAt store n 3) →
      P 2 n (readerAt store n 2) ∧ P 1 n (readerAt store n 1) := fun hf h =>
    have h₂ := chain (.inr rfl) hf h
    ⟨h₂, chain (.inl rfl) (forward_chain 2 hf) h₂⟩
  -- an atom with room for one more parenthesis reads the chains of the room below
  have atoms : (readerAt store room 3).Forward ∧ P 3 room (readerAt store room 3) := by
    induction room with
    | zero =>
        rw [readerAt_zero]
        exact ⟨forward_atomWith (by simp), atom (fun _ => rfl) (by simp)⟩
    | succ n ih =>
        obtain ⟨hf, h⟩ := ih
        rw [readerAt_succ]
        have hf₁ : (readerAt store n 1).Forward := forward_chain 1 (forward_chain 2 hf)
        refine ⟨forward_atomWith fun r hr => ?_, atom (by simp) fun r hr => ⟨n, rfl, ?_⟩⟩
        · cases hr
          exact hf₁
        · cases hr
          exact ⟨hf₁, (chains hf h).2⟩
  exact ⟨atoms.2, chains atoms.1 atoms.2⟩

/-- What holds at each of the three precedences holds of an operand. -/
theorem of_levels {P : Nat → Nat → Reader Value → Prop} {store : Store} {room : Nat}
    (h : P 3 room (readerAt store room 3) ∧ P 2 room (readerAt store room 2) ∧
      P 1 room (readerAt store room 1))
    (hp : precedence = 1 ∨ precedence = 2 ∨ precedence = 3) :
    P precedence room (readerAt store room precedence) := by
  rcases hp with rfl | rfl | rfl
  · exact h.2.2
  · exact h.2.1
  · exact h.1

theorem forward_readerAt (store : Store) (room precedence : Nat) :
    (readerAt store room precedence).Forward := by
  have h := reader_induction store (P := fun _ _ r => r.Forward)
    (fun _ hi => forward_atomWith fun r hr => (hi r hr).elim fun _ h => h.2.1)
    (fun _ hf _ => forward_chain _ hf) room
  unfold readerAt
  split
  · exact h.2.2
  · exact h.2.1
  · exact h.1

theorem forward_expression (store : Store) : (expression store).Forward :=
  forward_readerAt store maxNesting 1

/-- Blanks before an operand mean nothing to its reader. -/
theorem readerAt_eq_of_blanks (store : Store) (room : Nat) (hs : Blanks space)
    (hp : c.Passes space d) : readerAt store room 1 c = readerAt store room 1 d := by
  refine (reader_induction store (P := fun _ _ r => r c = r d)
    (fun _ _ => ?_) (fun _ _ h => ?_) room).2.2
  · simp only [atomWith, Cursor.skipBlanks_eq_skipBlanks hp hs]
  · rw [chain, chain, h]

/-- Where only blanks are left, an operand is missed at the end. -/
theorem readerAt_eq_of_ended (store : Store) (room : Nat) (hs : Blanks space)
    (hp : c.Passes space d) (hd : d.after = []) :
    readerAt store room 1 c = .error ⟨.unexpectedEndOfInput, d⟩ :=
  (reader_induction store (P := fun _ _ r => r c = .error ⟨.unexpectedEndOfInput, d⟩)
    (fun _ _ => (AtomRun.ended hs hp hd).eq) (fun _ _ h => chain_eq_error h) room).2.2

end Calculator
