import Calculator.Proofs.Reading.Lines

/-!
# Calculator — Proofs — Language — Nesting

Parentheses counted in a text, character by character.  `openAfter` is the number that are open
behind a text and `deepest` the greatest number open at any place of it.  An expression closes what
it opens (`Written.openAfter_text`), and what is counted in its text is the depth of its groups
(`Written.deepest_text`).  What stands before the expression of a line has no parentheses
(`TargetRun.exists_flat`), so the same holds of lines (`Line.excess_text`, `Line.deepest_text`).
-/

namespace Calculator

open Statement (keyword)

/-- The parentheses open behind a character, where `n` were open before. -/
def nest (n : Nat) (x : Char) : Nat :=
  if x = '(' then n + 1 else if x = ')' then n - 1 else n

/-- The parentheses open behind a text, where `n` were open before. -/
def openAfter (n : Nat) (text : List Char) : Nat := text.foldl nest n

/-- The greatest number of parentheses open in a text, where `n` were open before. -/
def deepest : Nat → List Char → Nat
  | n, [] => n
  | n, x :: text => max n (deepest (nest n x) text)

variable {n : Nat} {u : List Char}

@[simp]
theorem openAfter_append (n : Nat) (u v : List Char) :
    openAfter n (u ++ v) = openAfter (openAfter n u) v :=
  List.foldl_append

theorem le_deepest (n : Nat) (text : List Char) : n ≤ deepest n text := by
  cases text with
  | nil => exact Nat.le_refl n
  | cons x text => exact Nat.le_max_left ..

theorem deepest_append (n : Nat) (u v : List Char) :
    deepest n (u ++ v) = max (deepest n u) (deepest (openAfter n u) v) := by
  induction u generalizing n with
  | nil => exact (Nat.max_eq_right (le_deepest n v)).symm
  | cons x u ih => rw [List.cons_append, deepest, ih, deepest, Nat.max_assoc]; rfl

/-- By how many the opening parentheses of a text outnumber the closing ones. -/
def excess (text : List Char) : Int := text.count '(' - text.count ')'

theorem excess_append (u v : List Char) : excess (u ++ v) = excess u + excess v := by
  simp only [excess, List.count_append]
  omega

theorem openAfter_le_deepest (n : Nat) (text : List Char) : openAfter n text ≤ deepest n text := by
  have h := deepest_append n text []
  rw [List.append_nil] at h
  rw [h]
  exact Nat.le_max_right ..

/-- A closing parenthesis that closes nothing counts in the excess alone. -/
theorem excess_le_openAfter (n : Nat) (text : List Char) : n + excess text ≤ openAfter n text := by
  induction text generalizing n with
  | nil => exact Int.le_of_eq (Int.add_zero _)
  | cons x text ih =>
      have hx : n + excess [x] ≤ nest n x := by
        by_cases ho : x = '('
        · subst ho
          exact Int.le_refl _
        by_cases hc : x = ')'
        · subst hc
          change (n : Int) + (-1) ≤ (n - 1 : Nat)
          omega
        · simp [excess, nest, ho, hc]
      calc (n : Int) + excess ([x] ++ text) = n + excess [x] + excess text := by
            rw [excess_append, Int.add_assoc]
        _ ≤ nest n x + excess text := Int.add_le_add_right hx _
        _ ≤ openAfter (nest n x) text := ih _

theorem excess_le_deepest {text : List Char} (h : u <+: text) : excess u ≤ deepest 0 text := by
  obtain ⟨rest, rfl⟩ := h
  calc excess u ≤ openAfter 0 u := by
        have := excess_le_openAfter 0 u
        omega
    _ ≤ deepest 0 u := Int.ofNat_le.2 (openAfter_le_deepest 0 u)
    _ ≤ deepest 0 (u ++ rest) := by
        rw [deepest_append]
        exact Int.ofNat_le.2 (Nat.le_max_left ..)

/-! ### Texts without parentheses -/

/-- There are no parentheses in the text. -/
def Flat (text : List Char) : Prop := ∀ x ∈ text, x ≠ '(' ∧ x ≠ ')'

theorem Flat.of_forall (p : Char → Bool) (hu : ∀ x ∈ u, p x = true) (ho : p '(' = false)
    (hc : p ')' = false) : Flat u := by
  refine fun x hx => ⟨?_, ?_⟩
  · rintro rfl
    cases ho.symm.trans (hu _ hx)
  · rintro rfl
    cases hc.symm.trans (hu _ hx)

theorem Flat.append {v : List Char} (hu : Flat u) (hv : Flat v) : Flat (u ++ v) :=
  fun x hx => (List.mem_append.1 hx).elim (hu x) (hv x)

theorem Blanks.flat (h : Blanks u) : Flat u := .of_forall isBlank h (by decide) (by decide)

theorem IsName.flat (h : IsName u) : Flat u := .of_forall isLetter h.2 (by decide) (by decide)

theorem Flat.openAfter_eq (h : Flat u) (n : Nat) : openAfter n u = n := by
  induction u with
  | nil => rfl
  | cons x u ih =>
      obtain ⟨hx, hu⟩ := List.forall_mem_cons.1 h
      rw [openAfter, List.foldl_cons, nest, if_neg hx.1, if_neg hx.2]
      exact ih hu

theorem Flat.deepest_eq (h : Flat u) (n : Nat) : deepest n u = n := by
  induction u with
  | nil => rfl
  | cons x u ih =>
      obtain ⟨hx, hu⟩ := List.forall_mem_cons.1 h
      rw [deepest, nest, if_neg hx.1, if_neg hx.2, ih hu, Nat.max_self]

theorem Flat.excess_eq (h : Flat u) : excess u = 0 := by
  rw [excess, List.count_eq_zero.2 fun hx => (h _ hx).1 rfl,
    List.count_eq_zero.2 fun hx => (h _ hx).2 rfl]
  rfl

/-! ### Expressions -/

namespace Written

theorem flat_literal {l : Literal} (h : ∀ x ∈ l.digits, isDigit x = true) : Flat l.text := by
  refine .append ?_ (.of_forall isDigit h (by decide) (by decide))
  obtain ⟨_ | s, digits⟩ := l
  · exact fun x hx => nomatch hx
  · cases s <;> exact List.forall_mem_singleton.2 (by decide)

/-- What stands between the operands of an operator. -/
theorem flat_operator {space : List Char} (h : Blanks space) (op : Operator) :
    Flat (space ++ [op.symbol]) := by
  refine h.flat.append ?_
  cases op <;> exact List.forall_mem_singleton.2 (by decide)

theorem text_binary (left right : Written) (space : List Char) (op : Operator) :
    (binary left space op right).text = left.text ++ (space ++ [op.symbol]) ++ right.text := by
  simp [text]

/-- An expression closes the parentheses that it opens. -/
theorem openAfter_text {w : Written} {precedence : Nat} (h : w.WellFormed precedence) (n : Nat) :
    openAfter n w.text = n := by
  induction w generalizing precedence n with
  | literal space l => exact (h.1.flat.append (flat_literal h.2.2)).openAfter_eq n
  | name space letters => exact (h.1.flat.append h.2.flat).openAfter_eq n
  | group space inside space' ih =>
      have hopen : ∀ text, openAfter n ('(' :: text) = openAfter (n + 1) text := fun _ => rfl
      rw [text, openAfter_append, h.1.flat.openAfter_eq, hopen, openAfter_append, openAfter_append,
        ih h.2.1, h.2.2.flat.openAfter_eq]
      rfl
  | binary left space op right ihl ihr =>
      rw [text_binary, openAfter_append, openAfter_append, ihl h.2.1,
        (flat_operator h.2.2.1 op).openAfter_eq, ihr h.2.2.2]

/-- An expression has as many parentheses of one kind as of the other. -/
theorem excess_text {w : Written} {precedence : Nat} (h : w.WellFormed precedence) :
    excess w.text = 0 := by
  induction w generalizing precedence with
  | literal space l => exact (h.1.flat.append (flat_literal h.2.2)).excess_eq
  | name space letters => exact (h.1.flat.append h.2.flat).excess_eq
  | group space inside space' ih =>
      rw [text, ← List.singleton_append, excess_append, excess_append, excess_append, excess_append,
        h.1.flat.excess_eq, ih h.2.1, h.2.2.flat.excess_eq]
      rfl
  | binary left space op right ihl ihr =>
      rw [text_binary, excess_append, excess_append, ihl h.2.1,
        (flat_operator h.2.2.1 op).excess_eq, ihr h.2.2.2]
      rfl

theorem excess_text_append_blanks {w : Written} {precedence : Nat} {space : List Char}
    (h : w.WellFormed precedence) (hs : Blanks space) : excess (w.text ++ space) = 0 := by
  rw [excess_append, excess_text h, hs.flat.excess_eq]
  rfl

/-- The parentheses open at once in an expression are its groups inside each other. -/
theorem deepest_text {w : Written} {precedence : Nat} (h : w.WellFormed precedence) (n : Nat) :
    deepest n w.text = n + w.depth := by
  induction w generalizing precedence n with
  | literal space l => exact (h.1.flat.append (flat_literal h.2.2)).deepest_eq n
  | name space letters => exact (h.1.flat.append h.2.flat).deepest_eq n
  | group space inside space' ih =>
      have hopen : ∀ text, deepest n ('(' :: text) = max n (deepest (n + 1) text) := fun _ => rfl
      have hclose : deepest (n + 1) [')'] = n + 1 := Nat.max_eq_left (Nat.le_succ n)
      rw [text, deepest_append, h.1.flat.openAfter_eq, h.1.flat.deepest_eq, hopen, deepest_append,
        deepest_append, openAfter_append, openAfter_text h.2.1, h.2.2.flat.openAfter_eq,
        h.2.2.flat.deepest_eq, ih h.2.1, hclose, depth]
      omega
  | binary left space op right ihl ihr =>
      have hop := flat_operator h.2.2.1 op
      rw [text_binary, deepest_append, deepest_append, openAfter_append, openAfter_text h.2.1,
        hop.openAfter_eq, hop.deepest_eq, ihl h.2.1, ihr h.2.2.2, depth]
      omega

theorem deepest_text_append_blanks {w : Written} {precedence : Nat} {space : List Char}
    (h : w.WellFormed precedence) (hs : Blanks space) : deepest 0 (w.text ++ space) = w.depth := by
  rw [deepest_append, deepest_text h, openAfter_text h, hs.flat.deepest_eq, Nat.zero_add,
    Nat.max_eq_left (Nat.zero_le _)]

end Written

/-! ### Lines -/

/-- What stands before the expression of an assignment. -/
theorem Line.flat_target {space space' name space'' : List Char} (hs : Blanks space)
    (hs' : Blanks space') (hn : IsName name) (hs'' : Blanks space'') :
    Flat (space ++ keyword ++ space' ++ name ++ space'' ++ ['=']) :=
  (Flat.of_forall _ (mem_target hs hs' hn hs'') (by decide) (by decide)).append
    (List.forall_mem_singleton.2 (by decide))

/-- Where the expression of a line begins there is no parenthesis before, and no letter right
before. -/
theorem TargetRun.exists_flat {c d : Cursor} {target : Option (List Char)}
    (h : TargetRun c (.ok (target, d))) :
    ∃ u, c.Passes u d ∧ Flat u ∧ Stops isLetter u.reverse := by
  cases h with
  | expression hs hp hb hk => exact ⟨_, hp, hs.flat, hs.stops_reverse⟩
  | assignment hs hs' hn hs'' hp =>
      exact ⟨_, hp, Line.flat_target hs hs' hn hs'', stops_reverse_concat_iff.2 (by decide)⟩

namespace Line

variable {l : Line}

theorem flat_lead (h : l.WellFormed) : Flat l.lead := by
  cases l with
  | assignment => exact flat_target h.1 h.2.1 h.2.2.1 h.2.2.2.1
  | expression => exact fun _ hx => nomatch hx

theorem text_eq_lead (l : Line) : l.text = l.lead ++ (l.written.text ++ l.trailing) := by
  cases l with
  | assignment => simp [text, lead, written, trailing]
  | expression => rfl

/-- A line has as many parentheses of one kind as of the other. -/
theorem excess_text (h : l.WellFormed) : excess l.text = 0 := by
  obtain ⟨hw, -, ht⟩ := h.expression
  rw [text_eq_lead, excess_append, (flat_lead h).excess_eq, Written.excess_text_append_blanks hw ht]
  rfl

/-- The parentheses open at once in a line are the groups of its expression inside each other. -/
theorem deepest_text (h : l.WellFormed) : deepest 0 l.text = l.written.depth := by
  obtain ⟨hw, -, ht⟩ := h.expression
  rw [text_eq_lead, deepest_append, (flat_lead h).deepest_eq, (flat_lead h).openAfter_eq,
    Written.deepest_text_append_blanks hw ht, Nat.max_eq_right (Nat.zero_le _)]

end Line

end Calculator
