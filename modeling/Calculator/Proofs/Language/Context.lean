import Calculator.Proofs.Language.Nesting

/-!
# Calculator — Proofs — Language — Context

Expressions with one operand left open.  `Context.fill` puts an expression where the hole is; its
text then stands between the text before the hole and the text behind it (`Context.text_fill`).
What is read of a filled context — whether it is well formed, how deep it is, what it is worth —
depends on the expression in the hole only by the same of that expression (`wellFormed_fill`,
`depth_fill_le`, `eval_fill`).
-/

namespace Calculator

/-- An expression with one operand left open. -/
inductive Context where
  | hole
  | inGroup (space : List Char) (inside : Context) (space' : List Char)
  | inLeft (inside : Context) (space : List Char) (op : Operator) (right : Written)
  | inRight (left : Written) (space : List Char) (op : Operator) (inside : Context)
  deriving DecidableEq, Repr

namespace Context

/-- The expression with another in the place left open. -/
def fill : Context → Written → Written
  | .hole, w => w
  | .inGroup space inside space', w => .group space (inside.fill w) space'
  | .inLeft inside space op right, w => .binary (inside.fill w) space op right
  | .inRight left space op inside, w => .binary left space op (inside.fill w)

/-- The text before the hole. -/
def before : Context → List Char
  | .hole => []
  | .inGroup space inside _ => space ++ '(' :: inside.before
  | .inLeft inside _ _ _ => inside.before
  | .inRight left space op inside => left.text ++ (space ++ [op.symbol]) ++ inside.before

/-- The text behind the hole. -/
def behind : Context → List Char
  | .hole => []
  | .inGroup _ inside space' => inside.behind ++ (space' ++ [')'])
  | .inLeft inside space op right => inside.behind ++ (space ++ [op.symbol]) ++ right.text
  | .inRight _ _ _ inside => inside.behind

/-- The number of groups around the hole. -/
def level : Context → Nat
  | .hole => 0
  | .inGroup _ inside _ => inside.level + 1
  | .inLeft inside _ _ _ | .inRight _ _ _ inside => inside.level

variable {w w' : Written} {precedence : Nat}

theorem text_fill (c : Context) (w : Written) :
    (c.fill w).text = c.before ++ (w.text ++ c.behind) := by
  induction c with
  | hole => simp [fill, before, behind]
  | inGroup space inside space' ih => simp [fill, before, behind, Written.text, ih]
  | inLeft inside space op right ih => simp [fill, before, behind, Written.text, ih]
  | inRight left space op inside ih => simp [fill, before, behind, Written.text, ih]

/-- An expression that may stand anywhere may stand where another did. -/
theorem wellFormed_fill {c : Context} (h : (c.fill w).WellFormed precedence)
    (hw : ∀ q, w'.WellFormed q) : (c.fill w').WellFormed precedence := by
  induction c generalizing precedence with
  | hole => exact hw precedence
  | inGroup space inside space' ih => exact ⟨h.1, ih h.2.1, h.2.2⟩
  | inLeft inside space op right ih => exact ⟨h.1, ih h.2.1, h.2.2⟩
  | inRight left space op inside ih => exact ⟨h.1, h.2.1, h.2.2.1, ih h.2.2.2⟩

/-- The groups around the hole are the parentheses open before it. -/
theorem openAfter_before {c : Context} (h : (c.fill w).WellFormed precedence) (n : Nat) :
    openAfter n c.before = n + c.level := by
  induction c generalizing precedence n with
  | hole => rfl
  | inGroup space inside space' ih =>
      have hopen : openAfter n ('(' :: inside.before) = openAfter (n + 1) inside.before := rfl
      rw [before, openAfter_append, h.1.flat.openAfter_eq, hopen, ih h.2.1, level]
      omega
  | inLeft inside space op right ih => exact ih h.2.1 n
  | inRight left space op inside ih =>
      rw [before, openAfter_append, openAfter_append, Written.openAfter_text h.2.1,
        (Written.flat_operator h.2.2.1 op).openAfter_eq, ih h.2.2.2, level]

/-- Only what is in the hole can make a context deeper. -/
theorem depth_fill_le (c : Context) (w w' : Written) :
    (c.fill w').depth ≤ max (c.fill w).depth (c.level + w'.depth) := by
  induction c with
  | hole =>
      simp only [fill, level]
      omega
  | inGroup space inside space' ih =>
      simp only [fill, Written.depth, level]
      omega
  | inLeft inside space op right ih | inRight left space op inside ih =>
      simp only [fill, Written.depth, level]
      omega

/-- A context comes to the same with what comes to the same in it. -/
theorem eval_fill {store : Store} (c : Context)
    (h : w'.tree.eval store = w.tree.eval store) :
    (c.fill w').tree.eval store = (c.fill w).tree.eval store := by
  induction c with
  | hole => exact h
  | inGroup space inside space' ih => exact ih
  | inLeft inside space op right ih | inRight left space op inside ih =>
      simp only [fill, Written.tree, Tree.eval, ih]

end Context

end Calculator
