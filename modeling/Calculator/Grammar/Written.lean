import Calculator.Grammar.Tree
import Calculator.Character

/-!
# Calculator — Grammar — Written

Expressions as they are written, blanks and parentheses included. A `Written` keeps every
character of its text (`Written.text`); `Written.WellFormed` says which of them the language
allows; `Written.tree` forgets the layout. `Written.compact` writes a tree with no blanks and as
few parentheses as the operators need, `Written.full` with parentheses around every operator.
-/

namespace Calculator

/-- Only the characters of the text are looked at, and not all that there are. -/
instance decidableForallMem (p : Char → Bool) (text : List Char) :
    Decidable (∀ c ∈ text, p c = true) :=
  List.decidableBAll _ text

/-- Whether all characters are blanks. -/
def Blanks (text : List Char) : Prop := ∀ c ∈ text, isBlank c = true

instance (text : List Char) : Decidable (Blanks text) :=
  inferInstanceAs (Decidable (∀ c ∈ text, isBlank c = true))

/-- Whether the characters are a name. -/
def IsName (text : List Char) : Prop := text ≠ [] ∧ ∀ c ∈ text, isLetter c = true

instance (text : List Char) : Decidable (IsName text) :=
  inferInstanceAs (Decidable (text ≠ [] ∧ ∀ c ∈ text, isLetter c = true))

/-- An expression with its layout; each list of characters named `space` stands where blanks may
stand. -/
inductive Written where
  | literal (space : List Char) (l : Literal)
  | name (space letters : List Char)
  | group (space : List Char) (inside : Written) (space' : List Char)
  | binary (left : Written) (space : List Char) (op : Operator) (right : Written)
  deriving DecidableEq, Repr

namespace Written

def text : Written → List Char
  | .literal space l => space ++ l.text
  | .name space letters => space ++ letters
  | .group space inside space' => space ++ '(' :: (inside.text ++ space' ++ [')'])
  | .binary left space op right => left.text ++ space ++ op.symbol :: right.text

/-- The expression without its layout. -/
def tree : Written → Tree
  | .literal _ l => .literal l
  | .name _ letters => .name (String.ofList letters)
  | .group _ inside _ => inside.tree
  | .binary left _ op right => .node op left.tree right.tree

/-- The greatest number of parentheses open at once. -/
def depth : Written → Nat
  | .literal _ _ | .name _ _ => 0
  | .group _ inside _ => inside.depth + 1
  | .binary left _ _ right => max left.depth right.depth

/-- The expression may stand where an operand of the given precedence is expected: what is between
its words is blank, its literals have digits, its names letters, and its operators bind as tightly
as the precedence asks. Operators of one precedence group to the left. -/
def WellFormed : Nat → Written → Prop
  | _, .literal space l => Blanks space ∧ l.digits ≠ [] ∧ ∀ c ∈ l.digits, isDigit c = true
  | _, .name space letters => Blanks space ∧ IsName letters
  | _, .group space inside space' => Blanks space ∧ inside.WellFormed 1 ∧ Blanks space'
  | precedence, .binary left space op right =>
    precedence ≤ op.precedence ∧ left.WellFormed op.precedence ∧ Blanks space ∧
      right.WellFormed (op.precedence + 1)

instance decidableWellFormed :
    (precedence : Nat) → (w : Written) → Decidable (WellFormed precedence w)
  | _, .literal space l =>
    inferInstanceAs (Decidable (Blanks space ∧ l.digits ≠ [] ∧ ∀ c ∈ l.digits, isDigit c = true))
  | _, .name space letters => inferInstanceAs (Decidable (Blanks space ∧ IsName letters))
  | _, .group space inside space' =>
    have := decidableWellFormed 1 inside
    inferInstanceAs (Decidable (Blanks space ∧ inside.WellFormed 1 ∧ Blanks space'))
  | precedence, .binary left space op right =>
    have := decidableWellFormed op.precedence left
    have := decidableWellFormed (op.precedence + 1) right
    inferInstanceAs (Decidable (precedence ≤ op.precedence ∧ left.WellFormed op.precedence ∧
      Blanks space ∧ right.WellFormed (op.precedence + 1)))

/-! ### Writing trees -/

/-- Puts parentheses around an expression where they are needed. -/
def enclose (needed : Prop) [Decidable needed] (w : Written) : Written :=
  if needed then .group [] w [] else w

/-- How tightly the outermost operator of a tree binds; literals and names bind tightest. -/
def binding : Tree → Nat
  | .literal _ | .name _ => 3
  | .node op _ _ => op.precedence

/-- Writes a tree without blanks. An operand is put in parentheses if its operator binds less
tightly, and on the right also if it binds as tightly. -/
def compact : Tree → Written
  | .literal l => .literal [] l
  | .name x => .name [] x.toList
  | .node op left right =>
    .binary (enclose (binding left < op.precedence) (compact left)) [] op
      (enclose (binding right ≤ op.precedence) (compact right))

/-- Writes a tree without blanks and with parentheses around every operator. -/
def full : Tree → Written
  | .literal l => .literal [] l
  | .name x => .name [] x.toList
  | .node op left right => .group [] (.binary (full left) [] op (full right)) []

/-- Parentheses do not change what is meant. -/
@[simp]
theorem tree_enclose (needed : Prop) [Decidable needed] (w : Written) :
    (enclose needed w).tree = w.tree := by
  unfold enclose
  split <;> rfl

theorem tree_compact (t : Tree) : (compact t).tree = t := by
  induction t with
  | literal l => rfl
  | name x => rw [compact, tree, String.ofList_toList]
  | node op left right ihl ihr => rw [compact, tree, tree_enclose, tree_enclose, ihl, ihr]

theorem tree_full (t : Tree) : (full t).tree = t := by
  induction t with
  | literal l => rfl
  | name x => rw [full, tree, String.ofList_toList]
  | node op left right ihl ihr => rw [full, tree, tree, ihl, ihr]

/-- Whether a tree can be written: its literals have digits and its names letters. -/
def Writable : Tree → Prop
  | .literal l => l.digits ≠ [] ∧ ∀ c ∈ l.digits, isDigit c = true
  | .name x => IsName x.toList
  | .node _ left right => Writable left ∧ Writable right

theorem wellFormed_enclose {needed : Prop} [Decidable needed] {w : Written} {precedence : Nat}
    (h : ¬ needed → w.WellFormed precedence) (h' : w.WellFormed 1) :
    (enclose needed w).WellFormed precedence := by
  unfold enclose
  split
  · exact ⟨by simp [Blanks], h', by simp [Blanks]⟩
  · exact h ‹_›

theorem one_le_binding (t : Tree) : 1 ≤ binding t := by
  cases t with
  | literal | name => simp [binding]
  | node op => cases op <;> simp [binding, Operator.precedence]

/-- The compact form of a tree stands wherever its outermost operator binds tightly enough. -/
theorem wellFormed_compact {t : Tree} (h : Writable t) {precedence : Nat}
    (hp : precedence ≤ binding t) : (compact t).WellFormed precedence := by
  induction t generalizing precedence with
  | literal l => exact ⟨by simp [Blanks], h⟩
  | name x => exact ⟨by simp [Blanks], h⟩
  | node op left right ihl ihr =>
    refine ⟨hp, wellFormed_enclose (fun hn => ihl h.1 ?_) (ihl h.1 (one_le_binding left)),
      by simp [Blanks],
      wellFormed_enclose (fun hn => ihr h.2 ?_) (ihr h.2 (one_le_binding right))⟩
    · omega
    · omega

theorem wellFormed_full {t : Tree} (h : Writable t) {precedence : Nat} :
    (full t).WellFormed precedence := by
  induction t generalizing precedence with
  | literal l => exact ⟨by simp [Blanks], h⟩
  | name x => exact ⟨by simp [Blanks], h⟩
  | node op left right ihl ihr =>
    exact ⟨by simp [Blanks], ⟨by cases op <;> decide, ihl h.1, by simp [Blanks], ihr h.2⟩,
      by simp [Blanks]⟩

end Written

end Calculator
