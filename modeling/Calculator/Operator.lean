import Calculator.Diagnostic

/-!
# Calculator — Operator

The four operators. Each is computed exactly, on integers without bounds, and fails if the result
does not fit a value (`apply_eq_ok_iff`).
-/

namespace Calculator

inductive Operator where
  | plus
  | minus
  | times
  | divide
  deriving DecidableEq, Repr

namespace Operator

def symbol : Operator → Char
  | .plus => '+'
  | .minus => '-'
  | .times => '*'
  | .divide => '/'

def ofChar? (c : Char) : Option Operator :=
  if c = '+' then some .plus
  else if c = '-' then some .minus
  else if c = '*' then some .times
  else if c = '/' then some .divide
  else none

/-- An operator of higher precedence binds its operands more tightly. -/
def precedence : Operator → Nat
  | .plus | .minus => 1
  | .times | .divide => 2

/-- The result on integers without bounds; division goes toward zero. -/
def exact : Operator → Int → Int → Int
  | .plus, a, b => a + b
  | .minus, a, b => a - b
  | .times, a, b => a * b
  | .divide, a, b => a.tdiv b

/-- The result, if there is one and it fits. -/
def apply (op : Operator) (a b : Value) : Except Cause Value :=
  if op = .divide ∧ b = 0 then .error .divisionByZero
  else match Value.ofInt? (op.exact a.toInt b.toInt) with
    | some v => .ok v
    | none => .error .overflow

theorem ofChar?_eq_some_iff {c : Char} {op : Operator} : ofChar? c = some op ↔ c = op.symbol := by
  constructor
  · unfold ofChar?
    repeat' split
    all_goals rintro ⟨⟩ <;> assumption
  · rintro rfl
    cases op <;> rfl

theorem apply_eq_ok_iff {op : Operator} {a b v : Value} :
    op.apply a b = .ok v ↔
      ¬ (op = .divide ∧ b = 0) ∧ v.toInt = op.exact a.toInt b.toInt := by
  unfold apply
  by_cases h : op = .divide ∧ b = 0
  · simp [h]
  · rw [if_neg h, ← Value.ofInt?_eq_some_iff]
    cases Value.ofInt? (op.exact a.toInt b.toInt) <;> simp [h]

/-- Division by zero wins over all else; what remains is a result that does not fit. -/
theorem apply_eq_error_iff {op : Operator} {a b : Value} {cause : Cause} :
    op.apply a b = .error cause ↔
      (cause = .divisionByZero ∧ op = .divide ∧ b = 0) ∨
      (cause = .overflow ∧ ¬ (op = .divide ∧ b = 0) ∧
        ¬ Value.Fits (op.exact a.toInt b.toInt)) := by
  unfold apply
  by_cases h : op = .divide ∧ b = 0
  · simp [h, eq_comm]
  · rw [if_neg h, ← Value.ofInt?_eq_none_iff]
    cases Value.ofInt? (op.exact a.toInt b.toInt) <;> simp [h, eq_comm]

end Operator

end Calculator
