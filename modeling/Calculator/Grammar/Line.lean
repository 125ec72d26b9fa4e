import Calculator.Expression
import Calculator.Grammar.Written
import Calculator.Statement

/-!
# Calculator — Grammar — Line

The lines of the language. Parentheses nest no deeper than `maxNesting`, blanks may end a line,
and a line that begins with the keyword is an assignment and nothing else.
-/

namespace Calculator

/-- A line: an assignment or an expression, with its blanks. -/
inductive Line where
  | assignment (space space' name space'' : List Char) (w : Written) (trailing : List Char)
  | expression (w : Written) (trailing : List Char)
  deriving DecidableEq, Repr

namespace Line

def text : Line → List Char
  | .assignment space space' name space'' w trailing =>
    space ++ Statement.keyword ++ space' ++ name ++ space'' ++ '=' :: (w.text ++ trailing)
  | .expression w trailing => w.text ++ trailing

/-- The expression of a line. -/
def written : Line → Written
  | .assignment _ _ _ _ w _ | .expression w _ => w

/-- The blanks that end a line. -/
def trailing : Line → List Char
  | .assignment _ _ _ _ _ trailing | .expression _ trailing => trailing

/-- The name that an assignment assigns to. -/
def target : Line → Option (List Char)
  | .assignment _ _ name _ _ _ => some name
  | .expression _ _ => none

/-- What stands before the expression. -/
def lead : Line → List Char
  | .assignment space space' name space'' _ _ =>
    space ++ Statement.keyword ++ space' ++ name ++ space'' ++ ['=']
  | .expression _ _ => []

/-- Whether a text begins with the keyword, after blanks. -/
def BeginsWithKeyword (text : List Char) : Prop :=
  Statement.keyword <+: text.dropWhile isBlank

instance (text : List Char) : Decidable (BeginsWithKeyword text) :=
  inferInstanceAs (Decidable (Statement.keyword <+: text.dropWhile isBlank))

/-- Whether the language has the line. -/
def WellFormed : Line → Prop
  | .assignment space space' name space'' w trailing =>
    Blanks space ∧ Blanks space' ∧ IsName name ∧ Blanks space'' ∧
      w.WellFormed 1 ∧ w.depth ≤ maxNesting ∧ Blanks trailing
  | .expression w trailing =>
    w.WellFormed 1 ∧ w.depth ≤ maxNesting ∧ Blanks trailing ∧
      ¬ BeginsWithKeyword (w.text ++ trailing)

instance decidableWellFormed : (l : Line) → Decidable l.WellFormed
  | .assignment space space' name space'' w trailing =>
    inferInstanceAs (Decidable (Blanks space ∧ Blanks space' ∧ IsName name ∧ Blanks space'' ∧
      w.WellFormed 1 ∧ w.depth ≤ maxNesting ∧ Blanks trailing))
  | .expression w trailing =>
    inferInstanceAs (Decidable (w.WellFormed 1 ∧ w.depth ≤ maxNesting ∧ Blanks trailing ∧
      ¬ BeginsWithKeyword (w.text ++ trailing)))

theorem WellFormed.expression {l : Line} (h : l.WellFormed) :
    l.written.WellFormed 1 ∧ l.written.depth ≤ maxNesting ∧ Blanks l.trailing := by
  cases l with
  | assignment => exact h.2.2.2.2
  | expression => exact ⟨h.1, h.2.1, h.2.2.1⟩

/-- The texts of the language. -/
def IsText (text : List Char) : Prop := ∃ line : Line, line.WellFormed ∧ line.text = text

/-- The statement a line makes, if its expression is worth a value. -/
inductive Means (store : Store) : Line → Statement → Prop where
  | assignment {space space' name space'' : List Char} {w : Written} {trailing : List Char}
      {value : Value} (h : w.tree.Denotes store value.toInt) :
      Means store (.assignment space space' name space'' w trailing)
        (.assignment (String.ofList name) value)
  | expression {w : Written} {trailing : List Char} {value : Value}
      (h : w.tree.Denotes store value.toInt) :
      Means store (.expression w trailing) (.expression value)

end Line

end Calculator
