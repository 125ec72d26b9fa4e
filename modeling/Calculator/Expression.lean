import Calculator.Operator
import Calculator.Reader
import Calculator.Store

/-!
# Calculator — Expression

Expressions are evaluated while they are read, from left to right, so the first failure on the way
is the one reported. An expression is a sum of terms, a term a product of atoms; both kinds of
chain group to the left (`chain`). An atom is a literal, a name or an expression in parentheses,
and at most `maxNesting` parentheses may be open at once.
-/

namespace Calculator

/-- The greatest number of parentheses that may be open at once. -/
def maxNesting : Nat := 512

/-! ### Atoms -/

/-- The sign that comes next, and the place after it. -/
def signAt? (c : Cursor) : Option (Sign × Cursor) := do
  let (x, past) ← c.next?
  let sign ← Sign.ofChar? x
  some (sign, past)

/-- Reads a sign, if there is one, and all digits after it. A digit is not required here: a lone
sign is a literal without a value. -/
def literal (c : Cursor) : Literal × Cursor :=
  match signAt? c with
  | some (sign, past) => (⟨some sign, (past.takeWhile isDigit).1⟩, past.skipWhile isDigit)
  | none => (⟨none, (c.takeWhile isDigit).1⟩, c.skipWhile isDigit)

/-- Reads an integer; what follows the last digit does not matter. -/
def integer : Reader Value := fun c =>
  let (found, past) := literal c
  match found.value? with
  | some value => .ok (value, past)
  | none => .error ⟨.malformedInteger found, past⟩

/-- Reads a name and looks it up; a name that is not set is reported at its first letter, to which
the reader goes back over the bytes of the name. -/
def named (store : Store) : Reader Value := fun c =>
  let (letters, past) := c.takeWhile isLetter
  match store[String.ofList letters]? with
  | some value => .ok (value, past)
  | none => .error ⟨.undefinedVariable (String.ofList letters), past.back (Text.byteSize letters)⟩

/-- Reads what stands in parentheses, from after the opening one. -/
def parenthesised (inside : Reader Value) : Reader Value := fun c => do
  let (value, past) ← inside c
  match past.skipChar? ')' with
  | some past => .ok (value, past)
  | none => .error ⟨.expectedCloseParen, past⟩

/-- Reads an atom. `inside` reads what stands in parentheses; it is `none` where no more may be
opened. -/
def atomWith (store : Store) (inside : Option (Reader Value)) : Reader Value := fun c =>
  let c := c.skipBlanks
  match c.next? with
  | none => .error ⟨.unexpectedEndOfInput, c⟩
  | some (x, past) =>
    if isDigit x || isSign x then integer c
    else if isLetter x then named store c
    else if x = '(' then
      match inside with
      | some inside => parenthesised inside past
      | none => .error ⟨.nestingTooDeep, c⟩
    else .error ⟨.unexpectedCharacter x, c⟩

/-! ### Chains of operators -/

/-- The operator of a precedence that comes next, and the place after it. -/
def operatorAt? (precedence : Nat) (c : Cursor) : Option (Operator × Cursor) := do
  let (x, past) ← c.next?
  let op ← Operator.ofChar? x
  if op.precedence = precedence then some (op, past) else none

/-- Reads further operators and operands behind a left-hand side. Blanks before an operator are
passed over even if none comes. The list bounds the turns: each takes a character at least, so
the characters left are bound enough. -/
def chainFrom (precedence : Nat) (operand : Reader Value) : List Char → Value → Reader Value
  | [], left, c => .ok (left, c.skipBlanks)
  | _ :: bound, left, c =>
    let c := c.skipBlanks
    match operatorAt? precedence c with
    | none => .ok (left, c)
    | some (op, past) => do
      let (right, past) ← operand past
      match op.apply left right with
      | .ok value => chainFrom precedence operand bound value past
      | .error cause => .error ⟨cause, past⟩

/-- Reads operands with operators of one precedence between them, grouped to the left. -/
def chain (precedence : Nat) (operand : Reader Value) : Reader Value := fun c => do
  let (first, past) ← operand c
  chainFrom precedence operand past.after first past

/-- Reads an expression whose atoms are read by `atom`. -/
def expressionOf (atom : Reader Value) : Reader Value :=
  chain 1 (chain 2 atom)

/-! ### Expressions -/

/-- Reads an atom inside which `room` more parentheses may be open at once. -/
def atom (store : Store) : Nat → Reader Value
  | 0 => atomWith store none
  | room + 1 => atomWith store (some (expressionOf (atom store room)))

/-- Reads an expression. -/
def expression (store : Store) : Reader Value :=
  expressionOf (atom store maxNesting)

end Calculator
