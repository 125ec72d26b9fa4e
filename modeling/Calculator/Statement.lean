import Calculator.Expression

/-!
# Calculator — Statement

A line is an assignment or an expression. It is an assignment if it begins with the letters `let`,
whatever follows them: the name may be glued to them. A line is read to its end
(`Statement.ofLine`), and reading changes no variable.
-/

namespace Calculator

/-- What a line says: a name and the value it is to have, or just a value. -/
inductive Statement where
  | assignment (name : String) (value : Value)
  | expression (value : Value)
  deriving DecidableEq, Repr

namespace Statement

/-- The word that begins an assignment. -/
def keyword : List Char := ['l', 'e', 't']

/-- Reads an assignment, from after the keyword. -/
def readAssignment (store : Store) : Reader Statement := fun c => do
  let (letters, past) := c.skipBlanks.takeWhile isLetter
  if letters.isEmpty then .error ⟨.expectedVariable, past⟩
  else
    let c := past.skipBlanks
    match c.skipChar? '=' with
    | none => .error ⟨.expectedEquals, c⟩
    | some c =>
      let (value, past) ← Calculator.expression store c
      .ok (.assignment (String.ofList letters) value, past)

/-- Reads a statement. -/
def read (store : Store) : Reader Statement := fun c =>
  let c := c.skipBlanks
  match c.skipText? keyword with
  | some c => readAssignment store c
  | none => do
    let (value, past) ← Calculator.expression store c
    .ok (.expression value, past)

/-- The statement that a line makes, if the line holds nothing else. -/
def ofChars (store : Store) (line : List Char) : Except Fault Statement := do
  let (statement, past) ← read store (.start line)
  if past.atEnd then .ok statement else .error ⟨.unexpectedInput, past⟩

/-- The statement that a line makes, or the report of why it makes none. -/
def ofLine (store : Store) (line : String) : Except Diagnostic Statement :=
  (ofChars store line.toList).mapError (Fault.diagnostic line)

end Statement

end Calculator
