import Calculator.Literal
import Calculator.Text.Quoted

/-!
# Calculator — Diagnostic

What is wrong with a line. A `Cause` says what went wrong and carries what it went wrong on; a
`Diagnostic` is the report made of it: the kind of the failure, a detail, and, where they are
known, the line and the column. It is shown to the user by `Diagnostic.message` and written into
the log by `Diagnostic.entry`.
-/

namespace Calculator

/-! ### Kinds -/

/-- The kinds of failure. -/
inductive Kind where
  | divisionByZero
  | undefinedVariable
  | expectedEquals
  | expectedCloseParen
  | expectedVariable
  | unexpectedCharacter
  | unexpectedEndOfInput
  | unexpectedInput
  | malformedInteger
  | overflow
  | nestingTooDeep
  deriving DecidableEq, Repr

namespace Kind

/-- The code of a kind, for the log. -/
def code : Kind → String
  | .divisionByZero => "DivisionByZero"
  | .undefinedVariable => "UndefinedVariable"
  | .expectedEquals => "ExpectedEquals"
  | .expectedCloseParen => "ExpectedCloseParen"
  | .expectedVariable => "ExpectedVariable"
  | .unexpectedCharacter => "UnexpectedChar"
  | .unexpectedEndOfInput => "UnexpectedEndOfInput"
  | .unexpectedInput => "UnexpectedInput"
  | .malformedInteger => "MalformedInteger"
  | .overflow => "Overflow"
  | .nestingTooDeep => "NestingTooDeep"

/-- The words for a kind, for the user. -/
def title : Kind → String
  | .divisionByZero => "division by zero"
  | .undefinedVariable => "undefined variable"
  | .expectedEquals => "expected '='"
  | .expectedCloseParen => "expected ')'"
  | .expectedVariable => "expected variable name"
  | .unexpectedCharacter => "unexpected character"
  | .unexpectedEndOfInput => "unexpected end of input"
  | .unexpectedInput => "unexpected input"
  | .malformedInteger => "malformed integer"
  | .overflow => "overflow"
  | .nestingTooDeep => "parentheses nested too deeply"

def all : List Kind :=
  [.divisionByZero, .undefinedVariable, .expectedEquals, .expectedCloseParen, .expectedVariable,
    .unexpectedCharacter, .unexpectedEndOfInput, .unexpectedInput, .malformedInteger, .overflow,
    .nestingTooDeep]

def ofCode? (code : String) : Option Kind := all.find? (·.code == code)

theorem ofCode?_code (k : Kind) : ofCode? k.code = some k := by
  cases k <;> decide

end Kind

/-! ### Causes -/

/-- What went wrong, with what it went wrong on. -/
inductive Cause where
  | divisionByZero
  | undefinedVariable (name : String)
  | expectedEquals
  | expectedCloseParen
  | expectedVariable
  | unexpectedCharacter (found : Char)
  | unexpectedEndOfInput
  | unexpectedInput
  | malformedInteger (literal : Literal)
  | overflow
  | nestingTooDeep
  deriving DecidableEq, Repr

namespace Cause

def kind : Cause → Kind
  | .divisionByZero => .divisionByZero
  | .undefinedVariable _ => .undefinedVariable
  | .expectedEquals => .expectedEquals
  | .expectedCloseParen => .expectedCloseParen
  | .expectedVariable => .expectedVariable
  | .unexpectedCharacter _ => .unexpectedCharacter
  | .unexpectedEndOfInput => .unexpectedEndOfInput
  | .unexpectedInput => .unexpectedInput
  | .malformedInteger _ => .malformedInteger
  | .overflow => .overflow
  | .nestingTooDeep => .nestingTooDeep

/-- The name that is not set, the character quoted, or the literal between double quotes. -/
def detail : Cause → String
  | .undefinedVariable name => name
  | .unexpectedCharacter found => Text.quoted found
  | .malformedInteger literal => String.ofList ('"' :: literal.text ++ ['"'])
  | _ => ""

end Cause

/-! ### Reports -/

/-- A report of a failure. An empty detail is no detail. -/
structure Diagnostic where
  kind : Kind
  detail : String
  column : Option Nat
  line : Option String
  deriving DecidableEq, Repr

namespace Diagnostic

/-- The report of a cause that has no place in a line. -/
def ofCause (cause : Cause) : Diagnostic := ⟨cause.kind, cause.detail, none, none⟩

/-- The same report, at a column of a line. -/
def locate (column : Nat) (line : String) (d : Diagnostic) : Diagnostic :=
  { d with column := some column, line := some line }

/-- The detail behind `mark`, or nothing if there is none. -/
def detailAfter (mark : String) (d : Diagnostic) : String :=
  if d.detail.isEmpty then "" else mark ++ d.detail

/-- The line, and below it a caret under the column, if both are known. -/
def excerpt (d : Diagnostic) : String :=
  match d.line, d.column with
  | some line, some column =>
    "\n" ++ line ++ "\n" ++ String.ofList (List.replicate column ' ') ++ "^"
  | _, _ => ""

/-- The report as the user sees it. -/
def message (d : Diagnostic) : String :=
  d.kind.title ++ d.detailAfter ": " ++ d.excerpt

/-- The report as the log holds it: on one line, and without the user's line. -/
def entry (d : Diagnostic) : String :=
  let place := match d.column with
    | some column => " at " ++ String.ofList (Nat.toDigits 10 column)
    | none => ""
  "Error \x7b " ++ d.kind.code ++ place ++ d.detailAfter "; " ++ " \x7d"

end Diagnostic

end Calculator
