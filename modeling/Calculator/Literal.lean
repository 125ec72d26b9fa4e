import Calculator.Character
import Calculator.Value

/-!
# Calculator — Literal

Integers as they are written: an optional sign and a run of digits, of any length. A literal
stands for a value when it has a digit and its number fits (`Literal.value?`); a value is written
as one literal, the shortest, and that literal reads back (`value?_ofInt`).
-/

namespace Calculator

/-- The sign in front of a literal. -/
inductive Sign where
  | plus
  | minus
  deriving DecidableEq, Repr

namespace Sign

def symbol : Sign → Char
  | .plus => '+'
  | .minus => '-'

def ofChar? (c : Char) : Option Sign :=
  if c = '+' then some .plus else if c = '-' then some .minus else none

/-- The number with this sign and this absolute value. -/
def apply : Sign → Nat → Int
  | .plus, n => n
  | .minus, n => -n

theorem ofChar?_eq_some_iff {c : Char} {s : Sign} : ofChar? c = some s ↔ c = s.symbol := by
  unfold ofChar?
  cases s <;> split <;> simp_all [symbol]

end Sign

/-- Whether a character is a sign. -/
def isSign (c : Char) : Bool :=
  (Sign.ofChar? c).isSome

/-- An integer as it is written. -/
structure Literal where
  sign : Option Sign
  digits : List Char
  deriving DecidableEq, Repr

namespace Literal

/-- The characters of a literal. -/
def text (l : Literal) : List Char :=
  (l.sign.map Sign.symbol).toList ++ l.digits

/-- The number a literal writes in base ten. -/
def number (l : Literal) : Int :=
  (l.sign.getD .plus).apply (Nat.ofDigitChars 10 l.digits 0)

/-- The value a literal stands for: there is none for a sign without digits, nor for a number
that does not fit. -/
def value? (l : Literal) : Option Value :=
  if l.digits.isEmpty then none else Value.ofInt? l.number

/-- The literal of an integer: a sign only below zero, and no leading zeros. -/
def ofInt (n : Int) : Literal :=
  ⟨if n < 0 then some .minus else none, Nat.toDigits 10 n.natAbs⟩

theorem number_ofInt (n : Int) : (ofInt n).number = n := by
  rw [number, ofInt, Nat.ofDigitChars_toDigits (by decide) (by decide)]
  by_cases h : n < 0
  · rw [if_pos h, Option.getD_some, Sign.apply]
    omega
  · rw [if_neg h, Option.getD_none, Sign.apply]
    omega

theorem digits_ofInt_ne_nil (n : Int) : (ofInt n).digits ≠ [] :=
  Nat.toDigits_ne_nil

/-- What is written reads back. -/
theorem value?_ofInt (v : Value) : (ofInt v.toInt).value? = some v := by
  rw [value?, if_neg (by simpa using digits_ofInt_ne_nil _), number_ofInt, Value.ofInt?_toInt]

theorem value?_eq_some_iff {l : Literal} {v : Value} :
    l.value? = some v ↔ l.digits ≠ [] ∧ v.toInt = l.number := by
  rw [value?]
  by_cases h : l.digits = []
  · simp [h]
  · simp [h, Value.ofInt?_eq_some_iff]

theorem value?_eq_none_iff {l : Literal} :
    l.value? = none ↔ l.digits = [] ∨ ¬ Value.Fits l.number := by
  rw [value?]
  by_cases h : l.digits = []
  · simp [h]
  · simp [h, Value.ofInt?_eq_none_iff]

end Literal

/-- The text of a value: its literal. -/
def Value.text (v : Value) : String :=
  String.ofList (Literal.ofInt v.toInt).text

end Calculator
