import Calculator.Unicode.Alphabetic
import Calculator.Unicode.WhiteSpace

/-!
# Calculator — Character

The classes of characters a line is made of: letters for names, digits for integers, and blanks
between them. The three are disjoint, and none holds an operator, a parenthesis or the equals
sign, so the first character of a word decides what the word is.
-/

namespace Calculator

/-- Names are made of letters, of any script. -/
def isLetter (c : Char) : Bool :=
  Unicode.alphabetic.contains c.toNat

/-- Blanks separate; they mean nothing. -/
def isBlank (c : Char) : Bool :=
  Unicode.whiteSpace.contains c.toNat

/-- Integers are made of the ten ASCII digits. -/
def isDigit (c : Char) : Bool :=
  c.isDigit

/-- The characters that stand for themselves in a line: the operators, the parentheses and the
equals sign. -/
def punctuation : List Char :=
  ['+', '-', '*', '/', '(', ')', '=']

theorem isDigit_iff (c : Char) : isDigit c = true ↔ 48 ≤ c.toNat ∧ c.toNat ≤ 57 := by
  simp [isDigit, Char.isDigit, UInt32.le_iff_toNat_le]

/-- No range of blanks meets a range of letters. -/
theorem whiteSpace_disjoint_alphabetic :
    ∀ a ∈ Unicode.whiteSpace, ∀ b ∈ Unicode.alphabetic, a.2 < b.1 ∨ b.2 < a.1 := by
  decide +kernel

theorem isLetter_eq_false_of_isBlank {c : Char} (h : isBlank c = true) : isLetter c = false := by
  rw [Bool.eq_false_iff]
  intro hl
  obtain ⟨a, ha, _, _⟩ := (Unicode.Ranges.contains_iff Unicode.whiteSpace_ascending c.toNat).1 h
  obtain ⟨b, hb, _, _⟩ := (Unicode.Ranges.contains_iff Unicode.alphabetic_ascending c.toNat).1 hl
  have := whiteSpace_disjoint_alphabetic a ha b hb
  omega

theorem isDigit_eq_false_of_isBlank {c : Char} (h : isBlank c = true) : isDigit c = false := by
  rw [Bool.eq_false_iff, ne_eq, isDigit_iff]
  obtain ⟨a, ha, _, _⟩ := (Unicode.Ranges.contains_iff Unicode.whiteSpace_ascending c.toNat).1 h
  have := (by decide : ∀ a ∈ Unicode.whiteSpace, a.2 < 48 ∨ 57 < a.1) a ha
  omega

theorem isLetter_eq_false_of_isDigit {c : Char} (h : isDigit c = true) : isLetter c = false := by
  obtain ⟨h₁, h₂⟩ := (isDigit_iff c).1 h
  exact (by decide : ∀ n < 58, 48 ≤ n → Unicode.alphabetic.contains n = false) c.toNat (by omega) h₁

theorem isLetter_eq_false_of_mem_punctuation : ∀ c ∈ punctuation, isLetter c = false := by
  have h : punctuation.all (!isLetter ·) = true := by decide
  simpa using h

theorem isBlank_eq_false_of_mem_punctuation : ∀ c ∈ punctuation, isBlank c = false := by
  have h : punctuation.all (!isBlank ·) = true := by decide
  simpa using h

theorem isDigit_eq_false_of_mem_punctuation : ∀ c ∈ punctuation, isDigit c = false := by
  have h : punctuation.all (!isDigit ·) = true := by decide
  simpa using h

end Calculator
