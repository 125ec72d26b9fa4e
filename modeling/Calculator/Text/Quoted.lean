import Calculator.Unicode.GraphemeExtend
import Calculator.Unicode.Hidden

/-!
# Calculator — Text — Quoted

How a single character is shown inside a message: between single quotes, and escaped where it
would not be seen as itself. No character is shown as a line end (`newline_not_mem_escape`), so a
quoted character never breaks the line it stands in.
-/

namespace Calculator.Text

/-- Whether a character is seen as itself when it stands alone: it joins no character before it
and shows something. -/
def isShown (c : Char) : Bool :=
  !(Unicode.graphemeExtend.contains c.toNat || Unicode.hidden.contains c.toNat)

/-- The code point in hexadecimal, in lower case and without leading zeros, between braces. -/
def codePoint (c : Char) : List Char :=
  '\\' :: 'u' :: '\x7b' :: Nat.toDigits 16 c.toNat ++ ['\x7d']

/-- The characters that have a short escape, each with what follows its backslash. -/
def shortEscape? : Char → Option Char
  | '\x00' => some '0'
  | '\t' => some 't'
  | '\r' => some 'r'
  | '\n' => some 'n'
  | '\'' => some '\''
  | '\\' => some '\\'
  | _ => none

/-- The form of a character between single quotes. -/
def escape (c : Char) : List Char :=
  match shortEscape? c with
  | some mark => ['\\', mark]
  | none => if isShown c then [c] else codePoint c

/-- A character between single quotes. -/
def quoted (c : Char) : String :=
  String.ofList ('\'' :: escape c ++ ['\''])

theorem digitChar_ne_newline (n : Nat) : Nat.digitChar n ≠ '\n' := by
  by_cases h : n < 16
  · exact (by decide : ∀ k < 16, Nat.digitChar k ≠ '\n') n h
  · have : Nat.digitChar n = '*' := by
      unfold Nat.digitChar
      repeat rw [if_neg (by omega)]
    rw [this]
    decide

theorem newline_not_mem_toDigits (n : Nat) : '\n' ∉ Nat.toDigits 16 n := by
  have core : ∀ (steps n : Nat) (found : List Char), '\n' ∉ found →
      '\n' ∉ Nat.toDigitsCore 16 steps n found := by
    intro steps
    induction steps with
    | zero => exact fun _ _ h => h
    | succ steps ih =>
      intro n found h
      have h' : '\n' ∉ Nat.digitChar (n % 16) :: found :=
        List.not_mem_cons_of_ne_of_not_mem (digitChar_ne_newline _).symm h
      rw [Nat.toDigitsCore]
      split
      · exact h'
      · exact ih _ _ h'
  exact core (n + 1) n [] (by simp)

theorem shortEscape?_ne_newline {c mark : Char} (h : shortEscape? c = some mark) :
    mark ≠ '\n' := by
  unfold shortEscape? at h
  split at h <;> cases h <;> decide

theorem newline_not_mem_escape (c : Char) : '\n' ∉ escape c := by
  unfold escape
  cases h : shortEscape? c with
  | some mark => simpa using (shortEscape?_ne_newline h).symm
  | none =>
    have hc : '\n' ≠ c := fun e => absurd (e ▸ h) (by decide)
    by_cases hs : isShown c
    · simpa [hs] using hc
    · simp [hs, codePoint, newline_not_mem_toDigits]

end Calculator.Text
