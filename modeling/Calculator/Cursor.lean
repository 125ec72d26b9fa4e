import Calculator.Character
import Calculator.Text.Bytes

/-!
# Calculator — Cursor

A place in a line: the characters before it and those after it. Every move keeps the line
(`line_next?`, `line_skipIf?`, `line_skipText?`, `line_skipWhile`, `line_back`), so a place can
be told by its column, counted in characters, or by its offset, counted in UTF-8 bytes.
-/

namespace Calculator

/-- A place between two characters of a line. -/
structure Cursor where
  /-- The characters before the place, the nearest first. -/
  before : List Char
  /-- The characters after the place, the nearest first. -/
  after : List Char
  deriving DecidableEq, Repr

namespace Cursor

/-- The beginning of a line. -/
def start (line : List Char) : Cursor := ⟨[], line⟩

/-- The characters before the place, as they stand in the line. -/
def consumed (c : Cursor) : List Char := c.before.reverse

/-- The whole line. -/
def line (c : Cursor) : List Char := c.consumed ++ c.after

/-- The number of characters before the place. -/
def column (c : Cursor) : Nat := c.before.length

/-- The number of bytes before the place. -/
def offset (c : Cursor) : Nat := Text.byteSize c.before

def atEnd (c : Cursor) : Bool := c.after.isEmpty

/-- The next character. -/
def peek? (c : Cursor) : Option Char := c.after.head?

/-- The text between an offset and the place. -/
def textFrom (offset : Nat) (c : Cursor) : List Char := Text.dropBytes offset c.consumed

/-! ### Moves -/

/-- The next character and the place after it. -/
def next? (c : Cursor) : Option (Char × Cursor) :=
  match c.after with
  | [] => none
  | x :: rest => some (x, ⟨x :: c.before, rest⟩)

/-- The place after the next character, if that satisfies `p`. -/
def skipIf? (p : Char → Bool) (c : Cursor) : Option Cursor :=
  match c.after with
  | [] => none
  | x :: rest => if p x then some ⟨x :: c.before, rest⟩ else none

/-- The place after the next character, if that is `x`. -/
def skipChar? (x : Char) (c : Cursor) : Option Cursor := c.skipIf? (· == x)

/-- The place after `text`, if that comes next. -/
def skipText? (text : List Char) (c : Cursor) : Option Cursor :=
  if text.isPrefixOf c.after then
    some ⟨text.reverse ++ c.before, c.after.drop text.length⟩
  else none

/-- The place after the longest run of characters that satisfy `p`. -/
def skipWhile (p : Char → Bool) (c : Cursor) : Cursor :=
  ⟨(c.after.takeWhile p).reverse ++ c.before, c.after.dropWhile p⟩

/-- The longest run of characters that satisfy `p`, and the place after it. -/
def takeWhile (p : Char → Bool) (c : Cursor) : List Char × Cursor :=
  (c.after.takeWhile p, c.skipWhile p)

def skipBlanks (c : Cursor) : Cursor := c.skipWhile isBlank

/-- The place `n` bytes back. -/
def back (n : Nat) (c : Cursor) : Cursor :=
  ⟨Text.dropBytes n c.before, (Text.takeBytes n c.before).reverse ++ c.after⟩

/-! ### What the moves keep -/

theorem line_start (line : List Char) : (start line).line = line := rfl

theorem length_line (c : Cursor) : c.line.length = c.column + c.after.length := by
  simp [line, consumed, column]

theorem offset_eq (c : Cursor) : c.offset = Text.byteSize c.consumed :=
  (Text.byteSize_reverse c.before).symm

theorem atEnd_iff (c : Cursor) : c.atEnd = true ↔ c.after = [] :=
  List.isEmpty_iff

theorem next?_eq_some_iff {c d : Cursor} {x : Char} :
    c.next? = some (x, d) ↔ c.after = x :: d.after ∧ d.before = x :: c.before := by
  obtain ⟨before, after⟩ := c
  obtain ⟨before', after'⟩ := d
  cases after with
  | nil => simp [next?]
  | cons y rest => simp only [next?]; grind

theorem skipIf?_eq_some_iff {p : Char → Bool} {c d : Cursor} :
    c.skipIf? p = some d ↔
      ∃ x, p x = true ∧ c.after = x :: d.after ∧ d.before = x :: c.before := by
  obtain ⟨before, after⟩ := c
  obtain ⟨before', after'⟩ := d
  cases after with
  | nil => simp [skipIf?]
  | cons y rest => simp only [skipIf?]; grind

theorem skipChar?_eq_some_iff {x : Char} {c d : Cursor} :
    c.skipChar? x = some d ↔ c.after = x :: d.after ∧ d.before = x :: c.before := by
  simp [skipChar?, skipIf?_eq_some_iff]

theorem skipText?_eq_some_iff {text : List Char} {c d : Cursor} :
    c.skipText? text = some d ↔
      c.after = text ++ d.after ∧ d.before = text.reverse ++ c.before := by
  obtain ⟨before, after⟩ := c
  obtain ⟨before', after'⟩ := d
  unfold skipText?
  split
  next h =>
    obtain ⟨rest, rfl⟩ := List.isPrefixOf_iff_prefix.1 h
    simp [and_comm, eq_comm]
  next h =>
    rw [List.isPrefixOf_iff_prefix] at h
    simp only [reduceCtorEq, false_iff, not_and]
    rintro rfl
    exact absurd (List.prefix_append text after') h

theorem line_next? {c d : Cursor} {x : Char} (h : c.next? = some (x, d)) : d.line = c.line := by
  obtain ⟨h₁, h₂⟩ := next?_eq_some_iff.1 h
  simp [line, consumed, h₁, h₂]

theorem line_skipIf? {p : Char → Bool} {c d : Cursor} (h : c.skipIf? p = some d) :
    d.line = c.line := by
  obtain ⟨x, -, h₁, h₂⟩ := skipIf?_eq_some_iff.1 h
  simp [line, consumed, h₁, h₂]

theorem line_skipText? {text : List Char} {c d : Cursor} (h : c.skipText? text = some d) :
    d.line = c.line := by
  obtain ⟨h₁, h₂⟩ := skipText?_eq_some_iff.1 h
  simp [line, consumed, h₁, h₂]

theorem line_skipWhile (p : Char → Bool) (c : Cursor) : (c.skipWhile p).line = c.line := by
  simp [line, consumed, skipWhile, List.takeWhile_append_dropWhile]

theorem line_back (n : Nat) (c : Cursor) : (c.back n).line = c.line := by
  simp only [line, consumed, back]
  rw [← List.append_assoc, ← List.reverse_append, Text.takeBytes_append_dropBytes]

/-- After a run comes no further character of the run. -/
theorem head_skipWhile {p : Char → Bool} {c : Cursor} {x : Char}
    (h : (c.skipWhile p).peek? = some x) : p x = false := by
  have := List.head?_dropWhile_not p c.after
  rw [show (c.after.dropWhile p).head? = some x from h] at this
  simpa using this

end Cursor

end Calculator
