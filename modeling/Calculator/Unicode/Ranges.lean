/-!
# Calculator — Unicode — Ranges

Sets of code points, written as ascending lists of closed ranges. `contains` searches such a list
and stops early, and `contains_iff` says that for an ascending list it misses nothing.
-/

namespace Calculator.Unicode

/-- A set of code points as ranges `(first, last)`, both ends included. -/
abbrev Ranges := List (Nat × Nat)

namespace Ranges

/-- Whether `n` lies in a range; the search ends at the first range that starts past `n`. -/
def contains : Ranges → Nat → Bool
  | [], _ => false
  | (first, last) :: rest, n => if n < first then false else n ≤ last || contains rest n

/-- Every range is nonempty, starts past `bound`, and starts past the end of the one before it. -/
def AscendingFrom : Nat → Ranges → Prop
  | _, [] => True
  | bound, (first, last) :: rest => bound ≤ first ∧ first ≤ last ∧ AscendingFrom (last + 1) rest

instance decidableAscendingFrom :
    (bound : Nat) → (ranges : Ranges) → Decidable (AscendingFrom bound ranges)
  | _, [] => .isTrue trivial
  | bound, (first, last) :: rest =>
    have : Decidable (AscendingFrom (last + 1) rest) := decidableAscendingFrom (last + 1) rest
    inferInstanceAs (Decidable (bound ≤ first ∧ first ≤ last ∧ AscendingFrom (last + 1) rest))

/-- How many code points the ranges hold together. -/
def size : Ranges → Nat
  | [] => 0
  | (first, last) :: rest => last + 1 - first + size rest

theorem AscendingFrom.le_first {bound : Nat} {ranges : Ranges} (h : AscendingFrom bound ranges) :
    ∀ range ∈ ranges, bound ≤ range.1 := by
  induction ranges generalizing bound with
  | nil => simp
  | cons head rest ih =>
    obtain ⟨h₁, h₂, h₃⟩ := h
    intro range hr
    rcases List.mem_cons.1 hr with rfl | hr
    · exact h₁
    · have := ih h₃ range hr
      omega

/-- The early end of the search loses nothing. -/
theorem contains_iff {bound : Nat} {ranges : Ranges} (h : AscendingFrom bound ranges) (n : Nat) :
    contains ranges n = true ↔ ∃ range ∈ ranges, range.1 ≤ n ∧ n ≤ range.2 := by
  induction ranges generalizing bound with
  | nil => simp [contains]
  | cons head rest ih =>
    obtain ⟨-, h₂, h₃⟩ := h
    by_cases hn : n < head.1
    · have : ¬ head.1 ≤ n := by omega
      simp only [contains, hn, if_true, Bool.false_eq_true, false_iff, not_exists]
      rintro range ⟨hr, hle, -⟩
      rcases List.mem_cons.1 hr with rfl | hr
      · exact this hle
      · have := h₃.le_first range hr
        omega
    · have : head.1 ≤ n := by omega
      simp [contains, hn, ih h₃, this]

end Ranges

end Calculator.Unicode
