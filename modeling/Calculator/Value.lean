/-!
# Calculator — Value

The integers a calculation may hold: those of 64 bits with a sign. Results are computed exactly
and then brought back by `Value.ofInt?`, which refuses what does not fit.
-/

namespace Calculator

/-- What a variable holds and an expression is worth. -/
abbrev Value := Int64

namespace Value

/-- Whether an integer is small enough for a value. -/
def Fits (n : Int) : Prop := -Int.pow 2 63 ≤ n ∧ n < Int.pow 2 63

instance (n : Int) : Decidable (Fits n) :=
  inferInstanceAs (Decidable (-Int.pow 2 63 ≤ n ∧ n < Int.pow 2 63))

/-- The value equal to `n`, if there is one. -/
def ofInt? (n : Int) : Option Value :=
  if Fits n then some (Int64.ofInt n) else none

theorem fits_toInt (v : Value) : Fits v.toInt :=
  ⟨v.le_toInt, v.toInt_lt⟩

@[simp]
theorem ofInt?_toInt (v : Value) : ofInt? v.toInt = some v := by
  rw [ofInt?, if_pos (fits_toInt v), Int64.ofInt_toInt]

theorem ofInt?_eq_some_iff {n : Int} {v : Value} : ofInt? n = some v ↔ v.toInt = n := by
  constructor
  · intro h
    by_cases hn : Fits n
    · rw [ofInt?, if_pos hn] at h
      rw [← Option.some.inj h, Int64.toInt_ofInt_of_le hn.1 hn.2]
    · rw [ofInt?, if_neg hn] at h
      cases h
  · rintro rfl
    exact ofInt?_toInt v

theorem ofInt?_eq_none_iff {n : Int} : ofInt? n = none ↔ ¬ Fits n := by
  rw [ofInt?]
  split <;> simp_all

end Value

end Calculator
