import Mathlib.Data.List.Induction
import Mathlib.Data.Nat.Digits.Defs
import Calculator.Proofs.Language.Completeness
import Calculator.Proofs.Language.Printing

/-!
# Calculator — Proofs — Language — Literals

A line with nothing but an integer.  Its digits, of which there may be any number, write a number
in base ten by their places (`decimal`), which is the number that is computed from left to right
(`ofDigitChars_eq_decimal`).

**Literals** (`ofLine_literal_exact`).  If the number fits a value the line is worth it, and
otherwise it is reported behind the last digit; and a value in print is read back, also behind a
plus sign.
-/

namespace Calculator

/-! ### Digits -/

/-- The number that digits write in base ten: each counts for a power of ten by its place. -/
def decimal (digits : List Char) : Nat :=
  Nat.ofDigits 10 (digits.reverse.map fun x => x.toNat - '0'.toNat)

theorem decimal_concat (digits : List Char) (x : Char) :
    decimal (digits ++ [x]) = 10 * decimal digits + (x.toNat - '0'.toNat) := by
  rw [decimal, List.reverse_concat, List.map_cons, Nat.ofDigits_cons, Nat.add_comm]
  rfl

/-- Taken from left to right, the digits make the same number. -/
theorem ofDigitChars_eq_decimal (digits : List Char) :
    Nat.ofDigitChars 10 digits 0 = decimal digits := by
  induction digits using List.reverseRecOn with
  | nil => rfl
  | append_singleton digits x ih =>
      rw [Nat.ofDigitChars_append, ih, Nat.ofDigitChars_cons, Nat.ofDigitChars_nil, decimal_concat]

theorem Literal.number_eq (l : Literal) :
    l.number = (l.sign.getD .plus).apply (decimal l.digits) := by
  rw [number, ofDigitChars_eq_decimal]

/-! ### Lines -/

variable {store : Store} {l : Literal} {space space' : List Char} {line : String} {v : Value}

/-- A literal is no keyword, so with blanks around it it is a line. -/
theorem Line.wellFormed_literal (hw : (Written.literal space l).WellFormed 1)
    (hs' : Blanks space') : (Line.expression (.literal space l) space').WellFormed := by
  obtain ⟨hs, hne, hd⟩ := id hw
  have hl := Literal.isWord hne hd
  refine ⟨hw, Nat.zero_le _, hs', fun hk => ?_⟩
  rw [BeginsWithKeyword, Written.text, List.append_assoc,
    hs.dropWhile_append (hl.stops_isBlank space')] at hk
  obtain ⟨x, rest, hx, hxs⟩ := hl.exists_head
  rw [hx, List.cons_append] at hk
  obtain rfl : 'l' = x := (List.cons_prefix_cons.1 hk).1
  exact absurd hxs (by decide)

/-- A literal whose number fits makes a line that is worth it. -/
theorem ofLine_literal_of_fits (hw : (Written.literal space l).WellFormed 1) (hs' : Blanks space')
    (hline : line.toList = space ++ l.text ++ space') (hv : v.toInt = l.number) :
    Statement.ofLine store line = .ok (.expression v) := by
  have hl := Line.wellFormed_literal hw hs'
  have heval : Tree.eval store (.literal l) = .ok v :=
    Tree.eval_literal_eq_ok_iff.2 ⟨hw.2.1, hv⟩
  rw [ofLine_eq_ok_iff, hline]
  exact ofChars_of_eval hl heval

/-- A literal whose number does not fit is reported behind its last digit. -/
theorem ofLine_literal_of_not_fits (hw : (Written.literal space l).WellFormed 1)
    (hs' : Blanks space') (hline : line.toList = space ++ l.text ++ space')
    (hv : ¬ Value.Fits l.number) :
    Statement.ofLine store line = .error ⟨.malformedInteger, String.ofList ('"' :: l.text ++ ['"']),
      some (space ++ l.text).length, some line⟩ := by
  obtain ⟨hs, hne, hd⟩ := id hw
  obtain ⟨c, d, e, ht, hexpr, -, hcolumn, hc, he⟩ :=
    exists_expression_place (Line.wellFormed_literal hw hs') store
  have hstop : Stops isDigit e.after := by
    rw [he, ← List.append_nil (Line.trailing _)]
    exact hs'.stops (fun _ => isDigit_eq_false_of_isBlank) (stops_nil _)
  have hatom : readerAt store maxNesting 3 c = .error ⟨.malformedInteger l, e⟩ :=
    readerAt_of_atomRun fun _ => .malformed hs (Literal.isWord hne hd) hc hstop
      (Literal.value?_eq_none_iff.2 (.inr hv))
  have hread : expression store d = .error ⟨.malformedInteger l, e⟩ :=
    hexpr.trans (chain_eq_error (chain_eq_error hatom))
  have hend : e.column = (space ++ l.text).length := by
    rw [hc.column, hcolumn]
    exact Nat.zero_add _
  rw [← hend]
  refine ofLine_eq_error_iff.2 ⟨⟨.malformedInteger l, e⟩, ?_, rfl⟩
  rw [hline]
  exact (LineRun.expressionFails ht hread).eq

/-- A value in print is read back. -/
theorem ofLine_value_text (store : Store) (v : Value) :
    Statement.ofLine store v.text = .ok (.expression v) := by
  have hw : (Written.literal [] (Literal.ofInt v.toInt)).WellFormed 1 :=
    ⟨blanks_nil, Literal.digits_ofInt_ne_nil _, fun _ => Literal.isDigit_of_mem_ofInt⟩
  exact ofLine_literal_of_fits hw blanks_nil (by simp [Value.text])
    (Literal.number_ofInt v.toInt).symm

/-- A value that is not negative is read back behind a plus sign. -/
theorem ofLine_plus_value_text (store : Store) (hv : 0 ≤ v.toInt) :
    Statement.ofLine store ("+" ++ v.text) = .ok (.expression v) := by
  have hw : (Written.literal [] ⟨some .plus, (Literal.ofInt v.toInt).digits⟩).WellFormed 1 :=
    ⟨blanks_nil, Literal.digits_ofInt_ne_nil _, fun _ => Literal.isDigit_of_mem_ofInt⟩
  have hsign : (Literal.ofInt v.toInt).sign = none := if_neg (Int.not_lt.2 hv)
  refine ofLine_literal_of_fits hw blanks_nil ?_ ?_
  · simp [Value.text, Literal.text, hsign, Sign.symbol]
  · calc v.toInt = (Literal.ofInt v.toInt).number := (Literal.number_ofInt _).symm
      _ = Literal.number ⟨some .plus, (Literal.ofInt v.toInt).digits⟩ := by
        rw [Literal.number, hsign]
        rfl

/-- **Literals.**  An integer with any number of digits, leading zeros or not, and blanks around it
is worth the number that its digits write, with its sign, if that fits a value; if not, it is
reported behind its last digit, and quoted.  A value in print is read back, and so is one that is
not negative behind a plus sign. -/
theorem ofLine_literal_exact (store : Store) :
    (∀ (sign : Option Sign) (digits space space' : List Char) (line : String), digits ≠ [] →
      (∀ x ∈ digits, isDigit x = true) → Blanks space → Blanks space' →
      line.toList = space ++ Literal.text ⟨sign, digits⟩ ++ space' →
      (Value.Fits ((sign.getD .plus).apply (decimal digits)) →
        ∃ v : Value, v.toInt = (sign.getD .plus).apply (decimal digits) ∧
          Statement.ofLine store line = .ok (.expression v)) ∧
      (¬ Value.Fits ((sign.getD .plus).apply (decimal digits)) →
        Statement.ofLine store line = .error ⟨.malformedInteger,
          String.ofList ('"' :: Literal.text ⟨sign, digits⟩ ++ ['"']),
          some (space ++ Literal.text ⟨sign, digits⟩).length, some line⟩)) ∧
    ∀ v : Value, Statement.ofLine store v.text = .ok (.expression v) ∧
      (0 ≤ v.toInt → Statement.ofLine store ("+" ++ v.text) = .ok (.expression v)) := by
  refine ⟨fun sign digits space space' line hne hd hs hs' hline => ?_, fun v => ?_⟩
  · have hw : (Written.literal space ⟨sign, digits⟩).WellFormed 1 := ⟨hs, hne, hd⟩
    rw [← Literal.number_eq ⟨sign, digits⟩]
    refine ⟨fun hfits => ?_, fun hfits => ofLine_literal_of_not_fits hw hs' hline hfits⟩
    have hv := Int64.toInt_ofInt_of_le hfits.1 hfits.2
    exact ⟨_, hv, ofLine_literal_of_fits hw hs' hline hv⟩
  · exact ⟨ofLine_value_text store v, ofLine_plus_value_text store⟩

/-- The least value is taken, zeros in front of it or not; without its sign it is one too many. -/
theorem ofLine_literal_exact_least :
    Statement.ofLine ∅ " -009223372036854775808 " =
      .ok (.expression (-9223372036854775808)) ∧
    Statement.ofLine ∅ "9223372036854775808" =
      .error ⟨.malformedInteger, "\"9223372036854775808\"", some 19,
        some "9223372036854775808"⟩ := by
  have h := (ofLine_literal_exact ∅).1
  constructor
  · obtain ⟨v, hv, hline⟩ := (h (some .minus) "009223372036854775808".toList [' '] [' ']
      " -009223372036854775808 " (by decide) (by decide) (by decide) (by decide) (by decide)).1
      (by decide)
    obtain rfl : v = -9223372036854775808 := Int64.toInt_inj.1 (hv.trans (by decide))
    exact hline
  · exact (h none "9223372036854775808".toList [] [] "9223372036854775808" (by decide) (by decide)
      (by decide) (by decide) (by decide)).2 (by decide)

end Calculator
