import Mathlib.Data.List.Basic
import Calculator.Proofs.Language.Meaning
import Calculator.Proofs.Language.Nesting

/-!
# Calculator — Proofs — Language — Printing

What is printed is read back.  A tree over values (`Tree.OverValues`) can be written in the language,
be it with as few parentheses as its operators need or with parentheses around every operator, and
neither way begins with a blank.  An expression on a line of its own comes to what its tree comes to,
or is reported as the first of its sites to fail (`ofLine_written`), so the way it is written does
not matter.

**Printing** (`ofLine_printed`).  A line with a printed tree is worth what the tree is worth, or is
reported for the first of the tree's parts to fail.
-/

namespace Calculator

open Statement (keyword)

/-! ### Trees over values -/

/-- The literals of the tree are values in base ten, and its names are words of letters. -/
def Tree.OverValues : Tree → Prop
  | .literal l => ∃ v : Value, l = .ofInt v.toInt
  | .name x => IsName x.toList
  | .node _ left right => left.OverValues ∧ right.OverValues

theorem Literal.isDigit_of_mem_ofInt {n : Int} {x : Char} (hx : x ∈ (ofInt n).digits) :
    isDigit x = true :=
  Nat.isDigit_of_mem_toDigits (by decide) (by decide) hx

namespace Written

variable {t : Tree} {w : Written}

theorem writable_of_overValues (h : t.OverValues) : Writable t := by
  induction t with
  | literal l =>
      obtain ⟨v, rfl⟩ := h
      exact ⟨Literal.digits_ofInt_ne_nil _, fun _ => Literal.isDigit_of_mem_ofInt⟩
  | name x => exact h
  | node op left right ihl ihr => exact ⟨ihl h.1, ihr h.2⟩

/-! ### How a printed tree begins -/

/-- No blank comes first, whatever comes behind. -/
def Tight (w : Written) : Prop := ∀ rest, Stops isBlank (w.text ++ rest)

theorem tight_literal {l : Literal} (h : Writable (.literal l)) : Tight (.literal [] l) :=
  (Literal.isWord h.1 h.2).stops_isBlank

theorem tight_name {x : String} (h : Writable (.name x)) : Tight (.name [] x.toList) :=
  IsName.stops_isBlank h

theorem tight_group (inside : Written) (space' : List Char) : Tight (.group [] inside space') :=
  fun _ => stops_cons_iff.2 (by decide)

theorem tight_enclose {needed : Prop} [Decidable needed] (h : w.Tight) :
    (enclose needed w).Tight := by
  unfold enclose
  split
  · exact tight_group w []
  · exact h

/-- An operator does not come before its left operand. -/
theorem Tight.binary {space : List Char} (h : w.Tight) (op : Operator) (right : Written) :
    Tight (.binary w space op right) := by
  intro rest
  have := h (space ++ op.symbol :: right.text ++ rest)
  simpa [text] using this

theorem tight_compact (h : Writable t) : (compact t).Tight := by
  induction t with
  | literal l => exact tight_literal h
  | name x => exact tight_name h
  | node op left right ihl _ => exact (tight_enclose (ihl h.1)).binary op _

theorem tight_full (h : Writable t) : (full t).Tight := by
  cases t with
  | literal l => exact tight_literal h
  | name x => exact tight_name h
  | node op left right => exact tight_group _ _

end Written

/-! ### Expressions on a line of their own -/

variable {w : Written}

/-- A written expression that does not begin with the keyword is a line. -/
theorem Line.wellFormed_expression (hw : w.WellFormed 1) (hb : w.Tight) (hk : ¬ keyword <+: w.text)
    (hd : deepest 0 w.text ≤ maxNesting) : (Line.expression w []).WellFormed := by
  rw [Written.deepest_text hw, Nat.zero_add] at hd
  refine ⟨hw, hd, blanks_nil, ?_⟩
  rwa [BeginsWithKeyword, (hb []).dropWhile_eq, List.append_nil]

/-- An expression on a line of its own comes to what its tree comes to. -/
theorem ofLine_written (store : Store) (hl : (Line.expression w []).WellFormed) :
    (∀ v, Statement.ofLine store (String.ofList w.text) = .ok (.expression v) ↔
      w.tree.eval store = .ok v) ∧
    ∀ cause, w.tree.eval store = .error cause →
      ∃ column, FirstFailure store (w.sites w.text 0) cause column ∧
        Statement.ofLine store (String.ofList w.text) =
          .error ⟨cause.kind, cause.detail, some column, some (String.ofList w.text)⟩ := by
  have htext : (Line.expression w []).text = (String.ofList w.text).toList := by
    simp [Line.text]
  cases hv : w.tree.eval store with
  | ok v =>
      have h := ofChars_of_eval hl hv
      rw [htext, ← ofLine_eq_ok_iff] at h
      refine ⟨fun v' => ?_, ?_⟩
      · rw [h]
        constructor
        · rintro ⟨⟩
          rfl
        · rintro ⟨⟩
          rfl
      · rintro _ ⟨⟩
  | error cause =>
      obtain ⟨place, hplace, hfirst⟩ := ofChars_of_eval_error hl hv
      rw [htext] at hplace
      have h := ofLine_eq_error_iff.2 ⟨_, hplace, rfl⟩
      refine ⟨fun v => ?_, ?_⟩
      · rw [h]
        constructor
        · rintro ⟨⟩
        · rintro ⟨⟩
      · rintro _ ⟨⟩
        rw [Line.sites, htext, String.toList_ofList] at hfirst
        exact ⟨place.column, hfirst, h⟩

/-- **Printing.**  A tree over values is printed without blanks, with as few parentheses as its
operators need or with parentheses around every operator.  If the text does not begin with the
keyword and does not nest too deep, the line is worth what the tree comes to; and if the tree comes
to nothing, the line is reported for the same cause, which is that of the first of its parts to
fail. -/
theorem ofLine_printed (store : Store) {t : Tree} (ht : t.OverValues) {w : Written}
    (hw : w = .compact t ∨ w = .full t) (hk : ¬ keyword <+: w.text)
    (hd : deepest 0 w.text ≤ maxNesting) :
    (∀ v, Statement.ofLine store (String.ofList w.text) = .ok (.expression v) ↔
      t.eval store = .ok v) ∧
    ∀ cause, t.eval store = .error cause →
      ∃ column, FirstFailure store (w.sites w.text 0) cause column ∧
        Statement.ofLine store (String.ofList w.text) =
          .error ⟨cause.kind, cause.detail, some column, some (String.ofList w.text)⟩ := by
  have hwrite := Written.writable_of_overValues ht
  rcases hw with rfl | rfl
  · have hwf := Written.wellFormed_compact hwrite (Written.one_le_binding t)
    have hl := Line.wellFormed_expression hwf (Written.tight_compact hwrite) hk hd
    have h := ofLine_written store hl
    rwa [Written.tree_compact] at h
  · have hwf : (Written.full t).WellFormed 1 := Written.wellFormed_full hwrite
    have hl := Line.wellFormed_expression hwf (Written.tight_full hwrite) hk hd
    have h := ofLine_written store hl
    rwa [Written.tree_full] at h

/-- The tree of 5 less what -3 is less the least value. -/
def Tree.nestedDifference : Tree :=
  .node .minus (.literal (.ofInt 5))
    (.node .minus (.literal (.ofInt (-3))) (.literal (.ofInt (-9223372036854775808))))

/-- The signs of the literals are not taken for operators, nor the operators for signs. -/
theorem ofLine_printed_nestedDifference :
    (Tree.nestedDifference.OverValues ∧
      ¬ keyword <+: (Written.compact Tree.nestedDifference).text ∧
      deepest 0 (Written.compact Tree.nestedDifference).text ≤ maxNesting) ∧
    Statement.ofLine ∅ "5-(-3--9223372036854775808)" =
      .ok (.expression (-9223372036854775800)) := by
  have ht : Tree.nestedDifference.OverValues :=
    ⟨⟨5, rfl⟩, ⟨-3, rfl⟩, ⟨-9223372036854775808, rfl⟩⟩
  have hk : ¬ keyword <+: (Written.compact Tree.nestedDifference).text := by decide
  have hd : deepest 0 (Written.compact Tree.nestedDifference).text ≤ maxNesting := by decide
  have hv : Tree.nestedDifference.eval ∅ = .ok (-9223372036854775800) := by decide +kernel
  exact ⟨⟨ht, hk, hd⟩, ((ofLine_printed ∅ ht (.inl rfl) hk hd).1 _).2 hv⟩

end Calculator
