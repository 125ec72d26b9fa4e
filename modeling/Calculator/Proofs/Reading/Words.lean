import Calculator.Expression
import Calculator.Grammar.Written
import Calculator.Proofs.Reading.Passage

/-!
# Calculator — Proofs — Reading — Words

The words of an expression: runs of blanks, literals, names and single signs.  The character a
word begins with says which of them it is (`isSign_iff` and the disjointness of the classes), and
a reader takes exactly the word that is over where the next one begins (`literal_eq`,
`skipBlanks_eq`).
-/

namespace Calculator

/-! ### Characters -/

theorem Sign.symbol_mem_punctuation (s : Sign) : s.symbol ∈ punctuation := by
  cases s <;> decide

theorem Operator.symbol_mem_punctuation (op : Operator) : op.symbol ∈ punctuation := by
  cases op <;> decide

theorem isSign_iff {x : Char} : isSign x = true ↔ ∃ s : Sign, x = s.symbol := by
  rw [isSign, Option.isSome_iff_exists]
  exact exists_congr fun s => Sign.ofChar?_eq_some_iff

theorem isSign_eq_false_of_isBlank {x : Char} (h : isBlank x = true) : isSign x = false := by
  rw [Bool.eq_false_iff, ne_eq, isSign_iff]
  rintro ⟨s, rfl⟩
  simp [isBlank_eq_false_of_mem_punctuation _ s.symbol_mem_punctuation] at h

theorem isSign_eq_false_of_isLetter {x : Char} (h : isLetter x = true) : isSign x = false := by
  rw [Bool.eq_false_iff, ne_eq, isSign_iff]
  rintro ⟨s, rfl⟩
  simp [isLetter_eq_false_of_mem_punctuation _ s.symbol_mem_punctuation] at h

theorem isSign_eq_false_of_isDigit {x : Char} (h : isDigit x = true) : isSign x = false := by
  rw [Bool.eq_false_iff, ne_eq, isSign_iff]
  rintro ⟨s, rfl⟩
  simp [isDigit_eq_false_of_mem_punctuation _ s.symbol_mem_punctuation] at h

theorem isLetter_eq_false_of_isSign {x : Char} (h : isSign x = true) : isLetter x = false := by
  rw [Bool.eq_false_iff]
  intro hl
  simp [isSign_eq_false_of_isLetter hl] at h

theorem isDigit_eq_false_of_isLetter {x : Char} (h : isLetter x = true) : isDigit x = false := by
  rw [Bool.eq_false_iff]
  intro hd
  simp [isLetter_eq_false_of_isDigit hd] at h

theorem isBlank_eq_false_of_isLetter {x : Char} (h : isLetter x = true) : isBlank x = false := by
  rw [Bool.eq_false_iff]
  intro hb
  simp [isLetter_eq_false_of_isBlank hb] at h

/-! ### Blanks -/

theorem blanks_nil : Blanks [] := by simp [Blanks]

theorem blanks_append_iff {u v : List Char} : Blanks (u ++ v) ↔ Blanks u ∧ Blanks v := by
  simp [Blanks, or_imp, forall_and]

theorem Blanks.isLetter_eq_false {space : List Char} (h : Blanks space) :
    ∀ x ∈ space, isLetter x = false :=
  fun x hx => isLetter_eq_false_of_isBlank (h x hx)

theorem Blanks.stops_reverse {space : List Char} (h : Blanks space) :
    Stops isLetter space.reverse :=
  fun x hx => h.isLetter_eq_false x (List.mem_reverse.1 (List.mem_of_mem_head? hx))

/-- No run of letters or digits goes on in blanks. -/
theorem Blanks.stops {p : Char → Bool} {space rest : List Char} (h : Blanks space)
    (hp : ∀ x, isBlank x = true → p x = false) (hr : Stops p rest) : Stops p (space ++ rest) := by
  cases space with
  | nil => exact hr
  | cons x space => exact stops_cons_iff.2 (hp x (h x (by simp)))

theorem Blanks.dropWhile_append {space rest : List Char} (h : Blanks space)
    (hr : Stops isBlank rest) : (space ++ rest).dropWhile isBlank = rest := by
  rw [List.dropWhile_append_of_pos h, hr.dropWhile_eq]

theorem Cursor.skipBlanks_eq {c d : Cursor} {space : List Char} (h : c.Passes space d)
    (hs : Blanks space) (hd : Stops isBlank d.after) : c.skipBlanks = d :=
  Cursor.skipWhile_eq h hs hd

/-- Blanks before blanks are passed over with them. -/
theorem Cursor.skipBlanks_eq_skipBlanks {c d : Cursor} {space : List Char} (h : c.Passes space d)
    (hs : Blanks space) : c.skipBlanks = d.skipBlanks := by
  obtain ⟨u, e, hp, hu, he⟩ := Cursor.exists_run isBlank d
  rw [skipBlanks_eq hp hu he, skipBlanks_eq (h.trans hp) (blanks_append_iff.2 ⟨hs, hu⟩) he]

theorem Cursor.exists_blanks (c : Cursor) :
    ∃ space d, c.Passes space d ∧ Blanks space ∧ Stops isBlank d.after :=
  Cursor.exists_run isBlank c

/-! ### Literals -/

/-- What is read as a literal: digits behind an optional sign.  Only behind a sign they may be
missing. -/
def Literal.IsWord (l : Literal) : Prop :=
  (∀ x ∈ l.digits, isDigit x = true) ∧ (l.sign = none → l.digits ≠ [])

/-- A literal begins with a digit or a sign. -/
theorem Literal.IsWord.exists_head {l : Literal} (h : l.IsWord) :
    ∃ x rest, l.text = x :: rest ∧ (isDigit x = true ∨ isSign x = true) := by
  obtain ⟨_ | s, digits⟩ := l
  · obtain ⟨x, rest, rfl⟩ := List.exists_cons_of_ne_nil (h.2 rfl)
    exact ⟨x, rest, rfl, .inl (h.1 x (by simp))⟩
  · exact ⟨s.symbol, digits, rfl, .inr (isSign_iff.2 ⟨s, rfl⟩)⟩

/-- A literal is made of digits and signs. -/
theorem Literal.IsWord.mem_text {l : Literal} (h : l.IsWord) {x : Char} (hx : x ∈ l.text) :
    isDigit x = true ∨ isSign x = true := by
  rcases List.mem_append.1 hx with hx | hx
  · obtain ⟨s, -, rfl⟩ := Option.map_eq_some_iff.1 (Option.mem_toList.1 hx)
    exact .inr (isSign_iff.2 ⟨s, rfl⟩)
  · exact .inl (h.1 x hx)

theorem Literal.IsWord.isLetter_eq_false {l : Literal} (h : l.IsWord) :
    ∀ x ∈ l.text, isLetter x = false := by
  intro x hx
  rcases h.mem_text hx with hx | hx
  · exact isLetter_eq_false_of_isDigit hx
  · exact isLetter_eq_false_of_isSign hx

theorem Literal.IsWord.isBlank_eq_false {l : Literal} (h : l.IsWord) {x : Char} (hx : x ∈ l.text) :
    isBlank x = false := by
  rw [Bool.eq_false_iff]
  intro hb
  rcases h.mem_text hx with hd | hs
  · simp [isDigit_eq_false_of_isBlank hb] at hd
  · simp [isSign_eq_false_of_isBlank hb] at hs

theorem Literal.IsWord.stops_isBlank {l : Literal} (h : l.IsWord) (rest : List Char) :
    Stops isBlank (l.text ++ rest) := by
  obtain ⟨x, text, hx, -⟩ := h.exists_head
  rw [hx, List.cons_append, stops_cons_iff]
  exact h.isBlank_eq_false (hx ▸ List.mem_cons_self)

theorem signAt?_eq_some_iff {c d : Cursor} {s : Sign} :
    signAt? c = some (s, d) ↔ c.Passes [s.symbol] d := by
  simp only [signAt?, Option.bind_eq_bind, Option.bind_eq_some_iff, Prod.exists,
    Option.some.injEq, Prod.mk.injEq, Sign.ofChar?_eq_some_iff, ← Cursor.passes_singleton_iff]
  constructor
  · rintro ⟨x, past, hp, s', rfl, rfl, rfl⟩
    exact hp
  · intro hp
    exact ⟨_, d, hp, s, rfl, rfl, rfl⟩

theorem signAt?_eq_none_iff {c : Cursor} : signAt? c = none ↔ Stops isSign c.after := by
  rw [Option.eq_none_iff_forall_ne_some]
  constructor
  · intro h x hx
    rw [Bool.eq_false_iff, ne_eq, isSign_iff]
    rintro ⟨s, rfl⟩
    obtain ⟨rest, hc⟩ := List.head?_eq_some_iff.1 (Option.mem_def.1 hx)
    obtain ⟨d, hd, -⟩ := Cursor.exists_passes (u := [s.symbol]) hc
    exact h (s, d) (signAt?_eq_some_iff.2 hd)
  · rintro h ⟨s, d⟩ hc
    have hp := signAt?_eq_some_iff.1 hc
    have := h s.symbol (by simp [hp.1])
    simp [isSign_iff.2 ⟨s, rfl⟩] at this

/-- A literal is read up to where no digit comes next. -/
theorem literal_eq {c d : Cursor} {l : Literal} (hl : l.IsWord) (h : c.Passes l.text d)
    (hd : Stops isDigit d.after) : literal c = (l, d) := by
  obtain ⟨_ | s, digits⟩ := l
  · obtain ⟨x, rest, rfl⟩ := List.exists_cons_of_ne_nil (hl.2 rfl)
    -- the first digit is no sign, so the literal has none
    have hn : signAt? c = none := by
      rw [signAt?_eq_none_iff, show c.after = x :: _ from h.1, stops_cons_iff]
      exact isSign_eq_false_of_isDigit (hl.1 x (by simp))
    have ht := Cursor.takeWhile_eq h hl.1 hd
    rw [Cursor.takeWhile, Prod.mk.injEq] at ht
    simp only [literal, hn, Cursor.takeWhile, ht.1, ht.2]
    rfl
  · obtain ⟨e, he, hed⟩ := Cursor.Passes.split (u := [s.symbol]) (v := digits) h
    have ht := Cursor.takeWhile_eq hed hl.1 hd
    rw [Cursor.takeWhile, Prod.mk.injEq] at ht
    simp only [literal, signAt?_eq_some_iff.2 he, Cursor.takeWhile, ht.1, ht.2]

/-- Where a digit or a sign comes next there is a literal to read. -/
theorem Cursor.exists_literal {c : Cursor} {x : Char} {rest : List Char} (h : c.after = x :: rest)
    (hx : isDigit x = true ∨ isSign x = true) :
    ∃ (l : Literal) (d : Cursor), l.IsWord ∧ c.Passes l.text d ∧ Stops isDigit d.after := by
  rcases hx with hx | hx
  · obtain ⟨u, d, hp, hu, hd⟩ := exists_run isDigit c
    refine ⟨⟨none, u⟩, d, ⟨hu, fun _ hn => ?_⟩, hp, hd⟩
    have := hp.1
    rw [show u = [] from hn, List.nil_append, h] at this
    rw [← this, stops_cons_iff, hx] at hd
    cases hd
  · obtain ⟨s, rfl⟩ := isSign_iff.1 hx
    obtain ⟨d, hd, -⟩ := exists_passes (u := [s.symbol]) h
    obtain ⟨u, e, hp, hu, he⟩ := exists_run isDigit d
    exact ⟨⟨some s, u⟩, e, ⟨hu, by simp⟩, hd.trans hp, he⟩

/-! ### Names -/

theorem IsName.exists_head {letters : List Char} (h : IsName letters) :
    ∃ x rest, letters = x :: rest ∧ isLetter x = true := by
  obtain ⟨x, rest, rfl⟩ := List.exists_cons_of_ne_nil h.1
  exact ⟨x, rest, rfl, h.2 x (by simp)⟩

theorem IsName.stops_isBlank {letters : List Char} (h : IsName letters) (rest : List Char) :
    Stops isBlank (letters ++ rest) := by
  obtain ⟨x, text, rfl, hx⟩ := h.exists_head
  exact stops_cons_iff.2 (isBlank_eq_false_of_isLetter hx)

/-- Where a letter comes next there is a name to read. -/
theorem Cursor.exists_name {c : Cursor} {x : Char} {rest : List Char} (h : c.after = x :: rest)
    (hx : isLetter x = true) :
    ∃ letters d, IsName letters ∧ c.Passes letters d ∧ Stops isLetter d.after := by
  obtain ⟨u, d, hp, hu, hd⟩ := exists_run isLetter c
  refine ⟨u, d, ⟨fun hn => ?_, hu⟩, hp, hd⟩
  rw [hp.1, hn, List.nil_append] at h
  rw [h, stops_cons_iff, hx] at hd
  cases hd

end Calculator
