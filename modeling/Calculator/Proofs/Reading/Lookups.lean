import Calculator.Proofs.Reading.Entries
import Calculator.Proofs.Reading.Names

/-!
# Calculator — Proofs — Reading — Lookups

The names that a line may look up.  An atom is read only at the beginning of the expression, behind
an opening parenthesis or behind an operator (`entries_fresh`), so no name is looked up that is
glued to a letter or a digit before it.  It is looked up with all letters that follow, and what an
assignment assigns to is not looked up at all: the names that are left are `Line.LooksUp`.

**Lookups** (`ofLine_eq_of_lookups`).  Two stores that agree on these names make the same of the
line, be it a statement or a report.
-/

namespace Calculator

open Line

/-! ### Names that are not glued -/

/-- The name stands in the text, and what is before it is neither a letter nor a digit. -/
def HasFreeName (text name : List Char) : Prop :=
  IsName name ∧ ∃ before behind, text = before ++ name ++ behind ∧
    (∀ x ∈ before.getLast?, isLetter x = false ∧ isDigit x = false) ∧ Stops isLetter behind

/-- The line has the name where it has its expression, not glued to what is before. -/
def Line.LooksUp (line name : List Char) : Prop := HasFreeName (readPart line) name

theorem Line.LooksUp.reads {line name : List Char} (h : LooksUp line name) : Reads line name :=
  h.imp_right fun ⟨before, behind, htext, hlast, hstop⟩ =>
    ⟨before, behind, htext, fun x hx => (hlast x hx).1, hstop⟩

/-- The characters that a run of letters or digits is made of. -/
def isAlphanumeric (x : Char) : Bool := isLetter x || isDigit x

/-- A name that is not glued is all letters at the beginning of a run of letters and digits. -/
theorem HasFreeName.exists_run {text name : List Char} (h : HasFreeName text name) :
    ∃ u ∈ runs isAlphanumeric text, u.takeWhile isLetter = name := by
  obtain ⟨⟨hne, hletters⟩, before, behind, rfl, hlast, hstop⟩ := h
  obtain ⟨word, rest, rfl, hword, hrest⟩ := exists_run_append isAlphanumeric behind
  have hrun : ∀ x ∈ name ++ word, isAlphanumeric x = true := fun x hx =>
    (List.mem_append.1 hx).elim
      (fun hx => by rw [isAlphanumeric, hletters x hx, Bool.true_or]) (hword x)
  have hbefore : ∀ x ∈ before.getLast?, isAlphanumeric x = false := fun x hx => by
    rw [isAlphanumeric, (hlast x hx).1, (hlast x hx).2, Bool.or_false]
  have hstop : Stops isLetter word := by
    cases word with
    | nil => exact stops_nil _
    | cons x word => exact stops_cons_iff.2 (stops_cons_iff.1 hstop)
  have htext : before ++ name ++ (word ++ rest) = before ++ (name ++ word) ++ rest := by
    simp only [List.append_assoc]
  refine ⟨name ++ word, ?_, ?_⟩
  · exact mem_runs_iff.2 ⟨⟨by simp [hne], hrun⟩, before, rest, htext, hbefore, hrest⟩
  · rw [List.takeWhile_append_of_pos hletters, hstop.takeWhile_eq_nil, List.append_nil]

/-! ### Where atoms are read -/

/-- The place is behind `base`, and what is passed right before it is neither a letter nor a
digit. -/
def Cursor.Fresh (base c : Cursor) : Prop :=
  ∃ u, base.Passes u c ∧ ∀ x ∈ u.getLast?, isLetter x = false ∧ isDigit x = false

variable {store store' : Store} {base c d e : Cursor} {space u letters : List Char} {x : Char}

namespace Cursor

theorem Fresh.refl (c : Cursor) : c.Fresh c :=
  ⟨[], .refl c, fun _ hx => nomatch hx⟩

theorem Fresh.concat (h : base.Fresh c) (hp : c.Passes (u ++ [x]) d)
    (hx : isLetter x = false ∧ isDigit x = false) : base.Fresh d := by
  obtain ⟨w, hw, -⟩ := h
  refine ⟨_, hw.trans hp, fun y hy => ?_⟩
  rw [← List.append_assoc, List.getLast?_concat, Option.mem_some_iff] at hy
  exact hy ▸ hx

theorem Fresh.symbol (h : base.Fresh c) (hp : c.Passes (u ++ [x]) d) (hx : x ∈ punctuation) :
    base.Fresh d :=
  h.concat hp
    ⟨isLetter_eq_false_of_mem_punctuation _ hx, isDigit_eq_false_of_mem_punctuation _ hx⟩

theorem Fresh.blanks (h : base.Fresh c) (hp : c.Passes space d) (hs : Blanks space) :
    base.Fresh d := by
  cases space using List.reverseRecOn with
  | nil => exact hp.unique (.refl c) ▸ h
  | append_singleton space x =>
      have hx := hs x List.mem_concat_self
      exact h.concat hp ⟨isLetter_eq_false_of_isBlank hx, isDigit_eq_false_of_isBlank hx⟩

/-- What is read as a name from such a place is not glued. -/
theorem Fresh.hasFreeName (h : base.Fresh c) (hn : IsName letters) (hp : c.Passes letters d)
    (hd : Stops isLetter d.after) : HasFreeName base.after letters := by
  obtain ⟨u, hu, hlast⟩ := h
  exact ⟨hn, u, d.after, (hu.trans hp).1, hlast, hd⟩

end Cursor

theorem entries_fresh (store : Store) (base : Cursor) : Entries store fun _ c => base.Fresh c where
  inside hc _ hp := hc.symbol hp (by decide)
  next precedence _ _ _ _ _ _ op hc hr _ hp := by
    obtain ⟨u, hu⟩ := (forward_readerAt store _ precedence).ok hr
    exact hc.symbol (List.append_assoc u _ _ ▸ hu.trans hp) op.symbol_mem_punctuation

/-! ### Two stores -/

theorem atomWith_eq_of_lookups (inside : Option (Reader Value)) (hc : base.Fresh c)
    (h : ∀ letters, HasFreeName base.after letters →
      store'[String.ofList letters]? = store[String.ofList letters]?) :
    atomWith store' inside c = atomWith store inside c :=
  atomWith_congr
    (fun hs hn hp hd hstop => h _ ((hc.blanks hp hs).hasFreeName hn hd hstop))
    fun _ _ => rfl

theorem expression_eq_of_lookups (hc : base.Fresh c)
    (h : ∀ letters, HasFreeName base.after letters →
      store'[String.ofList letters]? = store[String.ofList letters]?) :
    expression store' c = expression store c :=
  (entries_fresh store base).expressionOf_eq
    (fun _ hc => atomWith_eq_of_lookups _ hc h) (fun _ _ hc => atomWith_eq_of_lookups _ hc h) hc

/-- **Lookups.**  Stores that agree on the names a line may look up make the same statement of it,
or the same report.  These names stand in the line as whole runs of letters, behind the equals sign
if it is an assignment, and none is glued to digits before it. -/
theorem ofLine_eq_of_lookups {line : String} (h : ∀ letters, LooksUp line.toList letters →
      store'[String.ofList letters]? = store[String.ofList letters]?) :
    Statement.ofLine store' line = Statement.ofLine store line := by
  refine ofLine_eq_of_expression_eq fun target d ht => ?_
  obtain ⟨base, space, hbase, hs, hp⟩ := ht.exists_readPart
  exact expression_eq_of_lookups ((Cursor.Fresh.refl base).blanks hp hs) (hbase ▸ h)

/-- The value of `x` does not matter where `x` is assigned to or is a letter of `xy`, nor that of
`y` behind a digit. -/
theorem ofLine_eq_of_lookups_glued :
    (∀ letters, LooksUp "let x = xy + 2y".toList letters →
      ((∅ : Store).insert "x" 5 |>.insert "xy" 1)[String.ofList letters]? =
        ((∅ : Store).insert "y" 7 |>.insert "xy" 1)[String.ofList letters]?) ∧
    Statement.ofLine ((∅ : Store).insert "x" 5 |>.insert "xy" 1) "let x = xy + 2y" =
      Statement.ofLine ((∅ : Store).insert "y" 7 |>.insert "xy" 1) "let x = xy + 2y" := by
  have h : ∀ letters, LooksUp "let x = xy + 2y".toList letters →
      ((∅ : Store).insert "x" 5 |>.insert "xy" 1)[String.ofList letters]? =
        ((∅ : Store).insert "y" 7 |>.insert "xy" 1)[String.ofList letters]? := by
    intro letters hl
    obtain ⟨u, hu, rfl⟩ := hl.exists_run
    have hruns : runs isAlphanumeric (readPart "let x = xy + 2y".toList) =
        ["xy".toList, "2y".toList] := by decide
    rw [hruns, List.mem_cons, List.mem_singleton] at hu
    rcases hu with rfl | rfl
    · have hletters : "xy".toList.takeWhile isLetter = "xy".toList := by decide
      rw [hletters, String.ofList_toList, Std.ExtTreeMap.getElem?_insert_self,
        Std.ExtTreeMap.getElem?_insert_self]
    · exact absurd (by decide) hl.1.1
  exact ⟨h, ofLine_eq_of_lookups h⟩

end Calculator
