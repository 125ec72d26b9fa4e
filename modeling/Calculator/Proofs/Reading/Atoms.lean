import Calculator.Proofs.Reading.Words

/-!
# Calculator — Proofs — Reading — Atoms

What a reader of an atom can do, said once and in terms of the text it passes over.  `AtomRun` has
one rule for each way the reading of an atom ends, and describes the reader exactly
(`atomRun_iff`), whatever reads inside the parentheses.
-/

namespace Calculator

/-- How a reading ends. -/
abbrev Outcome (α : Type) := Except Fault (α × Cursor)

/-- The place where a reading ends. -/
def Outcome.place {α : Type} : Outcome α → Cursor
  | .ok (_, d) => d
  | .error f => f.place

/-- The reader never goes back in the line. -/
def Reader.Forward {α : Type} (r : Reader α) : Prop :=
  ∀ c : Cursor, ∃ u, c.Passes u (Outcome.place (r c))

theorem Reader.Forward.ok {α : Type} {r : Reader α} (h : r.Forward) {c d : Cursor} {a : α}
    (hr : r c = .ok (a, d)) : ∃ u, c.Passes u d := by
  have := h c
  rwa [hr] at this

theorem Reader.Forward.error {α : Type} {r : Reader α} (h : r.Forward) {c : Cursor} {f : Fault}
    (hr : r c = .error f) : ∃ u, c.Passes u f.place := by
  have := h c
  rwa [hr] at this

/-! ### The rules -/

/-- An atom can begin with the character. -/
def OpensAtom (x : Char) : Prop :=
  isDigit x = true ∨ isSign x = true ∨ isLetter x = true ∨ x = '('

/-- The ways an atom is read from `c`. -/
inductive AtomRun (store : Store) (inside : Option (Reader Value)) (c : Cursor) :
    Outcome Value → Prop where
  | ended {space : List Char} {d : Cursor} (hs : Blanks space) (hp : c.Passes space d)
      (hd : d.after = []) : AtomRun store inside c (.error ⟨.unexpectedEndOfInput, d⟩)
  | literal {space : List Char} {l : Literal} {d : Cursor} {v : Value} (hs : Blanks space)
      (hl : l.IsWord) (hp : c.Passes (space ++ l.text) d) (hd : Stops isDigit d.after)
      (hv : l.value? = some v) : AtomRun store inside c (.ok (v, d))
  | malformed {space : List Char} {l : Literal} {d : Cursor} (hs : Blanks space)
      (hl : l.IsWord) (hp : c.Passes (space ++ l.text) d) (hd : Stops isDigit d.after)
      (hv : l.value? = none) : AtomRun store inside c (.error ⟨.malformedInteger l, d⟩)
  | name {space letters : List Char} {d : Cursor} {v : Value} (hs : Blanks space)
      (hn : IsName letters) (hp : c.Passes (space ++ letters) d) (hd : Stops isLetter d.after)
      (hv : store[String.ofList letters]? = some v) : AtomRun store inside c (.ok (v, d))
  | undefined {space letters : List Char} {d e : Cursor} (hs : Blanks space)
      (hn : IsName letters) (hp : c.Passes space d) (he : d.Passes letters e)
      (hd : Stops isLetter e.after) (hv : store[String.ofList letters]? = none) :
      AtomRun store inside c (.error ⟨.undefinedVariable (String.ofList letters), d⟩)
  | tooDeep {space : List Char} {d e : Cursor} (hs : Blanks space) (hp : c.Passes space d)
      (he : d.Passes ['('] e) (hi : inside = none) :
      AtomRun store inside c (.error ⟨.nestingTooDeep, d⟩)
  | insideFails {space : List Char} {r : Reader Value} {d : Cursor} {f : Fault}
      (hs : Blanks space) (hp : c.Passes (space ++ ['(']) d) (hi : inside = some r)
      (hr : r d = .error f) : AtomRun store inside c (.error f)
  | unclosed {space : List Char} {r : Reader Value} {d e : Cursor} {v : Value}
      (hs : Blanks space) (hp : c.Passes (space ++ ['(']) d) (hi : inside = some r)
      (hr : r d = .ok (v, e)) (he : e.after.head? ≠ some ')') :
      AtomRun store inside c (.error ⟨.expectedCloseParen, e⟩)
  | group {space : List Char} {r : Reader Value} {d e e' : Cursor} {v : Value}
      (hs : Blanks space) (hp : c.Passes (space ++ ['(']) d) (hi : inside = some r)
      (hr : r d = .ok (v, e)) (he : e.Passes [')'] e') : AtomRun store inside c (.ok (v, e'))
  | unexpected {space : List Char} {x : Char} {d e : Cursor} (hs : Blanks space)
      (hp : c.Passes space d) (he : d.Passes [x] e) (hb : isBlank x = false)
      (hx : ¬ OpensAtom x) : AtomRun store inside c (.error ⟨.unexpectedCharacter x, d⟩)

/-! ### The reader follows the rules -/

variable {store : Store} {inside : Option (Reader Value)} {c d e : Cursor}

/-- What is read behind the blanks depends on the character there. -/
theorem atomWith_eq {space : List Char} {x : Char} (hs : Blanks space) (hp : c.Passes space d)
    (hx : d.Passes [x] e) (hb : isBlank x = false) :
    atomWith store inside c =
      if isDigit x || isSign x then integer d
      else if isLetter x then named store d
      else if x = '(' then
        match inside with
        | some inside => parenthesised inside e
        | none => .error ⟨.nestingTooDeep, d⟩
      else .error ⟨.unexpectedCharacter x, d⟩ := by
  have hd : Stops isBlank d.after := by rw [hx.1]; exact stops_cons_iff.2 hb
  cases inside with
  | none | some =>
      simp only [atomWith, Cursor.skipBlanks_eq hp hs hd, Cursor.passes_singleton_iff.1 hx]

theorem atomWith_eq_integer {space : List Char} {l : Literal} (hs : Blanks space)
    (hl : l.IsWord) (hp : c.Passes (space ++ l.text) e) (he : Stops isDigit e.after) :
    atomWith store inside c =
      match l.value? with
      | some v => .ok (v, e)
      | none => .error ⟨.malformedInteger l, e⟩ := by
  obtain ⟨d, hp, hd⟩ := hp.split
  obtain ⟨x, rest, hx, hxs⟩ := hl.exists_head
  obtain ⟨past, hpast, -⟩ := Cursor.Passes.split (u := [x]) (v := rest) (hx ▸ hd)
  have hb := hl.stops_isBlank []
  rw [hx, List.cons_append, stops_cons_iff] at hb
  rw [atomWith_eq hs hp hpast hb, if_pos (by simpa using hxs)]
  cases hv : l.value? with
  | none | some => simp only [integer, literal_eq hl hd he, hv]

theorem atomWith_eq_named {space letters : List Char} (hs : Blanks space) (hn : IsName letters)
    (hp : c.Passes space d) (hd : d.Passes letters e) (he : Stops isLetter e.after) :
    atomWith store inside c =
      match store[String.ofList letters]? with
      | some v => .ok (v, e)
      | none => .error ⟨.undefinedVariable (String.ofList letters), d⟩ := by
  obtain ⟨x, rest, hx, hxl⟩ := hn.exists_head
  obtain ⟨past, hpast, -⟩ := Cursor.Passes.split (u := [x]) (v := rest) (hx ▸ hd)
  have hnot : ¬ (isDigit x || isSign x) = true := by
    simp [isDigit_eq_false_of_isLetter hxl, isSign_eq_false_of_isLetter hxl]
  rw [atomWith_eq hs hp hpast (isBlank_eq_false_of_isLetter hxl), if_neg hnot, if_pos hxl]
  cases hv : store[String.ofList letters]? with
  | none | some => simp only [named, Cursor.takeWhile_eq hd hn.2 he, hv, hd.back_eq]

theorem atomWith_eq_parenthesised {space : List Char} {r : Reader Value} (hs : Blanks space)
    (hp : c.Passes (space ++ ['(']) e) : atomWith store (some r) c = parenthesised r e := by
  obtain ⟨d, hp, hd⟩ := hp.split
  rw [atomWith_eq hs hp hd (by decide)]
  rfl

/-- A reading of an atom by the rules is what the reader does. -/
theorem AtomRun.eq {out : Outcome Value} (h : AtomRun store inside c out) :
    atomWith store inside c = out := by
  cases h with
  | @ended space d hs hp hd =>
      have hb : Stops isBlank d.after := by simp [hd]
      simp only [atomWith, Cursor.skipBlanks_eq hp hs hb, Cursor.next?, hd]
  | literal hs hl hp hd hv => rw [atomWith_eq_integer hs hl hp hd, hv]
  | malformed hs hl hp hd hv => rw [atomWith_eq_integer hs hl hp hd, hv]
  | name hs hn hp hd hv =>
      obtain ⟨d, hp, hn'⟩ := hp.split
      rw [atomWith_eq_named hs hn hp hn' hd, hv]
  | undefined hs hn hp he hd hv => rw [atomWith_eq_named hs hn hp he hd, hv]
  | tooDeep hs hp he hi =>
      rw [atomWith_eq hs hp he (by decide), hi]
      rfl
  | insideFails hs hp hi hr =>
      rw [hi, atomWith_eq_parenthesised hs hp, parenthesised, hr]
      rfl
  | unclosed hs hp hi hr he =>
      simp [hi, atomWith_eq_parenthesised hs hp, parenthesised, hr, bind, Except.bind,
        Cursor.skipChar?_eq_none_iff.2 he]
  | group hs hp hi hr he =>
      simp [hi, atomWith_eq_parenthesised hs hp, parenthesised, hr, bind, Except.bind,
        Cursor.skipChar?_eq_some_iff.2 he]
  | unexpected hs hp he hb hx =>
      simp only [OpensAtom, not_or] at hx
      rw [atomWith_eq hs hp he hb, if_neg (by simp [hx]), if_neg (by simp [hx]), if_neg hx.2.2.2]

/-- Behind an opening parenthesis an atom is read by the rules, and not back behind the end of what
is read inside. -/
theorem exists_atomRun_of_open {space : List Char} {r : Reader Value} (hs : Blanks space)
    (hp : c.Passes (space ++ ['(']) d) (hi : inside = some r) :
    ∃ out, AtomRun store inside c out ∧ ∃ u, (Outcome.place (r d)).Passes u out.place := by
  cases hr : r d with
  | error f => exact ⟨_, .insideFails hs hp hi hr, [], .refl _⟩
  | ok ve =>
      obtain ⟨v, e⟩ := ve
      by_cases hc : e.after.head? = some ')'
      · obtain ⟨rest, he⟩ := List.head?_eq_some_iff.1 hc
        obtain ⟨e', he', -⟩ := Cursor.exists_passes (u := [')']) he
        exact ⟨_, .group hs hp hi hr he', [')'], he'⟩
      · exact ⟨_, .unclosed hs hp hi hr hc, [], .refl _⟩

/-- Every reading of an atom follows a rule. -/
theorem exists_atomRun (store : Store) (inside : Option (Reader Value)) (c : Cursor) :
    ∃ out, AtomRun store inside c out := by
  obtain ⟨space, d, hp, hs, hb⟩ := c.exists_blanks
  cases hd : d.after with
  | nil => exact ⟨_, .ended hs hp hd⟩
  | cons x rest =>
      rw [hd, stops_cons_iff] at hb
      obtain ⟨e, he, -⟩ := Cursor.exists_passes (u := [x]) hd
      by_cases hn : isDigit x = true ∨ isSign x = true
      · obtain ⟨l, e, hl, hle, he⟩ := Cursor.exists_literal hd hn
        cases hv : l.value? with
        | none => exact ⟨_, .malformed hs hl (hp.trans hle) he hv⟩
        | some v => exact ⟨_, .literal hs hl (hp.trans hle) he hv⟩
      by_cases hl : isLetter x = true
      · obtain ⟨letters, e, hn, hne, he⟩ := Cursor.exists_name hd hl
        cases hv : store[String.ofList letters]? with
        | none => exact ⟨_, .undefined hs hn hp hne he hv⟩
        | some v => exact ⟨_, .name hs hn (hp.trans hne) he hv⟩
      by_cases hx : x = '('
      · subst hx
        cases inside with
        | none => exact ⟨_, .tooDeep hs hp he rfl⟩
        | some r => exact (exists_atomRun_of_open hs (hp.trans he) rfl).imp fun _ h => h.1
      · refine ⟨_, .unexpected hs hp he hb ?_⟩
        rintro (h | h | h | h)
        · exact hn (.inl h)
        · exact hn (.inr h)
        · exact hl h
        · exact hx h

theorem atomRun_iff {out : Outcome Value} :
    AtomRun store inside c out ↔ atomWith store inside c = out := by
  refine ⟨AtomRun.eq, ?_⟩
  rintro rfl
  obtain ⟨out, h⟩ := exists_atomRun store inside c
  rwa [h.eq]

end Calculator
