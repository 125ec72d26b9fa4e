import Calculator.Cursor

/-!
# Calculator — Proofs — Reading — Passage

A reader moves over the text of a line.  `c.Passes u d` says that `d` is the place after the text
`u` from `c`; passages compose (`Passes.trans`), come apart (`Passes.split`) and keep the line
(`Passes.line`).  `Stops p text` says that a run of characters of `p` is over where `text` comes
next; a run that is followed so is exactly what `Cursor.takeWhile` takes (`takeWhile_eq`).

`Alike k c c'` says that `c` and `c'` are the same place of two lines that agree up to column `k`,
the character at that column included.  A passage along one of the lines that does not go past
column `k` is a passage along the other (`Alike.passes`).
-/

namespace Calculator

/-- `text` does not begin with a character of `p`. -/
def Stops (p : Char → Bool) (text : List Char) : Prop := ∀ x ∈ text.head?, p x = false

@[simp]
theorem stops_nil (p : Char → Bool) : Stops p [] := by simp [Stops]

@[simp]
theorem stops_cons_iff {p : Char → Bool} {x : Char} {rest : List Char} :
    Stops p (x :: rest) ↔ p x = false := by simp [Stops]

theorem stops_reverse_concat_iff {p : Char → Bool} {u : List Char} {x : Char} :
    Stops p (u ++ [x]).reverse ↔ p x = false := by
  rw [List.reverse_concat, stops_cons_iff]

theorem stops_dropWhile (p : Char → Bool) (text : List Char) : Stops p (text.dropWhile p) := by
  intro x hx
  have h := List.head?_dropWhile_not p text
  rw [Option.mem_def.1 hx] at h
  simpa using h

/-- A text begins with a run of characters of `p`, which may be empty. -/
theorem exists_run_append (p : Char → Bool) (text : List Char) :
    ∃ u rest, text = u ++ rest ∧ (∀ x ∈ u, p x = true) ∧ Stops p rest :=
  ⟨_, _, List.takeWhile_append_dropWhile.symm, List.all_eq_true.1 List.all_takeWhile,
    stops_dropWhile p text⟩

theorem Stops.takeWhile_eq_nil {p : Char → Bool} {text : List Char} (h : Stops p text) :
    text.takeWhile p = [] := by
  cases text with
  | nil => rfl
  | cons x rest => simp [stops_cons_iff.1 h]

/-- What a run leaves behind is what follows it. -/
theorem Stops.dropWhile_eq {p : Char → Bool} {text : List Char} (h : Stops p text) :
    text.dropWhile p = text := by
  cases text with
  | nil => rfl
  | cons x rest => simp [stops_cons_iff.1 h]

theorem Stops.append {p : Char → Bool} {u v : List Char} (hu : Stops p u) (hv : Stops p v) :
    Stops p (u ++ v) := by
  cases u with
  | nil => exact hv
  | cons x u => exact hu

/-- What begins a text within a run of characters is in the run. -/
theorem Stops.prefix_of_prefix_append {p : Char → Bool} {u v rest : List Char}
    (h : Stops p rest) (hu : ∀ x ∈ u, p x = true) (hp : u <+: v ++ rest) : u <+: v := by
  rcases List.prefix_or_prefix_of_prefix hp (List.prefix_append v rest) with hv | ⟨w, rfl⟩
  · exact hv
  · cases w with
    | nil => exact ⟨[], by simp⟩
    | cons x w =>
        obtain ⟨w', hw⟩ := (List.prefix_append_right_inj v).1 hp
        rw [← hw, List.cons_append, stops_cons_iff] at h
        rw [hu x (by simp)] at h
        cases h

namespace Cursor

/-- `d` is the place after the text `u`, from `c`. -/
def Passes (c : Cursor) (u : List Char) (d : Cursor) : Prop :=
  c.after = u ++ d.after ∧ d.before = u.reverse ++ c.before

/-! ### Passages -/

theorem Passes.refl (c : Cursor) : c.Passes [] c := ⟨rfl, rfl⟩

theorem Passes.trans {c d e : Cursor} {u v : List Char} (h : c.Passes u d) (h' : d.Passes v e) :
    c.Passes (u ++ v) e :=
  ⟨by rw [h.1, h'.1, List.append_assoc], by rw [h'.2, h.2, List.reverse_append, List.append_assoc]⟩

/-- From where a text comes next there is a passage over it. -/
theorem exists_passes {c : Cursor} {u rest : List Char} (h : c.after = u ++ rest) :
    ∃ d, c.Passes u d ∧ d.after = rest :=
  ⟨⟨u.reverse ++ c.before, rest⟩, ⟨h, rfl⟩, rfl⟩

theorem Passes.split {c e : Cursor} {u v : List Char} (h : c.Passes (u ++ v) e) :
    ∃ d, c.Passes u d ∧ d.Passes v e :=
  ⟨⟨u.reverse ++ c.before, v ++ e.after⟩, ⟨by rw [h.1, List.append_assoc], rfl⟩,
    ⟨rfl, by rw [h.2, List.reverse_append, List.append_assoc]⟩⟩

theorem Passes.unique {c d e : Cursor} {u : List Char} (h : c.Passes u d) (h' : c.Passes u e) :
    d = e := by
  obtain ⟨b, a⟩ := d
  obtain ⟨b', a'⟩ := e
  obtain rfl : a = a' := List.append_cancel_left (h.1.symm.trans h'.1)
  obtain rfl : b = b' := h.2.trans h'.2.symm
  rfl

theorem Passes.line {c d : Cursor} {u : List Char} (h : c.Passes u d) : d.line = c.line := by
  simp [Cursor.line, consumed, h.1, h.2]

theorem Passes.column {c d : Cursor} {u : List Char} (h : c.Passes u d) :
    d.column = c.column + u.length := by
  simp [Cursor.column, h.2, Nat.add_comm]

/-- No place of a line is behind its end. -/
theorem Passes.column_le_length {line u : List Char} {d : Cursor}
    (h : (Cursor.start line).Passes u d) : d.column ≤ line.length := by
  have hline : line = u ++ d.after := h.1
  have hcolumn : d.column = u.length := h.column.trans (Nat.zero_add _)
  rw [hline, hcolumn, List.length_append]
  exact Nat.le_add_right _ _

theorem Passes.length {c d : Cursor} {u : List Char} (h : c.Passes u d) :
    c.after.length = u.length + d.after.length := by
  rw [h.1, List.length_append]

/-- A step back over the bytes of a text that was passed over undoes the passage. -/
theorem Passes.back_eq {c d : Cursor} {u : List Char} (h : c.Passes u d) :
    d.back (Text.byteSize u) = c := by
  rw [back, h.2, ← Text.byteSize_reverse, Text.dropBytes_append, Text.takeBytes_append,
    List.reverse_reverse, ← h.1]

theorem passes_singleton_iff {c d : Cursor} {x : Char} :
    c.Passes [x] d ↔ c.next? = some (x, d) :=
  next?_eq_some_iff.symm

theorem passes_text_iff {c d : Cursor} {u : List Char} :
    c.Passes u d ↔ c.skipText? u = some d :=
  skipText?_eq_some_iff.symm

theorem skipText?_eq_none_iff {c : Cursor} {u : List Char} :
    c.skipText? u = none ↔ ¬ u <+: c.after := by
  simp [skipText?, List.isPrefixOf_iff_prefix]

theorem skipChar?_eq_none_iff {c : Cursor} {x : Char} :
    c.skipChar? x = none ↔ c.after.head? ≠ some x := by
  obtain ⟨before, after⟩ := c
  cases after with
  | nil => simp [skipChar?, skipIf?]
  | cons y rest => simp [skipChar?, skipIf?]

/-- What comes next at one place can be passed over at another where the same comes next. -/
theorem exists_passes_next {c c' d : Cursor} {x : Char} (h : c'.after.head? = c.after.head?)
    (hp : c.Passes [x] d) : ∃ d', c'.Passes [x] d' := by
  rw [hp.1] at h
  obtain ⟨rest, h⟩ := List.head?_eq_some_iff.1 h
  obtain ⟨d', hd', -⟩ := exists_passes (u := [x]) h
  exact ⟨d', hd'⟩

/-! ### Runs of characters -/

theorem passes_skipWhile (p : Char → Bool) (c : Cursor) :
    c.Passes (c.after.takeWhile p) (c.skipWhile p) :=
  ⟨List.takeWhile_append_dropWhile.symm, rfl⟩

/-- A run that is over where the next text begins is all that is passed over. -/
theorem skipWhile_eq {p : Char → Bool} {c d : Cursor} {u : List Char} (h : c.Passes u d)
    (hu : ∀ x ∈ u, p x = true) (hd : Stops p d.after) : c.skipWhile p = d := by
  refine (passes_skipWhile p c).unique ?_
  rw [h.1, List.takeWhile_append_of_pos hu, hd.takeWhile_eq_nil, List.append_nil]
  exact h

theorem takeWhile_eq {p : Char → Bool} {c d : Cursor} {u : List Char} (h : c.Passes u d)
    (hu : ∀ x ∈ u, p x = true) (hd : Stops p d.after) : c.takeWhile p = (u, d) := by
  rw [Cursor.takeWhile, skipWhile_eq h hu hd, h.1, List.takeWhile_append_of_pos hu,
    hd.takeWhile_eq_nil, List.append_nil]

theorem exists_run (p : Char → Bool) (c : Cursor) :
    ∃ u d, c.Passes u d ∧ (∀ x ∈ u, p x = true) ∧ Stops p d.after :=
  ⟨_, _, passes_skipWhile p c, List.all_eq_true.1 (List.all_takeWhile), stops_dropWhile p _⟩

/-! ### Two lines that agree -/

/-- `c` and `c'` are the same place of two lines that agree on every character up to column `k`,
that column included. -/
def Alike (k : Nat) (c c' : Cursor) : Prop :=
  c.before = c'.before ∧ c.line.take (k + 1) = c'.line.take (k + 1)

theorem Alike.column {k : Nat} {c c' : Cursor} (h : Alike k c c') : c'.column = c.column := by
  rw [Cursor.column, Cursor.column, h.1]

theorem drop_line (c : Cursor) : c.line.drop c.column = c.after := by
  rw [line, column, ← List.length_reverse, ← consumed, List.drop_left]

theorem head?_after (c : Cursor) : c.after.head? = c.line[c.column]? := by
  rw [List.head?_eq_getElem?, line, column, consumed, List.getElem?_append_right (by simp)]
  simp

/-- Two places that are alike see the same next character. -/
theorem Alike.head? {k : Nat} {c c' : Cursor} (h : Alike k c c') (hk : c.column ≤ k) :
    c'.after.head? = c.after.head? := by
  have hk' : c.column < k + 1 := Nat.lt_succ_of_le hk
  calc c'.after.head? = c'.line[c.column]? := by rw [head?_after, h.column]
    _ = (c'.line.take (k + 1))[c.column]? := (List.getElem?_take_of_lt hk').symm
    _ = (c.line.take (k + 1))[c.column]? := by rw [h.2]
    _ = c.line[c.column]? := List.getElem?_take_of_lt hk'
    _ = c.after.head? := (head?_after c).symm

theorem Alike.stops {k : Nat} {c c' : Cursor} {p : Char → Bool} (h : Alike k c c')
    (hk : c.column ≤ k) (hs : Stops p c.after) : Stops p c'.after := by
  unfold Stops
  rwa [h.head? hk]

theorem Alike.passes {k : Nat} {c c' d : Cursor} {u : List Char} (h : Alike k c c')
    (hp : c.Passes u d) (hk : d.column ≤ k) : ∃ d', c'.Passes u d' ∧ Alike k d d' := by
  -- all up to `d` lies in the part on which the lines agree
  have hu : c.consumed ++ u <+: c'.line := by
    refine List.IsPrefix.trans ?_ (List.take_prefix (k + 1) c'.line)
    rw [← h.2, List.prefix_take_iff]
    refine ⟨⟨d.after, by rw [Cursor.line, hp.1, List.append_assoc]⟩, ?_⟩
    rw [hp.column, Cursor.column] at hk
    simp only [consumed, List.length_append, List.length_reverse]
    omega
  obtain ⟨rest, hr⟩ := hu
  rw [Cursor.line, consumed, consumed, h.1, List.append_assoc] at hr
  obtain ⟨d', hd', -⟩ := exists_passes (List.append_cancel_left hr).symm
  exact ⟨d', hd', by rw [hp.2, hd'.2, h.1], by rw [hp.line, hd'.line, h.2]⟩

/-- The next character can be passed over on both lines, even the last on which they agree. -/
theorem Alike.passes_next {k : Nat} {c c' d : Cursor} {x : Char} (h : Alike k c c')
    (hk : c.column ≤ k) (hp : c.Passes [x] d) : ∃ d', c'.Passes [x] d' :=
  exists_passes_next (h.head? hk) hp

end Cursor

end Calculator
