import Calculator.Proofs.Reading.Lines
import Calculator.Proofs.Reading.Lockstep

/-!
# Calculator — Proofs — Layout — Blanks

Blanks between words mean nothing.  Into the line `front ++ rest` a `gap` of blanks is put, at any
place but one: inside a word, where the last character of `front` joins the first of `rest`
(`Joins`).  `Parted` relates the places of the two lines: those before the gap are the same, those
behind it are as much further on as the gap is long, and the seam itself is both.  Reading keeps
places parted (`lockstep_parted`), for no word goes over the seam, and where blanks are passed over
the gap is passed over with them.

**Blanks between words** (`ofLine_insert_blanks`).  The line with the gap makes the same statement,
or is reported for the same cause; the report moves with the text it is about.
-/

namespace Calculator

open Statement (keyword)

/-- One word can go on from the first character to the second. -/
def Joins (x y : Char) : Prop :=
  (isLetter x = true ∧ isLetter y = true) ∨
    ((isDigit x = true ∨ isSign x = true) ∧ isDigit y = true)

instance (x y : Char) : Decidable (Joins x y) :=
  inferInstanceAs (Decidable ((isLetter x = true ∧ isLetter y = true) ∨
    ((isDigit x = true ∨ isSign x = true) ∧ isDigit y = true)))

/-- Wherever the text is cut in two, the parts join. -/
def Unbroken (text : List Char) : Prop :=
  ∀ u v, text = u ++ v → ∀ x ∈ u.getLast?, ∀ y ∈ v.head?, Joins x y

theorem unbroken_singleton (x : Char) : Unbroken [x] := by
  intro u v h
  rcases List.singleton_eq_append_iff.1 h with ⟨rfl, -⟩ | ⟨-, rfl⟩ <;> simp

theorem IsName.unbroken {letters : List Char} (h : IsName letters) : Unbroken letters := by
  rintro u v rfl x hx y hy
  exact .inl ⟨h.2 x (List.mem_append_left _ (List.mem_of_mem_getLast? hx)),
    h.2 y (List.mem_append_right _ (List.mem_of_mem_head? hy))⟩

theorem Literal.IsWord.unbroken {l : Literal} (h : l.IsWord) : Unbroken l.text := by
  intro u v huv x hx y hy
  have hx' := List.mem_of_mem_getLast? hx
  refine .inr ⟨h.mem_text (huv ▸ List.mem_append_left _ hx'), h.1 y ?_⟩
  -- the first part is not empty, so it has the sign and the second part is made of digits
  have hy' := List.mem_append_right u (List.mem_of_mem_head? hy)
  obtain ⟨_ | s, digits⟩ := l
  · exact (show digits = u ++ v from huv) ▸ hy'
  · cases u with
    | nil => cases hx'
    | cons a u =>
        obtain ⟨-, rfl⟩ := List.cons.inj huv
        exact List.mem_append_right u (List.mem_of_mem_head? hy)

/-! ### Places of the two lines -/

/-- `c` is a place of the line `front ++ rest`, and `c'` is that place of the line with the gap. -/
inductive Parted (front gap rest : List Char) (c c' : Cursor) : Prop where
  | before {u v : List Char} (h : front = u ++ v) (hb : c.before = u.reverse)
      (hb' : c'.before = u.reverse) (ha : c.after = v ++ rest) (ha' : c'.after = v ++ (gap ++ rest))
  | behind {u v : List Char} (h : rest = u ++ v) (hb : c.before = (front ++ u).reverse)
      (hb' : c'.before = (front ++ gap ++ u).reverse) (ha : c.after = v) (ha' : c'.after = v)

variable {store : Store} {front gap rest u v t text : List Char} {c c' d d' e e' : Cursor}
  {space : List Char}

theorem parted_start (front gap rest : List Char) :
    Parted front gap rest (.start (front ++ rest)) (.start (front ++ gap ++ rest)) :=
  .before (u := []) rfl rfl rfl rfl (List.append_assoc _ _ _)

/-- A passage from the front ends before the seam, or goes on behind it. -/
theorem append_eq_append_cases (h : v ++ rest = t ++ text) :
    (∃ w, w ≠ [] ∧ v = t ++ w ∧ text = w ++ rest) ∨ ∃ w, t = v ++ w ∧ rest = w ++ text := by
  rcases List.append_eq_append_iff.1 h with ⟨w, ht, hr⟩ | ⟨w, hv, htext⟩
  · exact .inr ⟨w, ht, hr⟩
  · cases w with
    | nil => exact .inr ⟨[], by simpa using hv.symm, by simpa using htext.symm⟩
    | cons x w => exact .inl ⟨x :: w, List.cons_ne_nil _ _, hv, htext⟩

/-- Where no blank comes next there is no gap to come. -/
theorem eq_nil_of_stops (hgap : Blanks gap) (h : Stops isBlank (gap ++ rest)) : gap = [] := by
  cases gap with
  | nil => rfl
  | cons x gap =>
      rw [List.cons_append, stops_cons_iff, hgap x List.mem_cons_self] at h
      cases h

namespace Parted

theorem head? (hgap : Blanks gap) (h : Parted front gap rest d d') (hb : Stops isBlank d'.after) :
    d'.after.head? = d.after.head? := by
  cases h with
  | @before u v _ _ _ ha ha' =>
      rw [ha, ha']
      cases v with
      | nil =>
          rw [ha'] at hb
          rw [eq_nil_of_stops hgap hb]
          rfl
      | cons x v => rfl
  | behind _ _ _ ha ha' => rw [ha, ha']

/-- No run of letters or digits goes on in the gap. -/
theorem stops {p : Char → Bool} (hgap : Blanks gap) (hp : ∀ x, isBlank x = true → p x = false)
    (h : Parted front gap rest e e') (hs : Stops p e.after) : Stops p e'.after := by
  cases h with
  | @before u v _ _ _ ha ha' =>
      rw [ha] at hs
      rw [ha']
      cases v with
      | nil => exact hgap.stops hp hs
      | cons x v => exact stops_cons_iff.2 (stops_cons_iff.1 hs)
  | behind _ _ _ ha ha' => rwa [ha', ← ha]

/-- A text before the seam is passed over on both lines. -/
theorem before_of_passes {w : List Char} (h : front = u ++ (t ++ w)) (hb : d.before = u.reverse)
    (hb' : d'.before = u.reverse) (hp : d.Passes t e) (hp' : d'.Passes t e')
    (he : e.after = w ++ rest) (he' : e'.after = w ++ (gap ++ rest)) :
    Parted front gap rest e e' := by
  refine .before (h.trans (List.append_assoc _ _ _).symm) ?_ ?_ he he'
  · rw [hp.2, hb, List.reverse_append]
  · rw [hp'.2, hb', List.reverse_append]

/-- A text behind the seam is passed over on both lines. -/
theorem behind_of_passes {w : List Char} (h : rest = u ++ (t ++ w))
    (hb : d.before = (front ++ u).reverse) (hb' : d'.before = (front ++ gap ++ u).reverse)
    (hp : d.Passes t e) (hp' : d'.Passes t e') (he : e.after = w) (he' : e'.after = w) :
    Parted front gap rest e e' := by
  refine .behind (h.trans (List.append_assoc _ _ _).symm) ?_ ?_ he he'
  · rw [hp.2, hb, ← List.reverse_append, List.append_assoc]
  · rw [hp'.2, hb', ← List.reverse_append, List.append_assoc]

theorem skipBlanks (hgap : Blanks gap) (h : Parted front gap rest c c') :
    Parted front gap rest c.skipBlanks c'.skipBlanks := by
  obtain ⟨space, d, hp, hs, hb⟩ := c.exists_blanks
  rw [Cursor.skipBlanks_eq hp hs hb]
  cases h with
  | @before u v h hc hc' ha ha' =>
      rcases append_eq_append_cases (ha.symm.trans hp.1) with ⟨w, hw, rfl, hd⟩ | ⟨w, rfl, rfl⟩
      · obtain ⟨d', hp', hd'⟩ := Cursor.exists_passes (ha'.trans (List.append_assoc _ _ _))
        have hb' : Stops isBlank d'.after := by
          obtain ⟨x, w, rfl⟩ := List.exists_cons_of_ne_nil hw
          rw [hd] at hb
          exact hd' ▸ stops_cons_iff.2 (stops_cons_iff.1 hb)
        rw [Cursor.skipBlanks_eq hp' hs hb']
        exact before_of_passes h hc hc' hp hp' hd hd'
      · -- the gap is passed over with the blanks around it
        obtain ⟨hv, hw⟩ := blanks_append_iff.1 hs
        have ha' : c'.after = v ++ gap ++ w ++ d.after := by simp [ha']
        obtain ⟨d', hp', hd'⟩ := Cursor.exists_passes ha'
        have hs' := blanks_append_iff.2 ⟨blanks_append_iff.2 ⟨hv, hgap⟩, hw⟩
        rw [Cursor.skipBlanks_eq hp' hs' (hd' ▸ hb)]
        refine .behind (u := w) rfl ?_ ?_ rfl hd'
        · simp [hp.2, hc, h]
        · simp [hp'.2, hc', h]
  | behind h hc hc' ha ha' =>
      have hv := ha.symm.trans hp.1
      obtain ⟨d', hp', hd'⟩ := Cursor.exists_passes (ha'.trans hv)
      rw [Cursor.skipBlanks_eq hp' hs (hd' ▸ hb)]
      exact behind_of_passes (hv ▸ h) hc hc' hp hp' rfl hd'

/-- A word does not go over the seam. -/
theorem passes (hgap : Blanks gap)
    (hseam : ∀ x ∈ front.getLast?, ∀ y ∈ rest.head?, ¬ Joins x y)
    (h : Parted front gap rest d d') (hb : Stops isBlank d'.after) (ht : Unbroken t)
    (hp : d.Passes t e) : ∃ e', d'.Passes t e' ∧ Parted front gap rest e e' := by
  cases h with
  | @before u v h hc hc' ha ha' =>
      have inside : ∀ w, v = t ++ w → e.after = w ++ rest →
          ∃ e', d'.Passes t e' ∧ Parted front gap rest e e' := by
        rintro w rfl hd
        obtain ⟨e', hp', he'⟩ := Cursor.exists_passes (ha'.trans (List.append_assoc _ _ _))
        exact ⟨e', hp', before_of_passes h hc hc' hp hp' hd he'⟩
      rcases append_eq_append_cases (ha.symm.trans hp.1) with ⟨w, -, hv, hd⟩ | ⟨w, rfl, rfl⟩
      · exact inside w hv hd
      by_cases hv : v = []
      · subst hv
        -- the word begins at the seam, and no gap comes before it
        obtain rfl := eq_nil_of_stops hgap (ha' ▸ hb : Stops isBlank (gap ++ _))
        obtain ⟨e', hp', he'⟩ := Cursor.exists_passes (u := w) ha'
        exact ⟨e', hp', behind_of_passes (u := []) rfl (by simp [hc, h]) (by simp [hc', h]) hp hp'
          rfl he'⟩
      by_cases hw : w = []
      · subst hw
        exact inside [] (by simp) rfl
      · have hlast := List.getLast?_eq_some_getLast hv
        have hhead := List.head?_eq_some_head hw
        refine absurd (ht v w rfl _ hlast _ hhead) (hseam _ ?_ _ ?_)
        · simp [h, List.getLast?_append, hlast]
        · simp [List.head?_append, hhead]
  | behind h hc hc' ha ha' =>
      have hv := ha.symm.trans hp.1
      obtain ⟨e', hp', he'⟩ := Cursor.exists_passes (ha'.trans hv)
      exact ⟨e', hp', behind_of_passes (hv ▸ h) hc hc' hp hp' rfl he'⟩

/-- A place is as far on in the line with the gap, or further by the gap. -/
theorem column (h : Parted front gap rest c c') :
    (c.column < front.length → c'.column = c.column) ∧
    (front.length < c.column → c'.column = c.column + gap.length) ∧
    (c'.column = c.column ∨ c'.column = c.column + gap.length) := by
  cases h with
  | @before u v h hb hb' =>
      have hc : c.column = u.length := by simp [Cursor.column, hb]
      have hc' : c'.column = u.length := by simp [Cursor.column, hb']
      have hfront : front.length = u.length + v.length := by rw [h, List.length_append]
      omega
  | @behind u v h hb hb' =>
      have hc : c.column = front.length + u.length := by simp [Cursor.column, hb, Nat.add_comm]
      have hc' : c'.column = front.length + gap.length + u.length := by
        simp [Cursor.column, hb', Nat.add_comm]
      omega

end Parted

/-! ### Readings of the two lines -/

/-- Reading keeps places parted, unless a word goes over the seam. -/
theorem lockstep_parted (store : Store) (hgap : Blanks gap)
    (hseam : ∀ x ∈ front.getLast?, ∀ y ∈ rest.head?, ¬ Joins x y) :
    Lockstep store store (Parted front gap rest) where
  blanks h := h.skipBlanks hgap
  head? h _ hb := h.head? hgap hb
  symbol h hx hp hp' := by
    obtain ⟨e', he', h⟩ := h.passes hgap hseam
      (hp'.1 ▸ stops_cons_iff.2 (isBlank_eq_false_of_mem_punctuation _ hx)) (unbroken_singleton _) hp
    exact hp'.unique he' ▸ h
  literal h hb hl hp hd := by
    obtain ⟨e', hp', h⟩ := h.passes hgap hseam hb hl.unbroken hp
    exact ⟨e', hp', h.stops hgap (fun _ => isDigit_eq_false_of_isBlank) hd, h⟩
  name h hb hn hp hd := by
    obtain ⟨e', hp', h⟩ := h.passes hgap hseam hb hn.unbroken hp
    exact ⟨rfl, e', hp', h.stops hgap (fun _ => isLetter_eq_false_of_isBlank) hd, h⟩

/-- The gap does not make the keyword. -/
theorem Parted.begins_keyword (hgap : Blanks gap) (h : Parted front gap rest d d')
    (hk : keyword <+: d'.after) : keyword <+: d.after := by
  cases h with
  | @before u v h hc hc' ha ha' =>
      rw [ha]
      rw [ha'] at hk
      by_cases hg : gap = []
      · rwa [hg] at hk
      · obtain ⟨x, gap, rfl⟩ := List.exists_cons_of_ne_nil hg
        have hx : isLetter x = false := isLetter_eq_false_of_isBlank (hgap x List.mem_cons_self)
        have hstop : Stops isLetter (x :: gap ++ rest) := stops_cons_iff.2 hx
        exact (hstop.prefix_of_prefix_append (by decide) hk).trans (List.prefix_append v rest)
  | behind _ _ _ ha ha' => rwa [ha, ← ha']

section Lines

variable (hgap : Blanks gap) (hseam : ∀ x ∈ front.getLast?, ∀ y ∈ rest.head?, ¬ Joins x y)
include hgap hseam

theorem Parted.passes_letters {letters : List Char} (h : Parted front gap rest c c')
    (hs : Blanks space) (hn : IsName letters) (hp : c.Passes (space ++ letters) e) :
    ∃ space' e', Blanks space' ∧ c'.Passes (space' ++ letters) e' ∧ Parted front gap rest e e' := by
  obtain ⟨d, hp, hd⟩ := hp.split
  obtain ⟨space', d', hs', hp', hb', h, -⟩ :=
    (lockstep_parted ∅ hgap hseam).settle h hs hp (hd.1 ▸ hn.stops_isBlank _)
  obtain ⟨e', he', h⟩ := h.passes hgap hseam hb' hn.unbroken hd
  exact ⟨space', e', hs', hp'.trans he', h⟩

/-- What is before the expression is read alike with the gap and without. -/
theorem TargetRun.parted {out : Outcome (Option (List Char))} (h : TargetRun c out)
    (hc : Parted front gap rest c c') :
    ∃ out', TargetRun c' out' ∧ EndsAlike (Parted front gap rest) out out' := by
  have hR := lockstep_parted ∅ hgap hseam
  have hkey : IsName keyword := by decide
  cases h with
  | expression hs hp hb hk =>
      obtain ⟨_, _, hs', hp', hb', h, -⟩ := hR.settle hc hs hp hb
      exact ⟨_, .expression hs' hp' hb' fun hk' => hk (h.begins_keyword hgap hk'), .ok h⟩
  | noName hs hs' hp hb hd =>
      obtain ⟨_, hp, hp'⟩ := hp.split
      obtain ⟨_, _, hs₁, hp₁, h⟩ := hc.passes_letters hgap hseam hs hkey hp
      obtain ⟨_, _, hs₂, hp₂, hb₂, h, -⟩ := hR.settle h hs' hp' hb
      have hd₂ := h.stops hgap (fun _ => isLetter_eq_false_of_isBlank) hd
      exact ⟨_, .noName hs₁ hs₂ (hp₁.trans hp₂) hb₂ hd₂, .error h⟩
  | noEquals hs hs' hn hs'' hp hb hd he =>
      obtain ⟨_, hp, hp''⟩ := hp.split
      obtain ⟨_, hp, hn'⟩ := hp.split
      obtain ⟨_, hp, hp'⟩ := hp.split
      obtain ⟨_, _, hs₁, hp₁, h⟩ := hc.passes_letters hgap hseam hs hkey hp
      obtain ⟨_, _, hs₂, hp₂, h⟩ := h.passes_letters hgap hseam hs' hn (hp'.trans hn')
      have hd₃ := h.stops hgap (fun _ => isLetter_eq_false_of_isBlank) (hp''.1 ▸ hd)
      obtain ⟨_, _, hs₃, hp₃, hb₃, h, hnext⟩ := hR.settle h hs'' hp'' hb
      refine ⟨_, .noEquals hs₁ hs₂ hn hs₃ ?_ hb₃ (hp₃.1 ▸ hd₃) (hnext ▸ he), .error h⟩
      have := (hp₁.trans hp₂).trans hp₃
      rwa [← List.append_assoc] at this
  | assignment hs hs' hn hs'' hp =>
      obtain ⟨_, hp, heq⟩ := hp.split
      obtain ⟨_, hp, hp''⟩ := hp.split
      obtain ⟨_, hp, hn'⟩ := hp.split
      obtain ⟨_, hp, hp'⟩ := hp.split
      obtain ⟨_, _, hs₁, hp₁, h⟩ := hc.passes_letters hgap hseam hs hkey hp
      obtain ⟨_, _, hs₂, hp₂, h⟩ := h.passes_letters hgap hseam hs' hn (hp'.trans hn')
      obtain ⟨_, _, hs₃, hp₃, h⟩ := hR.passes_symbol h hs'' (by decide) (hp''.trans heq)
      refine ⟨_, .assignment hs₁ hs₂ hn hs₃ ?_, .ok h⟩
      have := (hp₁.trans hp₂).trans hp₃
      rwa [← List.append_assoc, ← List.append_assoc] at this

/-- A line is read alike with the gap and without. -/
theorem LineRun.parted {store : Store} {out : Except Fault Statement} (h : LineRun store c out)
    (hc : Parted front gap rest c c') :
    (∃ s, out = .ok s ∧ LineRun store c' (.ok s)) ∨
      ∃ f place, out = .error f ∧ LineRun store c' (.error ⟨f.cause, place⟩) ∧
        Parted front gap rest f.place place := by
  have hR := lockstep_parted store hgap hseam
  cases h with
  | targetFails ht =>
      obtain ⟨_, ht', hout⟩ := ht.parted hgap hseam hc
      obtain ⟨place, rfl, h⟩ := hout.of_error
      exact .inr ⟨_, place, rfl, .targetFails ht', h⟩
  | expressionFails ht hr =>
      obtain ⟨_, ht', hout⟩ := ht.parted hgap hseam hc
      obtain ⟨d', rfl, h⟩ := hout.of_ok
      obtain ⟨place, hr', h⟩ := (hr ▸ hR.expression h).of_error
      exact .inr ⟨_, place, rfl, .expressionFails ht' hr', h⟩
  | unfinished ht hr he =>
      obtain ⟨_, ht', hout⟩ := ht.parted hgap hseam hc
      obtain ⟨d', rfl, h⟩ := hout.of_ok
      obtain ⟨e', hr', h⟩ := (hr ▸ hR.expression h).of_ok
      have hnext := h.head? hgap (settles_readerAt store _ _ _ _ hr')
      refine .inr ⟨_, e', rfl, .unfinished ht' hr' fun he' => he ?_, h⟩
      rwa [he', List.head?_nil, eq_comm, List.head?_eq_none_iff] at hnext
  | finished ht hr he =>
      obtain ⟨_, ht', hout⟩ := ht.parted hgap hseam hc
      obtain ⟨d', rfl, h⟩ := hout.of_ok
      obtain ⟨e', hr', h⟩ := (hr ▸ hR.expression h).of_ok
      have hnext := h.head? hgap (settles_readerAt store _ _ _ _ hr')
      rw [he, List.head?_nil, List.head?_eq_none_iff] at hnext
      exact .inl ⟨_, rfl, .finished ht' hr' hnext⟩

theorem ofChars_insert_blanks (store : Store) :
    (∃ s, Statement.ofChars store (front ++ rest) = .ok s ∧
      Statement.ofChars store (front ++ gap ++ rest) = .ok s) ∨
    ∃ f place, Statement.ofChars store (front ++ rest) = .error f ∧
      Statement.ofChars store (front ++ gap ++ rest) = .error ⟨f.cause, place⟩ ∧
      Parted front gap rest f.place place := by
  rcases (lineRun_iff.2 rfl).parted hgap hseam (parted_start front gap rest) with
    ⟨s, hs, h⟩ | ⟨f, place, hf, h, hplace⟩
  · exact .inl ⟨s, hs, h.eq⟩
  · exact .inr ⟨f, place, hf, h.eq, hplace⟩

end Lines

/-- **Blanks between words.**  Where a gap of blanks is put into a line, but not inside a word, the
line makes the same statement, or is reported for the same cause and with the same detail; the
column stays where it was before the gap, and moves by the length of the gap behind it. -/
theorem ofLine_insert_blanks (store : Store) {front gap rest : String} (hgap : Blanks gap.toList)
    (hseam : ∀ x ∈ front.toList.getLast?, ∀ y ∈ rest.toList.head?, ¬ Joins x y) :
    (∀ s, Statement.ofLine store (front ++ rest) = .ok s →
      Statement.ofLine store (front ++ gap ++ rest) = .ok s) ∧
    ∀ report, Statement.ofLine store (front ++ rest) = .error report →
      ∃ column column', report.column = some column ∧
        Statement.ofLine store (front ++ gap ++ rest) =
          .error ⟨report.kind, report.detail, some column', some (front ++ gap ++ rest)⟩ ∧
        (column < front.length → column' = column) ∧
        (front.length < column → column' = column + gap.length) ∧
        (column = front.length → column' = column ∨ column' = column + gap.length) := by
  have h := ofChars_insert_blanks hgap hseam store
  rw [← String.toList_append, ← String.toList_append, ← String.toList_append] at h
  rcases h with ⟨s, hs, h⟩ | ⟨f, place, hf, h, hplace⟩
  · refine ⟨fun s' hs' => ?_, fun report hr => ?_⟩
    · obtain rfl := Except.ok.inj (hs.symm.trans (ofLine_eq_ok_iff.1 hs'))
      exact ofLine_eq_ok_iff.2 h
    · rw [ofLine_eq_ok_iff.2 hs] at hr
      cases hr
  · refine ⟨fun s' hs' => ?_, fun report hr => ?_⟩
    · cases hf.symm.trans (ofLine_eq_ok_iff.1 hs')
    · obtain ⟨f', hf', rfl⟩ := ofLine_eq_error_iff.1 hr
      obtain rfl : f = f' := Except.error.inj (hf.symm.trans hf')
      obtain ⟨hbefore, hbehind, hseam⟩ := hplace.column
      rw [String.length_toList] at hbefore hbehind hseam
      exact ⟨_, _, rfl, ofLine_eq_error_iff.2 ⟨_, h, rfl⟩, hbefore, hbehind, fun _ => hseam⟩

/-- Blanks behind the operator move the report of a quotient, which is made behind its divisor. -/
theorem ofLine_insert_blanks_quotient :
    Statement.ofLine ∅ ("1/" ++ "0 2") = .error ⟨.divisionByZero, "", some 3, some "1/0 2"⟩ ∧
      Statement.ofLine ∅ ("1/" ++ " \t" ++ "0 2") =
        .error ⟨.divisionByZero, "", some 5, some "1/ \t0 2"⟩ := by
  have h : Statement.ofLine ∅ ("1/" ++ "0 2") =
      .error ⟨.divisionByZero, "", some 3, some "1/0 2"⟩ := rfl
  have hgap : Blanks " \t".toList := by decide
  have hseam : ∀ x ∈ "1/".toList.getLast?, ∀ y ∈ "0 2".toList.head?, ¬ Joins x y := by
    have hlast : "1/".toList.getLast? = some '/' := by decide
    have hhead : "0 2".toList.head? = some '0' := by decide
    intro x hx y hy
    obtain rfl := Option.some.inj (hlast.symm.trans hx)
    obtain rfl := Option.some.inj (hhead.symm.trans hy)
    decide
  obtain ⟨column, column', hc, h', -, hbehind, -⟩ := (ofLine_insert_blanks ∅ hgap hseam).2 _ h
  obtain rfl : 3 = column := Option.some.inj hc
  obtain rfl : column' = 5 := hbehind (by decide)
  exact ⟨h, h'⟩

end Calculator
