import Calculator.Proofs.Diagnosis.Evidence
import Calculator.Proofs.Diagnosis.FaultyAtoms

/-!
# Calculator — Proofs — Diagnosis — Nesting limit

The parentheses that are open while a line is read are those of its text.  Between two operands as
many parentheses are closed as are opened (`entries_excess`), so wherever the reader comes to an
atom the number is the excess of the text before the place, whatever was read there
(`Line.ReadsAtomAt.excess_eq`).

**The limit** (`ofLine_nesting_exact`).  A line is refused for its nesting exactly at the
parenthesis that would be one too many by this count, and a line without such a parenthesis never
is.  Parentheses that are only opened do get there (`ofLine_tooDeep`).
-/

namespace Calculator

variable {store : Store} {precedence room depth : Nat} {c d place : Cursor} {v : Value}
  {line : List Char}

/-! ### Parentheses of operands -/

theorem Spelled.exists_balanced (h : Spelled store precedence room c v d) :
    ∃ u, c.Passes u d ∧ excess u = 0 := by
  obtain ⟨w, space, hw, -, hs, hp, -⟩ := h
  exact ⟨_, hp, Written.excess_text_append_blanks hw hs⟩

/-- An operand has as many parentheses of one kind as of the other. -/
theorem exists_balanced_of_readerAt (h : readerAt store room precedence c = .ok (v, d)) :
    ∃ u, c.Passes u d ∧ excess u = 0 := by
  have sound := reader_induction store (P := fun p n r => r.Sound store p n)
    (fun _ hi => sound_atomWith fun r hr => (hi r hr).imp fun _ h => ⟨h.1, h.2.2⟩)
    (fun _ hf ho => sound_chain hf ho) room
  unfold readerAt at h
  split at h
  · exact (sound.2.2 _ _ _ h).exists_balanced
  · exact (sound.2.1 _ _ _ h).exists_balanced
  · exact (sound.1 _ _ _ h).exists_balanced

theorem Cursor.Passes.excess_consumed {u : List Char} (h : c.Passes u d) :
    excess d.consumed = excess c.consumed + excess u := by
  rw [← excess_append, consumed, consumed, h.2, List.reverse_append, List.reverse_reverse]

/-- At all places where an operand is read, the parentheses that are open and those that may still
be opened make up the limit. -/
theorem entries_excess (store : Store) (line : List Char) :
    Entries store fun room c => c.line = line ∧ excess c.consumed + room = maxNesting where
  inside := by
    rintro room c d space ⟨rfl, hc⟩ hs hp
    refine ⟨hp.line, ?_⟩
    rw [hp.excess_consumed, excess_open hs]
    omega
  next := by
    rintro precedence room c d e v space op ⟨rfl, hc⟩ hr hs hp
    obtain ⟨u, hu, hzero⟩ := exists_balanced_of_readerAt hr
    refine ⟨hp.line.trans hu.line, ?_⟩
    rw [hp.excess_consumed, hu.excess_consumed, hzero, (Written.flat_operator hs op).excess_eq]
    omega

/-- Where an atom is read as many parentheses are open as the text before tells. -/
theorem Line.ReadsAtomAt.excess_eq (h : Line.ReadsAtomAt store line depth place) :
    place.line = line ∧ excess place.consumed = depth ∧ depth ≤ maxNesting := by
  obtain ⟨target, start, fault, ht, hne⟩ := h
  obtain ⟨lead, hlead, hflat, -⟩ := ht.exists_flat
  refine Classical.byContradiction fun hnot => hne ?_
  have hstart : start.line = line ∧ excess start.consumed + (maxNesting : Nat) = maxNesting := by
    refine ⟨hlead.line, ?_⟩
    rw [hlead.excess_consumed, hflat.excess_eq]
    exact Int.zero_add _
  -- the fault is put where no atom is read, so it never shows
  refine (entries_excess store line).expressionOf_eq (fun c hc => if_neg ?_)
    (fun n c hc => if_neg ?_) hstart
  · rintro ⟨hdepth, rfl⟩
    exact hnot ⟨hc.1, by omega, by omega⟩
  · rintro ⟨hdepth, rfl⟩
    exact hnot ⟨hc.1, by omega, by omega⟩

/-! ### The limit -/

/-- A line that makes a statement closes all parentheses that it opens, and opens none that is too
deep. -/
theorem excess_of_ofLine {line : String} {s : Statement} (h : Statement.ofLine store line = .ok s) :
    excess line.toList = 0 ∧ ∀ u, u <+: line.toList → excess u ≤ maxNesting := by
  obtain ⟨l, hl, htext, -⟩ := ofChars_eq_ok_iff.1 (ofLine_eq_ok_iff.1 h)
  rw [← htext]
  refine ⟨Line.excess_text hl, fun u hu => ?_⟩
  calc excess u ≤ deepest 0 l.text := excess_le_deepest hu
    _ = l.written.depth := by rw [Line.deepest_text hl]
    _ ≤ maxNesting := Int.ofNat_le.2 hl.expression.2.1

/-- The parenthesis at which a line is refused for its nesting is one too many. -/
theorem excess_of_tooDeep {line : String} {report : Diagnostic}
    (h : Statement.ofLine store line = .error report) (hk : report.kind = .nestingTooDeep) :
    ∃ column, report.column = some column ∧ line.toList[column]? = some '(' ∧
      excess (line.toList.take column) = maxNesting := by
  obtain ⟨⟨cause, place⟩, hf, rfl⟩ := ofLine_eq_error_iff.1 h
  obtain ⟨u, hp, hev⟩ := exists_evidence_of_error hf
  have hline : line.toList = u ++ place.after := hp.1
  have hcolumn : place.column = u.length := hp.column.trans (Nat.zero_add _)
  have hcause : cause = .nestingTooDeep := by
    cases cause with
    | nestingTooDeep => rfl
    | _ => cases hk
  subst hcause
  refine ⟨place.column, rfl, ?_⟩
  rw [hline, hcolumn, List.take_left, List.getElem?_append_right (Nat.le_refl _), Nat.sub_self,
    ← List.head?_eq_getElem?]
  cases hev with
  | expression hev =>
      cases hev with
      | tooDeep hb ha => exact ⟨ha, hb⟩
      | operator _ _ _ _ hf => cases hf

/-- A call for an atom is made behind parentheses that are only opened. -/
theorem made_of_opened {k : Nat} (hp : c.Passes (List.replicate k '(') d) (hk : k ≤ maxNesting) :
    Made store c (.operand 3) k d := by
  have hmade : Made store c (.operand 1) (0 + k) d :=
    Made.start.opened hp (by rwa [Nat.zero_add])
  rw [Nat.zero_add] at hmade
  exact hmade.atom

/-- Behind as many opening parentheses as may be open, one more is too many. -/
theorem ofLine_tooDeep {line : String} {target : Option (List Char)}
    (ht : TargetRun (.start line.toList) (.ok (target, c)))
    (hp : c.Passes (List.replicate maxNesting '(') d) (hd : d.after.head? = some '(') :
    Statement.ofLine store line = .error ⟨.nestingTooDeep, "", some d.column, some line⟩ := by
  obtain ⟨rest, hd⟩ := List.head?_eq_some_iff.1 hd
  obtain ⟨e, he, -⟩ := Cursor.exists_passes (u := ['(']) hd
  obtain ⟨k, hcall⟩ :=
    (made_of_opened hp (Nat.le_refl _)).fails (.tooDeep blanks_nil (.refl d) he rfl)
  have hr : Calculator.expression store c = .error ⟨.nestingTooDeep, d⟩ :=
    hcall.reads (Nat.zero_add _) (.inl rfl)
  exact ofLine_eq_error_iff.2 ⟨_, (LineRun.expressionFails ht hr).eq, rfl⟩

/-- The call for the expression of a line that makes a statement ends with no parenthesis open. -/
theorem exists_call_of_ofLine {line : String} {s : Statement}
    (h : Statement.ofLine store line = .ok s) :
    ∃ target start v d, TargetRun (.start line.toList) (.ok (target, start)) ∧ d.after = [] ∧
      s = .make target v ∧ Call store (.operand 1) 0 start (.ok (v, d)) 0 := by
  cases lineRun_iff.2 (ofLine_eq_ok_iff.1 h) with
  | @finished target start d v ht hr he =>
      obtain ⟨m, hcall⟩ := called_readerAt store maxNesting (.inl rfl) 0 start (Nat.zero_add _)
      have hread : readerAt store maxNesting 1 start = .ok (v, d) := hr
      rw [hread] at hcall
      obtain rfl := hcall.open_eq rfl
      exact ⟨target, start, v, d, ht, he, rfl, hcall⟩

/-- **The limit of nesting.**  Wherever a call for an atom is made the reader comes to an atom, and
wherever it does as many parentheses are open as the text before has more opening than closing ones,
and no more than the limit; behind a line that makes a statement none is.  Hence a line is refused
for its nesting only at an opening parenthesis in front of which all are open that may be; a line
that makes a statement nowhere has more open, and a line that nowhere has more open is never refused
so. -/
theorem ofLine_nesting_exact (store : Store) (line : String) :
    (∀ depth place, Line.CallsAtomAt store line.toList depth place →
      Line.ReadsAtomAt store line.toList depth place) ∧
    (∀ depth place, Line.ReadsAtomAt store line.toList depth place →
      place.line = line.toList ∧ excess place.consumed = depth ∧ depth ≤ maxNesting) ∧
    (∀ s, Statement.ofLine store line = .ok s →
      (∃ target start v d, TargetRun (.start line.toList) (.ok (target, start)) ∧ d.after = [] ∧
        s = .make target v ∧ Call store (.operand 1) 0 start (.ok (v, d)) 0) ∧
      excess line.toList = 0 ∧ ∀ u, u <+: line.toList → excess u ≤ maxNesting) ∧
    (∀ report, Statement.ofLine store line = .error report → report.kind = .nestingTooDeep →
      ∃ column, report.column = some column ∧ line.toList[column]? = some '(' ∧
        excess (line.toList.take column) = maxNesting) ∧
    ((∀ u, u <+: line.toList → excess u ≤ maxNesting) →
      ∀ report, Statement.ofLine store line = .error report → report.kind ≠ .nestingTooDeep) := by
  refine ⟨fun _ _ ⟨_, _, ht, h⟩ => h.readsAtomAt ht, fun _ _ h => h.excess_eq,
    fun _ h => ⟨exists_call_of_ofLine h, excess_of_ofLine h⟩, fun _ h => excess_of_tooDeep h,
    fun hle report h hk => ?_⟩
  obtain ⟨column, -, hx, hexcess⟩ := excess_of_tooDeep h hk
  -- with the parenthesis at which it is refused, one more is open
  have htake : line.toList.take (column + 1) = line.toList.take column ++ ['('] := by
    rw [List.take_add_one, hx]
    rfl
  have hmore := hle _ (List.take_prefix (column + 1) line.toList)
  rw [htake, excess_append, hexcess] at hmore
  have hone : excess ['('] = 1 := rfl
  omega

/-- Of parentheses that are only opened, an atom is read behind as many as may be open, and the next
is reported; a parenthesis that is closed is not open any more behind its line. -/
theorem ofLine_nesting_exact_opened :
    (∃ place, Line.CallsAtomAt ∅ (List.replicate 513 '(') 512 place ∧
      Line.ReadsAtomAt ∅ (List.replicate 513 '(') 512 place ∧ excess place.consumed = 512) ∧
    Statement.ofLine ∅ (String.ofList (List.replicate 513 '(')) =
      .error ⟨.nestingTooDeep, "", some 512, some (String.ofList (List.replicate 513 '('))⟩ ∧
    excess ((List.replicate 513 '(').take 512) = 512 ∧
    Statement.ofLine ∅ "(7)" = .ok (.expression 7) ∧ excess "(7)".toList = 0 ∧
    ∃ start d, Call ∅ (.operand 1) 0 start (.ok (7, d)) 0 := by
  have htext : (String.ofList (List.replicate 513 '(')).toList = List.replicate 513 '(' :=
    String.toList_ofList
  have hline : (Cursor.start (List.replicate 513 '(')).after =
      List.replicate maxNesting '(' ++ ['('] := List.replicate_succ'
  obtain ⟨d, hp, hd⟩ := Cursor.exists_passes hline
  have hcolumn : d.column = 512 := by
    rw [hp.column, List.length_replicate]
    rfl
  have hnext : d.after.head? = some '(' := by
    rw [hd]
    rfl
  have ht : TargetRun (.start (List.replicate 513 '('))
      (.ok (none, .start (List.replicate 513 '('))) :=
    .expression blanks_nil (.refl _) (stops_cons_iff.2 (by decide)) (by decide)
  -- the call behind the parentheses that may be open, and the parenthesis that is too many
  have hcalls : Line.CallsAtomAt ∅ (List.replicate 513 '(') 512 d :=
    ⟨_, _, ht, made_of_opened hp (Nat.le_refl _)⟩
  rw [← htext] at ht hp
  have hrefused : Statement.ofLine ∅ (String.ofList (List.replicate 513 '(')) = _ :=
    ofLine_tooDeep ht hp hnext
  rw [hcolumn] at hrefused
  obtain ⟨hreads, hexcess, -, hlast, -⟩ :=
    ofLine_nesting_exact ∅ (String.ofList (List.replicate 513 '('))
  rw [htext] at hreads hexcess hlast
  have hatom := hreads 512 d hcalls
  obtain ⟨column, hc, -, hcount⟩ := hlast _ hrefused rfl
  cases hc
  -- the line with a closed parenthesis
  have hclosed : Statement.ofLine ∅ "(7)" = .ok (.expression 7) := rfl
  obtain ⟨⟨target, start, v, e, -, -, hs, hcall⟩, hzero, -⟩ :=
    (ofLine_nesting_exact ∅ "(7)").2.2.1 _ hclosed
  cases target with
  | none =>
      obtain rfl := Statement.expression.inj hs
      exact ⟨⟨d, hcalls, hatom, (hexcess 512 d hatom).2.1⟩, hrefused, hcount, hclosed, hzero, start,
        e, hcall⟩
  | some name => cases hs

end Calculator
