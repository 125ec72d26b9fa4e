import Calculator.Proofs.Language.Completeness

/-!
# Calculator — Proofs — Diagnosis — Locality

A reader looks at no character behind the one at the column where it ends, except that an unset
name, though reported at its first letter, is looked at as far as the character behind its last.
`Outcome.reach` is the column of the last character that is looked at, and a `Reader.Local` does
the same on two lines that agree up to there.  The proof runs the reader on both lines in lockstep,
rule by rule (`AtomRun.same`, `ChainRun.same`).

The keyword takes a look ahead of its own.  It does no harm: where the text does not begin with
the keyword but another line's does, they differ in the first word, which the reader of an
expression reads to its end (`column_le_reach_of_name`).

**Locality** (`ofLine_error_local`).  What follows the character at which a line is reported never
changes the report; for an unset name, the character behind the name.
-/

namespace Calculator

open Cursor (Alike)
open Statement (keyword)

/-! ### What is looked at -/

/-- How many characters behind its place a fault is about. -/
def Cause.width : Cause → Nat
  | .undefinedVariable name => name.length
  | _ => 0

/-- The column of the last character that a reading looks at. -/
def Outcome.reach {α : Type} : Outcome α → Nat
  | .ok (_, d) => d.column
  | .error f => f.place.column + f.cause.width

/-- Two readings end alike on lines that agree up to column `k`. -/
inductive Same {α : Type} (k : Nat) : Outcome α → Outcome α → Prop where
  | ok {a : α} {d d' : Cursor} (h : Alike k d d') : Same k (.ok (a, d)) (.ok (a, d'))
  | error {cause : Cause} {d d' : Cursor} (h : Alike k d d') :
      Same k (.error ⟨cause, d⟩) (.error ⟨cause, d'⟩)

/-- The reader ends alike on lines that agree on what it looks at. -/
def Reader.Local {α : Type} (r : Reader α) : Prop :=
  ∀ (k : Nat) (c c' : Cursor), Alike k c c' → Outcome.reach (r c) ≤ k → Same k (r c) (r c')

variable {store : Store} {inside : Option (Reader Value)} {operand : Reader Value}
  {precedence k : Nat} {left v : Value} {c c' d d' e : Cursor} {f : Fault} {out : Outcome Value}

theorem Outcome.column_le_reach {α : Type} (out : Outcome α) : out.place.column ≤ out.reach := by
  cases out with
  | ok => exact Nat.le_refl _
  | error => exact Nat.le_add_right _ _

theorem Cursor.Passes.column_le {u : List Char} (h : c.Passes u d) : c.column ≤ d.column :=
  h.column ▸ Nat.le_add_right _ _

theorem Reader.Forward.column_le {α : Type} {r : Reader α} {a : α} (h : r.Forward)
    (hr : r c = .ok (a, d)) : c.column ≤ d.column := by
  obtain ⟨u, hu⟩ := h.ok hr
  exact hu.column_le

theorem Reader.Forward.column_le_place {α : Type} {r : Reader α} (h : r.Forward)
    (hr : r c = .error f) : c.column ≤ f.place.column + f.cause.width := by
  obtain ⟨u, hu⟩ := h.error hr
  exact Nat.le_trans hu.column_le (Nat.le_add_right _ _)

theorem ChainRun.column_le_reach (hf : operand.Forward)
    (h : ChainRun precedence operand left c out) : c.column ≤ out.reach := by
  obtain ⟨u, hu⟩ := h.forward hf
  exact Nat.le_trans hu.column_le (Outcome.column_le_reach _)

theorem Reader.Local.ok {α : Type} {r : Reader α} {a : α} (hl : r.Local) (hd : Alike k d d')
    (hr : r d = .ok (a, e)) (hk : e.column ≤ k) : ∃ e', r d' = .ok (a, e') ∧ Alike k e e' := by
  have h := hl _ _ _ hd (hr ▸ hk)
  rw [hr] at h
  generalize r d' = out at h
  cases h with
  | ok h => exact ⟨_, rfl, h⟩

theorem Reader.Local.error {α : Type} {r : Reader α} (hl : r.Local) (hd : Alike k d d')
    (hr : r d = .error f) (hk : f.place.column + f.cause.width ≤ k) :
    ∃ place, r d' = .error ⟨f.cause, place⟩ ∧ Alike k f.place place := by
  have h := hl _ _ _ hd (hr ▸ hk)
  rw [hr] at h
  generalize r d' = out at h
  cases h with
  | error h => exact ⟨_, rfl, h⟩

/-! ### Lockstep -/

/-- An atom is read alike on lines that agree on what is looked at. -/
theorem AtomRun.same (h : AtomRun store inside c out)
    (hi : ∀ r, inside = some r → r.Forward ∧ r.Local) (hc : Alike k c c') (hk : out.reach ≤ k) :
    ∃ out', AtomRun store inside c' out' ∧ Same k out out' := by
  cases h with
  | ended hs hp hd =>
      obtain ⟨d', hp', ha⟩ := hc.passes hp hk
      have hd' := ha.head? hk
      rw [hd, List.head?_nil, List.head?_eq_none_iff] at hd'
      exact ⟨_, .ended hs hp' hd', .error ha⟩
  | literal hs hl hp hd hv =>
      obtain ⟨d', hp', ha⟩ := hc.passes hp hk
      exact ⟨_, .literal hs hl hp' (ha.stops hk hd) hv, .ok ha⟩
  | malformed hs hl hp hd hv =>
      obtain ⟨d', hp', ha⟩ := hc.passes hp hk
      exact ⟨_, .malformed hs hl hp' (ha.stops hk hd) hv, .error ha⟩
  | name hs hn hp hd hv =>
      obtain ⟨d', hp', ha⟩ := hc.passes hp hk
      exact ⟨_, .name hs hn hp' (ha.stops hk hd) hv, .ok ha⟩
  | @undefined _ letters d e hs hn hp he hd hv =>
      -- the name is looked at as far as the character behind its last letter
      have hke : e.column ≤ k := by
        rw [he.column, ← String.length_ofList]
        exact hk
      obtain ⟨d', hp', ha⟩ := hc.passes hp (Nat.le_trans he.column_le hke)
      obtain ⟨e', he', hae⟩ := ha.passes he hke
      exact ⟨_, .undefined hs hn hp' he' (hae.stops hke hd) hv, .error ha⟩
  | tooDeep hs hp he hi =>
      obtain ⟨d', hp', ha⟩ := hc.passes hp hk
      obtain ⟨e', he'⟩ := ha.passes_next hk he
      exact ⟨_, .tooDeep hs hp' he' hi, .error ha⟩
  | @insideFails _ r d f hs hp hi' hr =>
      obtain ⟨hf, hl⟩ := hi r hi'
      obtain ⟨d', hp', ha⟩ := hc.passes hp (Nat.le_trans (hf.column_le_place hr) hk)
      obtain ⟨place, hr', ha⟩ := hl.error ha hr hk
      exact ⟨_, .insideFails hs hp' hi' hr', .error ha⟩
  | @unclosed _ r d e v hs hp hi' hr he =>
      obtain ⟨hf, hl⟩ := hi r hi'
      obtain ⟨d', hp', ha⟩ := hc.passes hp (Nat.le_trans (hf.column_le hr) hk)
      obtain ⟨e', hr', ha⟩ := hl.ok ha hr hk
      exact ⟨_, .unclosed hs hp' hi' hr' (ha.head? hk ▸ he), .error ha⟩
  | @group _ r d e _ v hs hp hi' hr he =>
      obtain ⟨hf, hl⟩ := hi r hi'
      have hke := Nat.le_trans he.column_le hk
      obtain ⟨d', hp', ha⟩ := hc.passes hp (Nat.le_trans (hf.column_le hr) hke)
      obtain ⟨e', hr', ha⟩ := hl.ok ha hr hke
      obtain ⟨_, he', ha⟩ := ha.passes he hk
      exact ⟨_, .group hs hp' hi' hr' he', .ok ha⟩
  | unexpected hs hp he hb hx =>
      obtain ⟨d', hp', ha⟩ := hc.passes hp hk
      obtain ⟨e', he'⟩ := ha.passes_next hk he
      exact ⟨_, .unexpected hs hp' he' hb hx, .error ha⟩

/-- A chain goes on alike on lines that agree on what is looked at. -/
theorem ChainRun.same (hf : operand.Forward) (hl : operand.Local)
    (h : ChainRun precedence operand left c out) (hc : Alike k c c') (hk : out.reach ≤ k) :
    ∃ out', ChainRun precedence operand left c' out' ∧ Same k out out' := by
  induction h generalizing c' with
  | done hs hp hb hd =>
      obtain ⟨d', hp', ha⟩ := hc.passes hp hk
      exact ⟨_, .done hs hp' (ha.stops hk hb) (ha.head? hk ▸ hd), .ok ha⟩
  | @operandFails _ _ d _ _ f hs ho hp hr =>
      obtain ⟨d', hp', ha⟩ := hc.passes hp (Nat.le_trans (hf.column_le_place hr) hk)
      obtain ⟨place, hr', ha⟩ := hl.error ha hr hk
      exact ⟨_, .operandFails hs ho hp' hr', .error ha⟩
  | @applyFails _ right _ d e _ _ _ hs ho hp hr ha =>
      have hke : e.column ≤ k := Nat.le_trans (Nat.le_add_right _ _) hk
      obtain ⟨d', hp', hd'⟩ := hc.passes hp (Nat.le_trans (hf.column_le hr) hke)
      obtain ⟨e', hr', he⟩ := hl.ok hd' hr hke
      exact ⟨_, .applyFails hs ho hp' hr' ha, .error he⟩
  | @turn _ right _ _ d e _ _ _ hs ho hp hr ha next ih =>
      -- the chain looks no less far than it goes on
      have hke : e.column ≤ k := Nat.le_trans (next.column_le_reach hf) hk
      obtain ⟨d', hp', hd'⟩ := hc.passes hp (Nat.le_trans (hf.column_le hr) hke)
      obtain ⟨e', hr', he⟩ := hl.ok hd' hr hke
      obtain ⟨out', next', hsame⟩ := ih he hk
      exact ⟨out', .turn hs ho hp' hr' ha next', hsame⟩

theorem local_atomWith (hi : ∀ r, inside = some r → r.Forward ∧ r.Local) :
    (atomWith store inside).Local := by
  intro k c c' hc hk
  obtain ⟨out', h, hsame⟩ := (atomRun_iff.2 rfl).same hi hc hk
  exact h.eq ▸ hsame

theorem local_chain (precedence : Nat) (hf : operand.Forward) (hl : operand.Local) :
    (chain precedence operand).Local := by
  intro k c c' hc hk
  rcases chain_cases precedence hf c with ⟨f, hr, h⟩ | ⟨first, d, hr, h⟩
  · rw [h] at hk ⊢
    obtain ⟨place, hr', ha⟩ := hl.error hc hr hk
    rw [chain_eq_error hr']
    exact .error ha
  · obtain ⟨d', hr', ha⟩ := hl.ok hc hr (Nat.le_trans (h.column_le_reach hf) hk)
    obtain ⟨out', h', hsame⟩ := h.same hf hl ha hk
    rwa [h'.chain_eq hf hr']

theorem local_readerAt (store : Store) (room : Nat) : (readerAt store room 1).Local :=
  (reader_induction store (P := fun _ _ r => r.Local)
    (fun _ hi => local_atomWith fun r hr => (hi r hr).elim fun _ h => h.2)
    (fun _ hf hl => local_chain _ hf hl) room).2.2

theorem local_expression (store : Store) : (expression store).Local :=
  local_readerAt store maxNesting

/-! ### The keyword -/

theorem Outcome.reach_le_chain (precedence : Nat) (hf : operand.Forward) (c : Cursor) :
    Outcome.reach (operand c) ≤ Outcome.reach (chain precedence operand c) := by
  rcases chain_cases precedence hf c with ⟨f, hr, h⟩ | ⟨first, d, hr, h⟩
  · exact Nat.le_of_eq (by rw [hr, h])
  · rw [hr]
    exact h.column_le_reach hf

/-- The first word of an expression is looked at as far as the character behind it. -/
theorem column_le_reach_of_name {letters : List Char} (hn : IsName letters)
    (hp : d.Passes letters e) (he : Stops isLetter e.after) :
    e.column ≤ Outcome.reach (expression store d) := by
  have hatom : e.column ≤ Outcome.reach (readerAt store maxNesting 3 d) := by
    cases hv : store[String.ofList letters]? with
    | none =>
        rw [readerAt_of_atomRun fun _ => .undefined blanks_nil hn (.refl d) hp he hv, hp.column,
          ← String.length_ofList]
        exact Nat.le_refl _
    | some v =>
        rw [readerAt_of_atomRun fun _ => .name blanks_nil hn hp he hv]
        exact Nat.le_refl _
  exact Nat.le_trans hatom (Nat.le_trans (Outcome.reach_le_chain 2 (forward_readerAt store _ 3) d)
    (Outcome.reach_le_chain 1 (forward_readerAt store _ 2) d))

/-- Where a text does not begin with the keyword, a text that agrees with it on what its first
word is looked at does not either. -/
theorem not_keyword_of_alike (h : Alike k d d') (hd : d.column ≤ k)
    (hw : ∀ letters e, IsName letters → d.Passes letters e → Stops isLetter e.after → e.column ≤ k)
    (hk : ¬ keyword <+: d.after) : ¬ keyword <+: d'.after := by
  rintro ⟨rest, hkey⟩
  have hx : d.after.head? = some 'l' := by
    rw [← h.head? hd, ← hkey]
    rfl
  obtain ⟨rest', hx⟩ := List.head?_eq_some_iff.1 hx
  obtain ⟨letters, e, hn, hp, he⟩ := Cursor.exists_name hx (by decide)
  have hke := hw letters e hn hp he
  obtain ⟨e', hp', ha⟩ := h.passes hp hke
  -- the keyword is made of letters, so it would be in the first word of both
  have hword : keyword <+: letters :=
    (ha.stops hke he).prefix_of_prefix_append (by decide) (hp'.1 ▸ ⟨rest, hkey⟩)
  exact hk (hword.trans ⟨e.after, hp.1.symm⟩)

/-! ### Lines -/

/-- What is before the expression is read alike on lines that agree on what is looked at; the first
word counts if it could have been the keyword. -/
theorem TargetRun.same {out : Outcome (Option (List Char))} (h : TargetRun c out)
    (hc : Alike k c c') (hk : out.reach ≤ k)
    (hw : ∀ d, out = .ok (none, d) → ∀ letters e, IsName letters → d.Passes letters e →
      Stops isLetter e.after → e.column ≤ k) :
    ∃ out', TargetRun c' out' ∧ Same k out out' := by
  cases h with
  | expression hs hp hb hkey =>
      obtain ⟨d', hp', ha⟩ := hc.passes hp hk
      have hkey' := not_keyword_of_alike ha hk (hw _ rfl) hkey
      exact ⟨_, .expression hs hp' (ha.stops hk hb) hkey', .ok ha⟩
  | noName hs hs' hp hb hd =>
      obtain ⟨d', hp', ha⟩ := hc.passes hp hk
      exact ⟨_, .noName hs hs' hp' (ha.stops hk hb) (ha.stops hk hd), .error ha⟩
  | @noEquals _ _ _ space'' d hs hs' hn hs'' hp hb hd he =>
      obtain ⟨d', hp', ha⟩ := hc.passes hp hk
      refine ⟨_, .noEquals hs hs' hn hs'' hp' (ha.stops hk hb) ?_ (ha.head? hk ▸ he), .error ha⟩
      -- the name is over at its first blank, or else where the equals sign is missing
      cases space'' with
      | nil => exact ha.stops hk hd
      | cons x rest => exact hd
  | assignment hs hs' hn hs'' hp =>
      obtain ⟨d', hp', ha⟩ := hc.passes hp hk
      exact ⟨_, .assignment hs hs' hn hs'' hp', .ok ha⟩

/-- A target that is read is read on the other line too, up to the same place. -/
theorem TargetRun.same_ok {target : Option (List Char)} (h : TargetRun c (.ok (target, d)))
    (hc : Alike k c c') (hk : Outcome.reach (Calculator.expression store d) ≤ k) :
    ∃ d', TargetRun c' (.ok (target, d')) ∧ Alike k d d' := by
  have hd : d.column ≤ k := by
    obtain ⟨u, hu⟩ := forward_expression store d
    exact Nat.le_trans (Nat.le_trans hu.column_le (Outcome.column_le_reach _)) hk
  obtain ⟨out', h', hsame⟩ := h.same hc hd fun d' hout letters e hn hp he => by
    cases hout
    exact Nat.le_trans (column_le_reach_of_name hn hp he) hk
  cases hsame with
  | ok ha => exact ⟨_, h', ha⟩

/-- A line that is read by the rules to a fault is so read by them whatever follows the fault. -/
theorem LineRun.error_same (h : LineRun store c (.error f)) (hc : Alike k c c')
    (hk : f.place.column + f.cause.width ≤ k) :
    ∃ place, LineRun store c' (.error ⟨f.cause, place⟩) ∧ Alike k f.place place := by
  cases h with
  | targetFails ht =>
      obtain ⟨out', ht', hsame⟩ := ht.same hc hk fun _ hout => nomatch hout
      cases hsame with
      | error ha => exact ⟨_, .targetFails ht', ha⟩
  | @expressionFails _ d _ ht hr =>
      have hreach : Outcome.reach (expression store d) ≤ k := hr ▸ hk
      obtain ⟨d', ht', ha⟩ := ht.same_ok hc hreach
      obtain ⟨place, hr', ha⟩ := (local_expression store).error ha hr hk
      exact ⟨place, .expressionFails ht' hr', ha⟩
  | @unfinished _ d e _ ht hr he =>
      have hreach : Outcome.reach (expression store d) ≤ k := hr ▸ hk
      obtain ⟨d', ht', ha⟩ := ht.same_ok hc hreach
      obtain ⟨e', hr', ha⟩ := (local_expression store).ok ha hr hk
      refine ⟨e', .unfinished ht' hr' fun he' => he ?_, ha⟩
      rw [← List.head?_eq_none_iff, ← ha.head? hk, he', List.head?_nil]

/-- What follows a fault never changes it. -/
theorem ofChars_error_local {line line' : List Char} (h : Statement.ofChars store line = .error f)
    (hk : f.place.column + f.cause.width ≤ k) (hline : line.take (k + 1) = line'.take (k + 1)) :
    ∃ place, Statement.ofChars store line' = .error ⟨f.cause, place⟩ ∧
      place.column = f.place.column := by
  have hstart : Alike k (.start line) (.start line') := ⟨rfl, hline⟩
  obtain ⟨place, h, ha⟩ := (lineRun_iff.2 h).error_same hstart hk
  exact ⟨place, h.eq, ha.column⟩

/-- How many characters behind its column a report is about: those of an unset name. -/
def Diagnostic.width (d : Diagnostic) : Nat :=
  if d.kind = .undefinedVariable then d.detail.length else 0

theorem Fault.width_diagnostic (f : Fault) (line : String) :
    (f.diagnostic line).width = f.cause.width := by
  obtain ⟨cause, place⟩ := f
  cases cause <;> rfl

/-- **Locality.**  A line that is reported at a column stays reported there, for the same reason and
with the same detail, whatever follows the character at that column; for an unset name, whatever
follows the character behind the name. -/
theorem ofLine_error_local {a : String} {report : Diagnostic}
    (h : Statement.ofLine store a = .error report) :
    ∃ column, report.column = some column ∧
      ∀ b : String, a.toList.take (column + report.width) = b.toList.take (column + report.width) →
        a.toList[column + report.width]? = b.toList[column + report.width]? →
        Statement.ofLine store b = .error { report with line := some b } := by
  obtain ⟨f, hf, rfl⟩ := ofLine_eq_error_iff.1 h
  rw [f.width_diagnostic]
  refine ⟨f.place.column, rfl, fun b hb hx => ?_⟩
  have hline : a.toList.take (f.place.column + f.cause.width + 1) =
      b.toList.take (f.place.column + f.cause.width + 1) := by
    rw [List.take_add_one, List.take_add_one, hb, hx]
  obtain ⟨place, hplace, hcolumn⟩ := ofChars_error_local hf (Nat.le_refl _) hline
  refine ofLine_eq_error_iff.2 ⟨_, hplace, ?_⟩
  rw [Fault.diagnostic, hcolumn]
  rfl

/-- A division by zero is reported although the line goes on with what cannot be read. -/
theorem ofLine_error_local_quotient :
    Statement.ofLine ∅ "1/0+2" = .error ⟨.divisionByZero, "", some 3, some "1/0+2"⟩ ∧
      Statement.ofLine ∅ "1/0+)=(" = .error ⟨.divisionByZero, "", some 3, some "1/0+)=("⟩ := by
  have h : Statement.ofLine ∅ "1/0+2" = .error ⟨.divisionByZero, "", some 3, some "1/0+2"⟩ := rfl
  obtain ⟨column, hc, hb⟩ := ofLine_error_local h
  obtain rfl : 3 = column := Option.some.inj hc
  exact ⟨h, hb "1/0+)=(" rfl rfl⟩

end Calculator
