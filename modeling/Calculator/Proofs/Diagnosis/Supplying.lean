import Mathlib.Data.Finset.Card
import Mathlib.Data.Finset.Dedup
import Calculator.Proofs.Diagnosis.Evidence
import Calculator.Proofs.Reading.Names
import Calculator.Proofs.Sessions.Writes

/-!
# Calculator — Proofs — Diagnosis — Supplying

What becomes of a line that is refused for a name, once the name is set.  The reader goes on behind
the name: `Advances` relates what it came to without the name and what it comes to with it, and is
kept by every rule, since no rule leads back (`AtomRun.advances`, `ChainRun.advances`).  The name
is one of the runs of letters of the line, and was not set (`name_of_undefined`), so each time a
name is supplied one run less is unset (`card_unset_supply_lt`).

**Supplying** (`ofLine_supply`).  With the name that was missed a line is refused behind it, if at
all; and by as many names as there are runs of letters in the line no name is missed any more.
-/

namespace Calculator

/-! ### Past the name -/

/-- Where the first reading misses the name, the second gets past it; elsewhere they are the
same. -/
inductive Advances (name : List Char) : Outcome Value → Outcome Value → Prop where
  | same (out : Outcome Value) : Advances name out out
  | past {place e : Cursor} {out' : Outcome Value} {u : List Char} (hn : place.Passes name e)
      (hu : e.Passes u out'.place) :
      Advances name (.error ⟨.undefinedVariable (String.ofList name), place⟩) out'

variable {store store' : Store} {inside inside' : Option (Reader Value)}
  {operand operand' : Reader Value} {precedence : Nat} {left v : Value} {c d : Cursor}
  {name : List Char} {out out' : Outcome Value} {f : Fault}

theorem Advances.of_ok {a : Value × Cursor} (h : Advances name (.ok a) out') : out' = .ok a := by
  cases h with
  | same => rfl

/-- An atom that misses the name gets past it where it is set, if what is in parentheses does. -/
theorem AtomRun.advances (h : AtomRun store inside c out)
    (hname : store[String.ofList name]? = none) (hnone : inside = none → inside' = none)
    (hsome : ∀ r, inside = some r → ∃ r', inside' = some r' ∧ ∀ c, Advances name (r c) (r' c))
    (v : Value) : ∃ out', AtomRun (store.insert (String.ofList name) v) inside' c out' ∧
      Advances name out out' := by
  cases h with
  | ended hs hp hd => exact ⟨_, .ended hs hp hd, .same _⟩
  | literal hs hl hp hd hv => exact ⟨_, .literal hs hl hp hd hv, .same _⟩
  | malformed hs hl hp hd hv => exact ⟨_, .malformed hs hl hp hd hv, .same _⟩
  | name hs hn hp hd hv =>
      refine ⟨_, .name hs hn hp hd ?_, .same _⟩
      rw [Store.getElem?_insert, if_neg, hv]
      intro hx
      rw [← hx, hname] at hv
      cases hv
  | @undefined _ letters d e hs hn hp he hd hv =>
      by_cases hx : String.ofList name = String.ofList letters
      · obtain rfl := String.ofList_injective hx
        refine ⟨.ok (v, e), .name hs hn (hp.trans he) hd ?_, .past he (.refl e)⟩
        rw [Store.getElem?_insert, if_pos rfl]
      · refine ⟨_, .undefined hs hn hp he hd ?_, .same _⟩
        rw [Store.getElem?_insert, if_neg hx, hv]
  | tooDeep hs hp he hi => exact ⟨_, .tooDeep hs hp he (hnone hi), .same _⟩
  | @insideFails _ r d f hs hp hi hr =>
      obtain ⟨r', hi', hadv⟩ := hsome r hi
      obtain ⟨out', h', u, hu⟩ := exists_atomRun_of_open hs hp hi'
      have hadv : Advances name (.error f) (r' d) := hr ▸ hadv d
      -- what is inside fails as before, or gets past the name and takes the atom with it
      generalize hr' : r' d = inner at hadv hu
      cases hadv with
      | same => exact ⟨_, .insideFails hs hp hi' hr', .same _⟩
      | past hn hu' => exact ⟨out', h', .past hn (hu'.trans hu)⟩
  | unclosed hs hp hi hr he =>
      obtain ⟨r', hi', hadv⟩ := hsome _ hi
      exact ⟨_, .unclosed hs hp hi' (hr ▸ hadv _).of_ok he, .same _⟩
  | group hs hp hi hr he =>
      obtain ⟨r', hi', hadv⟩ := hsome _ hi
      exact ⟨_, .group hs hp hi' (hr ▸ hadv _).of_ok he, .same _⟩
  | unexpected hs hp he hb hx => exact ⟨_, .unexpected hs hp he hb hx, .same _⟩

/-- A chain goes on past the name, if its operands do. -/
theorem ChainRun.advances (hf' : operand'.Forward)
    (ho : ∀ c, Advances name (operand c) (operand' c))
    (h : ChainRun precedence operand left c out) :
    ∃ out', ChainRun precedence operand' left c out' ∧ Advances name out out' := by
  induction h with
  | done hs hp hb hd => exact ⟨_, .done hs hp hb hd, .same _⟩
  | @operandFails left _ d _ _ f hs hop hp hr =>
      obtain ⟨out', h', u, hu⟩ := exists_chainRun_of_operator hf' hs hop hp left
      have hadv : Advances name (.error f) (operand' d) := hr ▸ ho d
      generalize hr' : operand' d = right at hadv hu
      cases hadv with
      | same => exact ⟨_, .operandFails hs hop hp hr', .same _⟩
      | past hn hu' => exact ⟨out', h', .past hn (hu'.trans hu)⟩
  | applyFails hs hop hp hr ha =>
      exact ⟨_, .applyFails hs hop hp (hr ▸ ho _).of_ok ha, .same _⟩
  | turn hs hop hp hr ha _ ih =>
      obtain ⟨out', next', hadv⟩ := ih
      exact ⟨out', .turn hs hop hp (hr ▸ ho _).of_ok ha next', hadv⟩

theorem advances_chain (precedence : Nat) (hf : operand.Forward) (hf' : operand'.Forward)
    (ho : ∀ c, Advances name (operand c) (operand' c)) (c : Cursor) :
    Advances name (chain precedence operand c) (chain precedence operand' c) := by
  rcases chain_cases precedence hf c with ⟨f, hr, h⟩ | ⟨first, d, hr, h⟩
  · obtain ⟨u, hu⟩ := exists_passes_chain precedence hf' c
    have hadv : Advances name (.error f) (operand' c) := hr ▸ ho c
    rw [h]
    generalize hr' : operand' c = first at hadv hu
    cases hadv with
    | same =>
        rw [chain_eq_error hr']
        exact .same _
    | past hn hu' => exact .past hn (hu'.trans hu)
  · obtain ⟨out', h', hadv⟩ := h.advances hf' ho
    rwa [h'.chain_eq hf' (hr ▸ ho c).of_ok]

theorem advances_atomWith (hname : store[String.ofList name]? = none)
    (hnone : inside = none → inside' = none)
    (hsome : ∀ r, inside = some r → ∃ r', inside' = some r' ∧ ∀ c, Advances name (r c) (r' c))
    (v : Value) (c : Cursor) : Advances name (atomWith store inside c)
      (atomWith (store.insert (String.ofList name) v) inside' c) := by
  obtain ⟨out', h', hadv⟩ := (atomRun_iff.2 rfl).advances hname hnone hsome v
  rwa [h'.eq]

/-- An expression that misses the name gets past it where it is set. -/
theorem advances_expression (hname : store[String.ofList name]? = none) (v : Value) (c : Cursor) :
    Advances name (expression store c) (expression (store.insert (String.ofList name) v) c) := by
  refine (reader_induction store (P := fun p n r => ∀ c,
    Advances name (r c) (readerAt (store.insert (String.ofList name) v) n p c))
    (fun {room inside} hnone hsome c => ?_) (fun {p n r} hp hf ho c => ?_) maxNesting).2.2 c
  · cases inside with
    | none =>
        obtain rfl := hnone rfl
        exact advances_atomWith hname (fun _ => rfl) (fun _ hr => by cases hr) v c
    | some r =>
        obtain ⟨n, rfl, -, hr⟩ := hsome r rfl
        rw [readerAt_succ]
        refine advances_atomWith hname (fun h => by cases h) (fun r' hr' => ?_) v c
        cases hr'
        exact ⟨_, rfl, hr⟩
  · rw [readerAt_eq_chain _ _ hp]
    exact advances_chain p hf (forward_readerAt _ _ _) ho c

/-! ### Lines -/

/-- A line that is refused for a name has it, at the place of the fault, and it is not set. -/
theorem name_of_undefined {line : List Char} {x : String} {place : Cursor}
    (h : Statement.ofChars store line = .error ⟨.undefinedVariable x, place⟩) :
    store[x]? = none ∧ HasName line x.toList := by
  obtain ⟨before, hp, hev⟩ := exists_evidence_of_error h
  generalize hcause : Cause.undefinedVariable x = cause at hev
  cases hev with
  | expression hev =>
      cases hev with
      | @undefined letters rest hn hb ha hr hs =>
          cases hcause
          refine ⟨hs, ?_⟩
          rw [String.toList_ofList]
          refine ⟨hn, before, rest, ?_, fun x hx => hb x ?_, hr⟩
          · rw [(show line = _ from hp.1), ha, List.append_assoc]
          · rwa [List.head?_reverse]
      | operator _ _ _ _ hf =>
          subst hcause
          cases hf
      | _ => cases hcause
  | _ => cases hcause

/-- With the name that was missed a line fails behind it, if at all. -/
theorem column_le_of_undefined {line : List Char} {x : String} {place : Cursor}
    (h : Statement.ofChars store line = .error ⟨.undefinedVariable x, place⟩)
    (h' : Statement.ofChars (store.insert x v) line = .error f) :
    place.column + x.length ≤ f.place.column := by
  obtain ⟨name, rfl⟩ : ∃ name, x = String.ofList name := ⟨_, String.ofList_toList.symm⟩
  have run := lineRun_iff.2 h
  cases run with
  | targetFails ht => cases ht
  | @expressionFails _ d _ ht hr =>
      have hadv := advances_expression (name_of_undefined h).1 v d
      have hplace := ht.place_eq h'
      rw [hr] at hadv
      generalize hr' : expression (store.insert (String.ofList name) v) d = out at hadv hplace
      cases hadv with
      | same =>
          -- the name is set, so it is not missed again
          have hset := (name_of_undefined (LineRun.expressionFails ht hr').eq).1
          rw [Store.getElem?_insert, if_pos rfl] at hset
          cases hset
      | past hn hu =>
          rw [hplace, hu.column, hn.column, String.length_ofList]
          exact Nat.le_add_right _ _

theorem exists_undefined_of_ofLine {line : String} {report : Diagnostic}
    (h : Statement.ofLine store line = .error report) (hk : report.kind = .undefinedVariable) :
    ∃ place, report.column = some place.column ∧
      Statement.ofChars store line.toList = .error ⟨.undefinedVariable report.detail, place⟩ := by
  obtain ⟨⟨cause, place⟩, hf, rfl⟩ := ofLine_eq_error_iff.1 h
  cases cause with
  | undefinedVariable x => exact ⟨place, rfl, hf⟩
  | _ => cases hk

/-! ### One name after another -/

/-- Gives the value to the name that the line misses, if it misses one. -/
def supply (line : String) (store : Store) (v : Value) : Store :=
  match Statement.ofLine store line with
  | .error report =>
    if report.kind = .undefinedVariable then store.insert report.detail v else store
  | .ok _ => store

/-- If the line is refused, then not for a name that is not set. -/
def MissesNoName (store : Store) (line : String) : Prop :=
  ∀ report, Statement.ofLine store line = .error report → report.kind ≠ .undefinedVariable

/-- The runs of letters of the line that are not set. -/
def unset (store : Store) (line : String) : Finset (List Char) :=
  (runs isLetter line.toList).toFinset.filter fun u => store[String.ofList u]? = none

variable {line : String} {report : Diagnostic} {values : List Value}

theorem supply_of_misses (h : Statement.ofLine store line = .error report)
    (hk : report.kind = .undefinedVariable) :
    supply line store v = store.insert report.detail v := by
  rw [supply, h]
  exact if_pos hk

theorem supply_of_missesNoName (h : MissesNoName store line) : supply line store v = store := by
  unfold supply
  cases hl : Statement.ofLine store line with
  | ok s => rfl
  | error report => exact if_neg (h report hl)

theorem foldl_supply_of_missesNoName (h : MissesNoName store line) :
    values.foldl (supply line) store = store := by
  induction values with
  | nil => rfl
  | cons v values ih => rw [List.foldl_cons, supply_of_missesNoName h, ih]

/-- The name that is missed is an unset run of the line. -/
theorem mem_unset_of_misses (h : Statement.ofLine store line = .error report)
    (hk : report.kind = .undefinedVariable) : report.detail.toList ∈ unset store line := by
  obtain ⟨place, -, hf⟩ := exists_undefined_of_ofLine h hk
  obtain ⟨hnone, hname⟩ := name_of_undefined hf
  rw [unset, Finset.mem_filter, List.mem_toFinset, String.ofList_toList]
  exact ⟨hasName_iff_mem_runs.1 hname, hnone⟩

/-- A name that is supplied is unset no more. -/
theorem card_unset_supply_lt (h : Statement.ofLine store line = .error report)
    (hk : report.kind = .undefinedVariable) (v : Value) :
    (unset (supply line store v) line).card < (unset store line).card := by
  rw [supply_of_misses h hk]
  refine Finset.card_lt_card ((Finset.ssubset_iff_of_subset fun u hu => ?_).2
    ⟨_, mem_unset_of_misses h hk, fun hu => ?_⟩)
  · rw [unset, Finset.mem_filter, Store.getElem?_insert] at hu
    rw [unset, Finset.mem_filter]
    split at hu
    · cases hu.2
    · exact hu
  · rw [unset, Finset.mem_filter, String.ofList_toList, Store.getElem?_insert, if_pos rfl] at hu
    cases hu.2

/-- As many values as there are unset runs are enough. -/
theorem missesNoName_foldl_supply (hn : (unset store line).card ≤ values.length) :
    MissesNoName (values.foldl (supply line) store) line := by
  induction values generalizing store with
  | nil =>
      intro report h hk
      have hempty : unset store line = ∅ := Finset.card_eq_zero.1 (Nat.le_zero.1 hn)
      exact absurd (hempty ▸ mem_unset_of_misses h hk) (Finset.notMem_empty _)
  | cons v values ih =>
      -- a value that no name is given is left over, and so are all behind it
      by_cases hmiss : MissesNoName store line
      · rwa [foldl_supply_of_missesNoName hmiss]
      · simp only [MissesNoName, not_forall, not_not] at hmiss
        obtain ⟨report, h, hk⟩ := hmiss
        exact ih (Nat.le_of_lt_succ (Nat.lt_of_lt_of_le (card_unset_supply_lt h hk v) hn))

/-- **Supplying.**  A line that is refused for a name is refused behind that name, if at all, once
the name is set.  So wherever one begins, and whatever values are given to the names that are
missed, after as many of them as there are different runs of letters in the line no name is
missed. -/
theorem ofLine_supply (store : Store) (line : String) :
    (∀ report, Statement.ofLine store line = .error report → report.kind = .undefinedVariable →
      ∃ column, report.column = some column ∧ ∀ v report',
        Statement.ofLine (store.insert report.detail v) line = .error report' →
          ∃ column', report'.column = some column' ∧
            column + report.detail.length ≤ column') ∧
    ∀ values : List Value, (runs isLetter line.toList).toFinset.card ≤ values.length →
      ∀ report, Statement.ofLine (values.foldl (supply line) store) line = .error report →
        report.kind ≠ .undefinedVariable := by
  refine ⟨fun report h hk => ?_, fun values hn => ?_⟩
  · obtain ⟨place, hcolumn, hf⟩ := exists_undefined_of_ofLine h hk
    refine ⟨place.column, hcolumn, fun v report' h' => ?_⟩
    obtain ⟨f', hf', rfl⟩ := ofLine_eq_error_iff.1 h'
    exact ⟨f'.place.column, rfl, column_le_of_undefined hf hf'⟩
  · exact missesNoName_foldl_supply (Nat.le_trans (Finset.card_filter_le _ _) hn)

/-- With `x` the other name is missed, behind it; with both none is. -/
theorem ofLine_supply_sum :
    Statement.ofLine ∅ "x + y" = .error ⟨.undefinedVariable, "x", some 0, some "x + y"⟩ ∧
    Statement.ofLine ((∅ : Store).insert "x" 1) "x + y" =
      .error ⟨.undefinedVariable, "y", some 4, some "x + y"⟩ ∧
    0 + "x".length ≤ 4 ∧
    ∀ report, Statement.ofLine ([1, 2].foldl (supply "x + y") ∅) "x + y" = .error report →
      report.kind ≠ .undefinedVariable := by
  have hx : Statement.ofLine ∅ "x + y" =
      .error ⟨.undefinedVariable, "x", some 0, some "x + y"⟩ := rfl
  have hy : Statement.ofLine ((∅ : Store).insert "x" 1) "x + y" =
      .error ⟨.undefinedVariable, "y", some 4, some "x + y"⟩ := rfl
  obtain ⟨hfirst, hall⟩ := ofLine_supply ∅ "x + y"
  obtain ⟨column, hcolumn, hpast⟩ := hfirst _ hx rfl
  obtain ⟨column', hcolumn', hle⟩ := hpast 1 _ hy
  cases hcolumn
  cases hcolumn'
  exact ⟨hx, hy, hle, hall [1, 2] (by decide)⟩

end Calculator
