import Calculator.Proofs.Reading.Lines
import Calculator.Proofs.Reading.Offsets

/-!
# Calculator — Proofs — Reading — ByteReaders

A line can be read with the place kept as a number of bytes.  A `ByteReader` goes on from a
`ByteCursor`; it has no outcome where a text would be cut inside a character, where a step back
would leave the line, where an assignment would begin without its keyword, or where a chain would
take more turns than the line has bytes.

**The readers in bytes** (`ByteReader.ofLine?_eq`).  None of this happens.  Every reader in bytes
ends as the one on texts does (`InBytes`), with as many bytes before the place: also where a name
is not set, and the reader goes back over the bytes of the name (`inBytes_named`).  So in bytes a
line makes the same statement, or the same report, at the column that the bytes come to.
-/

namespace Calculator

/-- How a reading ends whose place is kept in bytes, and where; none if it does not. -/
abbrev ByteReader (line : String) (α : Type) :=
  ByteCursor line → Option (Except Cause α × ByteCursor line)

/-- The literal that a text is, if it is one. -/
def Literal.ofText : List Char → Literal
  | [] => ⟨none, []⟩
  | x :: rest =>
    match Sign.ofChar? x with
    | some sign => ⟨some sign, rest⟩
    | none => ⟨none, x :: rest⟩

namespace ByteReader

open Statement (keyword)

variable {line : String} {α β : Type}

/-! ### The readers -/

/-- Goes on where a reader succeeds. -/
def andThen (r : ByteReader line α) (next : α → ByteReader line β) :
    ByteReader line β := fun b => do
  match ← r b with
  | (.ok a, past) => next a past
  | (.error cause, past) => some (.error cause, past)

def integer : ByteReader line Value := fun b => do
  let (_, past) ← b.skipIf? isSign
  let (_, past) ← past.takeWhile? isDigit
  let text ← past.textFrom? b.position
  let found := Literal.ofText text.toList
  match found.value? with
  | some value => some (.ok value, past)
  | none => some (.error (.malformedInteger found), past)

/-- Reads a name; if it is not set, goes back by as many bytes as it has. -/
def named (store : Store) : ByteReader line Value := fun b => do
  let (name, past) ← b.takeWhile? isLetter
  match store[name]? with
  | some value => some (.ok value, past)
  | none =>
    let first ← past.back? name.utf8ByteSize
    some (.error (.undefinedVariable name), first)

def parenthesised (inside : ByteReader line Value) : ByteReader line Value :=
  inside.andThen fun value past => do
    match ← past.skipIf? (· == ')') with
    | (true, past) => some (.ok value, past)
    | (false, past) => some (.error .expectedCloseParen, past)

def atomWith (store : Store) (inside : Option (ByteReader line Value)) :
    ByteReader line Value := fun b => do
  let (_, b) ← b.takeWhile? isBlank
  match ← b.next? with
  | (none, _) => some (.error .unexpectedEndOfInput, b)
  | (some x, past) =>
    if isDigit x || isSign x then integer b
    else if isLetter x then named store b
    else if x = '(' then
      match inside with
      | some inside => parenthesised inside past
      | none => some (.error .nestingTooDeep, b)
    else some (.error (.unexpectedCharacter x), b)

/-- The operator of a precedence that a character is. -/
def operator? (precedence : Nat) (found : Option Char) : Option Operator := do
  let op ← Operator.ofChar? (← found)
  if op.precedence = precedence then some op else none

/-- Takes no more than `bound` turns. -/
def turns (precedence : Nat) (operand : ByteReader line Value) :
    Nat → Value → ByteReader line Value
  | 0, _, _ => none
  | bound + 1, left, b => do
    let (_, b) ← b.takeWhile? isBlank
    let (found, past) ← b.next?
    match operator? precedence found with
    | none => some (.ok left, b)
    | some op =>
      operand.andThen (fun right past =>
        match op.apply left right with
        | .ok value => turns precedence operand bound value past
        | .error cause => some (.error cause, past)) past

def chain (precedence : Nat) (operand : ByteReader line Value) : ByteReader line Value :=
  operand.andThen (turns precedence operand (line.utf8ByteSize + 1))

def expressionOf (atom : ByteReader line Value) : ByteReader line Value :=
  chain 1 (chain 2 atom)

def atom (store : Store) : Nat → ByteReader line Value
  | 0 => atomWith store none
  | room + 1 => atomWith store (some (expressionOf (atom store room)))

def expression (store : Store) : ByteReader line Value :=
  expressionOf (atom store maxNesting)

/-- Reads an assignment, the keyword included. -/
def assignment (store : Store) : ByteReader line Statement := fun b => do
  match ← b.skipText? (String.ofList keyword) with
  | (false, _) => none
  | (true, b) =>
    let (_, b) ← b.takeWhile? isBlank
    let (name, b) ← b.takeWhile? isLetter
    if name.isEmpty then some (.error .expectedVariable, b)
    else
      let (_, b) ← b.takeWhile? isBlank
      match ← b.skipIf? (· == '=') with
      | (false, b) => some (.error .expectedEquals, b)
      | (true, b) =>
        (expression store).andThen (fun value past => some (.ok (.assignment name value), past)) b

def statement (store : Store) : ByteReader line Statement := fun b => do
  let (_, b) ← b.takeWhile? isBlank
  let rest ← b.rest?
  if rest.startsWith (String.ofList keyword) then assignment store b
  else (expression store).andThen (fun value past => some (.ok (.expression value), past)) b

/-- Reads a statement to the end of the line. -/
def whole (store : Store) : ByteReader line Statement :=
  (statement store).andThen fun statement past =>
    if past.atEnd then some (.ok statement, past) else some (.error .unexpectedInput, past)

/-- The statement that a line makes, or the report of why it makes none, in bytes. -/
def ofLine? (store : Store) (line : String) : Option (Except Diagnostic Statement) := do
  match ← whole store (.start line) with
  | (.ok statement, _) => some (.ok statement)
  | (.error cause, past) =>
    let column ← past.column?
    some (.error ((Diagnostic.ofCause cause).locate column line))

end ByteReader

/-! ### Moves -/

namespace ByteCursor

variable {line : String} {c : Cursor}

theorem takeWhile?_of_takeWhile (p : Char → Bool) (h : c.line = line.toList) :
    (of line c).takeWhile? p = some (String.ofList (c.takeWhile p).1, of line (c.takeWhile p).2) :=
  takeWhile?_of h (Cursor.passes_skipWhile p c) (List.all_eq_true.1 List.all_takeWhile)
    (stops_dropWhile p _)

theorem takeWhile?_of_skipBlanks (h : c.line = line.toList) :
    c.skipBlanks.line = line.toList ∧
      ∃ space, (of line c).takeWhile? isBlank = some (space, of line c.skipBlanks) :=
  ⟨(Cursor.line_skipWhile isBlank c).trans h, _, takeWhile?_of_takeWhile isBlank h⟩

theorem skipIf?_of_some {p : Char → Bool} {d : Cursor} (h : c.line = line.toList)
    (hd : c.skipIf? p = some d) : (of line c).skipIf? p = some (true, of line d) := by
  obtain ⟨x, hx, hp⟩ := Cursor.skipIf?_eq_some_iff.1 hd
  exact skipIf?_of_passes h hp hx

theorem skipIf?_of_none {p : Char → Bool} (h : c.line = line.toList) (hd : c.skipIf? p = none) :
    (of line c).skipIf? p = some (false, of line c) :=
  skipIf?_of_stops h (Cursor.skipIf?_eq_none_iff.1 hd)

/-- What comes next is told also where nothing does. -/
theorem exists_next? (h : c.line = line.toList) :
    ∃ past, (of line c).next? = some (c.after.head?, past) := by
  cases hc : c.after with
  | nil => exact ⟨_, next?_of_nil h hc⟩
  | cons x rest =>
      obtain ⟨d, hp, -⟩ := Cursor.exists_passes (u := [x]) hc
      exact ⟨_, next?_of_passes h hp⟩

end ByteCursor

/-! ### The same outcome -/

open ByteCursor (of)

/-- How a reading ends, with its place in bytes. -/
def Outcome.inBytes {α : Type} (line : String) : Outcome α → Except Cause α × ByteCursor line
  | .ok (a, d) => (.ok a, of line d)
  | .error f => (.error f.cause, of line f.place)

/-- The reader in bytes ends everywhere as the other does. -/
def InBytes {α : Type} (line : String) (r : Reader α) (r' : ByteReader line α) : Prop :=
  ∀ c : Cursor, c.line = line.toList → r' (of line c) = some (Outcome.inBytes line (r c))

variable {line : String} {c d : Cursor} {store : Store} {α β : Type} {r : Reader α}
  {r' : ByteReader line α} {next : α → ByteReader line β}

/-- A reader that succeeds stays in the line. -/
theorem Reader.Forward.line_eq {a : α} (h : r.Forward) (hr : r c = .ok (a, d)) :
    d.line = c.line := by
  obtain ⟨u, hu⟩ := h.ok hr
  exact hu.line

theorem InBytes.andThen_of_ok (h : InBytes line r r') (hc : c.line = line.toList) {a : α}
    (hr : r c = .ok (a, d)) : r'.andThen next (of line c) = next a (of line d) := by
  simp [ByteReader.andThen, h c hc, hr, Outcome.inBytes]

theorem InBytes.andThen_of_error (h : InBytes line r r') (hc : c.line = line.toList) {f : Fault}
    (hr : r c = .error f) :
    r'.andThen next (of line c) = some (.error f.cause, of line f.place) := by
  simp [ByteReader.andThen, h c hc, hr, Outcome.inBytes]

/-! ### Words -/

/-- A name that is not set is left again over as many bytes as it has. -/
theorem inBytes_named (store : Store) :
    InBytes line (named store) (ByteReader.named store) := by
  intro c h
  have hp : c.Passes (c.takeWhile isLetter).1 (c.takeWhile isLetter).2 :=
    Cursor.passes_skipWhile isLetter c
  simp only [ByteReader.named, named, ByteCursor.takeWhile?_of_takeWhile isLetter h,
    Option.bind_eq_bind, Option.bind_some]
  cases store[String.ofList (c.takeWhile isLetter).1]? with
  | some value => rfl
  | none =>
      rw [Text.byteSize_ofList, ByteCursor.back?_of hp, hp.back_eq]
      rfl

theorem Literal.ofText_text {l : Literal} (h : ∀ x ∈ l.digits, isDigit x = true) :
    ofText l.text = l := by
  obtain ⟨_ | s, digits⟩ := l
  · cases digits with
    | nil => rfl
    | cons x rest =>
        have hx := isSign_eq_false_of_isDigit (h x (by simp))
        rw [isSign, Option.isSome_eq_false_iff, Option.isNone_iff_eq_none] at hx
        simp [text, ofText, hx]
  · have hs : Sign.ofChar? s.symbol = some s := Sign.ofChar?_eq_some_iff.2 rfl
    simp [text, ofText, hs]

/-- A literal is read past a sign, if there is one, and past the digits that follow. -/
theorem exists_passes_literal (h : c.line = line.toList) :
    ∃ signed e, (of line c).skipIf? isSign = some (signed, of line e) ∧ e.line = line.toList ∧
      e.takeWhile isDigit = ((literal c).1.digits, (literal c).2) ∧
      c.Passes (literal c).1.text (literal c).2 := by
  cases hs : signAt? c with
  | some found =>
      obtain ⟨s, e⟩ := found
      have hp : c.Passes [s.symbol] e := signAt?_eq_some_iff.1 hs
      refine ⟨true, e, ByteCursor.skipIf?_of_passes h hp (isSign_iff.2 ⟨s, rfl⟩),
        hp.line.trans h, ?_, ?_⟩
      · simp only [literal, hs]
        rfl
      · simp only [literal, hs]
        exact hp.trans (Cursor.passes_skipWhile isDigit e)
  | none =>
      refine ⟨false, c, ByteCursor.skipIf?_of_stops h (signAt?_eq_none_iff.1 hs), h, ?_, ?_⟩
      · simp only [literal, hs]
        rfl
      · simp only [literal, hs]
        exact Cursor.passes_skipWhile isDigit c

theorem inBytes_integer : InBytes line integer ByteReader.integer := by
  intro c h
  obtain ⟨signed, e, hsign, he, hdigits, hp⟩ := exists_passes_literal h
  have hword : ∀ x ∈ (literal c).1.digits, isDigit x = true := by
    rw [← (Prod.mk.inj hdigits).1]
    exact List.all_eq_true.1 List.all_takeWhile
  have htake := ByteCursor.takeWhile?_of_takeWhile isDigit he
  rw [hdigits] at htake
  simp only [ByteReader.integer, integer, hsign, htake, ByteCursor.textFrom?_of_passes h hp,
    Option.bind_eq_bind, Option.bind_some, String.toList_ofList, Literal.ofText_text hword]
  cases (literal c).1.value? with
  | some value => rfl
  | none => rfl

/-! ### Atoms -/

theorem inBytes_parenthesised {inside : Reader Value} {inside' : ByteReader line Value}
    (hf : inside.Forward) (h : InBytes line inside inside') :
    InBytes line (parenthesised inside) (ByteReader.parenthesised inside') := by
  intro c hc
  cases hr : inside c with
  | error f =>
      rw [ByteReader.parenthesised, h.andThen_of_error hc hr, parenthesised, hr]
      rfl
  | ok vd =>
      obtain ⟨v, d⟩ := vd
      have hd : d.line = line.toList := (hf.line_eq hr).trans hc
      rw [ByteReader.parenthesised, h.andThen_of_ok hc hr, parenthesised, hr]
      cases hx : d.skipChar? ')' with
      | none => simp [ByteCursor.skipIf?_of_none hd hx, hx, bind, Except.bind, Outcome.inBytes]
      | some e => simp [ByteCursor.skipIf?_of_some hd hx, hx, bind, Except.bind, Outcome.inBytes]

theorem inBytes_atomWith {inside : Option (Reader Value)}
    {inside' : Option (ByteReader line Value)} (hf : ∀ r, inside = some r → r.Forward)
    (h : Option.Rel (InBytes line) inside inside') :
    InBytes line (atomWith store inside) (ByteReader.atomWith store inside') := by
  intro c hc
  obtain ⟨hd, space, hspace⟩ := ByteCursor.takeWhile?_of_skipBlanks hc
  cases ha : c.skipBlanks.after with
  | nil =>
      have hn : c.skipBlanks.next? = none := by rw [Cursor.next?, ha]
      simp [ByteReader.atomWith, atomWith, hspace, ByteCursor.next?_of_nil hd ha, hn,
        Outcome.inBytes]
  | cons x rest =>
      obtain ⟨d, hp, -⟩ := Cursor.exists_passes (u := [x]) ha
      simp only [ByteReader.atomWith, atomWith, hspace, ByteCursor.next?_of_passes hd hp,
        Cursor.passes_singleton_iff.1 hp, Option.bind_eq_bind, Option.bind_some]
      split
      · exact inBytes_integer _ hd
      split
      · exact inBytes_named store _ hd
      split
      · cases h with
        | none => rfl
        | some h => exact inBytes_parenthesised (hf _ rfl) h _ (hp.line.trans hd)
      · rfl

/-! ### Chains -/

section Chains

variable {precedence : Nat} {operand : Reader Value} {operand' : ByteReader line Value}
  {left : Value} {out : Outcome Value}

theorem operator?_eq_some_iff {found : Option Char} {op : Operator} :
    ByteReader.operator? precedence found = some op ↔
      found = some op.symbol ∧ op.precedence = precedence := by
  simp only [ByteReader.operator?, Option.bind_eq_bind, Option.bind_eq_some_iff,
    Operator.ofChar?_eq_some_iff, Option.ite_none_right_eq_some, Option.some.injEq]
  constructor
  · rintro ⟨x, rfl, op', rfl, ho, rfl⟩
    exact ⟨rfl, ho⟩
  · rintro ⟨rfl, ho⟩
    exact ⟨_, rfl, op, rfl, ho, rfl⟩

theorem operator?_eq_none {found : Option Char}
    (h : ∀ op : Operator, found = some op.symbol → op.precedence ≠ precedence) :
    ByteReader.operator? precedence found = none :=
  Option.eq_none_iff_forall_ne_some.2 fun op hop =>
    have ⟨hfound, ho⟩ := operator?_eq_some_iff.1 hop
    h op hfound ho

theorem turns_of_done {space : List Char} {bound : Nat} (hc : c.line = line.toList)
    (hs : Blanks space) (hp : c.Passes space d) (hb : Stops isBlank d.after)
    (hd : ∀ op : Operator, d.after.head? = some op.symbol → op.precedence ≠ precedence) :
    ByteReader.turns precedence operand' (bound + 1) left (of line c) =
      some (.ok left, of line d) := by
  have hskip := ByteCursor.takeWhile?_of hc hp hs hb
  obtain ⟨past, hnext⟩ := ByteCursor.exists_next? (hp.line.trans hc)
  simp [ByteReader.turns, hskip, hnext, operator?_eq_none hd]

/-- Where an operator of the precedence comes next, its operand is read. -/
theorem turns_of_operator {space : List Char} {op : Operator} {bound : Nat}
    (hc : c.line = line.toList) (hs : Blanks space) (ho : op.precedence = precedence)
    (hp : c.Passes (space ++ [op.symbol]) d) :
    ByteReader.turns precedence operand' (bound + 1) left (of line c) =
      operand'.andThen (fun right past =>
        match op.apply left right with
        | .ok value => ByteReader.turns precedence operand' bound value past
        | .error cause => some (.error cause, past)) (of line d) := by
  obtain ⟨hd, skipped, hskip⟩ := ByteCursor.takeWhile?_of_skipBlanks hc
  have hnext := ByteCursor.next?_of_passes hd (skipBlanks_passes_operator hs hp)
  simp [ByteReader.turns, hskip, hnext, operator?_eq_some_iff.2 ⟨rfl, ho⟩]

/-- The bytes left are turns enough, for each turn takes an operator at least. -/
theorem ChainRun.turns_eq (hf : operand.Forward) (h : InBytes line operand operand')
    (run : ChainRun precedence operand left c out) (hc : c.line = line.toList) {bound : Nat}
    (hbound : Text.byteSize c.after ≤ bound) :
    ByteReader.turns precedence operand' (bound + 1) left (of line c) =
      some (Outcome.inBytes line out) := by
  induction run generalizing bound with
  | done hs hp hb hd => exact turns_of_done hc hs hp hb hd
  | operandFails hs ho hp hr =>
      rw [turns_of_operator hc hs ho hp, h.andThen_of_error (hp.line.trans hc) hr]
      rfl
  | applyFails hs ho hp hr ha =>
      rw [turns_of_operator hc hs ho hp, h.andThen_of_ok (hp.line.trans hc) hr, ha]
      rfl
  | @turn _ _ _ c d e space op _ hs ho hp hr ha next ih =>
      have hd := hp.line.trans hc
      rw [turns_of_operator hc hs ho hp, h.andThen_of_ok hd hr, ha]
      obtain ⟨u, hu⟩ := hf.ok hr
      have hlt : Text.byteSize e.after < Text.byteSize c.after := by
        have := op.symbol.utf8Size_pos
        rw [hp.1, hu.1]
        simp only [Text.byteSize_append, Text.byteSize_cons]
        omega
      obtain ⟨bound, rfl⟩ := Nat.exists_eq_succ_of_ne_zero (show bound ≠ 0 by omega)
      exact ih (hu.line.trans hd) (by omega)

theorem inBytes_chain (precedence : Nat) (hf : operand.Forward)
    (h : InBytes line operand operand') :
    InBytes line (chain precedence operand) (ByteReader.chain precedence operand') := by
  intro c hc
  rcases chain_cases precedence hf c with ⟨f, hr, hchain⟩ | ⟨first, d, hr, run⟩
  · rw [ByteReader.chain, h.andThen_of_error hc hr, hchain]
    rfl
  · have hd : d.line = line.toList := (hf.line_eq hr).trans hc
    rw [ByteReader.chain, h.andThen_of_ok hc hr]
    refine run.turns_eq hf h hd ?_
    rw [← Text.byteSize_toList, ← hd, Cursor.line, Text.byteSize_append]
    exact Nat.le_add_left _ _

end Chains

/-! ### Expressions -/

theorem inBytes_expressionOf {atom : Reader Value} {atom' : ByteReader line Value}
    (hf : atom.Forward) (h : InBytes line atom atom') :
    InBytes line (expressionOf atom) (ByteReader.expressionOf atom') :=
  inBytes_chain 1 (forward_chain 2 hf) (inBytes_chain 2 hf h)

theorem inBytes_atom (store : Store) (room : Nat) :
    InBytes line (atom store room) (ByteReader.atom store room) := by
  induction room with
  | zero => exact inBytes_atomWith (by simp) .none
  | succ room ih =>
      have hf : (atom store room).Forward := forward_readerAt store room 3
      exact inBytes_atomWith (fun r hr => Option.some.inj hr ▸ forward_readerAt store room 1)
        (.some (inBytes_expressionOf hf ih))

theorem inBytes_expression (store : Store) :
    InBytes line (expression store) (ByteReader.expression store) :=
  inBytes_expressionOf (forward_readerAt store maxNesting 3) (inBytes_atom store maxNesting)

/-! ### Statements -/

/-- What is made of the value asks no more of the line. -/
theorem InBytes.andThen_pure (h : InBytes line r r') {γ : Type} (f : α → γ) :
    InBytes line
      (fun c => do
        let (a, past) ← r c
        .ok (f a, past))
      (r'.andThen fun a past => some (.ok (f a), past)) := by
  intro c hc
  cases hr : r c with
  | error e =>
      rw [h.andThen_of_error hc hr]
      simp only [hr]
      rfl
  | ok ad =>
      rw [h.andThen_of_ok hc hr]
      simp only [hr]
      rfl

theorem isEmpty_ofList (letters : List Char) :
    (String.ofList letters).isEmpty = letters.isEmpty :=
  Bool.eq_iff_iff.2 (by simp)

theorem assignment_of_keyword (hc : c.line = line.toList) (hp : c.Passes Statement.keyword d) :
    ByteReader.assignment store (of line c) =
      some (Outcome.inBytes line (Statement.readAssignment store d)) := by
  have hkey : (of line c).skipText? (String.ofList Statement.keyword) = some (true, of line d) :=
    ByteCursor.skipText?_of_passes hc (String.toList_ofList ▸ hp)
  obtain ⟨hblank, space, hspace⟩ := ByteCursor.takeWhile?_of_skipBlanks (hp.line.trans hc)
  have hname := ByteCursor.takeWhile?_of_takeWhile isLetter hblank
  have hline : (d.skipBlanks.takeWhile isLetter).2.line = line.toList :=
    (Cursor.line_skipWhile isLetter _).trans hblank
  generalize hletters : d.skipBlanks.takeWhile isLetter = taken at hname hline
  obtain ⟨letters, e⟩ := taken
  obtain ⟨hblank', space', hspace'⟩ := ByteCursor.takeWhile?_of_skipBlanks hline
  simp only [ByteReader.assignment, Statement.readAssignment, hkey, hspace, hletters, hname,
    Option.bind_eq_bind, Option.bind_some, isEmpty_ofList]
  by_cases hempty : letters.isEmpty = true
  · rw [if_pos hempty, if_pos hempty]
    rfl
  · rw [if_neg hempty, if_neg hempty, hspace']
    cases hx : e.skipBlanks.skipChar? '=' with
    | none =>
        simp only [ByteCursor.skipIf?_of_none hblank' hx, Option.bind_some]
        rfl
    | some past =>
        simp only [ByteCursor.skipIf?_of_some hblank' hx, Option.bind_some]
        exact (inBytes_expression store).andThen_pure (Statement.assignment _) past
          ((Cursor.line_skipIf? hx).trans hblank')

theorem inBytes_statement (store : Store) :
    InBytes line (Statement.read store) (ByteReader.statement store) := by
  intro c hc
  obtain ⟨hblank, space, hspace⟩ := ByteCursor.takeWhile?_of_skipBlanks hc
  simp only [ByteReader.statement, Statement.read, hspace, ByteCursor.rest?_of hblank,
    Option.bind_eq_bind, Option.bind_some]
  cases hkey : c.skipBlanks.skipText? Statement.keyword with
  | none =>
      have hnone : ¬ (String.ofList c.skipBlanks.after).startsWith
          (String.ofList Statement.keyword) = true := by
        rw [ByteCursor.startsWith_after_iff, String.toList_ofList]
        exact Cursor.skipText?_eq_none_iff.1 hkey
      rw [if_neg hnone]
      exact (inBytes_expression store).andThen_pure Statement.expression _ hblank
  | some d =>
      have hp := Cursor.passes_text_iff.2 hkey
      have hsome : (String.ofList c.skipBlanks.after).startsWith
          (String.ofList Statement.keyword) = true := by
        rw [ByteCursor.startsWith_after_iff, String.toList_ofList]
        exact ⟨d.after, hp.1.symm⟩
      rw [if_pos hsome]
      exact assignment_of_keyword hblank hp

/-- **The line in bytes.**  With its place kept as a number of bytes every line is read to an outcome,
whatever the store, and makes the same statement or the same report. -/
theorem ByteReader.ofLine?_eq (store : Store) (line : String) :
    ofLine? store line = some (Statement.ofLine store line) := by
  have h : InBytes line (Statement.read store) (statement store) := inBytes_statement store
  have hstart := Cursor.line_start line.toList
  have hof : ByteCursor.start line = of line (.start line.toList) := rfl
  rw [Statement.ofLine, Statement.ofChars, ofLine?, whole, hof]
  cases hr : Statement.read store (.start line.toList) with
  | error f =>
      obtain ⟨u, hu⟩ := (forward_read store).error hr
      rw [h.andThen_of_error hstart hr]
      simp only [Option.bind_eq_bind, Option.bind_some, ByteCursor.column?_of hu.line]
      rfl
  | ok sd =>
      obtain ⟨s, d⟩ := sd
      have hd : d.line = line.toList := ((forward_read store).line_eq hr).trans hstart
      have hend : (of line d).atEnd = d.atEnd := by
        rw [ByteCursor.atEnd_of hd, Bool.eq_iff_iff, decide_eq_true_iff, Cursor.atEnd_iff]
      rw [h.andThen_of_ok hstart hr, hend]
      change _ = some (Except.mapError (Fault.diagnostic line)
        (if d.atEnd then .ok s else .error ⟨.unexpectedInput, d⟩))
      cases d.atEnd with
      | true => rfl
      | false =>
          simp only [Option.bind_eq_bind, Option.bind_some, ByteCursor.column?_of hd,
            Bool.false_eq_true, if_false]
          rfl

end Calculator
