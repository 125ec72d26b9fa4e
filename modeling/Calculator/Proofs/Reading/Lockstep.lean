import Calculator.Proofs.Reading.Chains

/-!
# Calculator — Proofs — Reading — Lockstep

Two expressions read side by side.  A relation of places is a `Lockstep` of two stores if reading
keeps it: from related places the same comes next once the blanks are passed over, each word and
each sign that is passed over on one side can be passed over on the other, up to related places
again, and a name is worth the same on both sides.  The readers of an expression then end alike,
with the same value or for the same cause, at related places (`Lockstep.expression`).  The proof
runs both readers rule by rule (`AtomRun.lockstep`, `ChainRun.lockstep`).

What a reader of a chain leaves begins with no blank (`settles_chain`), so that the character there
is the same on both sides.
-/

namespace Calculator

/-! ### The relation -/

/-- Two readings that end with the same value or for the same cause, at related places. -/
inductive EndsAlike {α : Type} (R : Cursor → Cursor → Prop) : Outcome α → Outcome α → Prop where
  | ok {a : α} {d d' : Cursor} (h : R d d') : EndsAlike R (.ok (a, d)) (.ok (a, d'))
  | error {cause : Cause} {d d' : Cursor} (h : R d d') :
      EndsAlike R (.error ⟨cause, d⟩) (.error ⟨cause, d'⟩)

/-- Reading with the one store from one place, and with the other from the other, keeps the places
related. -/
structure Lockstep (store store' : Store) (R : Cursor → Cursor → Prop) : Prop where
  blanks {c c' : Cursor} : R c c' → R c.skipBlanks c'.skipBlanks
  head? {d d' : Cursor} : R d d' → Stops isBlank d.after → Stops isBlank d'.after →
    d'.after.head? = d.after.head?
  symbol {d d' e e' : Cursor} {x : Char} : R d d' → x ∈ punctuation → d.Passes [x] e →
    d'.Passes [x] e' → R e e'
  literal {d d' e : Cursor} {l : Literal} : R d d' → Stops isBlank d'.after → l.IsWord →
    d.Passes l.text e → Stops isDigit e.after →
    ∃ e', d'.Passes l.text e' ∧ Stops isDigit e'.after ∧ R e e'
  name {d d' e : Cursor} {letters : List Char} : R d d' → Stops isBlank d'.after →
    IsName letters → d.Passes letters e → Stops isLetter e.after →
    store'[String.ofList letters]? = store[String.ofList letters]? ∧
      ∃ e', d'.Passes letters e' ∧ Stops isLetter e'.after ∧ R e e'

variable {store store' : Store} {R : Cursor → Cursor → Prop} {inside inside' : Option (Reader Value)}
  {operand operand' : Reader Value} {precedence : Nat} {left v : Value} {c c' d d' e : Cursor}
  {space : List Char} {f : Fault} {out : Outcome Value}

theorem EndsAlike.of_ok {α : Type} {a : α} {out : Outcome α} (h : EndsAlike R (.ok (a, d)) out) :
    ∃ d', out = .ok (a, d') ∧ R d d' := by
  cases h with
  | ok h => exact ⟨_, rfl, h⟩

theorem EndsAlike.of_error {α : Type} {out : Outcome α} (h : EndsAlike R (.error f) out) :
    ∃ place, out = .error ⟨f.cause, place⟩ ∧ R f.place place := by
  cases h with
  | error h => exact ⟨_, rfl, h⟩

/-! ### No blank is left -/

/-- What the reader leaves begins with no blank. -/
def Reader.Settles (r : Reader Value) : Prop :=
  ∀ c v d, r c = .ok (v, d) → Stops isBlank d.after

theorem ChainRun.settles (h : ChainRun precedence operand left c out) (hout : out = .ok (v, d)) :
    Stops isBlank d.after := by
  induction h with
  | done _ _ hb _ =>
      cases hout
      exact hb
  | operandFails | applyFails => cases hout
  | turn _ _ _ _ _ _ ih => exact ih hout

theorem settles_chain (precedence : Nat) (hf : operand.Forward) :
    (chain precedence operand).Settles := by
  intro c v d h
  rcases chain_cases precedence hf c with ⟨_, _, hc⟩ | ⟨_, _, _, hc⟩
  · cases hc.symm.trans h
  · exact hc.settles h

theorem settles_readerAt (store : Store) (room : Nat) : (readerAt store room 1).Settles :=
  settles_chain 1 (forward_readerAt store room 2)

/-! ### Blanks, words and signs -/

namespace Lockstep

/-- Behind the blanks the same comes next. -/
theorem settle (hR : Lockstep store store' R) (hc : R c c') (hs : Blanks space)
    (hp : c.Passes space d) (hd : Stops isBlank d.after) :
    ∃ space' d', Blanks space' ∧ c'.Passes space' d' ∧ Stops isBlank d'.after ∧ R d d' ∧
      d'.after.head? = d.after.head? := by
  obtain ⟨space', d', hp', hs', hd'⟩ := c'.exists_blanks
  have h := hR.blanks hc
  rw [Cursor.skipBlanks_eq hp hs hd, Cursor.skipBlanks_eq hp' hs' hd'] at h
  exact ⟨space', d', hs', hp', hd', h, hR.head? h hd hd'⟩

theorem passes_symbol (hR : Lockstep store store' R) {x : Char} (hc : R c c') (hs : Blanks space)
    (hx : x ∈ punctuation) (hp : c.Passes (space ++ [x]) e) :
    ∃ space' e', Blanks space' ∧ c'.Passes (space' ++ [x]) e' ∧ R e e' := by
  obtain ⟨d, hp, hd⟩ := hp.split
  have hb : Stops isBlank d.after :=
    hd.1 ▸ stops_cons_iff.2 (isBlank_eq_false_of_mem_punctuation _ hx)
  obtain ⟨space', d', hs', hp', -, h, hnext⟩ := hR.settle hc hs hp hb
  obtain ⟨e', he'⟩ := Cursor.exists_passes_next hnext hd
  exact ⟨space', e', hs', hp'.trans he', hR.symbol h hx hd he'⟩

theorem passes_literal (hR : Lockstep store store' R) {l : Literal} (hc : R c c')
    (hs : Blanks space) (hl : l.IsWord) (hp : c.Passes (space ++ l.text) e)
    (he : Stops isDigit e.after) :
    ∃ space' e', Blanks space' ∧ c'.Passes (space' ++ l.text) e' ∧ Stops isDigit e'.after ∧
      R e e' := by
  obtain ⟨d, hp, hd⟩ := hp.split
  obtain ⟨space', d', hs', hp', hb', h, -⟩ := hR.settle hc hs hp (hd.1 ▸ hl.stops_isBlank _)
  obtain ⟨e', he', hstop, h⟩ := hR.literal h hb' hl hd he
  exact ⟨space', e', hs', hp'.trans he', hstop, h⟩

theorem passes_name (hR : Lockstep store store' R) {letters : List Char} (hc : R c c')
    (hs : Blanks space) (hn : IsName letters) (hp : c.Passes space d) (hd : d.Passes letters e)
    (he : Stops isLetter e.after) :
    store'[String.ofList letters]? = store[String.ofList letters]? ∧
      ∃ space' d' e', Blanks space' ∧ c'.Passes space' d' ∧ d'.Passes letters e' ∧
        Stops isLetter e'.after ∧ R d d' ∧ R e e' := by
  obtain ⟨space', d', hs', hp', hb', h, -⟩ := hR.settle hc hs hp (hd.1 ▸ hn.stops_isBlank _)
  obtain ⟨hv, e', he', hstop, h'⟩ := hR.name h hb' hn hd he
  exact ⟨hv, space', d', e', hs', hp', he', hstop, h, h'⟩

end Lockstep

/-! ### Readers -/

/-- An atom is read alike from related places, if what is in parentheses is. -/
theorem AtomRun.lockstep (hR : Lockstep store store' R) (h : AtomRun store inside c out)
    (hnone : inside = none → inside' = none)
    (hsome : ∀ r, inside = some r → ∃ r', inside' = some r' ∧ r.Settles ∧ r'.Settles ∧
      ∀ c c', R c c' → EndsAlike R (r c) (r' c'))
    (hc : R c c') : ∃ out', AtomRun store' inside' c' out' ∧ EndsAlike R out out' := by
  cases h with
  | ended hs hp hd =>
      obtain ⟨_, d', hs', hp', -, h, hnext⟩ := hR.settle hc hs hp (by simp [hd])
      rw [hd, List.head?_nil, List.head?_eq_none_iff] at hnext
      exact ⟨_, .ended hs' hp' hnext, .error h⟩
  | literal hs hl hp hd hv =>
      obtain ⟨_, _, hs', hp', hd', h⟩ := hR.passes_literal hc hs hl hp hd
      exact ⟨_, .literal hs' hl hp' hd' hv, .ok h⟩
  | malformed hs hl hp hd hv =>
      obtain ⟨_, _, hs', hp', hd', h⟩ := hR.passes_literal hc hs hl hp hd
      exact ⟨_, .malformed hs' hl hp' hd' hv, .error h⟩
  | name hs hn hp hd hv =>
      obtain ⟨d, hp, hn'⟩ := hp.split
      obtain ⟨hv', _, _, _, hs', hp', he', hd', -, h⟩ := hR.passes_name hc hs hn hp hn' hd
      exact ⟨_, .name hs' hn (hp'.trans he') hd' (hv'.trans hv), .ok h⟩
  | undefined hs hn hp he hd hv =>
      obtain ⟨hv', _, _, _, hs', hp', he', hd', h, -⟩ := hR.passes_name hc hs hn hp he hd
      exact ⟨_, .undefined hs' hn hp' he' hd' (hv'.trans hv), .error h⟩
  | tooDeep hs hp he hi =>
      obtain ⟨_, d', hs', hp', -, h, hnext⟩ := hR.settle hc hs hp
        (he.1 ▸ stops_cons_iff.2 (by decide))
      obtain ⟨e', he'⟩ := Cursor.exists_passes_next hnext he
      exact ⟨_, .tooDeep hs' hp' he' (hnone hi), .error h⟩
  | insideFails hs hp hi hr =>
      obtain ⟨r', hi', -, -, hrr⟩ := hsome _ hi
      obtain ⟨_, d', hs', hp', h⟩ := hR.passes_symbol hc hs (by decide) hp
      obtain ⟨place, hr', h⟩ := (hr ▸ hrr _ _ h).of_error
      exact ⟨_, .insideFails hs' hp' hi' hr', .error h⟩
  | unclosed hs hp hi hr he =>
      obtain ⟨r', hi', hset, hset', hrr⟩ := hsome _ hi
      obtain ⟨_, d', hs', hp', h⟩ := hR.passes_symbol hc hs (by decide) hp
      obtain ⟨e', hr', h⟩ := (hr ▸ hrr _ _ h).of_ok
      rw [← hR.head? h (hset _ _ _ hr) (hset' _ _ _ hr')] at he
      exact ⟨_, .unclosed hs' hp' hi' hr' he, .error h⟩
  | group hs hp hi hr he =>
      obtain ⟨r', hi', hset, hset', hrr⟩ := hsome _ hi
      obtain ⟨_, d', hs', hp', h⟩ := hR.passes_symbol hc hs (by decide) hp
      obtain ⟨e', hr', h⟩ := (hr ▸ hrr _ _ h).of_ok
      obtain ⟨_, hne⟩ := Cursor.exists_passes_next (hR.head? h (hset _ _ _ hr) (hset' _ _ _ hr')) he
      exact ⟨_, .group hs' hp' hi' hr' hne, .ok (hR.symbol h (by decide) he hne)⟩
  | unexpected hs hp he hb hx =>
      obtain ⟨_, d', hs', hp', -, h, hnext⟩ := hR.settle hc hs hp (he.1 ▸ stops_cons_iff.2 hb)
      obtain ⟨e', he'⟩ := Cursor.exists_passes_next hnext he
      exact ⟨_, .unexpected hs' hp' he' hb hx, .error h⟩

theorem lockstep_atomWith (hR : Lockstep store store' R) (hnone : inside = none → inside' = none)
    (hsome : ∀ r, inside = some r → ∃ r', inside' = some r' ∧ r.Settles ∧ r'.Settles ∧
      ∀ c c', R c c' → EndsAlike R (r c) (r' c'))
    (hc : R c c') : EndsAlike R (atomWith store inside c) (atomWith store' inside' c') := by
  obtain ⟨out', h', hout⟩ := (atomRun_iff.2 rfl).lockstep hR hnone hsome hc
  rwa [h'.eq]

/-- A chain goes on alike from related places, if its operands are read alike. -/
theorem ChainRun.lockstep (hR : Lockstep store store' R)
    (ho : ∀ c c', R c c' → EndsAlike R (operand c) (operand' c'))
    (h : ChainRun precedence operand left c out) (hc : R c c') :
    ∃ out', ChainRun precedence operand' left c' out' ∧ EndsAlike R out out' := by
  induction h generalizing c' with
  | done hs hp hb hd =>
      obtain ⟨_, d', hs', hp', hb', h, hnext⟩ := hR.settle hc hs hp hb
      exact ⟨_, .done hs' hp' hb' (hnext ▸ hd), .ok h⟩
  | @operandFails _ _ _ _ op _ hs hop hp hr =>
      obtain ⟨_, d', hs', hp', h⟩ := hR.passes_symbol hc hs op.symbol_mem_punctuation hp
      obtain ⟨place, hr', h⟩ := (hr ▸ ho _ _ h).of_error
      exact ⟨_, .operandFails hs' hop hp' hr', .error h⟩
  | @applyFails _ _ _ _ _ _ op _ hs hop hp hr ha =>
      obtain ⟨_, d', hs', hp', h⟩ := hR.passes_symbol hc hs op.symbol_mem_punctuation hp
      obtain ⟨e', hr', h⟩ := (hr ▸ ho _ _ h).of_ok
      exact ⟨_, .applyFails hs' hop hp' hr' ha, .error h⟩
  | @turn _ _ _ _ _ _ _ op _ hs hop hp hr ha next ih =>
      obtain ⟨_, d', hs', hp', h⟩ := hR.passes_symbol hc hs op.symbol_mem_punctuation hp
      obtain ⟨e', hr', h⟩ := (hr ▸ ho _ _ h).of_ok
      obtain ⟨out', next', hout⟩ := ih h
      exact ⟨out', .turn hs' hop hp' hr' ha next', hout⟩

theorem lockstep_chain (hR : Lockstep store store' R) (hf : operand.Forward)
    (hf' : operand'.Forward) (ho : ∀ c c', R c c' → EndsAlike R (operand c) (operand' c'))
    (hc : R c c') : EndsAlike R (chain precedence operand c) (chain precedence operand' c') := by
  rcases chain_cases precedence hf c with ⟨f, hr, h⟩ | ⟨first, d, hr, h⟩
  · obtain ⟨place, hr', hplace⟩ := (hr ▸ ho _ _ hc).of_error
    rw [h, chain_eq_error hr']
    exact .error hplace
  · obtain ⟨d', hr', hd⟩ := (hr ▸ ho _ _ hc).of_ok
    obtain ⟨out', h', hout⟩ := h.lockstep hR ho hd
    rwa [h'.chain_eq hf' hr']

/-- From related places expressions are read alike. -/
theorem Lockstep.expression (hR : Lockstep store store' R) (hc : R c c') :
    EndsAlike R (Calculator.expression store c) (Calculator.expression store' c') := by
  refine (reader_induction store (P := fun p n r => (p < 3 → r.Settles) ∧
    ∀ c c', R c c' → EndsAlike R (r c) (readerAt store' n p c')) ?atom ?chain
    maxNesting).2.2.2 c c' hc
  case atom =>
    intro room inside hnone hsome
    refine ⟨fun h => absurd h (by decide), fun c c' hc => ?_⟩
    cases inside with
    | none =>
        obtain rfl := hnone rfl
        exact lockstep_atomWith hR (fun _ => rfl) (fun _ hr => nomatch hr) hc
    | some r =>
        obtain ⟨n, rfl, -, hset, hr⟩ := hsome r rfl
        rw [readerAt_succ]
        refine lockstep_atomWith hR (fun h => by cases h) (fun r' hr' => ?_) hc
        cases hr'
        exact ⟨_, rfl, hset (by decide), settles_readerAt store' n, hr⟩
  case chain =>
    intro precedence room r hp hf h
    refine ⟨fun _ => settles_chain precedence hf, fun c c' hc => ?_⟩
    rw [readerAt_eq_chain store' room hp]
    exact lockstep_chain hR hf (forward_readerAt _ _ _) h.2 hc

end Calculator
