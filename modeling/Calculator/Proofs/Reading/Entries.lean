import Calculator.Proofs.Reading.Chains

/-!
# Calculator — Proofs — Reading — Entries

The places at which operands are read.  A property of places, and of the room for more parentheses
there, is one of all `Entries` if it is kept on the way from one operand to the next: past an
opening parenthesis, and past an operand and an operator.  What the reader of an atom would do
elsewhere does not matter: atoms that are read alike at all entries make the same expressions
(`Entries.expressionOf_eq`).
-/

namespace Calculator

variable {store store' : Store} {inside inside' : Option (Reader Value)}
  {operand operand' : Reader Value} {precedence room : Nat} {left : Value} {c d : Cursor}

/-! ### Chains -/

/-- A chain goes on alike if its operands are read alike at the places behind its operators. -/
theorem chainFrom_congr {J : Cursor → Prop}
    (next : ∀ {c d e v space op}, J c → operand c = .ok (v, d) → Blanks space →
      d.Passes (space ++ [Operator.symbol op]) e → J e)
    (ho : ∀ c, J c → operand' c = operand c) (bound : List Char)
    (hd : ∀ {space op e}, Blanks space → d.Passes (space ++ [Operator.symbol op]) e → J e) :
    chainFrom precedence operand' bound left d = chainFrom precedence operand bound left d := by
  induction bound generalizing left d with
  | nil => rfl
  | cons x bound ih =>
      obtain ⟨space, e, hp, hs, hb⟩ := d.exists_blanks
      simp only [chainFrom, Cursor.skipBlanks_eq hp hs hb]
      cases hop : operatorAt? precedence e with
      | none => rfl
      | some opf =>
          obtain ⟨op, f⟩ := opf
          have hf : J f := hd hs (hp.trans (operatorAt?_eq_some_iff.1 hop).2)
          simp only [ho f hf]
          cases hr : operand f with
          | error fault => rfl
          | ok rg =>
              obtain ⟨right, g⟩ := rg
              cases ha : op.apply left right with
              | error cause => simp [ha, bind, Except.bind]
              | ok value =>
                  simpa [ha, bind, Except.bind] using ih fun hs hp => next hf hr hs hp

theorem chain_congr {J : Cursor → Prop}
    (next : ∀ {c d e v space op}, J c → operand c = .ok (v, d) → Blanks space →
      d.Passes (space ++ [Operator.symbol op]) e → J e)
    (ho : ∀ c, J c → operand' c = operand c) (hc : J c) :
    chain precedence operand' c = chain precedence operand c := by
  rw [chain, chain, ho c hc]
  cases hr : operand c with
  | error fault => rfl
  | ok vd => exact chainFrom_congr next ho _ fun hs hp => next hc hr hs hp

/-! ### Atoms -/

/-- An atom depends on the value of the name that comes next, if one does, and on what is read
behind an opening parenthesis. -/
theorem atomWith_congr
    (hv : ∀ {space letters d e}, Blanks space → IsName letters → c.Passes space d →
      d.Passes letters e → Stops isLetter e.after →
      store'[String.ofList letters]? = store[String.ofList letters]?)
    (hi : ∀ {space d}, Blanks space → c.Passes (space ++ ['(']) d →
      inside'.map (· d) = inside.map (· d)) :
    atomWith store' inside' c = atomWith store inside c := by
  obtain ⟨space, d, hp, hs, hb⟩ := c.exists_blanks
  cases hd : d.after with
  | nil => rw [(AtomRun.ended hs hp hd).eq, (AtomRun.ended hs hp hd).eq]
  | cons x rest =>
      rw [hd, stops_cons_iff] at hb
      obtain ⟨e, he, -⟩ := Cursor.exists_passes (u := [x]) hd
      by_cases hl : isLetter x = true
      · obtain ⟨letters, f, hn, hf, hstop⟩ := Cursor.exists_name hd hl
        rw [atomWith_eq_named hs hn hp hf hstop, atomWith_eq_named hs hn hp hf hstop,
          hv hs hn hp hf hstop]
      rw [atomWith_eq hs hp he hb, atomWith_eq hs hp he hb]
      by_cases hx : x = '('
      · subst hx
        have := hi hs (hp.trans he)
        cases inside <;> cases inside' <;> simp_all [parenthesised]
      · simp [hl, hx]

/-! ### Expressions -/

/-- Of all places where an operand is read the property holds, if it holds of the first. -/
structure Entries (store : Store) (I : Nat → Cursor → Prop) : Prop where
  inside {room : Nat} {c d : Cursor} {space : List Char} : I (room + 1) c → Blanks space →
    c.Passes (space ++ ['(']) d → I room d
  next (precedence : Nat) {room : Nat} {c d e : Cursor} {v : Value} {space : List Char}
    {op : Operator} : I room c → readerAt store room precedence c = .ok (v, d) → Blanks space →
    d.Passes (space ++ [op.symbol]) e → I room e

namespace Entries

variable {I : Nat → Cursor → Prop} {atoms : Nat → Reader Value}

/-- Where the atoms of one depth are read alike, the expressions are. -/
theorem expressionOf_eq_of_atoms (h : Entries store I)
    (ha : ∀ c, I room c → atoms room c = readerAt store room 3 c) (hc : I room c) :
    expressionOf (atoms room) c = readerAt store room 1 c :=
  chain_congr (fun hc hr hs hp => h.next 2 hc hr hs hp)
    (fun _ hc => chain_congr (fun hc hr hs hp => h.next 3 hc hr hs hp) ha hc) hc

/-- Expressions are read alike if their atoms are, at all entries. -/
theorem expressionOf_eq (h : Entries store I)
    (zero : ∀ c, I 0 c → atoms 0 c = atomWith store none c)
    (succ : ∀ n c, I (n + 1) c →
      atoms (n + 1) c = atomWith store (some (expressionOf (atoms n))) c)
    (hc : I room c) : expressionOf (atoms room) c = readerAt store room 1 c := by
  refine h.expressionOf_eq_of_atoms ?_ hc
  clear hc
  induction room with
  | zero => exact zero
  | succ n ih =>
      intro c hc
      rw [succ n c hc, readerAt_succ]
      refine atomWith_congr (fun _ _ _ _ _ => rfl) fun hs hp => ?_
      exact congrArg some (h.expressionOf_eq_of_atoms ih (h.inside hc hs hp))

end Entries

end Calculator
