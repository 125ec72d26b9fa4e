import Calculator.Proofs.Reading.Chains

/-!
# Calculator — Proofs — Reading — Endings

Where a reader that succeeds comes to a stop (`Ends`).  An atom ends with the last character of a
word or with a parenthesis, so no blank is right before the place.  A chain has passed over the
blanks behind its last operand, and what comes next is no operator that it could have gone on with;
nor is it one that binds more tightly, for then the last operand had gone on with it
(`ChainRun.ends`).
-/

namespace Calculator

/-- The place is one where an operand of the precedence may end. -/
structure Ends (precedence : Nat) (d : Cursor) : Prop where
  operators : ∀ op : Operator, (d.after.dropWhile isBlank).head? = some op.symbol →
    op.precedence < precedence
  /-- A chain passes over the blanks behind its last operand. -/
  settled : precedence < 3 → Stops isBlank d.after
  /-- An atom has no blanks behind it. -/
  tight : precedence = 3 → Stops isBlank d.before

/-- The reader stops only where an operand of the precedence may end. -/
def Reader.Ending (precedence : Nat) (r : Reader Value) : Prop :=
  ∀ c v d, r c = .ok (v, d) → Ends precedence d

variable {store : Store} {precedence room : Nat} {c d e : Cursor} {v : Value} {space u : List Char}

/-! ### What an ending tells -/

/-- Where an expression ends no operator comes next. -/
theorem Ends.head?_ne_symbol (h : Ends 1 d) (op : Operator) : d.after.head? ≠ some op.symbol := by
  intro ho
  rw [← (h.settled (by decide)).dropWhile_eq] at ho
  exact absurd (h.operators op ho) (Nat.not_lt.2 op.one_le_precedence)

/-- A text that is passed over ends with one of its characters. -/
theorem Cursor.Passes.exists_last (hp : c.Passes (space ++ u) d) (hu : u ≠ []) :
    ∃ x ∈ u, ∃ rest, d.before = x :: rest := by
  obtain ⟨x, rest, hx⟩ := List.exists_cons_of_ne_nil (mt List.reverse_eq_nil_iff.1 hu)
  refine ⟨x, List.mem_reverse.1 (hx ▸ List.mem_cons_self), rest ++ (space.reverse ++ c.before), ?_⟩
  rw [hp.2, List.reverse_append, List.append_assoc, hx, List.cons_append]

/-- The text of an atom does not end in blanks. -/
theorem Ends.eq_nil (h : Ends 3 d) (hs : Blanks space) (hp : c.Passes (u ++ space) d) :
    space = [] := by
  refine Decidable.byContradiction fun hne => ?_
  obtain ⟨x, hx, rest, hrest⟩ := hp.exists_last hne
  have ht := h.tight rfl
  rw [hrest, stops_cons_iff, hs x hx] at ht
  cases ht

/-! ### Atoms -/

/-- Behind a text without blanks an atom may end. -/
theorem ends_of_text (hne : u ≠ []) (hu : ∀ x ∈ u, isBlank x = false)
    (hp : c.Passes (space ++ u) d) : Ends 3 d where
  operators := fun op _ => op.precedence_lt_three
  settled := fun h => absurd h (Nat.lt_irrefl 3)
  tight := fun _ => by
    obtain ⟨x, hx, rest, hrest⟩ := hp.exists_last hne
    rw [hrest, stops_cons_iff]
    exact hu x hx

theorem AtomRun.ends {inside : Option (Reader Value)} (h : AtomRun store inside c (.ok (v, d))) :
    Ends 3 d := by
  cases h with
  | @literal _ l _ _ _ hl hp _ _ =>
      obtain ⟨x, rest, hx, -⟩ := hl.exists_head
      exact ends_of_text (hx ▸ List.cons_ne_nil x rest) (fun _ => hl.isBlank_eq_false) hp
  | name _ hn hp _ _ =>
      exact ends_of_text hn.1 (fun x hx => isBlank_eq_false_of_isLetter (hn.2 x hx)) hp
  | group _ _ _ _ he =>
      exact ends_of_text (List.cons_ne_nil _ _) (List.forall_mem_singleton.2 (by decide))
        ((Cursor.Passes.refl _).trans he)

theorem ending_atomWith (inside : Option (Reader Value)) :
    Reader.Ending 3 (atomWith store inside) :=
  fun _ _ _ h => (atomRun_iff.2 h).ends

/-! ### Chains -/

/-- A chain ends where no operand of it goes on, and no operator of its own comes next. -/
theorem ChainRun.ends {operand : Reader Value} {left : Value} {out : Outcome Value}
    (h : ChainRun precedence operand left c out) (hp : precedence < 3)
    (ho : operand.Ending (precedence + 1)) (hc : Ends (precedence + 1) c)
    (hout : out = .ok (v, d)) : Ends precedence d := by
  induction h with
  | @done _ c d space hs hpass hb hd =>
      cases hout
      refine ⟨fun op hop => ?_, fun _ => hb, fun h => absurd h (Nat.ne_of_lt hp)⟩
      -- the operand before would have gone on with an operator that binds more tightly
      have hlt : op.precedence < precedence + 1 := hc.operators op (by
        rwa [hpass.1, List.dropWhile_append_of_pos hs])
      rw [hb.dropWhile_eq] at hop
      exact Nat.lt_of_le_of_ne (Nat.le_of_lt_succ hlt) (hd op hop)
  | operandFails | applyFails => cases hout
  | turn _ _ _ hr _ _ ih => exact ih (ho _ _ _ hr) hout

theorem ending_chain {operand : Reader Value} (hp : precedence < 3) (hf : operand.Forward)
    (ho : operand.Ending (precedence + 1)) :
    Reader.Ending precedence (chain precedence operand) := by
  intro c v d h
  rcases chain_cases precedence hf c with ⟨_, hr, hc⟩ | ⟨first, e, hr, hc⟩
  · rw [hc] at h
    cases h
  · exact (h ▸ hc).ends hp ho (ho _ _ _ hr) rfl

theorem ending_readerAt_of_level (store : Store) (room : Nat)
    (hp : precedence = 1 ∨ precedence = 2 ∨ precedence = 3) :
    (readerAt store room precedence).Ending precedence :=
  of_levels (P := fun p _ r => r.Ending p)
    (reader_induction store (fun _ _ => ending_atomWith _)
      (fun hp hf ho => ending_chain (by omega) hf ho) room) hp

theorem ending_readerAt (store : Store) (room : Nat) : (readerAt store room 1).Ending 1 :=
  ending_readerAt_of_level store room (.inl rfl)

end Calculator
