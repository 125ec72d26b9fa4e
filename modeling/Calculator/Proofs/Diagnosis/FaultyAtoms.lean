import Calculator.Proofs.Reading.Calls
import Calculator.Proofs.Reading.Entries
import Calculator.Proofs.Reading.Lines

/-!
# Calculator — Proofs — Diagnosis — Faulty atoms

Where a line has its atoms can be seen from outside: put a fault in one place, and the line fails
with it if an atom is read there.  `Line.ReadsAtomAt` says so of a place and of the number of
parentheses that are open, and `Line.CallsAtomAt` says that a call for an atom is made there.

A reader with a fault put in does what it does without, or fails with that fault
(`falters_operandOf`).  So all calls on the way to the place are made as before, and from the place
the fault is handed back through them (`Made.expressionOf_eq_error`): the reader comes to an atom
wherever a call for one is made (`Made.readsAtomAt`).
-/

namespace Calculator

/-! ### Places of atoms -/

/-- Reads an atom as `atom` does, but fails where one is to be read at `place` with `depth`
parentheses open. -/
def faultyAtom (store : Store) (depth : Nat) (place : Cursor) (fault : Fault) : Nat → Reader Value
  | 0 => fun c =>
    if depth = maxNesting ∧ c = place then .error fault else atomWith store none c
  | room + 1 => fun c =>
    if depth + (room + 1) = maxNesting ∧ c = place then .error fault
    else atomWith store (some (expressionOf (faultyAtom store depth place fault room))) c

/-- While the line is read, an atom is to be read at the place with `depth` parentheses open: a
fault put there shows. -/
def Line.ReadsAtomAt (store : Store) (line : List Char) (depth : Nat) (place : Cursor) : Prop :=
  ∃ target start fault, TargetRun (.start line) (.ok (target, start)) ∧
    expressionOf (faultyAtom store depth place fault maxNesting) start ≠
      Calculator.expression store start

/-- While the line is read, a call for an atom is made at the place with `depth` parentheses
open. -/
def Line.CallsAtomAt (store : Store) (line : List Char) (depth : Nat) (place : Cursor) : Prop :=
  ∃ target start, TargetRun (.start line) (.ok (target, start)) ∧
    Made store start (.operand 3) depth place

variable {store : Store} {precedence room n depth : Nat} {c d place start : Cursor} {v : Value}
  {fault : Fault} {line : List Char} {r r' : Reader Value}

/-! ### Readers that falter -/

/-- The first reader does what the second does, or fails with the fault. -/
def Reader.Falters (fault : Fault) (r r' : Reader Value) : Prop :=
  ∀ c, r c = .error fault ∨ r c = r' c

theorem falters_chainFrom (h : r.Falters fault r') (bound : List Char) (left : Value) (c : Cursor) :
    chainFrom precedence r bound left c = .error fault ∨
      chainFrom precedence r bound left c = chainFrom precedence r' bound left c := by
  induction bound generalizing left c with
  | nil => exact .inr rfl
  | cons x bound ih =>
      simp only [chainFrom]
      cases operatorAt? precedence c.skipBlanks with
      | none => exact .inr rfl
      | some opd =>
          obtain ⟨op, d⟩ := opd
          rcases h d with hd | hd
          · exact .inl (by simp only [hd, bind, Except.bind])
          · simp only [hd]
            cases r' d with
            | error f => exact .inr rfl
            | ok re =>
                simp only [bind, Except.bind]
                cases op.apply left re.1 with
                | error cause => exact .inr rfl
                | ok value => exact ih value re.2

theorem falters_chain (h : r.Falters fault r') :
    (chain precedence r).Falters fault (chain precedence r') := by
  intro c
  rcases h c with hc | hc
  · exact .inl (chain_eq_error hc)
  · rw [chain, chain, hc]
    cases r' c with
    | error f => exact .inr rfl
    | ok vd => exact falters_chainFrom h _ _ _

theorem falters_atomWith (h : r.Falters fault r') :
    (atomWith store (some r)).Falters fault (atomWith store (some r')) := by
  intro c
  by_cases hc : ∃ space d, Blanks space ∧ c.Passes (space ++ ['(']) d ∧ r d = .error fault
  · obtain ⟨space, d, hs, hp, hd⟩ := hc
    exact .inl (AtomRun.insideFails hs hp rfl hd).eq
  · refine .inr (atomWith_congr (fun _ _ _ _ _ => rfl) fun hs hp => ?_)
    exact congrArg some ((h _).resolve_left fun hd => hc ⟨_, _, hs, hp, hd⟩)

/-- What reads inside the parentheses of an atom, where one more may be opened. -/
def faultyInside (store : Store) (depth : Nat) (place : Cursor) (fault : Fault) :
    Nat → Option (Reader Value)
  | 0 => none
  | room + 1 => some (expressionOf (faultyAtom store depth place fault room))

theorem faultyAtom_eq (store : Store) (depth : Nat) (place : Cursor) (fault : Fault) (room : Nat)
    (c : Cursor) :
    faultyAtom store depth place fault room c =
      if depth + room = maxNesting ∧ c = place then .error fault
      else atomWith store (faultyInside store depth place fault room) c := by
  cases room <;> rfl

theorem falters_faultyAtom (store : Store) (depth : Nat) (place : Cursor) (fault : Fault)
    (room : Nat) : (faultyAtom store depth place fault room).Falters fault (atom store room) := by
  induction room with
  | zero =>
      intro c
      rw [faultyAtom_eq]
      split
      · exact .inl rfl
      · exact .inr rfl
  | succ room ih =>
      intro c
      rw [faultyAtom_eq]
      split
      · exact .inl rfl
      · exact falters_atomWith (falters_chain (falters_chain ih)) c

/-- The reader of an operand whose atoms are read by `atom`. -/
def operandOf (atom : Reader Value) : Nat → Reader Value
  | 1 => expressionOf atom
  | 2 => chain 2 atom
  | _ => atom

theorem operandOf_eq_chain (r : Reader Value) (hp : precedence = 1 ∨ precedence = 2) :
    operandOf r precedence = chain precedence (operandOf r (precedence + 1)) := by
  rcases hp with rfl | rfl <;> rfl

theorem operandOf_atom (store : Store) (room precedence : Nat) :
    operandOf (atom store room) precedence = readerAt store room precedence := by
  match precedence with
  | 0 | 1 | 2 | _ + 3 => rfl

theorem forward_operandOf (hf : r.Forward) (precedence : Nat) : (operandOf r precedence).Forward := by
  unfold operandOf
  split
  · exact forward_chain 1 (forward_chain 2 hf)
  · exact forward_chain 2 hf
  · exact hf

theorem falters_operandOf (h : r.Falters fault r') (precedence : Nat) :
    (operandOf r precedence).Falters fault (operandOf r' precedence) := by
  unfold operandOf
  split
  · exact falters_chain (falters_chain h)
  · exact falters_chain h
  · exact h

/-! ### Faults that show -/

/-- A fault at the place where it is put does not lead back in the line. -/
theorem forward_faultyAtom (hplace : fault.place = place) (store : Store) (depth room : Nat) :
    (faultyAtom store depth place fault room).Forward := by
  induction room with
  | zero =>
      intro c
      rw [faultyAtom_eq]
      split
      next hc => exact ⟨[], (hc.2.trans hplace.symm) ▸ .refl c⟩
      next => exact forward_atomWith (by simp [faultyInside]) c
  | succ room ih =>
      intro c
      rw [faultyAtom_eq]
      split
      next hc => exact ⟨[], (hc.2.trans hplace.symm) ▸ .refl c⟩
      next =>
        refine forward_atomWith (fun r hr => ?_) c
        cases hr
        exact forward_chain 1 (forward_chain 2 ih)

/-- An atom fails with what is in its parentheses. -/
theorem faultyAtom_of_inside {space : List Char} (hs : Blanks space)
    (hp : c.Passes (space ++ ['(']) d)
    (h : expressionOf (faultyAtom store depth place fault room) d = .error fault) :
    faultyAtom store depth place fault (room + 1) c = .error fault := by
  rw [faultyAtom_eq]
  split
  · rfl
  · exact (AtomRun.insideFails hs hp rfl h).eq

/-- The task fails with the fault if its atoms are read by `atom`. -/
def Task.FailsWith (atom : Reader Value) (fault : Fault) (c : Cursor) : Task → Prop
  | .operand precedence => operandOf atom precedence c = .error fault
  | .turns precedence left => ChainRun precedence (operandOf atom (precedence + 1)) left c
      (.error fault)

/-- What a call reads is read as without the fault, or shows it. -/
theorem operandOf_faultyAtom_of_call {m : Nat} {out : Outcome Value} (hn : n + room = maxNesting)
    (hp : precedence = 1 ∨ precedence = 2 ∨ precedence = 3)
    (hr : Call store (.operand precedence) n c out m) :
    operandOf (faultyAtom store depth place fault room) precedence c = .error fault ∨
      operandOf (faultyAtom store depth place fault room) precedence c = out := by
  have hout : readerAt store room precedence c = out := hr.reads hn hp
  have := falters_operandOf (falters_faultyAtom store depth place fault room) precedence c
  rwa [operandOf_atom, hout] at this

/-- With every call that is made for it, an expression fails with a fault that is put in a place of
atoms. -/
theorem Made.expressionOf_eq_error {task : Task} (h : Made store start task n c)
    (hplace : fault.place = place) (hn : n + room = maxNesting)
    (hc : task.FailsWith (faultyAtom store depth place fault room) fault c) :
    expressionOf (faultyAtom store depth place fault maxNesting) start = .error fault := by
  have forward (room precedence : Nat) :=
    forward_operandOf (forward_faultyAtom hplace store depth room) precedence
  induction h generalizing room with
  | start =>
      obtain rfl : room = maxNesting := by omega
      exact hc
  | @inside n _ _ _ _ hs hp hopen ih =>
      exact ih (show n + (room + 1) = maxNesting by omega) (faultyAtom_of_inside hs hp hc)
  | first _ hp ih =>
      refine ih hn ?_
      rw [Task.FailsWith, operandOf_eq_chain _ hp]
      exact chain_eq_error hc
  | turns _ hp hr ih =>
      obtain rfl := hr.open_eq rfl
      refine ih hn ?_
      rw [Task.FailsWith, operandOf_eq_chain _ hp]
      rcases operandOf_faultyAtom_of_call hn (by omega) hr with hshown | hread
      · exact chain_eq_error hshown
      · exact ChainRun.chain_eq (forward _ _) hread hc
  | operand _ hs ho hp ih => exact ih hn (.operandFails hs ho hp hc)
  | turned _ ht ih =>
      obtain rfl := ht.open_eq
      cases ht with
      | @turned _ _ _ _ _ _ op hs ho hp hr ha =>
          have := op.precedence_eq
          rcases operandOf_faultyAtom_of_call hn (by omega) hr with hshown | hread
          · exact ih hn (.operandFails hs ho hp hshown)
          · exact ih hn (.turn hs ho hp hread ha hc)

/-- A fault shows wherever a call for an atom is made. -/
theorem Made.readsAtomAt {target : Option (List Char)} (h : Made store start (.operand 3) depth place)
    (ht : TargetRun (.start line) (.ok (target, start))) :
    Line.ReadsAtomAt store line depth place := by
  have hroom := Nat.add_sub_of_le h.le
  have hshows : ∀ cause, expressionOf (faultyAtom store depth place ⟨cause, place⟩ maxNesting) start =
      .error ⟨cause, place⟩ := by
    intro cause
    refine h.expressionOf_eq_error rfl hroom ?_
    exact (faultyAtom_eq store depth place _ _ place).trans (if_pos ⟨hroom, rfl⟩)
  -- of two faults one at least is not what the expression comes to anyway
  by_cases h : Calculator.expression store start = .error ⟨.overflow, place⟩
  · refine ⟨target, start, ⟨.nestingTooDeep, place⟩, ht, ?_⟩
    rw [hshows, h]
    exact fun h => by cases h
  · exact ⟨target, start, ⟨.overflow, place⟩, ht, fun h' => h (h'.symm.trans (hshows _))⟩

end Calculator
