import Calculator.Proofs.Reading.Endings
import Calculator.Proofs.Reading.Offsets

/-!
# Calculator — Proofs — Reading — Calls

The reader of an expression calls itself: for an operand of the next precedence, and for an
expression inside parentheses.  `Call` describes its calls with nothing to bound them but the
number of parentheses that are open, which goes up by one on the way into a group and down again
on the way out; the turns of a chain are repeated until no operator of its precedence comes next.
The readers that run bound both, by the room that is left and by the characters that are left.
Neither bound is ever met: each of them ends as some call does (`called_readerAt`), and every call
ends as the reader does (`Call.reads`).  `Made` says which calls are made while an expression is
read; it fails with each of them (`Made.fails`).

**Progress** (`call_progresses`).  With at most the allowed number of parentheses open every call
for an operand ends.  It succeeds only behind the place where it began, with as many parentheses
open as before and where no chain could go on, and fails no further left than it began; a turn
passes over two characters at least.
-/

namespace Calculator

/-! ### The calls -/

/-- What a call is for: an operand of a precedence, or the turns of a chain behind what it has come
to so far. -/
inductive Task where
  | operand (precedence : Nat)
  | turns (precedence : Nat) (left : Value)

/-- `Call store task n c out m` says that a call at `c` with `n` parentheses open ends with `out`,
and that `m` are open then. -/
inductive Call (store : Store) : Task → Nat → Cursor → Outcome Value → Nat → Prop where
  /-- What is no group is read alike whatever reads inside parentheses. -/
  | word {n : Nat} {c : Cursor} {out : Outcome Value}
      (h : ∀ inside, AtomRun store inside c out) : Call store (.operand 3) n c out n
  | tooDeep {n : Nat} {c d e : Cursor} {space : List Char} (hs : Blanks space)
      (hp : c.Passes space d) (he : d.Passes ['('] e) (hn : n = maxNesting) :
      Call store (.operand 3) n c (.error ⟨.nestingTooDeep, d⟩) n
  | insideFails {n m : Nat} {c d : Cursor} {space : List Char} {f : Fault} (hs : Blanks space)
      (hp : c.Passes (space ++ ['(']) d) (hn : n ≠ maxNesting)
      (hi : Call store (.operand 1) (n + 1) d (.error f) m) :
      Call store (.operand 3) n c (.error f) m
  | unclosed {n m : Nat} {c d e : Cursor} {space : List Char} {v : Value} (hs : Blanks space)
      (hp : c.Passes (space ++ ['(']) d) (hn : n ≠ maxNesting)
      (hi : Call store (.operand 1) (n + 1) d (.ok (v, e)) m) (he : e.after.head? ≠ some ')') :
      Call store (.operand 3) n c (.error ⟨.expectedCloseParen, e⟩) m
  | group {n m : Nat} {c d e e' : Cursor} {space : List Char} {v : Value} (hs : Blanks space)
      (hp : c.Passes (space ++ ['(']) d) (hn : n ≠ maxNesting)
      (hi : Call store (.operand 1) (n + 1) d (.ok (v, e)) m) (he : e.Passes [')'] e') :
      Call store (.operand 3) n c (.ok (v, e')) (m - 1)
  | firstFails {p n m : Nat} {c : Cursor} {f : Fault} (hp : p ≠ 3)
      (h : Call store (.operand (p + 1)) n c (.error f) m) : Call store (.operand p) n c (.error f) m
  | chain {p n m k : Nat} {c d : Cursor} {left : Value} {out : Outcome Value} (hp : p ≠ 3)
      (h : Call store (.operand (p + 1)) n c (.ok (left, d)) m)
      (next : Call store (.turns p left) m d out k) : Call store (.operand p) n c out k
  | done {p n : Nat} {left : Value} {c d : Cursor} {space : List Char} (hs : Blanks space)
      (hp : c.Passes space d) (hb : Stops isBlank d.after)
      (hd : ∀ op : Operator, d.after.head? = some op.symbol → op.precedence ≠ p) :
      Call store (.turns p left) n c (.ok (left, d)) n
  | operandFails {p n m : Nat} {left : Value} {c d : Cursor} {space : List Char} {op : Operator}
      {f : Fault} (hs : Blanks space) (ho : op.precedence = p)
      (hp : c.Passes (space ++ [op.symbol]) d)
      (hr : Call store (.operand (p + 1)) n d (.error f) m) :
      Call store (.turns p left) n c (.error f) m
  | applyFails {p n m : Nat} {left right : Value} {c d e : Cursor} {space : List Char}
      {op : Operator} {cause : Cause} (hs : Blanks space) (ho : op.precedence = p)
      (hp : c.Passes (space ++ [op.symbol]) d)
      (hr : Call store (.operand (p + 1)) n d (.ok (right, e)) m)
      (ha : op.apply left right = .error cause) :
      Call store (.turns p left) n c (.error ⟨cause, e⟩) m
  | turn {p n m k : Nat} {left right value : Value} {c d e : Cursor} {space : List Char}
      {op : Operator} {out : Outcome Value} (hs : Blanks space) (ho : op.precedence = p)
      (hp : c.Passes (space ++ [op.symbol]) d)
      (hr : Call store (.operand (p + 1)) n d (.ok (right, e)) m)
      (ha : op.apply left right = .ok value)
      (next : Call store (.turns p value) m e out k) : Call store (.turns p left) n c out k

/-- A turn of a chain that is completed: an operator behind blanks, its operand and a result. -/
inductive TurnRun (store : Store) (p : Nat) (left : Value) (n : Nat) (c : Cursor) :
    Value → Cursor → Nat → Prop where
  | turned {m : Nat} {right value : Value} {d e : Cursor} {space : List Char} {op : Operator}
      (hs : Blanks space) (ho : op.precedence = p) (hp : c.Passes (space ++ [op.symbol]) d)
      (hr : Call store (.operand (p + 1)) n d (.ok (right, e)) m)
      (ha : op.apply left right = .ok value) : TurnRun store p left n c value e m

variable {store : Store} {precedence room n m : Nat} {c d e : Cursor} {v : Value}
  {out : Outcome Value}

/-- A call that succeeds has closed what it opened. -/
theorem Call.open_eq {task : Task} (h : Call store task n c out m) (hout : out = .ok (v, d)) :
    m = n := by
  induction h generalizing v d with
  | word | done => rfl
  | tooDeep | insideFails | unclosed | firstFails | operandFails | applyFails => cases hout
  | group _ _ _ _ _ ih =>
      rw [ih rfl]
      rfl
  | chain _ _ _ ih ihnext => exact (ihnext hout).trans (ih rfl)
  | turn _ _ _ _ _ _ ih ihnext => exact (ihnext hout).trans (ih rfl)

/-! ### Every reader ends as a call does -/

/-- The reader ends as some call for an operand of the precedence does. -/
def Reader.Called (store : Store) (precedence room : Nat) (r : Reader Value) : Prop :=
  ∀ n c, n + room = maxNesting → ∃ m, Call store (.operand precedence) n c (r c) m

theorem AtomRun.called {inside : Option (Reader Value)} (hnone : inside = none → room = 0)
    (hsome : ∀ r, inside = some r → ∃ k, room = k + 1 ∧ r.Called store 1 k)
    (h : AtomRun store inside c out) (hn : n + room = maxNesting) :
    ∃ m, Call store (.operand 3) n c out m := by
  have opened : ∀ r d, inside = some r →
      n ≠ maxNesting ∧ ∃ m, Call store (.operand 1) (n + 1) d (r d) m := by
    intro r d hi
    obtain ⟨k, rfl, hcall⟩ := hsome r hi
    exact ⟨by omega, hcall (n + 1) d (by omega)⟩
  cases h with
  | ended hs hp hd => exact ⟨n, .word fun _ => .ended hs hp hd⟩
  | literal hs hl hp hd hv => exact ⟨n, .word fun _ => .literal hs hl hp hd hv⟩
  | malformed hs hl hp hd hv => exact ⟨n, .word fun _ => .malformed hs hl hp hd hv⟩
  | name hs hw hp hd hv => exact ⟨n, .word fun _ => .name hs hw hp hd hv⟩
  | undefined hs hw hp he hd hv => exact ⟨n, .word fun _ => .undefined hs hw hp he hd hv⟩
  | unexpected hs hp he hb hx => exact ⟨n, .word fun _ => .unexpected hs hp he hb hx⟩
  | tooDeep hs hp he hi =>
      have := hnone hi
      exact ⟨n, .tooDeep hs hp he (by omega)⟩
  | @insideFails _ _ d _ hs hp hi hr =>
      obtain ⟨hopen, m, hm⟩ := opened _ d hi
      exact ⟨m, .insideFails hs hp hopen (hr ▸ hm)⟩
  | @unclosed _ _ d _ _ hs hp hi hr he =>
      obtain ⟨hopen, m, hm⟩ := opened _ d hi
      exact ⟨m, .unclosed hs hp hopen (hr ▸ hm) he⟩
  | @group _ _ d _ _ _ hs hp hi hr he =>
      obtain ⟨hopen, m, hm⟩ := opened _ d hi
      exact ⟨m - 1, .group hs hp hopen (hr ▸ hm) he⟩

theorem ChainRun.called {operand : Reader Value} {left : Value}
    (hcall : operand.Called store (precedence + 1) room)
    (h : ChainRun precedence operand left c out) (hn : n + room = maxNesting) :
    ∃ m, Call store (.turns precedence left) n c out m := by
  induction h with
  | done hs hp hb hd => exact ⟨n, .done hs hp hb hd⟩
  | @operandFails _ _ d _ _ _ hs ho hp hr =>
      obtain ⟨m, hm⟩ := hcall n d hn
      exact ⟨m, .operandFails hs ho hp (hr ▸ hm)⟩
  | @applyFails _ _ _ d _ _ _ _ hs ho hp hr ha =>
      obtain ⟨m, hm⟩ := hcall n d hn
      exact ⟨m, .applyFails hs ho hp (hr ▸ hm) ha⟩
  | @turn _ _ _ _ d _ _ _ _ hs ho hp hr ha _ ih =>
      obtain ⟨m, hm⟩ := hcall n d hn
      rw [hr] at hm
      obtain ⟨k, hk⟩ := ih
      obtain rfl := hm.open_eq rfl
      exact ⟨k, .turn hs ho hp hm ha hk⟩

theorem called_chain {operand : Reader Value} (hp : precedence = 1 ∨ precedence = 2)
    (hf : operand.Forward) (hcall : operand.Called store (precedence + 1) room) :
    (chain precedence operand).Called store precedence room := by
  intro n c hn
  obtain ⟨m, hm⟩ := hcall n c hn
  rcases chain_cases precedence hf c with ⟨f, hr, hc⟩ | ⟨first, d, hr, hc⟩
  · rw [hc]
    exact ⟨m, .firstFails (by omega) (hr ▸ hm)⟩
  · rw [hr] at hm
    obtain rfl := hm.open_eq rfl
    obtain ⟨k, hk⟩ := hc.called hcall hn
    exact ⟨k, .chain (by omega) hm hk⟩

theorem called_readerAt (store : Store) (room : Nat)
    (hp : precedence = 1 ∨ precedence = 2 ∨ precedence = 3) :
    (readerAt store room precedence).Called store precedence room :=
  of_levels (P := fun p n r => r.Called store p n)
    (reader_induction store (P := fun p n r => r.Called store p n)
      (fun hnone hsome _ _ hn => (atomRun_iff.2 rfl).called hnone
        (fun r hr => (hsome r hr).imp fun _ h => ⟨h.1, h.2.2⟩) hn)
      (fun hp hf hcall => called_chain hp hf hcall) room) hp

/-! ### Every call ends as the reader does -/

/-- What a reader that has `room` for more parentheses makes of a task. -/
def Task.Reads (store : Store) (room : Nat) (c : Cursor) (out : Outcome Value) : Task → Prop
  | .operand precedence => precedence = 1 ∨ precedence = 2 ∨ precedence = 3 →
    readerAt store room precedence c = out
  | .turns precedence left => precedence = 1 ∨ precedence = 2 →
    ChainRun precedence (readerAt store room (precedence + 1)) left c out

/-- Where one more parenthesis may be opened, an atom is read with a reader for its inside. -/
theorem readerAt_eq_of_inside (hn : n + room = maxNesting) (hopen : n ≠ maxNesting)
    (h : ∀ k, room = k + 1 → AtomRun store (some (readerAt store k 1)) c out) :
    readerAt store room 3 c = out := by
  obtain ⟨k, rfl⟩ := Nat.exists_eq_succ_of_ne_zero (show room ≠ 0 by omega)
  exact (h k rfl).eq

/-- What a call ends with is what the reader makes of its task. -/
theorem Call.reads {task : Task} (h : Call store task n c out m) (hn : n + room = maxNesting) :
    task.Reads store room c out := by
  -- by the rules; the room of the reader shrinks as more parentheses are open
  induction h generalizing room with
  | word h =>
      intro _
      cases room with
      | zero => exact (h none).eq
      | succ k => exact (h (some (readerAt store k 1))).eq
  | tooDeep hs hp he hopen =>
      intro _
      obtain rfl : room = 0 := by omega
      exact (AtomRun.tooDeep hs hp he rfl).eq
  | insideFails hs hp hopen _ ih =>
      refine fun _ => readerAt_eq_of_inside hn hopen fun k hk => ?_
      exact .insideFails hs hp rfl (ih (by omega) (.inl rfl))
  | unclosed hs hp hopen _ he ih =>
      refine fun _ => readerAt_eq_of_inside hn hopen fun k hk => ?_
      exact .unclosed hs hp rfl (ih (by omega) (.inl rfl)) he
  | group hs hp hopen _ he ih =>
      refine fun _ => readerAt_eq_of_inside hn hopen fun k hk => ?_
      exact .group hs hp rfl (ih (by omega) (.inl rfl)) he
  | firstFails hp _ ih =>
      intro hp'
      rw [readerAt_eq_chain store room (by omega)]
      exact chain_eq_error (ih hn (by omega))
  | chain hp h _ ih ihnext =>
      intro hp'
      rw [readerAt_eq_chain store room (by omega)]
      -- the first operand has closed what it opened, so the turns have the same room
      obtain rfl := h.open_eq rfl
      exact (ihnext hn (by omega)).chain_eq (forward_readerAt _ _ _) (ih hn (by omega))
  | done hs hp hb hd => exact fun _ => .done hs hp hb hd
  | operandFails hs ho hp _ ih =>
      exact fun hp' => .operandFails hs ho hp (ih hn (by omega))
  | applyFails hs ho hp _ ha ih =>
      exact fun hp' => .applyFails hs ho hp (ih hn (by omega)) ha
  | turn hs ho hp h ha _ ih ihnext =>
      intro hp'
      obtain rfl := h.open_eq rfl
      exact .turn hs ho hp (ih hn (by omega)) ha (ihnext hn hp')

/-! ### The calls that are made -/

/-- While the expression at `start` is read, with no parenthesis open at first, a call for the task
is made at `c` with `n` parentheses open. -/
inductive Made (store : Store) (start : Cursor) : Task → Nat → Cursor → Prop where
  | start : Made store start (.operand 1) 0 start
  | inside {n : Nat} {c d : Cursor} {space : List Char} (h : Made store start (.operand 3) n c)
      (hs : Blanks space) (hp : c.Passes (space ++ ['(']) d) (hn : n ≠ maxNesting) :
      Made store start (.operand 1) (n + 1) d
  | first {p n : Nat} {c : Cursor} (h : Made store start (.operand p) n c) (hp : p = 1 ∨ p = 2) :
      Made store start (.operand (p + 1)) n c
  | turns {p n m : Nat} {c d : Cursor} {left : Value} (h : Made store start (.operand p) n c)
      (hp : p = 1 ∨ p = 2) (hr : Call store (.operand (p + 1)) n c (.ok (left, d)) m) :
      Made store start (.turns p left) m d
  | operand {p n : Nat} {c d : Cursor} {left : Value} {space : List Char} {op : Operator}
      (h : Made store start (.turns p left) n c) (hs : Blanks space) (ho : op.precedence = p)
      (hp : c.Passes (space ++ [op.symbol]) d) : Made store start (.operand (p + 1)) n d
  | turned {p n m : Nat} {c e : Cursor} {left value : Value}
      (h : Made store start (.turns p left) n c) (ht : TurnRun store p left n c value e m) :
      Made store start (.turns p value) m e

theorem TurnRun.open_eq {left value : Value} (h : TurnRun store precedence left n c value e m) :
    m = n := by
  cases h with
  | turned _ _ _ hr _ => exact hr.open_eq rfl

namespace Made

variable {start : Cursor} {task : Task}

/-- No call is made with more parentheses open than are allowed. -/
theorem le (h : Made store start task n c) : n ≤ maxNesting := by
  induction h with
  | start => exact Nat.zero_le _
  | inside _ _ _ hn ih => omega
  | first _ _ ih | operand _ _ _ _ ih => exact ih
  | turns _ _ hr ih => exact hr.open_eq rfl ▸ ih
  | turned _ ht ih => exact ht.open_eq ▸ ih

theorem atom (h : Made store start (.operand 1) n c) : Made store start (.operand 3) n c :=
  (h.first (.inl rfl)).first (.inr rfl)

/-- Behind opening parentheses calls are made, as long as so many may be open. -/
theorem opened {k : Nat} (h : Made store start (.operand 1) n c)
    (hp : c.Passes (List.replicate k '(') d) (hn : n + k ≤ maxNesting) :
    Made store start (.operand 1) (n + k) d := by
  induction k generalizing n c with
  | zero =>
      obtain rfl := hp.unique (.refl c)
      exact h
  | succ k ih =>
      obtain ⟨e, he, hp⟩ := Cursor.Passes.split (u := ['(']) hp
      have := ih (h.atom.inside blanks_nil he (by omega)) hp (by omega)
      rwa [Nat.add_assoc, Nat.add_comm 1 k] at this

/-- The expression fails with every call that is made for it. -/
theorem fails {f : Fault} (h : Made store start task n c) (hf : Call store task n c (.error f) m) :
    ∃ k, Call store (.operand 1) 0 start (.error f) k := by
  induction h generalizing m with
  | start => exact ⟨m, hf⟩
  | inside _ hs hp hn ih => exact ih (.insideFails hs hp hn hf)
  | first _ hp ih => exact ih (.firstFails (by omega) hf)
  | turns _ hp hr ih => exact ih (.chain (by omega) hr hf)
  | operand _ hs ho hp ih => exact ih (.operandFails hs ho hp hf)
  | turned _ ht ih =>
      cases ht with
      | turned hs ho hp hr ha => exact ih (.turn hs ho hp hr ha hf)

end Made

/-! ### Progress -/

/-- A reader that succeeds passes over a character at least. -/
def Reader.Progresses (r : Reader Value) : Prop :=
  ∀ c v d, r c = .ok (v, d) → ∃ u, u ≠ [] ∧ c.Passes u d

theorem progresses_atomWith {inside : Option (Reader Value)}
    (hf : ∀ r, inside = some r → r.Forward) : (atomWith store inside).Progresses := by
  intro c v d h
  cases atomRun_iff.2 h with
  | literal _ hl hp _ _ =>
      obtain ⟨x, rest, hx, -⟩ := hl.exists_head
      exact ⟨_, List.append_ne_nil_of_right_ne_nil _ (hx ▸ List.cons_ne_nil x rest), hp⟩
  | name _ hw hp _ _ => exact ⟨_, List.append_ne_nil_of_right_ne_nil _ hw.1, hp⟩
  | group _ hp hi hr he =>
      obtain ⟨u, hu⟩ := (hf _ hi).ok hr
      exact ⟨_, List.append_ne_nil_of_right_ne_nil _ (List.cons_ne_nil _ _), (hp.trans hu).trans he⟩

theorem progresses_chain {operand : Reader Value} (hf : operand.Forward)
    (ho : operand.Progresses) : (chain precedence operand).Progresses := by
  intro c v d h
  rcases chain_cases precedence hf c with ⟨f, -, hc⟩ | ⟨first, e, hr, hc⟩
  · rw [hc] at h
    cases h
  · obtain ⟨u, hne, hu⟩ := ho _ _ _ hr
    obtain ⟨u', hu'⟩ := (h ▸ hc).forward hf
    exact ⟨u ++ u', List.append_ne_nil_of_left_ne_nil hne _, hu.trans hu'⟩

theorem progresses_readerAt (store : Store) (room : Nat)
    (hp : precedence = 1 ∨ precedence = 2 ∨ precedence = 3) :
    (readerAt store room precedence).Progresses :=
  of_levels (P := fun _ _ r => r.Progresses)
    (reader_induction store
      (fun _ hi => progresses_atomWith fun r hr => (hi r hr).elim fun _ h => h.2.1)
      (fun _ hf ho => progresses_chain hf ho) room) hp

theorem Call.progresses (h : Call store (.operand precedence) n c (.ok (v, d)) m)
    (hp : precedence = 1 ∨ precedence = 2 ∨ precedence = 3) (hn : n ≤ maxNesting) :
    ∃ u, u ≠ [] ∧ c.Passes u d :=
  progresses_readerAt store (maxNesting - n) hp _ _ _ (h.reads (by omega) hp)

/-- A turn passes over its operator and over its operand. -/
theorem TurnRun.progresses {left value : Value} (h : TurnRun store precedence left n c value e m)
    (hp : precedence = 1 ∨ precedence = 2) (hn : n ≤ maxNesting) :
    ∃ u, 2 ≤ u.length ∧ c.Passes u e := by
  cases h with
  | turned _ _ hpass hr _ =>
      obtain ⟨u, hne, hu⟩ := hr.progresses (by omega) hn
      refine ⟨_, ?_, hpass.trans hu⟩
      have := List.length_pos_iff.2 hne
      simp only [List.length_append, List.length_singleton]
      omega

/-- Behind a chain comes no blank, and no operator of its precedence or of a higher one. -/
theorem Call.head?_after (h : Call store (.operand precedence) n c (.ok (v, d)) m)
    (hp : precedence = 1 ∨ precedence = 2) (hn : n ≤ maxNesting) {x : Char}
    (hx : d.after.head? = some x) :
    isBlank x = false ∧ ∀ op : Operator, x = op.symbol → op.precedence < precedence := by
  have hlevel : precedence = 1 ∨ precedence = 2 ∨ precedence = 3 := by omega
  have hread : readerAt store (maxNesting - n) precedence c = .ok (v, d) :=
    h.reads (by omega) hlevel
  have hend := ending_readerAt_of_level store _ hlevel _ _ _ hread
  have hsettled : Stops isBlank d.after := hend.settled (by omega)
  refine ⟨hsettled x hx, fun op hop => hend.operators op ?_⟩
  rw [hsettled.dropWhile_eq, hx, hop]

/-- **Progress.**  With no more parentheses open than are allowed, every call for an operand ends,
and it ends as the reader of the operand does.  If it succeeds it has passed over a character at
least, the same number of parentheses is open as before, and an operand that is a chain has left
nothing behind it that it could have passed over.  If it fails it does so at a place of the line
that is not before the one where it began.  Every completed turn of a chain passes over two
characters at least. -/
theorem call_progresses (store : Store) (precedence n : Nat) (c : Cursor)
    (hp : 1 ≤ precedence ∧ precedence ≤ 3) (hn : n ≤ maxNesting) :
    (∃ out m, Call store (.operand precedence) n c out m) ∧
    (∀ out m, Call store (.operand precedence) n c out m →
      readerAt store (maxNesting - n) precedence c = out) ∧
    (∀ v d m, Call store (.operand precedence) n c (.ok (v, d)) m →
      m = n ∧ (∃ u, u ≠ [] ∧ c.Passes u d) ∧
        (precedence < 3 → ∀ x ∈ d.after.head?,
          isBlank x = false ∧ ∀ op : Operator, x = op.symbol → op.precedence < precedence)) ∧
    (∀ f m, Call store (.operand precedence) n c (.error f) m →
      (∃ u, c.Passes u f.place) ∧ c.offset ≤ f.place.offset ∧
        (⟨f.place.offset⟩ : String.Pos.Raw).IsValid (String.ofList c.line)) ∧
    (∀ left value e m, TurnRun store precedence left n c value e m →
      ∃ u, 2 ≤ u.length ∧ c.Passes u e) := by
  have hlevel : precedence = 1 ∨ precedence = 2 ∨ precedence = 3 := by omega
  have hroom : n + (maxNesting - n) = maxNesting := by omega
  refine ⟨⟨_, called_readerAt store _ hlevel n c hroom⟩, fun out m h => h.reads hroom hlevel,
    fun v d m h => ⟨h.open_eq rfl, h.progresses hlevel hn, fun hlt x hx => ?_⟩, fun f m h => ?_,
    fun left value e m h => ?_⟩
  · exact h.head?_after (by omega) hn hx
  · obtain ⟨u, hu⟩ := (forward_readerAt store (maxNesting - n) precedence).error
      (h.reads hroom hlevel)
    refine ⟨⟨u, hu⟩, ?_, ?_⟩
    · rw [hu.offset]
      exact Nat.le_add_right _ _
    · rw [Cursor.offset_eq, ← hu.line]
      exact Text.isValid_byteSize (String.toList_ofList).symm
  · -- at the highest precedence there is no operator, so no turn
    have : precedence ≠ 3 := by
      rintro rfl
      cases h with
      | @turned _ _ _ _ _ _ op _ ho _ _ _ => exact absurd ho (Nat.ne_of_lt op.precedence_lt_three)
    exact h.progresses (by omega) hn

/-- Inside one parenthesis a quotient is read up to the closing one. -/
theorem call_progresses_quotient :
    ((1 ≤ 1 ∧ 1 ≤ 3) ∧ 1 ≤ maxNesting) ∧
      Call ∅ (.operand 1) 1 (.start "6/2 )".toList)
        (.ok (3, ⟨[' ', '2', '/', '6'], [')']⟩)) 1 := by
  obtain ⟨⟨out, m, h⟩, heq, hok, -⟩ :=
    call_progresses ∅ 1 1 (.start "6/2 )".toList) (by decide) (by decide)
  have hread : readerAt ∅ (maxNesting - 1) 1 (.start "6/2 )".toList) =
      .ok (3, ⟨[' ', '2', '/', '6'], [')']⟩) := rfl
  obtain rfl := hread.symm.trans (heq out m h)
  obtain rfl := (hok _ _ _ h).1
  exact ⟨by decide, h⟩

end Calculator
