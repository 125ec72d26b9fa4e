import Calculator.Operator
import Calculator.Store

/-!
# Calculator — Grammar — Tree

The meaning of an expression apart from its text: a tree of operators over literals and names.
`Tree.eval` computes it with values and stops at the first failure; `Tree.Denotes` says what it is
worth in integers without bounds, as long as every part of it fits a value. The two agree
(`eval_eq_ok_iff`).
-/

namespace Calculator

inductive Tree where
  | literal (l : Literal)
  | name (name : String)
  | node (op : Operator) (left right : Tree)
  deriving DecidableEq, Repr

namespace Tree

/-- The value of a tree, or the failure met first from left to right. -/
def eval (store : Store) : Tree → Except Cause Value
  | .literal l =>
    match l.value? with
    | some value => .ok value
    | none => .error (.malformedInteger l)
  | .name x =>
    match store[x]? with
    | some value => .ok value
    | none => .error (.undefinedVariable x)
  | .node op left right => do
    let a ← eval store left
    let b ← eval store right
    op.apply a b

/-- The tree is worth `n`: all its names are set, nothing is divided by zero, and every part of it
fits a value. -/
inductive Denotes (store : Store) : Tree → Int → Prop where
  | literal {l : Literal} (digits : l.digits ≠ []) (fits : Value.Fits l.number) :
      Denotes store (.literal l) l.number
  | name {x : String} {value : Value} (set : store[x]? = some value) :
      Denotes store (.name x) value.toInt
  | node {op : Operator} {left right : Tree} {a b : Int} (ha : Denotes store left a)
      (hb : Denotes store right b) (nonzero : op = .divide → b ≠ 0)
      (fits : Value.Fits (op.exact a b)) : Denotes store (.node op left right) (op.exact a b)

/-- What a tree is worth fits a value. -/
theorem Denotes.fits {store : Store} {t : Tree} {n : Int} (h : Denotes store t n) :
    Value.Fits n := by
  cases h with
  | literal _ fits => exact fits
  | name _ => exact Value.fits_toInt _
  | node _ _ _ fits => exact fits

/-- A tree is worth one number at most. -/
theorem Denotes.unique {store : Store} {t : Tree} {n m : Int} (h : Denotes store t n)
    (h' : Denotes store t m) : n = m := by
  induction h generalizing m with
  | literal =>
    cases h'
    rfl
  | name set =>
    cases h' with
    | name set' => rw [Option.some.inj (set.symm.trans set')]
  | node _ _ _ _ iha ihb =>
    cases h' with
    | node ha hb _ _ => rw [iha ha, ihb hb]

theorem eval_literal_eq_ok_iff {store : Store} {l : Literal} {v : Value} :
    eval store (.literal l) = .ok v ↔ l.digits ≠ [] ∧ v.toInt = l.number := by
  rw [← Literal.value?_eq_some_iff, eval]
  cases l.value? <;> simp

theorem eval_name_eq_ok_iff {store : Store} {x : String} {v : Value} :
    eval store (.name x) = .ok v ↔ store[x]? = some v := by
  rw [eval]
  cases store[x]? <;> simp

theorem eval_node_eq_ok_iff {store : Store} {op : Operator} {left right : Tree} {v : Value} :
    eval store (.node op left right) = .ok v ↔
      ∃ a b, eval store left = .ok a ∧ eval store right = .ok b ∧ op.apply a b = .ok v := by
  rw [eval]
  cases eval store left with
  | error _ => simp [bind, Except.bind]
  | ok a => cases eval store right <;> simp [bind, Except.bind]

theorem eval_literal_eq_error_iff {store : Store} {l : Literal} {cause : Cause} :
    eval store (.literal l) = .error cause ↔ l.value? = none ∧ cause = .malformedInteger l := by
  rw [eval]
  cases l.value? <;> simp [eq_comm]

theorem eval_name_eq_error_iff {store : Store} {x : String} {cause : Cause} :
    eval store (.name x) = .error cause ↔ store[x]? = none ∧ cause = .undefinedVariable x := by
  rw [eval]
  cases store[x]? <;> simp [eq_comm]

/-- An operator fails with its left operand, then with its right one, then by itself. -/
theorem eval_node_eq_error_iff {store : Store} {op : Operator} {left right : Tree}
    {cause : Cause} :
    eval store (.node op left right) = .error cause ↔
      eval store left = .error cause ∨ ∃ a, eval store left = .ok a ∧
        (eval store right = .error cause ∨
          ∃ b, eval store right = .ok b ∧ op.apply a b = .error cause) := by
  rw [eval]
  cases eval store left with
  | error _ => simp [bind, Except.bind]
  | ok a => cases eval store right <;> simp [bind, Except.bind]

/-- Computing with values gives what the tree is worth, and fails only where it is worth nothing. -/
theorem eval_eq_ok_iff {store : Store} {t : Tree} {v : Value} :
    eval store t = .ok v ↔ Denotes store t v.toInt := by
  constructor
  · intro h
    induction t generalizing v with
    | literal l =>
      obtain ⟨hd, hv⟩ := eval_literal_eq_ok_iff.1 h
      exact hv ▸ .literal hd (hv ▸ Value.fits_toInt v)
    | name x => exact .name (eval_name_eq_ok_iff.1 h)
    | node op left right ihl ihr =>
      obtain ⟨a, b, ha, hb, hv⟩ := eval_node_eq_ok_iff.1 h
      obtain ⟨hz, hv⟩ := Operator.apply_eq_ok_iff.1 hv
      rw [hv]
      refine .node (ihl ha) (ihr hb) (fun hop hb => hz ⟨hop, ?_⟩) (hv ▸ Value.fits_toInt v)
      exact Int64.toInt_inj.1 hb
  · intro h
    generalize hn : v.toInt = n at h
    induction h generalizing v with
    | literal hd _ => exact eval_literal_eq_ok_iff.2 ⟨hd, hn⟩
    | name set => exact eval_name_eq_ok_iff.2 (Int64.toInt_inj.1 hn ▸ set)
    | node ha hb nonzero _ iha ihb =>
      have ha' := Int64.toInt_ofInt_of_le ha.fits.1 ha.fits.2
      have hb' := Int64.toInt_ofInt_of_le hb.fits.1 hb.fits.2
      refine eval_node_eq_ok_iff.2 ⟨_, _, iha ha', ihb hb', ?_⟩
      refine Operator.apply_eq_ok_iff.2 ⟨fun hz => nonzero hz.1 ?_, ?_⟩
      · rw [← hb', hz.2]
        rfl
      · rw [hn, ha', hb']

end Tree

end Calculator
