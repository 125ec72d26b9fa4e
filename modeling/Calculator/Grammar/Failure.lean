import Calculator.Grammar.Line

/-!
# Calculator — Grammar — Failure

Where an expression fails.  A tree fails by itself if its operands are worth something and it is
not (`Tree.Fails`).  The sites of a written expression are the trees it is made of, each with the
column its failure is reported at; they stand in the order in which they are computed, operands
before their operator and left before right (`Written.sites`).  `FirstFailure` picks the site that
fails first.
-/

namespace Calculator

/-- The tree is worth nothing although its operands are worth something, for this cause. -/
inductive Tree.Fails (store : Store) : Tree → Cause → Prop where
  | literal {l : Literal} (h : ¬ Value.Fits l.number) :
      Fails store (.literal l) (.malformedInteger l)
  | name {x : String} (h : store[x]? = none) : Fails store (.name x) (.undefinedVariable x)
  | divisionByZero {left right : Tree} {a : Int} (ha : Denotes store left a)
      (hb : Denotes store right 0) : Fails store (.node .divide left right) .divisionByZero
  | overflow {op : Operator} {left right : Tree} {a b : Int} (ha : Denotes store left a)
      (hb : Denotes store right b) (nonzero : op = .divide → b ≠ 0)
      (h : ¬ Value.Fits (op.exact a b)) : Fails store (.node op left right) .overflow

/-- An operator fails by itself where it refuses the values of its operands. -/
theorem Tree.fails_of_apply {store : Store} {op : Operator} {left right : Tree} {a b : Value}
    {cause : Cause} (ha : left.eval store = .ok a) (hb : right.eval store = .ok b)
    (h : op.apply a b = .error cause) : (Tree.node op left right).Fails store cause := by
  have ha := Tree.eval_eq_ok_iff.1 ha
  have hb := Tree.eval_eq_ok_iff.1 hb
  rcases Operator.apply_eq_error_iff.1 h with ⟨rfl, rfl, rfl⟩ | ⟨rfl, hz, hn⟩
  · exact .divisionByZero ha hb
  · exact .overflow ha hb (fun hop h0 => hz ⟨hop, Int64.toInt_inj.1 h0⟩) hn

namespace Tree.Fails

variable {store : Store} {t : Tree} {cause cause' : Cause}

/-- A tree that fails by itself is worth nothing. -/
theorem not_denotes (h : t.Fails store cause) (n : Int) : ¬ t.Denotes store n := by
  intro hn
  cases h with
  | literal h =>
    cases hn with
    | literal _ fits => exact h fits
  | name h =>
    cases hn with
    | name set => cases h.symm.trans set
  | divisionByZero _ hb =>
    cases hn with
    | node _ hb' nonzero _ => exact nonzero rfl (hb'.unique hb)
  | overflow ha hb _ h =>
    cases hn with
    | node ha' hb' _ fits =>
      rw [ha'.unique ha, hb'.unique hb] at fits
      exact h fits

theorem cause_unique (h : t.Fails store cause) (h' : t.Fails store cause') : cause = cause' := by
  cases h with
  | literal => cases h'; rfl
  | name => cases h'; rfl
  | divisionByZero _ hb =>
    cases h' with
    | divisionByZero => rfl
    | overflow _ hb' nonzero _ => exact absurd (hb'.unique hb) (nonzero rfl)
  | overflow _ hb nonzero _ =>
    cases h' with
    | divisionByZero _ hb' => exact absurd (hb.unique hb') (nonzero rfl)
    | overflow => rfl

end Tree.Fails

/-- A tree that is part of a line, and the column its failure is reported at. -/
structure Site where
  tree : Tree
  column : Nat
  deriving DecidableEq, Repr

/-- The column at which an operator reports, where its right operand ends at column `stop`: right
there, but for plus and minus only after the blanks that follow. -/
def Operator.reportColumn (line : List Char) (stop : Nat) (op : Operator) : Nat :=
  if op.precedence = 1 then stop + ((line.drop stop).takeWhile isBlank).length else stop

/-- The sites of an expression that begins at a column of `line`, in the order in which they are
computed.  A literal reports behind its last digit, a name at its first letter. -/
def Written.sites (line : List Char) : Nat → Written → List Site
  | column, .literal space l => [⟨.literal l, column + (space ++ l.text).length⟩]
  | column, .name space letters => [⟨.name (String.ofList letters), column + space.length⟩]
  | column, .group space inside _ => inside.sites line (column + (space ++ ['(']).length)
  | column, .binary left space op right =>
    left.sites line column ++
      right.sites line (column + (left.text ++ (space ++ [op.symbol])).length) ++
      [⟨.node op left.tree right.tree,
        op.reportColumn line (column + (binary left space op right).text.length)⟩]

/-- The sites of a line. -/
def Line.sites (l : Line) : List Site :=
  l.written.sites l.text l.lead.length

/-- The first of the sites to fail does so for this cause, and is reported at this column. -/
def FirstFailure (store : Store) (sites : List Site) (cause : Cause) (column : Nat) : Prop :=
  ∃ before site behind, sites = before ++ site :: behind ∧
    (∀ s ∈ before, ∃ n, s.tree.Denotes store n) ∧ site.tree.Fails store cause ∧
    site.column = column

namespace FirstFailure

variable {store : Store} {sites sites' : List Site} {cause : Cause} {column : Nat}

theorem singleton {tree : Tree} (h : tree.Fails store cause) :
    FirstFailure store [⟨tree, column⟩] cause column :=
  ⟨[], ⟨tree, column⟩, [], rfl, by simp, h, rfl⟩

/-- There is one first site to fail, and one cause for it. -/
theorem unique {cause' : Cause} {column' : Nat} (h : FirstFailure store sites cause column)
    (h' : FirstFailure store sites cause' column') : cause = cause' ∧ column = column' := by
  obtain ⟨before, site, behind, rfl, hbefore, hfails, rfl⟩ := h
  obtain ⟨before', site', behind', heq, hbefore', hfails', rfl⟩ := h'
  -- neither site stands before the other, as what is before a first site is worth something
  have hsite : site = site' := by
    rcases List.append_eq_append_iff.1 heq with ⟨u, rfl, hu⟩ | ⟨u, rfl, hu⟩
    · cases u with
      | nil => exact (List.cons.inj hu).1
      | cons x u =>
        obtain ⟨n, hn⟩ := hbefore' site (by simp [(List.cons.inj hu).1])
        exact absurd hn (hfails.not_denotes n)
    · cases u with
      | nil => exact (List.cons.inj hu).1.symm
      | cons x u =>
        obtain ⟨n, hn⟩ := hbefore site' (by simp [(List.cons.inj hu).1])
        exact absurd hn (hfails'.not_denotes n)
  subst hsite
  exact ⟨hfails.cause_unique hfails', rfl⟩

theorem append_right (h : FirstFailure store sites cause column) :
    FirstFailure store (sites ++ sites') cause column := by
  obtain ⟨before, site, behind, rfl, h⟩ := h
  exact ⟨before, site, behind ++ sites', by simp, h⟩

theorem append_left (h : FirstFailure store sites' cause column)
    (hs : ∀ s ∈ sites, ∃ n, s.tree.Denotes store n) :
    FirstFailure store (sites ++ sites') cause column := by
  obtain ⟨before, site, behind, rfl, hb, h⟩ := h
  refine ⟨sites ++ before, site, behind, by simp, fun s hs' => ?_, h⟩
  rcases List.mem_append.1 hs' with hs' | hs'
  · exact hs s hs'
  · exact hb s hs'

end FirstFailure

/-- Where the whole is worth something every part is. -/
theorem Written.denotes_sites {store : Store} {w : Written} {n : Int} (line : List Char)
    (column : Nat) (h : w.tree.Denotes store n) :
    ∀ s ∈ w.sites line column, ∃ m, s.tree.Denotes store m := by
  induction w generalizing column n with
  | literal | name =>
      intro s hs
      obtain rfl := List.mem_singleton.1 hs
      exact ⟨n, h⟩
  | group _ inside _ ih => exact ih _ h
  | binary left space op right ihl ihr =>
      intro s hs
      have whole := h
      cases h with
      | node ha hb _ _ =>
          rcases List.mem_append.1 hs with hs | hs
          · rcases List.mem_append.1 hs with hs | hs
            · exact ihl _ ha s hs
            · exact ihr _ hb s hs
          · obtain rfl := List.mem_singleton.1 hs
            exact ⟨_, whole⟩

/-- Where a site fails the whole is worth nothing. -/
theorem FirstFailure.not_denotes {store : Store} {w : Written} {line : List Char}
    {start column : Nat} {cause : Cause} (h : FirstFailure store (w.sites line start) cause column) :
    ¬ ∃ n, w.tree.Denotes store n := by
  rintro ⟨n, hn⟩
  obtain ⟨before, site, behind, hsites, -, hfails, -⟩ := h
  obtain ⟨m, hm⟩ := Written.denotes_sites line start hn site (by simp [hsites])
  exact hfails.not_denotes m hm

end Calculator
