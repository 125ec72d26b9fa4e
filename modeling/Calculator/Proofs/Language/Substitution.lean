import Mathlib.Data.List.Basic
import Calculator.Proofs.Language.Context
import Calculator.Proofs.Language.Meaning

/-!
# Calculator — Proofs — Language — Substitution

A name can be replaced by an expression in parentheses that is worth the same.  Where a run of
letters stands in the text of an expression, it is a name of that expression, and the text around it
is the text of a context (`Written.exists_context`): it cannot lie across the characters between two
operands, which are no letters (`IsName.split_middle`).  The context is then filled with the other
expression (`Written.exists_substitute`).

**Substitution** (`ofLine_substitute`).  The line with the expression in place of the name makes the
same statement, if it does not nest too deep.
-/

namespace Calculator

open Statement (keyword)

/-! ### Where a run of letters stands -/

section Runs

variable {letters before behind u v m : List Char} (hn : IsName letters)
include hn

/-- A run of letters stands behind a text without letters. -/
theorem IsName.split_left (hu : ∀ x ∈ u, isLetter x = false)
    (h : u ++ v = before ++ (letters ++ behind)) :
    ∃ before', before = u ++ before' ∧ v = before' ++ (letters ++ behind) := by
  rcases List.append_eq_append_iff.1 h with ⟨w, hb, hv⟩ | ⟨w, rfl, hw⟩
  · exact ⟨w, hb, hv⟩
  cases w with
  | nil => exact ⟨[], by simp, hw.symm⟩
  | cons x w =>
      obtain ⟨y, rest, rfl, hy⟩ := hn.exists_head
      obtain ⟨rfl, -⟩ := List.cons.inj hw
      cases hy.symm.trans (hu y (by simp))

/-- A run of letters stands before a text without letters. -/
theorem IsName.split_right (hv : ∀ x ∈ v, isLetter x = false)
    (h : u ++ v = before ++ (letters ++ behind)) :
    ∃ behind', behind = behind' ++ v ∧ u = before ++ (letters ++ behind') := by
  -- the same from the other end
  have hn' : IsName letters.reverse :=
    ⟨mt List.reverse_eq_nil_iff.1 hn.1, fun x hx => hn.2 x (List.mem_reverse.1 hx)⟩
  have h' : v.reverse ++ u.reverse = behind.reverse ++ (letters.reverse ++ before.reverse) := by
    have := congrArg List.reverse h
    simpa using this
  obtain ⟨w, hb, hu⟩ := hn'.split_left (fun x hx => hv x (List.mem_reverse.1 hx)) h'
  refine ⟨w.reverse, ?_, ?_⟩
  · rw [← List.reverse_reverse behind, hb, List.reverse_append, List.reverse_reverse]
  · rw [← List.reverse_reverse u, hu]
    simp

/-- A run of letters stands on one side of a text without letters. -/
theorem IsName.split_middle (hm : ∀ x ∈ m, isLetter x = false) (hne : m ≠ [])
    (h : u ++ (m ++ v) = before ++ (letters ++ behind)) :
    (∃ behind', behind = behind' ++ (m ++ v) ∧ u = before ++ (letters ++ behind')) ∨
      ∃ before', before = u ++ (m ++ before') ∧ v = before' ++ (letters ++ behind) := by
  rcases List.append_eq_append_iff.1 h with ⟨w, rfl, hw⟩ | ⟨w, rfl, hw⟩
  · obtain ⟨before', rfl, hv⟩ := hn.split_left hm hw
    exact .inr ⟨before', rfl, hv⟩
  rcases List.append_eq_append_iff.1 hw with ⟨w', rfl, hw'⟩ | ⟨w', hl, hw'⟩
  · exact .inl ⟨w', hw', rfl⟩
  cases w' with
  | nil => exact .inl ⟨[], hw'.symm, by simp [hl]⟩
  | cons x w' =>
      obtain ⟨y, m, rfl⟩ := List.exists_cons_of_ne_nil hne
      obtain ⟨rfl, -⟩ := List.cons.inj hw'
      have hy := hn.2 y (by simp [hl])
      cases hy.symm.trans (hm y (by simp))

omit hn in
/-- A run of letters that ends on both sides is the whole of a name. -/
theorem IsName.eq_nil_around (h : IsName (before ++ (letters ++ behind)))
    (hb : ∀ x ∈ before.getLast?, isLetter x = false) (hs : Stops isLetter behind) :
    before = [] ∧ behind = [] := by
  constructor
  · rcases List.eq_nil_or_concat before with hnil | ⟨front, x, rfl⟩
    · exact hnil
    · cases (h.2 x (by simp)).symm.trans (hb x (by simp))
  · cases behind with
    | nil => rfl
    | cons x behind => cases (h.2 x (by simp)).symm.trans (stops_cons_iff.1 hs)

end Runs

theorem Blanks.isLetter_concat_eq_false {space : List Char} {y : Char} (h : Blanks space)
    (hy : y ∈ punctuation) : ∀ x ∈ space ++ [y], isLetter x = false := by
  intro x hx
  rcases List.mem_append.1 hx with hx | hx
  · exact h.isLetter_eq_false x hx
  · exact List.mem_singleton.1 hx ▸ isLetter_eq_false_of_mem_punctuation _ hy

/-! ### Expressions -/

variable {store : Store} {w : Written} {precedence : Nat} {letters before behind : List Char}

/-- A run of letters in the text of an expression is a name of the expression. -/
theorem Written.exists_context (hw : w.WellFormed precedence) (hn : IsName letters)
    (htext : w.text = before ++ (letters ++ behind))
    (hb : ∀ x ∈ before.getLast?, isLetter x = false) (hs : Stops isLetter behind) :
    ∃ (c : Context) (space : List Char), w = c.fill (.name space letters) ∧ Blanks space ∧
      before = c.before ++ space ∧ behind = c.behind := by
  induction w generalizing precedence before behind with
  | literal space l =>
      -- there is no letter in a literal
      have hl := (Literal.isWord hw.2.1 hw.2.2).isLetter_eq_false
      have hno : ∀ x ∈ space ++ l.text, isLetter x = false :=
        fun x hx => (List.mem_append.1 hx).elim (hw.1.isLetter_eq_false x) (hl x)
      obtain ⟨x, rest, rfl, hx⟩ := hn.exists_head
      have hmem : x ∈ space ++ l.text := by
        rw [show space ++ l.text = _ from htext]
        simp
      cases hx.symm.trans (hno x hmem)
  | name space name =>
      obtain ⟨before', rfl, rfl⟩ := hn.split_left hw.1.isLetter_eq_false htext
      have hb' : ∀ x ∈ before'.getLast?, isLetter x = false :=
        fun x hx => hb x (List.mem_getLast?_append_of_mem_getLast? hx)
      obtain ⟨rfl, rfl⟩ := hw.2.eq_nil_around hb' hs
      exact ⟨.hole, space, by simp [Context.fill], hw.1, List.append_nil space, rfl⟩
  | group space inside space' ih =>
      have htext' : (space ++ ['(']) ++ (inside.text ++ (space' ++ [')'])) =
          before ++ (letters ++ behind) := by simpa [Written.text] using htext
      obtain ⟨before', rfl, hrest⟩ :=
        hn.split_left (hw.1.isLetter_concat_eq_false (by decide)) htext'
      obtain ⟨behind', rfl, hinside⟩ :=
        hn.split_right (hw.2.2.isLetter_concat_eq_false (by decide)) hrest
      obtain ⟨c, gap, rfl, hgap, rfl, rfl⟩ := ih hw.2.1 hinside
        (fun x hx => hb x (List.mem_getLast?_append_of_mem_getLast? hx))
        (fun x hx => hs x (List.mem_head?_append_of_mem_head? hx))
      exact ⟨.inGroup space c space', gap, rfl, hgap, by simp [Context.before], rfl⟩
  | binary left space op right ihl ihr =>
      have hop := hw.2.2.1.isLetter_concat_eq_false op.symbol_mem_punctuation
      have htext' : left.text ++ ((space ++ [op.symbol]) ++ right.text) =
          before ++ (letters ++ behind) := by simpa [Written.text] using htext
      rcases hn.split_middle hop (by simp) htext' with
        ⟨behind', rfl, hleft⟩ | ⟨before', rfl, hright⟩
      · obtain ⟨c, gap, rfl, hgap, rfl, rfl⟩ := ihl hw.2.1 hleft hb
          (fun x hx => hs x (List.mem_head?_append_of_mem_head? hx))
        exact ⟨.inLeft c space op right, gap, rfl, hgap, rfl, by simp [Context.behind]⟩
      · obtain ⟨c, gap, rfl, hgap, rfl, rfl⟩ := ihr hw.2.2.2 hright
          (fun x hx => hb x (by
            rw [← List.append_assoc]
            exact List.mem_getLast?_append_of_mem_getLast? hx)) hs
        exact ⟨.inRight left space op c, gap, rfl, hgap, by simp [Context.before], rfl⟩

/-- A name can be replaced by an expression in parentheses that is worth the same. -/
theorem Written.exists_substitute {v : Value} {e : Written} {gap trailing : List Char}
    (hw : w.WellFormed precedence) (ht : Blanks trailing) (hn : IsName letters)
    (hv : store[String.ofList letters]? = some v) (he : e.WellFormed 1) (hgap : Blanks gap)
    (hev : e.tree.eval store = .ok v) (htext : w.text ++ trailing = before ++ (letters ++ behind))
    (hb : ∀ x ∈ before.getLast?, isLetter x = false) (hs : Stops isLetter behind) :
    ∃ w' : Written, w'.WellFormed precedence ∧
      w'.text ++ trailing = before ++ ('(' :: (e.text ++ gap ++ ')' :: behind)) ∧
      w'.depth ≤ max w.depth (openAfter 0 before + 1 + e.depth) ∧
      w'.tree.eval store = w.tree.eval store := by
  obtain ⟨behind', rfl, hword⟩ := hn.split_right ht.isLetter_eq_false htext
  obtain ⟨c, space, rfl, hspace, rfl, rfl⟩ := exists_context hw hn hword hb
    fun x hx => hs x (List.mem_head?_append_of_mem_head? hx)
  have heval : (Written.group space e gap).tree.eval store =
      (Written.name space letters).tree.eval store :=
    hev.trans (Tree.eval_name_eq_ok_iff.2 hv).symm
  have hlevel : openAfter 0 (c.before ++ space) = c.level := by
    rw [openAfter_append, Context.openAfter_before hw, hspace.flat.openAfter_eq, Nat.zero_add]
  refine ⟨c.fill (.group space e gap), Context.wellFormed_fill hw fun _ => ⟨hspace, he, hgap⟩,
    by simp [Context.text_fill, Written.text], ?_, c.eval_fill heval⟩
  have hdepth := c.depth_fill_le (.name space letters) (.group space e gap)
  rw [show (Written.group space e gap).depth = e.depth + 1 from rfl] at hdepth
  omega

/-! ### Lines -/

/-- What stands before the expression of an assignment ends with the first equals sign. -/
theorem exists_behind_equals {target front rest back : List Char} (ht : '=' ∉ target)
    (hf : '=' ∈ front) (h : target ++ '=' :: rest = front ++ back) :
    ∃ front', front = target ++ ['='] ++ front' ∧ rest = front' ++ back := by
  rcases List.append_eq_append_iff.1 h with ⟨w, rfl, hw⟩ | ⟨w, rfl, -⟩
  · cases w with
    | nil => exact absurd (by simpa using hf) ht
    | cons x w =>
        obtain ⟨rfl, rfl⟩ := List.cons.inj hw
        exact ⟨w, by simp, rfl⟩
  · exact absurd (List.mem_append_left w hf) ht

/-- In a line of the language a name of the expression can be replaced so. -/
theorem Line.exists_substitute {l : Line} {front gap back : List Char} {v : Value} {e : Written}
    (hl : l.WellFormed) (hn : IsName letters) (hv : store[String.ofList letters]? = some v)
    (he : e.WellFormed 1) (hgap : Blanks gap) (hev : e.tree.eval store = .ok v)
    (htext : l.text = front ++ (letters ++ back)) (hright : l.target ≠ none → '=' ∈ front)
    (hfront : ∀ x ∈ front.getLast?, isLetter x = false) (hback : Stops isLetter back)
    (hdepth : openAfter 0 front + 1 + e.depth ≤ maxNesting) :
    ∃ l' : Line, l'.WellFormed ∧ l'.text = front ++ ('(' :: (e.text ++ gap ++ ')' :: back)) ∧
      l'.target = l.target ∧ l'.written.tree.eval store = l.written.tree.eval store := by
  cases l with
  | expression w trailing =>
      obtain ⟨hw, hwd, ht, hk⟩ := hl
      obtain ⟨w', hw', htext', hd', heval⟩ :=
        Written.exists_substitute hw ht hn hv he hgap hev htext hfront hback
      -- the keyword would have to end before the parenthesis
      have hk' : ¬ BeginsWithKeyword (w'.text ++ trailing) := by
        rw [htext']
        exact not_beginsWithKeyword_append hk ⟨_, htext.symm⟩ (stops_cons_iff.2 (by decide))
      exact ⟨.expression w' trailing, ⟨hw', by omega, ht, hk'⟩, htext', rfl, heval⟩
  | assignment space space' name space'' w trailing =>
      obtain ⟨hs, hs', hname, hs'', hw, hwd, ht⟩ := hl
      have hlead := mem_target hs hs' hname hs''
      have heq : '=' ∉ space ++ keyword ++ space' ++ name ++ space'' :=
        fun h => absurd (hlead _ h) (by decide)
      obtain ⟨front', rfl, hrest⟩ := exists_behind_equals heq (hright (by simp [target])) htext
      rw [openAfter_append, (flat_target hs hs' hname hs'').openAfter_eq] at hdepth
      obtain ⟨w', hw', htext', hd', heval⟩ := Written.exists_substitute hw ht hn hv he hgap hev
        hrest (fun x hx => hfront x (List.mem_getLast?_append_of_mem_getLast? hx)) hback
      exact ⟨.assignment space space' name space'' w' trailing,
        ⟨hs, hs', hname, hs'', hw', by omega, ht⟩, by simp [text, htext'], rfl, heval⟩

theorem ofChars_substitute {front inner back : List Char} {v : Value} {s : Statement}
    (hn : IsName letters) (hv : store[String.ofList letters]? = some v)
    (hinner : Statement.ofChars store inner = .ok (.expression v))
    (hfront : ∀ x ∈ front.getLast?, isLetter x = false) (hback : Stops isLetter back)
    (hline : Statement.ofChars store (front ++ (letters ++ back)) = .ok s)
    (hright : ∀ target value, s = .assignment target value → '=' ∈ front)
    (hdepth : openAfter 0 front + 1 + deepest 0 inner ≤ maxNesting) :
    Statement.ofChars store (front ++ ('(' :: (inner ++ ')' :: back))) = .ok s := by
  obtain ⟨_, hli, rfl, hm⟩ := ofChars_eq_ok_iff.1 hinner
  cases hm with
  | @expression e gap _ hev =>
  obtain ⟨he, -, hgap, -⟩ := hli
  rw [Line.text, Written.deepest_text_append_blanks he hgap] at hdepth
  obtain ⟨l, hl, htext, hm⟩ := ofChars_eq_ok_iff.1 hline
  obtain ⟨v', rfl, hd⟩ := Line.means_iff.1 hm
  have hright' : l.target ≠ none → '=' ∈ front := by
    intro h
    obtain ⟨name, h⟩ := Option.ne_none_iff_exists'.1 h
    exact hright (String.ofList name) v' (by rw [h]; rfl)
  obtain ⟨l', hl', htext', htarget, heval⟩ := Line.exists_substitute hl hn hv he hgap
    (Tree.eval_eq_ok_iff.2 hev) htext hright' hfront hback hdepth
  rw [← htarget, Line.text, ← htext']
  exact ofChars_of_eval hl' (heval.trans (Tree.eval_eq_ok_iff.2 hd))

/-- **Substitution.**  Where a name that is set stands in a line, it can be replaced by an expression
in parentheses that is worth the value of the name: the line makes the same statement.  In an
assignment the name stands behind the equals sign, and the parentheses must not nest too deep. -/
theorem ofLine_substitute {store : Store} {name front inner back : String} {v : Value}
    {s : Statement} (hn : IsName name.toList) (hv : store[name]? = some v)
    (hinner : Statement.ofLine store inner = .ok (.expression v))
    (hfront : ∀ x ∈ front.toList.getLast?, isLetter x = false)
    (hback : ∀ x ∈ back.toList.head?, isLetter x = false)
    (hline : Statement.ofLine store (front ++ name ++ back) = .ok s)
    (hright : ∀ target value, s = .assignment target value → '=' ∈ front.toList)
    (hdepth : openAfter 0 front.toList + 1 + deepest 0 inner.toList ≤ maxNesting) :
    Statement.ofLine store (front ++ "(" ++ inner ++ ")" ++ back) = .ok s := by
  rw [ofLine_eq_ok_iff] at hinner hline ⊢
  rw [String.toList_append, String.toList_append, List.append_assoc] at hline
  rw [← String.ofList_toList (s := name)] at hv
  have h := ofChars_substitute hn hv hinner hfront hback hline hright hdepth
  have htext : (front ++ "(" ++ inner ++ ")" ++ back).toList =
      front.toList ++ ('(' :: (inner.toList ++ ')' :: back.toList)) := by
    simp only [String.toList_append, List.append_assoc]
    rfl
  rwa [htext]

/-- The parentheses keep the sum together, as the value of the name was. -/
theorem ofLine_substitute_sum :
    Statement.ofLine ((∅ : Store).insert "x" 6) ("let y = 2 * " ++ "x" ++ " - 1") =
        .ok (.assignment "y" 11) ∧
      Statement.ofLine ((∅ : Store).insert "x" 6)
        ("let y = 2 * " ++ "(" ++ "2 + 4" ++ ")" ++ " - 1") = .ok (.assignment "y" 11) := by
  have hv : ((∅ : Store).insert "x" 6)["x"]? = some 6 := by simp
  have hinner : Statement.ofLine ((∅ : Store).insert "x" 6) "2 + 4" = .ok (.expression 6) := by
    decide +kernel
  have hline : Statement.ofLine ((∅ : Store).insert "x" 6) ("let y = 2 * " ++ "x" ++ " - 1") =
      .ok (.assignment "y" 11) := by decide +kernel
  have hfront : ∀ x ∈ "let y = 2 * ".toList.getLast?, isLetter x = false := by
    have hlast : "let y = 2 * ".toList.getLast? = some ' ' := by decide
    exact fun x hx => Option.some.inj (hlast.symm.trans hx) ▸ (by decide : isLetter ' ' = false)
  have hback : ∀ x ∈ " - 1".toList.head?, isLetter x = false := by
    have hhead : " - 1".toList.head? = some ' ' := by decide
    exact fun x hx => Option.some.inj (hhead.symm.trans hx) ▸ (by decide : isLetter ' ' = false)
  exact ⟨hline, ofLine_substitute (by decide) hv hinner hfront hback hline
    (fun _ _ _ => by decide) (by decide)⟩

end Calculator
