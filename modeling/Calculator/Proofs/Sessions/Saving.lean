import Mathlib.Data.List.Basic
import Calculator.Proofs.Language.Printing
import Calculator.Proofs.Sessions.History

/-!
# Calculator — Proofs — Sessions — Saving

A session is saved as text: one line for each variable (`Session.savedLine`), which assigns to the
name the value it has.  In any session such a line sets the name to the value
(`Session.submit_savedLine`), and the names that a session can have set are words of letters
(`Session.isName_of_mem_after`), so the saved lines can be read.  In parentheses a name is read as
a name even if the keyword begins it (`ofLine_grouped_name`).

**Saving** (`Session.saved_restores`).  The saved lines, taken in any order, bring a session back.
-/

namespace Calculator

open Statement (keyword)

/-! ### Names in parentheses -/

/-- In parentheses a name is worth what it is set to. -/
theorem ofLine_grouped_name {store : Store} {name : String} {value : Value}
    (hn : IsName name.toList) (hv : store[name]? = some value) :
    Statement.ofLine store ("(" ++ name ++ ")") = .ok (.expression value) := by
  let w : Written := .group [] (.name [] name.toList) []
  have hw : w.WellFormed 1 := ⟨blanks_nil, ⟨blanks_nil, hn⟩, blanks_nil⟩
  have hd : deepest 0 w.text ≤ maxNesting := by
    rw [Written.deepest_text hw]
    simp [w, Written.depth, maxNesting]
  have hk : ¬ keyword <+: w.text := by
    rintro ⟨rest, h⟩
    cases h
  have htext : String.ofList w.text = "(" ++ name ++ ")" := by
    rw [← String.toList_inj]
    simp [w, Written.text]
  have hvalue : w.tree.eval store = .ok value := by
    simp [w, Written.tree, Tree.eval, hv]
  rw [← htext]
  exact ((ofLine_written store (Line.wellFormed_expression hw (Written.tight_group _ _) hk hd)).1 _).2
    hvalue

namespace Session

/-! ### Saved lines -/

/-- The line that sets a name to a value. -/
def savedLine (entry : String × Value) : String :=
  "let " ++ entry.1 ++ "=" ++ entry.2.text

/-- A saved line is read as the assignment it was made from, whatever is set already. -/
theorem ofLine_savedLine (store : Store) {entry : String × Value} (hn : IsName entry.1.toList) :
    Statement.ofLine store (savedLine entry) = .ok (.assignment entry.1 entry.2) := by
  obtain ⟨name, value⟩ := entry
  let l : Line :=
    .assignment [] [' '] name.toList [] (.literal [] (.ofInt value.toInt)) []
  have hl : l.WellFormed :=
    ⟨blanks_nil, by decide, hn, blanks_nil, ⟨blanks_nil, Literal.digits_ofInt_ne_nil _,
      fun _ => Literal.isDigit_of_mem_ofInt⟩, Nat.zero_le _, blanks_nil⟩
  have hv : l.written.tree.eval store = .ok value :=
    Tree.eval_literal_eq_ok_iff.2
      ⟨Literal.digits_ofInt_ne_nil _, (Literal.number_ofInt _).symm⟩
  have htext : l.text = (savedLine (name, value)).toList := by
    simp [l, Line.text, Written.text, savedLine, Value.text, keyword]
  have h := ofChars_of_eval hl hv
  rw [htext, ← ofLine_eq_ok_iff] at h
  rw [h]
  simp [l, Line.target, Statement.make]

theorem submit_savedLine (s : Session) {entry : String × Value} (hn : IsName entry.1.toList) :
    s.submit (savedLine entry) =
      ⟨.ok none, .assigned entry.1 entry.2, ⟨s.store.insert entry.1 entry.2⟩⟩ := by
  rw [submit, ofLine_savedLine s.store hn]

/-- Saved lines assign one after the other. -/
theorem store_after_savedLines (s : Session) {entries : List (String × Value)}
    (hn : ∀ entry ∈ entries, IsName entry.1.toList) :
    (s.after (entries.map savedLine)).store =
      entries.foldl (fun store entry => store.insert entry.1 entry.2) s.store := by
  induction entries generalizing s with
  | nil => rfl
  | cons entry entries ih =>
      obtain ⟨he, hn⟩ := List.forall_mem_cons.1 hn
      rw [List.map_cons, after_cons, ih _ hn, submit_savedLine s he, List.foldl_cons]

/-- Each of them is answered with nothing. -/
theorem replies_savedLines (s : Session) {entries : List (String × Value)}
    (hn : ∀ entry ∈ entries, IsName entry.1.toList) :
    s.replies (entries.map savedLine) = entries.map fun _ => .ok none := by
  induction entries generalizing s with
  | nil => rfl
  | cons entry entries ih =>
      obtain ⟨he, hn⟩ := List.forall_mem_cons.1 hn
      rw [List.map_cons, replies, ih _ hn, submit_savedLine s he, List.map_cons]

/-! ### Sessions that are saved -/

/-- Only names can be set. -/
theorem isName_of_mem_after {lines : List String} {name : String}
    (h : name ∈ (after {} lines).store) : IsName name.toList := by
  -- a session of its own is the only one of many
  have hone : after {} lines = Sessions.start.after (lines.map fun line => ((), line)) () := by
    simp [Sessions.after_apply, Sessions.start, Function.comp_def]
  rw [hone, Sessions.store_after_start, Store.mem_ofWrites] at h
  exact Sessions.isName_of_mem_writes _ _ h

/-- **Saving.**  The entries of a session, in any order, are taken as lines by a session that is
empty at first.  Each line is answered with nothing; the session is then the one that was saved, with
the same names and the same values; and each name, in parentheses, is worth its value there, also if
the keyword begins it. -/
theorem saved_restores (lines : List String) {entries : List (String × Value)}
    (h : entries.Perm (after {} lines).store.toList) :
    replies {} (entries.map savedLine) = (entries.map fun _ => .ok none) ∧
    after {} (entries.map savedLine) = after {} lines ∧
    ∀ name value, (after {} lines).store[name]? = some value →
      ((after {} (entries.map savedLine)).submit ("(" ++ name ++ ")")).reply =
        .ok (some value) := by
  have hname {name : String} {value : Value}
      (hv : (after {} lines).store[name]? = some value) : IsName name.toList :=
    isName_of_mem_after (Std.ExtTreeMap.mem_iff_isSome_getElem?.2 (by rw [hv]; rfl))
  have hnames : ∀ entry ∈ entries, IsName entry.1.toList := fun entry he =>
    hname (Std.ExtTreeMap.mem_toList_iff_getElem?_eq_some.1 (h.mem_iff.1 he))
  have hsame : after {} (entries.map savedLine) = after {} lines :=
    eq_of_store ((store_after_savedLines {} hnames).trans (Store.ofWrites_of_perm_toList h))
  refine ⟨replies_savedLines {} hnames, hsame, fun name value hv => ?_⟩
  rw [hsame, reply_submit, ofLine_grouped_name (hname hv) hv]
  rfl

/-- The least value keeps its sign, and a name that the keyword begins is no assignment. -/
theorem saved_restores_letx :
    [("low", -9223372036854775808), ("letx", 1)].Perm (after {} ["letletx = 1",
      "let low = -9223372036854775808", "let x = low - letx"]).store.toList ∧
    replies {} ["let low=-9223372036854775808", "let letx=1"] = [.ok none, .ok none] ∧
    after {} ["let low=-9223372036854775808", "let letx=1"] =
      after {} ["letletx = 1", "let low = -9223372036854775808", "let x = low - letx"] ∧
    ((after {} ["let low=-9223372036854775808", "let letx=1"]).submit "(letx)").reply =
      .ok (some 1) := by
  let lines := ["letletx = 1", "let low = -9223372036854775808", "let x = low - letx"]
  let entries : List (String × Value) := [("low", -9223372036854775808), ("letx", 1)]
  have hlist : (after {} lines).store.toList = entries.reverse := by decide +kernel
  have h : entries.Perm (after {} lines).store.toList := hlist ▸ (List.reverse_perm entries).symm
  have hsaved : entries.map savedLine = ["let low=-9223372036854775808", "let letx=1"] := by
    decide +kernel
  have hvalue : (after {} lines).store["letx"]? = some 1 := by decide +kernel
  obtain ⟨hreplies, hsame, hread⟩ := saved_restores lines h
  have hread := hread "letx" 1 hvalue
  rw [hsaved] at hreplies hsame hread
  exact ⟨h, hreplies, hsame, hread⟩

end Session

end Calculator
