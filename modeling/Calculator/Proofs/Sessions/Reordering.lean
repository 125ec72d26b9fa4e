import Calculator.Proofs.Reading.Names
import Calculator.Proofs.Sessions.Runs
import Calculator.Proofs.Sessions.Writes

/-!
# Calculator — Proofs — Sessions — Reordering

Lines that have nothing to do with each other can be taken in either order.  Two lines are in
conflict if one of them sets a name that the other sets or reads (`Line.Conflict`); all of it is
seen in their texts, whether they are read to the end or not.  Two lines without a conflict get the
same replies in either order and leave the same variables (`Session.ofLine_after`,
`Session.after_exchange`).

**Reordering** (`reordered_lines_reply_alike`).  Lines that are reordered by exchanging such
neighbours, one pair after the other, each get the reply they got, and leave the same variables.
-/

namespace Calculator

open Line

/-- One of the lines sets a name that the other sets or reads. -/
def Line.Conflict (line line' : List Char) : Prop :=
  ∃ name, (Sets line name ∧ (Sets line' name ∨ Reads line' name)) ∨
    (Reads line name ∧ Sets line' name)

theorem Line.Conflict.symm {line line' : List Char} (h : Conflict line line') :
    Conflict line' line := by
  obtain ⟨name, ⟨hs, hs' | hr⟩ | ⟨hr, hs⟩⟩ := h
  · exact ⟨name, .inl ⟨hs', .inl hs⟩⟩
  · exact ⟨name, .inr ⟨hr, hs⟩⟩
  · exact ⟨name, .inl ⟨hs, .inr hr⟩⟩

/-! ### Two lines -/

namespace Session

variable {s : Session} {line line' : String}

/-- A line is read behind another as if it were alone, if they are not in conflict. -/
theorem ofLine_after (h : ¬ Conflict line.toList line'.toList) :
    Statement.ofLine (s.submit line).session.store line' = Statement.ofLine s.store line' := by
  rw [store_submit]
  cases hw : s.write? line with
  | none => rfl
  | some write =>
      obtain ⟨name, value⟩ := write
      refine ofLine_congr fun letters hr => ?_
      have hne : name ≠ String.ofList letters := by
        rintro rfl
        have hs := sets_of_ofLine (write?_eq_some_iff.1 hw)
        rw [String.toList_ofList] at hs
        exact h ⟨letters, .inl ⟨hs, .inr hr⟩⟩
      rw [written, Store.getElem?_insert, if_neg hne]

theorem reply_after (h : ¬ Conflict line.toList line'.toList) :
    ((s.submit line).session.submit line').reply = (s.submit line').reply := by
  rw [reply_submit, reply_submit, ofLine_after h]

theorem write?_after (h : ¬ Conflict line.toList line'.toList) :
    (s.submit line).session.write? line' = s.write? line' := by
  rw [write?, write?, ofLine_after h]

/-- Lines that are not in conflict leave the same session in either order. -/
theorem session_exchange (h : ¬ Conflict line.toList line'.toList) :
    ((s.submit line).session.submit line').session =
      ((s.submit line').session.submit line).session := by
  have h' := mt Line.Conflict.symm h
  refine eq_of_store ?_
  rw [store_submit, store_submit, store_submit, store_submit, write?_after h, write?_after h']
  cases hw : s.write? line with
  | none => rfl
  | some write =>
      cases hw' : s.write? line' with
      | none => rfl
      | some write' =>
          have hs := sets_of_ofLine (write?_eq_some_iff.1 hw)
          have hs' := sets_of_ofLine (write?_eq_some_iff.1 hw')
          exact Store.insert_comm _ _ _ fun hne => h ⟨_, .inl ⟨hs, .inl (hne ▸ hs')⟩⟩

end Session

/-! ### Many lines -/

/-- The reorderings of a list that exchange independent neighbours, one pair after the other. -/
inductive Reordering {α : Type} (Independent : α → α → Prop) (l : List α) : List α → Prop where
  | refl : Reordering Independent l l
  | exchange {front back : List α} {a b : α} (h : Reordering Independent l (front ++ a :: b :: back))
      (hab : Independent a b) : Reordering Independent l (front ++ b :: a :: back)

namespace Session

/-- The lines with the replies to them.  A number tells the line apart from others like it. -/
def answers (s : Session) (lines : List (String × Nat)) :
    List ((String × Nat) × Except Diagnostic (Option Value)) :=
  lines.zip (s.replies (lines.map Prod.fst))

variable {s : Session}

theorem answers_append (lines lines' : List (String × Nat)) :
    s.answers (lines ++ lines') =
      s.answers lines ++ (s.after (lines.map Prod.fst)).answers lines' := by
  rw [answers, List.map_append, replies_append, List.zip_append]
  · rfl
  · rw [length_replies, List.length_map]

theorem answers_cons (line : String × Nat) (lines : List (String × Nat)) :
    s.answers (line :: lines) =
      (line, (s.submit line.1).reply) :: (s.submit line.1).session.answers lines := rfl

/-- The number of a line says where it stands. -/
theorem getElem?_of_mem_answers {lines : List String} {line : String} {i : Nat}
    {reply : Except Diagnostic (Option Value)}
    (h : ((line, i), reply) ∈ s.answers lines.zipIdx) :
    lines[i]? = some line ∧ (s.replies lines)[i]? = some reply := by
  have hlines : lines.zipIdx.map Prod.fst = lines := by simp
  obtain ⟨k, hk⟩ := List.getElem?_of_mem h
  rw [answers, hlines, List.getElem?_zip_eq_some, List.getElem?_zipIdx,
    Option.map_eq_some_iff] at hk
  obtain ⟨⟨_, hline, heq⟩, hreply⟩ := hk
  obtain ⟨rfl, rfl⟩ := Prod.mk.inj heq
  rw [Nat.zero_add]
  exact ⟨hline, hreply⟩

/-- The lines of a reordering get the replies they got, and leave the same session. -/
theorem answers_perm {lines lines' : List (String × Nat)}
    (h : Reordering (fun a b => ¬ Line.Conflict a.1.toList b.1.toList) lines lines') :
    (s.answers lines').Perm (s.answers lines) ∧
      s.after (lines'.map Prod.fst) = s.after (lines.map Prod.fst) := by
  induction h with
  | refl => exact ⟨.refl _, rfl⟩
  | @exchange front back a b _ hab ih =>
      have hba := mt Line.Conflict.symm hab
      refine ⟨.trans ?_ ih.1, .trans ?_ ih.2⟩
      · rw [answers_append, answers_append, answers_cons, answers_cons, answers_cons, answers_cons,
          reply_after hab, reply_after hba, session_exchange hab]
        exact (List.Perm.swap ..).append_left _
      · simp only [List.map_append, List.map_cons, after_append, after_cons, session_exchange hab]

end Session

/-- **Reordering.**  Lines that a session takes are reordered by exchanging neighbours that are not
in conflict, one pair after the other.  Then each of them gets the reply that it got before, and the
session is left with the same values of the same names. -/
theorem reordered_lines_reply_alike (s : Session) {lines : List String}
    {lines' : List (String × Nat)}
    (h : Reordering (fun a b => ¬ Line.Conflict a.1.toList b.1.toList) lines.zipIdx lines') :
    (∀ (j i : Nat) (line : String), lines'[j]? = some (line, i) → lines[i]? = some line ∧
      ∃ reply, (s.replies (lines'.map Prod.fst))[j]? = some reply ∧
        (s.replies lines)[i]? = some reply) ∧
    s.after (lines'.map Prod.fst) = s.after lines := by
  obtain ⟨hperm, hafter⟩ := Session.answers_perm (s := s) h
  refine ⟨fun j i line hj => ?_, hafter.trans (by simp)⟩
  have hlt : j < (s.replies (lines'.map Prod.fst)).length := by
    rw [Session.length_replies, List.length_map]
    exact (List.getElem?_eq_some_iff.1 hj).1
  obtain ⟨reply, hr⟩ : ∃ reply, (s.replies (lines'.map Prod.fst))[j]? = some reply :=
    ⟨_, List.getElem?_eq_getElem hlt⟩
  have hmem : ((line, i), reply) ∈ s.answers lines' :=
    List.mem_of_getElem? (i := j) (List.getElem?_zip_eq_some.2 ⟨hj, hr⟩)
  obtain ⟨hline, hreply⟩ := Session.getElem?_of_mem_answers (hperm.subset hmem)
  exact ⟨hline, reply, hr, hreply⟩

theorem not_conflict_glued :
    ¬ Line.Conflict "letter = 5".toList "let y = 1 / x".toList := by
  rintro ⟨name, ⟨⟨-, -, hs⟩, ⟨-, -, hs'⟩ | hr⟩ | ⟨hr, -, -, hs⟩⟩
  · exact absurd (hs.trans hs'.symm) (by decide)
  · subst hs
    exact absurd (hr.mem (x := 't') (by decide)) (by decide)
  · subst hs
    exact absurd (hr.mem (x := 'y') (by decide)) (by decide)

/-- The first line assigns to `ter`, for the keyword needs no blank behind it; the second fails. -/
theorem reordered_lines_reply_alike_glued :
    Reordering (fun a b => ¬ Line.Conflict a.1.toList b.1.toList)
      ["letter = 5", "let y = 1 / x"].zipIdx [("let y = 1 / x", 1), ("letter = 5", 0)] ∧
    (∃ reply, (Session.replies {} ["let y = 1 / x", "letter = 5"])[0]? = some reply ∧
      (Session.replies {} ["letter = 5", "let y = 1 / x"])[1]? = some reply) ∧
    Session.after {} ["let y = 1 / x", "letter = 5"] =
      Session.after {} ["letter = 5", "let y = 1 / x"] := by
  have h : Reordering (fun a b => ¬ Line.Conflict a.1.toList b.1.toList)
      ["letter = 5", "let y = 1 / x"].zipIdx [("let y = 1 / x", 1), ("letter = 5", 0)] :=
    @Reordering.exchange _ _ _ [] [] _ _ .refl not_conflict_glued
  obtain ⟨hreplies, hafter⟩ := reordered_lines_reply_alike {} h
  exact ⟨h, (hreplies 0 1 _ rfl).2, hafter⟩

end Calculator
