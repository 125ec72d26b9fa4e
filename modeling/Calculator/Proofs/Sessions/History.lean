import Calculator.Proofs.Reading.Names
import Calculator.Proofs.Sessions.Runs
import Calculator.Proofs.Sessions.Writes

/-!
# Calculator — Proofs — Sessions — History

What sessions remember.  A session that was empty at first holds what its own assignments have set,
every name with the value it was given last (`Sessions.store_after_start`).  The other lines leave
no trace, so a history without them goes the same way (`Sessions.records_kept`).
`sessions_remember_assignments` says both.
-/

namespace Calculator

universe u

variable {ι : Type u} [DecidableEq ι]

/-! ### What was assigned -/

namespace Sessions

variable (all : Sessions ι) (history : List (ι × String))

/-- The names that the lines of one session have set, with their values, in their order. -/
def writes (k : ι) : List (String × Value) :=
  ((all.records history).filter (·.seat = k)).filterMap fun r => r.found.write? r.line

theorem writes_concat (k : ι) (p : ι × String) :
    all.writes (history ++ [p]) k = all.writes history k ++
      if p.1 = k then ((all.after history k).write? p.2).toList else [] := by
  rw [writes, records_concat, List.filter_append, List.filterMap_append, ← writes]
  split
  · next h =>
      subst h
      cases hw : (all.after history p.1).write? p.2 <;> simp [hw]
  · next h => simp [h]

/-- A session that was empty at first holds what was assigned in it. -/
theorem store_after_start (k : ι) :
    (start.after history k).store = .ofWrites (start.writes history k) := by
  induction history using List.reverseRecOn with
  | nil => rfl
  | append_singleton history p ih =>
      rw [after_concat, writes_concat, hand]
      by_cases h : p.1 = k
      · subst h
        rw [Function.update_self, Session.store_submit, if_pos rfl, ih]
        rcases Session.write? _ p.2 with - | ⟨name, value⟩
        · simp [Session.written]
        · exact (Store.ofWrites_concat _ name value).symm
      · rw [Function.update_of_ne (Ne.symm h), if_neg h, List.append_nil, ih]

/-- A name that is assigned to is a name. -/
theorem isName_of_mem_writes {k : ι} {name : String}
    (h : name ∈ (all.writes history k).map Prod.fst) : IsName name.toList := by
  obtain ⟨⟨_, value⟩, hw, rfl⟩ := List.mem_map.1 h
  obtain ⟨r, -, hr⟩ := List.mem_filterMap.1 hw
  exact (sets_of_ofLine (Session.write?_eq_some_iff.1 hr)).2.1

/-! ### What leaves no trace -/

/-- The lines of a history that were answered with nothing. -/
def kept : List (ι × String) :=
  ((all.records history).filter Record.assigns).map Record.handed

/-- Without the lines that assign nothing, all sessions end as they did. -/
theorem after_kept : all.after (all.kept history) = all.after history := by
  induction history generalizing all with
  | nil => rfl
  | cons p history ih =>
      rw [after_cons, ← ih, kept, records, List.filter_cons]
      split
      · rfl
      · next h => rw [hand_of_ne fun hr => h (Record.assigns_eq_true_iff.2 hr), kept]

/-- Without the lines that assign nothing, every other line finds its session as it did. -/
theorem records_kept :
    all.records (all.kept history) = (all.records history).filter Record.assigns := by
  induction history generalizing all with
  | nil => rfl
  | cons p history ih =>
      rw [kept, records, List.filter_cons]
      split
      · exact congrArg _ (ih (all.hand p))
      · next h =>
          rw [hand_of_ne fun hr => h (Record.assigns_eq_true_iff.2 hr)]
          exact ih all

end Sessions

/-- **What sessions remember.**  Lines are handed to sessions that are empty at first, in any order.
A session then goes through its own lines; a name has the value that the last of them gave it that
assigned to it, or none; as many names are set as different ones were assigned to, and each is a
word of letters.  A line that is answered with a value or a failure changes no session; one that is
answered with nothing is an assignment, computed with the variables as they were before it.  Without
the lines of the first kind, all sessions end as they did, and every line of the second kind finds
its session as it did and brings the same. -/
theorem sessions_remember_assignments (history : List (ι × String)) :
    (∀ k, Sessions.start.after history k =
      Session.after {} ((history.filter (·.1 = k)).map Prod.snd)) ∧
    (∀ k name, (Sessions.start.after history k).store[name]? =
      (Sessions.start.writes history k).reverse.lookup name) ∧
    (∀ k, (Sessions.start.after history k).store.size =
      ((Sessions.start.writes history k).map Prod.fst).eraseDups.length) ∧
    (∀ k name, name ∈ (Sessions.start.after history k).store → IsName name.toList) ∧
    (∀ k line, ((Sessions.start.after history k).submit line).reply ≠ .ok none →
      Sessions.start.after (history ++ [(k, line)]) = Sessions.start.after history) ∧
    (∀ k line, ((Sessions.start.after history k).submit line).reply = .ok none →
      ∃ name value,
        Statement.ofLine (Sessions.start.after history k).store line =
          .ok (.assignment name value) ∧
        (Sessions.start.after (history ++ [(k, line)]) k).store =
          (Sessions.start.after history k).store.insert name value) ∧
    Sessions.start.after (Sessions.start.kept history) = Sessions.start.after history ∧
    Sessions.start.records (Sessions.start.kept history) =
      (Sessions.start.records history).filter Record.assigns := by
  refine ⟨Sessions.start.after_apply history, fun k name => ?_, fun k => ?_, fun k name h => ?_,
    fun k line h => ?_, fun k line h => ?_, Sessions.start.after_kept history,
    Sessions.start.records_kept history⟩
  · rw [Sessions.store_after_start, Store.getElem?_ofWrites]
  · rw [Sessions.store_after_start, Store.size_ofWrites]
  · rw [Sessions.store_after_start, Store.mem_ofWrites] at h
    exact Sessions.isName_of_mem_writes _ _ h
  · exact (Sessions.start.after_concat history (k, line)).trans (Sessions.hand_of_ne h)
  · obtain ⟨name, value, hl⟩ := Session.reply_eq_ok_none_iff.1 h
    rw [Sessions.after_concat, Sessions.hand_self]
    exact ⟨name, value, hl, Session.store_submit_of_assignment hl⟩

end Calculator
