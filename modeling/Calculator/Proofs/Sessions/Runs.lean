import Mathlib.Logic.Function.Basic
import Calculator.Session

/-!
# Calculator — Proofs — Sessions — Runs

Sessions over many lines.  What one line does to a session is said once: the reply comes of what
the line says (`Session.reply_submit`), and the only lines that change the variables are the
assignments, which set one name (`Session.store_submit`).  `Session.after`, `Session.replies` and
`Session.events` put lines behind each other.

`Sessions.after` hands lines to many sessions, in any order; a line reaches the session it is
handed to and no other.  `Sessions.records` keeps of every line what it met.
-/

namespace Calculator

/-! ### One line -/

/-- The value that a statement is answered with. -/
def Statement.value? : Statement → Option Value
  | .assignment _ _ => none
  | .expression value => some value

namespace Session

theorem eq_of_store {s s' : Session} (h : s.store = s'.store) : s = s' := congrArg mk h

/-- The name that a line sets, and its value. -/
def write? (s : Session) (line : String) : Option (String × Value) :=
  match Statement.ofLine s.store line with
  | .ok (.assignment name value) => some (name, value)
  | _ => none

/-- The store with the name set, if there is one to set. -/
def written (store : Store) : Option (String × Value) → Store
  | some (name, value) => store.insert name value
  | none => store

variable (s : Session) (line : String)

theorem write?_eq_some_iff {s : Session} {line name : String} {value : Value} :
    s.write? line = some (name, value) ↔
      Statement.ofLine s.store line = .ok (.assignment name value) := by
  unfold write?
  split <;> simp_all

theorem reply_submit :
    (s.submit line).reply = (Statement.ofLine s.store line).map Statement.value? := by
  unfold submit
  split <;> simp_all [Except.map, Statement.value?]

theorem store_submit : (s.submit line).session.store = written s.store (s.write? line) := by
  unfold submit write?
  split <;> simp_all [written]

/-- An assignment sets its name. -/
theorem store_submit_of_assignment {s : Session} {line name : String} {value : Value}
    (h : Statement.ofLine s.store line = .ok (.assignment name value)) :
    (s.submit line).session.store = s.store.insert name value := by
  rw [store_submit, write?_eq_some_iff.2 h, written]

/-- Only an assignment is answered with nothing. -/
theorem reply_eq_ok_none_iff {s : Session} {line : String} :
    (s.submit line).reply = .ok none ↔
      ∃ name value, Statement.ofLine s.store line = .ok (.assignment name value) := by
  rw [reply_submit]
  rcases Statement.ofLine s.store line with report | (⟨name, value⟩ | value) <;>
    simp [Except.map, Statement.value?]

/-- A line that is no assignment leaves the session as it was. -/
theorem session_submit_of_ne {s : Session} {line : String} (h : (s.submit line).reply ≠ .ok none) :
    (s.submit line).session = s := by
  unfold submit at h ⊢
  split
  · simp_all
  · rfl
  · rfl

/-! ### Many lines -/

/-- The session after lines that follow each other. -/
def after (s : Session) (lines : List String) : Session :=
  lines.foldl (fun s line => (s.submit line).session) s

/-- The replies to lines that follow each other. -/
def replies (s : Session) : List String → List (Except Diagnostic (Option Value))
  | [] => []
  | line :: lines => (s.submit line).reply :: (s.submit line).session.replies lines

/-- The events that the log gets from lines that follow each other. -/
def events (s : Session) : List String → List Log.Event
  | [] => []
  | line :: lines => (s.submit line).event :: (s.submit line).session.events lines

theorem after_cons (line : String) (lines : List String) :
    s.after (line :: lines) = (s.submit line).session.after lines := rfl

theorem after_append (lines lines' : List String) :
    s.after (lines ++ lines') = (s.after lines).after lines' :=
  List.foldl_append

theorem replies_append (lines lines' : List String) :
    s.replies (lines ++ lines') = s.replies lines ++ (s.after lines).replies lines' := by
  induction lines generalizing s with
  | nil => rfl
  | cons line lines ih => exact congrArg _ (ih _)

theorem length_replies (lines : List String) : (s.replies lines).length = lines.length := by
  induction lines generalizing s with
  | nil => rfl
  | cons line lines ih => exact congrArg _ (ih _)

/-- Each line is replied to by the session after the lines before it. -/
theorem getElem?_replies (lines : List String) (i : Nat) :
    (s.replies lines)[i]? =
      lines[i]?.map fun line => ((s.after (lines.take i)).submit line).reply := by
  induction lines generalizing s i with
  | nil => rfl
  | cons line lines ih =>
      cases i with
      | zero => rfl
      | succ i => exact ih _ i

end Session

/-! ### Many sessions -/

universe u

/-- Sessions side by side. -/
abbrev Sessions (ι : Type u) := ι → Session

/-- A line that was handed to a session, and the session as the line found it. -/
structure Record (ι : Type u) where
  seat : ι
  line : String
  found : Session

namespace Record

variable {ι : Type u} (r : Record ι)

def handed : ι × String := (r.seat, r.line)

/-- What the line brought. -/
def turn : Turn := r.found.submit r.line

/-- Whether the line was answered with nothing. -/
def assigns : Bool :=
  match r.turn.reply with
  | .ok none => true
  | _ => false

theorem assigns_eq_true_iff {r : Record ι} : r.assigns = true ↔ r.turn.reply = .ok none := by
  unfold assigns
  split <;> simp_all

end Record

namespace Sessions

variable {ι : Type u} [DecidableEq ι]

/-- Sessions that have not taken a line yet. -/
def start : Sessions ι := fun _ => {}

/-- Hands a line to a session. -/
def hand (all : Sessions ι) (p : ι × String) : Sessions ι :=
  Function.update all p.1 ((all p.1).submit p.2).session

theorem hand_self (all : Sessions ι) (k : ι) (line : String) :
    all.hand (k, line) k = ((all k).submit line).session :=
  Function.update_self ..

/-- The sessions after lines that were handed to them. -/
def after (all : Sessions ι) (history : List (ι × String)) : Sessions ι :=
  history.foldl hand all

/-- How the lines of a history found the sessions they were handed to. -/
def records (all : Sessions ι) : List (ι × String) → List (Record ι)
  | [] => []
  | p :: history => ⟨p.1, p.2, all p.1⟩ :: (all.hand p).records history

variable (all : Sessions ι) (history : List (ι × String))

theorem after_cons (p : ι × String) : all.after (p :: history) = (all.hand p).after history := rfl

theorem after_concat (p : ι × String) : all.after (history ++ [p]) = (all.after history).hand p := by
  simp [after]

theorem records_concat (p : ι × String) :
    all.records (history ++ [p]) = all.records history ++ [⟨p.1, p.2, all.after history p.1⟩] := by
  induction history generalizing all with
  | nil => rfl
  | cons q history ih => simp [records, ih, after_cons]

/-- A session goes through its own lines, whatever is handed to others in between. -/
theorem after_apply (k : ι) :
    all.after history k = (all k).after ((history.filter (·.1 = k)).map Prod.snd) := by
  induction history generalizing all with
  | nil => rfl
  | cons p history ih =>
      rw [after_cons, ih]
      by_cases h : p.1 = k
      · subst h
        simp [Session.after, hand]
      · simp [h, hand, Function.update_of_ne (Ne.symm h)]

/-- A line that is no assignment leaves all sessions as they were. -/
theorem hand_of_ne {all : Sessions ι} {p : ι × String}
    (h : ((all p.1).submit p.2).reply ≠ .ok none) : all.hand p = all := by
  rw [hand, Session.session_submit_of_ne h, Function.update_eq_self]

end Sessions

end Calculator
