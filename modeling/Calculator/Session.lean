import Calculator.Log
import Calculator.Statement

/-!
# Calculator — Session

A session takes line after line and remembers the variables. Only an assignment that was read to
its end changes them; a line that fails leaves the session as it was.
-/

namespace Calculator

/-- What is remembered between lines. -/
structure Session where
  store : Store := ∅

/-- What a line brings: the reply to it, the event for the log, and the session after it. -/
structure Turn where
  /-- The value of an expression, nothing for an assignment, or the report of a failure. -/
  reply : Except Diagnostic (Option Value)
  event : Log.Event
  session : Session

namespace Session

/-- Takes a line. -/
def submit (s : Session) (line : String) : Turn :=
  match Statement.ofLine s.store line with
  | .ok (.assignment name value) =>
    ⟨.ok none, .assigned name value, ⟨s.store.insert name value⟩⟩
  | .ok (.expression value) => ⟨.ok (some value), .evaluated line value, s⟩
  | .error report => ⟨.error report, .failed report, s⟩

end Session

end Calculator
