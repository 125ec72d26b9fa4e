import Calculator.Diagnostic

/-!
# Calculator — Log

What a session tells a log. An `Event` is what happened; its level, its message and its fields are
the way it is written down.
-/

namespace Calculator.Log

/-- How much an event matters; `trace` matters least. -/
inductive Level where
  | info
  | debug
  | trace
  deriving DecidableEq, Repr

def Level.name : Level → String
  | .info => "INFO"
  | .debug => "DEBUG"
  | .trace => "TRACE"

/-- What happened. -/
inductive Event where
  | started
  | assigned (name : String) (value : Value)
  | evaluated (line : String) (value : Value)
  | failed (report : Diagnostic)
  | ended (count : Nat)
  deriving DecidableEq, Repr

namespace Event

def level : Event → Level
  | .started | .ended _ => .info
  | .assigned _ _ | .failed _ => .debug
  | .evaluated _ _ => .trace

def message : Event → String
  | .started => "session started"
  | .assigned _ _ => "assign"
  | .evaluated _ _ => "evaluated"
  | .failed _ => "line failed"
  | .ended _ => "session ended"

/-- The particulars, each under its name. -/
def fields : Event → List (String × String)
  | .started => []
  | .assigned name value => [("name", name), ("value", value.text)]
  | .evaluated line value => [("line", line), ("value", value.text)]
  | .failed report => [("error", report.entry)]
  | .ended count => [("vars", String.ofList (Nat.toDigits 10 count))]

end Event

end Calculator.Log
