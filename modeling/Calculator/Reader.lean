import Calculator.Cursor
import Calculator.Diagnostic

/-!
# Calculator — Reader

A reader takes something from a line at a place: it answers with what it took and the place after
it, or with a fault at the place where it cannot go on.
-/

namespace Calculator

/-- What went wrong, and where. -/
structure Fault where
  cause : Cause
  place : Cursor
  deriving DecidableEq, Repr

/-- The report of a fault in `line`. -/
def Fault.diagnostic (line : String) (f : Fault) : Diagnostic :=
  (Diagnostic.ofCause f.cause).locate f.place.column line

abbrev Reader (α : Type) := Cursor → Except Fault (α × Cursor)

end Calculator
