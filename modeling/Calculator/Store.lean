import Calculator.Value
import Std.Data.ExtTreeMap

/-!
# Calculator — Store

The variables and their values. A store is a finite map: two stores that agree on every name are
equal, and the size is the number of names set. `Snapshots` keeps a second store beside the
current one.
-/

namespace Calculator

/-- The values of the variables that are set, by name. -/
abbrev Store := Std.ExtTreeMap String Value

/-- A store and a saved one. -/
structure Snapshots where
  current : Store := ∅
  saved : Store := ∅

/-- A change to a store or its saved copy. -/
inductive Change where
  | set (name : String) (value : Value)
  | save
  | swap
  deriving DecidableEq, Repr

namespace Snapshots

/-- Setting reaches only the current store; saving forgets what was saved before. -/
def apply (s : Snapshots) : Change → Snapshots
  | .set name value => { s with current := s.current.insert name value }
  | .save => { s with saved := s.current }
  | .swap => ⟨s.saved, s.current⟩

end Snapshots

end Calculator
