import Calculator.Unicode.Ranges

/-!
# Calculator — Unicode — White space

The property White_Space of Unicode 17: the blanks, tabs and line ends of every script. The
zero-width space is not one of them.
-/

namespace Calculator.Unicode

/-- The code points that are White_Space. -/
def whiteSpace : Ranges := [
  (0x9, 0xD), (0x20, 0x20), (0x85, 0x85), (0xA0, 0xA0), (0x1680, 0x1680), (0x2000, 0x200A),
  (0x2028, 0x2029), (0x202F, 0x202F), (0x205F, 0x205F), (0x3000, 0x3000)]

theorem whiteSpace_ascending : Ranges.AscendingFrom 0 whiteSpace := by decide +kernel

example : whiteSpace.size = 25 := by decide +kernel

end Calculator.Unicode
