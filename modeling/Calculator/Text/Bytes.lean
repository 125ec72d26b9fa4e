/-!
# Calculator — Text — Bytes

Lengths of text in UTF-8 bytes. `takeBytes` and `dropBytes` cut a text at a number of bytes; they
undo `++` when the cut falls between two characters (`takeBytes_append`, `dropBytes_append`).
-/

namespace Calculator.Text

/-- The number of bytes `text` takes in UTF-8. -/
def byteSize : List Char → Nat
  | [] => 0
  | c :: rest => c.utf8Size + byteSize rest

/-- The longest beginning of the text that fits in `n` bytes. -/
def takeBytes : Nat → List Char → List Char
  | _, [] => []
  | n, c :: rest => if c.utf8Size ≤ n then c :: takeBytes (n - c.utf8Size) rest else []

/-- What `takeBytes` leaves. -/
def dropBytes : Nat → List Char → List Char
  | _, [] => []
  | n, c :: rest => if c.utf8Size ≤ n then dropBytes (n - c.utf8Size) rest else c :: rest

@[simp]
theorem byteSize_nil : byteSize [] = 0 := rfl

@[simp]
theorem byteSize_cons (c : Char) (rest : List Char) :
    byteSize (c :: rest) = c.utf8Size + byteSize rest := rfl

@[simp]
theorem byteSize_append (a b : List Char) : byteSize (a ++ b) = byteSize a + byteSize b := by
  induction a with
  | nil => simp
  | cons c rest ih => simp [ih, Nat.add_assoc]

@[simp]
theorem byteSize_reverse (text : List Char) : byteSize text.reverse = byteSize text := by
  induction text with
  | nil => rfl
  | cons c rest ih => simp [ih, Nat.add_comm]

theorem byteSize_ofList (text : List Char) :
    (String.ofList text).utf8ByteSize = byteSize text := by
  induction text with
  | nil => simp [String.ofList_nil]
  | cons c rest ih =>
    have : String.ofList (c :: rest) = String.singleton c ++ String.ofList rest := by
      rw [String.singleton_eq_ofList, ← String.ofList_append]
      rfl
    rw [this, String.utf8ByteSize_append, String.utf8ByteSize_singleton, ih, byteSize_cons]

/-- The length of a string in bytes is that of its characters. -/
theorem byteSize_toList (text : String) : byteSize text.toList = text.utf8ByteSize := by
  rw [← byteSize_ofList, String.ofList_toList]

theorem takeBytes_append_dropBytes (n : Nat) (text : List Char) :
    takeBytes n text ++ dropBytes n text = text := by
  induction text generalizing n with
  | nil => rfl
  | cons c rest ih =>
    by_cases h : c.utf8Size ≤ n
    · simp [takeBytes, dropBytes, h, ih]
    · simp [takeBytes, dropBytes, h]

theorem takeBytes_zero (text : List Char) : takeBytes 0 text = [] := by
  cases text with
  | nil => rfl
  | cons c rest =>
    have := c.utf8Size_pos
    rw [takeBytes, if_neg (by omega)]

/-- A cut at the end of `a` gives `a` back. -/
theorem takeBytes_append (a b : List Char) : takeBytes (byteSize a) (a ++ b) = a := by
  induction a with
  | nil => exact takeBytes_zero b
  | cons c rest ih =>
    rw [List.cons_append, takeBytes, byteSize_cons, if_pos (by omega), Nat.add_sub_cancel_left, ih]

/-- A cut at the end of `a` leaves `b`. -/
theorem dropBytes_append (a b : List Char) : dropBytes (byteSize a) (a ++ b) = b := by
  have h := takeBytes_append_dropBytes (byteSize a) (a ++ b)
  rw [takeBytes_append] at h
  exact List.append_cancel_left h

end Calculator.Text
