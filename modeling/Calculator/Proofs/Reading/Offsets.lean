import Calculator.Proofs.Reading.Passage

/-!
# Calculator — Proofs — Reading — Offsets

A place in a line can be kept as a number of bytes.  A `ByteCursor` is no more than that: what it
tells and where it goes it finds by cutting a text at a number of bytes (`Text.cut?`), and a cut
inside a character has no outcome.  Nor has a step back over more bytes than there are.

`Cursor.Step` says what a move answers and where it leads, in terms of the text before the place
and the text after it.  A place that is kept as these two texts takes such steps
(`Cursor.step_perform`), and one that is kept as a number of bytes takes the same
(`ByteCursor.perform?_of_step`).

**Bytes** (`byteCursor_refines_split`).  Along any allowed moves from the beginning of a line the
number of bytes stands for the line in two parts: it is the size of the first part, and every cut
on the way is between two characters.
-/

namespace Calculator

/-! ### Cutting a text at a number of bytes -/

namespace Text

/-- The first `n` bytes of a text and the bytes after them; none where the cut is not between two
characters. -/
def cut? (n : Nat) (text : String) : Option (String × String) :=
  if h : (⟨n⟩ : String.Pos.Raw).IsValid text then
    some ((text.sliceTo (text.pos ⟨n⟩ h)).copy, (text.sliceFrom (text.pos ⟨n⟩ h)).copy)
  else none

theorem cut?_eq_some_iff {n : Nat} {text u v : String} :
    cut? n text = some (u, v) ↔ text = u ++ v ∧ u.utf8ByteSize = n := by
  unfold cut?
  split
  next h =>
    have splits := (text.pos ⟨n⟩ h).splits
    constructor
    · intro e
      obtain ⟨rfl, rfl⟩ := Prod.mk.inj (Option.some.inj e)
      refine ⟨splits.eq_append, ?_⟩
      have := splits.offset_eq_rawEndPos
      rw [String.offset_pos, String.Pos.Raw.ext_iff] at this
      exact this.symm
    · rintro ⟨e, hn⟩
      have splits' : (text.pos ⟨n⟩ h).Splits u v :=
        ⟨e, by rw [String.offset_pos, String.Pos.Raw.ext_iff]; exact hn.symm⟩
      rw [splits.eq_left splits', splits.eq_right splits']
  next h =>
    simp only [reduceCtorEq, false_iff, not_and]
    rintro rfl rfl
    exact h (String.Pos.Raw.isValid_iff_exists_append.2 ⟨u, v, rfl, rfl⟩)

/-- A text can be cut where one part of it ends. -/
theorem cut?_byteSize {text : String} {u v : List Char} (h : u ++ v = text.toList) :
    cut? (byteSize u) text = some (String.ofList u, String.ofList v) := by
  rw [cut?_eq_some_iff, ← String.ofList_append, h, String.ofList_toList, byteSize_ofList]
  exact ⟨rfl, rfl⟩

/-- The end of a part of a text is between two of its characters. -/
theorem isValid_byteSize {text : String} {u v : List Char} (h : u ++ v = text.toList) :
    (⟨byteSize u⟩ : String.Pos.Raw).IsValid text := by
  refine String.Pos.Raw.isValid_iff_exists_append.2 ⟨String.ofList u, String.ofList v, ?_, ?_⟩
  · rw [← String.ofList_append, h, String.ofList_toList]
  · rw [String.Pos.Raw.ext_iff]
    exact (byteSize_ofList u).symm

theorem byteSize_le {text : String} {u v : List Char} (h : u ++ v = text.toList) :
    byteSize u ≤ text.utf8ByteSize := by
  rw [← byteSize_toList, ← h, byteSize_append]
  exact Nat.le_add_right _ _

end Text

/-! ### Places kept in bytes -/

/-- A place in a line: the number of bytes before it. -/
structure ByteCursor (line : String) where
  position : Nat
  deriving DecidableEq, Repr

namespace ByteCursor

variable {line : String}

def start (line : String) : ByteCursor line := ⟨0⟩

/-- The place `n` bytes further on. -/
def forward (n : Nat) (b : ByteCursor line) : ByteCursor line := ⟨b.position + n⟩

/-- The text before the place. -/
def consumed? (b : ByteCursor line) : Option String := (Text.cut? b.position line).map Prod.fst

/-- The text after the place. -/
def rest? (b : ByteCursor line) : Option String := (Text.cut? b.position line).map Prod.snd

def column? (b : ByteCursor line) : Option Nat := b.consumed?.map String.length

def atEnd (b : ByteCursor line) : Bool := b.position == line.utf8ByteSize

/-- The next character, or that there is none. -/
def peek? (b : ByteCursor line) : Option (Option Char) := b.rest?.map (·.toList.head?)

/-- The text from `n` bytes up to the place. -/
def textFrom? (n : Nat) (b : ByteCursor line) : Option String :=
  b.consumed?.bind fun text => (Text.cut? n text).map Prod.snd

def next? (b : ByteCursor line) : Option (Option Char × ByteCursor line) :=
  b.peek?.map fun
    | some x => (some x, b.forward x.utf8Size)
    | none => (none, b)

def skipIf? (p : Char → Bool) (b : ByteCursor line) : Option (Bool × ByteCursor line) :=
  b.peek?.map fun
    | some x => if p x then (true, b.forward x.utf8Size) else (false, b)
    | none => (false, b)

def skipText? (text : String) (b : ByteCursor line) : Option (Bool × ByteCursor line) :=
  b.rest?.map fun rest =>
    if rest.startsWith text then (true, b.forward text.utf8ByteSize) else (false, b)

/-- Passing over a character goes on, and not beyond the line. -/
theorem position_lt_of_skipIf? {p : Char → Bool} {b d : ByteCursor line}
    (h : b.skipIf? p = some (true, d)) :
    b.position < d.position ∧ d.position ≤ line.utf8ByteSize := by
  obtain ⟨next, hnext, h⟩ := Option.map_eq_some_iff.1 h
  obtain ⟨rest, hrest, hx⟩ := Option.map_eq_some_iff.1 hnext
  obtain ⟨⟨u, v⟩, hcut, rfl⟩ := Option.map_eq_some_iff.1 hrest
  obtain ⟨hline, hu⟩ := Text.cut?_eq_some_iff.1 hcut
  have hsize := congrArg String.utf8ByteSize hline
  rw [String.utf8ByteSize_append] at hsize
  cases next with
  | none => cases h
  | some x =>
      obtain ⟨rest, hv⟩ := List.head?_eq_some_iff.1 hx
      have hvsize : x.utf8Size + Text.byteSize rest = v.utf8ByteSize := by
        rw [← Text.byteSize_toList v, hv, Text.byteSize_cons]
      have hpos := x.utf8Size_pos
      dsimp only at h
      split at h
      · obtain ⟨-, rfl⟩ := Prod.mk.inj h
        simp only [forward]
        omega
      · cases h

/-- The place after the characters of `p` that come next, passed over one by one. -/
def skipWhile? (p : Char → Bool) (b : ByteCursor line) : Option (ByteCursor line) :=
  match _h : b.skipIf? p with
  | none => none
  | some (false, d) => some d
  | some (true, d) => d.skipWhile? p
termination_by line.utf8ByteSize - b.position
decreasing_by
  have := position_lt_of_skipIf? _h
  omega

/-- The characters of `p` that come next and the place after them. -/
def takeWhile? (p : Char → Bool) (b : ByteCursor line) : Option (String × ByteCursor line) :=
  (b.skipWhile? p).bind fun d => (d.textFrom? b.position).map fun text => (text, d)

/-- The place `n` bytes back. -/
def back? (n : Nat) (b : ByteCursor line) : Option (ByteCursor line) :=
  if n ≤ b.position then some ⟨b.position - n⟩ else none

end ByteCursor

/-! ### Moves -/

namespace Cursor

/-- What can be asked of a place, and the ways to go on from it. -/
inductive Move where
  | atEnd
  | column
  | offset
  | peek
  | rest
  | textFrom (offset : Nat)
  | next
  | skipChar (x : Char)
  | skipIf (p : Char → Bool)
  | skipText (text : String)
  | takeWhile (p : Char → Bool)
  | skipBlanks
  | back (n : Nat)

/-- What a move answers. -/
inductive Answer where
  | done
  | flag (value : Bool)
  | number (value : Nat)
  | character (found : Option Char)
  | text (found : List Char)
  deriving DecidableEq

/-- The answer of a move that may not apply, and the place after it. -/
def moved (c : Cursor) : Option Cursor → Answer × Cursor
  | some d => (.flag true, d)
  | none => (.flag false, c)

/-- What a move answers, and the place after it. -/
def perform (c : Cursor) : Move → Answer × Cursor
  | .atEnd => (.flag c.atEnd, c)
  | .column => (.number c.column, c)
  | .offset => (.number c.offset, c)
  | .peek => (.character c.peek?, c)
  | .rest => (.text c.after, c)
  | .textFrom offset => (.text (c.textFrom offset), c)
  | .next =>
    match c.next? with
    | some (x, d) => (.character (some x), d)
    | none => (.character none, c)
  | .skipChar x => c.moved (c.skipChar? x)
  | .skipIf p => c.moved (c.skipIf? p)
  | .skipText text => c.moved (c.skipText? text.toList)
  | .takeWhile p => (.text (c.takeWhile p).1, (c.takeWhile p).2)
  | .skipBlanks => (.done, c.skipBlanks)
  | .back n => (.done, c.back n)

def performAll (c : Cursor) : List Move → List Answer × Cursor
  | [] => ([], c)
  | m :: moves =>
    let (a, d) := c.perform m
    let (answers, e) := d.performAll moves
    (a :: answers, e)

/-- A text is asked for from the end of a beginning of what is consumed, and a step back is over
an end of it. -/
def Allows (c : Cursor) : Move → Prop
  | .textFrom offset => ∃ u, u <+: c.consumed ∧ Text.byteSize u = offset
  | .back n => ∃ u, u <:+ c.consumed ∧ Text.byteSize u = n
  | _ => True

/-- Each of the moves is allowed where it comes. -/
def AllowsAll (c : Cursor) : List Move → Prop
  | [] => True
  | m :: moves => c.Allows m ∧ (c.perform m).2.AllowsAll moves

end Cursor

/-- What a move answers, and the place after it, in bytes. -/
def ByteCursor.perform? {line : String} (b : ByteCursor line) :
    Cursor.Move → Option (Cursor.Answer × ByteCursor line)
  | .atEnd => some (.flag b.atEnd, b)
  | .column => b.column?.map fun n => (.number n, b)
  | .offset => some (.number b.position, b)
  | .peek => b.peek?.map fun x => (.character x, b)
  | .rest => b.rest?.map fun text => (.text text.toList, b)
  | .textFrom offset => (b.textFrom? offset).map fun text => (.text text.toList, b)
  | .next => b.next?.map fun (x, d) => (.character x, d)
  | .skipChar x => (b.skipIf? (· == x)).map fun (met, d) => (.flag met, d)
  | .skipIf p => (b.skipIf? p).map fun (met, d) => (.flag met, d)
  | .skipText text => (b.skipText? text).map fun (met, d) => (.flag met, d)
  | .takeWhile p => (b.takeWhile? p).map fun (text, d) => (.text text.toList, d)
  | .skipBlanks => (b.takeWhile? isBlank).map fun (_, d) => (.done, d)
  | .back n => (b.back? n).map fun d => (.done, d)

def ByteCursor.performAll? {line : String} (b : ByteCursor line) :
    List Cursor.Move → Option (List Cursor.Answer × ByteCursor line)
  | [] => some ([], b)
  | m :: moves =>
    (b.perform? m).bind fun (a, d) =>
      (d.performAll? moves).map fun (answers, e) => (a :: answers, e)

/-! ### What a move does -/

namespace Cursor

/-- `Step c m a d` says that the move `m` from `c` answers `a` and leads to `d`. -/
inductive Step (c : Cursor) : Move → Answer → Cursor → Prop where
  | atEnd : Step c .atEnd (.flag (decide (c.after = []))) c
  | column : Step c .column (.number c.consumed.length) c
  | offset : Step c .offset (.number (Text.byteSize c.consumed)) c
  | peek : Step c .peek (.character c.after.head?) c
  | rest : Step c .rest (.text c.after) c
  | textFrom {u v : List Char} (h : c.consumed = u ++ v) :
      Step c (.textFrom (Text.byteSize u)) (.text v) c
  | next {x : Char} {d : Cursor} (h : c.Passes [x] d) : Step c .next (.character (some x)) d
  | noNext (h : c.after = []) : Step c .next (.character none) c
  | skipChar {x : Char} {d : Cursor} (h : c.Passes [x] d) : Step c (.skipChar x) (.flag true) d
  | noChar {x : Char} (h : c.after.head? ≠ some x) : Step c (.skipChar x) (.flag false) c
  | skipIf {p : Char → Bool} {x : Char} {d : Cursor} (h : c.Passes [x] d) (hx : p x = true) :
      Step c (.skipIf p) (.flag true) d
  | noneOf {p : Char → Bool} (h : Stops p c.after) : Step c (.skipIf p) (.flag false) c
  | skipText {text : String} {d : Cursor} (h : c.Passes text.toList d) :
      Step c (.skipText text) (.flag true) d
  | noText {text : String} (h : ¬ text.toList <+: c.after) :
      Step c (.skipText text) (.flag false) c
  | takeWhile {p : Char → Bool} {u : List Char} {d : Cursor} (h : c.Passes u d)
      (hu : ∀ x ∈ u, p x = true) (hd : Stops p d.after) : Step c (.takeWhile p) (.text u) d
  | skipBlanks {u : List Char} {d : Cursor} (h : c.Passes u d)
      (hu : ∀ x ∈ u, isBlank x = true) (hd : Stops isBlank d.after) : Step c .skipBlanks .done d
  | back {u : List Char} {d : Cursor} (h : d.Passes u c) :
      Step c (.back (Text.byteSize u)) .done d

/-- `Steps c moves answers d` says that the moves lead from `c` to `d` and answer `answers`. -/
inductive Steps : Cursor → List Move → List Answer → Cursor → Prop where
  | stop (c : Cursor) : Steps c [] [] c
  | step {c d e : Cursor} {m : Move} {a : Answer} {moves : List Move} {answers : List Answer}
      (h : c.Step m a d) (h' : Steps d moves answers e) : Steps c (m :: moves) (a :: answers) e

/-- A step stays in the line. -/
theorem Step.line {c d : Cursor} {m : Move} {a : Answer} (h : c.Step m a d) : d.line = c.line := by
  cases h with
  | atEnd | column | offset | peek | rest | textFrom | noNext | noChar | noneOf | noText => rfl
  | next h | skipChar h | skipIf h | skipText h | takeWhile h | skipBlanks h => exact h.line
  | back h => exact h.line.symm

/-! ### Places kept as texts -/

theorem column_eq (c : Cursor) : c.column = c.consumed.length := by
  rw [column, consumed, List.length_reverse]

theorem Passes.offset {c d : Cursor} {u : List Char} (h : c.Passes u d) :
    d.offset = c.offset + Text.byteSize u := by
  simp [Cursor.offset, h.2, Nat.add_comm]

theorem passes_back {c : Cursor} {u : List Char} (h : u <:+ c.consumed) :
    (c.back (Text.byteSize u)).Passes u c := by
  obtain ⟨w, h⟩ := h
  have hbefore : c.before = u.reverse ++ w.reverse := by
    rw [← List.reverse_append, h, consumed, List.reverse_reverse]
  have hp : (⟨w.reverse, u ++ c.after⟩ : Cursor).Passes u c := ⟨rfl, hbefore⟩
  rwa [hp.back_eq]

theorem step_moved {c : Cursor} {m : Move} {found : Option Cursor}
    (hsome : ∀ d, found = some d → c.Step m (.flag true) d)
    (hnone : found = none → c.Step m (.flag false) c) :
    c.Step m (c.moved found).1 (c.moved found).2 := by
  cases found with
  | none => exact hnone rfl
  | some d => exact hsome d rfl

theorem skipIf?_eq_none_iff {c : Cursor} {p : Char → Bool} :
    c.skipIf? p = none ↔ Stops p c.after := by
  obtain ⟨before, after⟩ := c
  cases after with
  | nil => simp [skipIf?]
  | cons x rest => simp [skipIf?]

/-- **Moves of a place are steps** (`step_perform`). -/
theorem step_perform {c : Cursor} {m : Move} (h : c.Allows m) :
    c.Step m (c.perform m).1 (c.perform m).2 := by
  cases m with
  | atEnd =>
      have : c.atEnd = decide (c.after = []) := Bool.eq_iff_iff.2 (by simp [atEnd_iff])
      simpa only [perform, this] using Step.atEnd
  | column => simpa only [perform, column_eq] using Step.column
  | offset => simpa only [perform, offset_eq] using Step.offset
  | peek => exact .peek
  | rest => exact .rest
  | textFrom n =>
      obtain ⟨u, ⟨v, hv⟩, rfl⟩ := h
      have : c.textFrom (Text.byteSize u) = v := by rw [textFrom, ← hv, Text.dropBytes_append]
      simpa only [perform, this] using Step.textFrom hv.symm
  | next =>
      cases hnext : c.next? with
      | some found =>
          obtain ⟨x, d⟩ := found
          simpa only [perform, hnext] using Step.next (passes_singleton_iff.2 hnext)
      | none =>
          have : c.after = [] := by
            unfold next? at hnext
            split at hnext
            · assumption
            · cases hnext
          simpa only [perform, hnext] using Step.noNext this
  | skipChar x =>
      exact step_moved (fun d hd => .skipChar (skipChar?_eq_some_iff.1 hd))
        (fun hd => .noChar (skipChar?_eq_none_iff.1 hd))
  | skipIf p =>
      refine step_moved (fun d hd => ?_) (fun hd => .noneOf (skipIf?_eq_none_iff.1 hd))
      obtain ⟨x, hx, hafter, hbefore⟩ := skipIf?_eq_some_iff.1 hd
      exact .skipIf ⟨hafter, hbefore⟩ hx
  | skipText text =>
      exact step_moved (fun d hd => .skipText (passes_text_iff.2 hd))
        (fun hd => .noText (skipText?_eq_none_iff.1 hd))
  | takeWhile p =>
      exact .takeWhile (passes_skipWhile p c) (List.all_eq_true.1 List.all_takeWhile)
        (stops_dropWhile p _)
  | skipBlanks =>
      exact .skipBlanks (passes_skipWhile isBlank c) (List.all_eq_true.1 List.all_takeWhile)
        (stops_dropWhile isBlank _)
  | back n =>
      obtain ⟨u, hu, rfl⟩ := h
      exact .back (passes_back hu)

end Cursor

/-! ### Places kept in bytes, beside the texts -/

namespace ByteCursor

variable {line : String} {c d : Cursor}

/-- The place with the same text before it. -/
def of (line : String) (c : Cursor) : ByteCursor line := ⟨c.offset⟩

theorem forward_of {u : List Char} (h : c.Passes u d) :
    (of line c).forward (Text.byteSize u) = of line d := by
  rw [forward, of, of, h.offset]

theorem forward_of_next {x : Char} (h : c.Passes [x] d) :
    (of line c).forward x.utf8Size = of line d := by
  rw [← forward_of h, Text.byteSize_cons, Text.byteSize_nil, Nat.add_zero]

theorem consumed?_of (h : c.line = line.toList) :
    (of line c).consumed? = some (String.ofList c.consumed) := by
  rw [consumed?, of, Cursor.offset_eq, Text.cut?_byteSize h, Option.map_some]

theorem rest?_of (h : c.line = line.toList) :
    (of line c).rest? = some (String.ofList c.after) := by
  rw [rest?, of, Cursor.offset_eq, Text.cut?_byteSize h, Option.map_some]

theorem column?_of (h : c.line = line.toList) : (of line c).column? = some c.column := by
  rw [column?, consumed?_of h, Option.map_some, String.length_ofList, Cursor.column_eq]

theorem peek?_of (h : c.line = line.toList) : (of line c).peek? = some c.after.head? := by
  rw [peek?, rest?_of h, Option.map_some, String.toList_ofList]

theorem atEnd_of (h : c.line = line.toList) : (of line c).atEnd = decide (c.after = []) := by
  have hsize : line.utf8ByteSize = Text.byteSize c.consumed + Text.byteSize c.after := by
    rw [← Text.byteSize_toList, ← h, Cursor.line, Text.byteSize_append]
  rw [atEnd, of, Cursor.offset_eq, hsize, Bool.eq_iff_iff, beq_iff_eq, decide_eq_true_iff]
  cases c.after with
  | nil => simp
  | cons x rest =>
      have := x.utf8Size_pos
      simp only [Text.byteSize_cons, reduceCtorEq, iff_false]
      omega

theorem textFrom?_of {u v : List Char} (h : c.line = line.toList) (hu : c.consumed = u ++ v) :
    (of line c).textFrom? (Text.byteSize u) = some (String.ofList v) := by
  have hcut := Text.cut?_byteSize (String.toList_ofList (l := u ++ v)).symm
  rw [textFrom?, consumed?_of h, hu, Option.bind_some, hcut, Option.map_some]

/-- The text from where a passage began is what was passed over. -/
theorem textFrom?_of_passes {u : List Char} (h : c.line = line.toList) (hp : c.Passes u d) :
    (of line d).textFrom? (of line c).position = some (String.ofList u) := by
  have hconsumed : d.consumed = c.consumed ++ u := by
    rw [Cursor.consumed, hp.2, List.reverse_append, List.reverse_reverse, Cursor.consumed]
  rw [of, of, Cursor.offset_eq c]
  exact textFrom?_of (hp.line.trans h) hconsumed

theorem next?_of_passes {x : Char} (h : c.line = line.toList) (hp : c.Passes [x] d) :
    (of line c).next? = some (some x, of line d) := by
  simp [next?, peek?_of h, hp.1, forward_of_next hp]

theorem next?_of_nil (h : c.line = line.toList) (hc : c.after = []) :
    (of line c).next? = some (none, of line c) := by
  simp [next?, peek?_of h, hc]

theorem skipIf?_of_passes {p : Char → Bool} {x : Char} (h : c.line = line.toList)
    (hp : c.Passes [x] d) (hx : p x = true) :
    (of line c).skipIf? p = some (true, of line d) := by
  simp [skipIf?, peek?_of h, hp.1, hx, forward_of_next hp]

theorem skipIf?_of_stops {p : Char → Bool} (h : c.line = line.toList) (hs : Stops p c.after) :
    (of line c).skipIf? p = some (false, of line c) := by
  rw [skipIf?, peek?_of h]
  cases hc : c.after with
  | nil => rfl
  | cons x rest =>
      rw [hc, stops_cons_iff] at hs
      simp [hs]

theorem startsWith_after_iff {text : String} :
    (String.ofList c.after).startsWith text = true ↔ text.toList <+: c.after := by
  rw [String.startsWith_string_iff, String.toList_ofList]

theorem skipText?_of_passes {text : String} (h : c.line = line.toList)
    (hp : c.Passes text.toList d) : (of line c).skipText? text = some (true, of line d) := by
  rw [skipText?, rest?_of h, Option.map_some, if_pos (startsWith_after_iff.2 ⟨d.after, hp.1.symm⟩),
    ← Text.byteSize_toList, forward_of hp]

theorem skipText?_of_not_prefix {text : String} (h : c.line = line.toList)
    (hn : ¬ text.toList <+: c.after) : (of line c).skipText? text = some (false, of line c) := by
  rw [skipText?, rest?_of h, Option.map_some, if_neg (mt startsWith_after_iff.1 hn)]

/-- The characters of a run are passed over one by one. -/
theorem skipWhile?_of {p : Char → Bool} {u : List Char} (h : c.line = line.toList)
    (hp : c.Passes u d) (hu : ∀ x ∈ u, p x = true) (hd : Stops p d.after) :
    (of line c).skipWhile? p = some (of line d) := by
  -- on the run: behind its first character comes the rest of it
  induction u generalizing c with
  | nil =>
      obtain rfl : c = d := (Cursor.Passes.refl c).unique hp
      rw [skipWhile?, skipIf?_of_stops h hd]
  | cons x u ih =>
      obtain ⟨e, hx, hp⟩ := Cursor.Passes.split (u := [x]) hp
      rw [skipWhile?, skipIf?_of_passes h hx (hu x (by simp))]
      exact ih (hx.line.trans h) hp fun y hy => hu y (by simp [hy])

theorem takeWhile?_of {p : Char → Bool} {u : List Char} (h : c.line = line.toList)
    (hp : c.Passes u d) (hu : ∀ x ∈ u, p x = true) (hd : Stops p d.after) :
    (of line c).takeWhile? p = some (String.ofList u, of line d) := by
  rw [takeWhile?, skipWhile?_of h hp hu hd, Option.bind_some, textFrom?_of_passes h hp,
    Option.map_some]

theorem back?_of {u : List Char} (hp : d.Passes u c) :
    (of line c).back? (Text.byteSize u) = some (of line d) := by
  rw [back?, of, of, hp.offset, if_pos (Nat.le_add_left _ _), Nat.add_sub_cancel]

/-- **A place kept in bytes takes the same steps** (`perform?_of_step`): no cut falls inside a
character, and no step back leaves the line. -/
theorem perform?_of_step {m : Cursor.Move} {a : Cursor.Answer} (h : c.line = line.toList)
    (hs : c.Step m a d) : (of line c).perform? m = some (a, of line d) := by
  cases hs with
  | atEnd => rw [perform?, atEnd_of h]
  | column => simp [perform?, column?_of h, Cursor.column_eq]
  | offset => rw [perform?, of, Cursor.offset_eq]
  | peek => simp [perform?, peek?_of h]
  | rest => simp [perform?, rest?_of h]
  | textFrom hu => simp [perform?, textFrom?_of h hu]
  | next hp => simp [perform?, next?_of_passes h hp]
  | noNext hc => simp [perform?, next?_of_nil h hc]
  | skipChar hp => simp [perform?, skipIf?_of_passes h hp]
  | noChar hx =>
      rw [← Cursor.skipChar?_eq_none_iff, Cursor.skipChar?, Cursor.skipIf?_eq_none_iff] at hx
      simp [perform?, skipIf?_of_stops h hx]
  | skipIf hp hx => simp [perform?, skipIf?_of_passes h hp hx]
  | noneOf hs => simp [perform?, skipIf?_of_stops h hs]
  | skipText hp => simp [perform?, skipText?_of_passes h hp]
  | noText hn => simp [perform?, skipText?_of_not_prefix h hn]
  | takeWhile hp hu hd => simp [perform?, takeWhile?_of h hp hu hd]
  | skipBlanks hp hu hd => simp [perform?, takeWhile?_of h hp hu hd]
  | back hp => simp [perform?, back?_of hp]

end ByteCursor

/-! ### Any moves from the beginning of a line -/

namespace Cursor

theorem steps_performAll {c : Cursor} {moves : List Move} (h : c.AllowsAll moves) :
    c.Steps moves (c.performAll moves).1 (c.performAll moves).2 := by
  induction moves generalizing c with
  | nil => exact .stop c
  | cons m moves ih => exact .step (step_perform h.1) (ih h.2)

theorem Steps.line {c d : Cursor} {moves : List Move} {answers : List Answer}
    (h : c.Steps moves answers d) : d.line = c.line := by
  induction h with
  | stop => rfl
  | step h _ ih => exact ih.trans h.line

end Cursor

theorem ByteCursor.performAll?_of_steps {line : String} {c d : Cursor}
    {moves : List Cursor.Move} {answers : List Cursor.Answer} (h : c.line = line.toList)
    (hs : c.Steps moves answers d) :
    (ByteCursor.of line c).performAll? moves = some (answers, ByteCursor.of line d) := by
  induction hs with
  | stop => rfl
  | step hstep _ ih =>
      simp [performAll?, perform?_of_step h hstep, ih (hstep.line.trans h)]

/-- **Bytes.**  Any moves from the beginning of a line, each allowed where it comes, have an outcome
in bytes.  It is that of the line in two parts, consumed and remaining, which `Cursor.Steps`
describes; the two are the whole line wherever the moves lead.  The number of bytes is the size of
the first part, so it is at most that of the line and between two of its characters, and the column
is the number of characters of the first part. -/
theorem byteCursor_refines_split (line : String) (moves : List Cursor.Move)
    (h : (Cursor.start line.toList).AllowsAll moves) :
    ∃ (answers : List Cursor.Answer) (c : Cursor),
      (Cursor.start line.toList).Steps moves answers c ∧
      (Cursor.start line.toList).performAll moves = (answers, c) ∧
      (ByteCursor.start line).performAll? moves = some (answers, ⟨c.offset⟩) ∧
      c.consumed ++ c.after = line.toList ∧
      c.offset = Text.byteSize c.consumed ∧
      c.column = c.consumed.length ∧
      (⟨c.offset⟩ : String.Pos.Raw).IsValid line ∧
      c.offset ≤ line.utf8ByteSize := by
  have hs := Cursor.steps_performAll h
  have hline := hs.line
  rw [Cursor.line_start] at hline
  refine ⟨_, _, hs, rfl, ByteCursor.performAll?_of_steps (Cursor.line_start _) hs, hline,
    Cursor.offset_eq _, Cursor.column_eq _, ?_, ?_⟩
  · rw [Cursor.offset_eq]
    exact Text.isValid_byteSize hline
  · rw [Cursor.offset_eq]
    exact Text.byteSize_le hline

/-- Characters of one, two and three bytes, passed over and taken back. -/
theorem byteCursor_refines_split_back :
    (Cursor.start "éa€".toList).AllowsAll
      [.takeWhile (· != '€'), .textFrom 2, .back 1, .column, .rest, .back 2, .next] ∧
    (ByteCursor.start "éa€").performAll?
      [.takeWhile (· != '€'), .textFrom 2, .back 1, .column, .rest, .back 2, .next] =
        some ([.text ['é', 'a'], .text ['a'], .done, .number 1, .text ['a', '€'], .done,
          .character (some 'é')], ⟨2⟩) := by
  have allowed : (Cursor.start "éa€".toList).AllowsAll
      [.takeWhile (· != '€'), .textFrom 2, .back 1, .column, .rest, .back 2, .next] :=
    ⟨trivial, ⟨['é'], ⟨['a'], rfl⟩, rfl⟩, ⟨['a'], ⟨['é'], rfl⟩, rfl⟩, trivial, trivial,
      ⟨['é'], ⟨[], rfl⟩, rfl⟩, trivial, trivial⟩
  obtain ⟨answers, c, -, hperform, hbytes, -⟩ := byteCursor_refines_split _ _ allowed
  obtain ⟨rfl, rfl⟩ := Prod.mk.inj hperform
  exact ⟨allowed, hbytes⟩

end Calculator
