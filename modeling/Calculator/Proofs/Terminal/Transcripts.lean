import Calculator.Proofs.Reading.Lines
import Calculator.Proofs.Sessions.Runs
import Calculator.Terminal

/-!
# Calculator — Proofs — Terminal — Transcripts

What happens at the terminal is what happens in the session.  The inputs go on up to the first that
ends the session (`Input.before`, `Input.ending`), and the lines among them (`Input.lines`) are all
that the session takes.  `exchanges` says what is done for the inputs when the replies to the lines
are known; `loop_eq` says that the loop does this with the replies of the session, one line after
the other, then reads once more and stops.

**Transcripts** (`ofInputs_follows_session`).  The actions of a whole session, whether it failed, and
what its blank lines are answered with.
-/

namespace Calculator.Terminal

/-! ### Inputs -/

namespace Input

/-- Whether the session ends with the input. -/
def ends : Input → Bool
  | .line _ | .signal .interrupt => false
  | .signal _ | .endOfInput | .failure _ => true

/-- The line, if the input is one. -/
def line? : Input → Option String
  | .line text => some text
  | _ => none

/-- The reason, if the input is a failure. -/
def failure? : Input → Option String
  | .failure reason => some reason
  | _ => none

/-- The inputs before the first that ends the session. -/
def before (inputs : List Input) : List Input :=
  inputs.takeWhile fun input => !input.ends

/-- The input that ends the session.  Behind the last input every read finds the end. -/
def ending (inputs : List Input) : Input :=
  (inputs.find? ends).getD .endOfInput

/-- The lines that the session takes. -/
def lines (inputs : List Input) : List String :=
  (before inputs).filterMap line?

theorem failure?_eq_some_iff {input : Input} {reason : String} :
    input.failure? = some reason ↔ input = .failure reason := by
  cases input <;> simp [failure?]

/-- What the log gets when the input ends the session: nothing for a failure. -/
def closing (s : Session) : Input → List Log.Event
  | .failure _ => []
  | _ => [.ended s.store.size]

theorem closing_eq (input : Input) (s : Session) :
    input.closing s = if input.failure? = none then [.ended s.store.size] else [] := by
  cases input <;> rfl

/-- Lists of inputs by what comes first: a line, an interrupt, or what ends the session. -/
@[elab_as_elim]
theorem list_induction {motive : List Input → Prop} (nil : motive [])
    (line : ∀ text inputs, motive inputs → motive (.line text :: inputs))
    (interrupt : ∀ inputs, motive inputs → motive (.signal .interrupt :: inputs))
    (ending : ∀ input inputs, input.ends = true → motive (input :: inputs))
    (inputs : List Input) : motive inputs := by
  induction inputs with
  | nil => exact nil
  | cons input inputs ih =>
      cases input with
      | line text => exact line text inputs ih
      | signal signal =>
          cases signal with
          | interrupt => exact interrupt inputs ih
          | quit | suspend | breakKey | resume => exact ending _ inputs rfl
      | endOfInput | failure => exact ending _ inputs rfl

theorem before_of_ends {input : Input} (h : input.ends = true) (inputs : List Input) :
    before (input :: inputs) = [] := by
  simp [before, h]

theorem ending_of_ends {input : Input} (h : input.ends = true) (inputs : List Input) :
    ending (input :: inputs) = input := by
  simp [ending, h]

end Input

open Input (before ending lines)

/-! ### What is done for inputs -/

/-- What is done for a line that is given the reply: a value or a report is written, on lines of its
own, and then the line goes into the history, unless it is blank. -/
def answered (style : String → String) (text : String) : Except Diagnostic (Option Value) → List Action
  | .ok (some value) => .write (value.text ++ "\n") :: remembered
  | .ok none => remembered
  | .error report => .write (style report.message ++ "\n") :: remembered
where
  remembered : List Action := if isBlankLine text then [] else [.addHistory text]

/-- What is done for inputs that do not end the session: each is read and answered, and the replies
are given to the lines in turn. -/
def exchanges (style : String → String) :
    List Input → List (Except Diagnostic (Option Value)) → List Action
  | .line text :: inputs, reply :: replies =>
    .read :: answered style text reply ++ exchanges style inputs replies
  | .signal .interrupt :: inputs, replies => .read :: .setBuffer "" :: exchanges style inputs replies
  | _, _ => []

/-! ### What the loop does -/

theorem actions_respond_line (style : String → String) (s : Session) (text : String) :
    (respond style s (.line text)).actions = answered style text (s.submit text).reply := by
  change ((written style (s.submit text).reply).map Action.write).toList ++ _ = _
  rcases (s.submit text).reply with report | (- | value) <;> rfl

/-- A blank line is reported where it ends, whatever is set. -/
theorem reply_of_isBlankLine {s : Session} {text : String} (h : isBlankLine text = true) :
    (s.submit text).reply = .error ⟨.unexpectedEndOfInput, "", some text.length, some text⟩ := by
  rw [Session.reply_submit, ofLine_of_blanks s.store (List.all_eq_true.1 h)]
  rfl

/-- Nothing is done for an input that ends the session. -/
theorem respond_of_ends (style : String → String) (s : Session) {input : Input} (h : input.ends = true) :
    respond style s input =
      ⟨[], input.closing s, input.failure?.elim .stop .fail⟩ := by
  cases input with
  | line text => cases h
  | signal signal =>
      cases signal with
      | interrupt => cases h
      | quit | suspend | breakKey | resume => rfl
  | endOfInput | failure => rfl

/-- The session that the loop has after the inputs.  Behind the input that ends it nothing changes. -/
def sessionAfter (style : String → String) : Session → List Input → Session
  | s, [] => s
  | s, input :: inputs =>
    match (respond style s input).next with
    | .proceed s => sessionAfter style s inputs
    | .stop | .fail _ => s

theorem sessionAfter_of_ends (style : String → String) (s : Session) {input : Input} (h : input.ends = true)
    (inputs : List Input) : sessionAfter style s (input :: inputs) = s := by
  rw [sessionAfter, respond_of_ends style s h]
  cases input.failure? <;> rfl

/-- It is the session that has taken the lines. -/
theorem sessionAfter_eq (style : String → String) (s : Session) (inputs : List Input) :
    sessionAfter style s inputs = s.after (lines inputs) := by
  induction inputs using Input.list_induction generalizing s with
  | nil => rfl
  | line text inputs ih => exact ih _
  | interrupt inputs ih => exact ih s
  | ending input inputs he =>
      rw [sessionAfter_of_ends style s he, lines, Input.before_of_ends he]
      rfl

namespace Transcript

variable (style : String → String) (s : Session) (inputs : List Input)

/-- A line is read and answered, and the loop goes on with the session after it. -/
theorem loop_line (text : String) :
    loop style s (.line text :: inputs) =
      let rest := loop style (s.submit text).session inputs
      ⟨.read :: answered style text (s.submit text).reply ++ rest.actions,
        (s.submit text).event :: rest.events, rest.failure⟩ := by
  rw [← actions_respond_line]
  rfl

/-- An interrupt is read, and what was being typed is dropped. -/
theorem loop_interrupt :
    loop style s (.signal .interrupt :: inputs) =
      let rest := loop style s inputs
      ⟨.read :: .setBuffer "" :: rest.actions, rest.events, rest.failure⟩ := rfl

/-- An input that ends the session is read, and nothing behind it. -/
theorem loop_of_ends {input : Input} (h : input.ends = true) :
    loop style s (input :: inputs) = ⟨[.read], input.closing s, input.failure?⟩ := by
  rw [loop, respond_of_ends style s h]
  cases input.failure? <;> simp [afterRead]

/-- The loop does for the inputs what is done when the lines among them are given the replies of the
session, and reads once more. -/
theorem loop_eq :
    loop style s inputs =
      ⟨exchanges style (before inputs) (s.replies (lines inputs)) ++ [.read],
        s.events (lines inputs) ++ (ending inputs).closing (s.after (lines inputs)),
        (ending inputs).failure?⟩ := by
  induction inputs using Input.list_induction generalizing s with
  | nil => rfl
  | line text inputs ih =>
      rw [loop_line, ih]
      simp only [← List.append_assoc]
      rfl
  | interrupt inputs ih =>
      rw [loop_interrupt, ih]
      rfl
  | ending input inputs he =>
      rw [loop_of_ends style s inputs he, lines, Input.before_of_ends he, Input.ending_of_ends he]
      rfl

/-- **Transcripts.**  The terminal is attached, given its prompt and asked to report interrupts.  Then
the inputs are read and answered, up to the one that ends the session: what is written for a line is
what a session that was empty at first replies to it, after the lines before it.  One read more ends
the session, and the terminal has failed if that read did, for the same reason.  A blank line is
reported where it ends. -/
theorem ofInputs_follows_session (bold : String → String) (settings : Settings)
    (inputs : List Input) :
    (ofInputs settings inputs bold).actions =
      [.attach "calc", .setPrompt settings.prompt, .reportSignal .interrupt] ++
        exchanges (settings.style bold) (before inputs) (Session.replies {} (lines inputs)) ++ [.read] ∧
    (∀ reason, (ofInputs settings inputs bold).failure = some reason ↔
      ending inputs = .failure reason) ∧
    ∀ (i : Nat) (text : String), (lines inputs)[i]? = some text → isBlankLine text = true →
      (Session.replies {} (lines inputs))[i]? =
        some (.error ⟨.unexpectedEndOfInput, "", some text.length, some text⟩) := by
  refine ⟨?_, fun reason => ?_, fun i text ht hb => ?_⟩
  · simp only [ofInputs, loop_eq, opening, List.append_assoc]
  · rw [← Input.failure?_eq_some_iff]
    simp only [ofInputs, loop_eq]
  · rw [Session.getElem?_replies, ht, Option.map_some, reply_of_isBlankLine hb]

/-- An interrupt, a blank line and a terminal that fails before the last line is read. -/
def interrupted : List Input :=
  [.line "let x = 7", .signal .interrupt, .line " ", .line "x/2", .failure "gone", .line "x"]

/-- The reports and the values of the session are written in their order, and what was not read has
no part in it. -/
theorem ofInputs_follows_session_interrupted :
    ((lines interrupted)[1]? = some " " ∧ isBlankLine " " = true) ∧
    (ofInputs {} interrupted).actions =
      [.attach "calc", .setPrompt ">>> ", .reportSignal .interrupt,
        .read, .addHistory "let x = 7",
        .read, .setBuffer "",
        .read, .write "\x1b[1munexpected end of input\n \n ^\x1b[0m\n",
        .read, .write "3\n", .addHistory "x/2",
        .read] ∧
    (ofInputs {} interrupted).failure = some "gone" ∧
    (Session.replies {} (lines interrupted))[1]? =
      some (.error ⟨.unexpectedEndOfInput, "", some 1, some " "⟩) := by
  have hline : (lines interrupted)[1]? = some " " := rfl
  have hblank : isBlankLine " " = true := by decide
  obtain ⟨hactions, hfailure, hreply⟩ := ofInputs_follows_session inBold {} interrupted
  refine ⟨⟨hline, hblank⟩, hactions.trans ?_, (hfailure "gone").2 rfl, hreply 1 " " hline hblank⟩
  decide +kernel

end Transcript

end Calculator.Terminal
