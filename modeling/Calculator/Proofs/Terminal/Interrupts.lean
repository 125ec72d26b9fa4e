import Calculator.Proofs.Terminal.Transcripts

/-!
# Calculator — Proofs — Terminal — Interrupts

The session sees no interrupts, and nothing behind the input that ends it.  What it sees of some
inputs is `Input.seen`.  The loop does for all of them what it does for those that are seen, and for
each interrupt before the end a read more, after which the line is cleared (`Interrupted`,
`loop_seen`).

**Interrupts** (`ofInputs_ignores_interrupts`).  Two lists of inputs of which the same is seen are
written the same, remembered the same and logged the same.
-/

namespace Calculator.Terminal

/-! ### What is seen of the inputs -/

namespace Input

/-- The inputs up to the first that ends the session, that one included. -/
def upToEnd (inputs : List Input) : List Input :=
  before inputs ++ (inputs.find? ends).toList

/-- The inputs that the session sees: no interrupts, and none behind the first that ends it. -/
def seen (inputs : List Input) : List Input :=
  upToEnd (inputs.filter (· ≠ .signal .interrupt))

/-- The number of interrupts before the session ends. -/
def interrupts (inputs : List Input) : Nat :=
  (before inputs).count (.signal .interrupt)

variable (inputs : List Input)

theorem seen_line (text : String) : seen (.line text :: inputs) = .line text :: seen inputs := rfl

theorem seen_interrupt : seen (.signal .interrupt :: inputs) = seen inputs := rfl

theorem seen_of_ends {input : Input} (h : input.ends = true) : seen (input :: inputs) = [input] := by
  have hne : input ≠ .signal .interrupt := by
    rintro rfl
    cases h
  simp [seen, upToEnd, hne, before_of_ends h, h]

theorem interrupts_line (text : String) : interrupts (.line text :: inputs) = interrupts inputs := rfl

theorem interrupts_interrupt :
    interrupts (.signal .interrupt :: inputs) = interrupts inputs + 1 :=
  List.count_cons_self

theorem interrupts_of_ends {input : Input} (h : input.ends = true) :
    interrupts (input :: inputs) = 0 := by
  rw [interrupts, before_of_ends h]
  rfl

end Input

open Input (seen interrupts)

/-! ### What is done for interrupts -/

/-- Whether the action can be noticed behind the line that is typed: something is written, or a line
goes into the history. -/
def Action.isOutput : Action → Bool
  | .write _ | .addHistory _ => true
  | _ => false

/-- The second list is the first with `n` pairs of actions put in: a read, and then the line is
cleared. -/
inductive Interrupted : Nat → List Action → List Action → Prop where
  | nil : Interrupted 0 [] []
  | action {n : Nat} {actions actions' : List Action} (action : Action)
      (h : Interrupted n actions actions') : Interrupted n (action :: actions) (action :: actions')
  | interrupt {n : Nat} {actions actions' : List Action} (h : Interrupted n actions actions') :
      Interrupted (n + 1) actions (.read :: .setBuffer "" :: actions')

namespace Interrupted

variable {n : Nat} {actions actions' : List Action}

theorem refl (actions : List Action) : Interrupted 0 actions actions := by
  induction actions with
  | nil => exact .nil
  | cons action actions ih => exact .action action ih

theorem append_left (front : List Action) (h : Interrupted n actions actions') :
    Interrupted n (front ++ actions) (front ++ actions') := by
  induction front with
  | nil => exact h
  | cons action front ih => exact .action action ih

/-- The pairs are no output. -/
theorem filter_isOutput (h : Interrupted n actions actions') :
    actions'.filter Action.isOutput = actions.filter Action.isOutput := by
  induction h with
  | nil => rfl
  | action action h ih => rw [List.filter_cons, List.filter_cons, ih]
  | interrupt h ih => exact ih

end Interrupted

namespace Transcript

/-- The loop does for all inputs what it does for those that are seen, apart from the interrupts. -/
theorem loop_seen (style : String → String) (s : Session) (inputs : List Input) :
    Interrupted (interrupts inputs) (loop style s (seen inputs)).actions
        (loop style s inputs).actions ∧
      (loop style s inputs).events = (loop style s (seen inputs)).events ∧
      (loop style s inputs).failure = (loop style s (seen inputs)).failure ∧
      sessionAfter style s inputs = sessionAfter style s (seen inputs) := by
  induction inputs using Input.list_induction generalizing s with
  | nil => exact ⟨.refl _, rfl, rfl, rfl⟩
  | line text inputs ih =>
      obtain ⟨hactions, hevents, hfailure, hsession⟩ := ih (s.submit text).session
      rw [Input.seen_line, Input.interrupts_line, loop_line, loop_line]
      exact ⟨hactions.append_left _, congrArg ((s.submit text).event :: ·) hevents, hfailure,
        hsession⟩
  | interrupt inputs ih =>
      obtain ⟨hactions, hevents, hfailure, hsession⟩ := ih s
      rw [Input.seen_interrupt, Input.interrupts_interrupt, loop_interrupt]
      exact ⟨.interrupt hactions, hevents, hfailure, hsession⟩
  | ending input inputs he =>
      rw [Input.seen_of_ends inputs he, Input.interrupts_of_ends inputs he,
        loop_of_ends style s inputs he, loop_of_ends style s [] he,
        sessionAfter_of_ends style s he, sessionAfter_of_ends style s he]
      exact ⟨.refl _, rfl, rfl, rfl⟩

/-- **Interrupts.**  Two lists of inputs are the same once the interrupts are left out, and what
stands behind the first input that ends the session.  Then the same is written and the same lines go
into the history, in the same order; the terminal fails alike, the log gets the same events, and the
session is left with the same variables.  All that is done for the one and for the other is what is
done for the inputs that are seen of both, with a read and a cleared line put in for each interrupt
before the end. -/
theorem ofInputs_ignores_interrupts (bold : String → String) (settings : Settings)
    {inputs inputs' : List Input} (h : seen inputs = seen inputs') :
    (ofInputs settings inputs bold).actions.filter Action.isOutput =
      (ofInputs settings inputs' bold).actions.filter Action.isOutput ∧
    (ofInputs settings inputs bold).failure = (ofInputs settings inputs' bold).failure ∧
    (ofInputs settings inputs bold).events = (ofInputs settings inputs' bold).events ∧
    sessionAfter (settings.style bold) {} inputs = sessionAfter (settings.style bold) {} inputs' ∧
    Interrupted (interrupts inputs) (ofInputs settings (seen inputs) bold).actions
      (ofInputs settings inputs bold).actions ∧
    Interrupted (interrupts inputs') (ofInputs settings (seen inputs) bold).actions
      (ofInputs settings inputs' bold).actions := by
  obtain ⟨hactions, hevents, hfailure, hsession⟩ := loop_seen (settings.style bold) {} inputs
  obtain ⟨hactions', hevents', hfailure', hsession'⟩ := loop_seen (settings.style bold) {} inputs'
  rw [← h] at hactions' hevents' hfailure' hsession'
  have hopened := hactions.append_left (opening settings)
  have hopened' := hactions'.append_left (opening settings)
  refine ⟨hopened.filter_isOutput.trans hopened'.filter_isOutput.symm,
    hfailure.trans hfailure'.symm, ?_, hsession.trans hsession'.symm, hopened, hopened'⟩
  exact congrArg (Log.Event.started :: ·) (hevents.trans hevents'.symm)

/-- Interrupts around the lines, and another end of the session. -/
def scattered : List Input :=
  [.signal .interrupt, .line "let x = 7", .signal .interrupt, .signal .interrupt, .line "x/0",
    .signal .quit, .signal .interrupt, .failure "gone"]

/-- An interrupt behind the lines, and nothing read again behind the end. -/
def gathered : List Input :=
  [.line "let x = 7", .line "x/0", .signal .interrupt, .signal .quit, .line "let y = x"]

/-- The variable is set in both, the division is reported in both, and nothing behind the end of the
session is read in either; the one has three interrupts and the other has one. -/
theorem ofInputs_ignores_interrupts_scattered :
    seen scattered = seen gathered ∧
    (ofInputs {} scattered).actions.filter Action.isOutput =
      [.addHistory "let x = 7", .write "\x1b[1mdivision by zero\nx/0\n   ^\x1b[0m\n",
        .addHistory "x/0"] ∧
    (ofInputs {} scattered).failure = none ∧
    (ofInputs {} scattered).events = (ofInputs {} gathered).events ∧
    (sessionAfter (({} : Settings).style inBold) {} scattered).store["x"]? = some 7 ∧
    Interrupted 3 (ofInputs {} (seen scattered)).actions (ofInputs {} scattered).actions ∧
    Interrupted 1 (ofInputs {} (seen scattered)).actions (ofInputs {} gathered).actions := by
  have h : seen scattered = seen gathered := rfl
  obtain ⟨houtput, hfailure, hevents, hsession, hcalls, hcalls'⟩ := ofInputs_ignores_interrupts inBold {} h
  refine ⟨h, houtput.trans ?_, hfailure.trans rfl, hevents, ?_, hcalls, hcalls'⟩
  · decide +kernel
  · rw [show sessionAfter (({} : Settings).style inBold) {} scattered = _ from hsession]
    decide +kernel

end Transcript

end Calculator.Terminal
