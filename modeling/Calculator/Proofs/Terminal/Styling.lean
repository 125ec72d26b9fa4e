import Calculator.Proofs.Terminal.Transcripts

/-!
# Calculator — Proofs — Terminal — Styling

The settings show in two places: in the prompt, and in how a report is written.  A `Planned` action
is one that waits for the settings, and `plan` has the planned actions of a whole session, made
without any settings.  Under each choice of them the session does what is planned
(`actions_ofInputs`).

**Styling** (`ofInputs_follows_plan`).  Under two choices of settings the same is done, apart from
the prompt and from the way the reports are written, which is as they are or, on a terminal that
makes texts bold by escape sequences, between two of these; the session and the log are the same.
-/

namespace Calculator.Terminal

open Input (lines)

/-! ### Planned actions -/

/-- An action, as far as it does not depend on the settings. -/
inductive Planned where
  | prompt
  | result (value : Value)
  | failure (report : Diagnostic)
  | other (action : Action)
  deriving DecidableEq, Repr

namespace Planned

/-- The action that is taken under the settings. -/
def under (bold : String → String) (settings : Settings) : Planned → Action
  | .prompt => .setPrompt settings.prompt
  | .result value => .write (value.text ++ "\n")
  | .failure report =>
    .write ((if settings.plain then report.message else bold report.message) ++ "\n")
  | .other action => action

/-- Whether something is written. -/
def isWrite : Planned → Bool
  | .result _ | .failure _ | .other (.write _) => true
  | .prompt | .other _ => false

/-- What is written for a reply. -/
def ofReply? : Except Diagnostic (Option Value) → Option Planned
  | .ok (some value) => some (.result value)
  | .ok none => none
  | .error report => some (.failure report)

/-- What is done behind a line that is not blank. -/
def remembered (text : String) : List Planned :=
  if isBlankLine text then [] else [.other (.addHistory text)]

/-- What is done from the first read on. -/
def conversation : Session → List Input → List Planned
  | _, [] => [.other .read]
  | s, .line text :: inputs =>
    .other .read :: ((ofReply? (s.submit text).reply).toList ++ remembered text) ++
      conversation (s.submit text).session inputs
  | s, .signal .interrupt :: inputs =>
    .other .read :: .other (.setBuffer "") :: conversation s inputs
  | _, _ :: _ => [.other .read]

end Planned

open Planned (conversation remembered)

/-- What is done in a whole session. -/
def plan (inputs : List Input) : List Planned :=
  [.other (.attach "calc"), .prompt, .other (.reportSignal .interrupt)] ++ conversation {} inputs

namespace Planned

variable (bold : String → String) (settings : Settings) (s : Session) (text : String) (inputs : List Input)

theorem conversation_line :
    conversation s (.line text :: inputs) =
      .other .read :: ((ofReply? (s.submit text).reply).toList ++ remembered text) ++
        conversation (s.submit text).session inputs := rfl

theorem conversation_interrupt :
    conversation s (.signal .interrupt :: inputs) =
      .other .read :: .other (.setBuffer "") :: conversation s inputs := rfl

theorem conversation_of_ends {input : Input} (h : input.ends = true) :
    conversation s (input :: inputs) = [.other .read] := by
  cases input with
  | line text => cases h
  | signal signal =>
      cases signal with
      | interrupt => cases h
      | quit | suspend | breakKey | resume => rfl
  | endOfInput | failure => rfl

/-! ### What is planned is done -/

theorem map_under_remembered :
    (remembered text).map (under bold settings) = answered.remembered text := by
  unfold remembered answered.remembered
  split <;> rfl

theorem map_under_reply (reply : Except Diagnostic (Option Value)) :
    ((ofReply? reply).toList ++ remembered text).map (under bold settings) =
      answered (settings.style bold) text reply := by
  rw [List.map_append, map_under_remembered]
  rcases reply with report | (- | value) <;> rfl

theorem map_under_conversation :
    (conversation s inputs).map (under bold settings) =
      (Transcript.loop (settings.style bold) s inputs).actions := by
  induction inputs using Input.list_induction generalizing s with
  | nil => rfl
  | line text inputs ih =>
      rw [conversation_line, Transcript.loop_line, List.map_append, List.map_cons,
        map_under_reply, ih]
      rfl
  | interrupt inputs ih =>
      rw [conversation_interrupt, Transcript.loop_interrupt, List.map_cons, List.map_cons, ih]
      rfl
  | ending input inputs he =>
      rw [conversation_of_ends s inputs he, Transcript.loop_of_ends _ s inputs he]
      rfl

/-- A report is written as it is, or between the escape sequences. -/
theorem under_failure {bold : String → String} (hb : WrapsInBold bold) (report : Diagnostic) :
    under bold settings (.failure report) =
      .write (if settings.plain then report.message ++ "\n"
        else "\x1b[1m" ++ report.message ++ "\x1b[0m" ++ "\n") := by
  rw [under, hb]
  split <;> rfl

/-! ### What is in the plan -/

theorem filter_isWrite_answer (reply : Except Diagnostic (Option Value)) :
    ((ofReply? reply).toList ++ remembered text).filter isWrite = (ofReply? reply).toList := by
  have hremembered : (remembered text).filter isWrite = [] := by
    unfold remembered
    split <;> rfl
  rw [List.filter_append, hremembered, List.append_nil]
  rcases reply with report | (- | value) <;> rfl

/-- What is written is what the session replies, apart from the replies that say nothing. -/
theorem filter_isWrite_conversation :
    (conversation s inputs).filter isWrite = (s.replies (lines inputs)).filterMap ofReply? := by
  induction inputs using Input.list_induction generalizing s with
  | nil => rfl
  | line text inputs ih =>
      have hlines : lines (.line text :: inputs) = text :: lines inputs := rfl
      rw [conversation_line, hlines, Session.replies, List.filterMap_cons, List.cons_append,
        List.filter_cons_of_neg (by decide), List.filter_append, filter_isWrite_answer, ih]
      cases ofReply? (s.submit text).reply <;> rfl
  | interrupt inputs ih => exact ih s
  | ending input inputs he =>
      rw [conversation_of_ends s inputs he, lines, Input.before_of_ends he]
      rfl

theorem prompt_not_mem_conversation : .prompt ∉ conversation s inputs := by
  induction inputs using Input.list_induction generalizing s with
  | nil => simp [conversation]
  | line text inputs ih =>
      have hreply : .prompt ∉ (ofReply? (s.submit text).reply).toList := by
        rcases (s.submit text).reply with report | (- | value) <;> simp [ofReply?]
      have hremembered : .prompt ∉ remembered text := by
        unfold remembered
        split <;> simp
      simp [conversation_line, hreply, hremembered, ih]
  | interrupt inputs ih => simp [conversation_interrupt, ih]
  | ending input inputs he => simp [conversation_of_ends s inputs he]

end Planned

/-- The prompt is planned once, as the second action. -/
theorem getElem?_plan_eq_prompt_iff (inputs : List Input) (i : Nat) :
    (plan inputs)[i]? = some .prompt ↔ i = 1 := by
  match i with
  | 0 => simp [plan]
  | 1 => simp [plan]
  | 2 => simp [plan]
  | i + 3 =>
      have hmem : (plan inputs)[i + 3]? ≠ some .prompt := fun h =>
        Planned.prompt_not_mem_conversation {} inputs (List.mem_of_getElem? h)
      simp [hmem]

namespace Transcript

/-- A session does what is planned. -/
theorem actions_ofInputs (bold : String → String) (settings : Settings) (inputs : List Input) :
    (ofInputs settings inputs bold).actions = (plan inputs).map (Planned.under bold settings) := by
  rw [plan, List.map_append, Planned.map_under_conversation]
  rfl

/-- **Styling.**  Under two choices of settings a session does the same actions, in the same order,
except that the prompt, which is set once, is the one that was chosen, and that a report is written
as it is or between the escape sequences for bold.  What is written, under both choices, are the
replies to the lines in their order: the values, and the reports of the lines that fail.  The log
gets the same events, the terminal fails alike, and the session is left with the same variables. -/
theorem ofInputs_follows_plan {bold : String → String} (hb : WrapsInBold bold)
    (settings settings' : Settings) (inputs : List Input) :
    (ofInputs settings inputs bold).actions = (plan inputs).map (Planned.under bold settings) ∧
    (ofInputs settings' inputs bold).actions = (plan inputs).map (Planned.under bold settings') ∧
    (∀ (chosen : Settings) (report : Diagnostic), Planned.under bold chosen (.failure report) =
      .write (if chosen.plain then report.message ++ "\n"
        else "\x1b[1m" ++ report.message ++ "\x1b[0m" ++ "\n")) ∧
    (∀ i : Nat, (plan inputs)[i]? = some .prompt ↔ i = 1) ∧
    (plan inputs).filter Planned.isWrite =
      (Session.replies {} (lines inputs)).filterMap Planned.ofReply? ∧
    (ofInputs settings inputs bold).events = (ofInputs settings' inputs bold).events ∧
    (ofInputs settings inputs bold).failure = (ofInputs settings' inputs bold).failure ∧
    sessionAfter (settings.style bold) {} inputs = sessionAfter (settings'.style bold) {} inputs := by
  refine ⟨actions_ofInputs bold settings inputs, actions_ofInputs bold settings' inputs,
    fun chosen => Planned.under_failure chosen hb, getElem?_plan_eq_prompt_iff inputs,
    Planned.filter_isWrite_conversation {} inputs, ?_, ?_, ?_⟩
  · simp only [ofInputs, loop_eq]
  · simp only [ofInputs, loop_eq]
  · rw [sessionAfter_eq, sessionAfter_eq]

/-- An escape sequence in the line stays as it is, plain and inside those that make the report
bold. -/
theorem ofInputs_follows_plan_escape :
    WrapsInBold inBold ∧
    (ofInputs {} [.line "\x1b[0m", .line "6*7"]).actions =
      [.attach "calc", .setPrompt ">>> ", .reportSignal .interrupt, .read,
        .write "\x1b[1munexpected character: '\\u\x7b1b\x7d'\n\x1b[0m\n^\x1b[0m\n",
        .addHistory "\x1b[0m", .read, .write "42\n", .addHistory "6*7", .read] ∧
    (ofInputs ⟨"% ", true⟩ [.line "\x1b[0m", .line "6*7"]).actions =
      [.attach "calc", .setPrompt "% ", .reportSignal .interrupt, .read,
        .write "unexpected character: '\\u\x7b1b\x7d'\n\x1b[0m\n^\n",
        .addHistory "\x1b[0m", .read, .write "42\n", .addHistory "6*7", .read] ∧
    (ofInputs {} [.line "\x1b[0m", .line "6*7"]).events =
      (ofInputs ⟨"% ", true⟩ [.line "\x1b[0m", .line "6*7"]).events := by
  obtain ⟨hbold, hplain, -, -, -, hevents, -⟩ := ofInputs_follows_plan wrapsInBold_inBold
    {} ⟨"% ", true⟩ [.line "\x1b[0m", .line "6*7"]
  refine ⟨wrapsInBold_inBold, hbold.trans ?_, hplain.trans ?_, hevents⟩
  · decide +kernel
  · decide +kernel

end Transcript

end Calculator.Terminal
