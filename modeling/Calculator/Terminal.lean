import Calculator.Session

/-!
# Calculator — Terminal

The conversation at a terminal. Each `Input` the terminal delivers is answered by `respond` with
the actions to take and with how to go on; `Transcript.ofInputs` strings the answers together from
the opening of the terminal to the end of the session.

Two things belong to the terminal and are not settled here. What makes a text bold is a parameter
(`bold`), for which the program has `inBold`. And of all that is asked of a terminal only a read is
taken to fail: that a terminal cannot be attached, or does not take its prompt, a text to write or a
buffer, is left out, so a transcript is one of a terminal on which every `Action` but `read`
succeeds.
-/

namespace Calculator.Terminal

/-- What the user may choose about the terminal. -/
structure Settings where
  prompt : String := ">>> "
  /-- Whether reports are written without styling. -/
  plain : Bool := false
  deriving DecidableEq, Repr

/-- The signals a terminal delivers. -/
inductive Signal where
  | interrupt
  | quit
  | suspend
  | breakKey
  | resume
  deriving DecidableEq, Repr

/-- What a read may bring. -/
inductive Input where
  | line (text : String)
  | signal (signal : Signal)
  | endOfInput
  | failure (reason : String)
  deriving DecidableEq, Repr

/-- What is asked of the terminal. All of it succeeds, except that a read may bring a failure. -/
inductive Action where
  | attach (application : String)
  | setPrompt (prompt : String)
  | reportSignal (signal : Signal)
  | read
  | write (text : String)
  | setBuffer (text : String)
  | addHistory (line : String)
  deriving DecidableEq, Repr

/-! ### Answers -/

/-- A text in bold, on terminals that take escape sequences. -/
def inBold (text : String) : String := "\x1b[1m" ++ text ++ "\x1b[0m"

/-- The texts are made bold by an escape sequence before them and another behind, and are not
changed themselves. -/
def WrapsInBold (bold : String → String) : Prop :=
  ∀ text, bold text = "\x1b[1m" ++ text ++ "\x1b[0m"

theorem wrapsInBold_inBold : WrapsInBold inBold := fun _ => rfl

/-- How a report is shown: in bold, unless it is to be plain. -/
def Settings.style (settings : Settings) (bold : String → String) (message : String) : String :=
  if settings.plain then message else bold message

/-- What is written for a reply: a value or a report on lines of its own, and nothing for an
assignment. -/
def written (style : String → String) : Except Diagnostic (Option Value) → Option String
  | .ok (some value) => some (value.text ++ "\n")
  | .ok none => none
  | .error report => some (style report.message ++ "\n")

/-- Whether a line has nothing but blanks. -/
def isBlankLine (line : String) : Bool :=
  line.toList.all isBlank

/-- How a session goes on after an input. -/
inductive Next where
  | proceed (session : Session)
  | stop
  | fail (reason : String)

/-- The answer to an input. -/
structure Response where
  actions : List Action
  events : List Log.Event
  next : Next

/-- Answers an input. An interrupt clears the line being typed; every other signal ends the
session, and so does the end of input. Only lines that are not blank go into the history. -/
def respond (style : String → String) (s : Session) : Input → Response
  | .line text =>
    let turn := s.submit text
    let history := if isBlankLine text then [] else [.addHistory text]
    ⟨((written style turn.reply).map .write).toList ++ history, [turn.event],
      .proceed turn.session⟩
  | .signal .interrupt => ⟨[.setBuffer ""], [], .proceed s⟩
  | .signal _ | .endOfInput => ⟨[], [.ended s.store.size], .stop⟩
  | .failure reason => ⟨[], [], .fail reason⟩

/-! ### Whole sessions -/

/-- What happened in a session: the actions in order, the events for the log, and the reason if
it ended by a read that failed. -/
structure Transcript where
  actions : List Action
  events : List Log.Event
  failure : Option String
  deriving DecidableEq, Repr

namespace Transcript

/-- The actions that open the terminal. -/
def opening (settings : Settings) : List Action :=
  [.attach "calc", .setPrompt settings.prompt, .reportSignal .interrupt]

/-- What follows a read that brought `input`, where `later` follows if the session goes on. -/
def afterRead (response : Response) (later : Session → Transcript) : Transcript :=
  let rest := match response.next with
    | .proceed session => later session
    | .stop => ⟨[], [], none⟩
    | .fail reason => ⟨[], [], some reason⟩
  ⟨.read :: response.actions ++ rest.actions, response.events ++ rest.events, rest.failure⟩

/-- What happens from the first read on. After the last input every read finds the end. -/
def loop (style : String → String) : Session → List Input → Transcript
  | s, [] => afterRead (respond style s .endOfInput) fun _ => ⟨[], [], none⟩
  | s, input :: inputs => afterRead (respond style s input) fun s => loop style s inputs

/-- The whole session for a list of inputs. -/
def ofInputs (settings : Settings) (inputs : List Input) (bold : String → String := inBold) :
    Transcript :=
  let rest := loop (settings.style bold) {} inputs
  ⟨opening settings ++ rest.actions, .started :: rest.events, rest.failure⟩

end Transcript

end Calculator.Terminal
