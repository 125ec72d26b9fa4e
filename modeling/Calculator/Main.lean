import Calculator.CommandLine

/-!
# Calculator — Main

The program: options from the command line, lines from standard input, answers on standard output.
-/

namespace Calculator

/-- The next line of standard input, without its line end. -/
def nextInput (input : IO.FS.Stream) : IO Terminal.Input := do
  let line ← input.getLine
  if line.isEmpty then return .endOfInput
  return .line ((line.dropEndWhile (· == '\n')).copy)

def perform (output : IO.FS.Stream) : Terminal.Action → IO Unit
  | .write text => output.putStr text
  | _ => pure ()

/-- Reads and answers until the session ends. -/
partial def converse (settings : Terminal.Settings) (session : Session) : IO Unit := do
  let output ← IO.getStdout
  output.putStr settings.prompt
  output.flush
  let input ← nextInput (← IO.getStdin)
  let response := Terminal.respond (settings.style Terminal.inBold) session input
  response.actions.forM (perform output)
  output.flush
  match response.next with
  | .proceed session => converse settings session
  | .stop => pure ()
  | .fail reason => IO.eprintln reason

end Calculator

open Calculator in
def main (args : List String) : IO UInt32 := do
  match CommandLine.settings args with
  | .ok settings =>
    converse settings {}
    return 0
  | .error stop =>
    match stop.text? with
    | some text =>
      IO.print text
      return 0
    | none =>
      IO.eprintln "error: invalid arguments\n\nFor more information, try '--help'."
      return 2
