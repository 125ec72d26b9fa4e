import Calculator.Options

/-!
# Calculator — Options — Scan

The parser that the program is run with. Arguments are taken from left to right, and the first that
cannot be taken, or that asks for the help or the version, ends the reading.

A value in an argument of its own is settled only where the next option, or the end, is reached. So
an argument right behind it that is no option at all (`refusal?`) is reported in place of a value
that is missing or given twice.
-/

namespace Calculator.Options

/-! ### Arguments -/

/-- What an argument is, by itself. -/
inductive Argument where
  | flag (name : String)
  /-- The value is the argument after this one. -/
  | expects (name : String)
  /-- The value is in the same argument, behind an equals sign. -/
  | joined (name text : String)
  | help
  | version
  /-- A value where an option takes none. -/
  | surplusValue
  /-- The end of the options. -/
  | terminator
  | other
  deriving DecidableEq, Repr

namespace Argument

variable (options : List Declaration)

/-- The argument of a long option, from after the two hyphens; the value is what stands behind the
first equals sign. -/
def ofLong (name : String) (value? : Option String) : Argument :=
  match options.find? (·.name == name), value? with
  | some d, none => if d.default? = none then .flag name else .expects name
  | some d, some text => if d.default? = none then .surplusValue else .joined name text
  | none, none => if name = "help" then .help else if name = "version" then .version else .other
  | none, some _ => if name = "help" ∨ name = "version" then .surplusValue else .other

/-- Splits at the first equals sign. -/
def splitAtEquals (text : List Char) : List Char × Option (List Char) :=
  (text.takeWhile (· != '='), (text.dropWhile (· != '=')).tail?)

/-- The argument that a string is. Of short options standing together, the first decides. -/
def ofString (arg : String) : Argument :=
  match arg.toList with
  | ['-', '-'] => .terminator
  | '-' :: '-' :: rest =>
    ofLong options (String.ofList (splitAtEquals rest).1)
      ((splitAtEquals rest).2.map String.ofList)
  | '-' :: 'h' :: _ => .help
  | '-' :: 'V' :: _ => .version
  | _ => .other

end Argument

/-! ### Reading -/

/-- An option may be given once. -/
def add (o : Occurrence) (given : List Occurrence) : Except Stop (List Occurrence) :=
  if o.name ∈ given.map Occurrence.name then .error .argumentConflict else .ok (given ++ [o])

section

variable (options : List Declaration)

/-- Why the first argument is refused whatever was given before it: it is no option, or it has a
value and its option takes none. -/
def refusal? : List String → Option Stop
  | [] => none
  | arg :: rest =>
    match Argument.ofString options arg with
    | .surplusValue => some .tooManyValues
    | .terminator => if rest.isEmpty then none else some .unknownArgument
    | .other => some .unknownArgument
    | _ => none

/-- Takes the arguments one by one. What is wrong with a value in an argument of its own gives way
to a refusal of the argument behind it. -/
def take (given : List Occurrence) : List String → Except Stop (List Occurrence)
  | [] => .ok given
  | arg :: rest =>
    match Argument.ofString options arg with
    | .flag name => do take (← add ⟨name, none⟩ given) rest
    | .joined name text => do take (← add ⟨name, some text⟩ given) rest
    | .expects name =>
      match rest with
      | [] => .error .invalidValue
      | text :: later =>
        if IsValue text then
          match add ⟨name, some text⟩ given with
          | .ok given => take given later
          | .error stop => .error ((refusal? options later).getD stop)
        else .error ((refusal? options rest).getD .invalidValue)
    | .help => .error .help
    | .version => .error .version
    | .surplusValue => .error .tooManyValues
    | .terminator => if rest.isEmpty then .ok given else .error .unknownArgument
    | .other => .error .unknownArgument

end

/-- The options that occur among the arguments. -/
def scan : Parser := fun command args => take command.options [] args

/-! ### Texts -/

/-- A default as the help shows it: between quotes if there is a blank in it. -/
def shownDefault (text : String) : String :=
  if text.any Char.isWhitespace then "\"" ++ text ++ "\"" else text

/-- A line of the help: what is written, and what it is for. -/
def Declaration.helpLine (d : Declaration) : String × String :=
  match d.default? with
  | none => ("      --" ++ d.name, d.about)
  | some default =>
    ("      --" ++ d.name ++ " <" ++ d.name.toUpper ++ ">",
      d.about ++ " [default: " ++ shownDefault default ++ "]")

/-- The help: how the program is used, and its options, one below the other. -/
def Command.helpText (command : Command) : String :=
  let lines := command.options.map Declaration.helpLine ++
    [("  -h, --help", "Print help"), ("  -V, --version", "Print version")]
  let width := (lines.map (·.1.length)).foldl max 0
  let line := fun (written, about) =>
    written.pushn ' ' (width - written.length) ++ "  " ++ about ++ "\n"
  command.about ++ "\n\nUsage: " ++ command.name ++ " [OPTIONS]\n\nOptions:\n" ++
    String.join (lines.map line)

def Command.versionText (command : Command) : String :=
  command.name ++ " " ++ command.version ++ "\n"

/-- What is printed instead of running the program, if that was asked for. -/
def Stop.text? (command : Command) : Stop → Option String
  | .help => some command.helpText
  | .version => some command.versionText
  | _ => none

end Calculator.Options
