/-!
# Calculator — Options

Options on a command line, as a program sees them. The program declares what it has (`Command`) and
leaves the arguments to a `Parser`, which answers with the options that occur among them, or stops
the program. Which parser that is stays open: a program may rely on the `Conventions` that a parser
keeps, and on nothing else about it.
-/

namespace Calculator.Options

/-- An option that a program declares. One that has a default takes a value; any other is a flag. -/
structure Declaration where
  name : String
  about : String
  default? : Option String := none
  deriving DecidableEq, Repr

/-- What a program declares about itself. -/
structure Command where
  name : String
  version : String
  about : String
  options : List Declaration
  deriving DecidableEq, Repr

/-- An option that is given, with its value if it takes one. -/
structure Occurrence where
  name : String
  value? : Option String
  deriving DecidableEq, Repr

/-- Why a program is not to run: the arguments are wrong, or they ask for something else. -/
inductive Stop where
  | unknownArgument
  | invalidValue
  | tooManyValues
  | argumentConflict
  | help
  | version
  deriving DecidableEq, Repr

/-- Finds the options that occur among the arguments, in their order. -/
abbrev Parser := Command → List String → Except Stop (List Occurrence)

/-! ### How options are written -/

/-- A text may be the value of an option in an argument of its own unless it looks like an option
itself. A lone hyphen does not. -/
def IsValue (text : String) : Prop := text = "-" ∨ text.toList.head? ≠ some '-'

instance (text : String) : Decidable (IsValue text) :=
  inferInstanceAs (Decidable (_ ∨ _))

/-- The arguments that write an occurrence of an option. -/
inductive WrittenAs (options : List Declaration) : Occurrence → List String → Prop where
  | flag {d : Declaration} (hd : d ∈ options) (hf : d.default? = none) :
      WrittenAs options ⟨d.name, none⟩ ["--" ++ d.name]
  /-- The value stands behind an equals sign, and may be any text. -/
  | joined {d : Declaration} (hd : d ∈ options) (hv : d.default? ≠ none) (text : String) :
      WrittenAs options ⟨d.name, some text⟩ ["--" ++ d.name ++ "=" ++ text]
  /-- The value is the argument behind the option. -/
  | separate {d : Declaration} (hd : d ∈ options) (hv : d.default? ≠ none) {text : String}
      (ht : IsValue text) : WrittenAs options ⟨d.name, some text⟩ ["--" ++ d.name, text]

/-- The argument is the terminator, or begins with the name of an option that is declared and has
nothing behind it but a value. -/
def Known (options : List Declaration) (arg : String) : Prop :=
  arg = "--" ∨ ∃ d ∈ options, arg = "--" ++ d.name ∨ ∃ text, arg = "--" ++ d.name ++ "=" ++ text

/-- Options that a parser can tell apart, and from the two that every program has. -/
structure Command.Proper (command : Command) : Prop where
  named : ∀ d ∈ command.options, d.name ≠ "" ∧ ∀ c ∈ d.name.toList, c.isAlphanum = true
  distinct : (command.options.map Declaration.name).Nodup
  free : ∀ d ∈ command.options, d.name ≠ "help" ∧ d.name ≠ "version"

/-! ### What a parser keeps -/

section

variable (parse : Parser) (command : Command)

/-- The arguments are in order so far, and options may follow: there was no terminator. -/
def Takes (args : List String) (given : List Occurrence) : Prop :=
  parse command args = .ok given ∧ "--" ∉ args

/-- The program is not to run. -/
def Refuses (args : List String) : Prop :=
  ∃ stop, parse command args = .error stop

end

/-- The conventions of a parser, for programs that require no option and have no arguments but
options. Each says what becomes of one argument, or of an option and its value, behind arguments
that are in order (`done`). -/
structure Conventions (parse : Parser) : Prop where
  /-- No option is required. -/
  nothing {command : Command} (hc : command.Proper) : parse command [] = .ok []
  /-- An option may be given wherever an option may stand. -/
  given {command : Command} {done args : List String} {before : List Occurrence} {o : Occurrence}
    (hc : command.Proper) (hd : Takes parse command done before)
    (ho : WrittenAs command.options o args) (hnew : o.name ∉ before.map Occurrence.name) :
    parse command (done ++ args) = .ok (before ++ [o])
  /-- An option may not be given a second time, with the same value or with another. -/
  repeated {command : Command} {done args : List String} {before : List Occurrence}
    {o : Occurrence} (hc : command.Proper) (hd : Takes parse command done before)
    (ho : WrittenAs command.options o args) (hold : o.name ∈ before.map Occurrence.name)
    (rest : List String) : Refuses parse command (done ++ args ++ rest)
  /-- A flag takes no value. -/
  surplus {command : Command} {done : List String} {before : List Occurrence} {d : Declaration}
    (hc : command.Proper) (hd : Takes parse command done before) (hmem : d ∈ command.options)
    (hf : d.default? = none) (text : String) (rest : List String) :
    Refuses parse command (done ++ ("--" ++ d.name ++ "=" ++ text) :: rest)
  /-- An option that takes a value is not given without one: neither as the last argument, nor with
  something behind it that is no value. -/
  missing {command : Command} {done rest : List String} {before : List Occurrence}
    {d : Declaration} (hc : command.Proper) (hd : Takes parse command done before)
    (hmem : d ∈ command.options) (hv : d.default? ≠ none)
    (hrest : ∀ text, rest.head? = some text → ¬ IsValue text) :
    Refuses parse command (done ++ ("--" ++ d.name) :: rest)
  /-- The terminator is no option itself. -/
  terminator {command : Command} {done : List String} {before : List Occurrence}
    (hc : command.Proper) (hd : Takes parse command done before) :
    parse command (done ++ ["--"]) = .ok before
  /-- What stands behind the terminator is no option, and nothing else is declared. -/
  behind {command : Command} {done : List String} {before : List Occurrence}
    (hc : command.Proper) (hd : Takes parse command done before) (arg : String)
    (rest : List String) : Refuses parse command (done ++ "--" :: arg :: rest)
  /-- An argument that names no option is refused, or asks for the help or the version. -/
  unknown {command : Command} {done : List String} {before : List Occurrence} {arg : String}
    (hc : command.Proper) (hd : Takes parse command done before)
    (hu : ¬ Known command.options arg) (rest : List String) :
    Refuses parse command (done ++ arg :: rest)

end Calculator.Options
