import Calculator.Options.Scan
import Calculator.Terminal

/-!
# Calculator — Command line

The options of the program, and the settings that are made of those that occur. What occurs is found
by a parser of options, which is any; unless it is told otherwise the program is run with
`Options.scan`.
-/

namespace Calculator.CommandLine

open Calculator.Options (Command Declaration Occurrence Parser)
open Calculator.Terminal (Settings)

/-- Why the arguments give no settings. -/
abbrev Stop := Options.Stop

/-- The prompt that is printed, with a default for it. -/
def promptOption : Declaration where
  name := "prompt"
  about := "Prompt printed before each line"
  default? := some ({} : Settings).prompt

def plainOption : Declaration where
  name := "plain"
  about := "Print errors without terminal styling"

/-- The program, as it is declared to a parser of options. -/
def command : Command where
  name := "calc"
  version := "0.1.0"
  about := "Interactive integer calculator"
  options := [promptOption, plainOption]

/-- The settings for the options that occur: the prompt that was given, or else its default, and
plain if that option is among them. -/
def ofOccurrences (occurrences : List Occurrence) : Settings where
  prompt := ((occurrences.find? (·.name == promptOption.name)).bind (·.value?)).getD
    (promptOption.default?.getD "")
  plain := occurrences.any (·.name == plainOption.name)

/-- The settings that the arguments ask for. -/
def settings (args : List String) (parse : Parser := Options.scan) : Except Stop Settings :=
  (parse command args).map ofOccurrences

/-- What the program prints instead of running, if it was asked to. -/
def Stop.text? (stop : Stop) : Option String :=
  Options.Stop.text? command stop

end Calculator.CommandLine
