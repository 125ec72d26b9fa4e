import Calculator.CommandLine
import Calculator.Proofs.Terminal.Scanning
import Mathlib.Data.List.Induction

/-!
# Calculator — Proofs — Terminal — Arguments

The language of the arguments.  A `Choice` is one option with what belongs to it, and is written as
one argument or two (`Choice.arguments`); `Writes` says which choices are written by a list of
arguments.  Whatever parser the arguments are left to, if it keeps the conventions it finds the
choices in their order (`parse_eq_ok_iff`): each is found behind those before it (`takes_choices`),
and where no choice is written, or one that was made before, the arguments are refused
(`writes_or_refuses`).

**Arguments** (`settings_follow_choices`).  The arguments give settings exactly if they write
choices, in whatever order, with or without a terminator behind them, and the settings are those
that are chosen.
-/

namespace Calculator.CommandLine

open Calculator.Options (Conventions Known Occurrence Parser Refuses Takes WrittenAs)
open Calculator.Terminal (Settings)

/-! ### Choices -/

/-- An option, with the text that belongs to it. -/
inductive Choice where
  | plain
  /-- A prompt in the argument of its option. -/
  | joined (text : String)
  /-- A prompt in an argument of its own. -/
  | separate (text : String)
  deriving DecidableEq, Repr

namespace Choice

/-- The arguments that write a choice. -/
def arguments : Choice → List String
  | .plain => ["--plain"]
  | .joined text => ["--prompt=" ++ text]
  | .separate text => ["--prompt", text]

/-- The prompt that is chosen. -/
def prompt? : Choice → Option String
  | .plain => none
  | .joined text | .separate text => some text

/-- A prompt in an argument of its own does not look like an option, unless it is a lone hyphen. -/
def Allowed : Choice → Prop
  | .plain | .joined _ => True
  | .separate text => text = "-" ∨ text.toList.head? ≠ some '-'

/-- The option that occurs where the choice is written. -/
def occurrence : Choice → Occurrence
  | .plain => ⟨"plain", none⟩
  | .joined text | .separate text => ⟨"prompt", some text⟩

theorem length_arguments_pos (choice : Choice) : 0 < choice.arguments.length := by
  cases choice <;> simp [arguments]

end Choice

/-- The prompts that are chosen. -/
def prompts (choices : List Choice) : List String := choices.filterMap Choice.prompt?

/-- The choices may be written together: each is allowed, and no option comes twice. -/
structure Accepted (choices : List Choice) : Prop where
  allowed : ∀ choice ∈ choices, choice.Allowed
  plain : choices.count .plain ≤ 1
  prompt : (prompts choices).length ≤ 1

/-- The arguments write choices that may be written together, and perhaps a terminator behind
them. -/
def Writes (choices : List Choice) (args : List String) : Prop :=
  Accepted choices ∧ ∃ ending, (ending = [] ∨ ending = ["--"]) ∧
    args = choices.flatMap Choice.arguments ++ ending

/-- The settings that are chosen. -/
def chosen (choices : List Choice) : Settings where
  prompt := (prompts choices).head?.getD ({} : Settings).prompt
  plain := decide (.plain ∈ choices)

/-! ### Choices as options -/

variable {parse : Parser} {choice : Choice} {choices : List Choice} {args : List String}

theorem command_proper : command.Proper :=
  ⟨by decide, by decide, by decide⟩

theorem Choice.written (h : choice.Allowed) :
    WrittenAs command.options choice.occurrence choice.arguments := by
  have hprompt : promptOption ∈ command.options := by decide
  have hplain : plainOption ∈ command.options := by decide
  cases choice with
  | plain => exact .flag hplain rfl
  | joined text => exact .joined hprompt (by decide) text
  | separate text => exact .separate hprompt (by decide) h

theorem Choice.terminator_not_mem_arguments (h : choice.Allowed) : "--" ∉ choice.arguments := by
  cases choice with
  | plain => decide
  | joined text =>
      rw [arguments, List.mem_singleton, ← String.toList_inj]
      simp
  | separate text =>
      have htext : "--" ≠ text := by
        rintro rfl
        rcases h with h | h <;> exact absurd h (by decide)
      simp [arguments, htext]

/-- The names of the options that occur in the choices. -/
def names (choices : List Choice) : List String :=
  (choices.map Choice.occurrence).map Occurrence.name

theorem plain_mem_names : "plain" ∈ names choices ↔ .plain ∈ choices := by
  induction choices with
  | nil => simp [names]
  | cons choice choices ih => cases choice <;> simp_all [names, Choice.occurrence]

theorem prompt_mem_names : "prompt" ∈ names choices ↔ prompts choices ≠ [] := by
  induction choices with
  | nil => simp [names, prompts]
  | cons choice choices ih =>
      cases choice <;> simp_all [names, prompts, Choice.occurrence, Choice.prompt?]

theorem prompts_concat : prompts (choices ++ [choice]) = prompts choices ++ choice.prompt?.toList := by
  cases choice <;> simp [prompts, Choice.prompt?]

theorem accepted_iff : Accepted choices ↔
    (∀ choice ∈ choices, choice.Allowed) ∧ choices.count .plain ≤ 1 ∧
      (prompts choices).length ≤ 1 :=
  ⟨fun h => ⟨h.allowed, h.plain, h.prompt⟩, fun h => ⟨h.1, h.2.1, h.2.2⟩⟩

/-- A choice may be written behind others if its option was not given before. -/
theorem accepted_concat_iff : Accepted (choices ++ [choice]) ↔
    Accepted choices ∧ choice.Allowed ∧ choice.occurrence.name ∉ names choices := by
  have hallowed : (∀ c ∈ choices ++ [choice], c.Allowed) ↔
      (∀ c ∈ choices, c.Allowed) ∧ choice.Allowed := by
    simp [or_imp, forall_and]
  rw [accepted_iff, accepted_iff, hallowed, List.count_append, prompts_concat, List.length_append]
  cases choice with
  | plain =>
      have hname : Choice.plain.occurrence.name ∉ names choices ↔ choices.count .plain = 0 :=
        (not_congr plain_mem_names).trans List.count_eq_zero.symm
      have hcount : [Choice.plain].count .plain = 1 := rfl
      have hlength : (Choice.plain.prompt?.toList).length = 0 := rfl
      rw [hname, hcount, hlength]
      constructor
      · rintro ⟨⟨ha, hc⟩, hplain, hprompt⟩
        exact ⟨⟨ha, by omega, hprompt⟩, hc, by omega⟩
      · rintro ⟨⟨ha, -, hprompt⟩, hc, hplain⟩
        exact ⟨⟨ha, hc⟩, by omega, hprompt⟩
  | joined text | separate text =>
      have hname : "prompt" ∉ names choices ↔ (prompts choices).length = 0 := by
        rw [prompt_mem_names, not_not, List.length_eq_zero_iff]
      simp only [Choice.occurrence, Choice.prompt?, Option.toList_some, List.length_singleton, hname]
      constructor
      · rintro ⟨⟨ha, hc⟩, hplain, hprompt⟩
        exact ⟨⟨ha, hplain, by omega⟩, hc, by omega⟩
      · rintro ⟨⟨ha, hplain, -⟩, hc, hprompt⟩
        exact ⟨⟨ha, hc⟩, hplain, by omega⟩

/-! ### What a parser finds -/

/-- Choices are found one behind the other. -/
theorem takes_choices (h : Conventions parse) (hc : Accepted choices) :
    Takes parse command (choices.flatMap Choice.arguments) (choices.map Choice.occurrence) := by
  induction choices using List.reverseRecOn with
  | nil => exact ⟨h.nothing command_proper, by simp⟩
  | append_singleton choices choice ih =>
      obtain ⟨hcs, hchoice, hnew⟩ := accepted_concat_iff.1 hc
      have hfront := ih hcs
      have hmem : "--" ∉ choices.flatMap Choice.arguments ++ choice.arguments :=
        List.not_mem_append hfront.2 (Choice.terminator_not_mem_arguments hchoice)
      rw [List.flatMap_append, List.flatMap_singleton, List.map_append, List.map_singleton]
      exact ⟨h.given command_proper hfront (Choice.written hchoice) hnew, hmem⟩

/-- What stands first: a terminator, a choice, or something that is refused wherever it stands. -/
theorem first_argument (h : Conventions parse) (arg : String) (rest : List String) :
    arg = "--" ∨
    (∃ (choice : Choice) (behind : List String), choice.Allowed ∧
      arg :: rest = choice.arguments ++ behind) ∨
    ∀ {done : List String} {before : List Occurrence}, Takes parse command done before →
      Refuses parse command (done ++ arg :: rest) := by
  by_cases hk : Known command.options arg
  · have hprompt : promptOption ∈ command.options := by decide
    have hplain : plainOption ∈ command.options := by decide
    rcases hk with hk | ⟨d, hd, hk⟩
    · exact .inl hk
    · rcases List.mem_pair.1 hd with rfl | rfl
      · rcases hk with rfl | ⟨text, rfl⟩
        · -- the prompt is the argument behind, if there is one that may be a value
          by_cases hrest : ∀ text, rest.head? = some text → ¬ Options.IsValue text
          · exact .inr (.inr fun hdone => h.missing command_proper hdone hprompt (by decide) hrest)
          · simp only [not_forall, not_not] at hrest
            obtain ⟨text, htext, hvalue⟩ := hrest
            obtain ⟨behind, rfl⟩ := List.head?_eq_some_iff.1 htext
            exact .inr (.inl ⟨.separate text, behind, hvalue, rfl⟩)
        · exact .inr (.inl ⟨.joined text, rest, trivial, rfl⟩)
      · rcases hk with rfl | ⟨text, rfl⟩
        · exact .inr (.inl ⟨.plain, rest, trivial, rfl⟩)
        · exact .inr (.inr fun hdone => h.surplus command_proper hdone hplain rfl text rest)
  · exact .inr (.inr fun hdone => h.unknown command_proper hdone hk rest)

/-- Behind choices that were made, more are written, or the arguments are refused. -/
theorem writes_or_refuses (h : Conventions parse) {choices : List Choice} (hc : Accepted choices)
    (rest : List String) :
    (∃ choices', Writes choices' (choices.flatMap Choice.arguments ++ rest)) ∨
      Refuses parse command (choices.flatMap Choice.arguments ++ rest) := by
  have hdone := takes_choices h hc
  match rest with
  | [] => exact .inl ⟨choices, hc, [], .inl rfl, rfl⟩
  | arg :: rest =>
      rcases first_argument h arg rest with rfl | ⟨choice, behind, hchoice, hargs⟩ | hrefused
      · cases rest with
        | nil => exact .inl ⟨choices, hc, ["--"], .inr rfl, rfl⟩
        | cons arg rest => exact .inr (h.behind command_proper hdone arg rest)
      · rw [hargs, ← List.append_assoc]
        by_cases hnew : choice.occurrence.name ∈ names choices
        · exact .inr (h.repeated command_proper hdone (Choice.written hchoice) hnew behind)
        · have hconcat := accepted_concat_iff.2 ⟨hc, hchoice, hnew⟩
          have hle : behind.length ≤ rest.length := by
            have hlength := congrArg List.length hargs
            have := choice.length_arguments_pos
            rw [List.length_cons, List.length_append] at hlength
            omega
          simpa using writes_or_refuses h hconcat behind
      · exact .inr (hrefused hdone)
termination_by rest.length

/-- The parser finds what is chosen, and finds nothing where no choices are written. -/
theorem parse_eq_ok_iff (h : Conventions parse) {occurrences : List Occurrence} :
    parse command args = .ok occurrences ↔
      ∃ choices, Writes choices args ∧ occurrences = choices.map Choice.occurrence := by
  have hwrites : ∀ choices, Writes choices args →
      parse command args = .ok (choices.map Choice.occurrence) := by
    rintro choices ⟨hc, ending, rfl | rfl, rfl⟩
    · rw [List.append_nil]
      exact (takes_choices h hc).1
    · exact h.terminator command_proper (takes_choices h hc)
  constructor
  · intro hok
    have hnone : Accepted [] := accepted_iff.2 (by simp [prompts])
    rcases writes_or_refuses h hnone args with ⟨choices, hw⟩ | ⟨stop, hstop⟩
    · exact ⟨choices, hw, Except.ok.inj (hok.symm.trans (hwrites choices hw))⟩
    · cases hok.symm.trans hstop
  · rintro ⟨choices, hw, rfl⟩
    exact hwrites choices hw

/-! ### Settings -/

/-- The settings for the options that occur are those that are chosen. -/
theorem ofOccurrences_map (choices : List Choice) :
    ofOccurrences (choices.map Choice.occurrence) = chosen choices := by
  have hprompt : ((choices.map Choice.occurrence).find? (·.name == "prompt")).bind (·.value?) =
      (prompts choices).head? := by
    induction choices with
    | nil => rfl
    | cons choice choices ih =>
        cases choice with
        | plain => exact ih
        | joined text | separate text => rfl
  have hplain : (choices.map Choice.occurrence).any (·.name == "plain") =
      decide (.plain ∈ choices) := by
    rw [Bool.eq_iff_iff, decide_eq_true_iff, ← plain_mem_names]
    simp [names]
  change Settings.mk (Option.getD _ _) _ = _
  rw [show promptOption.name = "prompt" from rfl, hprompt]
  exact congrArg (Settings.mk _) hplain

theorem settings_eq_ok_iff (h : Conventions parse) {settings : Settings} :
    CommandLine.settings args parse = .ok settings ↔
      ∃ choices, Writes choices args ∧ settings = chosen choices := by
  rw [CommandLine.settings]
  constructor
  · intro hsettings
    cases hparse : parse command args with
    | error stop => rw [hparse] at hsettings; cases hsettings
    | ok occurrences =>
        rw [hparse] at hsettings
        obtain ⟨choices, hw, rfl⟩ := (parse_eq_ok_iff h).1 hparse
        exact ⟨choices, hw, (Except.ok.inj hsettings).symm.trans (ofOccurrences_map choices)⟩
  · rintro ⟨choices, hw, rfl⟩
    rw [(parse_eq_ok_iff h).2 ⟨choices, hw, rfl⟩]
    exact congrArg Except.ok (ofOccurrences_map choices)

/-- **Arguments.**  With a parser that keeps the conventions, the arguments give settings exactly if
they write choices of which no option comes twice, in whatever order and perhaps with a terminator
behind them, and the settings are those that are chosen: plain if that option is among the choices,
and the prompt of the one that has one, or else the default.  All other arguments stop the
program. -/
theorem settings_follow_choices (h : Conventions parse) (args : List String) :
    (∀ settings, CommandLine.settings args parse = .ok settings ↔
      ∃ choices, Writes choices args ∧ settings = chosen choices) ∧
    ((∃ stop, CommandLine.settings args parse = .error stop) ↔
      ¬ ∃ choices, Writes choices args) := by
  refine ⟨fun settings => settings_eq_ok_iff h, ?_⟩
  constructor
  · rintro ⟨stop, hstop⟩ ⟨choices, hw⟩
    rw [(settings_eq_ok_iff h).2 ⟨choices, hw, rfl⟩] at hstop
    cases hstop
  · intro hnone
    cases hargs : CommandLine.settings args parse with
    | error stop => exact ⟨stop, rfl⟩
    | ok settings => exact absurd (((settings_eq_ok_iff h).1 hargs).imp fun _ hw => hw.1) hnone

/-- The parser that the program is run with takes a lone hyphen for a prompt, in whatever place the
option stands, and does not take another option for one. -/
theorem settings_follow_choices_hyphen :
    Conventions Options.scan ∧
    Writes [.separate "-", .plain] ["--prompt", "-", "--plain", "--"] ∧
    CommandLine.settings ["--prompt", "-", "--plain", "--"] Options.scan = .ok ⟨"-", true⟩ ∧
    (∃ stop, CommandLine.settings ["--prompt", "--plain"] Options.scan = .error stop) ∧
    ¬ ∃ choices, Writes choices ["--prompt", "--plain"] := by
  have hwrites : Writes [.separate "-", .plain] ["--prompt", "-", "--plain", "--"] :=
    ⟨⟨by simp [Choice.Allowed], by decide, by decide⟩, ["--"], .inr rfl, rfl⟩
  have hstop : ∃ stop, CommandLine.settings ["--prompt", "--plain"] Options.scan = .error stop :=
    ⟨.invalidValue, rfl⟩
  exact ⟨Options.scan_conventions, hwrites,
    ((settings_follow_choices Options.scan_conventions _).1 _).2 ⟨_, hwrites, rfl⟩, hstop,
    (settings_follow_choices Options.scan_conventions _).2.1 hstop⟩

/-- A prompt that looks like the other option is a prompt all the same. -/
example : CommandLine.settings ["--prompt=--plain", "--"] = .ok ⟨"--plain", false⟩ := rfl

end Calculator.CommandLine
