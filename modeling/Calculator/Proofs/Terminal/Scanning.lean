import Calculator.Options.Scan
import Mathlib.Data.List.Nodup
import Mathlib.Data.List.TakeWhile

/-!
# Calculator — Proofs — Terminal — Scanning

The parser that the program is run with keeps the conventions of parsers (`scan_conventions`).  It
takes an argument for an option only where the name of one is written in it (`Argument.known`,
`Argument.ofString_name`), and what it has taken does not change what it makes of the arguments
behind (`take_append`).
-/

namespace Calculator.Options

variable {options : List Declaration} {command : Command} {d : Declaration} {arg : String}

/-! ### Names -/

/-- A name that is declared is found with its declaration. -/
theorem Command.Proper.find?_name (hc : command.Proper) (hd : d ∈ command.options) :
    command.options.find? (·.name == d.name) = some d := by
  cases hfind : command.options.find? (·.name == d.name) with
  | none => exact absurd (List.find?_eq_none.1 hfind d hd) (by simp)
  | some d' =>
      have hname : d'.name = d.name := by simpa using List.find?_some hfind
      rw [List.inj_on_of_nodup_map hc.distinct (List.mem_of_find?_eq_some hfind) hd hname]

theorem Command.Proper.equals_not_mem (hc : command.Proper) (hd : d ∈ command.options) :
    '=' ∉ d.name.toList :=
  fun h => absurd ((hc.named d hd).2 '=' h) (by decide)

/-! ### Single arguments -/

namespace Argument

/-- What is split at the first equals sign can be joined again. -/
theorem splitAtEquals_join (text : List Char) :
    (splitAtEquals text).1 ++ ((splitAtEquals text).2.map ('=' :: ·)).getD [] = text := by
  have hjoin := List.takeWhile_append_dropWhile (p := (· != '=')) (l := text)
  have hhead := List.head?_dropWhile_not (· != '=') text
  unfold splitAtEquals
  cases h : text.dropWhile (· != '=') with
  | nil =>
      rw [h, List.append_nil] at hjoin
      simpa using hjoin
  | cons x rest =>
      obtain rfl : x = '=' := by simpa [h] using hhead
      rw [h] at hjoin
      simpa using hjoin

/-- A name is split off as a whole. -/
theorem splitAtEquals_name {name : List Char} (h : '=' ∉ name) (value : List Char) :
    splitAtEquals name = (name, none) ∧ splitAtEquals (name ++ '=' :: value) = (name, some value) := by
  have hname : ∀ c ∈ name, (c != '=') = true := fun c hc => by
    simpa using fun heq : c = '=' => h (heq ▸ hc)
  simp [splitAtEquals, List.takeWhile_append_of_pos hname, List.dropWhile_append_of_pos hname,
    List.takeWhile_eq_self_iff.2 hname, List.dropWhile_eq_nil_iff.2 hname]

theorem ofString_name {name : String} (hne : name ≠ "") (heq : '=' ∉ name.toList) :
    ofString options ("--" ++ name) = ofLong options name none := by
  have harg : ("--" ++ name).toList = '-' :: '-' :: name.toList := String.toList_append
  have hnil : name.toList ≠ [] := by simpa using hne
  unfold ofString
  rw [harg]
  split
  next h => simp_all
  next rest _ h =>
    obtain rfl : name.toList = rest := by simpa using h
    simp [(splitAtEquals_name heq []).1]
  all_goals simp_all

theorem ofString_name_value {name : String} (heq : '=' ∉ name.toList) (text : String) :
    ofString options ("--" ++ name ++ "=" ++ text) = ofLong options name (some text) := by
  have harg : ("--" ++ name ++ "=" ++ text).toList =
      '-' :: '-' :: (name.toList ++ '=' :: text.toList) := by simp
  unfold ofString
  rw [harg]
  split
  next h => simp_all
  next rest _ h =>
    obtain rfl : name.toList ++ '=' :: text.toList = rest := by simpa using h
    simp [(splitAtEquals_name heq text.toList).2]
  all_goals simp_all

/-- The option that is written in an argument is declared. -/
theorem exists_find?_of_ofLong {name : String} {value? : Option String}
    (h : ofLong options name value? ∉ [.help, .version, .surplusValue, .other]) :
    ∃ d, options.find? (·.name == name) = some d := by
  cases hfind : options.find? (·.name == name) with
  | some d => exact ⟨d, rfl⟩
  | none =>
      refine absurd ?_ h
      unfold ofLong
      rw [hfind]
      cases value? with
      | none => by_cases hh : name = "help" <;> by_cases hv : name = "version" <;> simp [hh, hv]
      | some text => by_cases hn : name = "help" ∨ name = "version" <;> simp [hn]

theorem ofLong_ne_terminator {name : String} {value? : Option String} :
    ofLong options name value? ≠ .terminator := by
  unfold ofLong
  repeat' split
  all_goals simp

/-- Only an argument that is known is the terminator, or an option that the program has. -/
theorem known (h : ofString options arg ∉ [.help, .version, .surplusValue, .other]) :
    Known options arg := by
  unfold ofString at h
  split at h
  next harg => exact .inl (String.toList_inj.1 harg)
  next rest _ harg =>
    obtain ⟨d, hfind⟩ := exists_find?_of_ofLong h
    have hname : d.name = String.ofList (splitAtEquals rest).1 := by
      simpa using List.find?_some hfind
    have hjoin := splitAtEquals_join rest
    refine .inr ⟨d, List.mem_of_find?_eq_some hfind, ?_⟩
    rw [← String.toList_inj, hname, harg]
    generalize splitAtEquals rest = parts at hjoin
    obtain ⟨name, value?⟩ := parts
    cases value? with
    | none => exact .inl (by simp [← hjoin])
    | some text => exact .inr ⟨String.ofList text, String.toList_inj.1 (by simp [harg, ← hjoin])⟩
  all_goals simp at h

theorem eq_of_ofString_eq_terminator (h : ofString options arg = .terminator) : arg = "--" := by
  unfold ofString at h
  split at h
  next harg => exact String.toList_inj.1 harg
  next => exact absurd h ofLong_ne_terminator
  all_goals cases h

end Argument

/-! ### Reading -/

variable {given next : List Occurrence} {o : Occurrence} {args rest : List String}
  {name text : String} {stop : Stop}

theorem add_of_not_mem (h : o.name ∉ given.map Occurrence.name) : add o given = .ok (given ++ [o]) :=
  if_neg h

theorem add_of_mem (h : o.name ∈ given.map Occurrence.name) :
    add o given = .error .argumentConflict :=
  if_pos h

theorem bind_eq_ok_iff {α β : Type} {x : Except Stop α} {f : α → Except Stop β} {b : β} :
    x >>= f = .ok b ↔ ∃ a, x = .ok a ∧ f a = .ok b := by
  cases x with
  | error stop => simp [bind, Except.bind]
  | ok a => simp [bind, Except.bind]

theorem take_flag (h : Argument.ofString options arg = .flag name) :
    take options given (arg :: rest) =
      add ⟨name, none⟩ given >>= fun next => take options next rest := by
  rw [take.eq_def]
  simp only [h]

theorem take_joined (h : Argument.ofString options arg = .joined name text) :
    take options given (arg :: rest) =
      add ⟨name, some text⟩ given >>= fun next => take options next rest := by
  rw [take.eq_def]
  simp only [h]

theorem take_expects (h : Argument.ofString options arg = .expects name) (ht : IsValue text)
    (hadd : add ⟨name, some text⟩ given = .ok next) :
    take options given (arg :: text :: rest) = take options next rest := by
  rw [take.eq_def]
  simp only [h, if_pos ht, hadd]

theorem take_expects_of_error (h : Argument.ofString options arg = .expects name)
    (hadd : add ⟨name, some text⟩ given = .error stop) :
    ∃ stop, take options given (arg :: text :: rest) = .error stop := by
  rw [take.eq_def]
  by_cases ht : IsValue text <;> simp [h, ht, hadd]

/-- An option that takes a value is refused where none is behind it. -/
theorem take_expects_of_missing (h : Argument.ofString options arg = .expects name)
    (hrest : ∀ text, rest.head? = some text → ¬ IsValue text) :
    ∃ stop, take options given (arg :: rest) = .error stop := by
  rw [take.eq_def]
  cases rest with
  | nil => simp [h]
  | cons text later => simp [h, hrest text rfl]

/-- What is not known is refused, or asks for something else. -/
theorem take_of_not_known (h : ¬ Known options arg) :
    ∃ stop, take options given (arg :: rest) = .error stop := by
  have harg : Argument.ofString options arg ∈ [.help, .version, .surplusValue, .other] := by
    by_contra hno
    exact h (Argument.known hno)
  simp only [List.mem_cons, List.not_mem_nil, or_false] at harg
  rw [take.eq_def]
  rcases harg with harg | harg | harg | harg <;> simp [harg]

/-- What has been taken is in order, so reading goes on behind it as if nothing stood there but the
options that were found. -/
theorem take_append (h : take options given args = .ok next) (hargs : "--" ∉ args) :
    take options given (args ++ rest) = take options next rest := by
  fun_induction take options given args with
  | case1 given =>
      cases h
      rfl
  | case2 given arg args name harg ih =>
      obtain ⟨between, hadd, h⟩ := bind_eq_ok_iff.1 h
      rw [List.cons_append, take_flag harg, hadd]
      exact ih between h (List.not_mem_of_not_mem_cons hargs)
  | case3 given arg args name text harg ih =>
      obtain ⟨between, hadd, h⟩ := bind_eq_ok_iff.1 h
      rw [List.cons_append, take_joined harg, hadd]
      exact ih between h (List.not_mem_of_not_mem_cons hargs)
  | case5 given arg name harg text args ht between hadd ih =>
      rw [List.cons_append, List.cons_append, take_expects harg ht hadd]
      exact ih h (List.not_mem_of_not_mem_cons (List.not_mem_of_not_mem_cons hargs))
  | case11 given arg args harg =>
      exact absurd (Argument.eq_of_ofString_eq_terminator harg ▸ List.mem_cons_self) hargs
  | case4 | case6 | case7 | case8 | case9 | case10 | case12 | case13 => cases h

/-! ### Options as they are written -/

section

variable (hc : command.Proper)
include hc

/-- What stands in an argument with the name of an option. -/
theorem ofString_option (hd : d ∈ command.options) :
    Argument.ofString command.options ("--" ++ d.name) =
        (if d.default? = none then .flag d.name else .expects d.name) ∧
      ∀ text, Argument.ofString command.options ("--" ++ d.name ++ "=" ++ text) =
        if d.default? = none then .surplusValue else .joined d.name text := by
  have heq := hc.equals_not_mem hd
  constructor
  · rw [Argument.ofString_name (hc.named d hd).1 heq]
    simp only [Argument.ofLong, hc.find?_name hd]
  · intro text
    rw [Argument.ofString_name_value heq]
    simp only [Argument.ofLong, hc.find?_name hd]

/-- An option that is new is taken. -/
theorem take_written (ho : WrittenAs command.options o args)
    (hnew : o.name ∉ given.map Occurrence.name) :
    take command.options given (args ++ rest) = take command.options (given ++ [o]) rest := by
  have hadd := add_of_not_mem hnew
  cases ho with
  | flag hd hf =>
      rw [List.singleton_append, take_flag ((ofString_option hc hd).1.trans (if_pos hf)), hadd]
      rfl
  | joined hd hv text =>
      rw [List.singleton_append, take_joined (((ofString_option hc hd).2 text).trans (if_neg hv)),
        hadd]
      rfl
  | separate hd hv ht => exact take_expects ((ofString_option hc hd).1.trans (if_neg hv)) ht hadd

/-- An option that was given before is refused. -/
theorem take_written_of_mem (ho : WrittenAs command.options o args)
    (hold : o.name ∈ given.map Occurrence.name) :
    ∃ stop, take command.options given (args ++ rest) = .error stop := by
  have hadd := add_of_mem hold
  cases ho with
  | flag hd hf =>
      rw [List.singleton_append, take_flag ((ofString_option hc hd).1.trans (if_pos hf)), hadd]
      exact ⟨_, rfl⟩
  | joined hd hv text =>
      rw [List.singleton_append, take_joined (((ofString_option hc hd).2 text).trans (if_neg hv)),
        hadd]
      exact ⟨_, rfl⟩
  | separate hd hv ht =>
      exact take_expects_of_error ((ofString_option hc hd).1.trans (if_neg hv)) hadd

end

/-- The parser that the program is run with keeps the conventions. -/
theorem scan_conventions : Conventions scan where
  nothing _ := rfl
  given {command done args before o} hc hd ho hnew := by
    rw [scan, take_append hd.1 hd.2, ← List.append_nil args, take_written hc ho hnew]
    rfl
  repeated hc hd ho hold rest := by
    rw [Refuses, scan, List.append_assoc, take_append hd.1 hd.2]
    exact take_written_of_mem hc ho hold
  surplus hc hd hmem hf text rest := by
    rw [Refuses, scan, take_append hd.1 hd.2, take.eq_def]
    simp only [((ofString_option hc hmem).2 text).trans (if_pos hf)]
    exact ⟨_, rfl⟩
  missing hc hd hmem hv hrest := by
    rw [Refuses, scan, take_append hd.1 hd.2]
    exact take_expects_of_missing ((ofString_option hc hmem).1.trans (if_neg hv)) hrest
  terminator hc hd := by
    rw [scan, take_append hd.1 hd.2]
    rfl
  behind hc hd arg rest := by
    rw [Refuses, scan, take_append hd.1 hd.2]
    exact ⟨.unknownArgument, rfl⟩
  unknown hc hd hu rest := by
    rw [Refuses, scan, take_append hd.1 hd.2]
    exact take_of_not_known hu

end Calculator.Options
