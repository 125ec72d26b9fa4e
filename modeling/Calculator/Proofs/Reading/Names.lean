import Mathlib.Data.List.Induction
import Calculator.Proofs.Reading.Lines
import Calculator.Proofs.Reading.Lockstep

/-!
# Calculator — Proofs — Reading — Names

The names a line has to do with, read off its text.  A name stands in a text where a run of letters
is neither preceded nor followed by a letter (`HasName`), and `runs` lists such runs.  `Line.Reads`
are the names that stand where the expression of the line is, reached by its reader or not, and
`Line.Sets` is the name behind the keyword.

A line reads no other name and sets no other: two stores that give the names it reads the same
values make it the same statement (`ofLine_congr`), and what an assignment assigns to is the name
its text sets (`sets_of_ofLine`).
-/

namespace Calculator

open Statement (keyword)

/-- The name stands in the text, as a run of letters that goes on neither before nor behind. -/
def HasName (text name : List Char) : Prop :=
  IsName name ∧ ∃ before behind, text = before ++ name ++ behind ∧
    (∀ x ∈ before.getLast?, isLetter x = false) ∧ Stops isLetter behind

theorem HasName.mem {text name : List Char} (h : HasName text name) {x : Char} (hx : x ∈ name) :
    x ∈ text := by
  obtain ⟨-, before, behind, rfl, -, -⟩ := h
  exact List.mem_append_left _ (List.mem_append_right _ hx)

/-! ### Runs -/

section Runs

variable {p : Char → Bool} {text u v : List Char} {x : Char}

/-- The runs of characters of `p` in a text, from left to right. -/
def runs (p : Char → Bool) (text : List Char) : List (List Char) :=
  (text.splitOnP fun x => !p x).filter fun u => !u.isEmpty

theorem runs_append_cons (u v : List Char) (hx : p x = false) :
    runs p (u ++ x :: v) = runs p u ++ runs p v := by
  rw [runs, List.splitOnP_append_cons u v (by rw [hx, Bool.not_false]), List.filter_append]
  rfl

theorem mem_runs_of_forall (hu : ∀ x ∈ u, p x = true) : v ∈ runs p u ↔ v = u ∧ u ≠ [] := by
  have hsplit : u.splitOnP (fun x => !p x) = [u] :=
    List.splitOnP_eq_singleton fun x hx => by rw [hu x hx, Bool.not_true]
  rw [runs, hsplit, List.mem_filter, List.mem_singleton, Bool.not_eq_true',
    List.isEmpty_eq_false_iff]
  exact and_congr_right fun h => h ▸ Iff.rfl

/-- A run is made of such characters, and goes on neither before nor behind. -/
theorem exists_of_mem_runs (h : u ∈ runs p text) : (u ≠ [] ∧ ∀ x ∈ u, p x = true) ∧
    ∃ before behind, text = before ++ u ++ behind ∧
      (∀ x ∈ before.getLast?, p x = false) ∧ Stops p behind := by
  induction hn : text.length using Nat.strongRecOn generalizing text with
  | ind n ih =>
  subst hn
  obtain ⟨first, rest, rfl, hfirst, hstop⟩ := exists_run_append p text
  cases rest with
  | nil =>
      rw [List.append_nil] at h
      obtain ⟨rfl, hne⟩ := (mem_runs_of_forall hfirst).1 h
      exact ⟨⟨hne, hfirst⟩, [], [], by simp, by simp, stops_nil p⟩
  | cons x rest =>
      rw [runs_append_cons _ _ (stops_cons_iff.1 hstop), List.mem_append,
        mem_runs_of_forall hfirst] at h
      rcases h with ⟨rfl, hne⟩ | h
      · exact ⟨⟨hne, hfirst⟩, [], x :: rest, by simp, by simp, hstop⟩
      · obtain ⟨hu, before, behind, rfl, hlast, hbehind⟩ := ih rest.length (by simp; omega) h rfl
        refine ⟨hu, first ++ x :: before, behind, by simp, ?_, hbehind⟩
        cases before with
        | nil => simpa [List.getLast?_append] using hstop
        | cons y before => simpa [List.getLast?_append, List.getLast?_cons_cons] using hlast

theorem mem_runs_iff : u ∈ runs p text ↔ (u ≠ [] ∧ ∀ x ∈ u, p x = true) ∧
    ∃ before behind, text = before ++ u ++ behind ∧
      (∀ x ∈ before.getLast?, p x = false) ∧ Stops p behind := by
  refine ⟨exists_of_mem_runs, ?_⟩
  rintro ⟨⟨hne, hu⟩, before, behind, rfl, hlast, hstop⟩
  have hbehind : u ∈ runs p (u ++ behind) := by
    have hrun : u ∈ runs p u := (mem_runs_of_forall hu).2 ⟨rfl, hne⟩
    cases behind with
    | nil => rwa [List.append_nil]
    | cons x behind =>
        rw [runs_append_cons _ _ (stops_cons_iff.1 hstop)]
        exact List.mem_append_left _ hrun
  rw [List.append_assoc]
  cases before using List.reverseRecOn with
  | nil => exact hbehind
  | append_singleton before x =>
      rw [List.append_assoc, List.singleton_append, runs_append_cons _ _ (hlast x (by simp))]
      exact List.mem_append_right _ hbehind

/-- The names that stand in a text are its runs of letters. -/
theorem hasName_iff_mem_runs : HasName text u ↔ u ∈ runs isLetter text :=
  mem_runs_iff.symm

end Runs

/-! ### Expressions -/

namespace Cursor

/-- `c` is a place behind `base` that is not inside a run of letters. -/
def Bounds (base c : Cursor) : Prop :=
  ∃ u, base.Passes u c ∧ ((∀ x ∈ u.getLast?, isLetter x = false) ∨ Stops isLetter c.after)

variable {base c d : Cursor} {v : List Char}

theorem Bounds.refl (c : Cursor) : c.Bounds c :=
  ⟨[], .refl c, .inl fun _ hx => nomatch hx⟩

/-- A run of letters does not go on behind other characters. -/
theorem Bounds.trans (h : base.Bounds c) (hp : c.Passes v d)
    (hv : ∀ x ∈ v, isLetter x = false) : base.Bounds d := by
  obtain ⟨u, hu, hc⟩ := h
  cases v using List.reverseRecOn with
  | nil =>
      obtain rfl := hp.unique (.refl c)
      exact ⟨u, hu, hc⟩
  | append_singleton v x =>
      refine ⟨_, hu.trans hp, .inl fun y hy => hv y ?_⟩
      rw [← List.append_assoc, List.getLast?_concat, Option.mem_some_iff] at hy
      subst hy
      exact List.mem_concat_self

/-- What is read as a name behind such a place stands in the text. -/
theorem Bounds.hasName {letters : List Char} (h : base.Bounds c) (hn : IsName letters)
    (hp : c.Passes letters d) (hd : Stops isLetter d.after) : HasName base.after letters := by
  obtain ⟨u, hu, hlast | hstop⟩ := h
  · exact ⟨hn, u, d.after, (hu.trans hp).1, hlast, hd⟩
  · obtain ⟨x, rest, rfl, hx⟩ := hn.exists_head
    rw [hp.1, List.cons_append, stops_cons_iff, hx] at hstop
    cases hstop

end Cursor

variable {store store' : Store} {base c d : Cursor}

/-- Two stores keep the same place as long as they give the same values to the names that stand
there. -/
theorem lockstep_bounds (h : ∀ letters, HasName base.after letters →
      store'[String.ofList letters]? = store[String.ofList letters]?) :
    Lockstep store store' fun c c' => c' = c ∧ base.Bounds c where
  blanks := by
    rintro _ c ⟨rfl, hc⟩
    obtain ⟨space, d, hp, hs, hb⟩ := c.exists_blanks
    rw [Cursor.skipBlanks_eq hp hs hb]
    exact ⟨rfl, hc.trans hp hs.isLetter_eq_false⟩
  head? := by
    rintro _ d ⟨rfl, -⟩ - -
    rfl
  symbol := by
    rintro _ d e e' x ⟨rfl, hd⟩ hx hp hp'
    refine ⟨hp'.unique hp, hd.trans hp fun y hy => ?_⟩
    obtain rfl := List.mem_singleton.1 hy
    exact isLetter_eq_false_of_mem_punctuation _ hx
  literal := by
    rintro _ d e l ⟨rfl, hd⟩ - hl hp he
    exact ⟨e, hp, he, rfl, hd.trans hp hl.isLetter_eq_false⟩
  name := by
    rintro _ d e letters ⟨rfl, hd⟩ - hn hp he
    obtain ⟨u, hu, -⟩ := id hd
    exact ⟨h letters (hd.hasName hn hp he), e, hp, he, rfl, u ++ letters, hu.trans hp, .inr he⟩

/-- An expression depends on the names that stand in its text. -/
theorem expression_congr (hc : base.Bounds c) (h : ∀ letters, HasName base.after letters →
      store'[String.ofList letters]? = store[String.ofList letters]?) :
    expression store' c = expression store c := by
  have hR := (lockstep_bounds h).expression ⟨rfl, hc⟩
  generalize expression store c = out at hR ⊢
  generalize expression store' c = out' at hR ⊢
  cases hR with
  | ok h | error h => rw [h.1]

/-! ### Lines -/

namespace Line

/-- The part of a line in which names are read: an assignment has it behind the equals sign. -/
def readPart (line : List Char) : List Char :=
  if BeginsWithKeyword line then (line.dropWhile (· ≠ '=')).drop 1 else line

/-- The run of letters behind the keyword and blanks. -/
def targetPart (line : List Char) : List Char :=
  (((line.dropWhile isBlank).drop keyword.length).dropWhile isBlank).takeWhile isLetter

/-- The name stands in the text where the line has its expression. -/
def Reads (line name : List Char) : Prop := HasName (readPart line) name

/-- The line is an assignment to the name, whatever comes behind. -/
def Sets (line name : List Char) : Prop :=
  BeginsWithKeyword line ∧ IsName name ∧ targetPart line = name

end Line

open Line

/-- The text of an assignment, as far as it is read before the expression. -/
theorem assignment_text {line space space' name space'' : List Char}
    (hp : (Cursor.start line).Passes (space ++ keyword ++ space' ++ name ++ space'' ++ ['=']) d) :
    line = space ++ (keyword ++ (space' ++ (name ++ (space'' ++ '=' :: d.after)))) :=
  (show line = _ from hp.1).trans (by simp)

/-- The expression of a line is read from the part where names are read, at its beginning or
behind blanks. -/
theorem TargetRun.exists_readPart {line : List Char} {target : Option (List Char)}
    (h : TargetRun (.start line) (.ok (target, d))) :
    ∃ (base : Cursor) (space : List Char), base.after = readPart line ∧ Blanks space ∧
      base.Passes space d := by
  cases h with
  | @expression space _ hs hp hb hk =>
      refine ⟨.start line, space, ?_, hs, hp⟩
      rw [readPart, if_neg (mt (beginsWithKeyword_iff_of_passes hp hs hb).1 hk)]
      rfl
  | @assignment space space' name space'' _ hs hs' hn hs'' hp =>
      refine ⟨d, [], ?_, blanks_nil, .refl d⟩
      have hk : BeginsWithKeyword line :=
        beginsWithKeyword_iff.2 ⟨space, hs, by simp [assignment_text hp]⟩
      -- the first equals sign is the one behind the name
      have hlead : ∀ x ∈ space ++ keyword ++ space' ++ name ++ space'', x ≠ '=' := by
        rintro x hx rfl
        exact absurd (mem_target hs hs' hn hs'' _ hx) (by decide)
      rw [readPart, if_pos hk, (show line = _ from hp.1), List.append_assoc _ ['='],
        List.dropWhile_append_of_pos fun x hx => decide_eq_true (hlead x hx)]
      rfl

theorem TargetRun.exists_bounds {line : List Char} {target : Option (List Char)}
    (h : TargetRun (.start line) (.ok (target, d))) :
    ∃ base : Cursor, base.after = readPart line ∧ base.Bounds d := by
  obtain ⟨base, space, hbase, hs, hp⟩ := h.exists_readPart
  exact ⟨base, hbase, (Cursor.Bounds.refl base).trans hp hs.isLetter_eq_false⟩

/-- An assignment assigns to the name that its text sets. -/
theorem TargetRun.sets {line name : List Char} (h : TargetRun (.start line) (.ok (some name, d))) :
    Sets line name := by
  cases h with
  | @assignment space space' _ space'' _ hs hs' hn hs'' hp =>
      have hl : line.dropWhile isBlank =
          keyword ++ (space' ++ (name ++ (space'' ++ '=' :: d.after))) := by
        rw [assignment_text hp, hs.dropWhile_append (stops_keyword isBlank (by decide) _)]
      have hstop : Stops isLetter (space'' ++ '=' :: d.after) :=
        hs''.stops (fun _ => isLetter_eq_false_of_isBlank) (stops_cons_iff.2 (by decide))
      refine ⟨?_, hn, ?_⟩
      · rw [BeginsWithKeyword, hl]
        exact List.prefix_append _ _
      · rw [targetPart, hl, List.drop_left, hs'.dropWhile_append (hn.stops_isBlank _),
          List.takeWhile_append_of_pos hn.2, hstop.takeWhile_eq_nil, List.append_nil]

/-- A line depends on the names that stand in its expression. -/
theorem ofLine_congr {line : String} (h : ∀ letters, Reads line.toList letters →
      store'[String.ofList letters]? = store[String.ofList letters]?) :
    Statement.ofLine store' line = Statement.ofLine store line := by
  refine ofLine_eq_of_expression_eq fun target d ht => ?_
  obtain ⟨base, hbase, hd⟩ := ht.exists_bounds
  exact expression_congr hd (hbase ▸ h)

theorem sets_of_ofLine {line name : String} {v : Value}
    (h : Statement.ofLine store line = .ok (.assignment name v)) :
    Sets line.toList name.toList := by
  obtain ⟨d, ht⟩ := targetRun_of_ofLine h
  exact ht.sets

end Calculator
