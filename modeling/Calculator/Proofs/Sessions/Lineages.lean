import Calculator.Proofs.Sessions.Writes

/-!
# Calculator — Proofs — Sessions — Lineages

The current store and the saved one, over any sequence of steps.  A copy goes on from what it was
copied from, and an exchange takes both stores with all that was set in them.  So what is at a place
is found by looking back: the last step says where it was before (`Step.source`), and so on to the
first (`origin`).  What was set on the way is the lineage of the place (`lineage`).

* `getElem?_store_after`: a name has the value it was given last in the lineage, or else the one it
  had at the origin.  Nothing that was set elsewhere is seen.
* `store_after_empty`: where both stores were empty at first, a store is what its lineage sets.

**Lineages** (`answers_follow_lineages`).  All that is told of the stores comes of their lineages, and
of those only through the last value of each name.
-/

namespace Calculator.Snapshots

/-! ### Steps -/

/-- Where a store is. -/
inductive Place where
  | current
  | saved
  deriving DecidableEq, Repr

/-- The place that is not this one. -/
def Place.other : Place → Place
  | .current => .saved
  | .saved => .current

/-- The store at a place. -/
def store (s : Snapshots) : Place → Store
  | .current => s.current
  | .saved => s.saved

/-- What can be done with two stores: to change them, or to ask for the value of a name. -/
inductive Step where
  | change (change : Change)
  | fetch (name : String)
  deriving DecidableEq, Repr

/-- Asking changes nothing. -/
def perform (s : Snapshots) : Step → Snapshots
  | .change change => s.apply change
  | .fetch _ => s

/-- What is told of the current store after a step. -/
structure Answer where
  /-- The value of the name that was asked for, if it is set. -/
  value? : Option Value
  /-- The number of names that are set. -/
  count : Nat
  /-- Whether there is none. -/
  empty : Bool
  deriving DecidableEq, Repr

/-- The value that a step asks for. -/
def Step.asked? : Step → Store → Option Value
  | .change _, _ => none
  | .fetch name, store => store[name]?

/-- The answer to a step. -/
def answer (s : Snapshots) (step : Step) : Answer where
  value? := step.asked? (s.perform step).current
  count := (s.perform step).current.size
  empty := (s.perform step).current.isEmpty

/-- The stores after steps. -/
def after (s : Snapshots) (steps : List Step) : Snapshots :=
  steps.foldl perform s

theorem after_cons (s : Snapshots) (step : Step) (steps : List Step) :
    s.after (step :: steps) = (s.perform step).after steps := rfl

theorem after_concat (s : Snapshots) (steps : List Step) (step : Step) :
    s.after (steps ++ [step]) = (s.after steps).perform step := by
  simp [after]

/-! ### What was set -/

/-- The value that a name was given last.  Names are compared character by character. -/
def lastValue? (writes : List (String × Value)) (name : String) : Option Value :=
  (writes.reverse.find? fun write => write.1.toList = name.toList).map Prod.snd

/-- How many different names were set.  They differ if a character does. -/
def countNames (writes : List (String × Value)) : Nat :=
  (writes.map fun write => write.1.toList).eraseDups.length

/-- Every name was given the same value last. -/
def SameValues (writes writes' : List (String × Value)) : Prop :=
  ∀ name, lastValue? writes name = lastValue? writes' name

theorem lastValue?_append (writes later : List (String × Value)) (name : String) :
    lastValue? (writes ++ later) name = (lastValue? later name).or (lastValue? writes name) := by
  simp [lastValue?, List.find?_append, Option.map_or]

theorem SameValues.append {writes writes' : List (String × Value)} (h : SameValues writes writes')
    (later : List (String × Value)) : SameValues (writes ++ later) (writes' ++ later) := by
  intro name
  rw [lastValue?_append, lastValue?_append, h]

/-- To compare the characters of names is to compare names. -/
theorem getElem?_ofWrites_eq_lastValue? (writes : List (String × Value)) (name : String) :
    (Store.ofWrites writes)[name]? = lastValue? writes name := by
  rw [Store.getElem?_ofWrites, lastValue?]
  induction writes.reverse with
  | nil => rfl
  | cons write writes ih =>
      obtain ⟨x, v⟩ := write
      by_cases h : x = name
      · simp [h]
      · have hx : (name == x) = false := beq_eq_false_iff_ne.2 (Ne.symm h)
        simp [List.lookup_cons, hx, String.toList_inj, h, ih]

/-- An injective function keeps different members different. -/
theorem eraseDups_map_of_injective {α β : Type} [BEq α] [LawfulBEq α] [BEq β] [LawfulBEq β]
    {f : α → β} (hf : Function.Injective f) :
    ∀ l : List α, (l.map f).eraseDups = l.eraseDups.map f
  | [] => rfl
  | a :: l => by
      have hrest : (l.map f).filter (!· == f a) = (l.filter (!· == a)).map f := by
        rw [List.filter_map]
        congr 1
        refine List.filter_congr fun b _ => ?_
        by_cases hb : b = a
        · simp [hb]
        · simp [hb, hf.ne hb]
      rw [List.map_cons, List.eraseDups_cons, List.eraseDups_cons, List.map_cons, hrest,
        eraseDups_map_of_injective hf]
  termination_by l => l.length
  decreasing_by exact Nat.lt_succ_of_le (List.length_filter_le ..)

theorem size_ofWrites_eq_countNames (writes : List (String × Value)) :
    (Store.ofWrites writes).size = countNames writes := by
  have hmap : (writes.map fun write => write.1.toList) =
      (writes.map Prod.fst).map String.toList := by
    rw [List.map_map]
    rfl
  have hinj : Function.Injective String.toList := fun _ _ => String.toList_inj.1
  rw [Store.size_ofWrites, countNames, hmap, eraseDups_map_of_injective hinj, List.length_map]

/-! ### Lineages -/

namespace Step

/-- The place where the store that a step leaves at a place was before it. -/
def source : Step → Place → Place
  | .change (.set _ _), place => place
  | .change .save, _ => .current
  | .change .swap, place => place.other
  | .fetch _, place => place

/-- What a step sets in the store that it leaves at a place. -/
def writes : Step → Place → List (String × Value)
  | .change (.set name value), .current => [(name, value)]
  | _, _ => []

end Step

/-- The place where the store that steps leave at a place was before them. -/
def origin : List Step → Place → Place
  | [], place => place
  | step :: steps, place => step.source (origin steps place)

/-- What steps set in the store that they leave at a place, in their order. -/
def lineage : List Step → Place → List (String × Value)
  | [], _ => []
  | step :: steps, place => step.writes (origin steps place) ++ lineage steps place

theorem origin_append (steps later : List Step) (place : Place) :
    origin (steps ++ later) place = origin steps (origin later place) := by
  induction steps with
  | nil => rfl
  | cons step steps ih => simp only [List.cons_append, origin, ih]

theorem lineage_append (steps later : List Step) (place : Place) :
    lineage (steps ++ later) place = lineage steps (origin later place) ++ lineage later place := by
  induction steps with
  | nil => rfl
  | cons step steps ih =>
      simp only [List.cons_append, lineage, ih, origin_append, List.append_assoc]

/-- What is set belongs to the current store: a place that goes back to the other has nothing of it. -/
theorem lineage_set_cons {steps : List Step} {place : Place} (h : origin steps place = .saved)
    (name : String) (value : Value) :
    lineage (.change (.set name value) :: steps) place = lineage steps place := by
  rw [lineage, h]
  rfl

/-! ### Stores come of their lineages -/

/-- What a step does to the store at a place. -/
theorem getElem?_store_perform (s : Snapshots) (step : Step) (place : Place) (name : String) :
    ((s.perform step).store place)[name]? =
      (lastValue? (step.writes place) name).or (s.store (step.source place))[name]? := by
  cases step with
  | change change =>
      cases change with
      | set x value =>
          cases place with
          | current =>
              show (s.current.insert x value)[name]? = _
              rw [Store.getElem?_insert]
              by_cases h : x = name
              · simp [Step.writes, lastValue?, h]
              · simp [Step.writes, Step.source, lastValue?, String.toList_inj, h, store]
          | saved => rfl
      | save => cases place <;> rfl
      | swap => cases place <;> rfl
  | fetch x => cases place <;> rfl

/-- What steps do to the store at a place. -/
theorem getElem?_store_after (s : Snapshots) (steps : List Step) (place : Place) (name : String) :
    ((s.after steps).store place)[name]? =
      (lastValue? (lineage steps place) name).or (s.store (origin steps place))[name]? := by
  induction steps generalizing s with
  | nil => rfl
  | cons step steps ih =>
      -- the later steps go back to what the first one left at their origin
      rw [after_cons, ih, getElem?_store_perform, lineage, lastValue?_append, origin,
        Option.or_assoc]

/-- Where there was nothing at first, only what was set is there. -/
theorem store_after_empty (history : List Step) (place : Place) :
    (after {} history).store place = .ofWrites (lineage history place) := by
  have hnone (name : String) : ((store {} (origin history place))[name]?) = none := by
    cases origin history place <;> rfl
  refine Std.ExtTreeMap.ext_getElem? fun name => ?_
  rw [getElem?_store_after, hnone, Option.or_none, getElem?_ofWrites_eq_lastValue?]

/-- Stores with the same last values are the same, however they came by them. -/
theorem store_after_congr {history history' : List Step} {place place' : Place}
    (h : SameValues (lineage history place) (lineage history' place')) :
    (after {} history).store place = (after {} history').store place' := by
  rw [store_after_empty, store_after_empty]
  refine Std.ExtTreeMap.ext_getElem? fun name => ?_
  rw [getElem?_ofWrites_eq_lastValue?, getElem?_ofWrites_eq_lastValue?, h]

/-! ### Answers -/

/-- What is told of a store with the lineage. -/
def Step.told (step : Step) (writes : List (String × Value)) : Answer where
  value? := match step with
    | .change _ => none
    | .fetch name => lastValue? writes name
  count := countNames writes
  empty := countNames writes == 0

theorem answer_eq_told {s : Snapshots} {step : Step} {writes : List (String × Value)}
    (h : (s.perform step).current = .ofWrites writes) : s.answer step = step.told writes := by
  rw [answer, h, Std.ExtTreeMap.isEmpty_eq_size_beq_zero, size_ofWrites_eq_countNames]
  cases step with
  | change change => rfl
  | fetch name => rw [Step.asked?, getElem?_ofWrites_eq_lastValue?, Step.told]

/-- The answer to a step comes of the lineage of the current store behind it. -/
theorem answer_after_empty (history : List Step) (step : Step) :
    (after {} history).answer step = step.told (lineage (history ++ [step]) .current) := by
  refine answer_eq_told ?_
  rw [← after_concat]
  exact store_after_empty (history ++ [step]) .current

/-- Two answers to a step are the same if the stores they go back to had the same values. -/
theorem answer_after_congr {history history' more : List Step} {step : Step}
    (h : SameValues (lineage history (origin (more ++ [step]) .current))
      (lineage history' (origin (more ++ [step]) .current))) :
    (after {} (history ++ more)).answer step = (after {} (history' ++ more)).answer step := by
  have hsame : SameValues (lineage (history ++ more ++ [step]) .current)
      (lineage (history' ++ more ++ [step]) .current) := by
    rw [List.append_assoc, List.append_assoc, lineage_append history, lineage_append history']
    exact h.append _
  have hstore : ((after {} (history ++ more)).perform step).current =
      ((after {} (history' ++ more)).perform step).current := by
    rw [← after_concat, ← after_concat]
    exact store_after_congr hsame
  rw [answer, answer, hstore]

/-- **Lineages.**  Two stores, empty at first, are set, saved, exchanged and asked in any order.  A
name has the value it was given last in the lineage of its store, or none; as many names are set as
different ones stand in the lineage, and the store is empty if that is none.  So it is told after
every step.  A name that is set in one store is not seen in what later comes of the other.  Lineages
with the same last values make the same store, at whatever place; and an answer is the same after two
histories if the store it goes back to had the same last values, whatever was done since. -/
theorem answers_follow_lineages (history : List Step) :
    (∀ place,
      (∀ name, ((after {} history).store place)[name]? =
        lastValue? (lineage history place) name) ∧
      ((after {} history).store place).size = countNames (lineage history place) ∧
      (((after {} history).store place).isEmpty ↔ ((after {} history).store place).size = 0)) ∧
    (∀ step, (after {} history).answer step =
      step.told (lineage (history ++ [step]) .current)) ∧
    (∀ name value more place, origin more place = .saved →
      (after {} (history ++ .change (.set name value) :: more)).store place =
        (after {} (history ++ more)).store place) ∧
    (∀ history' place place', SameValues (lineage history place) (lineage history' place') →
      (after {} history).store place = (after {} history').store place') ∧
    (∀ history' more step,
      SameValues (lineage history (origin (more ++ [step]) .current))
        (lineage history' (origin (more ++ [step]) .current)) →
      (after {} (history ++ more)).answer step = (after {} (history' ++ more)).answer step) := by
  refine ⟨fun place => ⟨fun name => ?_, ?_, ?_⟩, answer_after_empty history,
    fun name value more place h => ?_, fun _ _ _ => store_after_congr,
    fun _ _ _ => answer_after_congr⟩
  · rw [store_after_empty, getElem?_ofWrites_eq_lastValue?]
  · rw [store_after_empty, size_ofWrites_eq_countNames]
  · rw [Std.ExtTreeMap.isEmpty_eq_size_beq_zero, beq_iff_eq]
  · -- with the name set or not, the rest goes back to the saved store
    have hset : origin (.change (.set name value) :: more) place = .saved := by
      rw [origin, h]
      rfl
    rw [store_after_empty, store_after_empty, lineage_append, lineage_append, hset, h,
      lineage_set_cons h]

/-- The two stores were set in another order, and one of them had another value in between.  What is
set after they are saved is not seen when they come back.  Names differ in their case. -/
theorem answers_follow_lineages_reordered :
    SameValues (lineage [.change (.set "x" 1), .change (.set "X" 2)] .current)
      (lineage [.change (.set "X" 2), .change .save, .change (.set "x" 7),
        .change (.set "x" 1)] .current) ∧
    (after {} [.change (.set "x" 1), .change (.set "X" 2), .change .save,
      .change (.set "x" 5), .change .swap]).answer (.fetch "x") = ⟨some 1, 2, false⟩ ∧
    (after {} [.change (.set "X" 2), .change .save, .change (.set "x" 7), .change (.set "x" 1),
      .change .save, .change (.set "x" 5), .change .swap]).answer (.fetch "x") =
        ⟨some 1, 2, false⟩ := by
  let history : List Step := [.change (.set "x" 1), .change (.set "X" 2)]
  let history' : List Step :=
    [.change (.set "X" 2), .change .save, .change (.set "x" 7), .change (.set "x" 1)]
  let more : List Step := [.change .save, .change (.set "x" 5), .change .swap]
  have hsame : SameValues (lineage history .current) (lineage history' .current) := by
    intro name
    show lastValue? [("x", 1), ("X", 2)] name = lastValue? [("X", 2), ("x", 7), ("x", 1)] name
    by_cases hx : "x" = name
    · subst hx
      decide
    · by_cases hX : "X" = name
      · subst hX
        decide
      · simp [lastValue?, String.toList_inj, hx, hX]
  obtain ⟨-, -, -, -, halike⟩ := answers_follow_lineages history
  have htold : (after {} (history ++ more)).answer (.fetch "x") = ⟨some 1, 2, false⟩ := by
    obtain ⟨-, htold, -⟩ := answers_follow_lineages (history ++ more)
    rw [htold]
    decide
  exact ⟨hsame, htold, (halike history' more (.fetch "x") hsame).symm.trans htold⟩

end Calculator.Snapshots
