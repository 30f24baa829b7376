/-
**Runs of a transition system** whose steps are given by a partial function: `none` is a step that
is not possible.

* `run`: the state after a list of actions.
* **`run_induction`**: a property of the actions so far and the state they lead to holds along every
  run if it holds at the start and every step keeps it.
* `Along`: a property of every step of a run, seen with the actions before it. **`along_concat`**
  takes it apart at the last action, and **`run_induction_along`** is the invariant rule for the runs
  whose steps meet a condition.
* `Throughout`: a property of every state of a run, which must not get stuck. `Before`: a condition
  on every action, in the state before it. **`throughout_iff_before`**: they agree when the
  condition says exactly which actions keep the property. `before_iff_forall_mem`: where no step is
  refused, a condition on the actions alone is one on the list.
-/

import Mathlib.Data.List.Induction

namespace Foundation

section Transition

variable {σ α : Type} (step : σ → α → Option σ) (start : σ)

/-- The state after a list of actions. -/
def run (actions : List α) : Option σ := actions.foldlM step start

@[simp] theorem run_nil : run step start [] = some start := rfl

theorem run_append (before after : List α) :
    run step start (before ++ after)
      = (run step start before).bind fun state => run step state after := by
  simp only [run, List.foldlM_append, Option.bind_eq_bind]

/-- A run with one action before it is a step, and a run from where it leads. -/
theorem run_cons_iff {actions : List α} {action : α} {after : σ} :
    run step start (action :: actions) = some after ↔
      ∃ state, step start action = some state ∧ run step state actions = some after := by
  rw [run, List.foldlM_cons, Option.bind_eq_bind, Option.bind_eq_some_iff]
  rfl

theorem run_concat (actions : List α) (action : α) :
    run step start (actions ++ [action])
      = (run step start actions).bind fun state => step state action := by
  rw [run_append]
  congr 1
  funext state
  simp [run]

/-- A run with one more action is a run, and a step from where it ends. -/
theorem run_concat_iff {actions : List α} {action : α} {after : σ} :
    run step start (actions ++ [action]) = some after ↔
      ∃ state, run step start actions = some state ∧ step state action = some after := by
  rw [run_concat, Option.bind_eq_some_iff]

/-- **The invariant rule.** -/
theorem run_induction {motive : List α → σ → Prop} (initial : motive [] start)
    (keeps : ∀ actions action state after, run step start actions = some state →
      motive actions state → step state action = some after → motive (actions ++ [action]) after)
    {actions : List α} {state : σ} (ran : run step start actions = some state) :
    motive actions state := by
  induction actions using List.reverseRecOn generalizing state with
  | nil =>
    cases ran
    exact initial
  | append_singleton actions action ih =>
    obtain ⟨before, ranBefore, stepped⟩ := (run_concat_iff step start).mp ran
    exact keeps actions action before state ranBefore (ih ranBefore) stepped

/-- Every step of a run has a property, of the actions before it, the states around it and
itself. -/
def Along (holds : List α → σ → α → σ → Prop) (actions : List α) : Prop :=
  ∀ before action rest, actions = before ++ action :: rest →
    ∀ state after, run step start before = some state → step state action = some after →
      holds before state action after

variable {holds : List α → σ → α → σ → Prop}

theorem along_nil : Along step start holds [] := by
  intro before action rest split
  simp at split

/-- **The last step.** -/
theorem along_concat {actions : List α} {action : α} {state after : σ}
    (ran : run step start actions = some state) (stepped : step state action = some after) :
    Along step start holds (actions ++ [action]) ↔
      Along step start holds actions ∧ holds actions state action after := by
  constructor
  · intro along
    refine ⟨?_, along actions action [] rfl state after ran stepped⟩
    rintro before earlier rest rfl
    exact along before earlier (rest ++ [action]) (by simp)
  · rintro ⟨earlier, last⟩ before other rest split otherState otherAfter otherRan otherStepped
    rcases List.eq_nil_or_concat rest with rfl | ⟨rest, final, rfl⟩
    · obtain ⟨rfl, same⟩ := List.append_inj' split rfl
      obtain rfl : action = other := by simpa using same
      rw [ran] at otherRan
      cases otherRan
      rw [stepped] at otherStepped
      cases otherStepped
      exact last
    · rw [List.concat_eq_append, ← List.cons_append, ← List.append_assoc] at split
      obtain ⟨rfl, -⟩ := List.append_inj' split rfl
      exact earlier before other rest rfl otherState otherAfter otherRan otherStepped

theorem along_of_append {actions rest : List α} (along : Along step start holds (actions ++ rest)) :
    Along step start holds actions := by
  rintro before action after rfl
  exact along before action (after ++ rest) (by simp)

/-- **The invariant rule, for steps that meet a condition.** -/
theorem run_induction_along {invariant : σ → Prop} (initial : invariant start)
    (keeps : ∀ actions action state after, step state action = some after →
      holds actions state action after → invariant state → invariant after)
    {actions : List α} {state : σ} (ran : run step start actions = some state)
    (along : Along step start holds actions) : invariant state := by
  induction actions using List.reverseRecOn generalizing state with
  | nil =>
    cases ran
    exact initial
  | append_singleton actions action ih =>
    obtain ⟨before, ranBefore, stepped⟩ := (run_concat_iff step start).mp ran
    obtain ⟨earlier, last⟩ := (along_concat step start ranBefore stepped).mp along
    exact keeps actions action before state stepped last (ih ranBefore earlier)

/-- Two properties that agree on the steps of runs agree along them. -/
theorem along_congr {other : List α → σ → α → σ → Prop}
    (agree : ∀ before state action after, run step start before = some state →
      step state action = some after → (holds before state action after
        ↔ other before state action after)) (actions : List α) :
    Along step start holds actions ↔ Along step start other actions := by
  constructor
  · intro along before action rest split state after ran stepped
    exact (agree before state action after ran stepped).mp
      (along before action rest split state after ran stepped)
  · intro along before action rest split state after ran stepped
    exact (agree before state action after ran stepped).mpr
      (along before action rest split state after ran stepped)

/-- The run does not get stuck, and every state of it has a property. -/
def Throughout (holds : σ → Prop) (actions : List α) : Prop :=
  ∀ before rest, actions = before ++ rest →
    ∃ state, run step start before = some state ∧ holds state

/-- Every action of a run meets a condition, in the state before it. -/
def Before (allows : σ → α → Prop) (actions : List α) : Prop :=
  ∀ before action rest, actions = before ++ action :: rest →
    ∀ state, run step start before = some state → allows state action

theorem throughout_concat {holds : σ → Prop} (actions : List α) (action : α) :
    Throughout step start holds (actions ++ [action]) ↔ Throughout step start holds actions ∧
      ∃ state, run step start (actions ++ [action]) = some state ∧ holds state := by
  constructor
  · intro throughout
    refine ⟨?_, throughout (actions ++ [action]) [] (List.append_nil _).symm⟩
    rintro before rest rfl
    exact throughout before (rest ++ [action]) (List.append_assoc _ _ _)
  · rintro ⟨earlier, last⟩ before rest split
    rcases List.eq_nil_or_concat rest with rfl | ⟨rest, final, rfl⟩
    · rw [List.append_nil] at split
      exact split ▸ last
    · rw [List.concat_eq_append, ← List.append_assoc] at split
      exact earlier before rest (List.append_inj' split rfl).1

theorem before_concat {allows : σ → α → Prop} (actions : List α) (action : α) :
    Before step start allows (actions ++ [action]) ↔ Before step start allows actions ∧
      ∀ state, run step start actions = some state → allows state action := by
  constructor
  · intro all
    refine ⟨?_, all actions action [] rfl⟩
    rintro before earlier rest rfl
    exact all before earlier (rest ++ [action]) (by simp)
  · rintro ⟨earlier, last⟩ before other rest split
    rcases List.eq_nil_or_concat rest with rfl | ⟨rest, final, rfl⟩
    · obtain ⟨rfl, same⟩ := List.append_inj' split rfl
      obtain rfl : action = other := by simpa using same
      exact last
    · rw [List.concat_eq_append, ← List.cons_append, ← List.append_assoc] at split
      exact earlier before other rest (List.append_inj' split rfl).1

/-- Where no step is refused, no run is. -/
theorem run_isSome (total : ∀ state action, (step state action).isSome) (actions : List α) :
    (run step start actions).isSome := by
  induction actions using List.reverseRecOn with
  | nil => rfl
  | append_singleton actions action ih =>
    obtain ⟨state, ran⟩ := Option.isSome_iff_exists.mp ih
    rw [run_concat, ran]
    exact total state action

/-- Where no step is refused, a condition on the actions alone is a condition on the list. -/
theorem before_iff_forall_mem (total : ∀ state action, (step state action).isSome)
    {allows : α → Prop} (actions : List α) :
    Before step start (fun _ action => allows action) actions
      ↔ ∀ action ∈ actions, allows action := by
  constructor
  · intro all action member
    obtain ⟨before, rest, split⟩ := List.append_of_mem member
    obtain ⟨state, ran⟩ := Option.isSome_iff_exists.mp (run_isSome step start total before)
    exact all before action rest split state ran
  · rintro all before action rest rfl _ _
    exact all action (by simp)

/-- **The exact rule.** A property that an action keeps if and only if it is allowed holds
throughout the runs whose actions are all allowed, and only those. -/
theorem throughout_iff_before {holds : σ → Prop} {allows : σ → α → Prop} (initial : holds start)
    (exact : ∀ actions state, run step start actions = some state → holds state → ∀ action,
      (∃ after, step state action = some after ∧ holds after) ↔ allows state action)
    (actions : List α) :
    Throughout step start holds actions ↔ Before step start allows actions := by
  induction actions using List.reverseRecOn with
  | nil =>
    refine iff_of_true ?_ ?_
    · rintro before rest split
      obtain ⟨rfl, -⟩ := List.append_eq_nil_iff.mp split.symm
      exact ⟨start, rfl, initial⟩
    · intro before action rest split
      simp at split
  | append_singleton actions action ih =>
    rw [throughout_concat, before_concat, ← ih]
    refine and_congr_right fun throughout => ?_
    obtain ⟨state, ran, held⟩ := throughout actions [] (List.append_nil _).symm
    rw [run_concat, ran]
    constructor
    · intro next other same
      cases same
      exact (exact actions state ran held action).mp next
    · intro allowed
      exact (exact actions state ran held action).mpr (allowed state rfl)

end Transition

end Foundation
