/-
**Systems made of parts.** Several transition systems side by side: an action of the whole is an
action of the part, or the part does not see it.

* `Projects`: what the part sees of a step is a step of its own, or nothing.
* **`Projects.run`**: seen from the part, every run of the whole is a run of the part.
* `Reaches`: what a system comes to with some of its actions only, the others being made by someone
  who may never make them. **`not_reaches`**: an invariant of these actions that excludes the goal.
-/

import DemoDaemon.Foundation.Transition

namespace Foundation

section Projection

variable {σ τ α β : Type} {step : σ → α → Option σ} {part : σ → τ} {seen : α → Option β}
  {stepPart : τ → β → Option τ}

/-- Every step of the whole is a step of the part, or leaves the part alone. -/
structure Projects (step : σ → α → Option σ) (part : σ → τ) (seen : α → Option β)
    (stepPart : τ → β → Option τ) : Prop where
  moves : ∀ state action after own, step state action = some after → seen action = some own →
    stepPart (part state) own = some (part after)
  stays : ∀ state action after, step state action = some after → seen action = none →
    part after = part state

/-- **Runs project.** -/
theorem Projects.run (projects : Projects step part seen stepPart) {start state : σ}
    {actions : List α} (ran : Foundation.run step start actions = some state) :
    Foundation.run stepPart (part start) (actions.filterMap seen) = some (part state) := by
  refine run_induction step start (motive := fun actions state =>
    Foundation.run stepPart (part start) (actions.filterMap seen) = some (part state)) rfl ?_ ran
  intro actions action before after _ ranPart stepped
  rw [List.filterMap_append]
  cases own : seen action with
  | none =>
    rw [List.filterMap_cons_none own, List.filterMap_nil, List.append_nil, ranPart,
      projects.stays before action after stepped own]
  | some own' =>
    rw [List.filterMap_cons_some own, List.filterMap_nil, run_concat, ranPart]
    exact projects.moves before action after own' stepped own

end Projection

section Reaching

variable {σ α : Type} {step : σ → α → Option σ} {own : α → Prop} {goal : σ → Prop} {state : σ}

/-- A list of the system's own actions leads to the goal. -/
def Reaches (step : σ → α → Option σ) (own : α → Prop) (goal : σ → Prop) (state : σ) : Prop :=
  ∃ actions final, (∀ action ∈ actions, own action) ∧ run step state actions = some final ∧
    goal final

theorem Reaches.here (reached : goal state) : Reaches step own goal state :=
  ⟨[], state, List.forall_mem_nil _, rfl, reached⟩

theorem Reaches.move {after : σ} (action : α) (mine : own action)
    (stepped : step state action = some after) (reaches : Reaches step own goal after) :
    Reaches step own goal state := by
  obtain ⟨actions, final, all, ran, reached⟩ := reaches
  refine ⟨action :: actions, final, ?_, (run_cons_iff step state).mpr ⟨after, stepped, ran⟩,
    reached⟩
  rw [List.forall_mem_cons]
  exact ⟨mine, all⟩

/-- **One goal after another.** -/
theorem Reaches.trans {next : σ → Prop} (reaches : Reaches step own next state)
    (continues : ∀ middle, next middle → Reaches step own goal middle) :
    Reaches step own goal state := by
  obtain ⟨actions, middle, all, ran, reached⟩ := reaches
  obtain ⟨rest, final, allRest, ranRest, done⟩ := continues middle reached
  refine ⟨actions ++ rest, final, ?_, ?_, done⟩
  · intro action member
    exact (List.mem_append.mp member).elim (all action) (allRest action)
  · rw [run_append, ran]
    exact ranRest

/-- **What cannot be reached**: the goal is outside of what the own actions keep. -/
theorem not_reaches (keeps : σ → Prop) (held : keeps state)
    (stays : ∀ before action after, own action → step before action = some after →
      keeps before → keeps after)
    (outside : ∀ after, keeps after → ¬ goal after) : ¬ Reaches step own goal state := by
  rintro ⟨actions, final, all, ran, reached⟩
  refine outside final ?_ reached
  induction actions generalizing state with
  | nil =>
    cases ran
    exact held
  | cons action actions ih =>
    obtain ⟨middle, stepped, rest⟩ := (run_cons_iff step state).mp ran
    obtain ⟨mine, others⟩ := List.forall_mem_cons.mp all
    exact ih (stays state action middle mine stepped held) others rest

end Reaching

end Foundation
