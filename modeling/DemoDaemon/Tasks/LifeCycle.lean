/-
**The life cycle of a built-in task**, over every order of its threads' actions.

* `LifeCycle`: along a run the state moves only as documented, and once `run_task` has returned it
  is terminal for good.
* `InTime`: every `request_stop` of the task comes after Running is stored and before the worker
  stores Stopped, and there is none when the worker cannot be spawned.
* `Stage`: where the threads are, against the state and the actions so far. A step in time keeps it
  (`Stage.step`).
* **`lifeCycle_iff`**: the life cycle is kept exactly by the runs in time.
-/

import DemoDaemon.Tasks.TaskThreads

namespace DemoDaemon.Tasks

open Foundation

/-! ### The property -/

/-- The documented moves, and staying. -/
def allowed : TaskState → TaskState → Bool
  | .pending, .running => true
  | .running, .stopping => true
  | .stopping, .stopped => true
  | .running, .stopped => true
  | .running, .failed => true
  | before, after => before == after

def TaskState.terminal (state : TaskState) : Bool := state == .stopped || state == .failed

/-- A terminal task is not counted by `active_count`. -/
theorem isActive_of_terminal {state : TaskState} (ended : state.terminal = true) :
    state.isActive = false := by
  cases state with
  | pending | running | stopping => cases ended
  | stopped | failed => rfl

structure LifeCycle (kind : Kind) (actions : List Action) : Prop where
  moves : Along (step kind) .start
    (fun _ before _ after => allowed before.state after.state = true) actions
  ends : ∀ before more rest, actions = before ++ more ++ rest → ∀ threads later,
    after kind before = some threads → threads.runner = .returned →
    after kind (before ++ more) = some later →
      later.state.terminal = true ∧ later.state.isActive = false

/-- The stop requests that reach the task come while it runs. -/
def InTime (actions : List Action) : Prop :=
  ∀ before rest, actions = before ++ .storeStopping :: rest →
    .storeRunning ∈ before ∧ .storeStopped ∉ before ∧
      .storeFailed ∉ before ∧ .storeFailed ∉ rest

/-! ### One more action -/

/-- What being in time asks of one action. -/
def Timely (actions : List Action) (action : Action) : Prop :=
  (action = .storeStopping → .storeRunning ∈ actions ∧ .storeStopped ∉ actions ∧
    .storeFailed ∉ actions) ∧
  (action = .storeFailed → .storeStopping ∉ actions)

theorem inTime_nil : InTime [] := by
  intro before rest split
  simp at split

theorem InTime.of_append {actions more : List Action} (inTime : InTime (actions ++ more)) :
    InTime actions := by
  rintro before rest rfl
  obtain ⟨ran, alive, succeeded, succeeds⟩ := inTime before (rest ++ more) (by simp)
  exact ⟨ran, alive, succeeded, fun failed => succeeds (List.mem_append_left _ failed)⟩

theorem inTime_concat (actions : List Action) (action : Action) :
    InTime (actions ++ [action]) ↔ InTime actions ∧ Timely actions action := by
  constructor
  · intro inTime
    refine ⟨inTime.of_append, ?_, ?_⟩
    · rintro rfl
      obtain ⟨ran, alive, succeeded, -⟩ := inTime actions [] rfl
      exact ⟨ran, alive, succeeded⟩
    · rintro rfl told
      obtain ⟨before, rest, rfl⟩ := List.append_of_mem told
      obtain ⟨-, -, -, succeeds⟩ := inTime before (rest ++ [.storeFailed]) (by simp)
      exact succeeds (by simp)
  · rintro ⟨inTime, told, failed⟩ before rest split
    rcases List.eq_nil_or_concat rest with rfl | ⟨rest, final, rfl⟩
    · obtain ⟨rfl, same⟩ := List.append_inj' split rfl
      obtain ⟨ran, alive, succeeded⟩ := told (by simpa using same)
      exact ⟨ran, alive, succeeded, List.not_mem_nil⟩
    · rw [List.concat_eq_append, ← List.cons_append, ← List.append_assoc] at split
      obtain ⟨rfl, same⟩ := List.append_inj' split rfl
      obtain ⟨ran, alive, succeeded, succeeds⟩ := inTime before rest rfl
      refine ⟨ran, alive, succeeded, ?_⟩
      rw [List.concat_eq_append, List.mem_append, not_or]
      refine ⟨succeeds, ?_⟩
      intro last
      obtain rfl : action = .storeFailed := by
        rw [show action = final by simpa using same]
        exact (List.mem_singleton.mp last).symm
      exact failed rfl (by simp)

/-! ### Stages -/

/-- Where the threads are in a run in time. -/
inductive Stage (actions : List Action) (threads : Threads) : Prop
  | fresh (runner : threads.runner = .entering ∨ threads.runner = .starting ∨
        threads.runner = .checked)
      (worker : threads.worker = .absent) (state : threads.state = .pending)
      (ran : .storeRunning ∉ actions) (told : .storeStopping ∉ actions)
      (ended : .storeStopped ∉ actions) (failed : .storeFailed ∉ actions)
  | live (place : (threads.runner = .spawning ∨ threads.runner = .failing) ∧
          threads.worker = .absent ∨
        threads.runner = .waiting ∧ (threads.worker = .testing ∨ threads.worker = .sleeping ∨
          threads.worker = .deciding ∨ threads.worker = .ending))
      (state : threads.state = .running ∧ .storeStopping ∉ actions ∨
        threads.state = .stopping ∧ .storeStopping ∈ actions)
      (ran : .storeRunning ∈ actions)
      (ended : .storeStopped ∉ actions) (failed : .storeFailed ∉ actions)
  | stopped (runner : threads.runner = .waiting ∨ threads.runner = .leaving ∨
        threads.runner = .returned)
      (worker : threads.worker = .finished ∨ threads.worker = .flagging)
      (state : threads.state = .stopped) (ended : .storeStopped ∈ actions)
  | failed (runner : threads.runner = .waiting ∨ threads.runner = .leaving ∨
        threads.runner = .returned)
      (worker : threads.worker = .absent) (state : threads.state = .failed)
      (failed : .storeFailed ∈ actions)

theorem stage_start : Stage [] .start :=
  .fresh (Or.inl rfl) rfl rfl List.not_mem_nil List.not_mem_nil List.not_mem_nil List.not_mem_nil

/-- The actions that write the state. -/
def Action.writesState : Action → Bool
  | .storeRunning | .storeStopping | .storeStopped | .storeFailed => true
  | _ => false

/-- An action that does not write the state is no part of the record. -/
theorem Stage.concat {actions : List Action} {threads : Threads} (stage : Stage actions threads)
    {action : Action} (quiet : action.writesState = false) :
    Stage (actions ++ [action]) threads := by
  have same : ∀ store : Action, store.writesState = true →
      (store ∈ actions ++ [action] ↔ store ∈ actions) := by
    intro store writes
    have different : store ≠ action := by
      rintro rfl
      rw [writes] at quiet
      cases quiet
    simp [different]
  cases stage with
  | fresh runner worker state ran told ended failed =>
    refine .fresh runner worker state ?_ ?_ ?_ ?_ <;> rwa [same _ rfl]
  | live place state ran ended failed =>
    refine .live place ?_ ?_ ?_ ?_ <;> rwa [same _ rfl]
  | stopped runner worker state ended => exact .stopped runner worker state ((same _ rfl).mpr ended)
  | failed runner worker state failed => exact .failed runner worker state ((same _ rfl).mpr failed)

/-- **Step, without a write of the state.** -/
theorem Stage.quiet {kind : Kind} {actions : List Action} {action : Action}
    {threads later : Threads} (stage : Stage actions threads)
    (stepped : step kind threads action = some later) (quiet : action.writesState = false) :
    Stage actions later ∧ later.state = threads.state := by
  cases action with
  | storeRunning | storeStopping | storeStopped | storeFailed => cases quiet
  | enter =>
    simp only [Tasks.step, Option.ite_none_right_eq_some, Option.some.injEq] at stepped
    obtain ⟨here, rfl⟩ := stepped
    grind [Stage]
  | check =>
    simp only [Tasks.step, Option.ite_none_right_eq_some] at stepped
    obtain ⟨here, stepped⟩ := stepped
    split_ifs at stepped with started
    · cases stepped
      grind [Stage]
    · cases stepped
      grind [Stage]
  | spawn outcome =>
    simp only [Tasks.step, Option.ite_none_right_eq_some] at stepped
    obtain ⟨here, stepped⟩ := stepped
    cases outcome with
    | ok done =>
      cases stepped
      grind [Stage]
    | error error =>
      cases stepped
      grind [Stage]
  | join | leave | sleep | decide | storeFlag =>
    simp only [Tasks.step, Option.ite_none_right_eq_some, Option.some.injEq] at stepped
    obtain ⟨here, rfl⟩ := stepped
    grind [Stage]
  | test timeUp =>
    simp only [Tasks.step, Option.ite_none_right_eq_some] at stepped
    obtain ⟨here, stepped⟩ := stepped
    split_ifs at stepped with loops
    · cases stepped
      grind [Stage]
    · cases stepped
      cases kind <;> grind [Stage, Kind.afterLoop]
  | requestStop =>
    cases stepped
    grind [Stage]

/-- **Step.** An action in time keeps the stages, and moves the state as documented. -/
theorem Stage.step {kind : Kind} {actions : List Action} {action : Action}
    {threads later : Threads} (stage : Stage actions threads)
    (stepped : step kind threads action = some later) (timely : Timely actions action) :
    Stage (actions ++ [action]) later ∧ allowed threads.state later.state = true := by
  by_cases quiet : action.writesState = false
  · obtain ⟨kept, same⟩ := stage.quiet stepped quiet
    refine ⟨kept.concat quiet, ?_⟩
    rw [same]
    cases threads.state <;> rfl
  obtain ⟨whenTold, whenFailed⟩ := timely
  cases action with
  | enter | check | spawn | join | leave | test | sleep | decide | storeFlag | requestStop =>
    exact absurd rfl quiet
  | storeRunning =>
    simp only [Tasks.step, Option.ite_none_right_eq_some, Option.some.injEq] at stepped
    obtain ⟨here, rfl⟩ := stepped
    cases stage with
    | fresh runner worker state ran told ended failed =>
      refine ⟨.live (Or.inl ⟨Or.inl rfl, worker⟩) (Or.inl ⟨rfl, ?_⟩) ?_ ?_ ?_, ?_⟩
      · simpa using told
      · simp
      · simpa using ended
      · simpa using failed
      · rw [state]
        rfl
    | live place => simp [here] at place
    | stopped runner => simp [here] at runner
    | failed runner => simp [here] at runner
  | storeFailed =>
    simp only [Tasks.step, Option.ite_none_right_eq_some, Option.some.injEq] at stepped
    obtain ⟨here, rfl⟩ := stepped
    cases stage with
    | live place state =>
      have absent : threads.worker = .absent := by simpa [here] using place
      refine ⟨.failed (Or.inl rfl) absent rfl (by simp), ?_⟩
      -- in time means that no stop request has reached the task
      have running : threads.state = .running := by simpa [whenFailed rfl] using state
      rw [running]
      rfl
    | fresh runner => simp [here] at runner
    | stopped runner => simp [here] at runner
    | failed runner => simp [here] at runner
  | storeStopped =>
    simp only [Tasks.step, Option.ite_none_right_eq_some, Option.some.injEq] at stepped
    obtain ⟨here, rfl⟩ := stepped
    cases stage with
    | live place state =>
      have waiting : threads.runner = .waiting := by simpa [here] using place
      refine ⟨.stopped (Or.inl waiting) (Or.inr rfl) rfl (by simp), ?_⟩
      rcases state with ⟨state, -⟩ | ⟨state, -⟩
      · rw [state]
        rfl
      · rw [state]
        rfl
    | fresh _ worker => simp [here] at worker
    | stopped _ worker => simp [here] at worker
    | failed _ worker => simp [here] at worker
  | storeStopping =>
    simp only [Tasks.step, Option.ite_none_right_eq_some, Option.some.injEq] at stepped
    obtain ⟨-, rfl⟩ := stepped
    obtain ⟨ran, alive, succeeded⟩ := whenTold rfl
    cases stage with
    | live place state =>
      refine ⟨.live place (Or.inr ⟨rfl, ?_⟩) ?_ ?_ ?_, ?_⟩
      · simp
      · simpa using ran
      · simpa using alive
      · simpa using succeeded
      · rcases state with ⟨state, -⟩ | ⟨state, -⟩
        · rw [state]
          rfl
        · rw [state]
          rfl
    | fresh _ _ _ notRun => exact absurd ran notRun
    | stopped _ _ _ ended => exact absurd ended alive
    | failed _ _ _ failed => exact absurd failed succeeded

/-- **Run.** The stages of a run in time. -/
theorem stage_of_inTime {kind : Kind} {actions : List Action} {threads : Threads}
    (ran : after kind actions = some threads) (inTime : InTime actions) :
    Stage actions threads := by
  revert inTime
  refine run_induction (Tasks.step kind) .start (motive := fun actions threads =>
    InTime actions → Stage actions threads) (fun _ => stage_start) ?_ ran
  intro actions action before later _ stage stepped inTime
  obtain ⟨earlier, timely⟩ := (inTime_concat actions action).mp inTime
  exact ((stage earlier).step stepped timely).1

/-! ### The life cycle -/

/-- `run_task` returns once. -/
theorem returned_of_step {kind : Kind} {action : Action} {threads later : Threads}
    (stepped : step kind threads action = some later) (returned : threads.runner = .returned) :
    later.runner = .returned := by
  cases action with
  | enter | check | storeRunning | spawn | storeFailed | join | leave =>
    simp [Tasks.step, returned] at stepped
  | test timeUp =>
    simp only [Tasks.step, Option.ite_none_right_eq_some] at stepped
    obtain ⟨-, stepped⟩ := stepped
    split_ifs at stepped <;> (cases stepped; exact returned)
  | requestStop =>
    cases stepped
    exact returned
  | sleep | decide | storeStopped | storeFlag | storeStopping =>
    simp only [Tasks.step, Option.ite_none_right_eq_some, Option.some.injEq] at stepped
    obtain ⟨-, rfl⟩ := stepped
    exact returned

theorem returned_of_run {kind : Kind} {actions : List Action} {threads later : Threads}
    (returned : threads.runner = .returned)
    (ran : run (step kind) threads actions = some later) : later.runner = .returned :=
  run_induction (Tasks.step kind) threads (motive := fun _ later => later.runner = .returned)
    returned (fun _ _ _ _ _ before stepped => returned_of_step stepped before) ran

/-- A task whose `run_task` has returned, in time, is terminal. -/
theorem Stage.terminal {actions : List Action} {threads : Threads} (stage : Stage actions threads)
    (returned : threads.runner = .returned) : threads.state.terminal = true := by
  cases stage with
  | fresh runner => simp [returned] at runner
  | live place => simp [returned] at place
  | stopped _ _ state =>
    rw [state]
    rfl
  | failed _ _ state =>
    rw [state]
    rfl

/-- A move that is allowed means an action in time. -/
theorem Stage.timely {kind : Kind} {actions : List Action} {action : Action}
    {threads later : Threads} (stage : Stage actions threads)
    (stepped : Tasks.step kind threads action = some later)
    (moved : allowed threads.state later.state = true) : Timely actions action := by
  constructor
  · rintro rfl
    simp only [Tasks.step, Option.ite_none_right_eq_some, Option.some.injEq] at stepped
    obtain ⟨-, rfl⟩ := stepped
    cases stage with
    | live _ _ ran ended failed => exact ⟨ran, ended, failed⟩
    | fresh _ _ state | stopped _ _ state | failed _ _ state =>
      rw [state] at moved
      cases moved
  · rintro rfl
    simp only [Tasks.step, Option.ite_none_right_eq_some, Option.some.injEq] at stepped
    obtain ⟨here, rfl⟩ := stepped
    cases stage with
    | live _ state =>
      rcases state with ⟨-, told⟩ | ⟨state, -⟩
      · exact told
      · rw [state] at moved
        cases moved
    | fresh runner => simp [here] at runner
    | stopped runner => simp [here] at runner
    | failed runner => simp [here] at runner

/-- The moves of a run are allowed exactly when it is in time. -/
theorem moves_iff {kind : Kind} {actions : List Action} {threads : Threads}
    (ran : after kind actions = some threads) :
    Along (step kind) .start (fun _ before _ after => allowed before.state after.state = true)
      actions ↔ InTime actions := by
  refine run_induction (Tasks.step kind) .start (motive := fun actions _ =>
    Along (step kind) .start (fun _ before _ after => allowed before.state after.state = true)
      actions ↔ InTime actions) ?_ ?_ ran
  · exact iff_of_true (along_nil _ _) inTime_nil
  · intro actions action before later ranBefore same stepped
    rw [along_concat _ _ ranBefore stepped, inTime_concat, same]
    refine and_congr_right fun inTime => ?_
    have stage := stage_of_inTime ranBefore inTime
    exact ⟨stage.timely stepped, fun timely => (stage.step stepped timely).2⟩

/-- **The life cycle.** In every run of the threads of a built-in task the state moves as documented
and is terminal for good once `run_task` has returned, if and only if every `request_stop` of the
task comes after Running is stored and before the worker stores Stopped, with none when the worker
cannot be spawned. -/
theorem lifeCycle_iff (kind : Kind) (actions : List Action) (threads : Threads)
    (ran : after kind actions = some threads) : LifeCycle kind actions ↔ InTime actions := by
  constructor
  · intro cycle
    exact (moves_iff ran).mp cycle.moves
  · intro inTime
    refine ⟨(moves_iff ran).mpr inTime, ?_⟩
    rintro before more rest rfl earlier later ranEarlier returned ranLater
    have stage := stage_of_inTime ranLater inTime.of_append
    rw [after, run_append, show run (step kind) .start before = some earlier from ranEarlier]
      at ranLater
    have ended := stage.terminal (returned_of_run returned ranLater)
    exact ⟨ended, isActive_of_terminal ended⟩

/-- A stop request before the thread of `run_task` takes its first step: the task is never started,
and stays Stopping. -/
theorem lifeCycle_fails_stop_first :
    ¬ ∀ (kind : Kind) (actions : List Action) (threads : Threads),
      after kind actions = some threads → LifeCycle kind actions := by
  intro all
  have cycle := all .sleep [.requestStop, .storeStopping, .enter, .check, .join, .leave] _ rfl
  have ended := cycle.ends [.requestStop, .storeStopping, .enter, .check, .join, .leave] [] []
    rfl _ _ rfl rfl rfl
  exact absurd ended.1 (by decide)

/-- A sleeping task that is stopped while it runs. -/
theorem lifeCycle_stopped_while_running :
    LifeCycle .sleep ([.enter, .check, .storeRunning, .spawn (.ok ()), .requestStop] ++
      .storeStopping :: [.test false, .decide, .storeStopped, .storeFlag, .join, .leave]) := by
  refine (lifeCycle_iff .sleep _ _ rfl).mpr ?_
  intro before rest split
  rw [List.append_cons_inj_of_notMem (by simp) (by simp)] at split
  obtain ⟨rfl, -, rfl⟩ := split
  simp

end DemoDaemon.Tasks
