/-
**The loop of the sleeping task against a clock** (`sleep_task.cpp`, `run_loop`).

The threads of `TaskThreads` run beside a steady clock that only moves forward, by any amount at
any moment. `sleep_for` returns when the time asked for has passed, or later; what the loop tests
is the time it measures itself, cut to milliseconds.

* `timedStep`: the actions of the threads, with what the clock allows. **`threads_of_run`**: without
  its clock a timed run is a run of the threads.
* `Schedule`: where `run_loop` is, against the clock and the number of its sleeps.
  **`Schedule.step`** is the step lemma: every sleep but the last moves the measured time by 100 ms
  or more, whatever the cut drops.
* **`sleepTask_sleeps_and_ends`**: the bounds on sleeps and actions, the way to the end, the time
  slept, the answer to a stop request and the last stores, along every run.
-/

import DemoDaemon.Tasks.TaskThreads

namespace DemoDaemon.Tasks

open Foundation

/-! ### The model -/

/-- Nanoseconds of the steady clock in a millisecond. -/
def millisecond : Nat := 1000000

/-- `check_interval`, in milliseconds. -/
def checkInterval : Int := 100

/-- A task, its threads and the steady clock. -/
structure Timed where
  threads : Threads
  clock : Nat
  /-- `start`. -/
  started : Option Nat
  /-- `elapsed`, in milliseconds. -/
  elapsed : Int
  /-- While `sleep_for` runs: when it may return. -/
  wake : Option Nat

def Timed.start (clock : Nat) : Timed := ⟨.start, clock, none, 0, none⟩

inductive TimedAction where
  | tick (nanoseconds : Nat)
  /-- `run_loop`: `start = steady_clock::now()`. -/
  | now
  /-- `run_loop`: the call of `sleep_for`. -/
  | fallAsleep
  /-- An action of the threads; the worker's `sleep` is the rest of the loop body, from the return
  of `sleep_for` on. -/
  | thread (action : Action)

/-- `sleep_duration`. -/
def sleepDuration (duration elapsed : Int) : Int := min (duration - elapsed) checkInterval

/-- One action. -/
def timedStep (duration : Int) (timed : Timed) : TimedAction → Option Timed
  | .tick nanoseconds => some { timed with clock := timed.clock + nanoseconds }
  | .now =>
    if timed.threads.worker = .testing ∧ timed.started = none then
      some { timed with started := some timed.clock, elapsed := 0 }
    else none
  | .fallAsleep =>
    if timed.threads.worker = .sleeping ∧ timed.wake = none then
      let asked := (sleepDuration duration timed.elapsed).toNat * millisecond
      some { timed with wake := some (timed.clock + asked) }
    else none
  | .thread (.test timeUp) =>
    if timed.started.isSome ∧ timeUp = !decide (timed.elapsed < duration) then
      (step .sleep timed.threads (.test timeUp)).map fun threads => { timed with threads }
    else none
  | .thread .sleep =>
    match timed.started, timed.wake with
    | some start, some wake =>
      if wake ≤ timed.clock then
        let elapsed := ((timed.clock : Int) - start).tdiv millisecond
        (step .sleep timed.threads .sleep).map fun threads =>
          { timed with threads, elapsed, wake := none }
      else none
    | _, _ => none
  | .thread action =>
    (step .sleep timed.threads action).map fun threads => { timed with threads }

/-- The task and its clock after a list of actions. -/
def timedAfter (duration : Int) (clock : Nat) (actions : List TimedAction) : Option Timed :=
  run (timedStep duration) (.start clock) actions

/-- The actions of `run_loop`. -/
def TimedAction.isOwn : TimedAction → Bool
  | .now | .fallAsleep => true
  | .thread (.test _) | .thread .sleep | .thread .decide => true
  | .thread .storeStopped | .thread .storeFlag => true
  | _ => false

/-- The stores of `run_loop`. -/
def TimedAction.isOwnStore : TimedAction → Bool
  | .thread .storeStopped | .thread .storeFlag => true
  | _ => false

def TimedAction.isTick : TimedAction → Bool
  | .tick _ => true
  | _ => false

def TimedAction.isSleep : TimedAction → Bool
  | .fallAsleep => true
  | _ => false

/-- How often `sleep_for` is called. -/
def sleeps (actions : List TimedAction) : Nat := actions.countP TimedAction.isSleep

def ownActions (actions : List TimedAction) : Nat := actions.countP TimedAction.isOwn

def ownStores (actions : List TimedAction) : List TimedAction :=
  actions.filter TimedAction.isOwnStore

theorem sleeps_append (actions more : List TimedAction) :
    sleeps (actions ++ more) = sleeps actions + sleeps more :=
  List.countP_append

theorem ownActions_append (actions more : List TimedAction) :
    ownActions (actions ++ more) = ownActions actions + ownActions more :=
  List.countP_append

theorem ownStores_append (actions more : List TimedAction) :
    ownStores (actions ++ more) = ownStores actions ++ ownStores more :=
  List.filter_append _ _

/-- The part of a timed action that the threads see. -/
def TimedAction.untimed : TimedAction → Option Action
  | .thread action => some action
  | _ => none

/-! ### What an action does -/

/-- What a timed action can do, by the thread that takes it. -/
inductive TimedMove (duration : Int) (timed : Timed) : TimedAction → Timed → Prop
  | tick (nanoseconds : Nat) :
      TimedMove duration timed (.tick nanoseconds) { timed with clock := timed.clock + nanoseconds }
  | now (worker : timed.threads.worker = .testing) (fresh : timed.started = none) :
      TimedMove duration timed .now { timed with started := some timed.clock, elapsed := 0 }
  | fallAsleep (worker : timed.threads.worker = .sleeping) (awake : timed.wake = none) :
      TimedMove duration timed .fallAsleep
        { timed with
          wake := some (timed.clock
            + (sleepDuration duration timed.elapsed).toNat * millisecond) }
  | loop (start : Nat) (timeUp : Bool) (worker : timed.threads.worker = .testing)
      (begun : timed.started = some start) (early : timed.elapsed < duration)
      (wanted : timed.threads.stopRequested = false) :
      TimedMove duration timed (.thread (.test timeUp))
        { timed with threads := { timed.threads with worker := .sleeping } }
  | leave (start : Nat) (timeUp : Bool) (worker : timed.threads.worker = .testing)
      (begun : timed.started = some start)
      (done : duration ≤ timed.elapsed ∨ timed.threads.stopRequested = true) :
      TimedMove duration timed (.thread (.test timeUp))
        { timed with threads := { timed.threads with worker := .deciding } }
  | wakeUp (start wake : Nat) (worker : timed.threads.worker = .sleeping)
      (begun : timed.started = some start) (asleep : timed.wake = some wake)
      (late : wake ≤ timed.clock) :
      TimedMove duration timed (.thread .sleep)
        { timed with
          threads := { timed.threads with worker := .testing }
          elapsed := ((timed.clock : Int) - start).tdiv millisecond
          wake := none }
  | decide (worker : timed.threads.worker = .deciding) :
      TimedMove duration timed (.thread .decide)
        { timed with threads := { timed.threads with worker := .ending } }
  | storeStopped (worker : timed.threads.worker = .ending) :
      TimedMove duration timed (.thread .storeStopped)
        { timed with threads := { timed.threads with state := .stopped, worker := .flagging } }
  | storeFlag (worker : timed.threads.worker = .flagging) :
      TimedMove duration timed (.thread .storeFlag)
        { timed with threads := { timed.threads with stopped := true, worker := .finished } }
  | spawn (runner : timed.threads.runner = .spawning) :
      TimedMove duration timed (.thread (.spawn (.ok ())))
        { timed with threads := { timed.threads with worker := .testing, runner := .waiting } }
  | other (action : Action) (threads : Threads)
      (foreign : (TimedAction.thread action).isOwn = false)
      (worker : threads.worker = timed.threads.worker)
      (stop : timed.threads.stopRequested = true → threads.stopRequested = true) :
      TimedMove duration timed (.thread action) { timed with threads }

/-- What an action of another thread does to the worker. -/
theorem worker_of_foreign {action : Action} {threads later : Threads}
    (foreign : (TimedAction.thread action).isOwn = false)
    (spawns : ∀ outcome, action ≠ .spawn outcome)
    (stepped : step .sleep threads action = some later) :
    later.worker = threads.worker ∧
      (threads.stopRequested = true → later.stopRequested = true) := by
  cases action with
  | test _ | sleep | decide | storeStopped | storeFlag => cases foreign
  | spawn outcome => exact absurd rfl (spawns outcome)
  | requestStop =>
    cases stepped
    exact ⟨rfl, fun _ => rfl⟩
  | enter | storeRunning | storeFailed | join | leave | storeStopping =>
    obtain ⟨-, same⟩ := Option.ite_none_right_eq_some.mp stepped
    cases same
    exact ⟨rfl, id⟩
  | check =>
    obtain ⟨-, same⟩ := Option.ite_none_right_eq_some.mp stepped
    split at same <;> cases same <;> exact ⟨rfl, id⟩

/-- **Step.** Without the clock a timed action is an action of the threads. -/
theorem step_of_timedStep {duration : Int} {timed after : Timed} {action : Action}
    (stepped : timedStep duration timed (.thread action) = some after) :
    step .sleep timed.threads action = some after.threads := by
  have mapped : ∀ {action : Action} {change : Threads → Timed},
      (∀ threads, (change threads).threads = threads) →
      (step .sleep timed.threads action).map change = some after →
        step .sleep timed.threads action = some after.threads := by
    intro action change keeps moved
    obtain ⟨threads, same, rfl⟩ := Option.map_eq_some_iff.mp moved
    rw [same, keeps]
  cases action with
  | test timeUp =>
    obtain ⟨-, moved⟩ := Option.ite_none_right_eq_some.mp stepped
    exact mapped (fun _ => rfl) moved
  | sleep =>
    simp only [timedStep] at stepped
    split at stepped
    · obtain ⟨-, moved⟩ := Option.ite_none_right_eq_some.mp stepped
      exact mapped (fun _ => rfl) moved
    · cases stepped
  | requestStop =>
    cases stepped
    rfl
  | enter | check | storeRunning | spawn _ | storeFailed | join | leave | decide | storeStopped
  | storeFlag | storeStopping => exact mapped (fun _ => rfl) stepped

/-- The loop condition. -/
theorem testMove_of_step {duration : Int} {timed after : Timed} {timeUp : Bool}
    (stepped : timedStep duration timed (.thread (.test timeUp)) = some after) :
    TimedMove duration timed (.thread (.test timeUp)) after := by
  obtain ⟨⟨begun, measured⟩, moved⟩ := Option.ite_none_right_eq_some.mp stepped
  obtain ⟨start, begun⟩ := Option.isSome_iff_exists.mp begun
  obtain ⟨threads, tested, rfl⟩ := Option.map_eq_some_iff.mp moved
  obtain ⟨worker, moved⟩ := Option.ite_none_right_eq_some.mp tested
  split at moved
  next loops =>
    cases moved
    obtain ⟨early, wanted⟩ : timeUp = false ∧ timed.threads.stopRequested = false := by
      simpa [Threads.loops] using loops
    rw [measured] at early
    exact .loop start timeUp worker begun (by simpa using early) wanted
  next leaves =>
    cases moved
    refine .leave start timeUp worker begun ?_
    by_cases stop : timed.threads.stopRequested = true
    · exact Or.inr stop
    · have late : timeUp = true := by simpa [Threads.loops, stop] using leaves
      rw [measured] at late
      exact Or.inl (by simpa using late)

/-- Inversion of `timedStep`. -/
theorem timedMove_of_step {duration : Int} {timed after : Timed} {action : TimedAction}
    (stepped : timedStep duration timed action = some after) :
    TimedMove duration timed action after := by
  cases action with
  | tick nanoseconds =>
    cases stepped
    exact .tick nanoseconds
  | now =>
    obtain ⟨⟨worker, fresh⟩, same⟩ := Option.ite_none_right_eq_some.mp stepped
    cases same
    exact .now worker fresh
  | fallAsleep =>
    obtain ⟨⟨worker, awake⟩, same⟩ := Option.ite_none_right_eq_some.mp stepped
    cases same
    exact .fallAsleep worker awake
  | thread action =>
    cases action with
    | test timeUp => exact testMove_of_step stepped
    | sleep =>
      simp only [timedStep] at stepped
      split at stepped
      next start wake begun asleep =>
        obtain ⟨late, moved⟩ := Option.ite_none_right_eq_some.mp stepped
        obtain ⟨threads, woken, rfl⟩ := Option.map_eq_some_iff.mp moved
        obtain ⟨worker, same⟩ := Option.ite_none_right_eq_some.mp woken
        cases same
        exact .wakeUp start wake worker begun asleep late
      next => cases stepped
    | decide =>
      obtain ⟨threads, moved, rfl⟩ := Option.map_eq_some_iff.mp stepped
      obtain ⟨worker, same⟩ := Option.ite_none_right_eq_some.mp moved
      cases same
      exact .decide worker
    | storeStopped =>
      obtain ⟨threads, moved, rfl⟩ := Option.map_eq_some_iff.mp stepped
      obtain ⟨worker, same⟩ := Option.ite_none_right_eq_some.mp moved
      cases same
      exact .storeStopped worker
    | storeFlag =>
      obtain ⟨threads, moved, rfl⟩ := Option.map_eq_some_iff.mp stepped
      obtain ⟨worker, same⟩ := Option.ite_none_right_eq_some.mp moved
      cases same
      exact .storeFlag worker
    | spawn outcome =>
      obtain ⟨threads, moved, rfl⟩ := Option.map_eq_some_iff.mp stepped
      obtain ⟨runner, same⟩ := Option.ite_none_right_eq_some.mp moved
      cases outcome with
      | ok _ =>
        cases same
        exact .spawn runner
      | error error =>
        cases same
        exact .other (.spawn (.error error)) _ rfl rfl id
    | requestStop =>
      cases stepped
      exact .other .requestStop _ rfl rfl fun _ => rfl
    | enter | check | storeRunning | storeFailed | join | leave | storeStopping =>
      obtain ⟨threads, moved, rfl⟩ := Option.map_eq_some_iff.mp stepped
      obtain ⟨worker, stop⟩ := worker_of_foreign rfl (fun _ same => by cases same) moved
      exact .other _ threads rfl worker stop

/-! ### Without the clock -/

/-- **Run.** Without its clock a timed run is a run of the threads. -/
theorem threads_of_run {duration : Int} {clock : Nat} {actions : List TimedAction} {timed : Timed}
    (ran : timedAfter duration clock actions = some timed) :
    after .sleep (actions.filterMap TimedAction.untimed) = some timed.threads := by
  refine run_induction (timedStep duration) (.start clock)
    (motive := fun actions timed =>
      after .sleep (actions.filterMap TimedAction.untimed) = some timed.threads) rfl ?_ ran
  intro actions action timed later _ before stepped
  have silent : ∀ action : TimedAction, action.untimed = none →
      (actions ++ [action]).filterMap TimedAction.untimed
        = actions.filterMap TimedAction.untimed := by
    intro action none
    simp [none]
  cases action with
  | thread action =>
    rw [List.filterMap_append]
    exact (run_concat_iff _ _).mpr ⟨timed.threads, before, step_of_timedStep stepped⟩
  | tick _ | now | fallAsleep =>
    rw [silent _ rfl]
    cases timedMove_of_step stepped
    exact before

/-- The worker is there once `run_task` has spawned it, and is spawned once. -/
theorem absent_or_spawned {actions : List Action} {threads : Threads}
    (ran : after .sleep actions = some threads) :
    threads.worker = .absent ∨ threads.runner = .waiting ∨ threads.runner = .leaving ∨
      threads.runner = .returned := by
  refine run_induction (step .sleep) .start
    (motive := fun _ threads => threads.worker = .absent ∨ threads.runner = .waiting ∨
      threads.runner = .leaving ∨ threads.runner = .returned) (Or.inl rfl) ?_ ran
  intro actions action threads later _ before stepped
  cases action with
  | requestStop =>
    cases stepped
    exact before
  | check =>
    obtain ⟨runner, same⟩ := Option.ite_none_right_eq_some.mp stepped
    split at same
    · cases same
      exact Or.inr (Or.inl rfl)
    · cases same
      exact Or.inl (by simpa [runner] using before)
  | spawn outcome =>
    obtain ⟨runner, same⟩ := Option.ite_none_right_eq_some.mp stepped
    cases outcome with
    | ok _ =>
      cases same
      exact Or.inr (Or.inl rfl)
    | error error =>
      cases same
      exact Or.inl (by simpa [runner] using before)
  | test timeUp =>
    obtain ⟨worker, same⟩ := Option.ite_none_right_eq_some.mp stepped
    have spawned := before.resolve_left (by simp [worker])
    split at same <;> cases same <;> exact Or.inr spawned
  | sleep | decide | storeStopped | storeFlag =>
    obtain ⟨worker, same⟩ := Option.ite_none_right_eq_some.mp stepped
    cases same
    exact Or.inr (before.resolve_left (by simp [worker]))
  | enter | storeRunning | storeFailed =>
    obtain ⟨runner, same⟩ := Option.ite_none_right_eq_some.mp stepped
    cases same
    exact Or.inl (by simpa [runner] using before)
  | join | leave =>
    obtain ⟨-, same⟩ := Option.ite_none_right_eq_some.mp stepped
    cases same
    simp
  | storeStopping =>
    obtain ⟨-, same⟩ := Option.ite_none_right_eq_some.mp stepped
    cases same
    exact before

/-! ### Where the loop is -/

/-- The time asked for in steps of `check_interval`, rounded up. -/
def iterations (duration : Int) : Nat := (duration.toNat + 99) / 100

/-- Behind the loop: the actions since the last sleep returned, and the stores among them. -/
def Worker.behindLoop : Worker → Option (Nat × List TimedAction)
  | .deciding => some (2, [])
  | .ending => some (3, [])
  | .flagging => some (4, [.thread .storeStopped])
  | .finished => some (5, [.thread .storeStopped, .thread .storeFlag])
  | _ => none

/-- Where `run_loop` is, after so many actions of its own, so many sleeps and these stores. -/
inductive Schedule (duration : Int) (timed : Timed) (spent slept : Nat)
    (stores : List TimedAction) : Prop
  | fresh (worker : timed.threads.worker = .absent ∨ timed.threads.worker = .testing)
      (begun : timed.started = none) (awake : timed.wake = none)
      (spent : spent = 0) (slept : slept = 0) (stores : stores = [])
  | testing (start : Nat) (worker : timed.threads.worker = .testing)
      (begun : timed.started = some start) (awake : timed.wake = none)
      (forward : start ≤ timed.clock)
      (measured : (start : Int) + timed.elapsed * millisecond ≤ timed.clock)
      (reached : min duration (checkInterval * slept) ≤ timed.elapsed)
      (bounded : slept ≤ iterations duration)
      (spent : spent = 3 * slept + 1) (stores : stores = [])
  | entering (start : Nat) (worker : timed.threads.worker = .sleeping)
      (begun : timed.started = some start) (awake : timed.wake = none)
      (forward : start ≤ timed.clock)
      (measured : (start : Int) + timed.elapsed * millisecond ≤ timed.clock)
      (reached : checkInterval * slept ≤ timed.elapsed) (early : timed.elapsed < duration)
      (spent : spent = 3 * slept + 2) (stores : stores = [])
  | asleep (start wake : Nat) (worker : timed.threads.worker = .sleeping)
      (begun : timed.started = some start) (asleep : timed.wake = some wake)
      (forward : start ≤ timed.clock)
      (due : (start : Int) + min duration (checkInterval * slept) * millisecond ≤ wake)
      (bounded : slept ≤ iterations duration)
      (spent : spent = 3 * slept) (stores : stores = [])
  | left (more : Nat) (worker : timed.threads.worker.behindLoop = some (more, stores))
      (bounded : slept ≤ iterations duration) (spent : spent = 3 * slept + more)

/-- A sleep that still has something to wait for is within the bound. -/
theorem lt_iterations {duration elapsed : Int} {slept : Nat}
    (reached : checkInterval * slept ≤ elapsed) (early : elapsed < duration) :
    slept < iterations duration := by
  unfold checkInterval at reached
  unfold iterations
  omega

/-- **What a sleep is worth.** It ends when the time asked for is over, or with one more step of
`check_interval` behind it. -/
theorem due_of_entering {duration elapsed : Int} {start clock slept : Nat}
    (measured : (start : Int) + elapsed * millisecond ≤ clock)
    (reached : checkInterval * slept ≤ elapsed) (early : elapsed < duration) :
    (start : Int) + min duration (checkInterval * (slept + 1 : Nat)) * millisecond
      ≤ (clock + (sleepDuration duration elapsed).toNat * millisecond : Nat) := by
  unfold sleepDuration checkInterval millisecond at *
  omega

/-- **What the cut keeps.** The measured time in milliseconds reaches any number of milliseconds
that the clock has passed. -/
theorem reached_of_due {reach : Int} {start clock : Nat} (wake : Nat) (late : wake ≤ clock)
    (due : (start : Int) + reach * millisecond ≤ wake) (forward : start ≤ clock) :
    reach ≤ ((clock : Int) - start).tdiv millisecond ∧
      (start : Int) + ((clock : Int) - start).tdiv millisecond * millisecond ≤ clock := by
  rw [Int.tdiv_eq_ediv_of_nonneg (by omega)]
  unfold millisecond at *
  omega

section Points

variable {duration : Int} {timed after : Timed} {spent slept : Nat} {stores : List TimedAction}
  (schedule : Schedule duration timed spent slept stores)

include schedule

/-- At the loop condition. -/
theorem Schedule.at_test {start : Nat} (worker : timed.threads.worker = .testing)
    (begun : timed.started = some start) :
    timed.wake = none ∧ start ≤ timed.clock ∧
      (start : Int) + timed.elapsed * millisecond ≤ timed.clock ∧
      min duration (checkInterval * slept) ≤ timed.elapsed ∧ slept ≤ iterations duration ∧
      spent = 3 * slept + 1 ∧ stores = [] := by
  cases schedule with
  | testing other _ begins awake forward measured reached bounded spent stores =>
    rw [begun] at begins
    cases begins
    exact ⟨awake, forward, measured, reached, bounded, spent, stores⟩
  | fresh _ fresh =>
    rw [begun] at fresh
    cases fresh
  | entering _ place | asleep _ _ place =>
    rw [worker] at place
    cases place
  | left _ place =>
    rw [worker] at place
    cases place

/-- In the loop, before `sleep_for`. -/
theorem Schedule.at_entry (worker : timed.threads.worker = .sleeping) (awake : timed.wake = none) :
    ∃ start, timed.started = some start ∧ start ≤ timed.clock ∧
      (start : Int) + timed.elapsed * millisecond ≤ timed.clock ∧
      checkInterval * slept ≤ timed.elapsed ∧ timed.elapsed < duration ∧
      spent = 3 * slept + 2 ∧ stores = [] := by
  cases schedule with
  | entering start _ begun _ forward measured reached early spent stores =>
    exact ⟨start, begun, forward, measured, reached, early, spent, stores⟩
  | asleep _ _ _ _ asleep =>
    rw [awake] at asleep
    cases asleep
  | fresh place =>
    rw [worker] at place
    simp at place
  | testing _ place =>
    rw [worker] at place
    cases place
  | left _ place =>
    rw [worker] at place
    cases place

/-- In `sleep_for`. -/
theorem Schedule.at_sleep {wake : Nat} (worker : timed.threads.worker = .sleeping)
    (asleep : timed.wake = some wake) :
    ∃ start, timed.started = some start ∧ start ≤ timed.clock ∧
      (start : Int) + min duration (checkInterval * slept) * millisecond ≤ wake ∧
      slept ≤ iterations duration ∧ spent = 3 * slept ∧ stores = [] := by
  cases schedule with
  | asleep start _ _ begun sleeps forward due bounded spent stores =>
    rw [asleep] at sleeps
    cases sleeps
    exact ⟨start, begun, forward, due, bounded, spent, stores⟩
  | entering _ _ _ awake =>
    rw [asleep] at awake
    cases awake
  | fresh place =>
    rw [worker] at place
    simp at place
  | testing _ place =>
    rw [worker] at place
    cases place
  | left _ place =>
    rw [worker] at place
    cases place

/-- Behind the loop. -/
theorem Schedule.behind {more : Nat} {made : List TimedAction}
    (worker : timed.threads.worker.behindLoop = some (more, made)) :
    slept ≤ iterations duration ∧ spent = 3 * slept + more ∧ stores = made := by
  cases schedule with
  | left _ place bounded spent =>
    rw [worker] at place
    cases place
    exact ⟨bounded, spent, rfl⟩
  | fresh place =>
    rcases place with place | place <;> rw [place] at worker <;> cases worker
  | testing _ place | entering _ place | asleep _ _ place =>
    rw [place] at worker
    cases worker

/-- Before the loop. -/
theorem Schedule.before (place : timed.threads.worker = .absent ∨ timed.threads.worker = .testing)
    (begun : timed.started = none) :
    timed.wake = none ∧ spent = 0 ∧ slept = 0 ∧ stores = [] := by
  cases schedule with
  | fresh _ _ awake spent slept stores => exact ⟨awake, spent, slept, stores⟩
  | testing _ _ begins | entering _ _ begins | asleep _ _ _ begins =>
    rw [begun] at begins
    cases begins
  | left _ worker =>
    rcases place with place | place <;> rw [place] at worker <;> cases worker

/-- The worker has not been spawned. -/
theorem Schedule.absent (worker : timed.threads.worker = .absent) : timed.started = none := by
  cases schedule with
  | fresh _ begun => exact begun
  | testing _ place | entering _ place | asleep _ _ place =>
    rw [worker] at place
    cases place
  | left _ place =>
    rw [worker] at place
    cases place

/-- **Frame.** What another thread and the clock can do to the loop: nothing. -/
theorem Schedule.frame (worker : after.threads.worker = timed.threads.worker)
    (begun : after.started = timed.started) (wake : after.wake = timed.wake)
    (elapsed : after.elapsed = timed.elapsed) (later : timed.clock ≤ after.clock) :
    Schedule duration after spent slept stores := by
  cases schedule with
  | fresh place fresh awake spent slept stores =>
    exact .fresh (by rwa [worker]) (by rwa [begun]) (by rwa [wake]) spent slept stores
  | testing start place begins awake forward measured reached bounded spent stores =>
    refine .testing start (worker ▸ place) (begun ▸ begins) (wake ▸ awake) (forward.trans later)
      ?_ (elapsed ▸ reached) bounded spent stores
    rw [elapsed]
    omega
  | entering start place begins awake forward measured reached early spent stores =>
    refine .entering start (worker ▸ place) (begun ▸ begins) (wake ▸ awake) (forward.trans later)
      ?_ (elapsed ▸ reached) (elapsed ▸ early) spent stores
    rw [elapsed]
    omega
  | asleep start wakes place begins asleep forward due bounded spent stores =>
    exact .asleep start wakes (worker ▸ place) (begun ▸ begins) (wake ▸ asleep)
      (forward.trans later) due bounded spent stores
  | left more place bounded spent => exact .left more (worker ▸ place) bounded spent

end Points

/-- An action of another thread is no sleep and no store of the worker. -/
theorem counts_of_foreign {action : TimedAction} (foreign : action.isOwn = false) :
    ownActions [action] = 0 ∧ sleeps [action] = 0 ∧ ownStores [action] = [] := by
  cases action with
  | tick _ => exact ⟨rfl, rfl, rfl⟩
  | now | fallAsleep => cases foreign
  | thread action =>
    cases action with
    | test _ | sleep | decide | storeStopped | storeFlag => cases foreign
    | _ => exact ⟨rfl, rfl, rfl⟩

/-- **Step.** -/
theorem Schedule.step {duration : Int} {timed after : Timed} {spent slept : Nat}
    {stores : List TimedAction} {action : TimedAction}
    (schedule : Schedule duration timed spent slept stores)
    (spawned : timed.threads.worker = .absent ∨ timed.threads.runner ≠ .spawning)
    (moved : TimedMove duration timed action after) :
    Schedule duration after (spent + ownActions [action]) (slept + sleeps [action])
      (stores ++ ownStores [action]) := by
  have foreign : action.isOwn = false → Schedule duration after spent slept stores →
      Schedule duration after (spent + ownActions [action]) (slept + sleeps [action])
        (stores ++ ownStores [action]) := by
    intro foreign kept
    obtain ⟨own, sleep, store⟩ := counts_of_foreign foreign
    rwa [own, sleep, store, List.append_nil]
  cases moved with
  | tick nanoseconds =>
    exact foreign rfl (schedule.frame rfl rfl rfl rfl (Nat.le_add_right timed.clock nanoseconds))
  | other action threads alien worker stop =>
    exact foreign alien (schedule.frame worker rfl rfl rfl le_rfl)
  | spawn runner =>
    have absent := spawned.resolve_right (fun other => other runner)
    have begun := schedule.absent absent
    obtain ⟨awake, rfl, rfl, rfl⟩ := schedule.before (Or.inl absent) begun
    exact foreign rfl (.fresh (Or.inr rfl) begun awake rfl rfl rfl)
  | now worker fresh =>
    obtain ⟨awake, rfl, rfl, rfl⟩ := schedule.before (Or.inr worker) fresh
    refine .testing timed.clock worker rfl awake le_rfl ?_ (min_le_right _ _) (Nat.zero_le _) rfl
      rfl
    simp
  | loop start timeUp worker begun early wanted =>
    obtain ⟨awake, forward, measured, reached, bounded, rfl, rfl⟩ := schedule.at_test worker begun
    exact .entering start rfl begun awake forward measured
      ((min_le_iff.mp reached).resolve_left (not_le.mpr early)) early rfl rfl
  | leave start timeUp worker begun done =>
    obtain ⟨-, -, -, -, bounded, rfl, rfl⟩ := schedule.at_test worker begun
    exact .left 2 rfl bounded rfl
  | fallAsleep worker awake =>
    obtain ⟨start, begun, forward, measured, reached, early, rfl, rfl⟩ :=
      schedule.at_entry worker awake
    exact .asleep start _ worker begun rfl forward (due_of_entering measured reached early)
      (lt_iterations reached early) rfl rfl
  | wakeUp start wake worker begun asleep late =>
    obtain ⟨other, begins, forward, due, bounded, rfl, rfl⟩ := schedule.at_sleep worker asleep
    rw [begun] at begins
    cases begins
    obtain ⟨reached, measured⟩ := reached_of_due wake late due forward
    exact .testing start rfl begun rfl forward measured reached bounded rfl rfl
  | decide worker =>
    obtain ⟨bounded, rfl, rfl⟩ := schedule.behind (congrArg Worker.behindLoop worker)
    exact .left 3 rfl bounded rfl
  | storeStopped worker =>
    obtain ⟨bounded, rfl, rfl⟩ := schedule.behind (congrArg Worker.behindLoop worker)
    exact .left 4 rfl bounded rfl
  | storeFlag worker =>
    obtain ⟨bounded, rfl, rfl⟩ := schedule.behind (congrArg Worker.behindLoop worker)
    exact .left 5 rfl bounded rfl

/-- **Run.** -/
theorem schedule_of_run {duration : Int} {clock : Nat} {actions : List TimedAction} {timed : Timed}
    (ran : timedAfter duration clock actions = some timed) :
    Schedule duration timed (ownActions actions) (sleeps actions) (ownStores actions) := by
  refine run_induction (timedStep duration) (.start clock)
    (motive := fun actions timed =>
      Schedule duration timed (ownActions actions) (sleeps actions) (ownStores actions))
    (.fresh (Or.inl rfl) rfl rfl rfl rfl rfl) ?_ ran
  intro actions action timed later ran before stepped
  have spawned : timed.threads.worker = .absent ∨ timed.threads.runner ≠ .spawning := by
    rcases absent_or_spawned (threads_of_run ran) with absent | waiting | leaving | returned
    · exact Or.inl absent
    · exact Or.inr (by simp [waiting])
    · exact Or.inr (by simp [leaving])
    · exact Or.inr (by simp [returned])
  rw [ownActions_append, sleeps_append, ownStores_append]
  exact before.step spawned (timedMove_of_step stepped)

/-! ### The end of the loop -/

section Ends

variable {duration : Int} {timed : Timed} {spent slept : Nat} {stores : List TimedAction}
  (schedule : Schedule duration timed spent slept stores)

include schedule

theorem Schedule.slept_le : slept ≤ iterations duration := by
  cases schedule with
  | fresh _ _ _ _ slept =>
    rw [slept]
    exact Nat.zero_le _
  | testing _ _ _ _ _ _ _ bounded | asleep _ _ _ _ _ _ _ bounded | left _ _ bounded =>
    exact bounded
  | entering _ _ _ _ _ _ reached early => exact (lt_iterations reached early).le

theorem Schedule.spent_le : spent ≤ 3 * iterations duration + 5 := by
  have bounded := schedule.slept_le
  cases schedule with
  | fresh _ _ _ spent => omega
  | testing _ _ _ _ _ _ _ _ spent | asleep _ _ _ _ _ _ _ _ spent
  | entering _ _ _ _ _ _ _ _ spent => omega
  | left more worker _ spent =>
    have small : more ≤ 5 := by
      cases place : timed.threads.worker <;> rw [place] at worker <;> cases worker <;> decide
    omega

/-- **The worker can go on**, if need be once the time it asked for has passed. -/
theorem Schedule.goes_on (spawned : timed.threads.worker ≠ .absent)
    (unfinished : timed.threads.worker ≠ .finished) :
    ∃ pause action, action.isOwn = true ∧
      (run (timedStep duration) timed [.tick pause, action]).isSome := by
  cases place : timed.threads.worker with
  | absent => exact absurd place spawned
  | finished => exact absurd place unfinished
  | testing =>
    cases begun : timed.started with
    | none => exact ⟨0, .now, rfl, by simp [run, timedStep, place, begun]⟩
    | some start =>
      refine ⟨0, .thread (.test (!decide (timed.elapsed < duration))), rfl, ?_⟩
      simp only [run, timedStep, Tasks.step, List.foldlM_cons, List.foldlM_nil, begun, place,
        Option.isSome_some, true_and, if_true, Option.bind_eq_bind, Option.bind_some]
      split <;> rfl
  | sleeping =>
    cases asleep : timed.wake with
    | none => exact ⟨0, .fallAsleep, rfl, by simp [run, timedStep, place, asleep]⟩
    | some wake =>
      obtain ⟨start, begun, -⟩ := schedule.at_sleep place asleep
      exact ⟨wake, .thread .sleep, rfl,
        by simp [run, timedStep, Tasks.step, begun, place, asleep]⟩
  | deciding => exact ⟨0, .thread .decide, rfl, by simp [run, timedStep, Tasks.step, place]⟩
  | ending => exact ⟨0, .thread .storeStopped, rfl, by simp [run, timedStep, Tasks.step, place]⟩
  | flagging => exact ⟨0, .thread .storeFlag, rfl, by simp [run, timedStep, Tasks.step, place]⟩

end Ends

/-- A worker that was spawned stays. -/
theorem TimedMove.keeps_worker {duration : Int} {timed after : Timed} {action : TimedAction}
    (moved : TimedMove duration timed action after) (spawned : timed.threads.worker ≠ .absent) :
    after.threads.worker ≠ .absent := by
  cases moved with
  | tick | now | fallAsleep => exact spawned
  | other action threads foreign worker => exact worker ▸ spawned
  | loop | leave | wakeUp | decide | storeStopped | storeFlag | spawn => exact Worker.noConfusion

/-- **Run.** Time and the worker alone bring every run with a worker to its end. -/
theorem finishes {duration : Int} {clock : Nat} {actions : List TimedAction} {timed : Timed}
    (ran : timedAfter duration clock actions = some timed)
    (spawned : timed.threads.worker ≠ .absent) :
    ∃ rest final, (∀ action ∈ rest, action.isOwn = true ∨ action.isTick = true) ∧
      timedAfter duration clock (actions ++ rest) = some final ∧
      final.threads.worker = .finished := by
  -- every round spends one action of the bounded number
  induction left : 3 * iterations duration + 5 - ownActions actions using Nat.strongRecOn
    generalizing actions timed with
  | ind left ih =>
    have schedule := schedule_of_run ran
    by_cases finished : timed.threads.worker = .finished
    · exact ⟨[], timed, by simp, by rwa [List.append_nil], finished⟩
    · obtain ⟨pause, action, own, moved⟩ := schedule.goes_on spawned finished
      obtain ⟨later, moved⟩ := Option.isSome_iff_exists.mp moved
      have ranLater :
          timedAfter duration clock (actions ++ [.tick pause, action]) = some later := by
        rw [timedAfter, run_append,
          show run (timedStep duration) (.start clock) actions = _ from ran]
        exact moved
      have spawnedLater : later.threads.worker ≠ .absent := by
        obtain ⟨between, paused, last⟩ := (run_cons_iff _ _).mp moved
        cases paused
        obtain ⟨_, stepped, ended⟩ := (run_cons_iff _ _).mp last
        cases ended
        exact (timedMove_of_step stepped).keeps_worker spawned
      have spends : ownActions (actions ++ [.tick pause, action]) = ownActions actions + 1 := by
        rw [ownActions_append]
        congr 1
        rw [ownActions, List.countP_cons_of_neg Bool.noConfusion, List.countP_cons_of_pos own]
        rfl
      have bounded := (schedule_of_run ranLater).spent_le
      obtain ⟨rest, final, only, ranFinal, ended⟩ :=
        ih _ (by omega) ranLater spawnedLater rfl
      refine ⟨[.tick pause, action] ++ rest, final, ?_, ?_, ended⟩
      · intro other member
        rcases List.mem_append.mp member with first | last
        · rcases List.mem_cons.mp first with rfl | second
          · exact Or.inr rfl
          · exact Or.inl (List.mem_singleton.mp second ▸ own)
        · exact only other last
      · rwa [← List.append_assoc]

/-! ### After a stop request -/

/-- The sleeps that the worker is bound to: the one of a loop body it has entered. -/
def Timed.bound (timed : Timed) : Nat :=
  if timed.threads.worker = .sleeping ∧ timed.wake = none then 1 else 0

theorem Timed.bound_le (timed : Timed) :
    timed.bound + (if timed.wake.isSome then 1 else 0) ≤ 1 := by
  unfold Timed.bound
  cases timed.wake with
  | none =>
    split <;> decide
  | some wake => simp

/-- **Step.** Once the stop is requested, a sleep is one the worker was bound to. -/
theorem TimedMove.stops {duration : Int} {timed after : Timed} {action : TimedAction}
    (moved : TimedMove duration timed action after)
    (requested : timed.threads.stopRequested = true) :
    after.threads.stopRequested = true ∧ sleeps [action] + after.bound ≤ timed.bound := by
  cases moved with
  | tick => exact ⟨requested, (Nat.zero_add _).le⟩
  | now worker fresh =>
    exact ⟨requested, by simp [Timed.bound, sleeps, TimedAction.isSleep, worker]⟩
  | fallAsleep worker awake =>
    exact ⟨requested, by simp [Timed.bound, sleeps, TimedAction.isSleep, worker, awake]⟩
  | loop start timeUp worker begun early wanted =>
    rw [requested] at wanted
    cases wanted
  | leave | wakeUp | decide | storeStopped | storeFlag | spawn =>
    exact ⟨requested, by simp [Timed.bound, sleeps, TimedAction.isSleep]⟩
  | other action threads foreign worker stop =>
    refine ⟨stop requested, ?_⟩
    rw [(counts_of_foreign foreign).2.1, Nat.zero_add, Timed.bound, Timed.bound, worker]

/-- **Run.** -/
theorem sleeps_after_stop {duration : Int} {timed later : Timed} {more : List TimedAction}
    (requested : timed.threads.stopRequested = true)
    (ran : run (timedStep duration) timed more = some later) :
    later.threads.stopRequested = true ∧ sleeps more + later.bound ≤ timed.bound := by
  refine run_induction (timedStep duration) timed
    (motive := fun more later =>
      later.threads.stopRequested = true ∧ sleeps more + later.bound ≤ timed.bound)
    ⟨requested, (Nat.zero_add _).le⟩ ?_ ran
  intro more action before after _ kept stepped
  obtain ⟨stays, less⟩ := (timedMove_of_step stepped).stops kept.1
  refine ⟨stays, ?_⟩
  have room := kept.2
  rw [sleeps_append]
  omega

/-! ### The whole run -/

/-- What a run of the sleeping task keeps to. -/
structure SleepsAndEnds (duration : Int) (clock : Nat) (actions : List TimedAction)
    (timed : Timed) : Prop where
  /-- The loop body runs at most once for each started step of `check_interval`. -/
  rounds : sleeps actions ≤ iterations duration
  /-- `run_loop` takes a bounded number of actions. -/
  spends : ownActions actions ≤ 3 * iterations duration + 5
  /-- It never gets stuck: it ends if it is let run and time passes. -/
  ends : timed.threads.worker ≠ .absent →
    ∃ rest final, (∀ action ∈ rest, action.isOwn = true ∨ action.isTick = true) ∧
      timedAfter duration clock (actions ++ rest) = some final ∧
      final.threads.worker = .finished
  /-- A loop that is left with no stop requested has slept long enough, by the task's own measure
  and by the clock. -/
  sleepsEnough : Along (timedStep duration) (.start clock) (fun _ before _ after =>
    before.threads.worker = .testing → after.threads.worker = .deciding →
    before.threads.stopRequested = false → duration ≤ before.elapsed ∧
      ∃ start, before.started = some start ∧
        (start : Int) + duration * millisecond ≤ before.clock) actions
  /-- Every call of `sleep_for` asks for some time, and for no more than 100 ms. -/
  naps : Along (timedStep duration) (.start clock) (fun _ before action after =>
    action = .fallAsleep → ∃ wake, after.wake = some wake ∧ before.clock < wake ∧
      wake ≤ before.clock + 100 * millisecond) actions
  /-- After a stop request there is at most one sleep, the current one counted. -/
  stops : ∀ before rest, actions = before ++ .thread .requestStop :: rest → ∀ state,
    timedAfter duration clock before = some state →
      sleeps rest + (if state.wake.isSome then 1 else 0) ≤ 1
  /-- The stores of `run_loop`, and all of them at its end. -/
  stores : ownStores actions <+: [.thread .storeStopped, .thread .storeFlag]
  lastStores : timed.threads.worker = .finished →
    ownStores actions = [.thread .storeStopped, .thread .storeFlag]

/-- A loop that is left without a stop request has slept long enough. -/
theorem Schedule.sleeps_enough {duration : Int} {timed after : Timed} {spent slept : Nat}
    {stores : List TimedAction} {action : TimedAction}
    (schedule : Schedule duration timed spent slept stores)
    (moved : TimedMove duration timed action after) (tested : timed.threads.worker = .testing)
    (left : after.threads.worker = .deciding) (wanted : timed.threads.stopRequested = false) :
    duration ≤ timed.elapsed ∧ ∃ start, timed.started = some start ∧
      (start : Int) + duration * millisecond ≤ timed.clock := by
  cases moved with
  | leave start timeUp worker begun done =>
    have enough : duration ≤ timed.elapsed := by simpa [wanted] using done
    obtain ⟨-, -, measured, -⟩ := schedule.at_test worker begun
    refine ⟨enough, start, begun, le_trans ?_ measured⟩
    have scaled := Int.mul_le_mul_of_nonneg_right enough (Int.natCast_nonneg millisecond)
    omega
  | tick | now =>
    rw [tested] at left
    cases left
  | other _ _ _ same =>
    rw [same, tested] at left
    cases left
  | fallAsleep worker | wakeUp _ _ worker | decide worker | storeStopped worker
  | storeFlag worker =>
    rw [tested] at worker
    cases worker
  | loop | spawn => cases left

/-- A sleep that the loop asks for. -/
theorem Schedule.nap {duration : Int} {timed after : Timed} {spent slept : Nat}
    {stores : List TimedAction} (schedule : Schedule duration timed spent slept stores)
    (moved : TimedMove duration timed .fallAsleep after) :
    ∃ wake, after.wake = some wake ∧ timed.clock < wake ∧
      wake ≤ timed.clock + 100 * millisecond := by
  cases moved with
  | fallAsleep worker awake =>
    obtain ⟨_, -, -, -, -, early, -⟩ := schedule.at_entry worker awake
    refine ⟨_, rfl, ?_⟩
    unfold sleepDuration checkInterval millisecond
    omega

theorem Schedule.stores_in_order {duration : Int} {timed : Timed} {spent slept : Nat}
    {stores : List TimedAction} (schedule : Schedule duration timed spent slept stores) :
    stores <+: [.thread .storeStopped, .thread .storeFlag] := by
  cases schedule with
  | fresh _ _ _ _ _ none | testing _ _ _ _ _ _ _ _ _ none | entering _ _ _ _ _ _ _ _ _ none
  | asleep _ _ _ _ _ _ _ _ _ none =>
    rw [none]
    exact List.nil_prefix
  | left more worker =>
    cases place : timed.threads.worker <;> rw [place] at worker <;> cases worker
    · exact List.nil_prefix
    · exact List.nil_prefix
    · exact ⟨[.thread .storeFlag], rfl⟩
    · exact List.prefix_rfl

/-- **Whatever the clock does and whenever the stop is requested**, the sleeping task sleeps long
enough, ends in time and stores its end. -/
theorem sleepTask_sleeps_and_ends (duration : Int) (clock : Nat) (actions : List TimedAction)
    (timed : Timed) (ran : timedAfter duration clock actions = some timed) :
    SleepsAndEnds duration clock actions timed := by
  have schedule := schedule_of_run ran
  refine ⟨schedule.slept_le, schedule.spent_le, finishes ran, ?_, ?_, ?_, schedule.stores_in_order,
    ?_⟩
  · intro before action rest _ state after ranBefore stepped
    exact (schedule_of_run ranBefore).sleeps_enough (timedMove_of_step stepped)
  · rintro before action rest _ state after ranBefore stepped rfl
    exact (schedule_of_run ranBefore).nap (timedMove_of_step stepped)
  · rintro before rest rfl state ranBefore
    have ranRest : run (timedStep duration) state (.thread .requestStop :: rest) = some timed := by
      rwa [timedAfter, run_append,
        show run (timedStep duration) (.start clock) before = _ from ranBefore] at ran
    obtain ⟨told, tells, ranTold⟩ := (run_cons_iff _ _).mp ranRest
    cases tells
    have few : sleeps rest + timed.bound ≤ state.bound := (sleeps_after_stop rfl ranTold).2
    have one := state.bound_le
    omega
  · intro finished
    exact (schedule.behind (congrArg Worker.behindLoop finished)).2.2

/-- A run of 150 ms that oversleeps twice. -/
theorem sleepTask_sleeps_and_ends_late :
    ∃ actions timed, timedAfter 150 7 actions = some timed ∧ timed.threads.worker = .finished ∧
      sleeps actions = 2 ∧ SleepsAndEnds 150 7 actions timed := by
  let actions : List TimedAction :=
    [.thread .enter, .thread .check, .thread .storeRunning, .thread (.spawn (.ok ())), .now,
      .thread (.test false), .fallAsleep, .tick 100000001, .thread .sleep, .thread (.test false),
      .fallAsleep, .tick 60000000, .thread .sleep, .thread (.test true), .thread .decide,
      .thread .storeStopped, .thread .storeFlag]
  have ended : ((timedAfter 150 7 actions).map fun timed => timed.threads.worker)
      = some .finished := by decide +kernel
  obtain ⟨timed, ran, finished⟩ := Option.map_eq_some_iff.mp ended
  exact ⟨actions, timed, ran, finished, rfl, sleepTask_sleeps_and_ends 150 7 actions timed ran⟩

end DemoDaemon.Tasks
