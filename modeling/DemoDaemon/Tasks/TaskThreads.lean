/-
**The threads around one built-in task** (`task_manager.cpp`, `heartbeat_task.cpp`,
`sleep_task.cpp`).

Three kinds of thread share a task: the one `add_task` spawns, which runs `run_task`; the worker
that `start` spawns, which runs `run_loop`; and any number of callers of `stop_task`. Every load or
store of a shared variable is one action, and a run is any order of actions that each thread allows
(`step` gives `none` for the others).

The clock of the sleeping task is not modelled here: whether `elapsed < duration_` still holds is
part of the action that tests it.
-/

import DemoDaemon.Foundation.Transition
import DemoDaemon.Tasks.Task

namespace DemoDaemon.Tasks

open Foundation

/-- The two built-in tasks. -/
inductive Kind where
  | heartbeat
  | sleep
deriving DecidableEq

/-- Where the thread of `run_task` is. -/
inductive Runner where
  | entering
  | starting
  /-- In `start`, with Pending read. -/
  | checked
  /-- In `start`, with Running stored. -/
  | spawning
  /-- In `start`, with the exception of the thread constructor caught. -/
  | failing
  | waiting
  | leaving
  | returned
deriving DecidableEq

/-- Where the thread of `run_loop` is. -/
inductive Worker where
  | absent
  | testing
  | sleeping
  /-- Behind the loop of the sleeping task. -/
  | deciding
  | ending
  /-- With Stopped stored and `stopped_` still to store. -/
  | flagging
  | finished
deriving DecidableEq

/-- A task, its entry and its threads. -/
structure Threads where
  state : TaskState
  stopped : Bool
  lastError : Bytes
  /-- The state behind `stop_source` and its tokens. -/
  stopRequested : Bool
  /-- `TaskEntry::running`. -/
  running : Bool
  runner : Runner
  worker : Worker
  /-- The calls of `stop_task` that have requested the stop and not yet told the task. -/
  stoppers : Nat
deriving DecidableEq

def Threads.start : Threads := ⟨.pending, false, [], false, false, .entering, .absent, 0⟩

inductive Action where
  /-- `run_task`: `entry.running.store(true)`. -/
  | enter
  /-- `start`: the test that the state is Pending. -/
  | check
  | storeRunning
  /-- `start`: the constructor of `std::thread`. -/
  | spawn (outcome : Except Exn Unit)
  | storeFailed
  /-- `run_task`: `wait_stopped`. -/
  | join
  /-- `run_task`: `entry.running.store(false)`, and the return. -/
  | leave
  /-- `run_loop`: the loop condition. -/
  | test (timeUp : Bool)
  /-- `run_loop`: the loop body. -/
  | sleep
  /-- `run_loop` of the sleeping task: the test behind the loop. -/
  | decide
  | storeStopped
  /-- `run_loop`: `stopped_.store(true)`. -/
  | storeFlag
  /-- `stop_task`: `entry->stop_source.request_stop()`. -/
  | requestStop
  /-- `stop_task`: `entry->task->request_stop()`. -/
  | storeStopping

/-- The loop condition of `run_loop`. -/
def Threads.loops (threads : Threads) (timeUp : Bool) : Kind → Bool
  | .heartbeat => !threads.stopRequested
  | .sleep => !timeUp && !threads.stopRequested

/-- Where `run_loop` goes from its loop. The sleeping task tests its token once more; both branches
behind that test make the same stores. -/
def Kind.afterLoop : Kind → Worker
  | .heartbeat => .ending
  | .sleep => .deciding

/-- One action. -/
def step (kind : Kind) (threads : Threads) : Action → Option Threads
  | .enter =>
    if threads.runner = .entering then some { threads with running := true, runner := .starting }
    else none
  | .check =>
    if threads.runner = .starting then
      if threads.state ≠ .pending then
        some { threads with lastError := ascii "Task already started", runner := .waiting }
      else some { threads with runner := .checked }
    else none
  | .storeRunning =>
    if threads.runner = .checked then
      some { threads with state := .running, runner := .spawning }
    else none
  | .spawn outcome =>
    if threads.runner = .spawning then
      match outcome with
      | .ok _ => some { threads with worker := .testing, runner := .waiting }
      | .error error => some { threads with lastError := error.what, runner := .failing }
    else none
  | .storeFailed =>
    if threads.runner = .failing then some { threads with state := .failed, runner := .waiting }
    else none
  | .join =>
    -- not joinable, or joined
    if threads.runner = .waiting ∧ (threads.worker = .absent ∨ threads.worker = .finished) then
      some { threads with runner := .leaving }
    else none
  | .leave =>
    if threads.runner = .leaving then some { threads with running := false, runner := .returned }
    else none
  | .test timeUp =>
    if threads.worker = .testing then
      if threads.loops timeUp kind then some { threads with worker := .sleeping }
      else some { threads with worker := kind.afterLoop }
    else none
  | .sleep =>
    if threads.worker = .sleeping then some { threads with worker := .testing } else none
  | .decide =>
    if threads.worker = .deciding then some { threads with worker := .ending } else none
  | .storeStopped =>
    if threads.worker = .ending then some { threads with state := .stopped, worker := .flagging }
    else none
  | .storeFlag =>
    if threads.worker = .flagging then some { threads with stopped := true, worker := .finished }
    else none
  | .requestStop =>
    some { threads with stopRequested := true, stoppers := threads.stoppers + 1 }
  | .storeStopping =>
    if 0 < threads.stoppers then
      some { threads with state := .stopping, stoppers := threads.stoppers - 1 }
    else none

/-- The threads after a list of actions. -/
def after (kind : Kind) (actions : List Action) : Option Threads :=
  run (step kind) .start actions

end DemoDaemon.Tasks
