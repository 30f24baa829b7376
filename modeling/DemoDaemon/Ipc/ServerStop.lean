/-
**Starting and stopping the server** (`UnixSocketServer::run`, `UnixSocketServer::stop`).

`run` is executed by the server thread and `stop` by the main thread. Every load or store of a
shared variable is one action, and a run of the two is any order of actions that each thread allows.
What an event and `close_all` do to the connections is a parameter.

* `serverStep`: one action.
* `flagHistory`: **the flag** is set exactly when `stop` has stored it and `run`, which clears
  it on entry, has not done so afterwards.
* **`stop_obeyed_iff`**: every evaluation of the loop condition behind the return of `stop` leaves
  the loop if and only if `run` had cleared the flag before `stop` stored it.
-/

import DemoDaemon.Foundation.Transition

namespace DemoDaemon.Ipc

open Foundation

/-- What `epoll_wait` answers. -/
inductive WaitResult (ε : Type) where
  | ready (events : List ε)
  /-- `EINTR`. -/
  | interrupted
  | failed

/-- Where the thread of `run` is. -/
inductive RunPoint (ε : Type) where
  | entering
  /-- In front of `running_ = true`. -/
  | starting
  /-- In front of `stop_requested_ = false`. -/
  | clearing
  /-- In front of the loop condition. -/
  | testing
  | waiting
  | handling (events : List ε)
  /-- In front of `running_ = false`. -/
  | leaving
  | returning
  | returned (result : Bool)

/-- Where the thread of `stop` is. -/
inductive StopPoint where
  | calling
  /-- In front of `close_all`. -/
  | closing
  | returned
deriving DecidableEq

section ServerStop

variable {ω ε : Type} (handle : ω → ε → ω) (closeAll : ω → ω)

/-- The shared variables, the connections and the two threads. -/
structure ServerThreads (ω ε : Type) where
  /-- `server_fd_` and `epoll_fd_` are open. -/
  initialized : Bool
  running : Bool
  stopRequested : Bool
  connections : ω
  runner : RunPoint ε
  stopper : StopPoint

def ServerThreads.start (initialized : Bool) (connections : ω) : ServerThreads ω ε :=
  ⟨initialized, false, false, connections, .entering, .calling⟩

inductive ServerAction (ε : Type) where
  /-- `run`: the test of the descriptors. -/
  | enter
  | storeRunning
  /-- `run`: `stop_requested_ = false`. -/
  | clearStop
  /-- `run`: the loop condition. -/
  | test
  | wait (result : WaitResult ε)
  | handleEvent
  | storeStopped
  /-- `run`: `return !stop_requested_`. -/
  | leave
  /-- `stop`: `stop_requested_ = true`. -/
  | requestStop
  /-- `stop`: `close_all`, and the return. -/
  | closeAll

/-- The loop over the events, or the loop condition behind the last one. -/
def RunPoint.next : List ε → RunPoint ε
  | [] => .testing
  | events => .handling events

/-- One action. -/
def serverStep (threads : ServerThreads ω ε) : ServerAction ε → Option (ServerThreads ω ε)
  | .enter =>
    match threads.runner with
    | .entering =>
      some { threads with runner := if threads.initialized then .starting else .returned false }
    | _ => none
  | .storeRunning =>
    match threads.runner with
    | .starting => some { threads with running := true, runner := .clearing }
    | _ => none
  | .clearStop =>
    match threads.runner with
    | .clearing => some { threads with stopRequested := false, runner := .testing }
    | _ => none
  | .test =>
    match threads.runner with
    | .testing =>
      some { threads with runner := if !threads.stopRequested then .waiting else .leaving }
    | _ => none
  | .wait result =>
    match threads.runner, result with
    | .waiting, .ready events => some { threads with runner := .next events }
    | .waiting, .interrupted => some { threads with runner := .testing }
    | .waiting, .failed => some { threads with runner := .leaving }
    | _, _ => none
  | .handleEvent =>
    match threads.runner with
    | .handling (event :: events) =>
      some { threads with
        connections := handle threads.connections event, runner := .next events }
    | _ => none
  | .storeStopped =>
    match threads.runner with
    | .leaving => some { threads with running := false, runner := .returning }
    | _ => none
  | .leave =>
    match threads.runner with
    | .returning => some { threads with runner := .returned (!threads.stopRequested) }
    | _ => none
  | .requestStop =>
    match threads.stopper with
    | .calling => some { threads with stopRequested := true, stopper := .closing }
    | _ => none
  | .closeAll =>
    match threads.stopper with
    | .closing =>
      some { threads with connections := closeAll threads.connections, stopper := .returned }
    | _ => none

/-- `run` does not clear the flag behind the store of `stop`. -/
def ClearedFirst (actions : List (ServerAction ε)) : Prop :=
  actions.Pairwise fun earlier later => earlier = .requestStop → later ≠ .clearStop

theorem clearedFirst_concat (actions : List (ServerAction ε)) (action : ServerAction ε) :
    ClearedFirst (actions ++ [action])
      ↔ ClearedFirst actions ∧ (action = .clearStop → .requestStop ∉ actions) := by
  rw [ClearedFirst, List.pairwise_append, ← ClearedFirst]
  simp only [List.pairwise_singleton, List.mem_singleton, forall_eq, true_and]
  refine and_congr_right fun _ => ⟨?_, ?_⟩
  · intro later cleared requested
    exact later _ requested rfl cleared
  · rintro later earlier member rfl cleared
    exact later cleared member

/-- What the two threads have written. -/
structure FlagHistory (actions : List (ServerAction ε)) (threads : ServerThreads ω ε) : Prop where
  requested : .requestStop ∈ actions ↔ threads.stopper ≠ .calling
  flag : threads.stopRequested = true ↔ .requestStop ∈ actions ∧ ClearedFirst actions

/-- An action that writes neither the flag nor the progress of `stop` out of `calling`. -/
theorem FlagHistory.other {actions : List (ServerAction ε)} {threads after : ServerThreads ω ε}
    (history : FlagHistory actions threads) {action : ServerAction ε}
    (notRequest : action ≠ .requestStop) (notClear : action ≠ .clearStop)
    (same : after.stopRequested = threads.stopRequested)
    (progress : after.stopper = .calling ↔ threads.stopper = .calling) :
    FlagHistory (actions ++ [action]) after := by
  have member : .requestStop ∈ actions ++ [action] ↔ .requestStop ∈ actions := by
    simp only [List.mem_append, List.mem_singleton, or_iff_left notRequest.symm]
  refine ⟨?_, ?_⟩
  · rw [member, history.requested, ne_eq, ne_eq, progress]
  · rw [member, same, history.flag, clearedFirst_concat]
    simp only [notClear, false_implies, and_true]

/-- **Step.** -/
theorem FlagHistory.step {actions : List (ServerAction ε)} {threads after : ServerThreads ω ε}
    (history : FlagHistory actions threads) {action : ServerAction ε}
    (stepped : serverStep handle closeAll threads action = some after) :
    FlagHistory (actions ++ [action]) after := by
  cases action with
  | clearStop =>
    simp only [serverStep] at stepped
    split at stepped
    · cases stepped
      refine ⟨?_, ?_⟩
      · simpa using history.requested
      · rw [clearedFirst_concat]
        simp only [Bool.false_eq_true, List.mem_append, List.mem_singleton, reduceCtorEq, or_false,
          false_iff, not_and, true_implies, not_not]
        exact fun requested _ => requested
    · cases stepped
  | requestStop =>
    simp only [serverStep] at stepped
    split at stepped
    · rename_i calling
      cases stepped
      -- nothing was requested before, so nothing was cleared behind a request
      have none : .requestStop ∉ actions := by
        rw [history.requested, calling]
        exact fun ne => ne rfl
      refine ⟨?_, ?_⟩
      · simp
      · rw [clearedFirst_concat]
        simp only [List.mem_append, List.mem_singleton, or_true, reduceCtorEq, false_implies,
          and_true, true_and, true_iff]
        refine List.pairwise_of_forall_mem_list ?_
        rintro earlier member later _ rfl
        exact absurd member none
    · cases stepped
  | closeAll =>
    simp only [serverStep] at stepped
    split at stepped
    · rename_i closing
      cases stepped
      refine history.other (by simp) (by simp) rfl ?_
      rw [closing]
      simp
    · cases stepped
  | enter | storeRunning | test | wait | handleEvent | storeStopped | leave =>
    simp only [serverStep] at stepped
    split at stepped
    all_goals cases stepped
    all_goals exact history.other (by simp) (by simp) rfl Iff.rfl

variable (initialized : Bool) (connections : ω)

/-- **Run.** The flag is set exactly when `stop` has stored it and `run` has not cleared it since. -/
theorem flagHistory {actions : List (ServerAction ε)} {threads : ServerThreads ω ε}
    (ran : run (serverStep handle closeAll) (.start initialized connections) actions
      = some threads) :
    FlagHistory actions threads := by
  have initial : FlagHistory [] (.start initialized connections : ServerThreads ω ε) := by
    constructor <;> simp [ServerThreads.start]
  refine run_induction _ _ initial ?_ ran
  intro actions action threads after _ history stepped
  exact history.step handle closeAll stepped

/-- The loop condition leaves the loop when the flag is set. -/
theorem test_leaves_iff {threads after : ServerThreads ω ε}
    (stepped : serverStep handle closeAll threads .test = some after) :
    after.runner = .leaving ↔ threads.stopRequested = true := by
  simp only [serverStep] at stepped
  split at stepped
  · cases stepped
    cases threads.stopRequested <;> simp
  · cases stepped

/-- An evaluation of the loop condition behind the return of `stop` leaves the loop. -/
def StopObeyed (threads : ServerThreads ω ε) (action : ServerAction ε)
    (after : ServerThreads ω ε) : Prop :=
  action = .test → threads.stopper = .returned → after.runner = .leaving

/-- **A stop request is obeyed exactly when it is not cleared.** In every run of the two threads,
every evaluation of the loop condition behind the return of `stop` leaves the loop if and only if,
at each of them, `run` had cleared the flag before `stop` stored it. -/
theorem stop_obeyed_iff (actions : List (ServerAction ε)) :
    Along (serverStep handle closeAll) (.start initialized connections)
        (fun _ threads action after => StopObeyed threads action after) actions
      ↔ Along (serverStep handle closeAll) (.start initialized connections)
        (fun before threads action _ => action = .test → threads.stopper = .returned →
          ClearedFirst before) actions := by
  refine along_congr _ _ ?_ actions
  intro before threads action after ran stepped
  refine forall_congr' fun tested => forall_congr' fun returned => ?_
  subst tested
  have history := flagHistory handle closeAll initialized connections ran
  have requested : .requestStop ∈ before := by
    rw [history.requested, returned]
    exact StopPoint.noConfusion
  rw [test_leaves_iff handle closeAll stepped, history.flag, and_iff_right requested]

end ServerStop

/-- The daemon is told to stop before its server thread has run: the loop waits for events. -/
theorem stop_lost_before_run :
    ¬ ∀ actions : List (ServerAction Unit),
      Along (serverStep (fun (_ : Unit) _ => ()) id) (.start true ())
        (fun _ threads action after => StopObeyed threads action after) actions := by
  intro all
  have along := all ([ServerAction.requestStop, .closeAll, .enter, .storeRunning, .clearStop]
    ++ ServerAction.test :: [])
  have leaving := along _ _ _ rfl _ _ rfl rfl rfl rfl
  cases leaving

end DemoDaemon.Ipc
