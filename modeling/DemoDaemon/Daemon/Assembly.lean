/-
**The daemon as `main` assembles it** (`daemon/main.cpp`): signal handlers, the main thread, the
server thread and the threads of the tasks.

The parts are the models of `SignalLoop`, `ServerStop` and `Shutdown`; what is new is who may act
when. The main thread starts the server thread behind `initialize`, leaves its loop, calls `stop`,
joins the server thread and calls `stop_all_tasks`. Only the server thread calls `add_task` and
`stop_task`, one call at a time, and only while it handles an event. The model ends where `main`
returns; the destructors behind it are not part of it.

* `processStep`: one action of one thread.
* `Ordered`: `stop_all_tasks` is behind the join, the join behind the return of `run`, and no
  `add_task` is under way outside of an event.
* **`daemon_stops_every_task`**: so no task escapes in the daemon as it is assembled, and no
  `add_task` ever finds the flag of the shutdown.
* **`joins_alone_iff`**: `stop` does not wake the server thread. Behind its return the join is
  reached without another answer of `epoll_wait` exactly from the points `RunPoint.endsAlone`.
-/

import DemoDaemon.Foundation.Composition
import DemoDaemon.Daemon.SignalLoop
import DemoDaemon.Ipc.ServerStop
import DemoDaemon.Tasks.Shutdown

namespace DemoDaemon.Daemon

open Foundation Ipc Tasks

/-! ### State -/

/-- An `add_task` that has not begun or has come back. -/
def addIdle : AddPoint → Bool
  | .entering => true
  | .returned _ => true
  | .threw => true
  | _ => false

structure Process (ω ε : Type) where
  signals : Signals
  server : ServerThreads ω ε
  tasks : Shutdown
  /-- The calls of `add_task` so far: the next one is the adder of this number. -/
  calls : Nat
  /-- `serverThread.join()` has come back. -/
  joined : Bool

/-- Behind a successful `server->initialize()`, with a new task manager. -/
def Process.start {ω ε : Type} (connections : ω) : Process ω ε :=
  ⟨.start, .start true connections, .start ∅ 0, 0, false⟩

section Process

variable {ω ε : Type} (handle : ω → ε → ω) (closeAll : ω → ω)

def handlingEvent : RunPoint ε → Bool
  | .handling _ => true
  | _ => false

def runReturned : RunPoint ε → Bool
  | .returned _ => true
  | _ => false

/-- No call of `add_task` is under way. -/
def Process.quiet (daemon : Process ω ε) : Bool :=
  (List.range daemon.calls).all fun adder => addIdle (daemon.tasks.adders adder)

/-! ### Actions -/

inductive ProcessAction (ε : Type) where
  | signal (action : SignalAction)
  | server (action : ServerAction ε)
  | task (action : ShutdownAction)
  /-- `stop_task` on the server thread: the stop of an entry that it has found. -/
  | stopTask (id : Bytes)
  /-- `serverThread.join()`. -/
  | join

/-- Whose turn it is: `stop` is called behind the main loop, `run` on a thread that is started
behind `initialize`, and an event is over when its calls have come back. -/
def Process.allowsServer (daemon : Process ω ε) : ServerAction ε → Bool
  | .requestStop => daemon.signals.loop == .left
  | .closeAll => daemon.signals.loop == .left
  | .handleEvent => daemon.quiet
  | _ => daemon.signals.loop != .registering

/-- `add_task` is called by the server thread in an event, `stop_all_tasks` by the main thread behind
the join, and the threads of the tasks act at any time. -/
def Process.allowsTask (daemon : Process ω ε) : ShutdownAction → Bool
  | .load adder => handlingEvent daemon.server.runner && adder == daemon.calls && daemon.quiet
  | .number _ => handlingEvent daemon.server.runner
  | .create _ _ => handlingEvent daemon.server.runner
  | .insert _ _ => handlingEvent daemon.server.runner
  | .begin _ => true
  | .finish _ => true
  | .leave _ => true
  | _ => daemon.joined

/-- The calls of `add_task` behind an action. -/
def callsAfter (calls : Nat) : ShutdownAction → Nat
  | .load _ => calls + 1
  | _ => calls

/-- One action. -/
def processStep (daemon : Process ω ε) : ProcessAction ε → Option (Process ω ε)
  | .signal action => (signalStep daemon.signals action).map fun signals => { daemon with signals }
  | .server action =>
    if daemon.allowsServer action then
      (serverStep handle closeAll daemon.server action).map fun server => { daemon with server }
    else none
  | .task action =>
    if daemon.allowsTask action then
      (shutdownStep daemon.tasks action).map fun tasks =>
        { daemon with tasks, calls := callsAfter daemon.calls action }
    else none
  | .stopTask id =>
    match handlingEvent daemon.server.runner, daemon.tasks.tasks.lookup id with
    | true, some entry =>
      some { daemon with
        tasks := { daemon.tasks with
          tasks := daemon.tasks.tasks.insert id { entry with stopRequested := true } } }
    | _, _ => none
  | .join =>
    if daemon.server.stopper == .returned && runReturned daemon.server.runner && !daemon.joined then
      some { daemon with joined := true }
    else none

/-- What an action finds and what it leaves behind, case by case. -/
inductive ProcessMove (daemon : Process ω ε) : ProcessAction ε → Process ω ε → Prop
  | signal {action : SignalAction} {signals : Signals}
      (stepped : signalStep daemon.signals action = some signals) :
      ProcessMove daemon (.signal action) { daemon with signals }
  | server {action : ServerAction ε} {server : ServerThreads ω ε}
      (allowed : daemon.allowsServer action = true)
      (stepped : serverStep handle closeAll daemon.server action = some server) :
      ProcessMove daemon (.server action) { daemon with server }
  | task {action : ShutdownAction} {tasks : Shutdown} (allowed : daemon.allowsTask action = true)
      (stepped : shutdownStep daemon.tasks action = some tasks) :
      ProcessMove daemon (.task action)
        { daemon with tasks, calls := callsAfter daemon.calls action }
  | stopTask {id : Bytes} {entry : SharedEntry}
      (handling : handlingEvent daemon.server.runner = true)
      (found : daemon.tasks.tasks.lookup id = some entry) :
      ProcessMove daemon (.stopTask id) { daemon with
        tasks := { daemon.tasks with
          tasks := daemon.tasks.tasks.insert id { entry with stopRequested := true } } }
  | join (stopped : daemon.server.stopper = .returned)
      (ended : runReturned daemon.server.runner = true) (first : daemon.joined = false) :
      ProcessMove daemon .join { daemon with joined := true }

variable {handle closeAll}

theorem processMove_of_step {daemon after : Process ω ε} {action : ProcessAction ε}
    (stepped : processStep handle closeAll daemon action = some after) :
    ProcessMove handle closeAll daemon action after := by
  cases action with
  | signal action =>
    obtain ⟨signals, moved, rfl⟩ := Option.map_eq_some_iff.mp stepped
    exact .signal moved
  | server action =>
    simp only [processStep] at stepped
    split_ifs at stepped with allowed
    obtain ⟨server, moved, rfl⟩ := Option.map_eq_some_iff.mp stepped
    exact .server allowed moved
  | task action =>
    simp only [processStep] at stepped
    split_ifs at stepped with allowed
    obtain ⟨tasks, moved, rfl⟩ := Option.map_eq_some_iff.mp stepped
    exact .task allowed moved
  | stopTask id =>
    simp only [processStep] at stepped
    split at stepped
    · rename_i entry handling found
      cases stepped
      exact .stopTask handling found
    · cases stepped
  | join =>
    simp only [processStep] at stepped
    split_ifs at stepped with ready
    cases stepped
    simp only [Bool.and_eq_true, beq_iff_eq, Bool.not_eq_true'] at ready
    exact .join ready.1.1 ready.1.2 ready.2

/-! ### The order of the threads -/

/-- Where `run` goes on behind `epoll_wait`. -/
def afterWaitResult : WaitResult ε → RunPoint ε
  | .ready events => .next events
  | .interrupted => .testing
  | .failed => .leaving

/-- What an action of `run` or `stop` finds and leaves behind, case by case. -/
inductive ServerMove (handle : ω → ε → ω) (closeAll : ω → ω) (server : ServerThreads ω ε) :
    ServerAction ε → ServerThreads ω ε → Prop
  | enter (here : server.runner = .entering) :
      ServerMove handle closeAll server .enter
        { server with runner := if server.initialized then .starting else .returned false }
  | storeRunning (here : server.runner = .starting) :
      ServerMove handle closeAll server .storeRunning
        { server with running := true, runner := .clearing }
  | clearStop (here : server.runner = .clearing) :
      ServerMove handle closeAll server .clearStop
        { server with stopRequested := false, runner := .testing }
  | test (here : server.runner = .testing) :
      ServerMove handle closeAll server .test
        { server with runner := if !server.stopRequested then .waiting else .leaving }
  | wait {result : WaitResult ε} (here : server.runner = .waiting) :
      ServerMove handle closeAll server (.wait result)
        { server with runner := afterWaitResult result }
  | handleEvent {event : ε} {events : List ε} (here : server.runner = .handling (event :: events)) :
      ServerMove handle closeAll server .handleEvent
        { server with connections := handle server.connections event, runner := .next events }
  | storeStopped (here : server.runner = .leaving) :
      ServerMove handle closeAll server .storeStopped
        { server with running := false, runner := .returning }
  | leave (here : server.runner = .returning) :
      ServerMove handle closeAll server .leave
        { server with runner := .returned (!server.stopRequested) }
  | requestStop (here : server.stopper = .calling) :
      ServerMove handle closeAll server .requestStop
        { server with stopRequested := true, stopper := .closing }
  | closeAll (here : server.stopper = .closing) :
      ServerMove handle closeAll server .closeAll
        { server with connections := closeAll server.connections, stopper := .returned }

theorem serverMove_of_step {server after : ServerThreads ω ε} {action : ServerAction ε}
    (stepped : serverStep handle closeAll server action = some after) :
    ServerMove handle closeAll server action after := by
  cases action with
  | wait result =>
    simp only [serverStep] at stepped
    split at stepped
    all_goals cases stepped
    all_goals rename_i here
    all_goals exact .wait here
  | _ =>
    simp only [serverStep] at stepped
    split at stepped
    · rename_i here
      cases stepped
      constructor
      exact here
    · cases stepped

/-- `run` does not come back twice, it leaves an event only behind its last call, and `stop` is
called once. -/
theorem runner_of_step {server after : ServerThreads ω ε} {action : ServerAction ε}
    (stepped : serverStep handle closeAll server action = some after) :
    (runReturned server.runner = true → after.runner = server.runner) ∧
      (handlingEvent server.runner = true → action = .handleEvent ∨ after.runner = server.runner) ∧
      (server.stopper ≠ .calling → after.stopper ≠ .calling) := by
  cases serverMove_of_step stepped with
  | requestStop | closeAll => exact ⟨fun _ => rfl, fun _ => .inr rfl, fun _ => StopPoint.noConfusion⟩
  | handleEvent here =>
    rw [here]
    exact ⟨fun ended => absurd ended Bool.false_ne_true, fun _ => .inl rfl, id⟩
  | enter here | storeRunning here | clearStop here | test here | wait here | storeStopped here
  | leave here =>
    rw [here]
    exact ⟨fun ended => absurd ended Bool.false_ne_true,
      fun inside => absurd inside Bool.false_ne_true, id⟩

/-- The call of `add_task` that an action belongs to. -/
def adderOf : ShutdownAction → Option Nat
  | .load adder => some adder
  | .number adder => some adder
  | .create adder _ => some adder
  | .insert adder _ => some adder
  | _ => none

theorem moveThread_frame {shutdown after : Shutdown} {id : Bytes} {source target : ThreadPoint}
    {running : Bool} (moved : shutdown.moveThread id source target running = some after) :
    after.adders = shutdown.adders ∧ after.stopper = shutdown.stopper ∧
      after.shutdownRequested = shutdown.shutdownRequested := by
  unfold Shutdown.moveThread at moved
  split at moved
  · cases moved
  · split_ifs at moved
    cases moved
    exact ⟨rfl, rfl, rfl⟩

theorem adders_setAdder (shutdown : Shutdown) (adder : Nat) (point : AddPoint) :
    (shutdown.setAdder adder point).adders adder = point := if_pos rfl

theorem insertEntry_frame (shutdown : Shutdown) (adder : Nat) (id : Bytes) (spawned : Bool) :
    (shutdown.insertEntry adder id spawned).stopper = shutdown.stopper ∧
      (shutdown.insertEntry adder id spawned).shutdownRequested = shutdown.shutdownRequested ∧
      addIdle ((shutdown.insertEntry adder id spawned).adders adder) = true ∧
      ∀ other, other ≠ adder →
        (shutdown.insertEntry adder id spawned).adders other = shutdown.adders other := by
  unfold Shutdown.insertEntry
  split_ifs
  all_goals refine ⟨rfl, rfl, ?_, fun other different => if_neg different⟩
  all_goals rw [adders_setAdder]
  all_goals rfl

/-- An action of one call of `add_task` leaves the other calls alone. -/
theorem adders_of_step {shutdown after : Shutdown} {action : ShutdownAction}
    (stepped : shutdownStep shutdown action = some after) {adder : Nat}
    (other : adderOf action ≠ some adder) : after.adders adder = shutdown.adders adder := by
  have different : ∀ own, adderOf action = some own → adder ≠ own := by
    rintro own mine rfl
    exact other mine
  cases shutdownMove_of_step stepped with
  | load | number | made | null | thrown => exact if_neg (different _ rfl)
  | insert => exact (insertEntry_frame _ _ _ _).2.2.2 adder (different _ rfl)
  | begin moved => rw [(moveThread_frame moved).1]
  | finish moved => rw [(moveThread_frame moved).1]
  | leave moved => rw [(moveThread_frame moved).1]
  | _ => rfl

/-- What `stop_all_tasks` has done is changed by its own actions only. -/
theorem stopper_of_step {shutdown after : Shutdown} {action : ShutdownAction}
    (stepped : shutdownStep shutdown action = some after) {daemon : Process ω ε}
    (allowed : daemon.allowsTask action = true) (early : daemon.joined = false) :
    after.stopper = shutdown.stopper ∧ after.shutdownRequested = shutdown.shutdownRequested := by
  cases shutdownMove_of_step stepped with
  | load | number | made | null | thrown => exact ⟨rfl, rfl⟩
  | insert => exact ⟨(insertEntry_frame _ _ _ _).1, (insertEntry_frame _ _ _ _).2.1⟩
  | begin moved => exact (moveThread_frame moved).2
  | finish moved => exact (moveThread_frame moved).2
  | leave moved => exact (moveThread_frame moved).2
  | _ => exact absurd (early.symm.trans allowed) Bool.false_ne_true

/-- The threads act in the order of `main`. -/
structure Ordered (daemon : Process ω ε) : Prop where
  left : daemon.server.stopper ≠ .calling → daemon.signals.loop = .left
  stopped : daemon.joined = true → daemon.server.stopper ≠ .calling
  ended : daemon.joined = true → runReturned daemon.server.runner = true
  waiting : daemon.joined = false →
    daemon.tasks.stopper = .storing ∧ daemon.tasks.shutdownRequested = false
  adding : handlingEvent daemon.server.runner = false →
    ∀ adder, addIdle (daemon.tasks.adders adder) = true
  fresh : ∀ adder, daemon.calls ≤ adder → daemon.tasks.adders adder = .entering
  last : ∀ adder, addIdle (daemon.tasks.adders adder) = false → adder + 1 = daemon.calls
  covered : Covered daemon.tasks

theorem ordered_start (connections : ω) : Ordered (.start connections : Process ω ε) where
  left away := absurd rfl away
  stopped joined := absurd joined Bool.false_ne_true
  ended joined := absurd joined Bool.false_ne_true
  waiting _ := ⟨rfl, rfl⟩
  adding _ _ := rfl
  fresh _ _ := rfl
  last _ busy := absurd busy.symm Bool.false_ne_true
  covered todo listed := by cases listed

theorem Ordered.idle_of_quiet {daemon : Process ω ε} (ordered : Ordered daemon)
    (quiet : daemon.quiet = true) (adder : Nat) : addIdle (daemon.tasks.adders adder) = true := by
  by_cases begun : adder < daemon.calls
  · exact List.all_eq_true.mp quiet adder (List.mem_range.mpr begun)
  · rw [ordered.fresh adder (Nat.le_of_not_lt begun)]
    rfl

/-- An event is handled before the join. -/
theorem Ordered.early {daemon : Process ω ε} (ordered : Ordered daemon)
    (handling : handlingEvent daemon.server.runner = true) :
    daemon.joined = false := by
  cases joined : daemon.joined with
  | false => rfl
  | true =>
    have ended := ordered.ended joined
    cases here : daemon.server.runner <;> rw [here] at ended handling <;> cases handling
    cases ended

/-- **Step: the signals.** -/
theorem Ordered.signal {daemon : Process ω ε} (ordered : Ordered daemon) {action : SignalAction}
    {signals : Signals} (stepped : signalStep daemon.signals action = some signals) :
    Ordered { daemon with signals } := by
  refine ⟨fun away => ?_, ordered.stopped, ordered.ended, ordered.waiting, ordered.adding,
    ordered.fresh, ordered.last, ordered.covered⟩
  have left := ordered.left away
  -- behind the loop the main thread has no action of this kind
  cases signalMove_of_step stepped with
  | deliver | store | write | load | skip | mark => exact left
  | register here | leave here | enter here | check here | unready here | drained here
  | read here | exchange here | switch here | reset here | sleep here =>
    rw [left] at here
    cases here

/-- **Step: the server.** -/
theorem Ordered.server {daemon : Process ω ε} (ordered : Ordered daemon) {action : ServerAction ε}
    {server : ServerThreads ω ε} (allowed : daemon.allowsServer action = true)
    (stepped : serverStep handle closeAll daemon.server action = some server) :
    Ordered { daemon with server } := by
  obtain ⟨returned, handling, calling⟩ := runner_of_step stepped
  refine ⟨fun away => ?_, fun joined => calling (ordered.stopped joined), fun joined => ?_,
    ordered.waiting, fun outside => ?_, ordered.fresh, ordered.last, ordered.covered⟩
  · cases serverMove_of_step stepped with
    | requestStop => exact beq_iff_eq.mp allowed
    | closeAll => exact beq_iff_eq.mp allowed
    | _ => exact ordered.left away
  · have ended := ordered.ended joined
    rw [returned ended]
    exact ended
  · cases inside : handlingEvent daemon.server.runner with
    | false => exact ordered.adding inside
    | true =>
      rcases handling inside with rfl | same
      · -- the event is over, so its calls have come back
        exact ordered.idle_of_quiet allowed
      · rw [same, inside] at outside
        cases outside

theorem handling_of_allowed {daemon : Process ω ε} {action : ShutdownAction} {own : Nat}
    (allowed : daemon.allowsTask action = true) (mine : adderOf action = some own) :
    handlingEvent daemon.server.runner = true := by
  cases action with
  | load adder =>
    rw [Process.allowsTask, Bool.and_eq_true, Bool.and_eq_true] at allowed
    exact allowed.1.1
  | number | create | insert => exact allowed
  | _ => cases mine

/-- An action of `add_task` begins the next call, when no other is under way, or goes on with one. -/
theorem own_call {daemon : Process ω ε} {action : ShutdownAction} {tasks : Shutdown} {own : Nat}
    (allowed : daemon.allowsTask action = true)
    (stepped : shutdownStep daemon.tasks action = some tasks) (mine : adderOf action = some own) :
    (own = daemon.calls ∧ callsAfter daemon.calls action = daemon.calls + 1 ∧
        daemon.quiet = true) ∨
      (addIdle (daemon.tasks.adders own) = false ∧
        callsAfter daemon.calls action = daemon.calls) := by
  cases shutdownMove_of_step stepped with
  | load =>
    cases mine
    rw [Process.allowsTask, Bool.and_eq_true, Bool.and_eq_true, beq_iff_eq] at allowed
    exact .inl ⟨allowed.1.2, rfl, allowed.2⟩
  | number here | made here | null here | thrown here | insert here =>
    cases mine
    rw [here]
    exact .inr ⟨rfl, rfl⟩
  | _ => cases mine

theorem callsAfter_of_none {calls : Nat} {action : ShutdownAction} (other : adderOf action = none) :
    callsAfter calls action = calls := by
  cases action with
  | load => cases other
  | _ => rfl

/-- **Step: the tasks.** -/
theorem Ordered.task {daemon : Process ω ε} (ordered : Ordered daemon) {action : ShutdownAction}
    {tasks : Shutdown} (allowed : daemon.allowsTask action = true)
    (stepped : shutdownStep daemon.tasks action = some tasks) :
    Ordered { daemon with tasks, calls := callsAfter daemon.calls action } := by
  refine ⟨ordered.left, ordered.stopped, ordered.ended, fun early => ?_, fun outside adder => ?_,
    fun adder later => ?_, fun adder busy => ?_, ordered.covered.step stepped ?_⟩
  · obtain ⟨stopper, flag⟩ := stopper_of_step stepped allowed early
    dsimp only
    rw [stopper, flag]
    exact ordered.waiting early
  · have other : adderOf action ≠ some adder := by
      intro mine
      have inside : handlingEvent daemon.server.runner = true := handling_of_allowed allowed mine
      exact absurd (outside.symm.trans inside) Bool.false_ne_true
    rw [adders_of_step stepped other]
    exact ordered.adding outside adder
  · dsimp only at later ⊢
    by_cases mine : adderOf action = some adder
    · rcases own_call allowed stepped mine with ⟨rfl, counted, -⟩ | ⟨busy, counted⟩
      · omega
      · rw [counted] at later
        rw [ordered.fresh adder later] at busy
        cases busy
    · rw [adders_of_step stepped mine]
      refine ordered.fresh adder ?_
      cases called : adderOf action with
      | none => rwa [callsAfter_of_none called] at later
      | some own =>
        rcases own_call allowed stepped called with ⟨-, counted, -⟩ | ⟨-, counted⟩ <;> omega
  · dsimp only at busy ⊢
    cases called : adderOf action with
    | none =>
      rw [adders_of_step stepped (by simp [called])] at busy
      rw [callsAfter_of_none called]
      exact ordered.last adder busy
    | some own =>
      by_cases mine : own = adder
      · subst mine
        rcases own_call allowed stepped called with ⟨rfl, counted, -⟩ | ⟨already, counted⟩
        · exact counted.symm
        · rw [counted]
          exact ordered.last own already
      · rw [adders_of_step stepped (by rw [called]; exact fun same => mine (Option.some.inj same))]
          at busy
        rcases own_call allowed stepped called with ⟨-, -, quiet⟩ | ⟨-, counted⟩
        · rw [ordered.idle_of_quiet quiet adder] at busy
          cases busy
        · rw [counted]
          exact ordered.last adder busy
  · rintro ⟨adder, spawned, id, rfl, -, late, -⟩
    -- behind the snapshot `run` has come back, and calls nothing
    have early := ordered.early (handling_of_allowed allowed rfl)
    rw [(ordered.waiting early).1] at late
    exact late rfl

/-- **Step.** -/
theorem Ordered.step {daemon after : Process ω ε} (ordered : Ordered daemon)
    {action : ProcessAction ε} (stepped : processStep handle closeAll daemon action = some after) :
    Ordered after := by
  cases processMove_of_step stepped with
  | signal moved => exact ordered.signal moved
  | server allowed moved => exact ordered.server allowed moved
  | task allowed moved => exact ordered.task allowed moved
  | stopTask handling found =>
    refine ⟨ordered.left, ordered.stopped, ordered.ended, ordered.waiting, ordered.adding,
      ordered.fresh, ordered.last, fun todo listed => ?_⟩
    refine forall_lookup_insert (fun other entry _ there => ?_) (.inl rfl)
    exact ordered.covered todo listed other entry there
  | join stopped ended first =>
    have away : daemon.server.stopper ≠ .calling := by
      rw [stopped]
      exact StopPoint.noConfusion
    exact ⟨ordered.left, fun _ => away, fun _ => ended,
      fun early => absurd early.symm Bool.false_ne_true, ordered.adding, ordered.fresh,
      ordered.last, ordered.covered⟩

/-- **Run.** -/
theorem ordered_of_run {connections : ω} {actions : List (ProcessAction ε)}
    {daemon : Process ω ε}
    (ran : run (processStep handle closeAll) (.start connections) actions = some daemon) :
    Ordered daemon := by
  refine run_induction _ _ (motive := fun _ daemon => Ordered daemon) (ordered_start connections)
    ?_ ran
  intro _ _ _ _ _ ordered stepped
  exact ordered.step stepped

/-! ### Shutting down -/

def signalOf : ProcessAction ε → Option SignalAction
  | .signal action => some action
  | _ => none

/-- The signals and the main loop are a part of the daemon. -/
theorem projects_signals :
    Projects (processStep handle closeAll) Process.signals signalOf signalStep where
  moves daemon action after own stepped seen := by
    cases processMove_of_step stepped with
    | signal moved =>
      cases seen
      exact moved
    | _ => cases seen
  stays daemon action after stepped unseen := by
    cases processMove_of_step stepped with
    | signal moved => cases unseen
    | _ => rfl

/-- The main loop is left for a signal that asks for it, and for nothing else. -/
theorem signalled_of_left {connections : ω} {actions : List (ProcessAction ε)}
    {daemon : Process ω ε}
    (ran : run (processStep handle closeAll) (.start connections) actions = some daemon)
    (left : daemon.signals.loop = .left) :
    ∃ handler signal, Signal.shutsDown signal = true ∧
      .signal (.deliver handler signal) ∈ actions ∧ .signal (.store handler) ∈ actions := by
  have ranSignals := projects_signals.run ran
  have faithful := faithful_of_run ranSignals
  obtain ⟨handler, stored⟩ := faithful.handled (faithful.leaving (by rw [left]; rfl))
  obtain ⟨signal, here, shuts⟩ := signal_of_stored stored
  obtain ⟨delivered, stores⟩ := delivered_of_run ranSignals handler
  have shown : ∀ own : SignalAction, own ∈ actions.filterMap signalOf →
      ProcessAction.signal own ∈ actions := by
    intro own member
    obtain ⟨action, among, seen⟩ := List.mem_filterMap.mp member
    cases action with
    | signal other =>
      cases seen
      exact among
    | _ => cases seen
  exact ⟨handler, signal, shuts, shown _ (delivered signal here), shown _ (stores stored)⟩

/-- **No task escapes the shutdown of the daemon.** In every run of all its threads: `stop_all_tasks`
begins only for a `SIGINT` or `SIGTERM`, when `run` has come back and no `add_task` is under way;
when it has come back every task has had its stop requested; and no `add_task` ever finds that a shutdown
was requested. -/
theorem daemon_stops_every_task {connections : ω} {actions : List (ProcessAction ε)}
    {daemon : Process ω ε}
    (ran : run (processStep handle closeAll) (.start connections) actions = some daemon) :
    (daemon.tasks.stopper ≠ .storing →
      (∃ result, daemon.server.runner = .returned result) ∧
      (∀ adder, addIdle (daemon.tasks.adders adder) = true) ∧
      ∃ handler signal, Signal.shutsDown signal = true ∧
        .signal (.deliver handler signal) ∈ actions ∧ .signal (.store handler) ∈ actions) ∧
    (daemon.tasks.stopper = .returned → AllStopped daemon.tasks) ∧
    Along (processStep handle closeAll) (.start connections)
      (fun _ _ action after => ∀ adder, action = .task (.load adder) →
        after.tasks.adders adder = .numbering) actions := by
  have ordered := ordered_of_run ran
  refine ⟨fun begun => ?_, fun returned => ?_, ?_⟩
  · have joined : daemon.joined = true := by
      by_contra early
      exact begun (ordered.waiting (Bool.eq_false_iff.mpr early)).1
    have ended := ordered.ended joined
    have result : ∃ result, daemon.server.runner = .returned result := by
      cases here : daemon.server.runner <;> rw [here] at ended <;> cases ended
      exact ⟨_, rfl⟩
    obtain ⟨result, here⟩ := result
    refine ⟨⟨result, here⟩, ordered.adding (by rw [here]; rfl), signalled_of_left ran ?_⟩
    exact ordered.left (ordered.stopped joined)
  · intro id entry found
    have stopped := ordered.covered [] (by rw [returned]; rfl)
    exact (stopped id entry found).resolve_right List.not_mem_nil
  · rintro before action rest rfl state after ranBefore stepped adder rfl
    have ordered := ordered_of_run ranBefore
    cases processMove_of_step stepped with
    | task allowed moved =>
      have early := ordered.early (handling_of_allowed allowed rfl)
      cases shutdownMove_of_step moved with
      | load here =>
        dsimp only
        rw [adders_setAdder, (ordered.waiting early).2]
        rfl

/-! ### The join -/

/-- The points of `run` from which it comes back without another answer of `epoll_wait`, once `stop`
has returned: those behind the loop, and those in front of the loop condition with the flag still
set. `run` clears the flag on its way in. -/
def RunPoint.endsAlone (stopRequested : Bool) : RunPoint ε → Bool
  | .testing => stopRequested
  | .handling _ => stopRequested
  | .leaving => true
  | .returning => true
  | .returned _ => true
  | _ => false

theorem endsAlone_next (stopRequested : Bool) (events : List ε) :
    RunPoint.endsAlone stopRequested (.next events) = stopRequested := by
  cases events <;> rfl

/-- Everything but an answer of `epoll_wait`. -/
def withoutWait : ProcessAction ε → Prop
  | .server (.wait _) => False
  | _ => True

/-- `run` is on its way into `epoll_wait`. -/
structure Stuck (daemon : Process ω ε) : Prop where
  initialized : daemon.server.initialized = true
  stopped : daemon.server.stopper = .returned
  waits : RunPoint.endsAlone daemon.server.stopRequested daemon.server.runner = false
  joining : daemon.joined = false

/-- **Step: stuck.** -/
theorem Stuck.step {daemon after : Process ω ε} (stuck : Stuck daemon) {action : ProcessAction ε}
    (own : withoutWait action) (stepped : processStep handle closeAll daemon action = some after) :
    Stuck after := by
  cases processMove_of_step stepped with
  | signal moved => exact ⟨stuck.initialized, stuck.stopped, stuck.waits, stuck.joining⟩
  | task allowed moved => exact ⟨stuck.initialized, stuck.stopped, stuck.waits, stuck.joining⟩
  | stopTask handling found => exact ⟨stuck.initialized, stuck.stopped, stuck.waits, stuck.joining⟩
  | join stopped ended first =>
    have waits := stuck.waits
    cases here : daemon.server.runner <;> rw [here] at ended waits <;> cases ended
    cases waits
  | @server action server allowed moved =>
    have waits := stuck.waits
    cases serverMove_of_step moved with
    | wait => exact own.elim
    | requestStop here | closeAll here =>
      rw [stuck.stopped] at here
      cases here
    | storeStopped here | leave here =>
      rw [here] at waits
      cases waits
    | enter here =>
      refine ⟨stuck.initialized, stuck.stopped, ?_, stuck.joining⟩
      dsimp only
      rw [stuck.initialized]
      rfl
    | storeRunning here | clearStop here =>
      exact ⟨stuck.initialized, stuck.stopped, rfl, stuck.joining⟩
    | test here =>
      rw [here] at waits
      have unset : daemon.server.stopRequested = false := waits
      refine ⟨stuck.initialized, stuck.stopped, ?_, stuck.joining⟩
      dsimp only
      rw [unset]
      rfl
    | handleEvent here =>
      rw [here] at waits
      refine ⟨stuck.initialized, stuck.stopped, ?_, stuck.joining⟩
      exact (endsAlone_next _ _).trans waits

/-- The main thread is in the join, and the threads are in order. -/
structure Joining (daemon : Process ω ε) : Prop where
  ordered : Ordered daemon
  stopped : daemon.server.stopper = .returned
  joining : daemon.joined = false

theorem Joining.left {daemon : Process ω ε} (joining : Joining daemon) :
    daemon.signals.loop = .left := by
  refine joining.ordered.left ?_
  rw [joining.stopped]
  exact StopPoint.noConfusion

/-- The threads other than that of `epoll_wait` come to the end of the join. -/
def JoinsAlone (handle : ω → ε → ω) (closeAll : ω → ω) (daemon : Process ω ε) : Prop :=
  Reaches (processStep handle closeAll) withoutWait (fun final => final.joined = true) daemon

section Joining

variable {daemon : Process ω ε} (joining : Joining daemon)

include joining

theorem joinsAlone_returned {result : Bool} (here : daemon.server.runner = .returned result) :
    JoinsAlone handle closeAll daemon := by
  have moved : processStep handle closeAll daemon .join = some { daemon with joined := true } := by
    simp [processStep, joining.stopped, joining.joining, here, runReturned]
  exact Reaches.move .join trivial moved (Reaches.here rfl)

/-- A further action of `run`. -/
theorem joinsAlone_server {server : ServerThreads ω ε} {action : ServerAction ε}
    (stepped : serverStep handle closeAll daemon.server action = some server)
    (own : withoutWait (.server action)) (allowed : daemon.allowsServer action = true)
    (stays : server.stopper = daemon.server.stopper)
    (reaches : Joining { daemon with server } → JoinsAlone handle closeAll { daemon with server }) :
    JoinsAlone handle closeAll daemon := by
  have moved : processStep handle closeAll daemon (.server action)
      = some { daemon with server } := by
    simp only [processStep, allowed, if_true, stepped, Option.map_some]
  refine Reaches.move _ own moved (reaches ⟨joining.ordered.step moved, ?_, joining.joining⟩)
  exact stays.trans joining.stopped

theorem allowsServer_of_left {action : ServerAction ε} (running : daemon.allowsServer action
    = (daemon.signals.loop != .registering)) : daemon.allowsServer action = true := by
  rw [running, joining.left]
  rfl

theorem joinsAlone_returning (here : daemon.server.runner = .returning) :
    JoinsAlone handle closeAll daemon := by
  have stepped : serverStep handle closeAll daemon.server .leave
      = some { daemon.server with runner := .returned (!daemon.server.stopRequested) } := by
    simp only [serverStep, here]
  refine joinsAlone_server joining stepped trivial (allowsServer_of_left joining rfl) rfl ?_
  exact fun next => joinsAlone_returned next rfl

theorem joinsAlone_leaving (here : daemon.server.runner = .leaving) :
    JoinsAlone handle closeAll daemon := by
  have stepped : serverStep handle closeAll daemon.server .storeStopped
      = some { daemon.server with running := false, runner := .returning } := by
    simp only [serverStep, here]
  refine joinsAlone_server joining stepped trivial (allowsServer_of_left joining rfl) rfl ?_
  exact fun next => joinsAlone_returning next rfl

theorem joinsAlone_testing (here : daemon.server.runner = .testing)
    (set : daemon.server.stopRequested = true) : JoinsAlone handle closeAll daemon := by
  have stepped : serverStep handle closeAll daemon.server .test
      = some { daemon.server with runner := .leaving } := by
    simp only [serverStep, here, set]
    rfl
  refine joinsAlone_server joining stepped trivial (allowsServer_of_left joining rfl) rfl ?_
  exact fun next => joinsAlone_leaving next rfl

end Joining

/-- Only the last call of `add_task` can be under way. -/
theorem Ordered.quiet_of_idle {daemon : Process ω ε} (ordered : Ordered daemon) {adder : Nat}
    (last : adder + 1 = daemon.calls) (idle : addIdle (daemon.tasks.adders adder) = true) :
    daemon.quiet = true := by
  refine List.all_eq_true.mpr fun other begun => ?_
  by_contra busy
  have same := ordered.last other (Bool.eq_false_iff.mpr busy)
  obtain rfl : other = adder := by omega
  exact busy idle

/-- The call of `add_task` that is under way comes back, and nothing else of the daemon moves. -/
def Settled (daemon after : Process ω ε) : Prop :=
  after.server = daemon.server ∧ Joining after ∧ after.quiet = true

/-- A further action of `add_task`. -/
theorem settles_task {daemon : Process ω ε} (joining : Joining daemon)
    (handling : handlingEvent daemon.server.runner = true) {action : ShutdownAction}
    {tasks : Shutdown} (stepped : shutdownStep daemon.tasks action = some tasks)
    (allowed : daemon.allowsTask action = handlingEvent daemon.server.runner)
    (counted : callsAfter daemon.calls action = daemon.calls)
    (reaches : Joining { daemon with tasks } →
      Reaches (processStep handle closeAll) withoutWait (Settled daemon) { daemon with tasks }) :
    Reaches (processStep handle closeAll) withoutWait (Settled daemon) daemon := by
  have moved : processStep handle closeAll daemon (.task action)
      = some { daemon with tasks } := by
    simp only [processStep, allowed.trans handling, if_true, stepped, Option.map_some, counted]
  refine Reaches.move (.task action) trivial moved (reaches ⟨?_, joining.stopped, joining.joining⟩)
  exact joining.ordered.step moved

section Settling

variable {daemon : Process ω ε} (joining : Joining daemon)
  (handling : handlingEvent daemon.server.runner = true) {adder : Nat}
  (last : adder + 1 = daemon.calls)

include joining handling last

theorem settles_creating {id : Bytes} (here : daemon.tasks.adders adder = .creating id) :
    Reaches (processStep handle closeAll) withoutWait (Settled daemon) daemon := by
  have stepped : shutdownStep daemon.tasks (.create adder .null)
      = some (daemon.tasks.setAdder adder (.returned [])) := by
    simp only [shutdownStep, here]
  refine settles_task joining handling stepped rfl rfl fun next => Reaches.here ⟨rfl, next, ?_⟩
  refine next.ordered.quiet_of_idle last ?_
  rw [adders_setAdder]
  rfl

theorem settles_numbering (here : daemon.tasks.adders adder = .numbering) :
    Reaches (processStep handle closeAll) withoutWait (Settled daemon) daemon := by
  have stepped : shutdownStep daemon.tasks (.number adder)
      = some ({ daemon.tasks with nextTaskId := daemon.tasks.nextTaskId + 1 }.setAdder adder
        (.creating (TaskManager.taskId daemon.tasks.nextTaskId))) := by
    simp only [shutdownStep, here]
  refine settles_task joining handling stepped rfl rfl fun next => ?_
  exact settles_creating next handling last (adders_setAdder _ _ _)

theorem settles_inserting {id : Bytes} (here : daemon.tasks.adders adder = .inserting id) :
    Reaches (processStep handle closeAll) withoutWait (Settled daemon) daemon := by
  -- `stop_all_tasks`, which would hold the mutex, has not begun
  have stepped : shutdownStep daemon.tasks (.insert adder true)
      = some (daemon.tasks.insertEntry adder id true) := by
    simp only [shutdownStep, here, (joining.ordered.waiting joining.joining).1]
    rfl
  refine settles_task joining handling stepped rfl rfl fun next => Reaches.here ⟨rfl, next, ?_⟩
  exact next.ordered.quiet_of_idle last (insertEntry_frame _ _ _ _).2.2.1

end Settling

/-- **A call of `add_task` comes back on its own.** -/
theorem settles {daemon : Process ω ε} (joining : Joining daemon)
    (handling : handlingEvent daemon.server.runner = true) :
    Reaches (processStep handle closeAll) withoutWait (Settled daemon) daemon := by
  by_cases quiet : daemon.quiet = true
  · exact Reaches.here ⟨rfl, joining, quiet⟩
  · obtain ⟨adder, busy⟩ : ∃ adder, ¬ addIdle (daemon.tasks.adders adder) = true := by
      by_contra none
      refine quiet (List.all_eq_true.mpr fun adder _ => ?_)
      by_contra busy
      exact none ⟨adder, busy⟩
    have last := joining.ordered.last adder (Bool.eq_false_iff.mpr busy)
    cases here : daemon.tasks.adders adder with
    | numbering => exact settles_numbering joining handling last here
    | creating id => exact settles_creating joining handling last here
    | inserting id => exact settles_inserting joining handling last here
    | entering | returned | threw =>
      rw [here] at busy
      exact absurd rfl busy

theorem joinsAlone_handling {daemon : Process ω ε} (joining : Joining daemon) {events : List ε}
    (here : daemon.server.runner = .handling events) (nonempty : events ≠ [])
    (set : daemon.server.stopRequested = true) : JoinsAlone handle closeAll daemon := by
  induction events generalizing daemon with
  | nil => exact absurd rfl nonempty
  | cons event events ih =>
    refine (settles joining (by rw [here]; rfl)).trans ?_
    rintro middle ⟨same, waiting, quiet⟩
    have stepped : serverStep handle closeAll middle.server .handleEvent
        = some { middle.server with
          connections := handle middle.server.connections event, runner := .next events } := by
      simp only [serverStep, same, here]
    refine joinsAlone_server waiting stepped trivial quiet rfl fun next => ?_
    cases events with
    | nil => exact joinsAlone_testing next rfl (by rw [← set, ← same])
    | cons other events => exact ih next rfl (List.cons_ne_nil _ _) (by rw [← set, ← same])

/-- `run` handles events only while there are some, on an initialized server. -/
structure Entered (daemon : Process ω ε) : Prop where
  initialized : daemon.server.initialized = true
  nonempty : daemon.server.runner ≠ .handling []

theorem entered_of_run {connections : ω} {actions : List (ProcessAction ε)}
    {daemon : Process ω ε}
    (ran : run (processStep handle closeAll) (.start connections) actions = some daemon) :
    Entered daemon := by
  have apart : ∀ point : RunPoint ε, handlingEvent point = false → point ≠ .handling [] := by
    rintro point outside rfl
    cases outside
  have next : ∀ events : List ε, RunPoint.next events ≠ .handling [] := by
    rintro (_ | _) same <;> cases same
  refine run_induction _ _ (motive := fun _ daemon => Entered daemon) ⟨rfl, apart _ rfl⟩ ?_ ran
  intro _ action before after _ entered stepped
  cases processMove_of_step stepped with
  | signal | task | stopTask | join => exact ⟨entered.initialized, entered.nonempty⟩
  | server allowed moved =>
    cases serverMove_of_step moved with
    | requestStop | closeAll => exact ⟨entered.initialized, entered.nonempty⟩
    | storeRunning | clearStop | storeStopped | leave => exact ⟨entered.initialized, apart _ rfl⟩
    | handleEvent => exact ⟨entered.initialized, next _⟩
    | @wait result =>
      refine ⟨entered.initialized, ?_⟩
      cases result with
      | ready events => exact next events
      | interrupted => exact apart _ rfl
      | failed => exact apart _ rfl
    | enter =>
      refine ⟨entered.initialized, ?_⟩
      dsimp only
      rw [entered.initialized]
      exact apart _ rfl
    | test =>
      refine ⟨entered.initialized, ?_⟩
      dsimp only
      split_ifs <;> exact apart _ rfl

/-- **`stop` does not wake the server thread.** From every state that the daemon can be in with the
main thread in `serverThread.join()`: the threads come to the end of the join without another answer
of `epoll_wait` if and only if `run` is behind its loop already, or is in front of its loop
condition with the flag set. If it is in `epoll_wait`, or has still to clear the flag, they do
not. -/
theorem joins_alone_iff {connections : ω} {actions : List (ProcessAction ε)} {daemon : Process ω ε}
    (ran : run (processStep handle closeAll) (.start connections) actions = some daemon)
    (stopped : daemon.server.stopper = .returned) (joining : daemon.joined = false) :
    JoinsAlone handle closeAll daemon
      ↔ RunPoint.endsAlone daemon.server.stopRequested daemon.server.runner = true := by
  have entered := entered_of_run ran
  constructor
  · intro reaches
    by_contra waits
    refine not_reaches Stuck
      ⟨entered.initialized, stopped, Bool.eq_false_iff.mpr waits, joining⟩ ?_ ?_ reaches
    · intro before action after own stepped stuck
      exact stuck.step own stepped
    · intro after stuck joined
      exact absurd (stuck.joining.symm.trans joined) Bool.false_ne_true
  · intro ends
    have waiting : Joining daemon := ⟨ordered_of_run ran, stopped, joining⟩
    cases here : daemon.server.runner with
    | testing =>
      rw [here] at ends
      exact joinsAlone_testing waiting here ends
    | handling events =>
      rw [here] at ends
      refine joinsAlone_handling waiting here ?_ ends
      rintro rfl
      exact entered.nonempty here
    | leaving => exact joinsAlone_leaving waiting here
    | returning => exact joinsAlone_returning waiting here
    | returned result => exact joinsAlone_returned waiting here
    | entering | starting | clearing | waiting =>
      rw [here] at ends
      cases ends

end Process

/-- A run in which the server thread comes to `epoll_wait`. -/
def waitingRun : List (ProcessAction Unit) :=
  [.signal .register, .server .enter, .server .storeRunning, .server .clearStop, .server .test]

/-- A `SIGTERM`, up to the join. -/
def sigtermRun : List (ProcessAction Unit) :=
  [.signal (.deliver 0 .sigterm), .signal (.store 0), .signal .test, .server .requestStop,
    .server .closeAll]

/-- An event adds a task, a `SIGTERM` arrives, and the daemon shuts down. -/
theorem daemon_stops_every_task_for_sigterm :
    ∃ daemon : Process Unit Unit, run (processStep (fun _ _ => ()) id) (.start ())
        (waitingRun ++ [.server (.wait (.ready [()])), .task (.load 0), .task (.number 0),
          .task (.create 0 .made), .task (.insert 0 true)] ++ sigtermRun ++ [.server .handleEvent,
          .server .test, .server .storeStopped, .server .leave, .join, .task .storeFlag,
          .task (.snapshot [TaskManager.taskId 0]), .task .find, .task .request,
          .task (.lock [TaskManager.taskId 0]), .task .sample, .task .unlock]) = some daemon ∧
      daemon.tasks.stopper = .returned ∧ AllStopped daemon.tasks := by
  obtain ⟨daemon, ran, returned⟩ := Option.map_eq_some_iff.mp (show (run
      (processStep (fun (_ : Unit) (_ : Unit) => ()) id) (.start ())
      (waitingRun ++ [.server (.wait (.ready [()])), .task (.load 0), .task (.number 0),
        .task (.create 0 .made), .task (.insert 0 true)] ++ sigtermRun ++ [.server .handleEvent,
        .server .test, .server .storeStopped, .server .leave, .join, .task .storeFlag,
        .task (.snapshot [TaskManager.taskId 0]), .task .find, .task .request,
        .task (.lock [TaskManager.taskId 0]), .task .sample, .task .unlock])).map
      (fun daemon => daemon.tasks.stopper) = some .returned by decide +kernel)
  exact ⟨daemon, ran, returned, (daemon_stops_every_task ran).2.1 returned⟩

/-- A `SIGTERM` while the server thread is in `epoll_wait`: the main thread stays in the join. -/
theorem join_waits_for_epoll :
    ∃ daemon : Process Unit Unit, run (processStep (fun _ _ => ()) id) (.start ())
        (waitingRun ++ sigtermRun) = some daemon ∧
      ¬ JoinsAlone (fun _ _ => ()) id daemon := by
  obtain ⟨daemon, ran, state⟩ := Option.map_eq_some_iff.mp (show (run
      (processStep (fun (_ : Unit) (_ : Unit) => ()) id) (.start ())
      (waitingRun ++ sigtermRun)).map (fun daemon => (daemon.server.stopper, daemon.joined,
        RunPoint.endsAlone daemon.server.stopRequested daemon.server.runner))
      = some (.returned, false, false) by decide +kernel)
  simp only [Prod.mk.injEq] at state
  refine ⟨daemon, ran, fun reaches => ?_⟩
  have ends := (joins_alone_iff ran state.1 state.2.1).mp reaches
  exact absurd (state.2.2.symm.trans ends) Bool.false_ne_true

end DemoDaemon.Daemon
