/-
**What the daemon answers**, over whole runs of its server.

* `Tracks.after`: over every list of requests the service follows its ledger.
* `folds_serve`: the state behind the handler is that of the requests it was run on, in order.
* **`daemon_refines_ledger`**: so the daemon follows its ledger in every run of its server.
* **`no_task_reported`**: in no run does a client see a task.
* **`survives_iff`**: the process survives every schedule of the threads of tasks if and only if it
  survives with none of them running, and no request but the last has started one.
-/

import DemoDaemon.Daemon.Ledger
import DemoDaemon.Ipc.ServerTables
import DemoDaemon.Tasks.ListedTasks

namespace DemoDaemon.Daemon

open Foundation DemoDaemon.Ipc DemoDaemon.Tasks

/-! ### Runs of requests -/

section Runs

variable {σ τ : Type} [ITask τ] {types : TaskRegistry σ τ}

/-- A service and its account, if the process goes on. -/
def Tracks (service : Service σ τ) : Option (Ledger σ) → Prop
  | some ledger => ∃ tasking, service.tasking = .ok tasking ∧ Follows ledger tasking
  | none => ∃ fault, service.tasking = .error fault

/-- The service after a list of requests. -/
def Service.after (types : TaskRegistry σ τ) (service : Service σ τ)
    (requests : List RequestMessage) : Service σ τ :=
  requests.foldl (fun service request => (answering types service request).2) service

variable (types) in
/-- **Step.** -/
theorem answering_step {service : Service σ τ} {ledger : Ledger σ}
    (tracks : Tracks service (some ledger)) (request : RequestMessage) :
    (ledger.Safe (service.turns service.served) request ∧
        (answering types service request).1 = .ok ⟨request.id, Cli.resultData
          (ledger.outcome types (service.turns service.served) request).1⟩ ∧
        Tracks (answering types service request).2
          (some (ledger.outcome types (service.turns service.served) request).2)) ∨
      (¬ ledger.Safe (service.turns service.served) request ∧
        Tracks (answering types service request).2 none) := by
  obtain ⟨tasking, alive, follows⟩ := tracks
  have answered := follows.answer types (service.turns service.served) request
  unfold answering
  dsimp only
  rw [alive]
  generalize commandHandler _ _ _ = result at answered ⊢
  cases answered with
  | answered safe kept => exact .inl ⟨safe, rfl, _, rfl, kept⟩
  | ended fatal => exact .inr ⟨fatal, _, rfl⟩

variable (types) in
theorem answering_ended {service : Service σ τ} (ended : Tracks service none)
    (request : RequestMessage) : Tracks (answering types service request).2 none := by
  obtain ⟨fault, closed⟩ := ended
  refine ⟨fault, ?_⟩
  unfold answering
  dsimp only
  rw [closed]
  exact commandHandler_ended types _ _ fault request

theorem Tracks.stays_ended {service : Service σ τ} (ended : Tracks service none)
    (requests : List RequestMessage) : Tracks (service.after types requests) none := by
  induction requests generalizing service with
  | nil => exact ended
  | cons request requests ih => exact ih (answering_ended types ended request)

variable (types) in
/-- **Run.** -/
theorem Tracks.after {service : Service σ τ} {ledger : Ledger σ}
    (tracks : Tracks service (some ledger)) (requests : List RequestMessage) :
    Tracks (service.after types requests)
      (ledger.after types service.turns service.served requests) := by
  induction requests generalizing service ledger with
  | nil => exact tracks
  | cons request requests ih =>
    rw [Ledger.after]
    rcases answering_step types tracks request with ⟨safe, -, kept⟩ | ⟨fatal, ended⟩
    · rw [if_pos safe]
      exact ih kept
    · rw [if_neg fatal]
      exact ended.stays_ended requests

omit [ITask τ] in
theorem tracks_start (outside : σ) (turns : Nat → Turn) :
    Tracks (Service.start outside turns : Service σ τ) (some (.start outside)) :=
  ⟨_, rfl, follows_start outside⟩

variable (types) in
theorem Service.after_turns (service : Service σ τ) (requests : List RequestMessage) :
    (service.after types requests).turns = service.turns ∧
      (service.after types requests).served = service.served + requests.length := by
  induction requests generalizing service with
  | nil => exact ⟨rfl, rfl⟩
  | cons request requests ih =>
    obtain ⟨turns, served⟩ := ih (answering types service request).2
    refine ⟨turns, served.trans ?_⟩
    rw [List.length_cons, Nat.add_comm requests.length 1, ← Nat.add_assoc]
    rfl

/-- What the service answers next, after a list of requests that it has survived. -/
theorem answering_after (outside : σ) (turns : Nat → Turn) (requests : List RequestMessage)
    {ledger : Ledger σ}
    (account : Ledger.after types turns 0 (.start outside) requests = some ledger)
    (request : RequestMessage) :
    (ledger.Safe (turns requests.length) request ∧
        (answering types ((Service.start outside turns).after types requests) request).1
          = .ok ⟨request.id, Cli.resultData
            (ledger.outcome types (turns requests.length) request).1⟩) ∨
      (¬ ledger.Safe (turns requests.length) request ∧ ∃ fault,
        (answering types ((Service.start outside turns).after types requests) request).2.tasking
          = .error fault) := by
  have tracks : Tracks ((Service.start outside turns).after types requests) (some ledger) := by
    rw [← account]
    exact (tracks_start outside turns).after types requests
  obtain ⟨sameTurns, served⟩ :=
    Service.after_turns types (Service.start outside turns) requests
  have turn : ((Service.start outside turns).after types requests).turns
      ((Service.start outside turns).after types requests).served = turns requests.length := by
    rw [sameTurns, served]
    exact congrArg turns (Nat.zero_add _)
  have step := answering_step types tracks request
  rw [turn] at step
  rcases step with ⟨safe, answered, -⟩ | ⟨fatal, ended⟩
  · exact .inl ⟨safe, answered⟩
  · exact .inr ⟨fatal, ended⟩

end Runs

/-! ### Runs of the server -/

section Server

variable {χ : Type} {lib : Nlohmann} {handler : CommandHandler χ}

/-- The state of a server is that of the requests its handler was run on. -/
def Folds (handler : CommandHandler χ) (state : χ) (server : Server χ) : Prop :=
  server.state = server.executed.foldl (fun state request => (handler state request).2) state

variable (lib handler) in
theorem onMessage_state (state : χ) (request : RequestMessage) (session : Session) :
    (onMessage lib handler state request session).2 = (handler state request).2 := by
  unfold onMessage
  rcases handler state request with ⟨error | response, after⟩
  · rfl
  · dsimp only
    split <;> rfl

theorem Folds.onRequest {state : χ} {server : Server χ} (folds : Folds handler state server)
    (request : RequestMessage) : Folds handler state (server.onRequest lib handler request) := by
  unfold Server.onRequest
  cases server.manager.getSessionByFd (routedFd request) with
  | none => exact folds
  | some session =>
    dsimp only
    have ran := onMessage_state lib handler server.state request session
    have more : (server.executed ++ [request]).foldl
        (fun state request => (handler state request).2) state
          = (handler server.state request).2 := by
      rw [List.foldl_append, ← show server.state = _ from folds]
      rfl
    generalize onMessage lib handler server.state request session = result at ran ⊢
    obtain ⟨error | session, after⟩ := result
    · exact ran.trans more.symm
    · exact ran.trans more.symm

theorem Folds.acceptLoop {state : χ} {server : Server χ} (folds : Folds handler state server)
    (maxConnections : Nat) (results : List AcceptResult) :
    Folds handler state (acceptLoop maxConnections results server) := by
  induction results generalizing server with
  | nil => exact folds
  | cons result results ih =>
    cases result with
    | failed errno => exact folds
    | accepted fd flagsRead flagsSet registered =>
      unfold Ipc.acceptLoop
      dsimp only
      split_ifs
      · exact folds
      · exact ih folds
      · exact ih folds
      · exact ih folds

/-- **Step: any event.** -/
theorem Folds.handleEvent {state : χ} {world : World χ} (folds : Folds handler state world.server)
    (recorded : Recorded lib handler world) (maxConnections : Nat) (event : ServerEvent) :
    Folds handler state (handleEvent lib handler maxConnections world event).server := by
  cases event with
  | accept results => exact folds.acceptLoop maxConnections results
  | closeAll => exact folds
  | client event =>
    show Folds handler state (clientEvent lib handler world event).server
    cases found : world.server.manager.getSessionByFd event.fd with
    | none =>
      rw [clientEvent, found]
      exact folds
    | some session =>
      have kept : Kept lib handler session.fd session.id
          fun world => Folds handler state world.server :=
        ⟨fun _ _ _ folds _ _ => folds, fun _ request _ folds => folds.onRequest request⟩
      obtain ⟨middle, -, folded, same | dropped⟩ := kept.clientEvent event found recorded folds
      · rw [same]
        exact folded
      · rw [dropped]
        exact folded

/-- **Run.** -/
theorem folds_serve (maxConnections : Nat) (state : χ) (events : List ServerEvent) :
    Folds handler state (serve lib handler maxConnections state events).server := by
  induction events using List.reverseRecOn with
  | nil => exact rfl
  | append_singleton events event ih =>
    rw [serve_concat]
    exact ih.handleEvent (recorded_serve maxConnections state events) maxConnections event

end Server

/-! ### What clients get -/

section Daemon

variable {σ τ : Type} [ITask τ] (lib : Nlohmann) (types : TaskRegistry σ τ) (maxConnections : Nat)
  (outside : σ) (turns : Nat → Turn)

/-- The server of the daemon after a list of events. -/
def daemonAfter (events : List ServerEvent) : Server (Service σ τ) :=
  (serve lib (answering types) maxConnections (Service.start outside turns) events).server

theorem state_daemonAfter (events : List ServerEvent) :
    (daemonAfter lib types maxConnections outside turns events).state
      = (Service.start outside turns).after types
        (daemonAfter lib types maxConnections outside turns events).executed :=
  folds_serve maxConnections (Service.start outside turns) events

/-- **The daemon follows its ledger.** For every library of task types, every schedule of the
threads of tasks and every run of the server: the process has ended if and only if the requests it
has executed say so; and as long as it has not, the task manager holds the ids of the ledger, the
threads that were started are those of the ledger, and the next request is answered as the ledger
says, or ends the process. -/
theorem daemon_refines_ledger (events : List ServerEvent) :
    let server := daemonAfter lib types maxConnections outside turns events
    match Ledger.after types turns 0 (.start outside) server.executed with
    | none => ∃ fault, server.state.tasking = .error fault
    | some ledger => (∃ tasking, server.state.tasking = .ok tasking ∧
          tasking.manager.tasks.keys = ledger.ids ∧ tasking.manager.nextTaskId = ledger.next ∧
          tasking.started = ledger.started) ∧
        ∀ request, if ledger.Safe (turns server.executed.length) request then
            (answering types server.state request).1 = .ok ⟨request.id, Cli.resultData
              (ledger.outcome types (turns server.executed.length) request).1⟩
          else ∃ fault, (answering types server.state request).2.tasking = .error fault := by
  intro server
  have state : server.state = (Service.start outside turns).after types server.executed :=
    state_daemonAfter lib types maxConnections outside turns events
  have tracks := (tracks_start outside turns).after types server.executed
  rw [← state] at tracks
  change Tracks server.state (Ledger.after types turns 0 (.start outside) server.executed) at tracks
  cases account : Ledger.after types turns 0 (.start outside) server.executed with
  | none =>
    rw [account] at tracks
    exact tracks
  | some ledger =>
    rw [account] at tracks
    obtain ⟨tasking, alive, follows⟩ := tracks
    refine ⟨⟨tasking, alive, follows.ids, follows.next, follows.started⟩, fun request => ?_⟩
    rw [state]
    rcases answering_after outside turns server.executed account request with
      ⟨safe, answered⟩ | ⟨fatal, ended⟩
    · rw [if_pos safe]
      exact answered
    · rw [if_neg fatal]
      exact ended

/-- A required parameter that is missing, or no string, is reported as an error. -/
theorem resultData_of_required {params : Json} {key : Bytes} {ended : Except Exn CommandResult}
    (failed : requiredString params key = .error ended) :
    ∃ code message, Cli.resultData ended = errorData code message := by
  unfold requiredString at failed
  split at failed
  · cases failed
    exact ⟨_, _, rfl⟩
  · split at failed
    · cases failed
      exact ⟨_, _, rfl⟩
    · cases failed

omit [ITask τ] in
/-- A request to stop a task fails. -/
theorem Ledger.outcome_stop (turn : Turn) (ledger : Ledger σ) {request : RequestMessage}
    (stop : request.method = ascii "tasks.stop") :
    ∃ code message, Cli.resultData (ledger.outcome types turn request).1
      = errorData code message := by
  rw [Ledger.outcome, stop]
  cases required : requiredString request.params (ascii "id") with
  | error ended =>
    obtain ⟨code, message, data⟩ := resultData_of_required required
    exact ⟨code, message, data⟩
  | ok id => exact ⟨_, _, rfl⟩

/-- **No client ever sees a task.** In every run of the daemon's server, whatever tasks have been
added, as long as the process goes on: `status` reports no active task, `tasks.list` reports an
empty list, and `tasks.stop` fails. -/
theorem no_task_reported (events : List ServerEvent) (request : RequestMessage)
    {tasking : Tasking σ τ}
    (survives : (answering types (daemonAfter lib types maxConnections outside turns events).state
      request).2.tasking = .ok tasking) :
    let answer := (answering types (daemonAfter lib types maxConnections outside turns events).state
      request).1
    (request.method = ascii "status" → answer = .ok ⟨request.id, statusData (some 0)⟩) ∧
      (request.method = ascii "tasks.list" → answer = .ok ⟨request.id, taskListData []⟩) ∧
      (request.method = ascii "tasks.stop" →
        ∃ code message, answer = .ok ⟨request.id, errorData code message⟩) := by
  rw [state_daemonAfter] at survives ⊢
  generalize (daemonAfter lib types maxConnections outside turns events).executed = requests
    at survives ⊢
  have tracks := (tracks_start outside turns).after types requests
  change Tracks _ (Ledger.after types turns 0 (.start outside) requests) at tracks
  cases account : Ledger.after types turns 0 (.start outside) requests with
  | none =>
    rw [account] at tracks
    obtain ⟨fault, closed⟩ := answering_ended types tracks request
    rw [closed] at survives
    cases survives
  | some ledger =>
    rcases answering_after outside turns requests account request with
      ⟨-, answered⟩ | ⟨-, fault, ended⟩
    · rw [answered]
      refine ⟨fun status => ?_, fun list => ?_, fun stop => ?_⟩
      · rw [Ledger.outcome, status]
        rfl
      · rw [Ledger.outcome, list]
        rfl
      · obtain ⟨code, message, data⟩ :=
          Ledger.outcome_stop types (turns requests.length) ledger stop
        exact ⟨code, message, by rw [data]⟩
    · rw [ended] at survives
      cases survives

end Daemon

/-- No thread of a task gets to run, and `add_task` can start one. -/
def calmTurns : Nat → Turn := fun _ => ⟨[], 0, ⟨0, 0, .ok ()⟩⟩

/-- A registry with one type, and a client that adds a task of it. -/
def oneType : TaskRegistry Counters BuiltinTask :=
  ⟨[(ascii "heartbeat", fun counters _ _ => HeartbeatTask.factory counters 5000)]⟩

def addingClient : List ServerEvent :=
  [.accept [.accepted 5 true true true], .client ⟨5, true, false, .again,
    [.data (ascii "\x7b\"method\":\"tasks.add\",\"id\":5,"),
      .data (ascii "\"params\":\x7b\"type\":\"heartbeat\"\x7d\x7d\n")], []⟩]

/-- A request to stop another task than `task_0`, the one that was added. -/
def stopRequest : RequestMessage :=
  ⟨some 5, ascii "tasks.stop", Json.emptyObject.set (ascii "id") (Json.ofString (ascii "task_1"))⟩

theorem no_task_reported_stop :
    (daemonAfter compact oneType 16 ⟨0, 0⟩ calmTurns addingClient).executed.length = 1 ∧
      ∃ code message, (answering oneType
          (daemonAfter compact oneType 16 ⟨0, 0⟩ calmTurns addingClient).state stopRequest).1
        = .ok ⟨stopRequest.id, errorData code message⟩ := by
  have alive : (answering oneType (daemonAfter compact oneType 16 ⟨0, 0⟩ calmTurns
      addingClient).state stopRequest).2.tasking.isOk = true := by
    decide +kernel
  refine ⟨by decide +kernel, ?_⟩
  cases survives : (answering oneType (daemonAfter compact oneType 16 ⟨0, 0⟩ calmTurns
      addingClient).state stopRequest).2.tasking with
  | error fault =>
    rw [survives] at alive
    cases alive
  | ok tasking =>
    have refused := no_task_reported compact oneType 16 ⟨0, 0⟩ calmTurns addingClient stopRequest
      survives
    exact refused.2.2 rfl

/-! ### Which requests the process survives -/

section Survival

variable {σ τ : Type} {types : TaskRegistry σ τ}

/-- The same turns, with another schedule of the threads of tasks. -/
def scheduled (turns : Nat → Turn) (threads : Nat → List ThreadTurn) : Nat → Turn :=
  fun number => { turns number with threads := threads number }

theorem Ledger.after_append (turns : Nat → Turn) (served : Nat) (ledger : Ledger σ)
    (earlier later : List RequestMessage) :
    ledger.after types turns served (earlier ++ later)
      = (ledger.after types turns served earlier).bind fun between =>
        between.after types turns (served + earlier.length) later := by
  induction earlier generalizing served ledger with
  | nil => rfl
  | cons request earlier ih =>
    rw [List.cons_append, Ledger.after, Ledger.after]
    split_ifs with safe
    · rw [ih, List.length_cons, Nat.add_comm earlier.length 1, ← Nat.add_assoc]
    · rfl

theorem Ledger.started_add (answers : TaskManager.AddAnswers) (ledger : Ledger σ) (type : Bytes)
    (params : Json) :
    (ledger.add types answers type params).2.started = ledger.started ∨
      (ledger.add types answers type params).2.started
        = TaskManager.taskId ledger.next :: ledger.started := by
  unfold Ledger.add
  dsimp only
  generalize types.createTask ledger.outside type (TaskManager.taskId ledger.next) params = made
  obtain ⟨error | ⟨_ | value⟩, outside⟩ := made
  · exact .inl rfl
  · exact .inl rfl
  · dsimp only
    split_ifs
    · exact .inl rfl
    · cases answers.spawned with
      | error error => exact .inl rfl
      | ok done => exact .inr rfl

/-- Threads are only added. -/
theorem Ledger.started_outcome {turn : Turn} {ledger : Ledger σ} {request : RequestMessage}
    (none : (ledger.outcome types turn request).2.started = []) : ledger.started = [] := by
  unfold Ledger.outcome at none
  split_ifs at none
  · exact none
  · exact none
  · exact none
  · exact none
  · exact none
  · split at none
    · exact none
    · rcases Ledger.started_add turn.add ledger _ request.params with same | more
      · exact same.symm.trans none
      · cases more.symm.trans none
  · split at none <;> exact none
  · exact none

theorem Ledger.started_after {turns : Nat → Turn} {served : Nat} {ledger final : Ledger σ}
    {requests : List RequestMessage}
    (account : ledger.after types turns served requests = some final) (none : final.started = []) :
    ledger.started = [] := by
  induction requests generalizing served ledger with
  | nil =>
    cases account
    exact none
  | cons request requests ih =>
    rw [Ledger.after] at account
    split_ifs at account
    exact Ledger.started_outcome (ih account)

/-- While no thread has been started, a request is safe under every schedule or under none. -/
theorem Ledger.Safe.scheduled {turns : Nat → Turn} {threads : Nat → List ThreadTurn} {number : Nat}
    {ledger : Ledger σ} {request : RequestMessage}
    (safe : ledger.Safe (scheduled turns threads number) request) (none : ledger.started = [])
    (others : Nat → List ThreadTurn) : ledger.Safe (Daemon.scheduled turns others number) request :=
  ⟨fun thread _ => by simp [none], safe.status, safe.list, safe.stop⟩

/-- A run that has started no thread does not depend on the schedule. -/
theorem Ledger.after_scheduled {turns : Nat → Turn} {served : Nat} {ledger final : Ledger σ}
    {requests : List RequestMessage} {threads : Nat → List ThreadTurn}
    (account : ledger.after types (scheduled turns threads) served requests = some final)
    (none : final.started = []) (others : Nat → List ThreadTurn) :
    ledger.after types (scheduled turns others) served requests = some final := by
  induction requests generalizing served ledger with
  | nil => exact account
  | cons request requests ih =>
    have empty := Ledger.started_after account none
    rw [Ledger.after] at account
    split_ifs at account with safe
    rw [Ledger.after, if_pos (safe.scheduled empty others)]
    exact ih account

/-- A run depends on the schedule of its own turns only. -/
theorem Ledger.after_congr {turns others : Nat → Turn} {served : Nat} {ledger : Ledger σ}
    {requests : List RequestMessage}
    (same : ∀ number, number < served + requests.length → turns number = others number) :
    ledger.after types turns served requests = ledger.after types others served requests := by
  induction requests generalizing served ledger with
  | nil => rfl
  | cons request requests ih =>
    have here : turns served = others served := by
      refine same served ?_
      rw [List.length_cons]
      omega
    rw [Ledger.after, Ledger.after, here]
    refine if_congr Iff.rfl (ih fun number bound => same number ?_) rfl
    rw [List.length_cons]
    omega

variable [ITask τ]

/-- The process goes on exactly when the ledger does. -/
theorem alive_iff (outside : σ) (turns : Nat → Turn) (requests : List RequestMessage) :
    (∃ tasking, ((Service.start outside turns).after types requests).tasking = .ok tasking)
      ↔ ∃ ledger, Ledger.after types turns 0 (.start outside) requests = some ledger := by
  have tracks := (tracks_start outside turns).after types requests
  change Tracks _ (Ledger.after types turns 0 (.start outside) requests) at tracks
  cases account : Ledger.after types turns 0 (.start outside) requests with
  | none =>
    rw [account] at tracks
    obtain ⟨fault, closed⟩ := tracks
    constructor
    · rintro ⟨tasking, alive⟩
      rw [closed] at alive
      cases alive
    · rintro ⟨ledger, some⟩
      cases some
  | some ledger =>
    rw [account] at tracks
    obtain ⟨tasking, alive, -⟩ := tracks
    exact ⟨fun _ => ⟨ledger, rfl⟩, fun _ => ⟨tasking, alive⟩⟩

/-- **Only a daemon that has started no thread is safe from its threads.** For every list of
requests: the process survives them under every schedule of the threads of tasks if and only if it
survives them with no thread running, and those before the last one have started none. -/
theorem survives_iff (outside : σ) (turns : Nat → Turn) (earlier : List RequestMessage)
    (last : RequestMessage) :
    (∀ threads, ∃ tasking, ((Service.start outside (scheduled turns threads)).after types
        (earlier ++ [last])).tasking = .ok tasking)
      ↔ ∃ ledger, Ledger.after types (scheduled turns fun _ => []) 0 (.start outside) earlier
          = some ledger ∧ ledger.started = [] ∧
        ledger.Safe (scheduled turns (fun _ => []) earlier.length) last := by
  simp only [alive_iff, Ledger.after_append, Nat.zero_add]
  constructor
  · intro survives
    obtain ⟨final, quiet⟩ := survives fun _ => []
    obtain ⟨ledger, account, ended⟩ := Option.bind_eq_some_iff.mp quiet
    have safe : ledger.Safe (scheduled turns (fun _ => []) earlier.length) last := by
      rw [Ledger.after] at ended
      split_ifs at ended with safe
      exact safe
    refine ⟨ledger, account, ?_, safe⟩
    by_contra given
    obtain ⟨id, rest, started⟩ := List.exists_cons_of_ne_nil given
    -- the thread started last runs just before the last request
    let late : Nat → List ThreadTurn := fun number =>
      if number = earlier.length then [⟨id, 0, 0⟩] else []
    obtain ⟨final, ran⟩ := survives late
    obtain ⟨other, same, last⟩ := Option.bind_eq_some_iff.mp ran
    have before : Ledger.after types (scheduled turns late) 0 (.start outside) earlier
        = Ledger.after types (scheduled turns fun _ => []) 0 (.start outside) earlier := by
      refine Ledger.after_congr fun number bound => ?_
      have early : number ≠ earlier.length := by omega
      simp only [scheduled, late, if_neg early]
    rw [before, account] at same
    cases same
    rw [Ledger.after] at last
    split_ifs at last with runs
    refine runs.threads ⟨id, 0, 0⟩ ?_ ?_
    · simp [scheduled, late]
    · rw [started]
      exact List.mem_cons_self
  · rintro ⟨ledger, account, none, safe⟩ threads
    refine ⟨(ledger.outcome types (scheduled turns threads earlier.length) last).2, ?_⟩
    rw [Ledger.after_scheduled account none threads, Option.bind_some, Ledger.after,
      if_pos (safe.scheduled none threads)]
    rfl

/-- An entry whose thread could not be started: there is none to run before the `ping`. -/
example :
    let turns : Nat → Turn := fun _ => ⟨[⟨ascii "task_0", 0, 0⟩], 0, ⟨0, 0, .error ⟨[]⟩⟩⟩
    let add : RequestMessage := ⟨none, ascii "tasks.add",
      Json.emptyObject.set (ascii "type") (Json.ofString (ascii "heartbeat"))⟩
    ((Service.start ⟨0, 0⟩ turns).after oneType [add, ⟨none, ascii "ping", Json.null⟩]).tasking.isOk
      = true := by
  decide +kernel

end Survival

end DemoDaemon.Daemon
