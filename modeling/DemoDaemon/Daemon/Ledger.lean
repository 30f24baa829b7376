/-
**What the daemon answers to one request.**

The command handler, the commands and the task manager are put together (`answering`). Between two
requests any of the detached threads that have been started may get to run.

* `Ledger`: an account of the service without any task in it: the ids of the entries, those whose
  thread has been started, the next number, and what the factories work on. `Ledger.outcome` says
  how a request ends, and `Ledger.Safe` which requests the process survives.
* `Follows`: the task manager that a ledger is the account of. Every pointer in it is null.
* **`Follows.answer`**: one request is answered as the ledger says, or ends the process.
-/

import DemoDaemon.Cli.TaskResults
import DemoDaemon.Daemon.Commands
import DemoDaemon.Tasks.TaskStore

namespace DemoDaemon.Daemon

open Foundation DemoDaemon.Ipc DemoDaemon.Tasks

/-! ### The service -/

section Model

variable {σ τ : Type} [ITask τ]

/-- A detached thread gets to run: the id of its entry, and its readings of the clock. -/
structure ThreadTurn where
  id : Bytes
  startedAt : Int
  stoppedAt : Int

/-- What happens around one call of the command handler: the threads that run before it, and what
its commands read from outside. -/
structure Turn where
  threads : List ThreadTurn
  time : Int64
  add : TaskManager.AddAnswers

/-- A thread runs if it has been started, and once. -/
def Tasking.runThread (tasking : Tasking σ τ) (thread : ThreadTurn) : Except Fault (Tasking σ τ) :=
  if thread.id ∈ tasking.started then do
    let manager ← tasking.manager.runTask thread.id thread.startedAt thread.stoppedAt
    return ⟨manager, tasking.started.erase thread.id⟩
  else .ok tasking

def runThreads (tasking : Tasking σ τ) (threads : List ThreadTurn) : Except Fault (Tasking σ τ) :=
  threads.foldlM Tasking.runThread tasking

/-- What the command handler of `main` works on. -/
structure Service (σ τ : Type) where
  tasking : TaskingOrFault σ τ
  /-- What happens around each call to come. -/
  turns : Nat → Turn
  served : Nat

def Service.start (outside : σ) (turns : Nat → Turn) : Service σ τ :=
  ⟨.ok ⟨.start outside, []⟩, turns, 0⟩

/-- The command handler, with the threads of tasks beside it. -/
def answering (types : TaskRegistry σ τ) : CommandHandler (Service σ τ) :=
  fun service request =>
    let turn := service.turns service.served
    let tasking := service.tasking.bind fun tasking => runThreads tasking turn.threads
    let answered := commandHandler (daemonRegistry types turn.time turn.add) tasking request
    (answered.1, { service with tasking := answered.2, served := service.served + 1 })

end Model

/-! ### The ledger -/

/-- The service as its clients can tell it. -/
@[ext]
structure Ledger (σ : Type) where
  /-- The ids of the entries, the last one first. -/
  ids : List Bytes
  /-- The ids of those whose thread has been started. -/
  started : List Bytes
  next : UInt64
  outside : σ

section Ledger

variable {σ τ : Type}

def Ledger.start (outside : σ) : Ledger σ := ⟨[], [], 0, outside⟩

/-- `tasks.add`: a number is used up, and an entry made if the factory makes a task. -/
def Ledger.add (types : TaskRegistry σ τ) (answers : TaskManager.AddAnswers) (ledger : Ledger σ)
    (type : Bytes) (params : Json) : Except Exn CommandResult × Ledger σ :=
  let id := TaskManager.taskId ledger.next
  let failed := CommandResult.err (-32000)
    (ascii "Failed to add task: unknown type or invalid params")
  match types.createTask ledger.outside type id params with
  | (.error error, outside) => (.error error, { ledger with next := ledger.next + 1, outside })
  | (.ok none, outside) => (.ok failed, { ledger with next := ledger.next + 1, outside })
  | (.ok (some _), outside) =>
    if id ∈ ledger.ids then (.ok failed, { ledger with next := ledger.next + 1, outside })
    else
      match answers.spawned with
      | .error error =>
        (.error error, ⟨id :: ledger.ids, ledger.started, ledger.next + 1, outside⟩)
      | .ok _ =>
        (.ok (.ok (((Json.emptyObject.set (ascii "id") (Json.ofString id)).set (ascii "type")
          (Json.ofString type)).set (ascii "status") (Json.ofString (ascii "started")))),
          ⟨id :: ledger.ids, id :: ledger.started, ledger.next + 1, outside⟩)

/-- How a request ends. There is never a task to count, to list or to stop. -/
def Ledger.outcome (types : TaskRegistry σ τ) (turn : Turn) (ledger : Ledger σ)
    (request : RequestMessage) : Except Exn CommandResult × Ledger σ :=
  if request.method = ascii "ping" then (.ok (.ok (pingData turn.time)), ledger)
  else if request.method = ascii "status" then (.ok (.ok (statusData (some 0))), ledger)
  else if request.method = ascii "shutdown" then (.ok (.ok shutdownData), ledger)
  else if request.method = ascii "commands.list" then (.ok (.ok commandsListData), ledger)
  else if request.method = ascii "tasks.list" then (.ok (.ok (taskListData [])), ledger)
  else if request.method = ascii "tasks.add" then
    match requiredString request.params (ascii "type") with
    | .error ended => (ended, ledger)
    | .ok type => ledger.add types turn.add type request.params
  else if request.method = ascii "tasks.stop" then
    match requiredString request.params (ascii "id") with
    | .error ended => (ended, ledger)
    | .ok id => (.ok (.err (-32001) (ascii "Task not found or already stopped: " ++ id)), ledger)
  else (.ok (.err (-32601) (ascii "Method not found: " ++ request.method)), ledger)

/-- No thread of a task runs before the request, and its command follows the pointer of no entry. -/
structure Ledger.Safe (turn : Turn) (ledger : Ledger σ) (request : RequestMessage) : Prop where
  threads : ∀ thread ∈ turn.threads, thread.id ∉ ledger.started
  status : request.method = ascii "status" → ledger.ids = []
  list : request.method = ascii "tasks.list" → ledger.ids = []
  stop : request.method = ascii "tasks.stop" →
    ∀ id ∈ ledger.ids, (requiredString request.params (ascii "id")).toOption ≠ some id

instance (turn : Turn) (ledger : Ledger σ) (request : RequestMessage) :
    Decidable (ledger.Safe turn request) :=
  decidable_of_iff ((∀ thread ∈ turn.threads, thread.id ∉ ledger.started) ∧
      (request.method = ascii "status" → ledger.ids = []) ∧
      (request.method = ascii "tasks.list" → ledger.ids = []) ∧
      (request.method = ascii "tasks.stop" →
        ∀ id ∈ ledger.ids, (requiredString request.params (ascii "id")).toOption ≠ some id))
    ⟨fun safe => ⟨safe.1, safe.2.1, safe.2.2.1, safe.2.2.2⟩,
      fun safe => ⟨safe.threads, safe.status, safe.list, safe.stop⟩⟩

/-- The ledger after a list of requests; `none` when one of them has ended the process. -/
def Ledger.after (types : TaskRegistry σ τ) (turns : Nat → Turn) (served : Nat) (ledger : Ledger σ) :
    List RequestMessage → Option (Ledger σ)
  | [] => some ledger
  | request :: requests =>
    if ledger.Safe (turns served) request then
      (ledger.outcome types (turns served) request).2.after types turns (served + 1) requests
    else none

end Ledger

/-! ### Null pointers -/

section Null

variable {σ τ : Type} [ITask τ] {manager : TaskManager σ τ}

theorem stopTask_absent {id : Bytes} (absent : id ∉ manager.tasks) :
    manager.stopTask id = .ok (false, manager) := by
  rw [TaskManager.stopTask, AList.lookup_eq_none.mpr absent]

omit [ITask τ] in
theorem exists_null (null : AllNull manager) {id : Bytes} (present : id ∈ manager.tasks) :
    ∃ entry, manager.tasks.lookup id = some entry ∧ entry.task = none := by
  obtain ⟨entry, found⟩ := Option.isSome_iff_exists.mp (AList.lookup_isSome.mpr present)
  exact ⟨entry, found, null id entry found⟩

theorem runTask_null (null : AllNull manager) {id : Bytes} (present : id ∈ manager.tasks)
    (startedAt stoppedAt : Int) :
    manager.runTask id startedAt stoppedAt = .error .nullDereference := by
  obtain ⟨entry, found, empty⟩ := exists_null null present
  simp only [TaskManager.runTask, found, TaskManager.runEntry, empty, UniquePtr.deref]
  rfl

theorem stopTask_null (null : AllNull manager) {id : Bytes} (present : id ∈ manager.tasks) :
    manager.stopTask id = .error .nullDereference := by
  obtain ⟨entry, found, empty⟩ := exists_null null present
  simp only [TaskManager.stopTask, found, empty, UniquePtr.deref]
  rfl

/-- **The threads of tasks** follow a null pointer as soon as one that was started gets to run. -/
theorem runThreads_eq {tasking : Tasking σ τ} (null : AllNull tasking.manager)
    (kept : ∀ id ∈ tasking.started, id ∈ tasking.manager.tasks) (threads : List ThreadTurn) :
    ((∀ thread ∈ threads, thread.id ∉ tasking.started) ∧
        runThreads tasking threads = .ok tasking) ∨
      ((∃ thread ∈ threads, thread.id ∈ tasking.started) ∧
        runThreads tasking threads = .error .nullDereference) := by
  induction threads with
  | nil => exact .inl ⟨fun thread member => absurd member List.not_mem_nil, rfl⟩
  | cons thread threads ih =>
    rw [runThreads, List.foldlM_cons, Tasking.runThread]
    by_cases started : thread.id ∈ tasking.started
    · refine .inr ⟨⟨thread, List.mem_cons_self, started⟩, ?_⟩
      rw [if_pos started, runTask_null null (kept _ started)]
      rfl
    · rw [if_neg started]
      rcases ih with ⟨none, ran⟩ | ⟨⟨other, member, here⟩, ended⟩
      · exact .inl ⟨List.forall_mem_cons.mpr ⟨started, none⟩, ran⟩
      · exact .inr ⟨⟨other, List.mem_cons_of_mem thread member, here⟩, ended⟩

omit [ITask τ] in
/-- What asks every entry for its task finds a null pointer, unless there is no entry. -/
theorem mapM_null {β : Type} (null : AllNull manager)
    (ask : TaskEntry τ → Except Fault β)
    (follows : ∀ entry : TaskEntry τ, entry.task = none → ask entry = .error .nullDereference) :
    (manager.tasks.keys = [] ∧ manager.tasks.entries.mapM (fun entry => ask entry.2) = .ok []) ∨
      (manager.tasks.keys ≠ [] ∧
        manager.tasks.entries.mapM (fun entry => ask entry.2) = .error .nullDereference) := by
  cases entries : manager.tasks.entries with
  | nil => exact .inl ⟨by rw [AList.keys, entries]; rfl, rfl⟩
  | cons entry rest =>
    refine .inr ⟨by rw [AList.keys, entries]; exact List.cons_ne_nil _ _, ?_⟩
    have found : manager.tasks.lookup entry.1 = some entry.2 := by
      rw [AList.mem_lookup_iff.mpr]
      rw [entries]
      exact List.mem_cons_self
    rw [List.mapM_cons, follows entry.2 (null entry.1 entry.2 found)]
    rfl

end Null

/-! ### One request -/

section Step

variable {σ τ : Type}

/-- The task manager that a ledger is the account of, with its threads. -/
structure Follows (ledger : Ledger σ) (tasking : Tasking σ τ) : Prop where
  null : AllNull tasking.manager
  accepting : tasking.manager.shutdownRequested = false
  ids : tasking.manager.tasks.keys = ledger.ids
  next : tasking.manager.nextTaskId = ledger.next
  outside : tasking.manager.outside = ledger.outside
  started : tasking.started = ledger.started
  /-- A thread that was started has its entry. -/
  kept : ∀ id ∈ ledger.started, id ∈ ledger.ids

theorem follows_start (outside : σ) :
    Follows (.start outside) (⟨.start outside, []⟩ : Tasking σ τ) :=
  ⟨allNull_start outside, rfl, AList.keys_empty, rfl, rfl, rfl,
    fun _ member => absurd member List.not_mem_nil⟩

theorem Follows.mem_iff {ledger : Ledger σ} {tasking : Tasking σ τ}
    (follows : Follows ledger tasking) (id : Bytes) :
    id ∈ tasking.manager.tasks ↔ id ∈ ledger.ids := by
  rw [← follows.ids]
  exact Iff.rfl

/-- What `tasks.add` makes of what `add_task` returns. -/
def addedResult (type : Bytes) : Except Exn Bytes → Except Exn CommandResult
  | .error error => .error error
  | .ok id =>
    if id.isEmpty then
      .ok (.err (-32000) (ascii "Failed to add task: unknown type or invalid params"))
    else
      .ok (.ok (((Json.emptyObject.set (ascii "id") (Json.ofString id)).set (ascii "type")
        (Json.ofString type)).set (ascii "status") (Json.ofString (ascii "started"))))

theorem detached_taskId (number : UInt64) :
    detached (.ok (TaskManager.taskId number)) = [TaskManager.taskId number] :=
  rfl

/-- **`add_task`** makes an entry, and starts a thread, exactly when the ledger does. -/
theorem Follows.addTask {ledger : Ledger σ} {tasking : Tasking σ τ}
    (follows : Follows ledger tasking) (types : TaskRegistry σ τ) (type : Bytes) (params : Json)
    (answers : TaskManager.AddAnswers) :
    (ledger.add types answers type params).1
        = addedResult type (tasking.addTask types type params answers).1 ∧
      Follows (ledger.add types answers type params).2
        (tasking.addTask types type params answers).2 := by
  have null := follows.null.addTask types type params answers
  unfold Ledger.add Tasking.addTask TaskManager.addTask at *
  simp only [follows.accepting, Bool.false_eq_true, if_false, follows.next, follows.outside]
    at null ⊢
  rcases created : types.createTask ledger.outside type (TaskManager.taskId ledger.next) params
    with ⟨error | ⟨_ | value⟩, outside⟩
  · rw [created] at null
    exact ⟨rfl, null, rfl, follows.ids, rfl, rfl, follows.started, follows.kept⟩
  · rw [created] at null
    exact ⟨rfl, null, rfl, follows.ids, rfl, rfl, follows.started, follows.kept⟩
  · rw [created] at null
    dsimp only [TaskManager.insertTask] at null ⊢
    by_cases given : TaskManager.taskId ledger.next ∈ ledger.ids
    · obtain ⟨entry, found⟩ := Option.isSome_iff_exists.mp
        (AList.lookup_isSome.mpr ((follows.mem_iff _).mpr given))
      rw [found] at null ⊢
      rw [if_pos given]
      exact ⟨rfl, null, rfl, follows.ids, rfl, rfl, follows.started, follows.kept⟩
    · have absent : TaskManager.taskId ledger.next ∉ tasking.manager.tasks :=
        fun present => given ((follows.mem_iff _).mp present)
      rw [AList.lookup_eq_none.mpr absent] at null ⊢
      rw [if_neg given]
      have ids : ∀ entry, (tasking.manager.tasks.insert (TaskManager.taskId ledger.next) entry).keys
          = TaskManager.taskId ledger.next :: ledger.ids := by
        intro entry
        rw [AList.keys, AList.entries_insert_of_notMem absent]
        exact congrArg (List.cons _) follows.ids
      have kept : ∀ id ∈ ledger.started, id ∈ TaskManager.taskId ledger.next :: ledger.ids :=
        fun id member => List.mem_cons_of_mem _ (follows.kept id member)
      cases spawned : answers.spawned with
      | error error =>
        rw [spawned] at null
        exact ⟨rfl, null, rfl, ids _, rfl, rfl, follows.started, kept⟩
      | ok done =>
        rw [spawned] at null
        refine ⟨rfl, null, rfl, ids _, rfl, rfl, ?_, ?_⟩
        · rw [detached_taskId, follows.started]
          rfl
        · exact List.forall_mem_cons.mpr ⟨List.mem_cons_self, kept⟩

variable [ITask τ]

theorem Follows.activeCount {ledger : Ledger σ} {tasking : Tasking σ τ}
    (follows : Follows ledger tasking) :
    (ledger.ids = [] ∧ tasking.manager.activeCount = .ok 0) ∨
      (ledger.ids ≠ [] ∧ tasking.manager.activeCount = .error .nullDereference) := by
  have asked := mapM_null follows.null
    (fun entry => do
      let object ← entry.task.deref
      return ITask.state object.value)
    (fun entry empty => by rw [empty]; rfl)
  rw [follows.ids] at asked
  rcases asked with ⟨empty, all⟩ | ⟨some, fault⟩
  · refine .inl ⟨empty, ?_⟩
    rw [TaskManager.activeCount, all]
    rfl
  · refine .inr ⟨some, ?_⟩
    rw [TaskManager.activeCount, fault]
    rfl

theorem Follows.listTasks {ledger : Ledger σ} {tasking : Tasking σ τ}
    (follows : Follows ledger tasking) :
    (ledger.ids = [] ∧ tasking.manager.listTasks = .ok []) ∨
      (ledger.ids ≠ [] ∧ tasking.manager.listTasks = .error .nullDereference) := by
  have asked := mapM_null follows.null TaskManager.infoOf (fun entry empty => by
    rw [TaskManager.infoOf, empty]
    rfl)
  rw [follows.ids] at asked
  rcases asked with ⟨empty, all⟩ | ⟨some, fault⟩
  · refine .inl ⟨empty, ?_⟩
    rw [TaskManager.listTasks, all]
    exact congrArg Except.ok List.mergeSort_nil
  · refine .inr ⟨some, ?_⟩
    rw [TaskManager.listTasks, fault]
    rfl

theorem Follows.stopTask {ledger : Ledger σ} {tasking : Tasking σ τ}
    (follows : Follows ledger tasking) (id : Bytes) :
    (id ∉ ledger.ids ∧ tasking.stopTask id = .ok (false, tasking)) ∨
      (id ∈ ledger.ids ∧ tasking.stopTask id = .error .nullDereference) := by
  rw [Tasking.stopTask]
  by_cases present : id ∈ ledger.ids
  · refine .inr ⟨present, ?_⟩
    rw [stopTask_null follows.null ((follows.mem_iff id).mpr present)]
    rfl
  · refine .inl ⟨present, ?_⟩
    rw [stopTask_absent fun here => present ((follows.mem_iff id).mp here)]
    rfl

/-- The methods of the daemon. -/
theorem getCommand_daemonRegistry (types : TaskRegistry σ τ) (time : Int64)
    (answers : TaskManager.AddAnswers) (method : Bytes) :
    (daemonRegistry types time answers).getCommand method
      = if method = ascii "tasks.stop" then some (tasksStopCommand (processOperations types answers))
        else if method = ascii "tasks.add" then
          some (tasksAddCommand (processOperations types answers))
        else if method = ascii "tasks.list" then
          some (needing TaskManager.listTasks fun tasks => tasksListCommand fun _ => tasks)
        else if method = ascii "commands.list" then some ⟨CommandsListCommand.execute⟩
        else if method = ascii "shutdown" then some ⟨ShutdownCommand.execute⟩
        else if method = ascii "status" then
          some (needing TaskManager.activeCount fun count => ⟨StatusCommand.execute (some count)⟩)
        else if method = ascii "ping" then some ⟨PingCommand.execute time⟩
        else none := by
  unfold daemonRegistry
  simp only [getCommand_registerCommand]
  rfl

/-- The handler, for a method that has a command. -/
theorem commandHandler_found {χ : Type} {registry : CommandRegistry χ} {request : RequestMessage}
    {command : Command χ} (found : registry.getCommand request.method = some command)
    {state after : χ} {outcome : Except Exn CommandResult}
    (executed : command.execute state request.params = (outcome, after)) :
    commandHandler registry state request
      = (.ok ⟨request.id, Cli.resultData outcome⟩, after) := by
  have first := Cli.commandHandler_result found state
  have second : (commandHandler registry state request).2 = after := by
    simp only [commandHandler, found, executed]
    cases outcome with
    | error error => rfl
    | ok result =>
      dsimp only
      split_ifs <;> rfl
  rw [executed] at first
  exact Prod.ext first second

/-- How the handler answers, and what the task manager is then. -/
inductive Answered (types : TaskRegistry σ τ) (turn : Turn) (ledger : Ledger σ)
    (request : RequestMessage) : Except Exn ResponseMessage × TaskingOrFault σ τ → Prop
  | answered {after : Tasking σ τ} (safe : ledger.Safe turn request)
      (follows : Follows (ledger.outcome types turn request).2 after) :
      Answered types turn ledger request
        (.ok ⟨request.id, Cli.resultData (ledger.outcome types turn request).1⟩, .ok after)
  | ended {response : Except Exn ResponseMessage} {fault : Fault}
      (fatal : ¬ ledger.Safe turn request) :
      Answered types turn ledger request (response, .error fault)

/-- A process that has ended stays so. -/
theorem commandHandler_ended (types : TaskRegistry σ τ) (time : Int64)
    (answers : TaskManager.AddAnswers) (fault : Fault) (request : RequestMessage) :
    (commandHandler (daemonRegistry types time answers) (.error fault) request).2
      = .error fault := by
  cases found : (daemonRegistry types time answers).getCommand request.method with
  | none => simp only [commandHandler, found]
  | some command =>
    have stays : (command.execute (.error fault) request.params).2 = .error fault := by
      rw [getCommand_daemonRegistry] at found
      split_ifs at found <;> cases found
      · show (TasksStopCommand.execute (processOperations types answers) _ _).2 = _
        unfold TasksStopCommand.execute
        cases requiredString request.params (ascii "id") <;> rfl
      · show (TasksAddCommand.execute (processOperations types answers) _ _).2 = _
        unfold TasksAddCommand.execute
        cases requiredString request.params (ascii "type") <;> rfl
      all_goals rfl
    rw [commandHandler_found found rfl]
    exact stays

section Methods

variable {ledger : Ledger σ} {tasking : Tasking σ τ} {types : TaskRegistry σ τ} {turn : Turn}
  {request : RequestMessage} {command : Command (TaskingOrFault σ τ)}

theorem answered_of_execute
    (found : (daemonRegistry types turn.time turn.add).getCommand request.method = some command)
    {outcome : Except Exn CommandResult} {after : Tasking σ τ} {next : Ledger σ}
    (executed : command.execute (.ok tasking) request.params = (outcome, .ok after))
    (expected : ledger.outcome types turn request = (outcome, next))
    (safe : ledger.Safe turn request) (follows : Follows next after) :
    Answered types turn ledger request
      (commandHandler (daemonRegistry types turn.time turn.add) (.ok tasking) request) := by
  have kept : Follows (ledger.outcome types turn request).2 after := by
    rw [expected]
    exact follows
  have answered := Answered.answered safe kept
  rw [expected] at answered
  rw [commandHandler_found found executed]
  exact answered

theorem ended_of_execute
    (found : (daemonRegistry types turn.time turn.add).getCommand request.method = some command)
    {outcome : Except Exn CommandResult} {fault : Fault}
    (executed : command.execute (.ok tasking) request.params = (outcome, .error fault))
    (fatal : ¬ ledger.Safe turn request) :
    Answered types turn ledger request
      (commandHandler (daemonRegistry types turn.time turn.add) (.ok tasking) request) := by
  rw [commandHandler_found found executed]
  exact .ended fatal

variable (follows : Follows ledger tasking)
  (threads : ∀ thread ∈ turn.threads, thread.id ∉ ledger.started)
include follows threads

/-- The methods whose command looks at no task. -/
theorem Follows.harmless
    (found : (daemonRegistry types turn.time turn.add).getCommand request.method = some command)
    {outcome : Except Exn CommandResult}
    (executed : command.execute (.ok tasking) request.params = (outcome, .ok tasking))
    (expected : ledger.outcome types turn request = (outcome, ledger))
    (status : request.method ≠ ascii "status") (list : request.method ≠ ascii "tasks.list")
    (stop : request.method ≠ ascii "tasks.stop") :
    Answered types turn ledger request
      (commandHandler (daemonRegistry types turn.time turn.add) (.ok tasking) request) :=
  answered_of_execute found executed expected
    ⟨threads, fun here => absurd here status, fun here => absurd here list,
      fun here => absurd here stop⟩ follows

/-- The commands that ask for all tasks: there is none, or a null pointer is followed. -/
theorem Follows.asking {β : Type} {ask : TaskManager σ τ → Except Fault β}
    {command : β → Command (TaskingOrFault σ τ)} {value : β}
    (found : (daemonRegistry types turn.time turn.add).getCommand request.method
      = some (needing ask command))
    (asked : (ledger.ids = [] ∧ ask tasking.manager = .ok value) ∨
      (ledger.ids ≠ [] ∧ ask tasking.manager = .error .nullDereference))
    {outcome : Except Exn CommandResult}
    (executed : (command value).execute (.ok tasking) request.params = (outcome, .ok tasking))
    (expected : ledger.outcome types turn request = (outcome, ledger))
    (looks : ledger.Safe turn request → ledger.ids = []) :
    Answered types turn ledger request
      (commandHandler (daemonRegistry types turn.time turn.add) (.ok tasking) request) := by
  rcases asked with ⟨empty, answered⟩ | ⟨given, fault⟩
  · have execution : (needing ask command).execute (.ok tasking) request.params
        = (outcome, .ok tasking) := by
      simp only [needing, Except.bind, answered, executed]
    refine answered_of_execute found execution expected ?_ follows
    exact ⟨threads, fun _ => empty, fun _ => empty, fun _ id member => by
      rw [empty] at member
      exact absurd member List.not_mem_nil⟩
  · have execution : (needing ask command).execute (.ok tasking) request.params
        = (.error ⟨[]⟩, .error .nullDereference) := by
      simp only [needing, Except.bind, fault]
    exact ended_of_execute found execution fun safe => given (looks safe)

theorem Follows.add (method : request.method = ascii "tasks.add") :
    Answered types turn ledger request
      (commandHandler (daemonRegistry types turn.time turn.add) (.ok tasking) request) := by
  have found : (daemonRegistry types turn.time turn.add).getCommand request.method
      = some (tasksAddCommand (processOperations types turn.add)) := by
    rw [getCommand_daemonRegistry, method]
    rfl
  have safe : ledger.Safe turn request :=
    ⟨threads, fun here => absurd (method.symm.trans here) (by decide),
      fun here => absurd (method.symm.trans here) (by decide),
      fun here => absurd (method.symm.trans here) (by decide)⟩
  have expected : ledger.outcome types turn request
      = match requiredString request.params (ascii "type") with
        | .error ended => (ended, ledger)
        | .ok type => ledger.add types turn.add type request.params := by
    rw [Ledger.outcome, method]
    rfl
  cases required : requiredString request.params (ascii "type") with
  | error ended =>
    rw [required] at expected
    have execution : (tasksAddCommand (processOperations types turn.add)).execute (.ok tasking)
        request.params = (ended, .ok tasking) := by
      simp only [tasksAddCommand, TasksAddCommand.execute, required]
    exact answered_of_execute found execution expected safe follows
  | ok type =>
    rw [required] at expected
    obtain ⟨same, kept⟩ := follows.addTask types type request.params turn.add
    have execution : (tasksAddCommand (processOperations types turn.add)).execute (.ok tasking)
        request.params = ((ledger.add types turn.add type request.params).1,
          .ok (tasking.addTask types type request.params turn.add).2) := by
      rw [same]
      simp only [tasksAddCommand, TasksAddCommand.execute, required, processOperations]
      cases (tasking.addTask types type request.params turn.add).1 with
      | error error => rfl
      | ok id =>
        dsimp only [addedResult]
        split_ifs <;> rfl
    exact answered_of_execute found execution expected safe kept

theorem Follows.stop (method : request.method = ascii "tasks.stop") :
    Answered types turn ledger request
      (commandHandler (daemonRegistry types turn.time turn.add) (.ok tasking) request) := by
  have found : (daemonRegistry types turn.time turn.add).getCommand request.method
      = some (tasksStopCommand (processOperations types turn.add)) := by
    rw [getCommand_daemonRegistry, method]
    rfl
  have safe (away : ∀ id ∈ ledger.ids,
        (requiredString request.params (ascii "id")).toOption ≠ some id) :
      ledger.Safe turn request :=
    ⟨threads, fun here => absurd (method.symm.trans here) (by decide),
      fun here => absurd (method.symm.trans here) (by decide), fun _ => away⟩
  have expected : ledger.outcome types turn request
      = match requiredString request.params (ascii "id") with
        | .error ended => (ended, ledger)
        | .ok id =>
          (.ok (.err (-32001) (ascii "Task not found or already stopped: " ++ id)), ledger) := by
    rw [Ledger.outcome, method]
    rfl
  cases required : requiredString request.params (ascii "id") with
  | error ended =>
    rw [required] at expected
    have execution : (tasksStopCommand (processOperations types turn.add)).execute (.ok tasking)
        request.params = (ended, .ok tasking) := by
      simp only [tasksStopCommand, TasksStopCommand.execute, required]
    refine answered_of_execute found execution expected (safe fun id _ same => ?_) follows
    rw [required] at same
    cases same
  | ok id =>
    rw [required] at expected
    rcases follows.stopTask id with ⟨absent, refused⟩ | ⟨given, fault⟩
    · have execution : (tasksStopCommand (processOperations types turn.add)).execute (.ok tasking)
          request.params = (.ok (.err (-32001)
            (ascii "Task not found or already stopped: " ++ id)), .ok tasking) := by
        simp only [tasksStopCommand, TasksStopCommand.execute, required, processOperations,
          Except.bind, refused]
        rfl
      refine answered_of_execute found execution expected (safe fun other member same => ?_) follows
      rw [required] at same
      cases same
      exact absent member
    · have execution : (tasksStopCommand (processOperations types turn.add)).execute (.ok tasking)
          request.params = (.error ⟨[]⟩, .error .nullDereference) := by
        simp only [tasksStopCommand, TasksStopCommand.execute, required, processOperations,
          Except.bind, fault]
      refine ended_of_execute found execution fun safe => safe.stop method id given ?_
      rw [required]
      rfl

/-- The methods without a command. -/
theorem Follows.unknown
    (others : request.method ≠ ascii "tasks.stop" ∧ request.method ≠ ascii "tasks.add" ∧
      request.method ≠ ascii "tasks.list" ∧ request.method ≠ ascii "status" ∧
      request.method ≠ ascii "ping" ∧ request.method ≠ ascii "shutdown" ∧
      request.method ≠ ascii "commands.list") :
    Answered types turn ledger request
      (commandHandler (daemonRegistry types turn.time turn.add) (.ok tasking) request) := by
  obtain ⟨stop, add, list, status, ping, shutdown, commands⟩ := others
  have missing : (daemonRegistry types turn.time turn.add).getCommand request.method = none := by
    rw [getCommand_daemonRegistry, if_neg stop, if_neg add, if_neg list, if_neg commands,
      if_neg shutdown, if_neg status, if_neg ping]
  have expected : ledger.outcome types turn request
      = (.ok (.err (-32601) (ascii "Method not found: " ++ request.method)), ledger) := by
    rw [Ledger.outcome, if_neg ping, if_neg status, if_neg shutdown, if_neg commands, if_neg list,
      if_neg add, if_neg stop]
  have safe : ledger.Safe turn request :=
    ⟨threads, fun here => absurd here status, fun here => absurd here list,
      fun here => absurd here stop⟩
  have kept : Follows (ledger.outcome types turn request).2 tasking := by
    rw [expected]
    exact follows
  have answered := Answered.answered safe kept
  rw [expected] at answered
  simp only [commandHandler, missing]
  exact answered

end Methods

/-- **Step.** A request is answered as the ledger says, or ends the process. -/
theorem Follows.answer {ledger : Ledger σ} {tasking : Tasking σ τ}
    (follows : Follows ledger tasking) (types : TaskRegistry σ τ) (turn : Turn)
    (request : RequestMessage) :
    Answered types turn ledger request
      (commandHandler (daemonRegistry types turn.time turn.add)
        ((Except.ok tasking).bind fun manager => runThreads manager turn.threads) request) := by
  have kept : ∀ id ∈ tasking.started, id ∈ tasking.manager.tasks := by
    intro id member
    rw [follows.started] at member
    exact (follows.mem_iff id).mpr (follows.kept id member)
  rcases runThreads_eq follows.null kept turn.threads with
    ⟨threads, ran⟩ | ⟨⟨thread, member, here⟩, ended⟩
  · rw [follows.started] at threads
    rw [show (Except.ok tasking).bind (fun manager => runThreads manager turn.threads)
      = .ok tasking from ran]
    by_cases stop : request.method = ascii "tasks.stop"
    · exact follows.stop threads stop
    by_cases add : request.method = ascii "tasks.add"
    · exact follows.add threads add
    by_cases list : request.method = ascii "tasks.list"
    · have found : (daemonRegistry types turn.time turn.add).getCommand request.method
          = some (needing TaskManager.listTasks fun tasks => tasksListCommand fun _ => tasks) := by
        rw [getCommand_daemonRegistry, list]
        rfl
      refine follows.asking threads found follows.listTasks rfl ?_ fun safe => safe.list list
      rw [Ledger.outcome, list]
      rfl
    by_cases status : request.method = ascii "status"
    · have found : (daemonRegistry types turn.time turn.add).getCommand request.method
          = some (needing TaskManager.activeCount fun count =>
            ⟨StatusCommand.execute (some count)⟩) := by
        rw [getCommand_daemonRegistry, status]
        rfl
      refine follows.asking threads found follows.activeCount rfl ?_ fun safe => safe.status status
      rw [Ledger.outcome, status]
      rfl
    by_cases ping : request.method = ascii "ping"
    · have found : (daemonRegistry types turn.time turn.add).getCommand request.method
          = some ⟨PingCommand.execute turn.time⟩ := by
        rw [getCommand_daemonRegistry, ping]
        rfl
      refine follows.harmless threads found rfl ?_ status list stop
      rw [Ledger.outcome, ping]
      rfl
    by_cases shutdown : request.method = ascii "shutdown"
    · have found : (daemonRegistry types turn.time turn.add).getCommand request.method
          = some ⟨ShutdownCommand.execute⟩ := by
        rw [getCommand_daemonRegistry, shutdown]
        rfl
      refine follows.harmless threads found rfl ?_ status list stop
      rw [Ledger.outcome, shutdown]
      rfl
    by_cases commands : request.method = ascii "commands.list"
    · have found : (daemonRegistry types turn.time turn.add).getCommand request.method
          = some ⟨CommandsListCommand.execute⟩ := by
        rw [getCommand_daemonRegistry, commands]
        rfl
      refine follows.harmless threads found rfl ?_ status list stop
      rw [Ledger.outcome, commands]
      rfl
    exact follows.unknown threads ⟨stop, add, list, status, ping, shutdown, commands⟩
  · have fatal : ¬ ledger.Safe turn request := by
      intro safe
      rw [follows.started] at here
      exact safe.threads thread member here
    rw [show (Except.ok tasking).bind (fun manager => runThreads manager turn.threads)
      = .error .nullDereference from ended]
    have refused := commandHandler_ended types turn.time turn.add .nullDereference request
    rw [← Prod.eta (commandHandler _ _ _), refused]
    exact .ended fatal

end Step

end DemoDaemon.Daemon
