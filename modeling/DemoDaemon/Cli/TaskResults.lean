/-
**Do the client and the daemon agree on task results?**

* `seen`: what the client's printer gets for the outcome of a command. **`clientSees_command`**: it
  is what arrives, for data that can be written and read back; `clientSees_tasksList` for the list.
* `ListShown`, `AddShown`: `tasks list` prints a line for each task the manager reports; `tasks add`
  prints the id that the manager returned.
* **`task_results_shown_iff`**: the list is shown only when there is nothing to show, and an id only
  when it is the default of the printer. The daemon puts the tasks under a key, where the printer
  takes the data itself for the array; it sends the id under `id`, where the printer reads
  `task_id`. `array_of_tasks_throws`: the bare array would not help, because the printer reads
  each id as a number.
-/

import DemoDaemon.Cli.Output
import DemoDaemon.Daemon.FailureReport
import DemoDaemon.Daemon.TaskCommands
import DemoDaemon.Json.TextLaws

namespace DemoDaemon.Cli

open Foundation DemoDaemon.Ipc DemoDaemon.Daemon DemoDaemon.Tasks

/-! ### From the command to the printer -/

/-- What the handler puts under `result` for the outcome of a command. -/
def resultData : Except Exn CommandResult → Json
  | .error error => errorData (-32603) (ascii "Internal error: " ++ error.what)
  | .ok result =>
    if !result.success then errorData result.errorCode result.message else result.data

/-- What the client makes of that result. -/
def seen (outcome : Except Exn CommandResult) : CommandResponse :=
  ⟨true, none, ascii "OK", resultData outcome⟩

section Seen

variable {χ : Type} {registry : CommandRegistry χ} {request : RequestMessage} {command : Command χ}
  (found : registry.getCommand request.method = some command)
include found

theorem commandHandler_result (state : χ) :
    (commandHandler registry state request).1
      = .ok ⟨request.id, resultData (command.execute state request.params).1⟩ := by
  simp only [commandHandler, found]
  rcases command.execute state request.params with ⟨error | result, after⟩
  · rfl
  · cases success : result.success with
    | true => simp [resultData, success]
    | false => simp [resultData, success]

/-- **The client sees the outcome of the command**, when its data survives the wire. -/
theorem clientSees_command {lib : Nlohmann} (documented : lib.Documented) (state : χ)
    (session : Session) {outcome : Except Exn CommandResult}
    (executed : (command.execute state request.params).1 = outcome)
    (valid : (resultData outcome).validUtf8 = true) (finite : (resultData outcome).finite = true) :
    clientSees lib registry state request session = some (seen outcome) := by
  have handled := commandHandler_result found state
  rw [executed] at handled
  rw [clientSees_valid documented registry state request session handled valid, seen,
    ((resultData outcome).nullify_eq_self_iff).mpr finite]

end Seen

/-- The client sees the result of `tasks.list`, for ids and types in UTF-8. -/
theorem clientSees_tasksList {χ : Type} {lib : Nlohmann} (documented : lib.Documented)
    {registry : CommandRegistry χ} {request : RequestMessage} {listTasks : χ → List TaskInfo}
    (found : registry.getCommand request.method = some (tasksListCommand listTasks)) (state : χ)
    (session : Session)
    (valid : ∀ task ∈ listTasks state, validUtf8 task.id = true ∧ validUtf8 task.type = true) :
    clientSees lib registry state request session
      = some (seen (TasksListCommand.execute listTasks state request.params).1) :=
  clientSees_command found documented state session rfl (validUtf8_taskListData valid)
    (finite_taskListData (listTasks state))

/-! ### What should be printed -/

section Shown

variable (lib : Nlohmann) (dumpIndented : Json → Except Exn Bytes) {χ : Type}

/-- What the client prints for the outcome of a command, on empty streams. -/
def shown (outcome : Except Exn CommandResult) (responseTime : Int64) (commandArgs : List Bytes) :
    Except Exn Int32 × Screen :=
  (formatAndPrintResponse lib dumpIndented (seen outcome) responseTime (ascii "tasks") commandArgs
    false).on ⟨[], []⟩

/-- The line of a task: its id, its type and its state. -/
def taskLine (task : TaskInfo) : Bytes :=
  ascii "  ID: " ++ task.id ++ ascii ", Type: " ++ task.type ++ ascii ", State: "
    ++ stateText task.state ++ endl

/-- `tasks list` prints the heading and one line for each task, in order, and does not throw. -/
def ListShown (outcome : Except Exn CommandResult) (responseTime : Int64) (rest : List Bytes)
    (tasks : List TaskInfo) : Prop :=
  shown lib dumpIndented outcome responseTime (ascii "list" :: rest)
    = (.ok 0, ⟨ascii "Background tasks:" ++ endl ++ tasks.flatMap taskLine, []⟩)

/-- `tasks add` prints the id. -/
def AddShown (outcome : Except Exn CommandResult) (responseTime : Int64) (rest : List Bytes)
    (id : Bytes) : Prop :=
  shown lib dumpIndented outcome responseTime (ascii "add" :: rest)
    = (.ok 0, ⟨ascii "Task added. ID: " ++ id ++ endl, []⟩)

/-! ### What is printed -/

theorem taskLine_ne_nil (task : TaskInfo) : taskLine task ≠ [] :=
  List.append_ne_nil_of_right_ne_nil _ (by decide)

/-- No line is printed, whatever the tasks. -/
theorem listShown_iff (listTasks : χ → List TaskInfo) (state : χ) (params : Json)
    (responseTime : Int64) (rest : List Bytes) :
    ListShown lib dumpIndented (TasksListCommand.execute listTasks state params).1 responseTime rest
        (listTasks state)
      ↔ listTasks state = [] := by
  have heading : shown lib dumpIndented (TasksListCommand.execute listTasks state params).1
      responseTime (ascii "list" :: rest)
      = (.ok 0, ⟨[] ++ (ascii "Background tasks:" ++ endl), []⟩) :=
    format_tasksList lib dumpIndented _ rfl _ responseTime rest
  unfold ListShown
  rw [heading, List.nil_append]
  constructor
  · intro same
    have lines := congrArg (fun outcome => outcome.2.out) same
    have empty : (listTasks state).flatMap taskLine = [] := List.self_eq_append_right.mp lines
    cases tasks : listTasks state with
    | nil => rfl
    | cons task others =>
      rw [tasks, List.flatMap_cons, List.append_eq_nil_iff] at empty
      exact absurd empty.1 (taskLine_ne_nil task)
  · intro empty
    rw [empty, List.flatMap_nil, List.append_nil]

/-- The result of `tasks.add` is an object without a `task_id`, also when no task was added. -/
theorem resultData_tasksAdd (manager : TaskOperations χ) {state : χ} {params : Json}
    {type id : Bytes} (typed : requiredString params (ascii "type") = .ok type)
    (added : (manager.addTask state type params).1 = .ok id) :
    (resultData (TasksAddCommand.execute manager state params).1).isObject = true ∧
      (resultData (TasksAddCommand.execute manager state params).1).find (ascii "task_id")
        = none := by
  rcases answer : manager.addTask state type params with ⟨returned, after⟩
  rw [answer] at added
  cases added
  simp only [TasksAddCommand.execute, typed, answer]
  cases id with
  | nil => exact ⟨rfl, rfl⟩
  | cons byte id =>
    refine ⟨rfl, ?_⟩
    show (((Json.emptyObject.set (ascii "id") _).set (ascii "type") _).set (ascii "status") _).find
      (ascii "task_id") = none
    rw [Json.find_set_other _ (by decide), Json.find_set_other _ (by decide),
      Json.find_set_other _ (by decide), Json.find_emptyObject]

/-- -1 is printed, whatever the id. -/
theorem addShown_iff (manager : TaskOperations χ) {state : χ} {params : Json} {type id : Bytes}
    (typed : requiredString params (ascii "type") = .ok type)
    (added : (manager.addTask state type params).1 = .ok id) (responseTime : Int64)
    (rest : List Bytes) :
    AddShown lib dumpIndented (TasksAddCommand.execute manager state params).1 responseTime rest id
      ↔ id = ascii "-1" := by
  obtain ⟨object, absent⟩ := resultData_tasksAdd manager typed added
  have printed : shown lib dumpIndented (TasksAddCommand.execute manager state params).1
      responseTime (ascii "add" :: rest)
      = (.ok 0, ⟨[] ++ (ascii "Task added. ID: " ++ ascii "-1" ++ endl), []⟩) :=
    format_tasksAdd lib dumpIndented _ object absent _ responseTime rest
  unfold AddShown
  rw [printed, List.nil_append]
  constructor
  · intro same
    have line := congrArg (fun outcome => outcome.2.out) same
    exact (List.append_cancel_left (List.append_cancel_right line)).symm
  · rintro rfl
    rfl

/-- The array of the tasks itself makes the printer throw at the first task. -/
theorem array_of_tasks_throws (task : TaskInfo) (others : List TaskInfo) :
    (printTasks (Json.ofArray ((task :: others).map taskData)) (ascii "list")).on ⟨[], []⟩
      = (.error ((Json.ofString task.id).typeError302 "number"),
        ⟨ascii "Background tasks:" ++ endl ++ ascii "  ID: ", []⟩) := by
  have found : (taskData task).find (ascii "id") = some (Json.ofString task.id) := by
    rw [taskData, Json.find_set_other _ (by decide), Json.find_set_other _ (by decide),
      Json.find_set_same]
  have first := printTask_string ⟨ascii "Background tasks:" ++ endl, []⟩ found
  show (printEach (ascii "Background tasks:") printTask _).on ⟨[], []⟩ = _
  unfold printEach
  rw [on_bind_ok _ (on_cout _ _), Json.items_ofArray]
  exact on_bind_error _ first _

/-- **The client shows no task and no id of the daemon's.** What it prints for the result of
`tasks.list` has one line per task if and only if there is none; what it prints for the result of
`tasks.add` is the id if and only if that is the text `-1`. -/
theorem task_results_shown_iff (listTasks : χ → List TaskInfo) (manager : TaskOperations χ)
    (state : χ) (params : Json) (responseTime : Int64) (rest : List Bytes) :
    (ListShown lib dumpIndented (TasksListCommand.execute listTasks state params).1 responseTime
        rest (listTasks state)
      ↔ listTasks state = []) ∧
    ∀ type id, requiredString params (ascii "type") = .ok type →
      (manager.addTask state type params).1 = .ok id →
      (AddShown lib dumpIndented (TasksAddCommand.execute manager state params).1 responseTime
          rest id
        ↔ id = ascii "-1") := by
  refine ⟨listShown_iff lib dumpIndented listTasks state params responseTime rest, ?_⟩
  intro type id typed added
  exact addShown_iff lib dumpIndented manager typed added responseTime rest

end Shown

/-- A running task as `list_tasks` reports it. -/
def runningTask : TaskInfo :=
  ⟨ascii "heartbeat_0", ascii "heartbeat",
    ascii "Periodic heartbeat task that logs status at specified interval", .running, [], 0, 0,
    timeMin⟩

/-- A task manager that answers every `add_task` with one id. -/
def answering (id : Bytes) : TaskOperations Unit :=
  ⟨fun _ _ _ => (.ok id, ()), fun _ _ => (.ok false, ())⟩

def heartbeatParams : Json :=
  Json.emptyObject.set (ascii "type") (Json.ofString (ascii "heartbeat"))

/-- One running task and the id `task_0`: neither is shown. -/
theorem task_results_shown_one :
    ¬ ListShown compact compact.dump (TasksListCommand.execute (fun _ => [runningTask]) ()
        heartbeatParams).1 3 [] [runningTask] ∧
      ¬ AddShown compact compact.dump (TasksAddCommand.execute (answering (ascii "task_0")) ()
        heartbeatParams).1 3 [] (ascii "task_0") := by
  obtain ⟨list, add⟩ := task_results_shown_iff compact compact.dump (fun _ => [runningTask])
    (answering (ascii "task_0")) () heartbeatParams 3 []
  refine ⟨fun shown => ?_, fun shown => ?_⟩
  · cases list.mp shown
  · exact absurd ((add (ascii "heartbeat") (ascii "task_0") rfl rfl).mp shown) (by decide)

/-- The list of one running task is printed as an empty one, and the id `task_0` as -1. -/
theorem task_results_not_shown :
    (¬ ∀ tasks : List TaskInfo, ListShown compact compact.dump
        (TasksListCommand.execute (fun _ : Unit => tasks) () heartbeatParams).1 3 [] tasks) ∧
      ¬ ∀ id, AddShown compact compact.dump
        (TasksAddCommand.execute (answering id) () heartbeatParams).1 3 [] id := by
  refine ⟨fun all => ?_, fun all => ?_⟩
  · have shown := all [runningTask]
    cases (listShown_iff compact compact.dump (fun _ => [runningTask]) () heartbeatParams 3 []).mp
      shown
  · have shown := all (ascii "task_0")
    have typed : requiredString heartbeatParams (ascii "type") = .ok (ascii "heartbeat") := rfl
    exact absurd ((addShown_iff compact compact.dump (answering (ascii "task_0")) typed rfl 3 []).mp
      shown) (by decide)

end DemoDaemon.Cli
