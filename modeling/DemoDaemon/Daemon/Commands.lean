/-
**The commands of the daemon** (`ping_command.cpp`, `status_command.cpp`, `shutdown_command.cpp`,
`commands_list_command.cpp`, `command_registry.cpp`), and the registry that `main` fills.

* The commands take what they read from outside as an argument: the time, and what the task manager
  answers.
* `getCommand_registerCommand`: a registered name finds the last command registered under it.
* `Tasking`: the task manager, and the threads it has started. `TaskingOrFault` is that, or the
  fault that ended the process.
* `needing` is a command that asks the task manager first; `daemonRegistry` is the registry of
  `main`, in the order of `main`.
-/

import DemoDaemon.Daemon.TaskCommands

namespace DemoDaemon.Daemon

open Foundation DemoDaemon.Ipc DemoDaemon.Tasks

/-! ### Commands -/

section Commands

variable {χ : Type}

/-- The result of `ping`, at a time in seconds. -/
def pingData (time : Int64) : Json :=
  (Json.emptyObject.set (ascii "message") (Json.ofString (ascii "pong"))).set (ascii "timestamp")
    (Json.ofInt64 time)

/-- `PingCommand::execute`, given `std::time(nullptr)`. -/
def PingCommand.execute (time : Int64) (state : χ) (_params : Json) :
    Except Exn CommandResult × χ :=
  (.ok (.ok (pingData time)), state)

/-- The result of `status`, given `active_count()` of the task manager of the context, if it has
one. -/
def statusData (activeCount : Option Nat) : Json :=
  let result := (Json.emptyObject.set (ascii "version") (Json.ofString (ascii "0.1.0"))).set
    (ascii "status") (Json.ofString (ascii "running"))
  match activeCount with
  | some count => result.set (ascii "active_tasks") (Json.ofUInt64 (UInt64.ofNat count))
  | none => result.set (ascii "active_tasks") (Json.ofInt32 0)

/-- `StatusCommand::execute`. -/
def StatusCommand.execute (activeCount : Option Nat) (state : χ) (_params : Json) :
    Except Exn CommandResult × χ :=
  (.ok (.ok (statusData activeCount)), state)

def shutdownData : Json :=
  Json.emptyObject.set (ascii "status") (Json.ofString (ascii "shutdown_initiated"))

/-- `ShutdownCommand::execute`. It only confirms the request. -/
def ShutdownCommand.execute (state : χ) (_params : Json) : Except Exn CommandResult × χ :=
  (.ok (.ok shutdownData), state)

/-- One element of the list of commands. -/
def commandData (name description : Bytes) : Json :=
  (Json.emptyObject.set (ascii "name") (Json.ofString name)).set (ascii "description")
    (Json.ofString description)

/-- The result of `commands.list`, which does not look at the registry. -/
def commandsListData : Json :=
  Json.emptyObject.set (ascii "commands") (Json.ofArray
    [commandData (ascii "ping") (ascii "Simple ping command"),
      commandData (ascii "shutdown") (ascii "Gracefully shutdown the daemon"),
      commandData (ascii "commands.list") (ascii "List all available commands")])

/-- `CommandsListCommand::execute`. -/
def CommandsListCommand.execute (state : χ) (_params : Json) : Except Exn CommandResult × χ :=
  (.ok (.ok commandsListData), state)

/-! ### The registry -/

def CommandRegistry.empty : CommandRegistry χ := ⟨[]⟩

/-- `register_command(cmd)`, for a command that reports a name. A second command of one name takes
the place of the first. -/
def CommandRegistry.registerCommand (registry : CommandRegistry χ) (name : Bytes)
    (command : Command χ) : CommandRegistry χ :=
  ⟨(name, command) :: registry.commands.filter fun entry => entry.1 != name⟩

theorem lookup_filter_other {commands : List (Bytes × Command χ)} {name other : Bytes}
    (different : other ≠ name) :
    (commands.filter fun entry => entry.1 != name).lookup other = commands.lookup other := by
  induction commands with
  | nil => rfl
  | cons entry commands ih =>
    obtain ⟨key, command⟩ := entry
    by_cases dropped : key = name
    · have passed : (other == key) = false := by
        rw [dropped]
        exact beq_eq_false_iff_ne.mpr different
      rw [List.filter_cons_of_neg (by simp [dropped]), ih, List.lookup_cons, passed]
    · rw [List.filter_cons_of_pos (by simp [dropped]), List.lookup_cons, List.lookup_cons, ih]

/-- **The last command registered under a name is found under it**, and the others as before. -/
theorem getCommand_registerCommand (registry : CommandRegistry χ) (name other : Bytes)
    (command : Command χ) :
    (registry.registerCommand name command).getCommand other
      = if other = name then some command else registry.getCommand other := by
  unfold CommandRegistry.getCommand CommandRegistry.registerCommand
  rw [List.lookup_cons]
  by_cases here : other = name
  · rw [if_pos here, here, beq_self_eq_true]
  · rw [if_neg here, beq_eq_false_iff_ne.mpr here]
    exact lookup_filter_other here

end Commands

/-! ### The daemon's registry -/

section Registry

variable {σ τ : Type}

/-- The task manager, with the detached threads that have been started and have not run yet. -/
structure Tasking (σ τ : Type) where
  manager : TaskManager σ τ
  /-- The ids of the entries of these threads, the last one first. -/
  started : List Bytes

/-- The thread behind a call of `add_task`. An id is returned behind `ref.thread.detach()`, and only
there: the constructor of `std::thread` that throws leaves an entry without a thread. -/
def detached : Except Exn Bytes → List Bytes
  | .error _ => []
  | .ok id => if id.isEmpty then [] else [id]

def Tasking.addTask (types : TaskRegistry σ τ) (tasking : Tasking σ τ) (type : Bytes)
    (params : Json) (answers : TaskManager.AddAnswers) : Except Exn Bytes × Tasking σ τ :=
  let added := tasking.manager.addTask types type params answers
  (added.1, ⟨added.2, detached added.1 ++ tasking.started⟩)

variable [ITask τ]

def Tasking.stopTask (tasking : Tasking σ τ) (id : Bytes) : Except Fault (Bool × Tasking σ τ) := do
  let stopped ← tasking.manager.stopTask id
  return (stopped.1, { tasking with manager := stopped.2 })

/-- The task manager, or the fault that ended the process. -/
abbrev TaskingOrFault (σ τ : Type) := Except Fault (Tasking σ τ)

/-- A command that asks the task manager first. A fault ends the process: what stands for the
result then is never returned. -/
def needing {β : Type} (ask : TaskManager σ τ → Except Fault β)
    (command : β → Command (TaskingOrFault σ τ)) : Command (TaskingOrFault σ τ) where
  execute state params :=
    match state.bind fun tasking => ask tasking.manager with
    | .error fault => (.error ⟨[]⟩, .error fault)
    | .ok answer => (command answer).execute state params

/-- The task manager of the process, with what the environment answers to a call of `add_task`. -/
def processOperations (types : TaskRegistry σ τ) (answers : TaskManager.AddAnswers) :
    TaskOperations (TaskingOrFault σ τ) where
  addTask state type params :=
    match state with
    | .error fault => (.error ⟨[]⟩, .error fault)
    | .ok tasking =>
      let added := tasking.addTask types type params answers
      (added.1, .ok added.2)
  stopTask state id :=
    match state.bind fun tasking => tasking.stopTask id with
    | .error fault => (.error ⟨[]⟩, .error fault)
    | .ok stopped => (.ok stopped.1, .ok stopped.2)

/-- The registry of `main`, at a time and with the answers to a call of `add_task`. -/
def daemonRegistry (types : TaskRegistry σ τ) (time : Int64) (answers : TaskManager.AddAnswers) :
    CommandRegistry (TaskingOrFault σ τ) :=
  let manager := processOperations types answers
  CommandRegistry.empty
    |>.registerCommand (ascii "ping") ⟨PingCommand.execute time⟩
    |>.registerCommand (ascii "status") (needing TaskManager.activeCount fun count =>
      ⟨StatusCommand.execute (some count)⟩)
    |>.registerCommand (ascii "shutdown") ⟨ShutdownCommand.execute⟩
    |>.registerCommand (ascii "commands.list") ⟨CommandsListCommand.execute⟩
    |>.registerCommand (ascii "tasks.list") (needing TaskManager.listTasks fun tasks =>
      tasksListCommand fun _ => tasks)
    |>.registerCommand (ascii "tasks.add") (tasksAddCommand manager)
    |>.registerCommand (ascii "tasks.stop") (tasksStopCommand manager)

end Registry

end DemoDaemon.Daemon
