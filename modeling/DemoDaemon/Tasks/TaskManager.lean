/-
**The task manager** (`task_manager.cpp`, `task_registry.cpp`), one operation at a time.

A registry of factories makes the tasks; factories may work on a state of their own, throw, or
return a null pointer. The operations that follow the pointer of an entry return a fault when it is
null. The answers of the environment are arguments: the readings of the clock, and whether a thread
can be started.

`created` is a record for the proofs: the ids that the tasks returned by `create_task` were made
for, the n-th at address n.
-/

import Mathlib.Data.List.AList
import DemoDaemon.Foundation.Decimal
import DemoDaemon.Tasks.Task

namespace DemoDaemon.Tasks

open Foundation

/-! ### The registry -/

section Registry

variable {σ τ : Type}

/-- `TaskFactory` of the registry: from an id and parameters to a pointer. -/
abbrev Factory (σ τ : Type) := σ → Bytes → Json → Except Exn (Option τ) × σ

structure TaskRegistry (σ τ : Type) where
  factories : List (Bytes × Factory σ τ)

def TaskRegistry.createTask (registry : TaskRegistry σ τ) (outside : σ) (type id : Bytes)
    (params : Json) : Except Exn (Option τ) × σ :=
  match registry.factories.lookup type with
  | none => (.ok none, outside)
  | some factory => factory outside id params

end Registry

/-! ### Entries -/

structure TaskEntry (τ : Type) where
  task : UniquePtr τ
  /-- `stop_source`, by whether a stop is requested. -/
  stopRequested : Bool
  running : Bool
  createdAt : Int
  startedAt : Int
  stoppedAt : Int

/-- `steady_clock::time_point::min()`. -/
def timeMin : Int := -2 ^ 63

/-- A local `TaskEntry`, filled as `add_task` does it. -/
def TaskEntry.filled {τ : Type} (task : UniquePtr τ) (now : Int) : TaskEntry τ :=
  ⟨task, false, false, now, timeMin, timeMin⟩

/-- The move constructor. -/
def TaskEntry.moved {τ : Type} (entry : TaskEntry τ) : TaskEntry τ :=
  { entry with task := entry.task.move.1 }

structure TaskInfo where
  id : Bytes
  type : Bytes
  description : Bytes
  state : TaskState
  lastError : Bytes
  createdAt : Int
  startedAt : Int
  stoppedAt : Int

/-! ### The manager -/

structure TaskManager (σ τ : Type) where
  tasks : AList fun _ : Bytes => TaskEntry τ
  nextTaskId : UInt64
  shutdownRequested : Bool
  /-- What the factories work on. -/
  outside : σ
  created : List Bytes

namespace TaskManager

variable {σ τ : Type}

def start (outside : σ) : TaskManager σ τ := ⟨∅, 0, false, outside, []⟩

/-- The id of a number: `ss << "task_" << number`. -/
def taskId (number : UInt64) : Bytes := ascii "task_" ++ decimal number.toNat

/-- What the environment answers to a call of `add_task`: two readings of the clock, and the
constructor of `std::thread`. -/
structure AddAnswers where
  firstNow : Int
  secondNow : Int
  spawned : Except Exn Unit

/-- The locked section of `add_task`, on its local `task`. A thread that cannot be started throws,
with the entry in the map. -/
def insertTask (manager : TaskManager σ τ) (id : Bytes) (task : UniquePtr τ)
    (answers : AddAnswers) : Except Exn Bytes × TaskManager σ τ :=
  let entry := TaskEntry.filled task.move.1 answers.secondNow
  match manager.tasks.lookup id with
  | some _ => (.ok [], manager)
  | none =>
    let manager := { manager with tasks := manager.tasks.insert id entry.moved }
    match answers.spawned with
    | .error error => (.error error, manager)
    | .ok _ => (.ok id, manager)

/-- `add_task(type, params)`. -/
def addTask (registry : TaskRegistry σ τ) (manager : TaskManager σ τ) (type : Bytes) (params : Json)
    (answers : AddAnswers) : Except Exn Bytes × TaskManager σ τ :=
  if manager.shutdownRequested then (.ok [], manager)
  else
    let id := taskId manager.nextTaskId
    let manager := { manager with nextTaskId := manager.nextTaskId + 1 }
    match registry.createTask manager.outside type id params with
    | (.error error, outside) => (.error error, { manager with outside })
    | (.ok none, outside) => (.ok [], { manager with outside })
    | (.ok (some value), outside) =>
      let task : UniquePtr τ := some ⟨manager.created.length, value⟩
      let manager := { manager with outside, created := manager.created ++ [id] }
      -- the first `entry` takes the task, and is destroyed with it when the call returns
      let _entry := TaskEntry.filled task.move.1 answers.firstNow
      let task := task.move.2
      -- the locked section fills an `entry` of its own
      manager.insertTask id task answers

variable [ITask τ]

/-- `run_task(entry, token)`. What `start` and `wait_stopped` throw is caught. -/
def runEntry (entry : TaskEntry τ) (startedAt stoppedAt : Int) : Except Fault (TaskEntry τ) := do
  let entry := { entry with startedAt, running := true }
  let object ← entry.task.deref
  let started := ITask.start object.value entry.stopRequested
  let value := match started.1 with
    | .error _ => started.2
    | .ok _ => (ITask.waitStopped started.2 0).2
  return { entry with task := some { object with value }, stoppedAt, running := false }

/-- The thread of an entry. -/
def runTask (manager : TaskManager σ τ) (id : Bytes) (startedAt stoppedAt : Int) :
    Except Fault (TaskManager σ τ) :=
  match manager.tasks.lookup id with
  | none => .ok manager
  | some entry => do
    let entry ← runEntry entry startedAt stoppedAt
    return { manager with tasks := manager.tasks.insert id entry }

def stopTask (manager : TaskManager σ τ) (id : Bytes) : Except Fault (Bool × TaskManager σ τ) :=
  match manager.tasks.lookup id with
  | none => .ok (false, manager)
  | some entry => do
    let entry := { entry with stopRequested := true }
    let object ← entry.task.deref
    let task := some { object with value := ITask.requestStop object.value }
    return (true, { manager with tasks := manager.tasks.insert id { entry with task } })

/-- `stop_all_tasks()`. The wait at its end only reads the `running` flags. -/
def stopAllTasks (manager : TaskManager σ τ) : Except Fault (TaskManager σ τ) :=
  manager.tasks.keys.foldlM (fun manager id => do
    let stopped ← manager.stopTask id
    return stopped.2) { manager with shutdownRequested := true }

/-- The information on one entry. -/
def infoOf (entry : TaskEntry τ) : Except Fault TaskInfo := do
  let object ← entry.task.deref
  return {
    id := ITask.id object.value
    type := ITask.type object.value
    description := ITask.description object.value
    state := ITask.state object.value
    lastError := ITask.lastError object.value
    createdAt := entry.createdAt
    startedAt := entry.startedAt
    stoppedAt := entry.stoppedAt }

def getTaskInfo (manager : TaskManager σ τ) (id : Bytes) : Except Fault (Option TaskInfo) :=
  match manager.tasks.lookup id with
  | none => .ok none
  | some entry => do
    let info ← infoOf entry
    return some info

/-- `list_tasks()`: sorted by the ids that the tasks report. -/
def listTasks (manager : TaskManager σ τ) : Except Fault (List TaskInfo) := do
  let infos ← manager.tasks.entries.mapM fun entry => infoOf entry.2
  return infos.mergeSort fun first second => !decide (second.id < first.id)

def activeCount (manager : TaskManager σ τ) : Except Fault Nat := do
  let states ← manager.tasks.entries.mapM fun entry => do
    let object ← entry.2.task.deref
    return ITask.state object.value
  return states.countP TaskState.isActive

end TaskManager

end DemoDaemon.Tasks
