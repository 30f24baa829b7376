/-
**The built-in tasks as objects** (`heartbeat_task.cpp`, `sleep_task.cpp`), for the task manager.

Both classes have the same members and differ in their names, texts and timing. The interface is
their sequential meaning: the worker that `start` spawns can be spawned, and has finished when
`wait_stopped` returns. What their threads do in between is in `TaskThreads`.
-/

import DemoDaemon.Tasks.TaskManager
import DemoDaemon.Tasks.TaskThreads

namespace DemoDaemon.Tasks

open Foundation

structure BuiltinTask where
  kind : Kind
  id : Bytes
  /-- `interval_` or `duration_`, in milliseconds. -/
  period : Int
  state : TaskState
  stopped : Bool
  lastError : Bytes
  /-- `worker_thread_.joinable()`. -/
  joinable : Bool

/-- The counters behind the two `generate_id` functions. -/
structure Counters where
  heartbeat : UInt64
  sleep : UInt64

/-- `type()`, which is also the stem of the ids. -/
def Kind.name : Kind → Bytes
  | .heartbeat => ascii "heartbeat"
  | .sleep => ascii "sleep"

def Kind.description : Kind → Bytes
  | .heartbeat => ascii "Periodic heartbeat task that logs status at specified interval"
  | .sleep =>
    ascii "One-shot task that sleeps for specified duration with early cancellation support"

/-- A task as its constructor leaves it. -/
def BuiltinTask.create (kind : Kind) (number : UInt64) (period : Int) : BuiltinTask where
  kind := kind
  id := kind.name ++ ascii "_" ++ decimal number.toNat
  period := period
  state := .pending
  stopped := false
  lastError := []
  joinable := false

/-- `make_unique<HeartbeatTask>(interval)`. -/
def HeartbeatTask.factory (counters : Counters) (interval : Int) :
    Except Exn (Option BuiltinTask) × Counters :=
  (.ok (some (.create .heartbeat counters.heartbeat interval)),
    { counters with heartbeat := counters.heartbeat + 1 })

/-- `make_unique<SleepTask>(duration)`. -/
def SleepTask.factory (counters : Counters) (duration : Int) :
    Except Exn (Option BuiltinTask) × Counters :=
  (.ok (some (.create .sleep counters.sleep duration)),
    { counters with sleep := counters.sleep + 1 })

namespace BuiltinTask

def start (task : BuiltinTask) (_ : Bool) : Except Exn Bool × BuiltinTask :=
  if task.state ≠ .pending then
    (.ok false, { task with lastError := ascii "Task already started" })
  else (.ok true, { task with state := .running, joinable := true })

def requestStop (task : BuiltinTask) : BuiltinTask := { task with state := .stopping }

def waitStopped (task : BuiltinTask) (_ : Int) : Except Exn Bool × BuiltinTask :=
  if !task.joinable then (.ok true, task)
  else (.ok true, { task with state := .stopped, stopped := true, joinable := false })

instance : ITask BuiltinTask where
  id := BuiltinTask.id
  type task := task.kind.name
  description task := task.kind.description
  state := BuiltinTask.state
  lastError := BuiltinTask.lastError
  start := start
  requestStop := requestStop
  waitStopped := waitStopped

end BuiltinTask

end DemoDaemon.Tasks
