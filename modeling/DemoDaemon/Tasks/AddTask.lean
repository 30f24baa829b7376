/-
**Failed calls of `add_task`** (`task_manager.cpp`).

A call fails when it returns an empty id or throws: a shutdown was requested, the registry made no
task (an unknown type, a null pointer, a factory that throws), the id is taken, or the thread of the
new entry cannot be started.

* `addTask_of_creates`: a call that gets a task is its locked section.
* **`failure_keeps_tasks_iff`**: a failed call leaves `tasks_` as it was if and only if it does not
  fail in the constructor of `std::thread`, which runs when the entry is in the map already.
-/

import DemoDaemon.Tasks.TaskStore

namespace DemoDaemon.Tasks

open Foundation TaskManager

variable {σ τ : Type}

/-- A call of `add_task` that has returned an id. -/
def Succeeded : Except Exn Bytes → Prop
  | .ok id => id ≠ []
  | .error _ => False

/-- If the call fails, the map is what it was: the same keys with the same entries. -/
def FailureKeepsTasks (registry : TaskRegistry σ τ) (manager : TaskManager σ τ) (type : Bytes)
    (params : Json) (answers : AddAnswers) : Prop :=
  ¬ Succeeded (manager.addTask registry type params answers).1 →
    (manager.addTask registry type params answers).2.tasks = manager.tasks

/-- The call gets a task and a new id for it, and its thread cannot be started. -/
def ThreadFails (registry : TaskRegistry σ τ) (manager : TaskManager σ τ) (type : Bytes)
    (params : Json) (answers : AddAnswers) : Prop :=
  Creates registry manager (.addTask type params answers) ∧
    manager.tasks.lookup (taskId manager.nextTaskId) = none ∧
    ∃ error, answers.spawned = .error error

theorem taskId_ne_nil (number : UInt64) : taskId number ≠ [] := by
  intro empty
  exact decimal_ne_nil _ (List.append_eq_nil_iff.mp empty).2

/-- A call that gets a task ends as its locked section does, on the same map and with a null
pointer. -/
theorem addTask_of_creates {registry : TaskRegistry σ τ} {manager : TaskManager σ τ} {type : Bytes}
    {params : Json} {answers : AddAnswers}
    (creates : Creates registry manager (.addTask type params answers)) :
    ∃ entered : TaskManager σ τ, entered.tasks = manager.tasks ∧
      manager.addTask registry type params answers
        = entered.insertTask (taskId manager.nextTaskId) none answers := by
  obtain ⟨accepting, value, created⟩ := creates
  rcases result : registry.createTask manager.outside type (taskId manager.nextTaskId) params
    with ⟨outcome, outside⟩
  rw [result] at created
  cases created
  refine ⟨{ manager with
    nextTaskId := manager.nextTaskId + 1
    outside := outside
    created := manager.created ++ [taskId manager.nextTaskId] }, rfl, ?_⟩
  simp only [TaskManager.addTask, accepting, result]
  rfl

/-- The locked section keeps the map exactly when the id is taken. -/
theorem tasks_insertTask {manager : TaskManager σ τ} {id : Bytes} {task : UniquePtr τ}
    {answers : AddAnswers} :
    (manager.insertTask id task answers).2.tasks = manager.tasks ↔
      manager.tasks.lookup id ≠ none := by
  unfold insertTask
  cases found : manager.tasks.lookup id with
  | some entry => simp
  | none =>
    have differs : ∀ entry, manager.tasks.insert id entry ≠ manager.tasks := by
      intro entry same
      have lookups := congrArg (AList.lookup id) same
      rw [AList.lookup_insert, found] at lookups
      cases lookups
    cases answers.spawned with
    | error error => exact iff_of_false (differs _) (fun other => other rfl)
    | ok done => exact iff_of_false (differs _) (fun other => other rfl)

/-- The locked section succeeds exactly when the id is new and its thread starts. -/
theorem succeeded_insertTask {manager : TaskManager σ τ} {id : Bytes} {task : UniquePtr τ}
    {answers : AddAnswers} (named : id ≠ []) :
    Succeeded (manager.insertTask id task answers).1 ↔
      manager.tasks.lookup id = none ∧ answers.spawned = .ok () := by
  unfold insertTask
  cases found : manager.tasks.lookup id with
  | some entry => simp [Succeeded]
  | none =>
    cases spawned : answers.spawned with
    | error error => simp [Succeeded]
    | ok done => simpa [Succeeded] using named

/-- **A failed call leaves the map alone, unless its thread fails to start.** For every state of the
manager, registry, type and parameters, and whatever the environment answers. -/
theorem failure_keeps_tasks_iff (registry : TaskRegistry σ τ) (manager : TaskManager σ τ)
    (type : Bytes) (params : Json) (answers : AddAnswers) :
    FailureKeepsTasks registry manager type params answers ↔
      ¬ ThreadFails registry manager type params answers := by
  by_cases creates : Creates registry manager (.addTask type params answers)
  · obtain ⟨entered, same, called⟩ := addTask_of_creates creates
    unfold FailureKeepsTasks ThreadFails
    rw [called, succeeded_insertTask (taskId_ne_nil _), ← same, tasks_insertTask]
    cases entered.tasks.lookup (taskId manager.nextTaskId) with
    | some entry => simp
    | none =>
      cases answers.spawned with
      | error error => simp [creates]
      | ok done => simp
  · refine iff_of_true (fun _ => tasks_addTask creates) ?_
    rintro ⟨other, -⟩
    exact creates other

/-- A heartbeat task whose thread cannot be started: the call throws, and its entry stays. -/
theorem failure_leaves_entry :
    ¬ ∀ (registry : TaskRegistry Counters BuiltinTask) (manager : TaskManager Counters BuiltinTask)
      (type : Bytes) (params : Json) (answers : AddAnswers),
      FailureKeepsTasks registry manager type params answers := by
  intro all
  have kept := all
    ⟨[(ascii "heartbeat", fun counters _ _ => HeartbeatTask.factory counters 5000)]⟩
    (TaskManager.start ⟨0, 0⟩) (ascii "heartbeat") Json.emptyObject
    ⟨0, 0, .error ⟨ascii "Resource temporarily unavailable"⟩⟩ (fun succeeded => succeeded)
  have found := congrArg (fun tasks => (AList.lookup (ascii "task_0") tasks).isSome) kept
  exact Bool.false_ne_true found.symm

end DemoDaemon.Tasks
