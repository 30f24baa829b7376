/-
**The ids that `list_tasks` and `get_task_info` report** (`task_manager.cpp`), for the built-in
tasks.

`TaskRegistry::register_builtin_tasks` is called and defined nowhere; `builtinRegistry` is what can
be said of it: the two types, made by their only constructors. How an interval or a duration is read
off the parameters is left open.

* `Usable`: every listed id can be stopped, and every key reports itself.
* **`usable_iff`**: the store is usable throughout a run if and only if no call of `add_task` in it
  builds a task, since the entry of a task that was built has a null pointer.
* `builtin_id_ne_taskId`: were the task in its entry, it would still report another id than its key.
-/

import DemoDaemon.Tasks.TaskStore

namespace DemoDaemon.Tasks

open Foundation TaskManager

/-! ### The built-in types -/

/-- A factory that reads a period off the parameters and constructs a task with it. -/
def builtinFactory (period : Bytes → Json → Except Exn Int)
    (construct : Counters → Int → Except Exn (Option BuiltinTask) × Counters) :
    Factory Counters BuiltinTask :=
  fun counters id params =>
    match period id params with
    | .error error => (.error error, counters)
    | .ok period => construct counters period

/-- The registry with the two built-in types. -/
def builtinRegistry (interval duration : Bytes → Json → Except Exn Int) :
    TaskRegistry Counters BuiltinTask :=
  ⟨[(ascii "heartbeat", builtinFactory interval HeartbeatTask.factory),
    (ascii "sleep", builtinFactory duration SleepTask.factory)]⟩

/-- A call of `add_task` for a built-in type, before a shutdown, with parameters its factory
accepts. -/
def Builds (interval duration : Bytes → Json → Except Exn Int)
    (manager : TaskManager Counters BuiltinTask) : Operation → Prop
  | .addTask type params _ => manager.shutdownRequested = false ∧
      ((type = ascii "heartbeat" ∧
          ∃ period, interval (taskId manager.nextTaskId) params = .ok period) ∨
        (type = ascii "sleep" ∧
          ∃ period, duration (taskId manager.nextTaskId) params = .ok period))
  | _ => False

theorem builtinFactory_makes {period : Bytes → Json → Except Exn Int}
    {construct : Counters → Int → Except Exn (Option BuiltinTask) × Counters}
    (total : ∀ counters period, ∃ task, (construct counters period).1 = .ok (some task))
    (counters : Counters) (id : Bytes) (params : Json) :
    (∃ task, (builtinFactory period construct counters id params).1 = .ok (some task)) ↔
      ∃ read, period id params = .ok read := by
  unfold builtinFactory
  cases period id params with
  | error error => simp
  | ok read => simp [total counters read]

/-- The built-in registry makes a task exactly for a built-in type and accepted parameters. -/
theorem creates_builtin_iff {interval duration : Bytes → Json → Except Exn Int}
    {manager : TaskManager Counters BuiltinTask} (operation : Operation) :
    Creates (builtinRegistry interval duration) manager operation ↔
      Builds interval duration manager operation := by
  cases operation with
  | addTask type params answers =>
    refine and_congr_right fun _ => ?_
    unfold TaskRegistry.createTask builtinRegistry
    by_cases heartbeat : type = ascii "heartbeat"
    · subst heartbeat
      have other : ascii "heartbeat" ≠ ascii "sleep" := by decide
      simp only [List.lookup_cons_self, other, false_and, or_false, true_and]
      exact builtinFactory_makes (fun _ _ => ⟨_, rfl⟩) _ _ _
    · rw [List.lookup_cons, beq_eq_false_iff_ne.mpr heartbeat]
      by_cases sleep : type = ascii "sleep"
      · subst sleep
        simp only [List.lookup_cons_self, heartbeat, false_and, false_or, true_and]
        exact builtinFactory_makes (fun _ _ => ⟨_, rfl⟩) _ _ _
      · rw [List.lookup_cons, beq_eq_false_iff_ne.mpr sleep]
        simp [heartbeat, sleep]
  | _ => exact Iff.rfl

/-! ### The property -/

section Usable

variable {σ τ : Type} [ITask τ]

/-- Every id that `list_tasks` reports is one that `stop_task` finds, and `get_task_info` reports
every key as the id of its entry. -/
structure Usable (manager : TaskManager σ τ) : Prop where
  listed : ∃ infos, manager.listTasks = .ok infos ∧
    ∀ info ∈ infos, ∃ after, manager.stopTask info.id = .ok (true, after)
  named : ∀ id ∈ manager.tasks, ∃ info, manager.getTaskInfo id = .ok (some info) ∧ info.id = id

/-- Null pointers are not usable. -/
theorem usable_iff_empty {manager : TaskManager σ τ} (null : AllNull manager) :
    Usable manager ↔ manager.tasks = ∅ := by
  constructor
  · intro usable
    apply AList.ext
    rw [AList.empty_entries, List.eq_nil_iff_forall_not_mem]
    intro entry member
    have key : entry.1 ∈ manager.tasks := List.mem_keys_of_mem member
    obtain ⟨info, reported, -⟩ := usable.named entry.1 key
    obtain ⟨stored, found⟩ := Option.isSome_iff_exists.mp (AList.lookup_isSome.mpr key)
    simp only [getTaskInfo, found, infoOf, null _ _ found, UniquePtr.deref] at reported
    cases reported
  · intro empty
    refine ⟨⟨[], ?_, fun info member => absurd member List.not_mem_nil⟩, ?_⟩
    · simp only [listTasks, empty, AList.empty_entries, List.mapM_nil, pure_bind,
        List.mergeSort_nil]
      rfl
    · intro id member
      rw [empty] at member
      exact absurd member (AList.notMem_empty id)

end Usable

/-- **Listed ids are usable, as long as nothing is listed.** From the empty manager, over every run
of operations, and however the parameters of the built-in types are read. -/
theorem usable_iff (interval duration : Bytes → Json → Except Exn Int) (counters : Counters)
    (operations : List Operation) :
    Throughout (performed (builtinRegistry interval duration)) (TaskManager.start counters) Usable
        operations ↔
      Before (performed (builtinRegistry interval duration)) (TaskManager.start counters)
        (fun manager operation => ¬ Builds interval duration manager operation) operations := by
  simp only [← creates_builtin_iff]
  apply throughout_iff_not_creates
  intro manager null
  exact usable_iff_empty null

/-- One heartbeat task: `get_task_info` follows a null pointer for its id. -/
theorem not_usable_one_heartbeat :
    ¬ ∀ (interval duration : Bytes → Json → Except Exn Int) (counters : Counters)
      (operations : List Operation),
      Throughout (performed (builtinRegistry interval duration)) (TaskManager.start counters) Usable
        operations := by
  intro all
  obtain ⟨manager, ran, usable⟩ := all (fun _ _ => .ok 5000) (fun _ _ => .ok 10000) ⟨0, 0⟩
    [.addTask (ascii "heartbeat") Json.emptyObject ⟨0, 0, .ok ()⟩] _ [] (List.append_nil _).symm
  cases ran
  obtain ⟨info, reported, -⟩ := usable.named (ascii "task_0") (by decide)
  cases reported

/-! ### The other id -/

/-- The ids of the classes are never the ids of the manager. -/
theorem builtin_id_ne_taskId (kind : Kind) (number key : UInt64) (period : Int) :
    (BuiltinTask.create kind number period).id ≠ taskId key := by
  intro same
  have heads : kind.name.head? = (ascii "task_").head? := by
    have first := congrArg List.head? same
    cases kind with
    | heartbeat => exact first
    | sleep => exact first
  cases kind with
  | heartbeat => exact absurd heads (by decide)
  | sleep => exact absurd heads (by decide)

end DemoDaemon.Tasks
