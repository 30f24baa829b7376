/-
**What the task store holds**, over every run of operations of the task manager.

* `Owned`: every entry owns the task that `create_task` returned for the entry's id.
* `AllNull`: what is true instead. `add_task` stores the pointer it has already moved from, and no
  operation fills a null pointer; every run keeps this (`allNull_of_run`).
* **`sound_iff`**: the store is sound, and no operation on it follows a null pointer, throughout a
  run if and only if no call of `add_task` in it gets a task to store.
-/

import DemoDaemon.Foundation.Transition
import DemoDaemon.Tasks.Builtin

namespace DemoDaemon.Tasks

open Foundation TaskManager

variable {σ τ : Type} [ITask τ]

/-! ### Runs -/

inductive Operation where
  | addTask (type : Bytes) (params : Json) (answers : AddAnswers)
  | runTask (id : Bytes) (startedAt stoppedAt : Int)
  | stopTask (id : Bytes)
  | stopAllTasks
  | getTaskInfo (id : Bytes)
  | listTasks
  | activeCount

/-- The manager after an operation. -/
def perform (registry : TaskRegistry σ τ) (manager : TaskManager σ τ) :
    Operation → Except Fault (TaskManager σ τ)
  | .addTask type params answers => .ok (manager.addTask registry type params answers).2
  | .runTask id startedAt stoppedAt => manager.runTask id startedAt stoppedAt
  | .stopTask id => (manager.stopTask id).map fun stopped => stopped.2
  | .stopAllTasks => manager.stopAllTasks
  | .getTaskInfo id => (manager.getTaskInfo id).map fun _ => manager
  | .listTasks => manager.listTasks.map fun _ => manager
  | .activeCount => manager.activeCount.map fun _ => manager

/-- A step of a run: a fault ends it. -/
def performed (registry : TaskRegistry σ τ) (manager : TaskManager σ τ) (operation : Operation) :
    Option (TaskManager σ τ) :=
  (perform registry manager operation).toOption

theorem performed_eq_some {registry : TaskRegistry σ τ} {manager after : TaskManager σ τ}
    {operation : Operation} : performed registry manager operation = some after ↔
      perform registry manager operation = .ok after := by
  unfold performed
  cases perform registry manager operation with
  | error fault => simp [Except.toOption]
  | ok other => simp [Except.toOption]

/-! ### The property -/

/-- Every entry owns the task that was created for its id. -/
def Owned (manager : TaskManager σ τ) : Prop :=
  ∀ id entry, manager.tasks.lookup id = some entry →
    ∃ object, entry.task = some object ∧ manager.created[object.address]? = some id

/-- Every entry owns its task, and no operation follows a null pointer. -/
structure Sound (registry : TaskRegistry σ τ) (manager : TaskManager σ τ) : Prop where
  owned : Owned manager
  safe : ∀ operation, perform registry manager operation ≠ .error .nullDereference

/-- A call of `add_task` that gets a task from the registry. -/
def Creates (registry : TaskRegistry σ τ) (manager : TaskManager σ τ) : Operation → Prop
  | .addTask type params _ => manager.shutdownRequested = false ∧
      ∃ value, (registry.createTask manager.outside type (taskId manager.nextTaskId) params).1
        = .ok (some value)
  | _ => False

/-! ### What `add_task` stores -/

omit [ITask τ] in
/-- A call that gets no task leaves the store alone. -/
theorem tasks_addTask {registry : TaskRegistry σ τ} {manager : TaskManager σ τ} {type : Bytes}
    {params : Json} {answers : AddAnswers}
    (none : ¬ Creates registry manager (.addTask type params answers)) :
    (manager.addTask registry type params answers).2.tasks = manager.tasks := by
  unfold TaskManager.addTask
  split_ifs with shutdown
  · rfl
  · dsimp only
    split
    · rfl
    · rfl
    · rename_i value outside created
      refine absurd ⟨Bool.eq_false_iff.mpr shutdown, value, ?_⟩ none
      rw [created]

/-- A call that gets one stores an entry for it. -/
theorem stored_of_creates {registry : TaskRegistry σ τ} {manager after : TaskManager σ τ}
    {operation : Operation} (empty : manager.tasks = ∅)
    (creates : Creates registry manager operation)
    (done : perform registry manager operation = .ok after) : after.tasks ≠ ∅ := by
  cases operation with
  | addTask type params answers =>
    obtain ⟨accepting, value, created⟩ := creates
    cases done
    rcases result : registry.createTask manager.outside type (taskId manager.nextTaskId) params
      with ⟨outcome, outside⟩
    rw [result] at created
    cases created
    have stored : ∃ entry, (manager.addTask registry type params answers).2.tasks
        = (∅ : AList fun _ : Bytes => TaskEntry τ).insert (taskId manager.nextTaskId) entry := by
      simp only [TaskManager.addTask, accepting, result, insertTask, empty, AList.lookup_empty]
      cases answers.spawned with
      | error error => exact ⟨_, rfl⟩
      | ok done => exact ⟨_, rfl⟩
    obtain ⟨entry, stored⟩ := stored
    intro none
    have found := congrArg (AList.lookup (taskId manager.nextTaskId)) (stored.symm.trans none)
    rw [AList.lookup_insert, AList.lookup_empty] at found
    cases found
  | _ => exact creates.elim

/-! ### Null pointers -/

omit [ITask τ] in
theorem except_map_ok {α β : Type} {f : α → β} {result : Except Fault α} {value : β}
    (done : result.map f = .ok value) : ∃ before, result = .ok before ∧ f before = value := by
  cases result with
  | error fault => cases done
  | ok before => exact ⟨before, rfl, Except.ok.inj done⟩

/-- No entry has a task. -/
def AllNull (manager : TaskManager σ τ) : Prop :=
  ∀ id entry, manager.tasks.lookup id = some entry → entry.task = none

omit [ITask τ] in
theorem allNull_insert {manager : TaskManager σ τ} (null : AllNull manager) {id : Bytes}
    {entry : TaskEntry τ} (empty : entry.task = none) :
    AllNull { manager with tasks := manager.tasks.insert id entry } := by
  intro other stored found
  by_cases here : other = id
  · subst here
    rw [AList.lookup_insert] at found
    cases found
    exact empty
  · rw [AList.lookup_insert_ne here] at found
    exact null other stored found

omit [ITask τ] in
/-- **`add_task` stores null.** -/
theorem AllNull.addTask {manager : TaskManager σ τ} (null : AllNull manager)
    (registry : TaskRegistry σ τ) (type : Bytes) (params : Json) (answers : AddAnswers) :
    AllNull (manager.addTask registry type params answers).2 := by
  unfold TaskManager.addTask
  split_ifs
  · exact null
  · dsimp only
    split
    · exact null
    · exact null
    · unfold insertTask
      dsimp only
      split
      · exact null
      · split <;> exact allNull_insert null rfl

/-- A call of `stop_task` that does not fault found nothing. -/
theorem AllNull.stopTask {manager : TaskManager σ τ} (null : AllNull manager) {id : Bytes}
    {stopped : Bool × TaskManager σ τ} (done : manager.stopTask id = .ok stopped) :
    stopped = (false, manager) := by
  unfold TaskManager.stopTask at done
  cases found : manager.tasks.lookup id with
  | none =>
    rw [found] at done
    cases done
    rfl
  | some entry =>
    rw [found] at done
    simp only [null id entry found, UniquePtr.deref] at done
    cases done

theorem AllNull.runTask {manager after : TaskManager σ τ} (null : AllNull manager) {id : Bytes}
    {startedAt stoppedAt : Int} (done : manager.runTask id startedAt stoppedAt = .ok after) :
    after = manager := by
  unfold TaskManager.runTask at done
  cases found : manager.tasks.lookup id with
  | none =>
    rw [found] at done
    cases done
    rfl
  | some entry =>
    rw [found] at done
    simp only [runEntry, null id entry found, UniquePtr.deref] at done
    cases done

theorem AllNull.stopAllTasks {manager after : TaskManager σ τ} (null : AllNull manager)
    (done : manager.stopAllTasks = .ok after) : AllNull after := by
  unfold TaskManager.stopAllTasks at done
  generalize manager.tasks.keys = ids at done
  have start : AllNull { manager with shutdownRequested := true } := null
  generalize { manager with shutdownRequested := true } = current at start done
  induction ids with
  | nil =>
    cases done
    exact start
  | cons id ids ih =>
    rw [List.foldlM_cons] at done
    cases stopped : current.stopTask id with
    | error fault =>
      rw [stopped] at done
      cases done
    | ok result =>
      rw [stopped, start.stopTask stopped] at done
      exact ih done

/-- **Step: every operation keeps the null pointers null.** -/
theorem AllNull.perform {registry : TaskRegistry σ τ} {manager after : TaskManager σ τ}
    (null : AllNull manager) {operation : Operation}
    (done : perform registry manager operation = .ok after) : AllNull after := by
  cases operation with
  | addTask type params answers =>
    cases done
    exact null.addTask registry type params answers
  | runTask id startedAt stoppedAt =>
    rw [null.runTask done]
    exact null
  | stopTask id =>
    obtain ⟨stopped, found, rfl⟩ := except_map_ok done
    rw [null.stopTask found]
    exact null
  | stopAllTasks => exact null.stopAllTasks done
  | getTaskInfo id =>
    obtain ⟨-, -, rfl⟩ := except_map_ok done
    exact null
  | listTasks =>
    obtain ⟨-, -, rfl⟩ := except_map_ok done
    exact null
  | activeCount =>
    obtain ⟨-, -, rfl⟩ := except_map_ok done
    exact null

omit [ITask τ] in
theorem allNull_start (outside : σ) : AllNull (TaskManager.start outside : TaskManager σ τ) := by
  intro id entry found
  simp [TaskManager.start] at found

/-- **Run.** -/
theorem allNull_of_run {registry : TaskRegistry σ τ} {outside : σ} {operations : List Operation}
    {manager : TaskManager σ τ}
    (ran : run (performed registry) (TaskManager.start outside) operations = some manager) :
    AllNull manager := by
  refine run_induction (performed registry) _ (motive := fun _ manager => AllNull manager)
    (allNull_start outside) ?_ ran
  intro _ operation before after _ null done
  exact null.perform (performed_eq_some.mp done)

/-! ### The empty store -/

omit [ITask τ] in
/-- A store of null pointers is sound only when it is empty. -/
theorem Owned.empty {manager : TaskManager σ τ} (owned : Owned manager) (null : AllNull manager) :
    manager.tasks = ∅ := by
  have none : ∀ id, manager.tasks.lookup id = none := by
    intro id
    cases found : manager.tasks.lookup id with
    | none => rfl
    | some entry =>
      obtain ⟨object, holds, -⟩ := owned id entry found
      rw [null id entry found] at holds
      cases holds
  apply AList.ext
  rw [AList.empty_entries, List.eq_nil_iff_forall_not_mem]
  intro entry member
  exact AList.lookup_eq_none.mp (none entry.1) (List.mem_keys_of_mem member)

/-- On an empty store nothing faults. -/
theorem perform_empty (registry : TaskRegistry σ τ) {manager : TaskManager σ τ}
    (empty : manager.tasks = ∅) (operation : Operation) :
    ∃ after, perform registry manager operation = .ok after ∧
      (¬ Creates registry manager operation → after.tasks = ∅) := by
  have missing : ∀ id, manager.tasks.lookup id = none := by simp [empty]
  cases operation with
  | addTask type params answers =>
    refine ⟨_, rfl, fun creates => ?_⟩
    rw [tasks_addTask creates, empty]
  | runTask id startedAt stoppedAt =>
    refine ⟨manager, ?_, fun _ => empty⟩
    simp [perform, TaskManager.runTask, missing]
  | stopTask id =>
    refine ⟨manager, ?_, fun _ => empty⟩
    simp [perform, TaskManager.stopTask, missing, Except.map]
  | stopAllTasks =>
    refine ⟨{ manager with shutdownRequested := true }, ?_, fun _ => empty⟩
    simp only [perform, TaskManager.stopAllTasks, empty, AList.keys_empty, List.foldlM_nil]
    rfl
  | getTaskInfo id =>
    refine ⟨manager, ?_, fun _ => empty⟩
    simp [perform, TaskManager.getTaskInfo, missing, Except.map]
  | listTasks =>
    refine ⟨manager, ?_, fun _ => empty⟩
    simp only [perform, TaskManager.listTasks, empty, AList.empty_entries, List.mapM_nil]
    rfl
  | activeCount =>
    refine ⟨manager, ?_, fun _ => empty⟩
    simp only [perform, TaskManager.activeCount, empty, AList.empty_entries, List.mapM_nil]
    rfl

/-- A store of null pointers is sound exactly when it is empty. -/
theorem sound_iff_empty (registry : TaskRegistry σ τ) {manager : TaskManager σ τ}
    (null : AllNull manager) : Sound registry manager ↔ manager.tasks = ∅ := by
  constructor
  · intro sound
    exact sound.owned.empty null
  · intro empty
    refine ⟨?_, ?_⟩
    · intro id entry found
      simp [empty] at found
    · intro operation
      obtain ⟨after, done, -⟩ := perform_empty registry empty operation
      rw [done]
      exact nofun

/-- **The exact rule for the store.** What is true of a store of null pointers only when it is empty
holds throughout a run if and only if no call of `add_task` in it gets a task. -/
theorem throughout_iff_not_creates (registry : TaskRegistry σ τ) {holds : TaskManager σ τ → Prop}
    (empty : ∀ {manager}, AllNull manager → (holds manager ↔ manager.tasks = ∅)) (outside : σ)
    (operations : List Operation) :
    Throughout (performed registry) (TaskManager.start outside) holds operations ↔
      Before (performed registry) (TaskManager.start outside)
        (fun manager operation => ¬ Creates registry manager operation) operations := by
  apply throughout_iff_before
  · exact (empty (allNull_start outside)).mpr rfl
  · intro earlier manager ran held operation
    have null := allNull_of_run ran
    rw [empty null] at held
    obtain ⟨after, done, kept⟩ := perform_empty registry held operation
    have afterNull := null.perform done
    constructor
    · rintro ⟨other, did, otherHolds⟩ creates
      rw [performed_eq_some, done] at did
      cases did
      rw [empty afterNull] at otherHolds
      exact stored_of_creates held creates done otherHolds
    · intro quiet
      exact ⟨after, performed_eq_some.mpr done, (empty afterNull).mpr (kept quiet)⟩

/-- **Soundness of the store.** From the empty manager, and over every run of operations: every
entry owns the task created for its id and no operation would follow a null pointer, in every state
of the run, if and only if no call of `add_task` in it gets a task from the registry. -/
theorem sound_iff (registry : TaskRegistry σ τ) (outside : σ) (operations : List Operation) :
    Throughout (performed registry) (TaskManager.start outside) (Sound registry) operations ↔
      Before (performed registry) (TaskManager.start outside)
        (fun manager operation => ¬ Creates registry manager operation) operations := by
  apply throughout_iff_not_creates
  intro manager null
  exact sound_iff_empty registry null

/-- One heartbeat task is enough: its entry has no task. -/
theorem not_sound_one_heartbeat :
    ¬ ∀ (registry : TaskRegistry Counters BuiltinTask) (outside : Counters)
      (operations : List Operation),
      Throughout (performed registry) (TaskManager.start outside) (Sound registry) operations := by
  intro all
  obtain ⟨manager, ran, sound⟩ := all
    ⟨[(ascii "heartbeat", fun counters _ _ => HeartbeatTask.factory counters 5000)]⟩ ⟨0, 0⟩
    [.addTask (ascii "heartbeat") Json.emptyObject ⟨0, 0, .ok ()⟩] _ [] (List.append_nil _).symm
  cases ran
  obtain ⟨object, holds, -⟩ := sound.owned (ascii "task_0") _ rfl
  cases holds

end DemoDaemon.Tasks
