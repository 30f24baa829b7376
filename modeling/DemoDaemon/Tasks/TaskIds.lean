/-
**The ids of tasks, among concurrent callers** (`task_manager.cpp`): any number of calls of
`add_task`, `stop_task` and `stop_all_tasks`, and the threads of the entries.

The calls work on the manager of `TaskManager`. Every load, store or `fetch_add` of an atomic
variable, every call of `create_task` and every section under the mutex is one action, and a run is
any order of actions that each caller allows. What a thread writes into its own entry is left open.
A null pointer that `stop_task` follows has no effect here (`TaskStore` is about that).

* `callerStep`: one action. `addTask_alone`: the actions of one call, without others between them,
  are `add_task`.
* `Numbered`: the k-th `fetch_add` made the k-th id, and only its caller can have that id.
* **`task_ids_unique`**: the ids returned are distinct and stay in the map, and no call finds its id
  taken.
-/

import Mathlib.Data.Finset.Card
import DemoDaemon.Tasks.AddTask

namespace DemoDaemon.Tasks

open Foundation TaskManager

/-! ### State -/

/-- Where a call of `add_task` is. -/
inductive AddProgress (τ : Type) where
  | entering
  | numbering
  | creating (id : Bytes)
  /-- In front of the locked section, with the local `task`. -/
  | inserting (id : Bytes) (task : UniquePtr τ)
  | returned (id : Bytes)
  | threw (error : Exn)

/-- How a call ends. -/
def AddProgress.ended {τ : Type} : Except Exn Bytes → AddProgress τ
  | .ok id => .returned id
  | .error error => .threw error

/-- Where a call of `stop_task` or `stop_all_tasks` is. In `stop_task` the second argument is what
the `stop_all_tasks` around it has still to stop, if there is one. -/
inductive StopProgress where
  | ready
  | snapshotting
  | finding (id : Bytes) (rest : Option (List Bytes))
  | requesting (id : Bytes) (rest : Option (List Bytes))
  | locking
  /-- In the wait of `stop_all_tasks`, with the mutex. -/
  | waiting
  | returned

/-- Behind a `stop_task`: the next one, the wait, or the end. -/
def StopProgress.afterStop : Option (List Bytes) → StopProgress
  | none => .returned
  | some [] => .locking
  | some (id :: rest) => .finding id (some rest)

structure Callers (σ τ : Type) where
  manager : TaskManager σ τ
  adders : Nat → AddProgress τ
  stoppers : Nat → StopProgress
  /-- The mutex is held by a wait. -/
  locked : Bool

namespace Callers

variable {σ τ : Type}

/-- A new manager, and nobody has begun. -/
def start (outside : σ) : Callers σ τ :=
  ⟨.start outside, fun _ => .entering, fun _ => .ready, false⟩

def setAdder (callers : Callers σ τ) (adder : Nat) (point : AddProgress τ) : Callers σ τ :=
  { callers with adders := fun other => if other = adder then point else callers.adders other }

def setStopper (callers : Callers σ τ) (stopper : Nat) (point : StopProgress) : Callers σ τ :=
  { callers with
    stoppers := fun other => if other = stopper then point else callers.stoppers other }

def setManager (callers : Callers σ τ) (manager : TaskManager σ τ) : Callers σ τ :=
  { callers with manager }

variable {callers : Callers σ τ} {adder : Nat} {point : AddProgress τ}

theorem adders_setAdder_same : (callers.setAdder adder point).adders adder = point := if_pos rfl

theorem adders_setAdder_other {other : Nat} (different : other ≠ adder) :
    (callers.setAdder adder point).adders other = callers.adders other :=
  if_neg different

theorem setAdder_setAdder {later : AddProgress τ} :
    ((callers.setAdder adder point).setAdder adder later) = callers.setAdder adder later := by
  unfold setAdder
  congr 1
  funext other
  split_ifs with here
  · rfl
  · exact if_neg here

end Callers

open Callers

/-! ### Actions -/

inductive CallerAction (τ : Type) where
  /-- `add_task`: the load of the flag. -/
  | load (adder : Nat)
  /-- `add_task`: `next_task_id_.fetch_add(1)`. -/
  | number (adder : Nat)
  /-- `add_task`: `create_task`. -/
  | create (adder : Nat)
  /-- `add_task`: the locked section, and the return. -/
  | insert (adder : Nat) (answers : AddAnswers)
  /-- `stop_task` is called. -/
  | stopTask (stopper : Nat) (id : Bytes)
  /-- `stop_all_tasks` is called, and stores the flag. -/
  | stopAllTasks (stopper : Nat)
  /-- `stop_all_tasks`: the locked copy of the ids, in the order of the map. -/
  | snapshot (stopper : Nat) (order : List Bytes)
  /-- `stop_task`: the locked look-up. -/
  | find (stopper : Nat)
  /-- `stop_task`: the two requests. -/
  | request (stopper : Nat)
  /-- `stop_all_tasks`: the lock of the wait. -/
  | lock (stopper : Nat)
  | unlock (stopper : Nat)
  /-- The thread of an entry writes into it. -/
  | thread (id : Bytes) (write : TaskEntry τ → TaskEntry τ)

section Step

variable {σ τ : Type} [ITask τ] (registry : TaskRegistry σ τ) (calls : Nat → Bytes × Json)

/-- What `stop_task` does to an entry. -/
def TaskEntry.requested (entry : TaskEntry τ) : TaskEntry τ :=
  { entry with
    stopRequested := true
    task := entry.task.map fun object => { object with value := ITask.requestStop object.value } }

/-- One action; `calls` are the arguments of the calls of `add_task`. -/
def callerStep (callers : Callers σ τ) : CallerAction τ → Option (Callers σ τ)
  | .load adder =>
    match callers.adders adder with
    | .entering =>
      some (callers.setAdder adder
        (if callers.manager.shutdownRequested then .returned [] else .numbering))
    | _ => none
  | .number adder =>
    match callers.adders adder with
    | .numbering =>
      some ((callers.setManager { callers.manager with
        nextTaskId := callers.manager.nextTaskId + 1 }).setAdder adder
          (.creating (taskId callers.manager.nextTaskId)))
    | _ => none
  | .create adder =>
    match callers.adders adder with
    | .creating id =>
      match registry.createTask callers.manager.outside (calls adder).1 id (calls adder).2 with
      | (.error error, outside) =>
        some ((callers.setManager { callers.manager with outside }).setAdder adder (.threw error))
      | (.ok none, outside) =>
        some ((callers.setManager { callers.manager with outside }).setAdder adder (.returned []))
      | (.ok (some value), outside) =>
        let task : UniquePtr τ := some ⟨callers.manager.created.length, value⟩
        -- the first `entry` of the source has taken the task
        some ((callers.setManager { callers.manager with
          outside, created := callers.manager.created ++ [id] }).setAdder adder
            (.inserting id task.move.2))
    | _ => none
  | .insert adder answers =>
    match callers.adders adder with
    | .inserting id task =>
      if callers.locked then none
      else
        let inserted := callers.manager.insertTask id task answers
        some ((callers.setManager inserted.2).setAdder adder (.ended inserted.1))
    | _ => none
  | .stopTask stopper id =>
    match callers.stoppers stopper with
    | .ready => some (callers.setStopper stopper (.finding id none))
    | _ => none
  | .stopAllTasks stopper =>
    match callers.stoppers stopper with
    | .ready =>
      some ((callers.setManager { callers.manager with
        shutdownRequested := true }).setStopper stopper .snapshotting)
    | _ => none
  | .snapshot stopper order =>
    match callers.stoppers stopper with
    | .snapshotting =>
      if !callers.locked && decide (order.Perm callers.manager.tasks.keys) then
        some (callers.setStopper stopper (.afterStop (some order)))
      else none
    | _ => none
  | .find stopper =>
    match callers.stoppers stopper with
    | .finding id rest =>
      if callers.locked then none
      else
        some (callers.setStopper stopper
          (if id ∈ callers.manager.tasks then .requesting id rest else .afterStop rest))
    | _ => none
  | .request stopper =>
    match callers.stoppers stopper with
    | .requesting id rest =>
      (callers.manager.tasks.lookup id).map fun entry =>
        (callers.setManager { callers.manager with
          tasks := callers.manager.tasks.insert id entry.requested }).setStopper stopper
            (.afterStop rest)
    | _ => none
  | .lock stopper =>
    match callers.stoppers stopper with
    | .locking =>
      if callers.locked then none
      else some ({ callers with locked := true }.setStopper stopper .waiting)
    | _ => none
  | .unlock stopper =>
    match callers.stoppers stopper with
    | .waiting => some ({ callers with locked := false }.setStopper stopper .returned)
    | _ => none
  | .thread id write =>
    (callers.manager.tasks.lookup id).map fun entry =>
      callers.setManager { callers.manager with
        tasks := callers.manager.tasks.insert id (write entry) }

end Step

/-! ### One call alone -/

section Alone

variable {σ τ : Type} [ITask τ] (registry : TaskRegistry σ τ) (calls : Nat → Bytes × Json)

/-- Behind the `fetch_add` of a call. -/
def Callers.numbered (callers : Callers σ τ) (adder : Nat) : Callers σ τ :=
  (callers.setManager { callers.manager with
    nextTaskId := callers.manager.nextTaskId + 1 }).setAdder adder
      (.creating (taskId callers.manager.nextTaskId))

/-- Behind a `create_task` that returned a task. -/
def Callers.created (callers : Callers σ τ) (adder : Nat) (id : Bytes) (outside : σ) :
    Callers σ τ :=
  (callers.setManager { callers.manager with
    outside, created := callers.manager.created ++ [id] }).setAdder adder (.inserting id none)

variable {before : Callers σ τ} {adder : Nat}

theorem run_numbered (entering : before.adders adder = .entering)
    (accepting : before.manager.shutdownRequested = false) :
    run (callerStep registry calls) before [.load adder, .number adder]
      = some (before.numbered adder) := by
  have loaded : callerStep registry calls before (.load adder)
      = some (before.setAdder adder .numbering) := by
    simp only [callerStep, entering, accepting]
    rfl
  have twice : (((before.setManager { before.manager with
      nextTaskId := before.manager.nextTaskId + 1 }).setAdder adder .numbering).setAdder adder
        (.creating (taskId before.manager.nextTaskId))) = before.numbered adder :=
    setAdder_setAdder
  have taken : callerStep registry calls (before.setAdder adder .numbering) (.number adder)
      = some (before.numbered adder) := by
    simp only [callerStep, adders_setAdder_same]
    exact congrArg some twice
  simp [run, loaded, taken]

theorem run_created (entering : before.adders adder = .entering)
    (accepting : before.manager.shutdownRequested = false) :
    run (callerStep registry calls) before [.load adder, .number adder, .create adder]
      = callerStep registry calls (before.numbered adder) (.create adder) := by
  show run _ before ([CallerAction.load adder, .number adder] ++ [CallerAction.create adder]) = _
  rw [run_concat, run_numbered registry calls entering accepting, Option.bind_some]

theorem callerStep_insert {id : Bytes} {task : UniquePtr τ} (free : before.locked = false)
    (here : before.adders adder = .inserting id task) (answers : AddAnswers) :
    callerStep registry calls before (.insert adder answers)
      = some ((before.setManager (before.manager.insertTask id task answers).2).setAdder adder
          (.ended (before.manager.insertTask id task answers).1)) := by
  simp only [callerStep, here, free]
  rfl

/-- **The actions of a call, without others between them, are `add_task`.** -/
theorem addTask_alone (free : before.locked = false) (entering : before.adders adder = .entering)
    (answers : AddAnswers) :
    ∃ actions after, run (callerStep registry calls) before actions = some after ∧
      after.manager
        = (before.manager.addTask registry (calls adder).1 (calls adder).2 answers).2 ∧
      after.adders adder
        = .ended (before.manager.addTask registry (calls adder).1 (calls adder).2 answers).1 := by
  cases shutdown : before.manager.shutdownRequested with
  | true =>
    refine ⟨[.load adder], before.setAdder adder (.returned []), ?_, ?_, ?_⟩
    · simp [run, callerStep, entering, shutdown]
    · simp [Callers.setAdder, TaskManager.addTask, shutdown]
    · simp [Callers.setAdder, TaskManager.addTask, shutdown, AddProgress.ended]
  | false =>
    have called : before.manager.addTask registry (calls adder).1 (calls adder).2 answers
        = (match registry.createTask before.manager.outside (calls adder).1
            (taskId before.manager.nextTaskId) (calls adder).2 with
          | (.error error, outside) =>
            (.error error, { (before.numbered adder).manager with outside })
          | (.ok none, outside) => (.ok [], { (before.numbered adder).manager with outside })
          | (.ok (some _), outside) =>
            ((before.numbered adder).created adder (taskId before.manager.nextTaskId)
              outside).manager.insertTask (taskId before.manager.nextTaskId) none answers) := by
      rw [TaskManager.addTask, if_neg (Bool.eq_false_iff.mp shutdown)]
      rfl
    have created := run_created registry calls entering shutdown
    have here : (before.numbered adder).adders adder
        = .creating (taskId before.manager.nextTaskId) := adders_setAdder_same
    have outsideSame : (before.numbered adder).manager.outside = before.manager.outside := rfl
    rcases result : registry.createTask before.manager.outside (calls adder).1
      (taskId before.manager.nextTaskId) (calls adder).2 with ⟨outcome, outside⟩
    simp only [callerStep, here] at created
    rw [outsideSame, result] at created
    rw [called, result]
    rcases outcome with error | _ | value
    · exact ⟨_, _, created, rfl, adders_setAdder_same⟩
    · exact ⟨_, _, created, rfl, adders_setAdder_same⟩
    · have made : run (callerStep registry calls) before
          [.load adder, .number adder, .create adder]
          = some ((before.numbered adder).created adder (taskId before.manager.nextTaskId)
              outside) := created
      have stillFree : ((before.numbered adder).created adder (taskId before.manager.nextTaskId)
          outside).locked = false := free
      have inserted := (run_concat_iff (callerStep registry calls) before).mpr
        ⟨_, made, callerStep_insert registry calls stillFree adders_setAdder_same answers⟩
      exact ⟨_, _, inserted, rfl, adders_setAdder_same⟩

end Alone

/-! ### What an action can do -/

section Effects

variable {σ τ : Type}

/-- The caller that takes a number. -/
def CallerAction.numbers : CallerAction τ → Option Nat
  | .number adder => some adder
  | _ => none

/-- The calls of `add_task`, the counter and the keys of the map are the same. -/
structure Aside (before after : Callers σ τ) : Prop where
  adders : after.adders = before.adders
  next : after.manager.nextTaskId = before.manager.nextTaskId
  keys : ∀ id, id ∈ after.manager.tasks ↔ id ∈ before.manager.tasks

/-- A call moves on, without a number or an entry. -/
inductive Advances : AddProgress τ → AddProgress τ → Prop
  | refused : Advances .entering (.returned [])
  | accepted : Advances .entering .numbering
  | thrown (id : Bytes) (error : Exn) : Advances (.creating id) (.threw error)
  | null (id : Bytes) : Advances (.creating id) (.returned [])
  | made (id : Bytes) (task : UniquePtr τ) : Advances (.creating id) (.inserting id task)

/-- **Everything an action can do** to the calls of `add_task`. -/
inductive Effect (action : CallerAction τ) (before after : Callers σ τ) : Prop
  | aside (quiet : action.numbers = none) (same : Aside before after)
  | advance (quiet : action.numbers = none) (adder : Nat) (point : AddProgress τ)
      (moves : Advances (before.adders adder) point)
      (same : Aside (before.setAdder adder point) after)
  | number (adder : Nat) (numbers : action.numbers = some adder)
      (here : before.adders adder = .numbering)
      (same : Aside ((before.setManager { before.manager with
        nextTaskId := before.manager.nextTaskId + 1 }).setAdder adder
          (.creating (taskId before.manager.nextTaskId))) after)
  | insert (quiet : action.numbers = none) (adder : Nat) (id : Bytes) (task : UniquePtr τ)
      (answers : AddAnswers) (here : before.adders adder = .inserting id task)
      (same : Aside ((before.setManager (before.manager.insertTask id task answers).2).setAdder
        adder (.ended (before.manager.insertTask id task answers).1)) after)

theorem Aside.refl (callers : Callers σ τ) : Aside callers callers := ⟨rfl, rfl, fun _ => Iff.rfl⟩

/-- Replacing an entry that is there keeps the keys. -/
theorem mem_insert_of_lookup {tasks : AList fun _ : Bytes => TaskEntry τ} {id : Bytes}
    {entry other : TaskEntry τ} (found : tasks.lookup id = some entry) (key : Bytes) :
    key ∈ tasks.insert id other ↔ key ∈ tasks := by
  have here : id ∈ tasks := AList.lookup_isSome.mp (by rw [found]; rfl)
  rw [AList.mem_insert]
  constructor
  · rintro (rfl | member)
    · exact here
    · exact member
  · exact Or.inr

variable [ITask τ] {registry : TaskRegistry σ τ} {calls : Nat → Bytes × Json}

theorem effect_of_step {before after : Callers σ τ} {action : CallerAction τ}
    (stepped : callerStep registry calls before action = some after) :
    Effect action before after := by
  cases action with
  | load adder =>
    simp only [callerStep] at stepped
    split at stepped
    · rename_i here
      cases stepped
      refine .advance rfl adder _ ?_ (Aside.refl _)
      rw [here]
      split_ifs
      · exact .refused
      · exact .accepted
    · cases stepped
  | number adder =>
    simp only [callerStep] at stepped
    split at stepped
    · rename_i here
      cases stepped
      exact .number adder rfl here (Aside.refl _)
    · cases stepped
  | create adder =>
    simp only [callerStep] at stepped
    split at stepped
    · rename_i id here
      split at stepped
      · rename_i error outside _
        cases stepped
        exact .advance rfl adder (.threw error) (here ▸ .thrown id error)
          ⟨rfl, rfl, fun _ => Iff.rfl⟩
      · cases stepped
        exact .advance rfl adder (.returned []) (here ▸ .null id) ⟨rfl, rfl, fun _ => Iff.rfl⟩
      · cases stepped
        exact .advance rfl adder (.inserting id none) (here ▸ .made id none)
          ⟨rfl, rfl, fun _ => Iff.rfl⟩
    · cases stepped
  | insert adder answers =>
    simp only [callerStep] at stepped
    split at stepped
    · rename_i id task here
      split_ifs at stepped
      cases stepped
      exact .insert rfl adder id task answers here (Aside.refl _)
    · cases stepped
  | stopTask _ _ | stopAllTasks _ | unlock _ =>
    simp only [callerStep] at stepped
    split at stepped
    · cases stepped
      exact .aside rfl ⟨rfl, rfl, fun _ => Iff.rfl⟩
    · cases stepped
  | snapshot _ _ | lock _ =>
    simp only [callerStep] at stepped
    split at stepped
    · split_ifs at stepped
      cases stepped
      exact .aside rfl ⟨rfl, rfl, fun _ => Iff.rfl⟩
    · cases stepped
  | find stopper =>
    simp only [callerStep] at stepped
    split at stepped
    · split_ifs at stepped <;> cases stepped <;> exact .aside rfl ⟨rfl, rfl, fun _ => Iff.rfl⟩
    · cases stepped
  | request stopper =>
    simp only [callerStep] at stepped
    split at stepped
    · obtain ⟨entry, found, rfl⟩ := Option.map_eq_some_iff.mp stepped
      exact .aside rfl ⟨rfl, rfl, fun key => mem_insert_of_lookup found key⟩
    · cases stepped
  | thread id write =>
    obtain ⟨entry, found, rfl⟩ := Option.map_eq_some_iff.mp stepped
    exact .aside rfl ⟨rfl, rfl, fun key => mem_insert_of_lookup found key⟩

end Effects

/-! ### Numbers -/

section Numbers

variable {σ τ : Type}

/-- A call has no number yet. -/
inductive AddProgress.Early : AddProgress τ → Prop
  | entering : Early .entering
  | numbering : Early .numbering

/-- A call has an id, which it has not lost. -/
inductive AddProgress.Has : AddProgress τ → Bytes → Prop
  | creating (id : Bytes) : Has (.creating id) id
  | inserting (id : Bytes) (task : UniquePtr τ) : Has (.inserting id task) id
  | returned (id : Bytes) (named : id ≠ []) : Has (.returned id) id

/-- A call is over. -/
inductive AddProgress.Over : AddProgress τ → Prop
  | returned (id : Bytes) : Over (.returned id)
  | threw (error : Exn) : Over (.threw error)

/-- What the locked section of `add_task` does to the keys, and the id it returns. -/
structure Inserted (id : Bytes) (before : TaskManager σ τ) (outcome : Except Exn Bytes)
    (after : TaskManager σ τ) : Prop where
  next : after.nextTaskId = before.nextTaskId
  keeps : ∀ key ∈ before.tasks, key ∈ after.tasks
  only : ∀ key ∈ after.tasks, key = id ∨ key ∈ before.tasks
  returned : ∀ key, outcome = .ok key → key ≠ [] → key = id ∧ id ∈ after.tasks

theorem insertTask_spec (manager : TaskManager σ τ) (id : Bytes) (task : UniquePtr τ)
    (answers : AddAnswers) :
    Inserted id manager (manager.insertTask id task answers).1
      (manager.insertTask id task answers).2 := by
  unfold insertTask
  cases manager.tasks.lookup id with
  | some entry =>
    refine ⟨rfl, fun _ member => member, fun _ => Or.inr, ?_⟩
    rintro key same named
    cases same
    exact absurd rfl named
  | none =>
    cases answers.spawned with
    | error error =>
      refine ⟨rfl, fun _ member => (AList.mem_insert _).mpr (.inr member),
        fun _ member => (AList.mem_insert _).mp member, ?_⟩
      intro key same
      cases same
    | ok done =>
      refine ⟨rfl, fun _ member => (AList.mem_insert _).mpr (.inr member),
        fun _ member => (AList.mem_insert _).mp member, ?_⟩
      intro key same _
      cases same
      exact ⟨rfl, (AList.mem_insert _).mpr (.inl rfl)⟩

/-- `numbered` lists the callers that have taken a number, in order: the ids of calls and the keys
of the map are made of those numbers, a key by a call that is over. -/
structure Numbered (numbered : List Nat) (callers : Callers σ τ) : Prop where
  next : callers.manager.nextTaskId = UInt64.ofNat numbered.length
  once : numbered.Nodup
  past : ∀ adder ∈ numbered, ¬ (callers.adders adder).Early
  has : ∀ adder id, (callers.adders adder).Has id →
    ∃ number, numbered[number]? = some adder ∧ id = taskId (.ofNat number)
  key : ∀ id ∈ callers.manager.tasks, ∃ adder number, numbered[number]? = some adder ∧
    id = taskId (.ofNat number) ∧ (callers.adders adder).Over
  stored : ∀ adder id, callers.adders adder = .returned id → id ≠ [] → id ∈ callers.manager.tasks

theorem Numbered.aside {numbered : List Nat} {before after : Callers σ τ}
    (holds : Numbered numbered before) (same : Aside before after) : Numbered numbered after where
  next := same.next.trans holds.next
  once := holds.once
  past := by
    rw [same.adders]
    exact holds.past
  has := by
    rw [same.adders]
    exact holds.has
  key := by
    intro id member
    rw [same.adders]
    exact holds.key id ((same.keys id).mp member)
  stored := by
    intro adder id here named
    rw [same.adders] at here
    exact (same.keys id).mpr (holds.stored adder id here named)

theorem numbered_start (outside : σ) : Numbered [] (Callers.start outside : Callers σ τ) where
  next := rfl
  once := List.nodup_nil
  past := fun adder member => absurd member List.not_mem_nil
  has := fun adder id has => by cases has
  key := fun id member => absurd member (AList.notMem_empty id)
  stored := fun adder id here => by cases here

theorem getElem?_append_of_some {before after : List Nat} {position value : Nat}
    (found : before[position]? = some value) : (before ++ after)[position]? = some value := by
  rw [List.getElem?_append_left (List.getElem?_eq_some_iff.mp found).1, found]

section Move

variable {numbered : List Nat} {before : Callers σ τ} {adder : Nat} {point : AddProgress τ}

theorem Advances.not_over {source : AddProgress τ} (moves : Advances source point) :
    ¬ source.Over := by
  intro finished
  cases moves <;> cases finished

/-- A call that is over stays so, when another one moves. -/
theorem over_setAdder {other : Nat} (busy : ¬ (before.adders adder).Over)
    (finished : (before.adders other).Over) :
    ((before.setAdder adder point).adders other).Over := by
  have different : other ≠ adder := by
    rintro rfl
    exact busy finished
  rw [adders_setAdder_other different]
  exact finished

theorem Numbered.advance (holds : Numbered numbered before)
    (moves : Advances (before.adders adder) point) : Numbered numbered (before.setAdder adder point)
    where
  next := holds.next
  once := holds.once
  past := by
    intro other member
    by_cases here : other = adder
    · subst here
      rw [adders_setAdder_same]
      have past := holds.past other member
      generalize before.adders other = source at moves past
      intro early
      cases moves with
      | refused => exact past .entering
      | accepted => exact past .entering
      | thrown => cases early
      | null => cases early
      | made => cases early
    · rw [adders_setAdder_other here]
      exact holds.past other member
  has := by
    intro other id has
    by_cases here : other = adder
    · subst here
      rw [adders_setAdder_same] at has
      refine holds.has other id ?_
      generalize before.adders other = source at moves
      cases moves with
      | refused => cases has with | returned _ named => exact absurd rfl named
      | accepted => cases has
      | thrown => cases has
      | null => cases has with | returned _ named => exact absurd rfl named
      | made => cases has with | inserting => exact .creating id
    · rw [adders_setAdder_other here] at has
      exact holds.has other id has
  key := by
    intro id member
    obtain ⟨other, number, position, made, finished⟩ := holds.key id member
    exact ⟨other, number, position, made, over_setAdder moves.not_over finished⟩
  stored := by
    intro other id returned named
    by_cases here : other = adder
    · subst here
      rw [adders_setAdder_same] at returned
      subst returned
      generalize before.adders other = source at moves
      cases moves <;> exact absurd rfl named
    · rw [adders_setAdder_other here] at returned
      exact holds.stored other id returned named

/-- **A call takes a number.** -/
theorem Numbered.number (holds : Numbered numbered before)
    (here : before.adders adder = .numbering) :
    Numbered (numbered ++ [adder]) ((before.setManager { before.manager with
      nextTaskId := before.manager.nextTaskId + 1 }).setAdder adder
        (.creating (taskId before.manager.nextTaskId))) where
  next := by
    rw [List.length_append, List.length_singleton, UInt64.ofNat_add, ← holds.next]
    rfl
  once := by
    rw [← List.concat_eq_append]
    refine holds.once.concat fun member => ?_
    exact holds.past adder member (here ▸ .numbering)
  past := by
    intro other member
    by_cases same : other = adder
    · subst same
      rw [adders_setAdder_same]
      intro early
      cases early
    · rw [adders_setAdder_other same]
      rw [List.mem_append, List.mem_singleton, or_iff_left same] at member
      exact holds.past other member
  has := by
    intro other id has
    by_cases same : other = adder
    · subst same
      rw [adders_setAdder_same] at has
      cases has with
      | creating =>
        refine ⟨numbered.length, List.getElem?_concat_length, ?_⟩
        rw [holds.next]
    · rw [adders_setAdder_other same] at has
      obtain ⟨number, position, made⟩ := holds.has other id has
      exact ⟨number, getElem?_append_of_some position, made⟩
  key := by
    intro id member
    obtain ⟨other, number, position, made, finished⟩ := holds.key id member
    have busy : ¬ (before.adders adder).Over := by
      rw [here]
      rintro ⟨⟩
    exact ⟨other, number, getElem?_append_of_some position, made, over_setAdder busy finished⟩
  stored := by
    intro other id returned named
    by_cases same : other = adder
    · subst same
      rw [adders_setAdder_same] at returned
      cases returned
    · rw [adders_setAdder_other same] at returned
      exact holds.stored other id returned named

/-- **A call inserts its entry**, or finds its id taken. -/
theorem Numbered.insert (holds : Numbered numbered before) {id : Bytes} {task : UniquePtr τ}
    (here : before.adders adder = .inserting id task) (answers : AddAnswers) :
    Numbered numbered ((before.setManager (before.manager.insertTask id task answers).2).setAdder
      adder (.ended (before.manager.insertTask id task answers).1)) := by
  have inserted := insertTask_spec before.manager id task answers
  generalize before.manager.insertTask id task answers = result at inserted
  obtain ⟨outcome, manager⟩ := result
  refine ⟨inserted.next.trans holds.next, holds.once, ?_, ?_, ?_, ?_⟩
  · intro other member
    by_cases same : other = adder
    · subst same
      rw [adders_setAdder_same]
      intro early
      cases outcome <;> cases early
    · rw [adders_setAdder_other same]
      exact holds.past other member
  · intro other key has
    by_cases same : other = adder
    · subst same
      rw [adders_setAdder_same] at has
      cases outcome with
      | error error => cases has
      | ok returned =>
        cases has with
        | returned _ named =>
          rw [(inserted.returned _ rfl named).1]
          exact holds.has other id (here ▸ .inserting id task)
    · rw [adders_setAdder_other same] at has
      exact holds.has other key has
  · intro key member
    rcases inserted.only key member with rfl | old
    · obtain ⟨number, position, made⟩ := holds.has adder key (here ▸ .inserting key task)
      refine ⟨adder, number, position, made, ?_⟩
      rw [adders_setAdder_same]
      cases outcome with
      | error error => exact .threw error
      | ok returned => exact .returned returned
    · obtain ⟨other, number, position, made, finished⟩ := holds.key key old
      have busy : ¬ (before.adders adder).Over := by
        rw [here]
        rintro ⟨⟩
      exact ⟨other, number, position, made, over_setAdder busy finished⟩
  · intro other key returned named
    by_cases same : other = adder
    · subst same
      rw [adders_setAdder_same] at returned
      cases outcome with
      | error error => cases returned
      | ok value =>
        cases returned
        obtain ⟨rfl, member⟩ := inserted.returned _ rfl named
        exact member
    · rw [adders_setAdder_other same] at returned
      exact inserted.keeps key (holds.stored other key returned named)

end Move

end Numbers

/-! ### Runs -/

section Runs

variable {σ τ : Type} [ITask τ] {registry : TaskRegistry σ τ} {calls : Nat → Bytes × Json}

/-- **Step.** -/
theorem Numbered.step {numbered : List Nat} {before after : Callers σ τ} {action : CallerAction τ}
    (holds : Numbered numbered before)
    (stepped : callerStep registry calls before action = some after) :
    Numbered (numbered ++ action.numbers.toList) after := by
  cases effect_of_step stepped with
  | aside quiet same =>
    rw [quiet, Option.toList_none, List.append_nil]
    exact holds.aside same
  | advance quiet adder point moves same =>
    rw [quiet, Option.toList_none, List.append_nil]
    exact (holds.advance moves).aside same
  | number adder numbers here same =>
    rw [numbers, Option.toList_some]
    exact (holds.number here).aside same
  | insert quiet adder id task answers here same =>
    rw [quiet, Option.toList_none, List.append_nil]
    exact (holds.insert here answers).aside same

/-- **Run.** -/
theorem numbered_of_run {outside : σ} {actions : List (CallerAction τ)} {callers : Callers σ τ}
    (ran : run (callerStep registry calls) (.start outside) actions = some callers) :
    Numbered (actions.filterMap CallerAction.numbers) callers := by
  refine run_induction (callerStep registry calls) _
    (motive := fun actions callers => Numbered (actions.filterMap CallerAction.numbers) callers)
    (numbered_start outside) ?_ ran
  intro actions action before after _ holds stepped
  rw [List.filterMap_append]
  have next := holds.step stepped
  cases numbers : action.numbers with
  | none => simpa [List.filterMap, numbers] using next
  | some adder => simpa [List.filterMap, numbers] using next

/-- Keys are never erased. -/
theorem mem_tasks_of_step {before after : Callers σ τ} {action : CallerAction τ}
    (stepped : callerStep registry calls before action = some after) {id : Bytes}
    (member : id ∈ before.manager.tasks) : id ∈ after.manager.tasks := by
  cases effect_of_step stepped with
  | aside _ same => exact (same.keys id).mpr member
  | advance _ _ _ _ same => exact (same.keys id).mpr member
  | number _ _ _ same => exact (same.keys id).mpr member
  | insert _ _ _ task answers _ same =>
    exact (same.keys id).mpr ((insertTask_spec before.manager _ task answers).keeps id member)

theorem mem_tasks_of_run {before after : Callers σ τ} {actions : List (CallerAction τ)}
    (ran : run (callerStep registry calls) before actions = some after) {id : Bytes}
    (member : id ∈ before.manager.tasks) : id ∈ after.manager.tasks := by
  refine run_induction (callerStep registry calls) before
    (motive := fun _ callers => id ∈ callers.manager.tasks) member ?_ ran
  intro _ _ _ _ _ earlier stepped
  exact mem_tasks_of_step stepped earlier

/-! ### Distinct and permanent -/

/-- The caller of `add_task` that acts. -/
def CallerAction.adder : CallerAction τ → Option Nat
  | .load adder => some adder
  | .number adder => some adder
  | .create adder => some adder
  | .insert adder _ => some adder
  | _ => none

/-- The calls of `add_task` in a run. -/
def addCalls (actions : List (CallerAction τ)) : Finset Nat :=
  (actions.filterMap CallerAction.adder).toFinset

/-- The call finds its id in the map: "Task '...' already exists". -/
def AlreadyExists (callers : Callers σ τ) : CallerAction τ → Prop
  | .insert adder _ => ∃ id task, callers.adders adder = .inserting id task ∧
      id ∈ callers.manager.tasks
  | _ => False

omit [ITask τ] in
theorem adder_of_numbers {action : CallerAction τ} {adder : Nat}
    (numbers : action.numbers = some adder) : action.adder = some adder := by
  cases action with
  | number other => exact numbers
  | _ => cases numbers

omit [ITask τ] in
/-- Every call takes at most one number. -/
theorem Numbered.length_le {actions : List (CallerAction τ)} {callers : Callers σ τ}
    (holds : Numbered (actions.filterMap CallerAction.numbers) callers) :
    (actions.filterMap CallerAction.numbers).length ≤ (addCalls actions).card := by
  rw [← List.toFinset_card_of_nodup holds.once]
  refine Finset.card_le_card fun adder member => ?_
  rw [List.mem_toFinset, List.mem_filterMap] at member
  obtain ⟨action, here, numbers⟩ := member
  exact List.mem_toFinset.mpr (List.mem_filterMap.mpr ⟨action, here, adder_of_numbers numbers⟩)

/-- The text of a number determines it. -/
theorem taskId_injective : Function.Injective taskId := by
  intro first second same
  exact UInt64.toNat_inj.mp (decimal_injective (List.append_cancel_left same))

/-- **With fewer than 2^64 numbers, an id belongs to one call.** -/
theorem adder_unique {numbered : List Nat} (few : numbered.length < 2 ^ 64)
    {first second one two : Nat} (firstAt : numbered[one]? = some first)
    (secondAt : numbered[two]? = some second)
    (same : taskId (.ofNat one) = taskId (.ofNat two)) : first = second := by
  have oneLt := (List.getElem?_eq_some_iff.mp firstAt).1
  have twoLt := (List.getElem?_eq_some_iff.mp secondAt).1
  have numbers := congrArg UInt64.toNat (taskId_injective same)
  rw [UInt64.toNat_ofNat_of_lt' (oneLt.trans few),
    UInt64.toNat_ofNat_of_lt' (twoLt.trans few)] at numbers
  subst numbers
  rw [firstAt] at secondAt
  exact Option.some.inj secondAt

omit [ITask τ] in
/-- A call in front of its locked section does not find its id in the map. -/
theorem Numbered.not_alreadyExists {numbered : List Nat} {callers : Callers σ τ}
    (holds : Numbered numbered callers) (few : numbered.length < 2 ^ 64)
    (action : CallerAction τ) : ¬ AlreadyExists callers action := by
  cases action with
  | insert adder answers =>
    rintro ⟨id, task, here, member⟩
    obtain ⟨number, position, made⟩ := holds.has adder id (here ▸ .inserting id task)
    obtain ⟨other, otherNumber, otherPosition, otherMade, finished⟩ := holds.key id member
    obtain rfl := adder_unique few position otherPosition (made ▸ otherMade)
    rw [here] at finished
    cases finished
  | _ => exact id

omit [ITask τ] in
theorem addCalls_append_le (before rest : List (CallerAction τ)) :
    (addCalls before).card ≤ (addCalls (before ++ rest)).card := by
  refine Finset.card_le_card fun adder member => ?_
  rw [addCalls, List.mem_toFinset] at member ⊢
  rw [List.filterMap_append]
  exact List.mem_append_left _ member

/-- **The ids of tasks are unique and permanent.** For every registry, all arguments of the calls,
and every order of the actions of fewer than 2^64 calls of `add_task` and any number of calls of
`stop_task` and `stop_all_tasks`: no two calls have returned the same id, an id that was returned is
in the map from there on, and no call finds its id taken. -/
theorem task_ids_unique (registry : TaskRegistry σ τ) (calls : Nat → Bytes × Json) (outside : σ)
    {actions : List (CallerAction τ)} {callers : Callers σ τ}
    (ran : run (callerStep registry calls) (.start outside) actions = some callers)
    (few : (addCalls actions).card < 2 ^ 64) :
    (∀ first second id, first ≠ second → callers.adders first = .returned id →
      callers.adders second = .returned id → id = []) ∧
    (∀ before rest, actions = before ++ rest → ∀ earlier : Callers σ τ,
      run (callerStep registry calls) (.start outside) before = some earlier →
      ∀ adder id, earlier.adders adder = .returned id → id ≠ [] → id ∈ callers.manager.tasks) ∧
    Along (callerStep registry calls) (.start outside)
      (fun _ state action _ => ¬ AlreadyExists state action) actions := by
  refine ⟨?_, ?_, ?_⟩
  · intro first second id different firstReturned secondReturned
    by_contra named
    have holds := numbered_of_run ran
    obtain ⟨one, firstAt, firstMade⟩ := holds.has first id (firstReturned ▸ .returned id named)
    obtain ⟨two, secondAt, secondMade⟩ := holds.has second id (secondReturned ▸ .returned id named)
    refine different (adder_unique ?_ firstAt secondAt (firstMade ▸ secondMade))
    exact lt_of_le_of_lt holds.length_le few
  · rintro before rest rfl earlier ranBefore adder id returned named
    rw [run_append, ranBefore] at ran
    exact mem_tasks_of_run ran ((numbered_of_run ranBefore).stored adder id returned named)
  · rintro before action rest rfl state after ranBefore _
    have holds := numbered_of_run ranBefore
    have fewBefore := lt_of_le_of_lt (addCalls_append_le before (action :: rest)) few
    exact holds.not_alreadyExists (lt_of_le_of_lt holds.length_le fewBefore) action

end Runs

/-- Two calls that take their numbers in one order and insert in the other, with a `stop_task`
between them and a `stop_all_tasks` behind them. -/
def twoCalls : List (CallerAction BuiltinTask) :=
  [.load 0, .load 1, .number 1, .number 0, .create 0, .insert 0 ⟨0, 0, .ok ()⟩,
    .stopTask 0 (ascii "task_1"), .find 0, .create 1, .request 0, .insert 1 ⟨0, 0, .ok ()⟩,
    .stopAllTasks 1]

theorem task_ids_unique_two_calls :
    ∃ callers : Callers Counters BuiltinTask,
      run (callerStep
          ⟨[(ascii "heartbeat", fun counters _ _ => HeartbeatTask.factory counters 5000)]⟩
          (fun _ => (ascii "heartbeat", Json.emptyObject))) (.start ⟨0, 0⟩) twoCalls
        = some callers ∧
      callers.adders 0 = .returned (ascii "task_1") ∧
      callers.adders 1 = .returned (ascii "task_0") ∧
      ∀ first second id, first ≠ second → callers.adders first = .returned id →
        callers.adders second = .returned id → id = [] := by
  have ran : run (callerStep
      ⟨[(ascii "heartbeat", fun counters _ _ => HeartbeatTask.factory counters 5000)]⟩
      (fun _ => (ascii "heartbeat", Json.emptyObject))) (.start ⟨0, 0⟩) twoCalls = some _ := rfl
  exact ⟨_, ran, rfl, rfl, (task_ids_unique _ _ _ ran (by decide)).1⟩

end DemoDaemon.Tasks
