/-
**`stop_all_tasks` among the other threads** (`task_manager.cpp`): any number of callers of
`add_task`, the thread of every entry, and one caller of `stop_all_tasks`.

Every load or store of an atomic variable and every section under the mutex is one action; the wait
of `stop_all_tasks` holds the mutex over many. A run is any order of actions that each thread
allows. What the tasks do is not modelled, and the pointer of an entry is taken to be valid here
(`TaskStore` is about that).

* `shutdownStep`: one action; `ShutdownMove` says what it finds and leaves behind.
* `Covered`: behind the snapshot, every entry has had its stop requested or is still on the list.
* **`no_task_escapes_iff`**: no entry escapes if and only if no locked section of `add_task` puts a
  new entry behind the snapshot.
-/

import DemoDaemon.Foundation.Transition
import DemoDaemon.Tasks.TaskManager

namespace DemoDaemon.Tasks

open Foundation

/-! ### State -/

/-- Where the thread of an entry is. -/
inductive ThreadPoint where
  /-- The constructor of `std::thread` threw. -/
  | absent
  | spawned
  /-- In `run_task`, behind `running.store(true)`. -/
  | inside
  /-- In `run_task`, behind `running.store(false)`: the log line still reads the entry. -/
  | logging
  | returned
deriving DecidableEq

/-- What the threads share of an entry, and its thread. -/
structure SharedEntry where
  stopRequested : Bool
  running : Bool
  thread : ThreadPoint
deriving DecidableEq

/-- Where a caller of `add_task` is. -/
inductive AddPoint where
  | entering
  | numbering
  | creating (id : Bytes)
  | inserting (id : Bytes)
  | returned (id : Bytes)
  | threw
deriving DecidableEq

/-- What `create_task` answers. -/
inductive Created where
  | made
  | null
  | thrown

/-- Where the caller of `stop_all_tasks` is. -/
inductive StopAllPoint where
  | storing
  | snapshotting
  /-- In `stop_task`, in front of the locked look-up. -/
  | finding (id : Bytes) (rest : List Bytes)
  /-- In `stop_task`, in front of `request_stop`. -/
  | requesting (id : Bytes) (rest : List Bytes)
  | locking
  /-- In front of the first load of the entry's flag. -/
  | checking (id : Bytes) (rest : List Bytes)
  /-- In front of the loop condition. -/
  | polling (id : Bytes) (rest : List Bytes)
  /-- In front of the test of the deadline. -/
  | timing (id : Bytes) (rest : List Bytes)
  | unlocking
  | returned
deriving DecidableEq

structure Shutdown where
  tasks : AList fun _ : Bytes => SharedEntry
  nextTaskId : UInt64
  shutdownRequested : Bool
  adders : Nat → AddPoint
  stopper : StopAllPoint
  /-- A record for the proofs: the deadline was hit. -/
  timedOut : Bool

/-- In front of everything, with the entries there are already. -/
def Shutdown.start (tasks : AList fun _ : Bytes => SharedEntry) (nextTaskId : UInt64) : Shutdown :=
  ⟨tasks, nextTaskId, false, fun _ => .entering, .storing, false⟩

/-! ### Actions -/

inductive ShutdownAction where
  /-- `add_task`: the load of the flag. -/
  | load (adder : Nat)
  /-- `add_task`: `next_task_id_.fetch_add(1)`. -/
  | number (adder : Nat)
  | create (adder : Nat) (outcome : Created)
  /-- `add_task`: the locked section, and the return. -/
  | insert (adder : Nat) (spawned : Bool)
  /-- `run_task`: `running.store(true)`. -/
  | begin (id : Bytes)
  /-- `run_task`: `running.store(false)`. -/
  | finish (id : Bytes)
  /-- `run_task`: the log line, and the return. -/
  | leave (id : Bytes)
  /-- `stop_all_tasks`: `shutdown_requested_.store(true)`. -/
  | storeFlag
  /-- `stop_all_tasks`: the locked copy of the ids, in the order of the map. -/
  | snapshot (order : List Bytes)
  | find
  | request
  /-- `stop_all_tasks`: the lock of the wait, with the order of the map. -/
  | lock (order : List Bytes)
  /-- `stop_all_tasks`: a load of `running`. -/
  | sample
  /-- `stop_all_tasks`: the test of the deadline, and the sleep. -/
  | tick (expired : Bool)
  | unlock

/-- The next `stop_task`, or the wait. -/
def StopAllPoint.afterRequest : List Bytes → StopAllPoint
  | [] => .locking
  | id :: rest => .finding id rest

/-- The next entry of the wait, or its end. -/
def StopAllPoint.afterWait : List Bytes → StopAllPoint
  | [] => .unlocking
  | id :: rest => .checking id rest

def StopAllPoint.holdsMutex : StopAllPoint → Bool
  | .checking _ _ => true
  | .polling _ _ => true
  | .timing _ _ => true
  | .unlocking => true
  | _ => false

def Shutdown.setAdder (shutdown : Shutdown) (adder : Nat) (point : AddPoint) : Shutdown :=
  { shutdown with adders := fun other => if other = adder then point else shutdown.adders other }

/-- An action of the thread of an entry. -/
def Shutdown.moveThread (shutdown : Shutdown) (id : Bytes) (source target : ThreadPoint)
    (running : Bool) : Option Shutdown :=
  match shutdown.tasks.lookup id with
  | none => none
  | some entry =>
    if entry.thread = source then
      some { shutdown with tasks := shutdown.tasks.insert id { entry with running, thread := target } }
    else none

/-- The locked section of `add_task`. An entry whose thread cannot be started stays in the map. -/
def Shutdown.insertEntry (shutdown : Shutdown) (adder : Nat) (id : Bytes) (spawned : Bool) :
    Shutdown :=
  if id ∈ shutdown.tasks then shutdown.setAdder adder (.returned [])
  else
    { shutdown with
      tasks := shutdown.tasks.insert id ⟨false, false, if spawned then .spawned else .absent⟩ }.setAdder
      adder (if spawned then .returned id else .threw)

/-- One action. -/
def shutdownStep (shutdown : Shutdown) : ShutdownAction → Option Shutdown
  | .load adder =>
    match shutdown.adders adder with
    | .entering =>
      some (shutdown.setAdder adder (if shutdown.shutdownRequested then .returned [] else .numbering))
    | _ => none
  | .number adder =>
    match shutdown.adders adder with
    | .numbering =>
      some ({ shutdown with nextTaskId := shutdown.nextTaskId + 1 }.setAdder adder
        (.creating (TaskManager.taskId shutdown.nextTaskId)))
    | _ => none
  | .create adder outcome =>
    match shutdown.adders adder, outcome with
    | .creating id, .made => some (shutdown.setAdder adder (.inserting id))
    | .creating _, .null => some (shutdown.setAdder adder (.returned []))
    | .creating _, .thrown => some (shutdown.setAdder adder .threw)
    | _, _ => none
  | .insert adder spawned =>
    match shutdown.adders adder with
    | .inserting id =>
      if shutdown.stopper.holdsMutex then none else some (shutdown.insertEntry adder id spawned)
    | _ => none
  | .begin id => shutdown.moveThread id .spawned .inside true
  | .finish id => shutdown.moveThread id .inside .logging false
  | .leave id => shutdown.moveThread id .logging .returned false
  | .storeFlag =>
    match shutdown.stopper with
    | .storing => some { shutdown with shutdownRequested := true, stopper := .snapshotting }
    | _ => none
  | .snapshot order =>
    match shutdown.stopper with
    | .snapshotting =>
      if order.Perm shutdown.tasks.keys then
        some { shutdown with stopper := .afterRequest order }
      else none
    | _ => none
  | .find =>
    match shutdown.stopper with
    | .finding id rest =>
      some { shutdown with
        stopper := if id ∈ shutdown.tasks then .requesting id rest else .afterRequest rest }
    | _ => none
  | .request =>
    match shutdown.stopper with
    | .requesting id rest =>
      match shutdown.tasks.lookup id with
      | some entry =>
        some { shutdown with
          tasks := shutdown.tasks.insert id { entry with stopRequested := true }
          stopper := .afterRequest rest }
      | none => none
    | _ => none
  | .lock order =>
    match shutdown.stopper with
    | .locking =>
      if order.Perm shutdown.tasks.keys then some { shutdown with stopper := .afterWait order }
      else none
    | _ => none
  | .sample =>
    match shutdown.stopper with
    | .checking id rest =>
      (shutdown.tasks.lookup id).map fun entry =>
        { shutdown with stopper := if entry.running then .polling id rest else .afterWait rest }
    | .polling id rest =>
      (shutdown.tasks.lookup id).map fun entry =>
        { shutdown with stopper := if entry.running then .timing id rest else .afterWait rest }
    | _ => none
  | .tick expired =>
    match shutdown.stopper with
    | .timing id rest =>
      some { shutdown with
        timedOut := shutdown.timedOut || expired
        stopper := if expired then .afterWait rest else .polling id rest }
    | _ => none
  | .unlock =>
    match shutdown.stopper with
    | .unlocking => some { shutdown with stopper := .returned }
    | _ => none

/-- What an action finds and what it leaves behind, case by case. -/
inductive ShutdownMove (shutdown : Shutdown) : ShutdownAction → Shutdown → Prop
  | load {adder : Nat} (here : shutdown.adders adder = .entering) :
      ShutdownMove shutdown (.load adder)
        (shutdown.setAdder adder (if shutdown.shutdownRequested then .returned [] else .numbering))
  | number {adder : Nat} (here : shutdown.adders adder = .numbering) :
      ShutdownMove shutdown (.number adder)
        ({ shutdown with nextTaskId := shutdown.nextTaskId + 1 }.setAdder adder
          (.creating (TaskManager.taskId shutdown.nextTaskId)))
  | made {adder : Nat} {id : Bytes} (here : shutdown.adders adder = .creating id) :
      ShutdownMove shutdown (.create adder .made) (shutdown.setAdder adder (.inserting id))
  | null {adder : Nat} {id : Bytes} (here : shutdown.adders adder = .creating id) :
      ShutdownMove shutdown (.create adder .null) (shutdown.setAdder adder (.returned []))
  | thrown {adder : Nat} {id : Bytes} (here : shutdown.adders adder = .creating id) :
      ShutdownMove shutdown (.create adder .thrown) (shutdown.setAdder adder .threw)
  | insert {adder : Nat} {spawned : Bool} {id : Bytes}
      (here : shutdown.adders adder = .inserting id) (free : ¬ shutdown.stopper.holdsMutex = true) :
      ShutdownMove shutdown (.insert adder spawned) (shutdown.insertEntry adder id spawned)
  | begin {id : Bytes} {after : Shutdown}
      (moved : shutdown.moveThread id .spawned .inside true = some after) :
      ShutdownMove shutdown (.begin id) after
  | finish {id : Bytes} {after : Shutdown}
      (moved : shutdown.moveThread id .inside .logging false = some after) :
      ShutdownMove shutdown (.finish id) after
  | leave {id : Bytes} {after : Shutdown}
      (moved : shutdown.moveThread id .logging .returned false = some after) :
      ShutdownMove shutdown (.leave id) after
  | storeFlag (here : shutdown.stopper = .storing) :
      ShutdownMove shutdown .storeFlag
        { shutdown with shutdownRequested := true, stopper := .snapshotting }
  | snapshot {order : List Bytes} (here : shutdown.stopper = .snapshotting)
      (everything : order.Perm shutdown.tasks.keys) :
      ShutdownMove shutdown (.snapshot order) { shutdown with stopper := .afterRequest order }
  | find {id : Bytes} {rest : List Bytes} (here : shutdown.stopper = .finding id rest)
      (present : id ∈ shutdown.tasks) :
      ShutdownMove shutdown .find { shutdown with stopper := .requesting id rest }
  | miss {id : Bytes} {rest : List Bytes} (here : shutdown.stopper = .finding id rest)
      (absent : id ∉ shutdown.tasks) :
      ShutdownMove shutdown .find { shutdown with stopper := .afterRequest rest }
  | request {id : Bytes} {rest : List Bytes} {entry : SharedEntry}
      (here : shutdown.stopper = .requesting id rest)
      (found : shutdown.tasks.lookup id = some entry) :
      ShutdownMove shutdown .request
        { shutdown with
          tasks := shutdown.tasks.insert id { entry with stopRequested := true }
          stopper := .afterRequest rest }
  | lock {order : List Bytes} (here : shutdown.stopper = .locking)
      (everything : order.Perm shutdown.tasks.keys) :
      ShutdownMove shutdown (.lock order) { shutdown with stopper := .afterWait order }
  | check {id : Bytes} {rest : List Bytes} {entry : SharedEntry}
      (here : shutdown.stopper = .checking id rest)
      (found : shutdown.tasks.lookup id = some entry) :
      ShutdownMove shutdown .sample
        { shutdown with stopper := if entry.running then .polling id rest else .afterWait rest }
  | poll {id : Bytes} {rest : List Bytes} {entry : SharedEntry}
      (here : shutdown.stopper = .polling id rest)
      (found : shutdown.tasks.lookup id = some entry) :
      ShutdownMove shutdown .sample
        { shutdown with stopper := if entry.running then .timing id rest else .afterWait rest }
  | tick {expired : Bool} {id : Bytes} {rest : List Bytes}
      (here : shutdown.stopper = .timing id rest) :
      ShutdownMove shutdown (.tick expired)
        { shutdown with
          timedOut := shutdown.timedOut || expired
          stopper := if expired then .afterWait rest else .polling id rest }
  | unlock (here : shutdown.stopper = .unlocking) :
      ShutdownMove shutdown .unlock { shutdown with stopper := .returned }

theorem shutdownMove_of_step {shutdown after : Shutdown} {action : ShutdownAction}
    (stepped : shutdownStep shutdown action = some after) : ShutdownMove shutdown action after := by
  cases action with
  | begin id => exact .begin stepped
  | finish id => exact .finish stepped
  | leave id => exact .leave stepped
  | create adder outcome =>
    simp only [shutdownStep] at stepped
    split at stepped
    · rename_i id here
      cases stepped
      exact .made here
    · rename_i id here
      cases stepped
      exact .null here
    · rename_i id here
      cases stepped
      exact .thrown here
    · cases stepped
  | insert adder spawned =>
    simp only [shutdownStep] at stepped
    split at stepped
    · rename_i id here
      split_ifs at stepped with held
      cases stepped
      exact .insert here held
    · cases stepped
  | snapshot order =>
    simp only [shutdownStep] at stepped
    split at stepped
    · rename_i here
      split_ifs at stepped with everything
      cases stepped
      exact .snapshot here everything
    · cases stepped
  | find =>
    simp only [shutdownStep] at stepped
    split at stepped
    · rename_i id rest here
      cases stepped
      by_cases present : id ∈ shutdown.tasks
      · rw [if_pos present]
        exact .find here present
      · rw [if_neg present]
        exact .miss here present
    · cases stepped
  | request =>
    simp only [shutdownStep] at stepped
    split at stepped
    · rename_i id rest here
      split at stepped
      · rename_i entry found
        cases stepped
        exact .request here found
      · cases stepped
    · cases stepped
  | lock order =>
    simp only [shutdownStep] at stepped
    split at stepped
    · rename_i here
      split_ifs at stepped with everything
      cases stepped
      exact .lock here everything
    · cases stepped
  | sample =>
    simp only [shutdownStep] at stepped
    split at stepped
    · rename_i id rest here
      obtain ⟨entry, found, rfl⟩ := Option.map_eq_some_iff.mp stepped
      exact .check here found
    · rename_i id rest here
      obtain ⟨entry, found, rfl⟩ := Option.map_eq_some_iff.mp stepped
      exact .poll here found
    · cases stepped
  | _ =>
    simp only [shutdownStep] at stepped
    split at stepped
    · rename_i here
      cases stepped
      constructor
      exact here
    · cases stepped

/-! ### Who is still to be stopped -/

/-- The ids that `stop_all_tasks` has still to stop; `none` in front of its snapshot. -/
def StopAllPoint.todo : StopAllPoint → Option (List Bytes)
  | .storing => none
  | .snapshotting => none
  | .finding id rest => some (id :: rest)
  | .requesting id rest => some (id :: rest)
  | _ => some []

theorem StopAllPoint.todo_afterRequest (rest : List Bytes) :
    (afterRequest rest).todo = some rest := by
  cases rest <;> rfl

theorem StopAllPoint.todo_afterWait (rest : List Bytes) : (afterWait rest).todo = some [] := by
  cases rest <;> rfl

/-- Every entry has had its stop requested, or is on a list. -/
def StoppedOrIn (tasks : AList fun _ : Bytes => SharedEntry) (todo : List Bytes) : Prop :=
  ∀ id entry, tasks.lookup id = some entry → entry.stopRequested = true ∨ id ∈ todo

/-- Behind the snapshot, every entry is stopped or still on the list. -/
def Covered (shutdown : Shutdown) : Prop :=
  ∀ todo, shutdown.stopper.todo = some todo → StoppedOrIn shutdown.tasks todo

/-- Replacing one entry. -/
theorem forall_lookup_insert {tasks : AList fun _ : Bytes => SharedEntry} {id : Bytes}
    {next : SharedEntry} {holds : Bytes → SharedEntry → Prop}
    (others : ∀ other entry, other ≠ id → tasks.lookup other = some entry → holds other entry)
    (this : holds id next) :
    ∀ other entry, (tasks.insert id next).lookup other = some entry → holds other entry := by
  intro other entry found
  by_cases here : other = id
  · subst here
    rw [AList.lookup_insert] at found
    cases found
    exact this
  · rw [AList.lookup_insert_ne here] at found
    exact others other entry here found

/-- An entry that is replaced by one with the same stop. -/
theorem StoppedOrIn.replace {tasks : AList fun _ : Bytes => SharedEntry} {todo : List Bytes}
    (stopped : StoppedOrIn tasks todo) {id : Bytes} {entry next : SharedEntry}
    (found : tasks.lookup id = some entry) (same : next.stopRequested = entry.stopRequested) :
    StoppedOrIn (tasks.insert id next) todo := by
  refine forall_lookup_insert (fun other stored _ there => stopped other stored there) ?_
  rw [same]
  exact stopped id entry found

/-- The first of the list is stopped. -/
theorem StoppedOrIn.request {tasks : AList fun _ : Bytes => SharedEntry} {id : Bytes}
    {rest : List Bytes} (stopped : StoppedOrIn tasks (id :: rest)) {next : SharedEntry}
    (requested : next.stopRequested = true) : StoppedOrIn (tasks.insert id next) rest := by
  refine forall_lookup_insert (fun other stored different there => ?_) (Or.inl requested)
  exact (stopped other stored there).imp_right fun member =>
    (List.mem_cons.mp member).resolve_left different

/-- In the wait there is no one left to stop, and the entries stay. -/
theorem Covered.wait {shutdown after : Shutdown} (covered : Covered shutdown)
    (before : shutdown.stopper.todo = some []) (tasks : after.tasks = shutdown.tasks)
    (now : after.stopper.todo = some []) : Covered after := by
  intro todo listed
  rw [tasks]
  exact covered todo (before.trans (now.symm.trans listed))

theorem Covered.moveThread {shutdown after : Shutdown} (covered : Covered shutdown) {id : Bytes}
    {source target : ThreadPoint} {running : Bool}
    (moved : shutdown.moveThread id source target running = some after) : Covered after := by
  unfold Shutdown.moveThread at moved
  split at moved
  · cases moved
  · rename_i entry found
    split_ifs at moved
    cases moved
    intro todo listed
    exact (covered todo listed).replace found rfl

/-- A locked section of `add_task` puts a new entry behind the snapshot. -/
def EntersLate (shutdown : Shutdown) (action : ShutdownAction) : Prop :=
  ∃ adder spawned id, action = .insert adder spawned ∧ shutdown.adders adder = .inserting id ∧
    shutdown.stopper.todo ≠ none ∧ id ∉ shutdown.tasks

/-- **Step.** -/
theorem Covered.step {shutdown after : Shutdown} (covered : Covered shutdown)
    {action : ShutdownAction} (stepped : shutdownStep shutdown action = some after)
    (inTime : ¬ EntersLate shutdown action) : Covered after := by
  cases shutdownMove_of_step stepped with
  | load | number | made | null | thrown => exact covered
  | @insert adder spawned id inserting free =>
    by_cases present : id ∈ shutdown.tasks
    · rw [Shutdown.insertEntry, if_pos present]
      exact covered
    · -- a new entry: then the snapshot is still to come
      rw [Shutdown.insertEntry, if_neg present]
      intro todo listed
      refine absurd ⟨adder, spawned, id, rfl, inserting, ?_, present⟩ inTime
      exact Option.ne_none_iff_exists'.mpr ⟨todo, listed⟩
  | begin moved => exact covered.moveThread moved
  | finish moved => exact covered.moveThread moved
  | leave moved => exact covered.moveThread moved
  | storeFlag here =>
    intro todo listed
    cases listed
  | snapshot here everything =>
    intro todo listed id entry found
    rw [StopAllPoint.todo_afterRequest] at listed
    cases listed
    refine Or.inr (everything.mem_iff.mpr ?_)
    rw [← AList.mem_keys, ← AList.lookup_isSome, found]
    rfl
  | find finding present =>
    intro todo listed
    cases listed
    exact covered _ (by rw [finding]; rfl)
  | @miss id rest finding absent =>
    have stopped : StoppedOrIn shutdown.tasks (id :: rest) := covered _ (by rw [finding]; rfl)
    intro todo listed
    rw [StopAllPoint.todo_afterRequest] at listed
    cases listed
    intro other entry found
    refine (stopped other entry found).imp_right fun member => ?_
    refine (List.mem_cons.mp member).resolve_left ?_
    rintro rfl
    exact absent (AList.lookup_isSome.mp (by rw [found]; rfl))
  | @request id rest entry requesting found =>
    have listed : shutdown.stopper.todo = some (id :: rest) := by
      rw [requesting]
      rfl
    intro todo now
    rw [StopAllPoint.todo_afterRequest] at now
    cases now
    exact (covered _ listed).request rfl
  | @lock order locking everything =>
    exact covered.wait (by rw [locking]; rfl) rfl (StopAllPoint.todo_afterWait order)
  | @check id rest entry checking found =>
    refine covered.wait (by rw [checking]; rfl) rfl ?_
    cases entry.running
    · exact StopAllPoint.todo_afterWait rest
    · rfl
  | @poll id rest entry polling found =>
    refine covered.wait (by rw [polling]; rfl) rfl ?_
    cases entry.running
    · exact StopAllPoint.todo_afterWait rest
    · rfl
  | @tick expired id rest timing =>
    refine covered.wait (by rw [timing]; rfl) rfl ?_
    cases expired
    · rfl
    · exact StopAllPoint.todo_afterWait rest
  | unlock unlocking => exact covered.wait (by rw [unlocking]; rfl) rfl rfl

/-! ### Runs -/

section Runs

variable (tasks : AList fun _ : Bytes => SharedEntry) (nextTaskId : UInt64)

/-- **Run.** -/
theorem covered_of_run {actions : List ShutdownAction} {shutdown : Shutdown}
    (ran : run shutdownStep (.start tasks nextTaskId) actions = some shutdown)
    (inTime : Along shutdownStep (.start tasks nextTaskId)
      (fun _ shutdown action _ => ¬ EntersLate shutdown action) actions) : Covered shutdown := by
  refine run_induction_along shutdownStep _ ?_ ?_ ran inTime
  · intro todo listed
    cases listed
  · intro _ action before after stepped inTime covered
    exact covered.step stepped inTime

/-- Every entry has had its stop requested. -/
def AllStopped (shutdown : Shutdown) : Prop :=
  ∀ id entry, shutdown.tasks.lookup id = some entry → entry.stopRequested = true

/-- A locked section of `add_task` behind the snapshot inserts nothing and returns the empty
string. -/
def LateRefused (shutdown : Shutdown) (action : ShutdownAction) (after : Shutdown) : Prop :=
  ∀ adder spawned, action = .insert adder spawned → shutdown.stopper.todo ≠ none →
    after.tasks = shutdown.tasks ∧ after.adders adder = .returned []

/-- **One locked section.** -/
theorem lateRefused_iff {shutdown after : Shutdown} {action : ShutdownAction}
    (stepped : shutdownStep shutdown action = some after) :
    LateRefused shutdown action after ↔ ¬ EntersLate shutdown action := by
  constructor
  · rintro refused ⟨adder, spawned, id, rfl, inserting, late, absent⟩
    obtain ⟨same, -⟩ := refused adder spawned rfl late
    cases shutdownMove_of_step stepped with
    | insert here _ =>
      cases inserting.symm.trans here
      -- the new entry is there now
      rw [Shutdown.insertEntry, if_neg absent] at same
      refine absent ?_
      rw [← same]
      exact (AList.mem_insert _).mpr (Or.inl rfl)
  · rintro inTime adder spawned rfl late
    cases shutdownMove_of_step stepped with
    | @insert _ _ id inserting _ =>
      have present : id ∈ shutdown.tasks := by
        by_contra absent
        exact inTime ⟨adder, spawned, id, rfl, inserting, late, absent⟩
      rw [Shutdown.insertEntry, if_pos present]
      exact ⟨rfl, if_pos rfl⟩

/-- **No task escapes exactly when none enters late.** In every run of any number of `add_task`
calls, the threads of the entries and one `stop_all_tasks`: whenever `stop_all_tasks` has returned
every entry has had its stop requested, and a locked section of `add_task` behind the snapshot
inserts nothing and returns the empty string, if and only if no such section has a new id. -/
theorem no_task_escapes_iff (actions : List ShutdownAction) :
    ((∀ before rest shutdown, actions = before ++ rest →
        run shutdownStep (.start tasks nextTaskId) before = some shutdown →
        shutdown.stopper = .returned → AllStopped shutdown) ∧
      Along shutdownStep (.start tasks nextTaskId)
        (fun _ shutdown action after => LateRefused shutdown action after) actions)
      ↔ Along shutdownStep (.start tasks nextTaskId)
        (fun _ shutdown action _ => ¬ EntersLate shutdown action) actions := by
  rw [along_congr shutdownStep _ fun _ shutdown action after _ stepped => lateRefused_iff stepped]
  refine and_iff_right_of_imp ?_
  rintro inTime before rest shutdown rfl ran returned id entry found
  have covered := covered_of_run tasks nextTaskId ran (along_of_append shutdownStep _ inTime)
  have stopped : StoppedOrIn shutdown.tasks [] := covered [] (by rw [returned]; rfl)
  exact (stopped id entry found).resolve_right List.not_mem_nil

end Runs

/-- An `add_task` that has passed its test of the flag inserts its entry when `stop_all_tasks` has
returned. -/
theorem task_escapes :
    ¬ ∀ (nextTaskId : UInt64) (actions : List ShutdownAction),
      (∀ before rest shutdown, actions = before ++ rest →
        run shutdownStep (.start ∅ nextTaskId) before = some shutdown →
        shutdown.stopper = .returned → AllStopped shutdown) ∧
      Along shutdownStep (.start ∅ nextTaskId)
        (fun _ shutdown action after => LateRefused shutdown action after) actions := by
  intro all
  have stopped := (all 0 ([.load 0, .number 0, .create 0 .made, .storeFlag, .snapshot [], .lock [],
    .unlock, .insert 0 true] ++ [])).1 _ _ _ rfl rfl rfl
  have late := stopped (TaskManager.taskId 0) ⟨false, false, .spawned⟩ (by decide)
  cases late

end DemoDaemon.Tasks
