/-
**What `stop_all_tasks` has waited for when it returns.**

The wait looks at the flag `running` of every entry, which the thread of the entry sets itself when
it starts and clears in front of its last log line.

* `Settled`: a load of the flag finds a thread that has set it and is not behind clearing it, unless
  it has returned.
* `Waited`: the invariant. **`Waited.step`** keeps it over every settled step.
* **`stop_all_tasks_waits`**: in every run of settled steps without a timeout, no thread is left when
  `stop_all_tasks` has returned.
-/

import DemoDaemon.Tasks.Shutdown

namespace DemoDaemon.Tasks

open Foundation

/-- The thread will not touch its entry any more. -/
def ThreadPoint.Done (thread : ThreadPoint) : Prop := thread = .returned ∨ thread = .absent

/-- In front of `stop_all_tasks`, with no call of `add_task` under way. -/
def Shutdown.quiet (tasks : AList fun _ : Bytes => SharedEntry) (nextTaskId : UInt64) : Shutdown :=
  ⟨tasks, nextTaskId, false, fun _ => .returned [], .storing, false⟩

/-- Every flag is what its thread has stored. -/
def FlagsAgree (tasks : AList fun _ : Bytes => SharedEntry) : Prop :=
  ∀ id entry, tasks.lookup id = some entry → (entry.running = true ↔ entry.thread = .inside)

/-- The entry whose flag is loaded next. -/
def StopAllPoint.sampled : StopAllPoint → Option Bytes
  | .checking id _ => some id
  | .polling id _ => some id
  | _ => none

/-- A load of a flag finds its thread neither in front of its first store nor between its last store
and its return. -/
def Settled (shutdown : Shutdown) (action : ShutdownAction) : Prop :=
  action = .sample → ∀ id entry, shutdown.stopper.sampled = some id →
    shutdown.tasks.lookup id = some entry → entry.thread ≠ .spawned ∧ entry.thread ≠ .logging

/-- The entries that the wait has still to look at; `none` in front of it. -/
def StopAllPoint.unwaited : StopAllPoint → Option (List Bytes)
  | .checking id rest => some (id :: rest)
  | .polling id rest => some (id :: rest)
  | .timing id rest => some (id :: rest)
  | .unlocking => some []
  | .returned => some []
  | _ => none

theorem StopAllPoint.unwaited_afterWait (rest : List Bytes) :
    (afterWait rest).unwaited = some rest := by
  cases rest <;> rfl

theorem StopAllPoint.unwaited_afterRequest (rest : List Bytes) :
    (afterRequest rest).unwaited = none := by
  cases rest <;> rfl

/-- Every entry is done, or on a list. -/
def DoneOrIn (tasks : AList fun _ : Bytes => SharedEntry) (remaining : List Bytes) : Prop :=
  ∀ id entry, tasks.lookup id = some entry → entry.thread.Done ∨ id ∈ remaining

/-- The invariant: without a timeout, every entry that the wait has passed is done. -/
structure Waited (shutdown : Shutdown) : Prop where
  flags : FlagsAgree shutdown.tasks
  idle : ∀ adder, shutdown.adders adder = .returned []
  waited : shutdown.timedOut = false → ∀ remaining, shutdown.stopper.unwaited = some remaining →
    DoneOrIn shutdown.tasks remaining

/-- An action of a thread: what was done stays done. -/
theorem Waited.moveThread {shutdown after : Shutdown} (waited : Waited shutdown) {id : Bytes}
    {source target : ThreadPoint} {running : Bool} (working : ¬ source.Done)
    (flag : running = true ↔ target = .inside)
    (moved : shutdown.moveThread id source target running = some after) : Waited after := by
  unfold Shutdown.moveThread at moved
  split at moved
  · cases moved
  · rename_i entry found
    split_ifs at moved with here
    cases moved
    refine ⟨forall_lookup_insert (fun other stored _ => waited.flags other stored) flag,
      waited.idle, ?_⟩
    intro inTime remaining listed
    have before := waited.waited inTime remaining listed
    refine forall_lookup_insert (fun other stored _ => before other stored) ?_
    exact Or.inr ((before id entry found).resolve_left (here ▸ working))

/-- A load of a flag that is not set: a settled thread is done. -/
theorem done_of_sample {shutdown : Shutdown} (waited : Waited shutdown) {id : Bytes}
    {entry : SharedEntry} (settled : Settled shutdown .sample)
    (sampled : shutdown.stopper.sampled = some id) (found : shutdown.tasks.lookup id = some entry)
    (off : entry.running = false) : entry.thread.Done := by
  obtain ⟨notSpawned, notLogging⟩ := settled rfl id entry sampled found
  have notInside : entry.thread ≠ .inside := by
    rw [ne_eq, ← waited.flags id entry found, off]
    exact Bool.false_ne_true
  cases thread : entry.thread with
  | absent => exact Or.inr rfl
  | spawned => exact absurd thread notSpawned
  | inside => exact absurd thread notInside
  | logging => exact absurd thread notLogging
  | returned => exact Or.inl rfl

/-- A load of the flag of the first entry on the list: the wait goes on with it, or is through with
it. -/
theorem Waited.sample {shutdown : Shutdown} (waited : Waited shutdown) {id : Bytes}
    {rest : List Bytes} {entry : SharedEntry} (settled : Settled shutdown .sample)
    (sampled : shutdown.stopper.sampled = some id)
    (listed : shutdown.stopper.unwaited = some (id :: rest))
    (found : shutdown.tasks.lookup id = some entry) {again : StopAllPoint}
    (stays : again.unwaited = some (id :: rest)) :
    Waited { shutdown with stopper := if entry.running then again else .afterWait rest } := by
  refine ⟨waited.flags, waited.idle, fun inTime remaining now => ?_⟩
  have before := waited.waited inTime (id :: rest) listed
  cases flag : entry.running with
  | true =>
    rw [flag, if_pos rfl, stays] at now
    cases now
    exact before
  | false =>
    rw [flag, if_neg Bool.false_ne_true, StopAllPoint.unwaited_afterWait] at now
    cases now
    intro other stored there
    by_cases here : other = id
    · subst here
      rw [found] at there
      cases there
      exact Or.inl (done_of_sample waited settled sampled found flag)
    · exact (before other stored there).imp_right fun member =>
        (List.mem_cons.mp member).resolve_left here

/-- **Step.** -/
theorem Waited.step {shutdown after : Shutdown} (waited : Waited shutdown)
    {action : ShutdownAction} (stepped : shutdownStep shutdown action = some after)
    (settled : Settled shutdown action) : Waited after := by
  cases shutdownMove_of_step stepped with
  | load here | number here | made here | null here | thrown here | insert here _ =>
    rw [waited.idle] at here
    cases here
  | begin moved => exact waited.moveThread (by simp [ThreadPoint.Done]) (by simp) moved
  | finish moved => exact waited.moveThread (by simp [ThreadPoint.Done]) (by simp) moved
  | leave moved => exact waited.moveThread (by simp [ThreadPoint.Done]) (by simp) moved
  | storeFlag here =>
    refine ⟨waited.flags, waited.idle, fun _ _ waiting => ?_⟩
    cases waiting
  | snapshot here everything =>
    refine ⟨waited.flags, waited.idle, fun _ _ listed => ?_⟩
    rw [StopAllPoint.unwaited_afterRequest] at listed
    cases listed
  | find finding present =>
    refine ⟨waited.flags, waited.idle, fun _ _ listed => ?_⟩
    cases listed
  | miss finding absent =>
    refine ⟨waited.flags, waited.idle, fun _ _ listed => ?_⟩
    rw [StopAllPoint.unwaited_afterRequest] at listed
    cases listed
  | @request id rest entry requesting found =>
    refine ⟨?_, waited.idle, fun _ _ listed => ?_⟩
    · exact forall_lookup_insert (fun other stored _ => waited.flags other stored)
        (waited.flags id entry found)
    · rw [StopAllPoint.unwaited_afterRequest] at listed
      cases listed
  | lock locking everything =>
    refine ⟨waited.flags, waited.idle, fun _ remaining listed id entry found => ?_⟩
    rw [StopAllPoint.unwaited_afterWait] at listed
    cases listed
    refine Or.inr (everything.mem_iff.mpr ?_)
    rw [← AList.mem_keys, ← AList.lookup_isSome, found]
    rfl
  | check checking found =>
    exact waited.sample settled (by rw [checking]; rfl) (by rw [checking]; rfl) found rfl
  | poll polling found =>
    exact waited.sample settled (by rw [polling]; rfl) (by rw [polling]; rfl) found rfl
  | @tick expired id rest timing =>
    refine ⟨waited.flags, waited.idle, fun inTime remaining listed => ?_⟩
    obtain ⟨before, notExpired⟩ := Bool.or_eq_false_iff.mp inTime
    rw [notExpired, if_neg Bool.false_ne_true] at listed
    cases listed
    exact waited.waited before (id :: rest) (by rw [timing]; rfl)
  | unlock unlocking =>
    refine ⟨waited.flags, waited.idle, fun inTime remaining listed => ?_⟩
    cases listed
    exact waited.waited inTime [] (by rw [unlocking]; rfl)

/-- **`stop_all_tasks` waits for every settled thread.** With no `add_task` under way, in every run
in which every load of a flag finds a settled thread: when `stop_all_tasks` has returned without
hitting its deadline, the thread of every entry has returned. -/
theorem stop_all_tasks_waits (tasks : AList fun _ : Bytes => SharedEntry) (nextTaskId : UInt64)
    (flags : FlagsAgree tasks) {actions : List ShutdownAction} {shutdown : Shutdown}
    (ran : run shutdownStep (.quiet tasks nextTaskId) actions = some shutdown)
    (settled : Along shutdownStep (.quiet tasks nextTaskId)
      (fun _ shutdown action _ => Settled shutdown action) actions)
    (returned : shutdown.stopper = .returned) (inTime : shutdown.timedOut = false) :
    ∀ id entry, shutdown.tasks.lookup id = some entry → entry.thread.Done := by
  have initial : Waited (.quiet tasks nextTaskId) := by
    refine ⟨flags, fun _ => rfl, fun _ _ waiting => ?_⟩
    cases waiting
  have waited : Waited shutdown := by
    refine run_induction_along shutdownStep _ initial ?_ ran settled
    intro _ action before after stepped settled waited
    exact waited.step stepped settled
  intro id entry found
  have done := waited.waited inTime [] (by rw [returned]; rfl) id entry found
  exact done.resolve_right List.not_mem_nil

/-- One task, whose thread is at a given point. -/
def oneTask (running : Bool) (thread : ThreadPoint) : AList fun _ : Bytes => SharedEntry :=
  AList.singleton (ascii "task_0") ⟨false, running, thread⟩

/-- A running task that ends between the request and the wait. -/
def endsInTime : List ShutdownAction :=
  [.storeFlag, .snapshot [ascii "task_0"], .find, .request, .finish (ascii "task_0"),
    .leave (ascii "task_0"), .lock [ascii "task_0"]]

theorem flagsAgree_oneTask {running : Bool} {thread : ThreadPoint}
    (agree : running = true ↔ thread = .inside) : FlagsAgree (oneTask running thread) := by
  rw [oneTask, ← AList.insert_empty]
  refine forall_lookup_insert (fun other entry _ found => ?_) agree
  rw [AList.lookup_empty] at found
  cases found

theorem stop_all_tasks_waits_one_task :
    ∃ shutdown, run shutdownStep (.quiet (oneTask true .inside) 1)
        ((endsInTime ++ [.sample]) ++ [.unlock]) = some shutdown ∧
      shutdown.stopper = .returned ∧
      ∀ id entry, shutdown.tasks.lookup id = some entry → entry.thread.Done := by
  have waiting : ∃ shutdown, run shutdownStep (.quiet (oneTask true .inside) 1) endsInTime
      = some shutdown ∧ shutdown.stopper = .checking (ascii "task_0") [] ∧
      shutdown.timedOut = false ∧
      shutdown.tasks.lookup (ascii "task_0") = some ⟨true, false, .returned⟩ :=
    ⟨_, rfl, rfl, rfl, rfl⟩
  obtain ⟨shutdown, ran, checking, inTime, found⟩ := waiting
  have sampled : shutdownStep shutdown .sample = some { shutdown with stopper := .unlocking } := by
    simp only [shutdownStep, checking, found]
    rfl
  have ranSample := (run_concat_iff shutdownStep _).mpr ⟨shutdown, ran, sampled⟩
  have ranUnlock := (run_concat_iff shutdownStep _).mpr
    ⟨_, ranSample, (rfl : shutdownStep { shutdown with stopper := .unlocking } .unlock = some _)⟩
  refine ⟨_, ranUnlock, rfl, stop_all_tasks_waits (oneTask true .inside) 1
    (flagsAgree_oneTask (by simp)) ranUnlock ?_ rfl inTime⟩
  refine (along_concat shutdownStep _ ranSample rfl).mpr
    ⟨(along_concat shutdownStep _ ran sampled).mpr ⟨?_, ?_⟩, ?_⟩
  · -- in front of the wait no flag is loaded
    intro before action rest split state after _ _ same
    have member : action ∈ endsInTime := by
      rw [split]
      simp
    simp [same, endsInTime] at member
  · intro _ id entry this there
    rw [checking] at this
    cases this
    rw [found] at there
    cases there
    decide
  · intro same
    cases same

/-- The thread of a new task has not run yet: its flag is not set, so it is not waited for. -/
theorem stop_all_tasks_passes_new_thread :
    ¬ ∀ (tasks : AList fun _ : Bytes => SharedEntry) (nextTaskId : UInt64)
      (actions : List ShutdownAction) (shutdown : Shutdown), FlagsAgree tasks →
      run shutdownStep (.quiet tasks nextTaskId) actions = some shutdown →
      shutdown.stopper = .returned → shutdown.timedOut = false →
      ∀ id entry, shutdown.tasks.lookup id = some entry → entry.thread.Done := by
  intro all
  have done := all (oneTask false .spawned) 1
    [.storeFlag, .snapshot [ascii "task_0"], .find, .request, .lock [ascii "task_0"], .sample,
      .unlock] _ (flagsAgree_oneTask (by simp)) rfl rfl rfl (ascii "task_0")
    ⟨true, false, .spawned⟩ rfl
  simp [ThreadPoint.Done] at done

end DemoDaemon.Tasks
