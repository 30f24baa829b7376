/-
**Several daemons on one path** (`UnixSocketServer::initialize`).

Any number of processes start a server on the same path, each at its own pace. A process makes the
system calls of its `initialize` one after the other; what it is answered must agree with what is at
the path at that moment. `stat`, `unlink` and `bind` are three calls, so others may come between
them.

* `PathState`, `pathStep`: the entry at the path, and for each process the calls it has still to
  make, from `Listener.initializeServer`.
* `InOrder`: a process removes and binds at most once, and in this order.
* **`path_leads_to_last`**: in every interleaving without failures of its own, and when no process is
  between its removal and its binding, the path leads to the process that has bound last.
* **`displaced_for_good`**: a process that the path has left is not led to again, in any
  continuation; its server goes on all the same.
-/

import DemoDaemon.Foundation.Transition
import DemoDaemon.Ipc.Listener

namespace DemoDaemon.Ipc

open Foundation

/-! ### The path -/

/-- What is at the path. A socket belongs to the process that has bound it, or to none of these. -/
inductive PathEntry (κ : Type) where
  | absent
  | file
  | socket (owner : Option κ)
deriving DecidableEq

structure PathState (κ : Type) where
  entry : PathEntry κ
  /-- The calls that each process has still to make. -/
  remaining : κ → List ListenerCall
  /-- The processes that have removed an entry, and those that have bound, in this order. -/
  removed : List κ
  bound : List κ

section Path

variable {κ : Type}

/-- Every process is about to call `initialize`, and will be answered so. -/
def PathState.start (config : UnixSocketConfig) (answers : κ → InitializeAnswers)
    (entry : PathEntry κ) : PathState κ :=
  ⟨entry, fun process => ((Listener.create config).initializeServer (answers process)).2.calls, [],
    []⟩

/-- Whether a call can be answered so, and what is at the path then. A call may fail for other
reasons than the entry; and `bind` with an empty path takes an address that is no path. -/
def PathEntry.answer (entry : PathEntry κ) (process : κ) : ListenerCall → Option (PathEntry κ)
  | .stat _ .socket =>
    match entry with
    | .socket _ => some entry
    | _ => none
  | .stat _ .other =>
    match entry with
    | .file => some entry
    | _ => none
  | .stat _ (.failed .noEntry) | .unlink _ (some .noEntry) =>
    match entry with
    | .absent => some entry
    | _ => none
  | .unlink _ none =>
    match entry with
    | .absent => none
    | _ => some .absent
  | .bind _ (_ :: _) true =>
    match entry with
    | .absent => some (.socket (some process))
    | _ => none
  | _ => some entry

/-- A successful removal. -/
def ListenerCall.removes : ListenerCall → Bool
  | .unlink _ none => true
  | _ => false

/-- A successful binding of a path. -/
def ListenerCall.binds : ListenerCall → Bool
  | .bind _ (_ :: _) true => true
  | _ => false

variable [DecidableEq κ]

/-- A process makes its next call. -/
def pathStep (state : PathState κ) (process : κ) : Option (PathState κ) :=
  match state.remaining process with
  | [] => none
  | call :: calls =>
    (state.entry.answer process call).map fun entry =>
      { entry
        remaining := Function.update state.remaining process calls
        removed := if call.removes then state.removed ++ [process] else state.removed
        bound := if call.binds then state.bound ++ [process] else state.bound }

end Path

/-! ### The order of the calls -/

/-- Where a call stands in `initialize`. -/
def ListenerCall.rank : ListenerCall → Nat
  | .stat _ _ => 0
  | .unlink _ _ => 1
  | .socket _ => 2
  | .bind _ _ _ => 3
  | _ => 4

/-- Each call stands behind those before it; only behind `bind` are there several of a rank. -/
def InOrder (calls : List ListenerCall) : Prop :=
  calls.Pairwise fun first second => first.rank < second.rank ∨ 3 < first.rank ∧ 3 < second.rank

theorem inOrder_cleanupSocket (path : Bytes) (answers : InitializeAnswers) :
    InOrder (cleanupSocket path answers).2 ∧
      ∀ call ∈ (cleanupSocket path answers).2, call.rank < 2 := by
  unfold cleanupSocket InOrder
  dsimp only
  split
  · simp [ListenerCall.rank]
  · simp [ListenerCall.rank]
  · split <;> simp [ListenerCall.rank]

theorem inOrder_createServerSocket (config : UnixSocketConfig) (answers : InitializeAnswers) :
    InOrder (createServerSocket config answers).2 ∧
      ∀ call ∈ (createServerSocket config answers).2, 1 < call.rank := by
  unfold createServerSocket InOrder
  split
  · simp [ListenerCall.rank]
  · split_ifs <;> simp [ListenerCall.rank]

/-- The calls behind `create_server_socket`. -/
theorem calls_initializeServer (listener : Listener) (answers : InitializeAnswers) :
    ∃ later, (listener.initializeServer answers).2.calls = listener.calls
        ++ (cleanupSocket listener.config.socketPath answers).2
        ++ (createServerSocket listener.config answers).2 ++ later ∧
      ∀ call ∈ later, call.rank = 4 := by
  unfold Listener.initializeServer
  cases answers.epollCreate with
  | none =>
    dsimp only
    split_ifs
    · exact ⟨[], by simp [Listener.log], by simp⟩
    · exact ⟨_, by simp [Listener.log]; rfl, by simp [ListenerCall.rank]⟩
  | some epollFd =>
    dsimp only
    split_ifs
    · exact ⟨[], by simp [Listener.log], by simp⟩
    · exact ⟨_, by simp [Listener.log]; rfl, by simp [ListenerCall.rank]⟩
    · exact ⟨_, by simp [Listener.log]; rfl, by simp [ListenerCall.rank]⟩

/-- **A process removes and binds at most once, and in this order.** -/
theorem inOrder_initializeServer (config : UnixSocketConfig) (answers : InitializeAnswers) :
    InOrder ((Listener.create config).initializeServer answers).2.calls := by
  obtain ⟨later, calls, ranks⟩ := calls_initializeServer (Listener.create config) answers
  obtain ⟨cleaned, early⟩ := inOrder_cleanupSocket config.socketPath answers
  obtain ⟨created, late⟩ := inOrder_createServerSocket config answers
  have ended : InOrder later := by
    refine List.Pairwise.imp_of_mem (R := fun _ _ => True) (fun first second _ => ?_) ?_
    · exact .inr ⟨by rw [ranks _ first]; omega, by rw [ranks _ second]; omega⟩
    · exact List.pairwise_of_forall fun _ _ => trivial
  rw [calls, show (Listener.create config).calls = [] from rfl, List.nil_append]
  refine List.pairwise_append.mpr ⟨List.pairwise_append.mpr ⟨cleaned, created, ?_⟩, ended, ?_⟩
  · intro first before second behind
    have := early first before
    have := late second behind
    omega
  · intro first before second behind
    have last := ranks second behind
    rcases List.mem_append.mp before with here | here
    · have := early first here
      omega
    · by_cases bound : first.rank ≤ 3
      · omega
      · omega

/-! ### One call -/

section Step

variable {κ : Type} [DecidableEq κ]

/-- What a call does to the entry: it removes it, puts a socket where there is none, or leaves it. -/
inductive EntryMove (entry : PathEntry κ) (process : κ) (call : ListenerCall) : PathEntry κ → Prop
  | removed (removes : call.removes = true) (binds : call.binds = false) (rank : call.rank = 1) :
      EntryMove entry process call .absent
  | bound (removes : call.removes = false) (binds : call.binds = true) (rank : call.rank = 3)
      (free : entry = .absent) :
      EntryMove entry process call (.socket (some process))
  | left (removes : call.removes = false) (binds : call.binds = false) :
      EntryMove entry process call entry

omit [DecidableEq κ] in
theorem entryMove_of_answer {entry after : PathEntry κ} {process : κ} {call : ListenerCall}
    (answered : entry.answer process call = some after) :
    EntryMove entry process call after := by
  cases call with
  | stat path result =>
    have same : after = entry := by
      rcases result with _ | _ | (_ | _) <;> cases entry <;> cases answered <;> rfl
    rw [same]
    exact .left rfl rfl
  | unlink path result =>
    rcases result with _ | (_ | _)
    · cases entry with
      | absent => cases answered
      | file | socket owner =>
        cases answered
        exact .removed rfl rfl rfl
    · cases entry with
      | absent =>
        cases answered
        exact .left rfl rfl
      | file | socket owner => cases answered
    · cases answered
      exact .left rfl rfl
  | bind fd path done =>
    rcases path with _ | ⟨byte, path⟩
    · cases answered
      exact .left rfl rfl
    · cases done with
      | false =>
        cases answered
        exact .left rfl rfl
      | true =>
        cases entry with
        | absent =>
          cases answered
          exact .bound rfl rfl rfl rfl
        | file | socket owner => cases answered
  | socket | chmod | listen | epollCreate | epollAdd | close =>
    cases answered
    exact .left rfl rfl

/-- What a process does. -/
theorem pathStep_cases {state after : PathState κ} {process : κ}
    (stepped : pathStep state process = some after) :
    ∃ call calls, state.remaining process = call :: calls ∧
      EntryMove state.entry process call after.entry ∧
      after.remaining = Function.update state.remaining process calls ∧
      after.removed = (if call.removes then state.removed ++ [process] else state.removed) ∧
      after.bound = (if call.binds then state.bound ++ [process] else state.bound) := by
  unfold pathStep at stepped
  cases next : state.remaining process with
  | nil =>
    rw [next] at stepped
    cases stepped
  | cons call calls =>
    rw [next] at stepped
    obtain ⟨entry, answered, rfl⟩ := Option.map_eq_some_iff.mp stepped
    exact ⟨call, calls, rfl, entryMove_of_answer answered, rfl, rfl, rfl⟩

/-! ### Runs -/

/-- The calls of each process are in order, and a process that has bound has neither a removal nor
a binding before it. -/
structure PathState.Sound (state : PathState κ) : Prop where
  ordered : ∀ process, InOrder (state.remaining process)
  spent : ∀ process ∈ state.bound, ∀ call ∈ state.remaining process, 3 < call.rank

omit [DecidableEq κ] in
theorem sound_start (config : UnixSocketConfig) (answers : κ → InitializeAnswers)
    (entry : PathEntry κ) : (PathState.start config answers entry).Sound where
  ordered process := inOrder_initializeServer config (answers process)
  spent _ member := absurd member List.not_mem_nil

/-- Behind a binding there is neither a removal nor a binding. -/
theorem InOrder.behind {call : ListenerCall} {calls : List ListenerCall}
    (ordered : InOrder (call :: calls)) (rank : 3 ≤ call.rank) :
    ∀ other ∈ calls, 3 < other.rank := by
  intro other member
  rcases (List.pairwise_cons.mp ordered).1 other member with more | ⟨-, more⟩
  · omega
  · exact more

theorem ListenerCall.rank_of_binds {call : ListenerCall} (binds : call.binds = true) :
    call.rank = 3 := by
  cases call with
  | bind => rfl
  | _ => cases binds

/-- **Step.** -/
theorem PathState.Sound.step {state after : PathState κ} {process : κ} (sound : state.Sound)
    (stepped : pathStep state process = some after) : after.Sound := by
  obtain ⟨call, calls, next, move, remaining, -, bound⟩ := pathStep_cases stepped
  have ordered : InOrder (call :: calls) := next ▸ sound.ordered process
  refine ⟨fun other => ?_, fun other member => ?_⟩
  · rw [remaining]
    by_cases here : other = process
    · rw [here, Function.update_self]
      exact (List.pairwise_cons.mp ordered).2
    · rw [Function.update_of_ne here]
      exact sound.ordered other
  · rw [remaining]
    by_cases here : other = process
    · rw [here, Function.update_self]
      by_cases binds : call.binds = true
      · exact ordered.behind (ListenerCall.rank_of_binds binds).ge
      · rw [bound, if_neg binds, here] at member
        intro later among
        refine sound.spent process member later ?_
        rw [next]
        exact List.mem_cons_of_mem call among
    · rw [Function.update_of_ne here]
      refine sound.spent other ?_
      rw [bound] at member
      split_ifs at member
      · exact (List.mem_append.mp member).resolve_right fun last =>
          here (List.mem_singleton.mp last)
      · exact member

/-- The binding of a process is still to come. -/
def PathState.Coming (state : PathState κ) (process : κ) : Prop :=
  ∃ call ∈ state.remaining process, call.rank = 3

/-- If the next call is `bind`, and there is nothing at the path, it binds the path. -/
def PathState.Benign (state : PathState κ) (process : κ) : Prop :=
  ∀ call calls, state.remaining process = call :: calls → call.rank = 3 →
    state.entry = .absent → call.binds = true

/-- The path leads to the last process that has bound, or one that has removed the entry since is
about to bind. -/
structure PathState.Led (state : PathState κ) : Prop extends state.Sound where
  either : ∀ process, state.Coming process ∨ ∀ call ∈ state.remaining process, 3 < call.rank
  leads : ∀ process, state.bound.getLast? = some process →
    state.entry = .socket (some process) ∨
      state.entry = .absent ∧ ∃ other ∈ state.removed, state.Coming other

/-- A call that is no binding leaves the binding of its process where it is. -/
theorem coming_of_step {state after : PathState κ} {process other : κ} {call : ListenerCall}
    {calls : List ListenerCall} (next : state.remaining process = call :: calls)
    (remaining : after.remaining = Function.update state.remaining process calls)
    (coming : state.Coming other) (rank : other = process → call.rank ≠ 3) :
    after.Coming other := by
  obtain ⟨binding, member, third⟩ := coming
  by_cases here : other = process
  · rw [here, next] at member
    refine ⟨binding, ?_, third⟩
    rw [remaining, here, Function.update_self]
    rcases List.mem_cons.mp member with same | behind
    · exact absurd (same ▸ third) (rank here)
    · exact behind
  · refine ⟨binding, ?_, third⟩
    rw [remaining, Function.update_of_ne here]
    exact member

/-- **Step.** -/
theorem PathState.Led.step {state after : PathState κ} {process : κ} (led : state.Led)
    (stepped : pathStep state process = some after) (benign : state.Benign process) :
    after.Led := by
  have sound := led.toSound.step stepped
  obtain ⟨call, calls, next, move, remaining, removed, bound⟩ := pathStep_cases stepped
  have ordered : InOrder (call :: calls) := next ▸ led.ordered process
  refine ⟨sound, fun other => ?_, fun last lastBound => ?_⟩
  · by_cases binding : other = process ∧ 3 ≤ call.rank
    · refine .inr ?_
      rw [remaining, binding.1, Function.update_self]
      exact ordered.behind binding.2
    · rcases led.either other with coming | spent
      · exact .inl (coming_of_step next remaining coming fun here third =>
          binding ⟨here, third.ge⟩)
      · refine .inr ?_
        have away : other ≠ process := by
          intro here
          refine binding ⟨here, (spent call ?_).le⟩
          rw [here, next]
          exact List.mem_cons_self
        rw [remaining, Function.update_of_ne away]
        exact spent
  · generalize after.entry = entry at move ⊢
    cases move with
    | removed removes binds rank =>
      have coming : state.Coming process := by
        refine (led.either process).resolve_right fun spent => ?_
        have late := spent call (next ▸ List.mem_cons_self)
        omega
      refine .inr ⟨rfl, process, ?_, coming_of_step next remaining coming fun _ => by omega⟩
      rw [removed, if_pos removes]
      exact List.mem_append_right _ List.mem_cons_self
    | bound removes binds rank free =>
      rw [bound, if_pos binds, List.getLast?_concat] at lastBound
      cases lastBound
      exact .inl rfl
    | left removes binds =>
      rw [bound, if_neg (Bool.eq_false_iff.mp binds)] at lastBound
      refine (led.leads last lastBound).imp_right ?_
      rintro ⟨absent, other, member, coming⟩
      refine ⟨absent, other, ?_, coming_of_step next remaining coming fun _ third => ?_⟩
      · rw [removed, if_neg (Bool.eq_false_iff.mp removes)]
        exact member
      · exact absurd (benign call calls next third absent) (Bool.eq_false_iff.mp binds)

omit [DecidableEq κ] in
/-- With a socket and a path that fits, every process comes to its binding. -/
theorem coming_start (config : UnixSocketConfig) {answers : κ → InitializeAnswers}
    (entry : PathEntry κ) {process : κ} (made : (answers process).socket ≠ none)
    (short : config.socketPath.length < sunPathSize) :
    (PathState.start config answers entry).Coming process := by
  obtain ⟨later, calls, -⟩ := calls_initializeServer (Listener.create config) (answers process)
  have created : ∃ call ∈ (createServerSocket config (answers process)).2, call.rank = 3 := by
    unfold createServerSocket
    cases given : (answers process).socket with
    | none => exact absurd given made
    | some fd =>
      dsimp only
      rw [if_neg (Nat.not_le.mpr short)]
      split_ifs <;> simp [ListenerCall.rank]
  obtain ⟨call, member, rank⟩ := created
  refine ⟨call, ?_, rank⟩
  show call ∈ ((Listener.create config).initializeServer (answers process)).2.calls
  rw [calls]
  exact List.mem_append_left _ (List.mem_append_right _ member)

/-- **The path leads to the last process that has bound.** For any number of processes that start on
one path, in every interleaving of their calls, whatever was there before: if every process has got
a socket, and `bind` fails only where there is something at the path, then the path leads to the
process that has bound last, as soon as every process that has removed an entry has come to its own
binding. -/
theorem path_leads_to_last (config : UnixSocketConfig) (answers : κ → InitializeAnswers)
    (entry : PathEntry κ) (actions : List κ) (state : PathState κ)
    (ran : run pathStep (.start config answers entry) actions = some state)
    (made : ∀ process, (answers process).socket ≠ none)
    (short : config.socketPath.length < sunPathSize)
    (benign : Along pathStep (.start config answers entry)
      (fun _ before process _ => before.Benign process) actions)
    (settled : ∀ process ∈ state.removed, ¬ state.Coming process)
    (last : κ) (bound : state.bound.getLast? = some last) :
    state.entry = .socket (some last) := by
  have led : state.Led := by
    refine run_induction_along pathStep _ ?_ ?_ ran benign
    · exact ⟨sound_start config answers entry,
        fun process => .inl (coming_start config entry (made process) short),
        fun process none => absurd none.symm (Option.some_ne_none process)⟩
    · intro _ process before after stepped benign led
      exact led.step stepped benign
  refine (led.leads last bound).resolve_right ?_
  rintro ⟨-, process, member, coming⟩
  exact settled process member coming

/-- **A process that the path has left is not led to again.** In every interleaving, and in every
continuation of it, whatever the calls are answered. -/
theorem displaced_for_good (config : UnixSocketConfig) (answers : κ → InitializeAnswers)
    (entry : PathEntry κ) (actions more : List κ) (state later : PathState κ)
    (ran : run pathStep (.start config answers entry) actions = some state)
    (continued : run pathStep state more = some later) (process : κ)
    (bound : process ∈ state.bound) (left : state.entry ≠ .socket (some process)) :
    later.entry ≠ .socket (some process) := by
  have sound : state.Sound := by
    refine run_induction pathStep _ (motive := fun _ state => state.Sound)
      (sound_start config answers entry) ?_ ran
    intro _ other before after _ sound stepped
    exact sound.step stepped
  have kept : later.Sound ∧ process ∈ later.bound ∧ later.entry ≠ .socket (some process) := by
    refine run_induction pathStep _ (motive := fun _ state => state.Sound ∧
      process ∈ state.bound ∧ state.entry ≠ .socket (some process)) ⟨sound, bound, left⟩ ?_ continued
    rintro _ other before after _ ⟨sound, bound, left⟩ stepped
    refine ⟨sound.step stepped, ?_⟩
    obtain ⟨call, calls, next, move, -, -, afterBound⟩ := pathStep_cases stepped
    refine ⟨?_, ?_⟩
    · rw [afterBound]
      split_ifs
      · exact List.mem_append_left _ bound
      · exact bound
    · generalize after.entry = entry at move ⊢
      cases move with
      | removed =>
        intro same
        cases same
      | bound _ _ rank _ =>
        intro same
        cases same
        have late := sound.spent process bound call (next ▸ List.mem_cons_self)
        omega
      | left => exact left
  exact kept.2.2

/-- The only `bind` of `initialize` is the one that is answered by `bind`. -/
theorem binds_start {config : UnixSocketConfig} {answers : InitializeAnswers}
    (done : answers.bind = true) (named : sunPath config.socketPath ≠ []) {call : ListenerCall}
    (member : call ∈ ((Listener.create config).initializeServer answers).2.calls)
    (rank : call.rank = 3) : call.binds = true := by
  obtain ⟨later, calls, ranks⟩ := calls_initializeServer (Listener.create config) answers
  have early := (inOrder_cleanupSocket config.socketPath answers).2 call
  rw [calls] at member
  rcases List.mem_append.mp member with before | behind
  · rcases List.mem_append.mp before with cleaned | created
    · have := early cleaned
      omega
    · obtain ⟨byte, path, bytes⟩ := List.exists_cons_of_ne_nil named
      change call ∈ (createServerSocket config answers).2 at created
      unfold createServerSocket at created
      split at created
      · rw [List.mem_singleton.mp created] at rank
        cases rank
      · simp only [done, bytes, Bool.not_true, Bool.false_eq_true, if_false] at created
        split_ifs at created <;>
          simp only [List.mem_cons, List.not_mem_nil, or_false] at created <;>
          rcases created with rfl | rfl | rfl | rfl | rfl <;>
          first | rfl | cases rank
  · have := ranks call behind
    omega

/-- Where every `bind` succeeds, every step is benign. -/
theorem benign_of_bind {config : UnixSocketConfig} {answers : κ → InitializeAnswers}
    {entry : PathEntry κ} (done : ∀ process, (answers process).bind = true)
    (named : sunPath config.socketPath ≠ []) (actions : List κ) :
    Along pathStep (.start config answers entry)
      (fun _ before process _ => before.Benign process) actions := by
  intro before process rest split state after ran stepped
  have binds : ∀ other, ∀ call ∈ state.remaining other, call.rank = 3 → call.binds = true := by
    refine run_induction pathStep _ (motive := fun _ state => ∀ other,
      ∀ call ∈ state.remaining other, call.rank = 3 → call.binds = true) ?_ ?_ ran
    · exact fun other call member rank => binds_start (done other) named member rank
    · intro _ mover state after _ binds stepped other call member rank
      obtain ⟨made, calls, next, -, remaining, -⟩ := pathStep_cases stepped
      rw [remaining] at member
      by_cases here : other = mover
      · rw [here, Function.update_self] at member
        exact binds mover call (next ▸ List.mem_cons_of_mem made member) rank
      · rw [Function.update_of_ne here] at member
        exact binds other call member rank
  intro call calls next rank _
  exact binds process call (next ▸ List.mem_cons_self) rank

end Step

/-- Two processes that both see an old socket; the second removes the socket of the first. -/
def overlapping : List Bool := [false, true, false, false, false, true, true, true]

def sharedPath : UnixSocketConfig := ⟨ascii "/tmp/a", 432, 128⟩

/-- The answers to a start that finds a socket. -/
def findsSocket (socket epoll : Int32) : InitializeAnswers :=
  { allDone socket epoll with stat := .socket }

theorem path_leads_to_last_overlapping :
    ∃ state, run pathStep (.start sharedPath (fun _ => findsSocket 3 4) (.socket none)) overlapping
        = some state ∧ state.bound = [false, true] ∧ state.entry = .socket (some true) := by
  have reached : (run pathStep (.start sharedPath (fun _ => findsSocket 3 4) (.socket none))
      overlapping).map (fun state => (state.bound, [false, true].all fun process =>
        (state.remaining process).all fun call => decide (3 < call.rank)))
        = some ([false, true], true) := by
    decide +kernel
  obtain ⟨state, ran, same⟩ := Option.map_eq_some_iff.mp reached
  obtain ⟨bound, late⟩ := Prod.mk.inj same
  refine ⟨state, ran, bound, path_leads_to_last sharedPath (fun _ => findsSocket 3 4)
    (.socket none) overlapping state ran ?_ ?_ (benign_of_bind (fun _ => rfl) ?_ _) ?_ true ?_⟩
  · exact fun _ => Option.some_ne_none 3
  · decide
  · decide
  · rintro process - ⟨call, member, rank⟩
    have all := List.all_eq_true.mp late process (by cases process <;> decide)
    have behind := of_decide_eq_true (List.all_eq_true.mp all call member)
    omega
  · rw [bound]
    rfl

/-- The first process has bound, and its socket was removed: whatever comes, the path does not lead
to it again. -/
theorem displaced_for_good_overlapping :
    ∃ state later, run pathStep (.start sharedPath (fun _ => findsSocket 3 4) (.socket none))
        (overlapping.take 6) = some state ∧ run pathStep state (overlapping.drop 6) = some later ∧
      later.entry ≠ .socket (some false) :=
  ⟨_, _, rfl, rfl, displaced_for_good sharedPath (fun _ => findsSocket 3 4) (.socket none)
    (overlapping.take 6) (overlapping.drop 6) _ _ rfl rfl false (by decide) (by decide)⟩

end DemoDaemon.Ipc
