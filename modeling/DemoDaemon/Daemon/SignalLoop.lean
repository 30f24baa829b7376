/-
**Signals and the main loop** (`signal_handler.cpp`, `daemon/main.cpp`).

A signal is recorded twice, and not at once: a flag that stays set (`SIGINT` and `SIGTERM` only),
and a slot for the latest signal, which the next signal overwrites and the loop empties. Any number
of handlers may be under way at the same time, on any thread or inside each other; every load,
store, exchange, read or write is one action, and a run is any order of the actions of the handlers
and the loop.

* `signalStep`: one action; `SignalMove` says what it finds and leaves behind.
* `Faithful`: whatever else says that a shutdown was asked for, the flag says it too, and a handler
  has set it.
* **`shutdown_signals_kept`**: the loop leaves only behind the flag store of a `SIGINT` or `SIGTERM`
  handler, and behind one it leaves at its next test at the latest.
-/

import DemoDaemon.Foundation.Bytes
import DemoDaemon.Foundation.Transition

namespace DemoDaemon.Daemon

open Foundation

/-! ### Signals -/

/-- The signals that `handleSignal` knows. -/
inductive Signal where
  | sigint
  | sigterm
  | sighup
  | sigpipe
deriving DecidableEq

/-- `SignalHandler::SignalType`. -/
inductive SignalType where
  | none
  | interrupt
  | terminate
  | hangup
  | pipe
deriving DecidableEq

def Signal.number : Signal → UInt8
  | .sigint => 2
  | .sigterm => 15
  | .sighup => 1
  | .sigpipe => 13

def Signal.type : Signal → SignalType
  | .sigint => .interrupt
  | .sigterm => .terminate
  | .sighup => .hangup
  | .sigpipe => .pipe

/-- The signals whose handler stores the flag. -/
def Signal.shutsDown : Signal → Bool
  | .sigint => true
  | .sigterm => true
  | .sighup => false
  | .sigpipe => false

/-- The entries of the slot at which the loop leaves. -/
def SignalType.shutsDown : SignalType → Bool
  | .interrupt => true
  | .terminate => true
  | _ => false

theorem Signal.shutsDown_type (signal : Signal) : signal.type.shutsDown = signal.shutsDown := by
  cases signal <;> rfl

/-! ### State -/

/-- Where an invocation of `handleSignal` is. -/
inductive HandlerPoint where
  | idle
  /-- In front of `shutdownRequested_.store(true)`. -/
  | storing (signal : Signal) (shuts : signal.shutsDown = true)
  /-- In front of the `::write` to the pipe. -/
  | writing (signal : Signal)
  /-- In front of the load of `initialized_`. -/
  | loading (signal : Signal)
  /-- In front of the store to `pendingSignal_`. -/
  | marking (signal : Signal)
  | returned (signal : Signal)
deriving DecidableEq

/-- The first point of an invocation. -/
def HandlerPoint.entered (signal : Signal) : HandlerPoint :=
  if shuts : signal.shutsDown = true then .storing signal shuts else .writing signal

/-- Where the main thread is. -/
inductive LoopPoint where
  /-- In front of `initialized_.store(true)`. -/
  | registering
  /-- In front of the loop condition. -/
  | testing
  /-- In `checkSignal`, in front of the load of `initialized_`. -/
  | checking
  /-- In `checkSignal`, in front of a `::read` of the pipe. -/
  | draining
  /-- In `checkSignal`, in front of the exchange. -/
  | exchanging
  | switching (signal : SignalType)
  /-- In front of `reset()`. -/
  | resetting
  | sleeping
  | left
deriving DecidableEq

structure Signals where
  shutdownRequested : Bool
  pendingSignal : SignalType
  initialized : Bool
  pipe : Bytes
  handlers : Nat → HandlerPoint
  loop : LoopPoint

def Signals.start : Signals := ⟨false, .none, false, [], fun _ => .idle, .registering⟩

/-! ### Actions -/

inductive SignalAction where
  /-- A handler is invoked. -/
  | deliver (handler : Nat) (signal : Signal)
  /-- Handler: `shutdownRequested_.store(true)`. -/
  | store (handler : Nat)
  /-- Handler: the `::write`, whose result is ignored. -/
  | write (handler : Nat) (written : Bool)
  /-- Handler: the load of `initialized_`. -/
  | load (handler : Nat)
  /-- Handler: the store to `pendingSignal_`. -/
  | mark (handler : Nat)
  /-- Main: `initialized_.store(true)`. -/
  | register
  /-- Main: an evaluation of the loop condition. -/
  | test
  /-- Main: the load of `initialized_`. -/
  | check
  /-- Main: a `::read` of at most 64 bytes, which may fail for another reason than an empty pipe. -/
  | read (failed : Bool)
  /-- Main: the exchange. -/
  | exchange
  | switch
  /-- Main: `reset()`. -/
  | reset
  | sleep
deriving DecidableEq

def Signals.setHandler (signals : Signals) (handler : Nat) (point : HandlerPoint) : Signals :=
  { signals with
    handlers := fun other => if other = handler then point else signals.handlers other }

def Signals.setLoop (signals : Signals) (point : LoopPoint) : Signals :=
  { signals with loop := point }

/-- Behind the `switch`. -/
def LoopPoint.afterSwitch : SignalType → LoopPoint
  | .none => .sleeping
  | .interrupt => .left
  | .terminate => .left
  | .hangup => .resetting
  | .pipe => .resetting

/-- One action. -/
def signalStep (signals : Signals) : SignalAction → Option Signals
  | .deliver handler signal =>
    match signals.handlers handler with
    | .idle => some (signals.setHandler handler (.entered signal))
    | _ => none
  | .store handler =>
    match signals.handlers handler with
    | .storing signal _ =>
      some ({ signals with shutdownRequested := true }.setHandler handler (.writing signal))
    | _ => none
  | .write handler written =>
    match signals.handlers handler with
    | .writing signal =>
      some ({ signals with
        pipe := if written then signals.pipe ++ [signal.number] else signals.pipe }.setHandler
          handler (.loading signal))
    | _ => none
  | .load handler =>
    match signals.handlers handler with
    | .loading signal =>
      some (signals.setHandler handler
        (if signals.initialized then .marking signal else .returned signal))
    | _ => none
  | .mark handler =>
    match signals.handlers handler with
    | .marking signal =>
      some ({ signals with pendingSignal := signal.type }.setHandler handler (.returned signal))
    | _ => none
  | .register =>
    match signals.loop with
    | .registering => some ({ signals with initialized := true }.setLoop .testing)
    | _ => none
  | .test =>
    match signals.loop with
    | .testing => some (signals.setLoop (if signals.shutdownRequested then .left else .checking))
    | _ => none
  | .check =>
    match signals.loop with
    | .checking =>
      some (signals.setLoop (if signals.initialized then .draining else .switching .none))
    | _ => none
  | .read failed =>
    match signals.loop with
    | .draining =>
      if failed || signals.pipe.isEmpty then some (signals.setLoop .exchanging)
      else some { signals with pipe := signals.pipe.drop 64 }
    | _ => none
  | .exchange =>
    match signals.loop with
    | .exchanging =>
      some ({ signals with pendingSignal := .none }.setLoop (.switching signals.pendingSignal))
    | _ => none
  | .switch =>
    match signals.loop with
    | .switching signal => some (signals.setLoop (.afterSwitch signal))
    | _ => none
  | .reset =>
    match signals.loop with
    | .resetting => some ({ signals with pendingSignal := .none }.setLoop .testing)
    | _ => none
  | .sleep =>
    match signals.loop with
    | .sleeping => some (signals.setLoop .testing)
    | _ => none

/-- What an action finds and what it leaves behind, case by case. -/
inductive SignalMove (before : Signals) : SignalAction → Signals → Prop
  | deliver {handler : Nat} {signal : Signal} (here : before.handlers handler = .idle) :
      SignalMove before (.deliver handler signal) (before.setHandler handler (.entered signal))
  | store {handler : Nat} {signal : Signal} {shuts : signal.shutsDown = true}
      (here : before.handlers handler = .storing signal shuts) :
      SignalMove before (.store handler)
        ({ before with shutdownRequested := true }.setHandler handler (.writing signal))
  | write {handler : Nat} {signal : Signal} {written : Bool}
      (here : before.handlers handler = .writing signal) :
      SignalMove before (.write handler written)
        ({ before with
          pipe := if written then before.pipe ++ [signal.number] else before.pipe }.setHandler
            handler (.loading signal))
  | load {handler : Nat} {signal : Signal} (here : before.handlers handler = .loading signal)
      (ready : before.initialized = true) :
      SignalMove before (.load handler) (before.setHandler handler (.marking signal))
  | skip {handler : Nat} {signal : Signal} (here : before.handlers handler = .loading signal)
      (early : before.initialized = false) :
      SignalMove before (.load handler) (before.setHandler handler (.returned signal))
  | mark {handler : Nat} {signal : Signal} (here : before.handlers handler = .marking signal) :
      SignalMove before (.mark handler)
        ({ before with pendingSignal := signal.type }.setHandler handler (.returned signal))
  | register (here : before.loop = .registering) :
      SignalMove before .register ({ before with initialized := true }.setLoop .testing)
  | leave (here : before.loop = .testing) (set : before.shutdownRequested = true) :
      SignalMove before .test (before.setLoop .left)
  | enter (here : before.loop = .testing) (unset : before.shutdownRequested = false) :
      SignalMove before .test (before.setLoop .checking)
  | check (here : before.loop = .checking) (ready : before.initialized = true) :
      SignalMove before .check (before.setLoop .draining)
  | unready (here : before.loop = .checking) (early : before.initialized = false) :
      SignalMove before .check (before.setLoop (.switching .none))
  | drained {failed : Bool} (here : before.loop = .draining)
      (done : (failed || before.pipe.isEmpty) = true) :
      SignalMove before (.read failed) (before.setLoop .exchanging)
  | read {failed : Bool} (here : before.loop = .draining)
      (more : ¬ (failed || before.pipe.isEmpty) = true) :
      SignalMove before (.read failed) { before with pipe := before.pipe.drop 64 }
  | exchange (here : before.loop = .exchanging) :
      SignalMove before .exchange
        ({ before with pendingSignal := .none }.setLoop (.switching before.pendingSignal))
  | switch {signal : SignalType} (here : before.loop = .switching signal) :
      SignalMove before .switch (before.setLoop (.afterSwitch signal))
  | reset (here : before.loop = .resetting) :
      SignalMove before .reset ({ before with pendingSignal := .none }.setLoop .testing)
  | sleep (here : before.loop = .sleeping) : SignalMove before .sleep (before.setLoop .testing)

theorem signalMove_of_step {before after : Signals} {action : SignalAction}
    (stepped : signalStep before action = some after) : SignalMove before action after := by
  cases action with
  | load handler =>
    simp only [signalStep] at stepped
    split at stepped
    · rename_i signal here
      cases stepped
      cases ready : before.initialized with
      | true => exact .load here ready
      | false => exact .skip here ready
    · cases stepped
  | test =>
    simp only [signalStep] at stepped
    split at stepped
    · rename_i here
      cases stepped
      cases set : before.shutdownRequested with
      | true => exact .leave here set
      | false => exact .enter here set
    · cases stepped
  | check =>
    simp only [signalStep] at stepped
    split at stepped
    · rename_i here
      cases stepped
      cases ready : before.initialized with
      | true => exact .check here ready
      | false => exact .unready here ready
    · cases stepped
  | read failed =>
    simp only [signalStep] at stepped
    split at stepped
    · rename_i here
      split_ifs at stepped with done
      · cases stepped
        exact .drained here done
      · cases stepped
        exact .read here done
    · cases stepped
  | _ =>
    simp only [signalStep] at stepped
    split at stepped
    · rename_i here
      cases stepped
      constructor
      exact here
    · cases stepped

/-! ### What the records say -/

/-- An invocation that has stored the flag. -/
def HandlerPoint.stored : HandlerPoint → Bool
  | .idle => false
  | .storing _ _ => false
  | .writing signal => signal.shutsDown
  | .loading signal => signal.shutsDown
  | .marking signal => signal.shutsDown
  | .returned signal => signal.shutsDown

/-- A point that the main thread reaches only for a shutdown. -/
def LoopPoint.leaving : LoopPoint → Bool
  | .switching signal => signal.shutsDown
  | .left => true
  | _ => false

/-- The flag is set by a handler that is there, and wherever else a shutdown is recorded, it is in
the flag. -/
structure Faithful (signals : Signals) : Prop where
  handled : signals.shutdownRequested = true →
    ∃ handler, (signals.handlers handler).stored = true
  stored : ∀ handler, (signals.handlers handler).stored = true → signals.shutdownRequested = true
  pending : signals.pendingSignal.shutsDown = true → signals.shutdownRequested = true
  leaving : signals.loop.leaving = true → signals.shutdownRequested = true

theorem faithful_start : Faithful Signals.start where
  handled set := absurd set Bool.false_ne_true
  stored _ set := absurd set Bool.false_ne_true
  pending shuts := absurd shuts Bool.false_ne_true
  leaving leaves := absurd leaves Bool.false_ne_true

/-- An action of the main thread leaves the flag and the handlers alone. -/
theorem Faithful.main {before after : Signals} (faithful : Faithful before)
    (flag : after.shutdownRequested = before.shutdownRequested)
    (handlers : after.handlers = before.handlers)
    (pending : after.pendingSignal.shutsDown = true → before.pendingSignal.shutsDown = true)
    (leaving : after.loop.leaving = true → before.shutdownRequested = true) : Faithful after where
  handled := by
    rw [flag, handlers]
    exact faithful.handled
  stored := by
    rw [flag, handlers]
    exact faithful.stored
  pending := by
    rw [flag]
    exact fun shuts => faithful.pending (pending shuts)
  leaving := by
    rw [flag]
    exact leaving

theorem handlers_setHandler_same (signals : Signals) (handler : Nat) (point : HandlerPoint) :
    (signals.setHandler handler point).handlers handler = point := if_pos rfl

theorem handlers_setHandler_other (signals : Signals) {handler other : Nat} (point : HandlerPoint)
    (different : other ≠ handler) :
    (signals.setHandler handler point).handlers other = signals.handlers other := if_neg different

/-- An action of a handler: the flag stays set, the handler does not lose its store, and what it
writes to the slot is in the flag. -/
theorem Faithful.handler {before changed : Signals} (faithful : Faithful before) {handler : Nat}
    {point : HandlerPoint} (handlers : changed.handlers = before.handlers)
    (loop : changed.loop = before.loop)
    (flag : changed.shutdownRequested = (before.shutdownRequested || point.stored))
    (keeps : (before.handlers handler).stored = true → point.stored = true)
    (pending : changed.pendingSignal.shutsDown = true →
      before.pendingSignal.shutsDown = true ∨ point.stored = true) :
    Faithful (changed.setHandler handler point) := by
  have set : (changed.setHandler handler point).shutdownRequested = true ↔
      before.shutdownRequested = true ∨ point.stored = true := by
    rw [← Bool.or_eq_true, ← flag]
    rfl
  refine ⟨?_, ?_, ?_, ?_⟩
  · intro now
    rcases set.mp now with earlier | stored
    · obtain ⟨other, stored⟩ := faithful.handled earlier
      refine ⟨other, ?_⟩
      by_cases here : other = handler
      · subst here
        rw [handlers_setHandler_same]
        exact keeps stored
      · rw [handlers_setHandler_other changed point here, handlers]
        exact stored
    · refine ⟨handler, ?_⟩
      rw [handlers_setHandler_same]
      exact stored
  · intro other stored
    by_cases here : other = handler
    · subst here
      rw [handlers_setHandler_same] at stored
      exact set.mpr (.inr stored)
    · rw [handlers_setHandler_other changed point here, handlers] at stored
      exact set.mpr (.inl (faithful.stored other stored))
  · intro shuts
    exact set.mpr ((pending shuts).imp faithful.pending id)
  · intro leaves
    rw [Signals.setHandler, loop] at leaves
    exact set.mpr (.inl (faithful.leaving leaves))

/-- An action of a handler behind its store, or of one that stores nothing. -/
theorem Faithful.advance {before changed : Signals} (faithful : Faithful before) {handler : Nat}
    {point : HandlerPoint} (handlers : changed.handlers = before.handlers)
    (loop : changed.loop = before.loop)
    (flag : changed.shutdownRequested = before.shutdownRequested)
    (same : point.stored = (before.handlers handler).stored)
    (pending : changed.pendingSignal.shutsDown = true →
      before.pendingSignal.shutsDown = true ∨ point.stored = true) :
    Faithful (changed.setHandler handler point) := by
  refine faithful.handler handlers loop ?_ (fun stored => same.trans stored) pending
  rw [flag]
  cases stored : point.stored with
  | false => exact (Bool.or_false _).symm
  | true => rw [Bool.or_true, faithful.stored handler (same.symm.trans stored)]

/-- **Step.** -/
theorem Faithful.step {before after : Signals} {action : SignalAction} (faithful : Faithful before)
    (stepped : signalStep before action = some after) : Faithful after := by
  cases signalMove_of_step stepped with
  | @deliver handler signal here =>
    have notYet : (HandlerPoint.entered signal).stored = false := by
      unfold HandlerPoint.entered
      split_ifs with shuts
      · rfl
      · exact Bool.eq_false_iff.mpr shuts
    refine faithful.advance rfl rfl rfl ?_ Or.inl
    rw [notYet, here]
    rfl
  | @store handler signal shuts here =>
    have stored : (HandlerPoint.writing signal).stored = true := shuts
    refine faithful.handler rfl rfl ?_ (fun _ => stored) Or.inl
    rw [stored, Bool.or_true]
  | write here => exact faithful.advance rfl rfl rfl (by rw [here]; rfl) Or.inl
  | load here _ => exact faithful.advance rfl rfl rfl (by rw [here]; rfl) Or.inl
  | skip here _ => exact faithful.advance rfl rfl rfl (by rw [here]; rfl) Or.inl
  | @mark handler signal here =>
    refine faithful.advance rfl rfl rfl (by rw [here]; rfl) fun shuts => .inr ?_
    exact signal.shutsDown_type.symm.trans shuts
  | leave _ set => exact faithful.main rfl rfl id fun _ => set
  | read _ _ => exact faithful.main rfl rfl id faithful.leaving
  | exchange _ =>
    exact faithful.main rfl rfl (fun shuts => absurd shuts Bool.false_ne_true) faithful.pending
  | @switch signal here =>
    refine faithful.main rfl rfl id fun leaves => faithful.leaving ?_
    rw [here]
    -- the loop leaves at exactly the two signals that shut down
    cases signal <;> exact leaves
  | reset _ =>
    exact faithful.main rfl rfl (fun shuts => absurd shuts Bool.false_ne_true)
      fun leaves => absurd leaves Bool.false_ne_true
  | register | enter | check | unready | drained | sleep =>
    exact faithful.main rfl rfl id fun leaves => absurd leaves Bool.false_ne_true

/-- **Run.** -/
theorem faithful_of_run {actions : List SignalAction} {signals : Signals}
    (ran : run signalStep Signals.start actions = some signals) : Faithful signals := by
  refine run_induction signalStep Signals.start (motive := fun _ signals => Faithful signals)
    faithful_start ?_ ran
  intro _ _ _ _ _ faithful stepped
  exact faithful.step stepped

/-! ### Handlers and the actions they made -/

/-- The signal of an invocation. -/
def HandlerPoint.signal : HandlerPoint → Option Signal
  | .idle => none
  | .storing signal _ => some signal
  | .writing signal => some signal
  | .loading signal => some signal
  | .marking signal => some signal
  | .returned signal => some signal

/-- What an action does to an invocation: nothing, its beginning, or a move under the same signal,
which stores the flag only as a store. -/
inductive Moved (action : SignalAction) (handler : Nat) (before after : HandlerPoint) : Prop
  | same (unchanged : after = before)
  | begun (signal : Signal) (delivers : action = .deliver handler signal)
      (entered : after = .entered signal)
  | on (signal : after.signal = before.signal)
      (stored : after.stored = before.stored ∨ action = .store handler)

theorem moved_setHandler {before changed : Signals} {action : SignalAction} {handler : Nat}
    {point : HandlerPoint} (handlers : changed.handlers = before.handlers)
    (moved : Moved action handler (before.handlers handler) point) (other : Nat) :
    Moved action other (before.handlers other)
      ((changed.setHandler handler point).handlers other) := by
  by_cases here : other = handler
  · subst here
    rw [handlers_setHandler_same]
    exact moved
  · rw [handlers_setHandler_other changed point here, handlers]
    exact .same rfl

theorem moved_of_step {before after : Signals} {action : SignalAction}
    (stepped : signalStep before action = some after) (other : Nat) :
    Moved action other (before.handlers other) (after.handlers other) := by
  cases signalMove_of_step stepped with
  | deliver here => exact moved_setHandler rfl (.begun _ rfl rfl) other
  | store here => exact moved_setHandler rfl (here ▸ .on rfl (.inr rfl)) other
  | write here => exact moved_setHandler rfl (here ▸ .on rfl (.inl rfl)) other
  | load here _ => exact moved_setHandler rfl (here ▸ .on rfl (.inl rfl)) other
  | skip here _ => exact moved_setHandler rfl (here ▸ .on rfl (.inl rfl)) other
  | mark here => exact moved_setHandler rfl (here ▸ .on rfl (.inl rfl)) other
  | _ => exact .same rfl

/-- **Run.** An invocation was begun for its signal, and has stored the flag as an action. -/
theorem delivered_of_run {actions : List SignalAction} {signals : Signals}
    (ran : run signalStep Signals.start actions = some signals) (handler : Nat) :
    (∀ signal, (signals.handlers handler).signal = some signal →
      .deliver handler signal ∈ actions) ∧
    ((signals.handlers handler).stored = true → .store handler ∈ actions) := by
  refine run_induction signalStep Signals.start (motive := fun actions signals =>
    (∀ signal, (signals.handlers handler).signal = some signal →
      .deliver handler signal ∈ actions) ∧
    ((signals.handlers handler).stored = true → .store handler ∈ actions)) ?_ ?_ ran
  · refine ⟨fun signal here => ?_, fun stored => absurd stored Bool.false_ne_true⟩
    cases here
  · rintro actions action before after _ ⟨begun, stores⟩ stepped
    cases moved_of_step stepped handler with
    | same unchanged =>
      rw [unchanged]
      exact ⟨fun signal here => List.mem_append_left _ (begun signal here),
        fun stored => List.mem_append_left _ (stores stored)⟩
    | begun first delivers entered =>
      subst delivers
      rw [entered]
      unfold HandlerPoint.entered
      split_ifs with shuts
      · refine ⟨fun signal here => ?_, fun stored => absurd stored Bool.false_ne_true⟩
        cases here
        exact List.mem_append_right _ List.mem_cons_self
      · refine ⟨fun signal here => ?_, fun stored => absurd stored shuts⟩
        cases here
        exact List.mem_append_right _ List.mem_cons_self
    | on signal stored =>
      refine ⟨fun other here => List.mem_append_left _ (begun other (signal ▸ here)), ?_⟩
      intro now
      rcases stored with unchanged | rfl
      · exact List.mem_append_left _ (stores (unchanged ▸ now))
      · exact List.mem_append_right _ List.mem_cons_self

theorem signal_of_stored {point : HandlerPoint} (stored : point.stored = true) :
    ∃ signal, point.signal = some signal ∧ signal.shutsDown = true := by
  cases point with
  | idle => exact absurd stored Bool.false_ne_true
  | storing signal shuts => exact ⟨signal, rfl, shuts⟩
  | writing signal => exact ⟨signal, rfl, stored⟩
  | loading signal => exact ⟨signal, rfl, stored⟩
  | marking signal => exact ⟨signal, rfl, stored⟩
  | returned signal => exact ⟨signal, rfl, stored⟩

/-! ### The flag stays -/

theorem flag_of_step {before after : Signals} {action : SignalAction}
    (set : before.shutdownRequested = true) (stepped : signalStep before action = some after) :
    after.shutdownRequested = true := by
  cases signalMove_of_step stepped with
  | store here => rfl
  | _ => exact set

theorem flag_of_run {before after : Signals} {actions : List SignalAction}
    (set : before.shutdownRequested = true)
    (ran : run signalStep before actions = some after) : after.shutdownRequested = true := by
  refine run_induction signalStep before (motive := fun _ signals =>
    signals.shutdownRequested = true) set ?_ ran
  intro _ _ _ _ _ earlier stepped
  exact flag_of_step earlier stepped

theorem flag_of_store {before after : Signals} {handler : Nat}
    (stepped : signalStep before (.store handler) = some after) :
    after.shutdownRequested = true := by
  cases signalMove_of_step stepped with
  | store here => rfl

/-- A test that finds the flag leaves. -/
theorem left_of_test {before after : Signals} (set : before.shutdownRequested = true)
    (stepped : signalStep before .test = some after) : after.loop = .left := by
  cases signalMove_of_step stepped with
  | leave _ _ => rfl
  | enter _ unset => exact absurd (unset.symm.trans set) Bool.false_ne_true

/-- The loop leaves with the flag set, by its condition or by the slot. -/
theorem Faithful.flag_of_leaving {before after : Signals} {action : SignalAction}
    (faithful : Faithful before) (stepped : signalStep before action = some after)
    (notYet : before.loop ≠ .left) (left : after.loop = .left) :
    before.shutdownRequested = true := by
  cases signalMove_of_step stepped with
  | leave _ set => exact set
  | @switch signal here =>
    refine faithful.leaving ?_
    rw [here]
    cases signal with
    | interrupt => rfl
    | terminate => rfl
    | none => cases left
    | hangup => cases left
    | pipe => cases left
  | deliver | store | write | load | skip | mark | read => exact absurd left notYet
  | register | enter | check | unready | drained | exchange | reset | sleep => cases left

/-! ### The way out -/

/-- The actions of the main thread. -/
def SignalAction.isMain : SignalAction → Bool
  | .deliver _ _ => false
  | .store _ => false
  | .write _ _ => false
  | .load _ => false
  | .mark _ => false
  | _ => true

/-- The main thread on its own leaves the loop. -/
def LeavesAlone (signals : Signals) : Prop :=
  ∃ own final, (∀ action ∈ own, SignalAction.isMain action = true) ∧
    run signalStep signals own = some final ∧ final.loop = .left

/-- The main thread on its own comes to a goal. -/
def Alone (goal : Signals → Prop) (signals : Signals) : Prop :=
  ∃ own final, (∀ action ∈ own, SignalAction.isMain action = true) ∧
    run signalStep signals own = some final ∧ goal final

section Reaching

variable {goal : Signals → Prop} {signals : Signals}

theorem Alone.here (reached : goal signals) : Alone goal signals :=
  ⟨[], signals, List.forall_mem_nil _, rfl, reached⟩

theorem Alone.step {after : Signals} (action : SignalAction) (main : action.isMain = true)
    (stepped : signalStep signals action = some after) (reaches : Alone goal after) :
    Alone goal signals := by
  obtain ⟨own, final, mine, ran, reached⟩ := reaches
  refine ⟨action :: own, final, ?_, (run_cons_iff _ _).mpr ⟨after, stepped, ran⟩, reached⟩
  rw [List.forall_mem_cons]
  exact ⟨main, mine⟩

theorem Alone.register (here : signals.loop = .registering)
    (reaches : Alone goal ({ signals with initialized := true }.setLoop .testing)) :
    Alone goal signals := by
  refine .step .register rfl ?_ reaches
  simp only [signalStep, here]

/-- The pipe is read 64 bytes at a time until it is empty. -/
theorem Alone.drain (here : signals.loop = .draining)
    (reaches : Alone goal ({ signals with pipe := [] }.setLoop .exchanging)) :
    Alone goal signals := by
  generalize size : signals.pipe.length = length
  induction length using Nat.strong_induction_on generalizing signals with
  | _ length ih =>
    by_cases empty : signals.pipe = []
    · have read : signalStep signals (.read false) = some (signals.setLoop .exchanging) := by
        simp [signalStep, here, empty]
      rw [← empty] at reaches
      exact .step (.read false) rfl read reaches
    · have read : signalStep signals (.read false)
          = some { signals with pipe := signals.pipe.drop 64 } := by
        simp [signalStep, here, empty]
      have positive := List.length_pos_iff.mpr empty
      refine .step (.read false) rfl read (ih (length - 64) (by omega) here reaches ?_)
      rw [List.length_drop, size]

theorem Alone.check (here : signals.loop = .checking) (ready : signals.initialized = true)
    (reaches : Alone goal (signals.setLoop .draining)) : Alone goal signals := by
  refine .step .check rfl ?_ reaches
  simp only [signalStep, here, ready]
  rfl

theorem Alone.switch {signal : SignalType} (here : signals.loop = .switching signal)
    (reaches : Alone goal (signals.setLoop (.afterSwitch signal))) : Alone goal signals := by
  refine .step .switch rfl ?_ reaches
  simp only [signalStep, here]

theorem Alone.sleep (here : signals.loop = .sleeping)
    (reaches : Alone goal (signals.setLoop .testing)) : Alone goal signals := by
  refine .step .sleep rfl ?_ reaches
  simp only [signalStep, here]

end Reaching

theorem leavesAlone_left {signals : Signals} (here : signals.loop = .left) :
    LeavesAlone signals :=
  Alone.here here

section Leaving

variable {signals : Signals} (set : signals.shutdownRequested = true)

include set

theorem leavesAlone_testing (here : signals.loop = .testing) : LeavesAlone signals := by
  have tested : signalStep signals .test = some (signals.setLoop .left) := by
    simp only [signalStep, here, set]
    rfl
  exact Alone.step .test rfl tested (leavesAlone_left rfl)

theorem leavesAlone_switching {signal : SignalType} (here : signals.loop = .switching signal) :
    LeavesAlone signals := by
  refine Alone.switch here ?_
  cases signal with
  | none => exact Alone.sleep rfl (leavesAlone_testing set rfl)
  | interrupt => exact leavesAlone_left rfl
  | terminate => exact leavesAlone_left rfl
  | hangup => exact Alone.step .reset rfl rfl (leavesAlone_testing set rfl)
  | pipe => exact Alone.step .reset rfl rfl (leavesAlone_testing set rfl)

theorem leavesAlone_exchanging (here : signals.loop = .exchanging) : LeavesAlone signals := by
  have exchanged : signalStep signals .exchange
      = some ({ signals with pendingSignal := .none }.setLoop
          (.switching signals.pendingSignal)) := by
    simp only [signalStep, here]
  exact Alone.step .exchange rfl exchanged (leavesAlone_switching set rfl)

theorem leavesAlone_checking (here : signals.loop = .checking) : LeavesAlone signals := by
  cases ready : signals.initialized with
  | true => exact Alone.check here ready (Alone.drain rfl (leavesAlone_exchanging set rfl))
  | false =>
    have checked : signalStep signals .check = some (signals.setLoop (.switching .none)) := by
      simp only [signalStep, here, ready]
      rfl
    exact Alone.step .check rfl checked (leavesAlone_switching set rfl)

/-- **Behind the flag the main thread leaves on its own**, from wherever it is. -/
theorem leavesAlone : LeavesAlone signals := by
  cases here : signals.loop with
  | registering => exact Alone.register here (leavesAlone_testing set rfl)
  | testing => exact leavesAlone_testing set here
  | checking => exact leavesAlone_checking set here
  | draining => exact Alone.drain here (leavesAlone_exchanging set rfl)
  | exchanging => exact leavesAlone_exchanging set here
  | switching signal => exact leavesAlone_switching set here
  | resetting =>
    have cleared : signalStep signals .reset
        = some ({ signals with pendingSignal := .none }.setLoop .testing) := by
      simp only [signalStep, here]
    exact Alone.step .reset rfl cleared (leavesAlone_testing set rfl)
  | sleeping => exact Alone.sleep here (leavesAlone_testing set rfl)
  | left => exact leavesAlone_left here

end Leaving

/-! ### No signal is lost, and nothing else shuts down -/

/-- **Shutdown signals are kept.** In every run of the handlers and the loop: when the loop leaves,
a handler for `SIGINT` or `SIGTERM` has been invoked and has stored the flag before; a test behind
such a store leaves, whatever the other handlers and `reset` did to the slot in between; and until
then the main thread is on its way to that test. -/
theorem shutdown_signals_kept {actions : List SignalAction} {signals : Signals}
    (ran : run signalStep Signals.start actions = some signals) :
    Along signalStep Signals.start (fun earlier before _ after =>
      before.loop ≠ .left → after.loop = .left →
        ∃ handler signal, Signal.shutsDown signal = true ∧ .deliver handler signal ∈ earlier ∧
          .store handler ∈ earlier) actions ∧
    (∀ earlier handler middle, actions = earlier ++ .store handler :: middle ++ [.test] →
      signals.loop = .left) ∧
    (∀ handler, .store handler ∈ actions → LeavesAlone signals) := by
  have kept : ∀ earlier handler rest last, run signalStep Signals.start
      (earlier ++ SignalAction.store handler :: rest) = some last →
        last.shutdownRequested = true := by
    intro earlier handler rest last ranLast
    rw [List.append_cons, run_append, Option.bind_eq_some_iff] at ranLast
    obtain ⟨stored, ranStored, ranRest⟩ := ranLast
    obtain ⟨before, -, stepped⟩ := (run_concat_iff signalStep Signals.start).mp ranStored
    exact flag_of_run (flag_of_store stepped) ranRest
  refine ⟨?_, ?_, ?_⟩
  · rintro earlier action rest rfl before after ranBefore stepped notYet left
    have set := (faithful_of_run ranBefore).flag_of_leaving stepped notYet left
    obtain ⟨handler, stored⟩ := (faithful_of_run ranBefore).handled set
    obtain ⟨signal, here, shuts⟩ := signal_of_stored stored
    obtain ⟨delivered, stores⟩ := delivered_of_run ranBefore handler
    exact ⟨handler, signal, shuts, delivered signal here, stores stored⟩
  · rintro earlier handler middle rfl
    obtain ⟨before, ranBefore, tested⟩ := (run_concat_iff signalStep Signals.start).mp ran
    exact left_of_test (kept earlier handler middle before ranBefore) tested
  · intro handler member
    obtain ⟨earlier, rest, rfl⟩ := List.append_of_mem member
    exact leavesAlone (kept earlier handler rest signals ran)

/-- A `SIGTERM` whose entry in the slot a `SIGHUP` overwrites and `reset` empties: the loop leaves
at its next test. -/
theorem shutdown_signals_kept_overwritten :
    ∃ signals, run signalStep Signals.start
        [.register, .deliver 0 .sighup, .write 0 true, .load 0, .mark 0, .test, .check, .read false,
          .read false, .exchange, .deliver 1 .sigterm, .store 1, .write 1 true, .load 1, .mark 1,
          .deliver 2 .sighup, .write 2 true, .load 2, .mark 2, .switch, .reset, .test]
        = some signals ∧ signals.loop = .left := by
  obtain ⟨signals, ran⟩ := Option.isSome_iff_exists.mp (show (run signalStep Signals.start
      ([.register, .deliver 0 .sighup, .write 0 true, .load 0, .mark 0, .test, .check, .read false,
        .read false, .exchange, .deliver 1 .sigterm] ++ .store 1 :: [.write 1 true, .load 1,
        .mark 1, .deliver 2 .sighup, .write 2 true, .load 2, .mark 2, .switch, .reset]
        ++ [.test])).isSome = true by decide +kernel)
  exact ⟨signals, ran, (shutdown_signals_kept ran).2.1 _ 1 _ rfl⟩

end DemoDaemon.Daemon
