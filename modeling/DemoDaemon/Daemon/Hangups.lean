/-
**What becomes of a `SIGHUP`** between its store and `checkSignal` (`signal_handler.cpp`,
`daemon/main.cpp`).

The exchange of `checkSignal` empties the slot, and `reset()` empties it once more when the signal
was a `SIGHUP` or a `SIGPIPE`. A `SIGHUP` that is stored between the two is gone.

* `HangupsKept`: for every store of a `SIGHUP`, another signal has replaced it, `checkSignal` has
  returned it, or the main thread on its own comes to return it or to leave.
* `Unprotected`: between such an exchange and its `reset()`, with no shutdown asked for.
* `Erased`: the main thread on its own neither returns a `SIGHUP` nor leaves. **`erased_of_main`**
  is the step lemma, for the stores in that window.
* `Waiting`: the slot holds the `SIGHUP` and the exchange is ahead. **`waiting_of_step`** is the
  step lemma for the others.
* **`hangups_kept_iff`**: no `SIGHUP` is lost in a run if and only if none is stored in the window.
-/

import DemoDaemon.Daemon.SignalLoop

namespace DemoDaemon.Daemon

open Foundation

/-! ### The property -/

/-- The main thread on its own comes to an exchange that returns Hangup, or leaves the loop. -/
def ReturnsAlone (signals : Signals) : Prop :=
  ∃ own final, (∀ action ∈ own, SignalAction.isMain action = true) ∧
    run signalStep signals own = some final ∧
    (final.loop = .exchanging ∧ final.pendingSignal = .hangup ∨ final.loop = .left)

/-- What may have become of a Hangup since it was stored: replaced by another store, returned by an
exchange, or on its way. -/
def HangupAccounted (before rest : List SignalAction) (signals : Signals) : Prop :=
  (∃ handler, SignalAction.mark handler ∈ rest) ∨
  (∃ earlier later taken, rest = earlier ++ .exchange :: later ∧
    run signalStep Signals.start (before ++ earlier) = some taken ∧
    taken.pendingSignal = .hangup) ∨
  ReturnsAlone signals

/-- Every `SIGHUP` that was stored is accounted for. -/
def HangupsKept (actions : List SignalAction) : Prop :=
  ∀ before handler rest, actions = before ++ .mark handler :: rest →
    ∀ found signals, run signalStep Signals.start before = some found →
      found.handlers handler = .marking .sighup →
      run signalStep Signals.start actions = some signals →
        HangupAccounted (before ++ [.mark handler]) rest signals

/-- Between the exchange that returned a `SIGHUP` or a `SIGPIPE` and its `reset()`. -/
def LoopPoint.beforeReset : LoopPoint → Bool
  | .switching .hangup | .switching .pipe => true
  | .resetting => true
  | _ => false

/-- In that window, with no shutdown asked for. -/
def Unprotected (signals : Signals) : Prop :=
  signals.loop.beforeReset = true ∧ signals.shutdownRequested = false

/-! ### A store in the window -/

/-- The main thread on its own does not return a Hangup and does not leave. -/
structure Erased (signals : Signals) : Prop where
  flag : signals.shutdownRequested = false
  stays : signals.loop.leaving = false
  pending : signals.pendingSignal.shutsDown = false
  slot : signals.pendingSignal = .hangup → signals.loop.beforeReset = true

/-- **Step.** -/
theorem erased_of_main {before after : Signals} {action : SignalAction} (erased : Erased before)
    (main : action.isMain = true) (stepped : signalStep before action = some after) :
    Erased after := by
  have outside : ∀ {point}, before.loop = point → point.beforeReset = false →
      before.pendingSignal ≠ .hangup := by
    intro point here notThere held
    rw [← here, erased.slot held] at notThere
    cases notThere
  have keeps : ∀ {point}, point.leaving = false → before.pendingSignal ≠ .hangup →
      ∀ after : Signals, after.loop = point → after.shutdownRequested = before.shutdownRequested →
        after.pendingSignal = before.pendingSignal → Erased after := by
    intro point stays empty after loop flag slot
    exact ⟨flag.trans erased.flag, loop ▸ stays, slot ▸ erased.pending,
      fun held => absurd (slot ▸ held) empty⟩
  cases signalMove_of_step stepped with
  | deliver | store | write | load | skip | mark => cases main
  | leave here set =>
    rw [erased.flag] at set
    cases set
  | register here => exact keeps rfl (outside here rfl) _ rfl rfl rfl
  | enter here _ => exact keeps rfl (outside here rfl) _ rfl rfl rfl
  | check here _ => exact keeps rfl (outside here rfl) _ rfl rfl rfl
  | unready here _ => exact keeps rfl (outside here rfl) _ rfl rfl rfl
  | drained here _ => exact keeps rfl (outside here rfl) _ rfl rfl rfl
  | read here _ => exact keeps rfl (outside here rfl) _ here rfl rfl
  | sleep here => exact keeps rfl (outside here rfl) _ rfl rfl rfl
  | exchange here =>
    exact ⟨erased.flag, erased.pending, rfl, fun held => by cases held⟩
  | @switch signal here =>
    have stays := erased.stays
    rw [here] at stays
    cases signal with
    | none => exact keeps rfl (outside here rfl) _ rfl rfl rfl
    | interrupt | terminate => cases stays
    | hangup | pipe => exact ⟨erased.flag, rfl, erased.pending, fun _ => rfl⟩
  | reset here => exact ⟨erased.flag, rfl, rfl, fun held => by cases held⟩

/-- **Run.** What is erased is neither returned nor does the loop leave. -/
theorem not_returnsAlone_of_erased {signals : Signals} (erased : Erased signals) :
    ¬ ReturnsAlone signals := by
  rintro ⟨own, final, mine, ran, ends⟩
  have stays : Erased final := by
    refine run_induction signalStep signals (motive := fun own final =>
      (∀ action ∈ own, SignalAction.isMain action = true) → Erased final) (fun _ => erased)
      ?_ ran mine
    intro own action before after _ ih stepped mine
    exact erased_of_main (ih fun other member => mine other (List.mem_append_left _ member))
      (mine action (List.mem_append_right _ List.mem_cons_self)) stepped
  rcases ends with ⟨here, held⟩ | left
  · have there := stays.slot held
    rw [here] at there
    cases there
  · have leaves := stays.stays
    rw [left] at leaves
    cases leaves

/-- A Hangup that is stored in the window is erased. -/
theorem erased_of_mark {before after : Signals} {handler : Nat}
    (here : before.handlers handler = .marking .sighup) (window : Unprotected before)
    (stepped : signalStep before (.mark handler) = some after) : Erased after := by
  cases signalMove_of_step stepped with
  | @mark _ signal found =>
    obtain rfl : signal = .sighup := by
      rw [found] at here
      cases here
      rfl
    have loop : before.loop.leaving = false := by
      have inside := window.1
      cases place : before.loop with
      | switching signal =>
        rw [place] at inside
        cases signal <;> cases inside <;> rfl
      | left =>
        rw [place] at inside
        cases inside
      | _ => rfl
    exact ⟨window.2, loop, rfl, fun _ => window.1⟩

/-! ### A store outside the window -/

/-- The slot holds a Hangup, and no `reset()` comes before the next exchange. -/
structure Waiting (signals : Signals) : Prop where
  slot : signals.pendingSignal = .hangup
  ahead : signals.loop.beforeReset = false
  ready : signals.initialized = true

theorem returnsAlone_of_leavesAlone {signals : Signals} (leaves : LeavesAlone signals) :
    ReturnsAlone signals := by
  obtain ⟨own, final, mine, ran, left⟩ := leaves
  exact ⟨own, final, mine, ran, Or.inr left⟩

section Ahead

variable {signals : Signals} (slot : signals.pendingSignal = .hangup)
  (ready : signals.initialized = true)

include slot

/-- In front of the exchange. -/
theorem returnsAlone_exchanging (here : signals.loop = .exchanging) : ReturnsAlone signals :=
  Alone.here (Or.inl ⟨here, slot⟩)

theorem returnsAlone_draining (here : signals.loop = .draining) : ReturnsAlone signals :=
  Alone.drain here (returnsAlone_exchanging slot rfl)

include ready

theorem returnsAlone_checking (here : signals.loop = .checking) : ReturnsAlone signals :=
  Alone.check here ready (returnsAlone_draining slot rfl)

theorem returnsAlone_testing (here : signals.loop = .testing) : ReturnsAlone signals := by
  cases set : signals.shutdownRequested with
  | true => exact returnsAlone_of_leavesAlone (leavesAlone set)
  | false =>
    have tested : signalStep signals .test = some (signals.setLoop .checking) := by
      simp only [signalStep, here, set]
      rfl
    exact Alone.step .test rfl tested (returnsAlone_checking slot ready rfl)

theorem returnsAlone_sleeping (here : signals.loop = .sleeping) : ReturnsAlone signals :=
  Alone.sleep here (returnsAlone_testing slot ready rfl)

end Ahead

/-- **A Hangup that waits is returned**, or the loop leaves. -/
theorem Waiting.returnsAlone {signals : Signals} (waiting : Waiting signals) :
    ReturnsAlone signals := by
  cases here : signals.loop with
  | registering => exact Alone.register here (returnsAlone_testing waiting.slot rfl rfl)
  | testing => exact returnsAlone_testing waiting.slot waiting.ready here
  | checking => exact returnsAlone_checking waiting.slot waiting.ready here
  | draining => exact returnsAlone_draining waiting.slot here
  | exchanging => exact returnsAlone_exchanging waiting.slot here
  | switching signal =>
    have ahead := waiting.ahead
    rw [here] at ahead
    refine Alone.switch here ?_
    cases signal with
    | none => exact returnsAlone_sleeping waiting.slot waiting.ready rfl
    | interrupt | terminate => exact returnsAlone_of_leavesAlone (leavesAlone_left rfl)
    | hangup | pipe => cases ahead
  | resetting =>
    have ahead := waiting.ahead
    rw [here] at ahead
    cases ahead
  | sleeping => exact returnsAlone_sleeping waiting.slot waiting.ready here
  | left => exact returnsAlone_of_leavesAlone (leavesAlone_left here)

/-- **Step.** A Hangup that waits goes on waiting, unless another signal is stored, an exchange
returns it, or a shutdown is asked for. -/
theorem waiting_of_step {before after : Signals} {action : SignalAction} (waiting : Waiting before)
    (faithful : Faithful before) (stepped : signalStep before action = some after) :
    (∃ handler, action = .mark handler) ∨ action = .exchange ∨
      after.shutdownRequested = true ∨ Waiting after := by
  have stays : ∀ after : Signals, after.pendingSignal = before.pendingSignal →
      after.loop.beforeReset = false → after.initialized = before.initialized → Waiting after :=
    fun after slot ahead ready => ⟨slot.trans waiting.slot, ahead, ready.trans waiting.ready⟩
  have outside : ∀ {point}, before.loop = point → point.beforeReset = true → False := by
    intro point here inside
    rw [← here, waiting.ahead] at inside
    cases inside
  cases signalMove_of_step stepped with
  | mark => exact .inl ⟨_, rfl⟩
  | exchange => exact .inr (.inl rfl)
  | store => exact .inr (.inr (.inl rfl))
  | leave _ set => exact .inr (.inr (.inl set))
  | deliver | write | load | skip => exact .inr (.inr (.inr (stays _ rfl waiting.ahead rfl)))
  | register => exact .inr (.inr (.inr ⟨waiting.slot, rfl, rfl⟩))
  | enter | check | unready | drained | sleep => exact .inr (.inr (.inr (stays _ rfl rfl rfl)))
  | read => exact .inr (.inr (.inr (stays _ rfl waiting.ahead rfl)))
  | @switch signal here =>
    cases signal with
    | none => exact .inr (.inr (.inr (stays _ rfl rfl rfl)))
    | interrupt | terminate =>
      exact .inr (.inr (.inl (faithful.leaving (by rw [here]; rfl))))
    | hangup | pipe => exact (outside here rfl).elim
  | reset here => exact (outside here rfl).elim

/-- A handler stores to the slot only once the handlers are registered. -/
def Registered (signals : Signals) : Prop :=
  ∀ handler signal, signals.handlers handler = .marking signal → signals.initialized = true

theorem Registered.setHandler {before changed : Signals} (registered : Registered before)
    {handler : Nat} {point : HandlerPoint} (handlers : changed.handlers = before.handlers)
    (ready : changed.initialized = before.initialized)
    (marks : ∀ signal, point = .marking signal → before.initialized = true) :
    Registered (changed.setHandler handler point) := by
  intro other signal here
  show changed.initialized = true
  rw [ready]
  by_cases same : other = handler
  · subst same
    rw [handlers_setHandler_same] at here
    exact marks signal here
  · rw [handlers_setHandler_other changed point same, handlers] at here
    exact registered other signal here

/-- **Step.** -/
theorem Registered.step {before after : Signals} {action : SignalAction}
    (registered : Registered before) (stepped : signalStep before action = some after) :
    Registered after := by
  cases signalMove_of_step stepped with
  | @deliver handler signal here =>
    refine registered.setHandler rfl rfl fun marked same => ?_
    unfold HandlerPoint.entered at same
    split_ifs at same
  | store | write | skip | mark => exact registered.setHandler rfl rfl fun _ same => by cases same
  | load _ ready => exact registered.setHandler rfl rfl fun _ _ => ready
  | register => exact fun _ _ _ => rfl
  | leave | enter | check | unready | drained | read | exchange | switch | reset | sleep =>
    exact registered

/-- **Run.** -/
theorem registered_of_run {actions : List SignalAction} {signals : Signals}
    (ran : run signalStep Signals.start actions = some signals) : Registered signals := by
  refine run_induction signalStep Signals.start (motive := fun _ signals => Registered signals)
    (fun _ _ here => by cases here) ?_ ran
  intro _ _ _ _ _ registered stepped
  exact registered.step stepped

/-- A Hangup that is stored outside the window waits, or a shutdown was asked for. -/
theorem waiting_of_mark {before after : Signals} {handler : Nat} (registered : Registered before)
    (here : before.handlers handler = .marking .sighup) (outside : ¬ Unprotected before)
    (stepped : signalStep before (.mark handler) = some after) :
    after.shutdownRequested = true ∨ Waiting after := by
  cases signalMove_of_step stepped with
  | @mark _ signal found =>
    obtain rfl : signal = .sighup := by
      rw [found] at here
      cases here
      rfl
    cases set : before.shutdownRequested with
    | true => exact Or.inl rfl
    | false =>
      refine Or.inr ⟨rfl, ?_, registered handler .sighup here⟩
      exact Bool.eq_false_iff.mpr fun inside => outside ⟨inside, set⟩

/-- **Run.** From there on the Hangup is accounted for. -/
theorem accounted_of_waiting {before rest : List SignalAction} {stored signals : Signals}
    (ranStored : run signalStep Signals.start before = some stored)
    (waits : stored.shutdownRequested = true ∨ Waiting stored)
    (ran : run signalStep stored rest = some signals) : HangupAccounted before rest signals := by
  have reached : ∀ {earlier middle}, run signalStep stored earlier = some middle →
      run signalStep Signals.start (before ++ earlier) = some middle := by
    intro earlier middle ranMiddle
    rw [run_append, ranStored]
    exact ranMiddle
  have going : (∃ handler, SignalAction.mark handler ∈ rest) ∨
      (∃ earlier later taken, rest = earlier ++ .exchange :: later ∧
        run signalStep Signals.start (before ++ earlier) = some taken ∧
        taken.pendingSignal = .hangup) ∨
      signals.shutdownRequested = true ∨ Waiting signals := by
    refine run_induction signalStep stored (motive := fun rest signals =>
      (∃ handler, SignalAction.mark handler ∈ rest) ∨
      (∃ earlier later taken, rest = earlier ++ .exchange :: later ∧
        run signalStep Signals.start (before ++ earlier) = some taken ∧
        taken.pendingSignal = .hangup) ∨
      signals.shutdownRequested = true ∨ Waiting signals) (.inr (.inr waits)) ?_ ran
    rintro rest action middle after ranMiddle
      (⟨handler, marked⟩ | ⟨earlier, later, taken, rfl, ranTaken, held⟩ | set | waiting) stepped
    · exact .inl ⟨handler, List.mem_append_left _ marked⟩
    · exact .inr (.inl ⟨earlier, later ++ [action], taken, by simp, ranTaken, held⟩)
    · exact .inr (.inr (.inl (flag_of_step set stepped)))
    · rcases waiting_of_step waiting (faithful_of_run (reached ranMiddle)) stepped with
        ⟨handler, rfl⟩ | rfl | set | waits
      · exact .inl ⟨handler, List.mem_append_right _ List.mem_cons_self⟩
      · exact .inr (.inl ⟨rest, [], middle, rfl, reached ranMiddle, waiting.slot⟩)
      · exact .inr (.inr (.inl set))
      · exact .inr (.inr (.inr waits))
  rcases going with replaced | returned | set | waiting
  · exact .inl replaced
  · exact .inr (.inl returned)
  · exact .inr (.inr (returnsAlone_of_leavesAlone (leavesAlone set)))
  · exact .inr (.inr waiting.returnsAlone)

/-! ### Exactly the stores in the window are lost -/

/-- **No `SIGHUP` is lost along a run** if and only if no handler stores one between an exchange
that returned a `SIGHUP` or a `SIGPIPE` and the `reset()` behind it, unless a shutdown was asked for
before. -/
theorem hangups_kept_iff (actions : List SignalAction) :
    (∀ earlier later, actions = earlier ++ later → HangupsKept earlier) ↔
      Along signalStep Signals.start (fun _ before action _ => ∀ handler, action = .mark handler →
        before.handlers handler = .marking .sighup → ¬ Unprotected before) actions := by
  constructor
  · rintro kept earlier action rest rfl before after ranBefore stepped handler rfl here window
    have ranAfter := (run_concat_iff signalStep Signals.start).mpr ⟨before, ranBefore, stepped⟩
    rcases kept (earlier ++ [.mark handler]) rest (by simp) earlier handler [] rfl before after
      ranBefore here ranAfter with ⟨other, marked⟩ | ⟨_, _, _, empty, -⟩ | returns
    · cases marked
    · simp at empty
    · exact not_returnsAlone_of_erased (erased_of_mark here window stepped) returns
  · rintro along earlier later rfl before handler rest rfl found final ranFound here ranFinal
    rw [List.append_cons, run_append, Option.bind_eq_some_iff] at ranFinal
    obtain ⟨stored, ranStored, ranRest⟩ := ranFinal
    obtain ⟨middle, ranMiddle, stepped⟩ := (run_concat_iff signalStep Signals.start).mp ranStored
    rw [ranFound] at ranMiddle
    cases ranMiddle
    have outside := along before (.mark handler) (rest ++ later) (by simp) found stored ranFound
      stepped handler rfl here
    exact accounted_of_waiting ranStored
      (waiting_of_mark (registered_of_run ranFound) here outside stepped) ranRest

/-- A second `SIGHUP`, stored while the first is processed, is lost. -/
theorem hangup_lost :
    ¬ ∀ (actions : List SignalAction) (signals : Signals),
      run signalStep Signals.start actions = some signals → HangupsKept actions := by
  intro always
  let first : List SignalAction :=
    [.register, .deliver 0 .sighup, .write 0 true, .load 0, .mark 0, .test, .check, .read false,
      .read false, .exchange, .deliver 1 .sighup, .write 1 true, .load 1]
  have place : ((run signalStep Signals.start first).map fun signals =>
      (signals.handlers 1, signals.loop, signals.shutdownRequested))
        = some (.marking .sighup, .switching .hangup, false) := by decide +kernel
  obtain ⟨before, ranBefore, same⟩ := Option.map_eq_some_iff.mp place
  obtain ⟨here, same⟩ := Prod.mk.inj same
  obtain ⟨loop, flag⟩ := Prod.mk.inj same
  have stepped : signalStep before (.mark 1) = some ({ before with
      pendingSignal := .hangup }.setHandler 1 (.returned .sighup)) := by
    simp only [signalStep, here]
    rfl
  have ranAfter := (run_concat_iff signalStep Signals.start).mpr ⟨before, ranBefore, stepped⟩
  rcases always _ _ ranAfter first 1 [] rfl before _ ranBefore here ranAfter with
    ⟨other, marked⟩ | ⟨_, _, _, empty, -⟩ | returns
  · cases marked
  · simp at empty
  · have window : Unprotected before := ⟨by rw [loop]; rfl, flag⟩
    exact not_returnsAlone_of_erased (erased_of_mark here window stepped) returns

end DemoDaemon.Daemon
