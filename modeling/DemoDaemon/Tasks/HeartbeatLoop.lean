/-
**The loop of the heartbeat against a clock** (`heartbeat_task.cpp`, `run_loop`).

The threads of `TaskThreads` run beside a steady clock that moves forward by any amount at any
moment. A round of the loop counts a beat, logs it and sleeps for the interval; the token is tested
between two rounds only.

* `beatStep`: the actions of the threads, with what the clock and `beat_count` allow.
* `Paced`: times that lie a gap or more apart, each from the one before.
* `Beating.Timely`: the lines logged, against the clock and the place of the loop.
* **`heartbeat_keeps_time`**: along every run the lines are numbered from 1 on and lie an interval
  or more apart, so that `beat_count` cannot overflow before as many intervals have passed.
* **`heartbeat_ends`**: a stop request does not wake the worker. It ends with the sleep it is in, or
  is about to begin, and there is at most one beat more.
-/

import DemoDaemon.Foundation.Composition
import DemoDaemon.Tasks.SleepLoop

namespace DemoDaemon.Tasks

open Foundation

/-! ### The model -/

/-- The line `Heartbeat #n` of the log. -/
structure Beat where
  time : Nat
  number : Int32
deriving DecidableEq

/-- A heartbeat, its threads and the steady clock. -/
structure Beating where
  threads : Threads
  clock : Nat
  beatCount : Int32
  /-- The beats that were logged, in order. -/
  beats : List Beat
  /-- In the body of the loop: the beat of this round is logged. -/
  beaten : Bool
  /-- While `sleep_for` runs: when it may return. -/
  wake : Option Nat
  /-- The number in the line `HeartbeatTask stopped after n beats`. -/
  reported : Option Int32

def Beating.start (clock : Nat) : Beating := ⟨.start, clock, 0, [], false, none, none⟩

inductive BeatAction where
  | tick (nanoseconds : Nat)
  /-- `run_loop`: `++beat_count` and its line. -/
  | beat
  /-- `run_loop`: the call of `sleep_for`. -/
  | fallAsleep
  /-- An action of the threads; the worker's `sleep` is the return of `sleep_for`, and the line
  behind the loop belongs to the test that leaves it. -/
  | thread (action : Action)

/-- What `sleep_for` waits for, in nanoseconds; an interval below zero is none. -/
def intervalTime (interval : Int) : Nat := interval.toNat * millisecond

/-- One action. Beyond the largest `int` the increment is undefined, and there is no action. -/
def beatStep (interval : Int) (beating : Beating) : BeatAction → Option Beating
  | .tick nanoseconds => some { beating with clock := beating.clock + nanoseconds }
  | .beat =>
    if beating.threads.worker = .sleeping ∧ beating.beaten = false ∧
        beating.beatCount ≠ Int32.maxValue then
      some { beating with
        beatCount := beating.beatCount + 1
        beats := beating.beats ++ [⟨beating.clock, beating.beatCount + 1⟩]
        beaten := true }
    else none
  | .fallAsleep =>
    if beating.threads.worker = .sleeping ∧ beating.beaten = true ∧ beating.wake = none then
      some { beating with wake := some (beating.clock + intervalTime interval) }
    else none
  | .thread (.test timeUp) =>
    (step .heartbeat beating.threads (.test timeUp)).map fun threads =>
      { beating with
        threads
        reported := if threads.worker = .ending then some beating.beatCount
          else beating.reported }
  | .thread .sleep =>
    match beating.wake with
    | some wake =>
      if wake ≤ beating.clock then
        (step .heartbeat beating.threads .sleep).map fun threads =>
          { beating with threads, beaten := false, wake := none }
      else none
    | none => none
  | .thread action =>
    (step .heartbeat beating.threads action).map fun threads => { beating with threads }

/-- The heartbeat and its clock after a list of actions. -/
def beatingAfter (interval : Int) (clock : Nat) (actions : List BeatAction) : Option Beating :=
  run (beatStep interval) (.start clock) actions

/-- The actions of `run_loop`. -/
def BeatAction.isOwn : BeatAction → Bool
  | .tick _ => false
  | .beat | .fallAsleep => true
  | .thread action => (TimedAction.thread action).isOwn

def BeatAction.isTick : BeatAction → Bool
  | .tick _ => true
  | _ => false

/-- The part of an action that the threads see. -/
def BeatAction.untimed : BeatAction → Option Action
  | .thread action => some action
  | _ => none

/-! ### What an action does -/

/-- What an action can do, by the thread that takes it. -/
inductive BeatMove (interval : Int) (beating : Beating) : BeatAction → Beating → Prop
  | tick (nanoseconds : Nat) :
      BeatMove interval beating (.tick nanoseconds)
        { beating with clock := beating.clock + nanoseconds }
  | beat (worker : beating.threads.worker = .sleeping) (fresh : beating.beaten = false)
      (room : beating.beatCount ≠ Int32.maxValue) :
      BeatMove interval beating .beat
        { beating with
          beatCount := beating.beatCount + 1
          beats := beating.beats ++ [⟨beating.clock, beating.beatCount + 1⟩]
          beaten := true }
  | fallAsleep (worker : beating.threads.worker = .sleeping) (beaten : beating.beaten = true)
      (awake : beating.wake = none) :
      BeatMove interval beating .fallAsleep
        { beating with wake := some (beating.clock + intervalTime interval) }
  | loop (timeUp : Bool) (worker : beating.threads.worker = .testing)
      (wanted : beating.threads.stopRequested = false) :
      BeatMove interval beating (.thread (.test timeUp))
        { beating with threads := { beating.threads with worker := .sleeping } }
  | leave (timeUp : Bool) (worker : beating.threads.worker = .testing)
      (stop : beating.threads.stopRequested = true) :
      BeatMove interval beating (.thread (.test timeUp))
        { beating with
          threads := { beating.threads with worker := .ending }
          reported := some beating.beatCount }
  | wakeUp (wake : Nat) (worker : beating.threads.worker = .sleeping)
      (asleep : beating.wake = some wake) (late : wake ≤ beating.clock) :
      BeatMove interval beating (.thread .sleep)
        { beating with
          threads := { beating.threads with worker := .testing }
          beaten := false
          wake := none }
  | storeStopped (worker : beating.threads.worker = .ending) :
      BeatMove interval beating (.thread .storeStopped)
        { beating with
          threads := { beating.threads with state := .stopped, worker := .flagging } }
  | storeFlag (worker : beating.threads.worker = .flagging) :
      BeatMove interval beating (.thread .storeFlag)
        { beating with
          threads := { beating.threads with stopped := true, worker := .finished } }
  | spawn (absent : beating.threads.worker = .absent) :
      BeatMove interval beating (.thread (.spawn (.ok ())))
        { beating with
          threads := { beating.threads with worker := .testing, runner := .waiting } }
  | other (action : Action) (threads : Threads)
      (foreign : (TimedAction.thread action).isOwn = false)
      (worker : threads.worker = beating.threads.worker)
      (stop : beating.threads.stopRequested = true → threads.stopRequested = true) :
      BeatMove interval beating (.thread action) { beating with threads }

/-- Apart from the loop condition, the two tasks take the same actions. -/
theorem step_heartbeat {action : Action} (threads : Threads)
    (tests : ∀ timeUp, action ≠ .test timeUp) :
    step .heartbeat threads action = step .sleep threads action := by
  cases action with
  | test timeUp => exact absurd rfl (tests timeUp)
  | _ => rfl

/-- **Step.** The threads of a heartbeat move as those of a sleeping task whose time is not up; the
test behind its loop comes on top. -/
theorem sleepRun_of_step {threads later : Threads} {action : Action}
    (stepped : step .heartbeat threads action = some later) :
    ∃ actions, run (step .sleep) threads actions = some later := by
  by_cases tests : ∃ timeUp, action = .test timeUp
  · obtain ⟨timeUp, rfl⟩ := tests
    obtain ⟨worker, same⟩ := Option.ite_none_right_eq_some.mp stepped
    split at same
    next loops =>
      cases same
      have wanted : threads.stopRequested = false := by simpa [Threads.loops] using loops
      exact ⟨[.test false], by simp [run, step, worker, Threads.loops, wanted]⟩
    next leaves =>
      cases same
      have stop : threads.stopRequested = true := by simpa [Threads.loops] using leaves
      exact ⟨[.test false, .decide],
        by simp [run, step, worker, Threads.loops, stop, Kind.afterLoop]⟩
  · rw [step_heartbeat threads fun timeUp test => tests ⟨timeUp, test⟩] at stepped
    exact ⟨[action], (run_cons_iff _ _).mpr ⟨later, stepped, rfl⟩⟩

/-- **Run.** -/
theorem sleepRun_of_run {actions : List Action} {threads : Threads}
    (ran : after .heartbeat actions = some threads) :
    ∃ others, after .sleep others = some threads := by
  refine run_induction (step .heartbeat) .start
    (motive := fun _ threads => ∃ others, after .sleep others = some threads) ⟨[], rfl⟩ ?_ ran
  rintro actions action threads later - ⟨others, before⟩ stepped
  obtain ⟨more, moved⟩ := sleepRun_of_step stepped
  refine ⟨others ++ more, ?_⟩
  rw [after, run_append]
  exact Option.bind_eq_some_iff.mpr ⟨threads, before, moved⟩

/-- What holds of the threads of every heartbeat. -/
structure Threads.Plain (threads : Threads) : Prop where
  /-- There is no worker while `start` spawns one. -/
  single : threads.runner = .spawning → threads.worker = .absent
  /-- The test behind the loop is that of the sleeping task. -/
  direct : threads.worker ≠ .deciding

/-- **Step.** -/
theorem direct_of_step {threads later : Threads} {action : Action}
    (stepped : step .heartbeat threads action = some later) (direct : threads.worker ≠ .deciding) :
    later.worker ≠ .deciding := by
  cases action with
  | test timeUp =>
    obtain ⟨-, same⟩ := Option.ite_none_right_eq_some.mp stepped
    split at same <;> cases same <;> exact Worker.noConfusion
  | spawn outcome =>
    obtain ⟨-, same⟩ := Option.ite_none_right_eq_some.mp stepped
    cases outcome with
    | ok _ =>
      cases same
      exact Worker.noConfusion
    | error error =>
      cases same
      exact direct
  | sleep | decide | storeStopped | storeFlag =>
    obtain ⟨-, same⟩ := Option.ite_none_right_eq_some.mp stepped
    cases same
    exact Worker.noConfusion
  | enter | check | storeRunning | storeFailed | join | leave | requestStop | storeStopping =>
    rw [step_heartbeat threads fun timeUp test => by cases test] at stepped
    rw [(worker_of_foreign rfl (fun outcome spawn => by cases spawn) stepped).1]
    exact direct

/-- **Run.** -/
theorem plain_of_run {actions : List Action} {threads : Threads}
    (ran : after .heartbeat actions = some threads) : threads.Plain := by
  refine ⟨fun spawning => ?_, ?_⟩
  · obtain ⟨others, reached⟩ := sleepRun_of_run ran
    refine (absent_or_spawned reached).resolve_right ?_
    rw [spawning]
    simp
  · refine run_induction (step .heartbeat) .start (motive := fun _ threads =>
      threads.worker ≠ .deciding) Worker.noConfusion ?_ ran
    intro actions action threads later _ direct stepped
    exact direct_of_step stepped direct

/-- Inversion of `beatStep`. -/
theorem beatMove_of_step {interval : Int} {beating after : Beating} {action : BeatAction}
    (plain : beating.threads.Plain) (stepped : beatStep interval beating action = some after) :
    BeatMove interval beating action after := by
  cases action with
  | tick nanoseconds =>
    cases stepped
    exact .tick nanoseconds
  | beat =>
    obtain ⟨⟨worker, fresh, room⟩, same⟩ := Option.ite_none_right_eq_some.mp stepped
    cases same
    exact .beat worker fresh room
  | fallAsleep =>
    obtain ⟨⟨worker, beaten, awake⟩, same⟩ := Option.ite_none_right_eq_some.mp stepped
    cases same
    exact .fallAsleep worker beaten awake
  | thread action =>
    cases action with
    | test timeUp =>
      obtain ⟨threads, tested, rfl⟩ := Option.map_eq_some_iff.mp stepped
      obtain ⟨worker, moved⟩ := Option.ite_none_right_eq_some.mp tested
      split at moved
      next loops =>
        cases moved
        exact .loop timeUp worker (by simpa [Threads.loops] using loops)
      next leaves =>
        cases moved
        exact .leave timeUp worker (by simpa [Threads.loops] using leaves)
    | sleep =>
      simp only [beatStep] at stepped
      split at stepped
      next wake asleep =>
        obtain ⟨late, moved⟩ := Option.ite_none_right_eq_some.mp stepped
        obtain ⟨threads, woken, rfl⟩ := Option.map_eq_some_iff.mp moved
        obtain ⟨worker, same⟩ := Option.ite_none_right_eq_some.mp woken
        cases same
        exact .wakeUp wake worker asleep late
      next => cases stepped
    | storeStopped =>
      obtain ⟨threads, moved, rfl⟩ := Option.map_eq_some_iff.mp stepped
      obtain ⟨worker, same⟩ := Option.ite_none_right_eq_some.mp moved
      cases same
      exact .storeStopped worker
    | storeFlag =>
      obtain ⟨threads, moved, rfl⟩ := Option.map_eq_some_iff.mp stepped
      obtain ⟨worker, same⟩ := Option.ite_none_right_eq_some.mp moved
      cases same
      exact .storeFlag worker
    | spawn outcome =>
      obtain ⟨threads, moved, rfl⟩ := Option.map_eq_some_iff.mp stepped
      obtain ⟨runner, same⟩ := Option.ite_none_right_eq_some.mp moved
      cases outcome with
      | ok _ =>
        cases same
        exact .spawn (plain.single runner)
      | error error =>
        cases same
        exact .other (.spawn (.error error)) _ rfl rfl id
    | decide =>
      obtain ⟨threads, moved, rfl⟩ := Option.map_eq_some_iff.mp stepped
      obtain ⟨worker, -⟩ := Option.ite_none_right_eq_some.mp moved
      exact absurd worker plain.direct
    | requestStop =>
      cases stepped
      exact .other .requestStop _ rfl rfl fun _ => rfl
    | enter | check | storeRunning | storeFailed | join | leave | storeStopping =>
      obtain ⟨threads, moved, rfl⟩ := Option.map_eq_some_iff.mp stepped
      rw [step_heartbeat beating.threads fun timeUp test => by cases test] at moved
      obtain ⟨worker, stop⟩ := worker_of_foreign rfl (fun outcome spawn => by cases spawn) moved
      exact .other _ threads rfl worker stop

/-! ### Without the clock -/

/-- Without the clock an action is one of the threads, or none. -/
theorem projects_threads (interval : Int) :
    Projects (beatStep interval) Beating.threads BeatAction.untimed (step .heartbeat) where
  moves beating action after own stepped seen := by
    cases action with
    | tick _ | beat | fallAsleep => cases seen
    | thread action =>
      cases seen
      have mapped : ∀ {change : Threads → Beating},
          (∀ threads, (change threads).threads = threads) →
          (step .heartbeat beating.threads own).map change = some after →
            step .heartbeat beating.threads own = some after.threads := by
        intro change keeps moved
        obtain ⟨threads, same, rfl⟩ := Option.map_eq_some_iff.mp moved
        rw [same, keeps]
      cases own with
      | sleep =>
        simp only [beatStep] at stepped
        split at stepped
        · obtain ⟨-, moved⟩ := Option.ite_none_right_eq_some.mp stepped
          exact mapped (fun _ => rfl) moved
        · cases stepped
      | requestStop =>
        cases stepped
        rfl
      | _ => exact mapped (fun _ => rfl) stepped
  stays beating action after stepped unseen := by
    cases action with
    | tick nanoseconds =>
      cases stepped
      rfl
    | beat | fallAsleep =>
      obtain ⟨-, same⟩ := Option.ite_none_right_eq_some.mp stepped
      cases same
      rfl
    | thread action => cases unseen

theorem moves_of_run {interval : Int} {clock : Nat} {actions : List BeatAction}
    {beating after : Beating} {action : BeatAction}
    (ran : beatingAfter interval clock actions = some beating)
    (stepped : beatStep interval beating action = some after) :
    BeatMove interval beating action after :=
  beatMove_of_step (plain_of_run ((projects_threads interval).run ran)) stepped

/-! ### Times with a gap between them -/

/-- Each time lies the gap or more behind the one before it. -/
def Paced (gap : Nat) (times : List Nat) : Prop :=
  ∀ (i j early late : Nat), i ≤ j → times[i]? = some early → times[j]? = some late →
    early + (j - i) * gap ≤ late

theorem paced_nil (gap : Nat) : Paced gap [] := by
  intro i j early late _ first
  cases first

/-- An element of a list with one more at its end. -/
theorem getElem?_concat_eq_some {α : Type} {xs : List α} {x y : α} {k : Nat}
    (here : (xs ++ [x])[k]? = some y) : xs[k]? = some y ∨ k = xs.length ∧ y = x := by
  by_cases inside : k < xs.length
  · rw [List.getElem?_append_left inside] at here
    exact .inl here
  · have inRange := (List.getElem?_eq_some_iff.mp here).1
    rw [List.length_append, List.length_singleton] at inRange
    obtain rfl : k = xs.length := by omega
    rw [List.getElem?_concat_length] at here
    cases here
    exact .inr ⟨rfl, rfl⟩

/-- **One time more.** -/
theorem Paced.concat {gap time : Nat} {times : List Nat} (paced : Paced gap times)
    (rested : ∀ last, times.getLast? = some last → last + gap ≤ time) :
    Paced gap (times ++ [time]) := by
  intro i j early late order isFirst isSecond
  rcases getElem?_concat_eq_some isFirst with first | ⟨rfl, rfl⟩
  · rcases getElem?_concat_eq_some isSecond with second | ⟨rfl, rfl⟩
    · exact paced i j early late order first second
    · -- the last time before stands between the two
      have before := (List.getElem?_eq_some_iff.mp first).1
      have last : times[times.length - 1]? = some (times[times.length - 1]) :=
        List.getElem?_eq_getElem (by omega)
      have near := rested _ (List.getLast?_eq_getElem?.trans last)
      have far := paced i (times.length - 1) early _ (by omega) first last
      have whole : (times.length - i) * gap = (times.length - 1 - i) * gap + gap := by
        rw [← Nat.succ_mul]
        congr 1
        omega
      omega
  · rcases getElem?_concat_eq_some isSecond with second | ⟨rfl, rfl⟩
    · have inside := (List.getElem?_eq_some_iff.mp second).1
      omega
    · simp

/-! ### The beats -/

/-- `run_loop` is behind its loop. -/
def Worker.pastLoop : Worker → Bool
  | .ending | .flagging | .finished => true
  | _ => false

/-- What has been logged since `clock`, against the place of the loop. -/
structure Beating.Timely (interval : Int) (clock : Nat) (beating : Beating) : Prop where
  counted : beating.beatCount.toInt = beating.beats.length
  numbered : ∀ (k : Nat) (beat : Beat), beating.beats[k]? = some beat → beat.number.toInt = k + 1
  paced : Paced (intervalTime interval) (beating.beats.map Beat.time)
  within : ∀ beat ∈ beating.beats, clock ≤ beat.time ∧ beat.time ≤ beating.clock
  forward : clock ≤ beating.clock
  /-- Before the beat of a round the interval has passed. -/
  rested : beating.beaten = false → ∀ last, beating.beats.getLast? = some last →
    last.time + intervalTime interval ≤ beating.clock
  /-- `sleep_for` does not return before it has. -/
  due : ∀ wake, beating.wake = some wake → beating.beaten = true ∧
    ∀ last, beating.beats.getLast? = some last → last.time + intervalTime interval ≤ wake
  /-- The loop is left for a stop request only, and then the beats are reported. -/
  left : beating.threads.worker.pastLoop = true →
    beating.threads.stopRequested = true ∧ beating.reported = some beating.beatCount
  inside : beating.threads.worker.pastLoop = false → beating.reported = none

theorem timely_start (interval : Int) (clock : Nat) :
    (Beating.start clock).Timely interval clock where
  counted := rfl
  numbered _ _ first := by cases first
  paced := paced_nil _
  within _ member := by cases member
  forward := le_rfl
  rested _ _ last := by cases last
  due _ asleep := by cases asleep
  left past := by cases past
  inside _ := rfl

theorem toInt_increment {count : Int32} (room : count ≠ Int32.maxValue) :
    (count + 1).toInt = count.toInt + 1 := by
  have below := Int32.toInt_lt count
  have above := Int32.le_toInt count
  have other : count.toInt ≠ 2 ^ 31 - 1 := by
    rw [← Int32.toInt_maxValue]
    exact fun same => room (Int32.toInt_inj.mp same)
  rw [Int32.toInt_add, show (1 : Int32).toInt = 1 from rfl]
  refine Int.bmod_eq_of_le ?_ ?_ <;> omega

section Steps

variable {interval : Int} {clock : Nat} {beating after : Beating}
  (timely : beating.Timely interval clock)

include timely

/-- **Frame.** What the clock and the threads can do to the beats, apart from the loop condition:
nothing. -/
theorem Beating.Timely.frame (threads : Threads) (later : Nat)
    (past : threads.worker.pastLoop = beating.threads.worker.pastLoop)
    (stop : beating.threads.stopRequested = true → threads.stopRequested = true) :
    Timely interval clock { beating with threads, clock := beating.clock + later } where
  counted := timely.counted
  numbered := timely.numbered
  paced := timely.paced
  within beat member := ⟨(timely.within beat member).1,
    (timely.within beat member).2.trans (Nat.le_add_right _ _)⟩
  forward := timely.forward.trans (Nat.le_add_right _ _)
  rested fresh last here := (timely.rested fresh last here).trans (Nat.le_add_right _ _)
  due := timely.due
  left here := ⟨stop (timely.left (past ▸ here)).1, (timely.left (past ▸ here)).2⟩
  inside here := timely.inside (past ▸ here)

/-- Before the beat of a round `sleep_for` does not run. -/
theorem Beating.Timely.awake (fresh : beating.beaten = false) : beating.wake = none := by
  cases asleep : beating.wake with
  | none => rfl
  | some wake =>
    rw [(timely.due wake asleep).1] at fresh
    cases fresh

/-- **A beat**, at the right time and with the next number. -/
theorem Beating.Timely.beat (worker : beating.threads.worker = .sleeping)
    (fresh : beating.beaten = false) (room : beating.beatCount ≠ Int32.maxValue) :
    Timely interval clock { beating with
      beatCount := beating.beatCount + 1
      beats := beating.beats ++ [⟨beating.clock, beating.beatCount + 1⟩]
      beaten := true } where
  counted := by
    rw [toInt_increment room, timely.counted, List.length_append]
    rfl
  numbered k beat here := by
    rcases getElem?_concat_eq_some here with old | ⟨rfl, rfl⟩
    · exact timely.numbered k beat old
    · rw [toInt_increment room, timely.counted]
  paced := by
    rw [List.map_append]
    refine timely.paced.concat fun time last => ?_
    rw [List.getLast?_map] at last
    obtain ⟨beat, here, rfl⟩ := Option.map_eq_some_iff.mp last
    exact timely.rested fresh beat here
  within beat member := by
    rcases List.mem_append.mp member with old | new
    · exact timely.within beat old
    · rw [List.mem_singleton.mp new]
      exact ⟨timely.forward, le_rfl⟩
  forward := timely.forward
  rested beaten := by cases beaten
  due wake asleep := by
    rw [timely.awake fresh] at asleep
    cases asleep
  left past := by
    rw [worker] at past
    cases past
  inside := timely.inside

/-- **Step.** -/
theorem Beating.Timely.step {action : BeatAction} (moved : BeatMove interval beating action after) :
    after.Timely interval clock := by
  cases moved with
  | tick nanoseconds => exact timely.frame _ nanoseconds rfl id
  | beat worker fresh room => exact timely.beat worker fresh room
  | fallAsleep worker beaten awake =>
    refine { timely with due := fun wake asleep => ⟨beaten, fun last here => ?_⟩ }
    cases asleep
    have member := List.mem_of_getLast? here
    exact Nat.add_le_add_right (timely.within last member).2 _
  | loop timeUp worker wanted => exact timely.frame _ 0 (by rw [worker]; rfl) id
  | leave timeUp worker stop =>
    refine { timely with left := fun _ => ⟨stop, rfl⟩, inside := fun past => ?_ }
    cases past
  | wakeUp wake worker asleep late =>
    obtain ⟨beaten, due⟩ := timely.due wake asleep
    have awake := timely.frame { beating.threads with worker := .testing } 0
      (by rw [worker]; rfl) id
    refine { awake with rested := fun _ last here => (due last here).trans late, due := ?_ }
    intro other none
    cases none
  | storeStopped worker => exact timely.frame _ 0 (by rw [worker]; rfl) id
  | storeFlag worker => exact timely.frame _ 0 (by rw [worker]; rfl) id
  | spawn absent => exact timely.frame _ 0 (by rw [absent]; rfl) id
  | other action threads foreign worker stop => exact timely.frame _ 0 (by rw [worker]) stop

end Steps

/-- **Run.** -/
theorem timely_of_run {interval : Int} {clock : Nat} {actions : List BeatAction}
    {beating : Beating} (ran : beatingAfter interval clock actions = some beating) :
    beating.Timely interval clock := by
  refine run_induction (beatStep interval) (.start clock)
    (motive := fun _ beating => beating.Timely interval clock) (timely_start interval clock) ?_ ran
  intro actions action beating later ran timely stepped
  exact timely.step (moves_of_run ran stepped)

/-- **The heartbeat keeps time.** In every run, whatever the other threads do and the clock says:
the lines are numbered from 1 on; any two of them lie as many intervals apart as their numbers, or
more; so `beat_count` gets to the largest `int` only after as many intervals; and the loop is left
only for a stop request, with the number of the beats reported. -/
theorem heartbeat_keeps_time (interval : Int) (clock : Nat) (actions : List BeatAction)
    (beating : Beating) (ran : beatingAfter interval clock actions = some beating) :
    (∀ (k : Nat) (beat : Beat), beating.beats[k]? = some beat → beat.number.toInt = k + 1) ∧
      (∀ (i j : Nat) (early late : Beat), i ≤ j → beating.beats[i]? = some early →
        beating.beats[j]? = some late →
          early.time + (j - i) * intervalTime interval ≤ late.time) ∧
      (beating.beatCount = Int32.maxValue →
        clock + 2147483646 * intervalTime interval ≤ beating.clock) ∧
      (beating.threads.worker.pastLoop = true → beating.threads.stopRequested = true ∧
        ∃ count, beating.reported = some count ∧ count.toInt = beating.beats.length) := by
  have timely := timely_of_run ran
  have apart : ∀ (i j : Nat) (early late : Beat), i ≤ j → beating.beats[i]? = some early →
      beating.beats[j]? = some late → early.time + (j - i) * intervalTime interval ≤ late.time := by
    intro i j early late order first second
    refine timely.paced i j early.time late.time order ?_ ?_
    · rw [List.getElem?_map, first, Option.map_some]
    · rw [List.getElem?_map, second, Option.map_some]
  refine ⟨timely.numbered, apart, fun full => ?_, fun past => ?_⟩
  · have many : beating.beats.length = 2147483647 := by
      have counted := timely.counted
      rw [full, Int32.toInt_maxValue] at counted
      omega
    have first := List.getElem?_eq_getElem (l := beating.beats) (i := 0) (by omega)
    have last := List.getElem?_eq_getElem (l := beating.beats) (i := 2147483646) (by omega)
    have between := apart 0 2147483646 _ _ (Nat.zero_le _) first last
    have early := (timely.within _ (List.mem_of_getElem? first)).1
    have late := (timely.within _ (List.mem_of_getElem? last)).2
    omega
  · obtain ⟨stop, reported⟩ := timely.left past
    exact ⟨stop, beating.beatCount, reported, timely.counted⟩

/-- An interval of 5 ms: a beat, a sleep that comes back late, another beat, and a stop request in
the second sleep. -/
def twoBeats : List BeatAction :=
  [.thread .enter, .thread .check, .thread .storeRunning, .thread (.spawn (.ok ())),
    .thread (.test false), .beat, .fallAsleep, .tick 7000000, .thread .sleep,
    .thread (.test false), .beat, .fallAsleep, .thread .requestStop]

theorem heartbeat_keeps_time_two_beats :
    ∃ beating, beatingAfter 5 0 twoBeats = some beating ∧
      beating.beats = [⟨0, 1⟩, ⟨7000000, 2⟩] ∧
      ∀ (i j : Nat) (early late : Beat), i ≤ j → beating.beats[i]? = some early →
        beating.beats[j]? = some late → early.time + (j - i) * intervalTime 5 ≤ late.time := by
  have reached : (beatingAfter 5 0 twoBeats).map Beating.beats
      = some [⟨0, 1⟩, ⟨7000000, 2⟩] := by
    decide +kernel
  obtain ⟨beating, ran, beats⟩ := Option.map_eq_some_iff.mp reached
  exact ⟨beating, ran, beats, (heartbeat_keeps_time 5 0 twoBeats beating ran).2.1⟩

/-! ### The answer to a stop request -/

/-- With a stop requested: the time at which the worker can be at its end. A sleep takes as long as
it would without the request. -/
def Beating.ends (interval : Int) (beating : Beating) : Nat :=
  if beating.threads.worker = .sleeping then
    match beating.wake with
    | some wake => max wake beating.clock
    | none => beating.clock + intervalTime interval
  else beating.clock

/-- With a stop requested: the actions that `run_loop` has still to take. -/
def Beating.todo (beating : Beating) : Nat :=
  match beating.threads.worker with
  | .sleeping => if beating.beaten = false then 6 else if beating.wake = none then 5 else 4
  | .absent | .testing | .deciding => 3
  | .ending => 2
  | .flagging => 1
  | .finished => 0

/-- With a stop requested: the beats still to come. -/
def Beating.coming (beating : Beating) : Nat :=
  if beating.threads.worker = .sleeping ∧ beating.beaten = false then 1 else 0

/-- What the actions since a stop request have used up. -/
structure Beating.Winding (interval : Int) (before : Beating) (own : Nat) (beating : Beating) :
    Prop where
  stop : beating.threads.stopRequested = true
  todo : own + beating.todo = before.todo
  beats : beating.beats.length + beating.coming = before.beats.length + before.coming
  ends : before.ends interval ≤ beating.ends interval

/-- How many actions are those of `run_loop`. -/
def ownBeatActions (actions : List BeatAction) : Nat := actions.countP BeatAction.isOwn

section Winding

variable {interval : Int} {beating after : Beating}

/-- **Step.** -/
theorem BeatMove.winds {clock : Nat} {action : BeatAction}
    (moved : BeatMove interval beating action after) (timely : beating.Timely interval clock)
    (stop : beating.threads.stopRequested = true) :
    beating.Winding interval (ownBeatActions [action]) after := by
  cases moved with
  | tick nanoseconds =>
    refine ⟨stop, Nat.zero_add _, rfl, ?_⟩
    unfold Beating.ends
    dsimp only
    split_ifs
    · split <;> omega
    · omega
  | beat worker fresh room =>
    have awake := timely.awake fresh
    refine ⟨stop, ?_, ?_, ?_⟩
    · simp [Beating.todo, ownBeatActions, BeatAction.isOwn, worker, fresh, awake]
    · simp [Beating.coming, worker, fresh]
    · simp [Beating.ends, worker, awake]
  | fallAsleep worker beaten awake =>
    refine ⟨stop, ?_, ?_, ?_⟩
    · simp [Beating.todo, ownBeatActions, BeatAction.isOwn, worker, beaten, awake]
    · simp [Beating.coming, worker, beaten]
    · simp [Beating.ends, worker, awake]
  | loop timeUp worker wanted =>
    rw [stop] at wanted
    cases wanted
  | leave timeUp worker _ =>
    refine ⟨stop, ?_, ?_, ?_⟩
    · simp [Beating.todo, ownBeatActions, BeatAction.isOwn, TimedAction.isOwn, worker]
    · simp [Beating.coming, worker]
    · simp [Beating.ends, worker]
  | wakeUp wake worker asleep late =>
    have beaten := (timely.due wake asleep).1
    refine ⟨stop, ?_, ?_, ?_⟩
    · simp [Beating.todo, ownBeatActions, BeatAction.isOwn, TimedAction.isOwn, worker, beaten,
        asleep]
    · simp [Beating.coming, worker, beaten]
    · simp [Beating.ends, worker, asleep, late]
  | storeStopped worker | storeFlag worker =>
    refine ⟨stop, ?_, ?_, ?_⟩
    · simp [Beating.todo, ownBeatActions, BeatAction.isOwn, TimedAction.isOwn, worker]
    · simp [Beating.coming, worker]
    · simp [Beating.ends, worker]
  | spawn absent =>
    refine ⟨stop, ?_, ?_, ?_⟩
    · simp [Beating.todo, ownBeatActions, BeatAction.isOwn, TimedAction.isOwn, absent]
    · simp [Beating.coming, absent]
    · simp [Beating.ends, absent]
  | other action threads foreign worker keeps =>
    refine ⟨keeps stop, ?_, ?_, ?_⟩
    · simp [Beating.todo, ownBeatActions, BeatAction.isOwn, foreign, worker]
    · simp [Beating.coming, worker]
    · simp [Beating.ends, worker]

theorem Beating.Winding.trans {before : Beating} {own more : Nat}
    (winding : before.Winding interval own beating)
    (further : beating.Winding interval more after) :
    before.Winding interval (own + more) after where
  stop := further.stop
  todo := by rw [add_assoc, further.todo, winding.todo]
  beats := further.beats.trans winding.beats
  ends := winding.ends.trans further.ends

/-- **Run.** -/
theorem winding_of_run {clock : Nat} {actions rest : List BeatAction}
    (ran : beatingAfter interval clock actions = some beating)
    (stop : beating.threads.stopRequested = true)
    (continued : run (beatStep interval) beating rest = some after) :
    beating.Winding interval (ownBeatActions rest) after := by
  refine run_induction (beatStep interval) beating (motive := fun rest after =>
    beating.Winding interval (ownBeatActions rest) after)
    ⟨stop, Nat.zero_add _, rfl, le_rfl⟩ ?_ continued
  intro rest action middle later continued winding stepped
  have reached : beatingAfter interval clock (actions ++ rest) = some middle := by
    rw [beatingAfter, run_append, ← beatingAfter, ran]
    exact continued
  rw [ownBeatActions, List.countP_append]
  exact winding.trans
    ((moves_of_run reached stepped).winds (timely_of_run reached) winding.stop)

end Winding

/-- Time and the worker alone bring `run_loop` to its end, at a given time. -/
def EndsAt (interval : Int) (time : Nat) (beating : Beating) : Prop :=
  Reaches (beatStep interval) (fun action => action.isOwn = true ∨ action.isTick = true)
    (fun final => final.threads.worker = .finished ∧ final.clock = time) beating

section Ending

variable {interval : Int} {time : Nat} {beating : Beating}

theorem endsAt_later (early : beating.clock ≤ time)
    (ends : EndsAt interval time { beating with clock := time }) :
    EndsAt interval time beating := by
  refine .move (.tick (time - beating.clock)) (.inr rfl) ?_ ends
  rw [beatStep, Nat.add_sub_cancel' early]

theorem endsAt_finished (here : beating.threads.worker = .finished) (now : beating.clock = time) :
    EndsAt interval time beating :=
  .here ⟨here, now⟩

theorem endsAt_flagging (here : beating.threads.worker = .flagging) (now : beating.clock = time) :
    EndsAt interval time beating := by
  have stepped : beatStep interval beating (.thread .storeFlag) = some { beating with
      threads := { beating.threads with stopped := true, worker := .finished } } := by
    simp [beatStep, step, here]
  exact .move _ (.inl rfl) stepped (endsAt_finished rfl now)

theorem endsAt_ending (here : beating.threads.worker = .ending) (now : beating.clock = time) :
    EndsAt interval time beating := by
  have stepped : beatStep interval beating (.thread .storeStopped) = some { beating with
      threads := { beating.threads with state := .stopped, worker := .flagging } } := by
    simp [beatStep, step, here]
  exact .move _ (.inl rfl) stepped (endsAt_flagging rfl now)

theorem endsAt_testing (here : beating.threads.worker = .testing)
    (stop : beating.threads.stopRequested = true) (now : beating.clock = time) :
    EndsAt interval time beating := by
  have stepped : beatStep interval beating (.thread (.test false)) = some { beating with
      threads := { beating.threads with worker := .ending }
      reported := some beating.beatCount } := by
    simp [beatStep, step, here, Threads.loops, stop, Kind.afterLoop]
  exact .move _ (.inl rfl) stepped (endsAt_ending rfl now)

theorem endsAt_asleep {wake : Nat} (here : beating.threads.worker = .sleeping)
    (stop : beating.threads.stopRequested = true) (asleep : beating.wake = some wake)
    (late : wake ≤ time) (now : beating.clock = time) : EndsAt interval time beating := by
  have stepped : beatStep interval beating (.thread .sleep) = some { beating with
      threads := { beating.threads with worker := .testing }
      beaten := false
      wake := none } := by
    simp [beatStep, step, here, asleep, now, late]
  exact .move _ (.inl rfl) stepped (endsAt_testing rfl stop now)

theorem endsAt_beaten (here : beating.threads.worker = .sleeping)
    (stop : beating.threads.stopRequested = true) (beaten : beating.beaten = true)
    (awake : beating.wake = none) (late : beating.clock + intervalTime interval ≤ time) :
    EndsAt interval time beating := by
  have early : beating.clock ≤ time := (Nat.le_add_right _ _).trans late
  have stepped : beatStep interval beating .fallAsleep = some { beating with
      wake := some (beating.clock + intervalTime interval) } := by
    simp [beatStep, here, beaten, awake]
  exact .move _ (.inl rfl) stepped (endsAt_later early (endsAt_asleep here stop rfl late rfl))

theorem endsAt_fresh (here : beating.threads.worker = .sleeping)
    (stop : beating.threads.stopRequested = true) (fresh : beating.beaten = false)
    (awake : beating.wake = none) (room : beating.beatCount ≠ Int32.maxValue)
    (late : beating.clock + intervalTime interval ≤ time) : EndsAt interval time beating := by
  have stepped : beatStep interval beating .beat = some { beating with
      beatCount := beating.beatCount + 1
      beats := beating.beats ++ [⟨beating.clock, beating.beatCount + 1⟩]
      beaten := true } := by
    simp [beatStep, here, fresh, room]
  exact .move _ (.inl rfl) stepped (endsAt_beaten here stop rfl awake late)

/-- **From every place** the end can be reached at the time it is due, or later. -/
theorem endsAt_of_ends (plain : beating.threads.Plain) (spawned : beating.threads.worker ≠ .absent)
    (stop : beating.threads.stopRequested = true) (room : beating.beatCount ≠ Int32.maxValue)
    (late : beating.ends interval ≤ time) :
    EndsAt interval time beating := by
  unfold Beating.ends at late
  cases here : beating.threads.worker with
  | absent => exact absurd here spawned
  | deciding => exact absurd here plain.direct
  | sleeping =>
    rw [if_pos here] at late
    cases asleep : beating.wake with
    | some wake =>
      rw [asleep] at late
      exact endsAt_later ((le_max_right _ _).trans late)
        (endsAt_asleep here stop asleep ((le_max_left _ _).trans late) rfl)
    | none =>
      rw [asleep] at late
      cases logged : beating.beaten with
      | true => exact endsAt_beaten here stop logged asleep late
      | false => exact endsAt_fresh here stop logged asleep room late
  | testing =>
    rw [here] at late
    exact endsAt_later late (endsAt_testing here stop rfl)
  | ending =>
    rw [here] at late
    exact endsAt_later late (endsAt_ending here rfl)
  | flagging =>
    rw [here] at late
    exact endsAt_later late (endsAt_flagging here rfl)
  | finished =>
    rw [here] at late
    exact endsAt_later late (endsAt_finished here rfl)

end Ending

/-- **A stop request does not wake the heartbeat.** From every state that a run with a stop request
gets to: whatever follows, `run_loop` takes six actions more at most and logs one beat more at most,
and none if it is asleep. And if the worker was started, and `beat_count` is below the largest
`int`: it comes to its end at a given time, by its own actions while time passes, if and only if the
sleep it is in, or is about to begin, is over by then. -/
theorem heartbeat_ends (interval : Int) (clock : Nat) (actions : List BeatAction)
    (beating : Beating) (ran : beatingAfter interval clock actions = some beating)
    (stop : beating.threads.stopRequested = true) :
    (∀ rest later, run (beatStep interval) beating rest = some later →
      ownBeatActions rest ≤ 6 ∧
        later.beats.length ≤ beating.beats.length + beating.coming ∧ beating.coming ≤ 1 ∧
        (later.threads.worker = .finished → beating.ends interval ≤ later.clock)) ∧
      (beating.threads.worker ≠ .absent → beating.beatCount ≠ Int32.maxValue →
        ∀ time, EndsAt interval time beating ↔ beating.ends interval ≤ time) := by
  have few : beating.todo ≤ 6 := by
    unfold Beating.todo
    split
    · split_ifs <;> omega
    all_goals omega
  have single : beating.coming ≤ 1 := by
    unfold Beating.coming
    split_ifs <;> omega
  have due : ∀ rest later, run (beatStep interval) beating rest = some later →
      later.threads.worker = .finished → beating.ends interval ≤ later.clock := by
    intro rest later continued finished
    have ends := (winding_of_run ran stop continued).ends
    rwa [Beating.ends.eq_def interval later, if_neg (by rw [finished]; exact Worker.noConfusion)]
      at ends
  refine ⟨fun rest later continued => ?_, fun spawned room time => ⟨?_, fun late => ?_⟩⟩
  · have winding := winding_of_run ran stop continued
    refine ⟨?_, ?_, single, due rest later continued⟩
    · exact (Nat.le_add_right _ _).trans (winding.todo.le.trans few)
    · exact (Nat.le_add_right _ _).trans winding.beats.le
  · rintro ⟨rest, final, -, continued, finished, rfl⟩
    exact due rest final continued finished
  · exact endsAt_of_ends (plain_of_run ((projects_threads interval).run ran)) spawned stop room late

/-- The stop requested 7 ms from the start is answered at 12 ms, at the end of the second sleep. -/
theorem heartbeat_ends_two_beats :
    ∃ beating, beatingAfter 5 0 twoBeats = some beating ∧ beating.clock = 7000000 ∧
      ∀ time, EndsAt 5 time beating ↔ 12000000 ≤ time := by
  have reached : (beatingAfter 5 0 twoBeats).map (fun beating => (beating.clock,
      beating.threads.stopRequested, beating.threads.worker, beating.beatCount, beating.ends 5))
        = some (7000000, true, .sleeping, 2, 12000000) := by
    decide +kernel
  obtain ⟨beating, ran, same⟩ := Option.map_eq_some_iff.mp reached
  simp only [Prod.mk.injEq] at same
  obtain ⟨clock, stop, worker, count, ends⟩ := same
  refine ⟨beating, ran, clock, ?_⟩
  have iff := (heartbeat_ends 5 0 twoBeats beating ran stop).2 (by rw [worker]; decide)
    (by rw [count]; decide)
  rwa [ends] at iff

end DemoDaemon.Tasks
