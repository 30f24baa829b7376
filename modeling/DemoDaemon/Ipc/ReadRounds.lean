/-
**The rounds of the read loop.**

What `on_readable` returns does not say which answers of `::read` it has seen, nor whether it called
`::read` at all: a buffer of 1 MiB is refused before the call. The trace keeps both, round by round.

* `Round`, `rounds`, `readCalls`: the rounds of one read loop, and of the `on_readable` calls of a
  session.
* `Follows`: the invariant of the reading side for lines below the 1 MiB limit. The capacity is
  4096 bytes doubled at most eight times; the eighth time it is full.
* **`Follows.readLoop_induction`**: the rule for a read loop, one case for each way a round can go.
* `Round.Leads`: a round that reads is followed by an overflow exactly when more than `523264` bytes
  were pending in it. **`Follows.traced`**: the rounds of a read loop are linked so, and
  **`Follows.traces`** the same for the calls of a session.
-/

import Mathlib.Data.List.Chain
import DemoDaemon.Ipc.SessionInput

namespace DemoDaemon.Ipc

open Foundation

/-! ### The trace -/

/-- One round of the loop of `on_readable`: the `errno` and the reading side it starts from, and
what `::read` has to say in it. -/
structure Round where
  stale : Errno
  before : ReadSide
  answer : ReadResult

/-- The test at the head of `read_from_socket`. When it holds, `::read` is not called. -/
def Round.Overflows (round : Round) : Prop := maxBufferSize ≤ round.before.buffer.capacity

instance : DecidablePred Round.Overflows := fun _ => Nat.decLe _ _

section Rounds

variable {ω : Type} (lib : Nlohmann) (handle : ω → RequestMessage → ω)

/-- The rounds of `readLoop`, in order. -/
def rounds (stale : Errno) : List ReadResult → ReadSide → ω → List Round
  | [], side, _ => [⟨stale, side, .failed .again⟩]
  | result :: results, side, world =>
    ⟨stale, side, result⟩ ::
      match readFromSocket stale side.buffer result with
      | (.received bytes, buffer) =>
        let parsed := tryParseMessages lib handle (buffer.availableForRead + 1)
          { side with buffer, received := side.received ++ bytes } world
        rounds stale results parsed.1 parsed.2
      | (.endOfStream, _) => []
      | (.failed _, _) => []

theorem rounds_full (stale : Errno) {side : ReadSide}
    (full : maxBufferSize ≤ side.buffer.capacity) (results : List ReadResult) (world : ω) :
    rounds lib handle stale results side world
      = [⟨stale, side, results.headD (.failed .again)⟩] := by
  cases results with
  | nil => rfl
  | cons result results => simp only [rounds, readFromSocket_full full, List.headD_cons]

theorem rounds_failed (stale : Errno) {side : ReadSide}
    (notFull : ¬ maxBufferSize ≤ side.buffer.capacity) (errno : Errno) (results : List ReadResult)
    (world : ω) :
    rounds lib handle stale (.failed errno :: results) side world
      = [⟨stale, side, .failed errno⟩] := by
  simp only [rounds, readFromSocket_failed notFull]

theorem rounds_end (stale : Errno) {side : ReadSide}
    (notFull : ¬ maxBufferSize ≤ side.buffer.capacity) {bytes : Bytes}
    (none : bytes.take (prepared side.buffer).availableForWrite = []) (results : List ReadResult)
    (world : ω) :
    rounds lib handle stale (.data bytes :: results) side world
      = [⟨stale, side, .data bytes⟩] := by
  simp only [rounds, readFromSocket_end notFull stale none]

theorem rounds_data (stale : Errno) {side : ReadSide}
    (notFull : ¬ maxBufferSize ≤ side.buffer.capacity) {bytes : Bytes}
    (some : bytes.take (prepared side.buffer).availableForWrite ≠ []) (results : List ReadResult)
    (world : ω) :
    rounds lib handle stale (.data bytes :: results) side world
      = (let delivered := bytes.take (prepared side.buffer).availableForWrite
        let filled := (prepared side.buffer).fill delivered (List.length_take_le _ _)
        let parsed := tryParseMessages lib handle (filled.availableForRead + 1)
          { side with buffer := filled, received := side.received ++ delivered } world
        ⟨stale, side, .data bytes⟩ :: rounds lib handle stale results parsed.1 parsed.2) := by
  simp only [rounds, readFromSocket_data notFull stale some]

end Rounds

/-! ### The capacity -/

namespace IOBuffer

variable (buffer : IOBuffer)

/-- The growth in `prepared`. -/
def grown (buffer : IOBuffer) : IOBuffer :=
  let newSize := min (buffer.capacity * 2) maxBufferSize
  if grows : buffer.availableForWrite < 1024 ∧ buffer.capacity < newSize then
    buffer.resize newSize (Nat.le_trans buffer.inside (Nat.le_of_lt grows.2))
  else buffer

theorem prepared_eq : prepared buffer
    = (if 0 < buffer.readPos ∧ 0 < buffer.availableForRead then buffer.compact else buffer).grown :=
  rfl

theorem pending_grown : buffer.grown.pending = buffer.pending := by
  unfold grown
  dsimp only
  split_ifs with grows
  · exact pending_resize buffer _
  · rfl

/-- The two ways the growth can go on a buffer that is not full: there was space enough, or the
buffer has doubled, up to the limit. -/
theorem grown_cases {buffer : IOBuffer} (some : 0 < buffer.capacity)
    (notFull : ¬ maxBufferSize ≤ buffer.capacity) :
    (buffer.grown.capacity = buffer.capacity ∧ 1024 ≤ buffer.grown.availableForWrite) ∨
      (buffer.grown.capacity = min (buffer.capacity * 2) maxBufferSize ∧
        buffer.grown.capacity - buffer.capacity ≤ buffer.grown.availableForWrite) := by
  have inside : buffer.writePos ≤ buffer.capacity := buffer.inside
  unfold grown
  dsimp only
  by_cases grows : buffer.availableForWrite < 1024 ∧
      buffer.capacity < min (buffer.capacity * 2) maxBufferSize
  · right
    rw [dif_pos grows, capacity_resize]
    refine ⟨rfl, ?_⟩
    show _ ≤ (resized buffer.data _).length - buffer.writePos
    rw [length_resized]
    omega
  · left
    rw [dif_neg grows]
    refine ⟨rfl, ?_⟩
    omega

/-- So for `prepared`, which compacts the buffer before that. -/
theorem prepared_cases {buffer : IOBuffer} (some : 0 < buffer.capacity)
    (notFull : ¬ maxBufferSize ≤ buffer.capacity) :
    ((prepared buffer).capacity = buffer.capacity ∧ 1024 ≤ (prepared buffer).availableForWrite) ∨
      ((prepared buffer).capacity = min (buffer.capacity * 2) maxBufferSize ∧
        (prepared buffer).capacity - buffer.capacity ≤ (prepared buffer).availableForWrite) := by
  rw [prepared_eq]
  split_ifs
  · rw [← buffer.capacity_compact] at some notFull ⊢
    exact grown_cases some notFull
  · exact grown_cases some notFull

end IOBuffer

/-- The capacity is 4096 bytes doubled at most eight times. -/
def Doubled (buffer : IOBuffer) : Prop := ∃ doublings ≤ 8, buffer.capacity = 4096 * 2 ^ doublings

section Doubled

variable {buffer : IOBuffer} (doubled : Doubled buffer)

include doubled

theorem Doubled.capacity_ge : 4096 ≤ buffer.capacity := by
  obtain ⟨doublings, -, capacity⟩ := doubled
  have positive := Nat.two_pow_pos doublings
  omega

/-- Below 1 MiB the buffer has at most 512 KiB. -/
theorem Doubled.of_not_full (notFull : ¬ maxBufferSize ≤ buffer.capacity) :
    ∃ doublings ≤ 7, buffer.capacity = 4096 * 2 ^ doublings := by
  obtain ⟨doublings, few, capacity⟩ := doubled
  refine ⟨doublings, ?_, capacity⟩
  by_contra many
  have eight : doublings = 8 := by omega
  rw [capacity, eight] at notFull
  exact notFull (by decide)

/-- The growth leaves the capacity at 4096 bytes doubled at most eight times. -/
theorem Doubled.grown : Doubled buffer.grown := by
  by_cases full : maxBufferSize ≤ buffer.capacity
  · have stays : ¬ (buffer.availableForWrite < 1024 ∧
        buffer.capacity < min (buffer.capacity * 2) maxBufferSize) := by omega
    have same : buffer.grown = buffer := dif_neg stays
    rw [same]
    exact doubled
  · have positive := doubled.capacity_ge
    rcases IOBuffer.grown_cases (by omega) full with ⟨same, -⟩ | ⟨twice, -⟩
    · rw [Doubled, same]
      exact doubled
    · obtain ⟨doublings, few, capacity⟩ := doubled.of_not_full full
      have bound : 2 ^ doublings ≤ 2 ^ 7 := Nat.pow_le_pow_right (by decide) few
      refine ⟨doublings + 1, by omega, ?_⟩
      rw [twice, capacity, Nat.pow_succ, maxBufferSize]
      omega

theorem Doubled.compact : Doubled buffer.compact := by
  rw [Doubled, IOBuffer.capacity_compact]
  exact doubled

theorem Doubled.prepare : Doubled (prepared buffer) := by
  rw [IOBuffer.prepared_eq]
  split_ifs
  · exact doubled.compact.grown
  · exact doubled.grown

end Doubled

/-! ### The reading side below the limit -/

section Following

variable (lib : Nlohmann)

/-- The reading side against everything received, for lines of any length below the limit. -/
structure Follows (side : ReadSide) : Prop where
  start : side.buffer.readPos = 0
  pending : side.buffer.pending = unread newline (heard lib) side.received
  dispatched : side.dispatched = requests lib side.received
  capacity : ∃ doublings ≤ 8, side.buffer.capacity = 4096 * 2 ^ doublings

theorem follows_fresh : Follows lib ReadSide.fresh where
  start := (tracks_fresh lib).start
  pending := (tracks_fresh lib).pending
  dispatched := (tracks_fresh lib).dispatched
  capacity := ⟨0, by decide, capacity_fresh⟩

variable {lib} {side : ReadSide}

theorem Follows.capacity_pos (follows : Follows lib side) : 0 < side.buffer.capacity :=
  Nat.lt_of_lt_of_le (by decide) (Doubled.capacity_ge follows.capacity)

theorem Follows.doublings_of_not_full (follows : Follows lib side)
    (notFull : ¬ maxBufferSize ≤ side.buffer.capacity) :
    ∃ doublings ≤ 7, side.buffer.capacity = 4096 * 2 ^ doublings :=
  Doubled.of_not_full follows.capacity notFull

theorem Follows.capacity_le_of_not_full (follows : Follows lib side)
    (notFull : ¬ maxBufferSize ≤ side.buffer.capacity) : side.buffer.capacity ≤ 524288 := by
  obtain ⟨doublings, few, capacity⟩ := follows.doublings_of_not_full notFull
  have bound : 2 ^ doublings ≤ 2 ^ 7 := Nat.pow_le_pow_right (by decide) few
  rw [capacity]
  omega

/-- **When a round fills the buffer**: at 512 KiB, with less than 1024 bytes free. -/
theorem Follows.full_prepared_iff (follows : Follows lib side)
    (notFull : ¬ maxBufferSize ≤ side.buffer.capacity) :
    maxBufferSize ≤ (prepared side.buffer).capacity ↔ maxRun < side.buffer.pending.length := by
  obtain ⟨-, -, prepared⟩ := prepared_spec follows.start
  obtain ⟨doublings, few, capacity⟩ := follows.doublings_of_not_full notFull
  have within := length_pending_le_capacity follows.start
  rw [prepared, maxRun]
  rcases Nat.lt_or_eq_of_le few with fewer | seven
  · have bound : 2 ^ doublings ≤ 2 ^ 6 := Nat.pow_le_pow_right (by decide) (by omega)
    have small : side.buffer.capacity ≤ 262144 := by
      rw [capacity]
      omega
    rw [maxBufferSize]
    split_ifs with grows <;> omega
  · have half : side.buffer.capacity = 524288 := by
      rw [capacity, seven]
      rfl
    rw [half, maxBufferSize]
    split_ifs with grows <;> omega

theorem Follows.prepare (follows : Follows lib side) :
    Follows lib { side with buffer := prepared side.buffer } := by
  obtain ⟨start, pending, -⟩ := prepared_spec follows.start
  exact ⟨start, pending.trans follows.pending, follows.dispatched,
    Doubled.prepare follows.capacity⟩

end Following

/-! ### The rule for a read loop -/

/-- The answer leaves the session open: nothing more has arrived. -/
def ReadResult.stays : ReadResult → Bool
  | .data _ => false
  | .failed errno => decide (errno = .again)

/-- The answer is the end of the stream, or an error of the socket. -/
def ReadResult.Ends : ReadResult → Prop
  | .data bytes => bytes = []
  | .failed errno => errno = .other

theorem ReadResult.stays_iff (answer : ReadResult) :
    answer.stays = true ↔ answer = .failed .again := by
  cases answer with
  | data bytes => exact ⟨nofun, nofun⟩
  | failed errno => simp only [stays, decide_eq_true_eq, ReadResult.failed.injEq]

section Rule

variable {ω : Type} (lib : Nlohmann) (handle : ω → RequestMessage → ω)

/-- The reading side and the handler's state after a round that delivered some bytes. -/
structure Arrives (side : ReadSide) (world : ω) (delivered : Bytes) (next : ReadSide)
    (nextWorld : ω) : Prop where
  follows : Follows lib next
  received : next.received = side.received ++ delivered
  capacity : next.buffer.capacity = (prepared side.buffer).capacity
  world : nextWorld
    = (requests lib (unread newline (heard lib) side.received ++ delivered)).foldl handle world

variable {lib}

/-- **Step.** A round that delivers some bytes keeps the invariant. -/
theorem Follows.arrive {side : ReadSide} (follows : Follows lib side) {delivered : Bytes}
    (fits : delivered.length ≤ (prepared side.buffer).availableForWrite)
    (short : (residue newline (side.received ++ delivered)).length < defaultMaxMessageSize)
    (world : ω) :
    let filled := (prepared side.buffer).fill delivered fits
    let parsed := tryParseMessages lib handle (filled.availableForRead + 1)
      { side with buffer := filled, received := side.received ++ delivered } world
    Arrives lib handle side world delivered parsed.1 parsed.2 := by
  intro filled parsed
  obtain ⟨buffer, run, start, capacity, left⟩ :=
    arrive_spec handle follows.start follows.pending fits short world
  obtain ⟨doublings, few, size⟩ := Doubled.prepare follows.capacity
  rw [show parsed = _ from run]
  refine ⟨⟨start, left, ?_, doublings, few, capacity.trans size⟩, rfl, capacity, rfl⟩
  show side.dispatched ++ _ = requests lib (side.received ++ delivered)
  rw [follows.dispatched]
  exact (requests_append lib side.received delivered).symm

/-- **The rule for a read loop.** A round overflows, or its answer ends the loop, or it delivers
bytes and the loop goes on. -/
theorem Follows.readLoop_induction
    {motive : ReadSide → ω → Bool × ReadSide × ω → List Round → Prop} (stale : Errno)
    (overflow : ∀ side world answer, Follows lib side → maxBufferSize ≤ side.buffer.capacity →
      motive side world (decide (stale = .again), side, world) [⟨stale, side, answer⟩])
    (stop : ∀ side world answer, Follows lib side → ¬ maxBufferSize ≤ side.buffer.capacity →
      (answer.stays = true ∨ answer.Ends) →
      motive side world (answer.stays, { side with buffer := prepared side.buffer }, world)
        [⟨stale, side, answer⟩])
    (arrive : ∀ side world bytes next nextWorld ended rest, Follows lib side →
      ¬ maxBufferSize ≤ side.buffer.capacity → bytes ≠ [] →
      Arrives lib handle side world (bytes.take (prepared side.buffer).availableForWrite) next
        nextWorld →
      motive next nextWorld ended rest →
      motive side world ended (⟨stale, side, .data bytes⟩ :: rest))
    (results : List ReadResult) {side : ReadSide} (follows : Follows lib side) (world : ω)
    (bounded : RunsAtMost newline (defaultMaxMessageSize - 1)
      (readLoop lib handle stale results side world).2.1.received) :
    motive side world (readLoop lib handle stale results side world)
      (rounds lib handle stale results side world) := by
  induction results generalizing side world with
  | nil =>
    by_cases full : maxBufferSize ≤ side.buffer.capacity
    · rw [readLoop_full lib handle stale full, rounds_full lib handle stale full]
      exact overflow side world _ follows full
    · rw [readLoop_nil lib handle stale full]
      exact stop side world (.failed .again) follows full (Or.inl rfl)
  | cons result results ih =>
    by_cases full : maxBufferSize ≤ side.buffer.capacity
    · rw [readLoop_full lib handle stale full, rounds_full lib handle stale full]
      exact overflow side world _ follows full
    · cases result with
      | failed errno =>
        rw [readLoop_failed lib handle stale full, rounds_failed lib handle stale full]
        refine stop side world (.failed errno) follows full ?_
        cases errno with
        | again => exact Or.inl rfl
        | other => exact Or.inr rfl
      | data bytes =>
        have space := prepared_room follows.start follows.capacity_pos (Nat.lt_of_not_le full)
        by_cases none : bytes = []
        · have taken : bytes.take (prepared side.buffer).availableForWrite = [] := by
            rw [none, List.take_nil]
          rw [readLoop_end lib handle stale full taken, rounds_end lib handle stale full taken]
          exact stop side world (.data bytes) follows full (Or.inr none)
        · have taken : bytes.take (prepared side.buffer).availableForWrite ≠ [] := by
            rw [Ne, List.take_eq_nil_iff]
            exact fun empty => empty.elim (Nat.ne_of_gt space) none
          rw [readLoop_data lib handle stale full taken] at bounded ⊢
          rw [rounds_data lib handle stale full taken]
          have reached : RunsAtMost newline (defaultMaxMessageSize - 1)
              (side.received ++ bytes.take (prepared side.buffer).availableForWrite) := by
            refine bounded.of_infix (List.IsPrefix.isInfix ?_)
            refine List.IsPrefix.trans ?_ (received_readLoop lib handle stale results _ _)
            rw [received_tryParseMessages]
          have arrived := follows.arrive handle (List.length_take_le _ _)
            (Nat.lt_of_le_of_lt reached.length_residue_le (by decide)) world
          exact arrive side world bytes _ _ _ _ follows full none arrived
            (ih arrived.follows _ bounded)

end Rule

/-! ### From round to round -/

/-- A round that reads is followed by an overflow exactly when more than `523264` bytes are
pending in it. -/
def Round.Leads (first second : Round) : Prop :=
  ¬ first.Overflows → (second.Overflows ↔ maxRun < first.before.buffer.pending.length)

/-- What the loop returns when it ends with the round. -/
def Round.stays (round : Round) : Bool :=
  if round.Overflows then decide (round.stale = .again) else round.answer.stays

/-- The rounds of a read loop, against the reading side before and after it and what it returns. -/
structure Traced (lib : Nlohmann) (side : ReadSide) (returned : Bool) (ended : ReadSide)
    (trace : List Round) : Prop where
  follows : Follows lib ended
  begins : ∃ first rest, trace = first :: rest ∧ first.before = side
  linked : trace.IsChain Round.Leads
  overflows : ∀ round ∈ trace, round.Overflows → trace.getLast? = some round
  within : ∀ round ∈ trace, Follows lib round.before ∧ round.before.received <+: ended.received
  last : ∃ last, trace.getLast? = some last ∧ returned = last.stays ∧
    (¬ last.Overflows → (last.answer.stays = true ∨ last.answer.Ends) ∧
      (maxBufferSize ≤ ended.buffer.capacity ↔ maxRun < last.before.buffer.pending.length))

section Loop

variable {ω : Type} {lib : Nlohmann} (handle : ω → RequestMessage → ω)

/-- **Run.** Every read loop below the limit is traced by its rounds. -/
theorem Follows.traced (stale : Errno) (results : List ReadResult) {side : ReadSide}
    (follows : Follows lib side) (world : ω)
    (bounded : RunsAtMost newline (defaultMaxMessageSize - 1)
      (readLoop lib handle stale results side world).2.1.received) :
    Traced lib side (readLoop lib handle stale results side world).1
      (readLoop lib handle stale results side world).2.1
      (rounds lib handle stale results side world) := by
  refine Follows.readLoop_induction handle
    (motive := fun side _ ended trace => Traced lib side ended.1 ended.2.1 trace) stale
    ?_ ?_ ?_ results follows world bounded
  · intro side world answer follows full
    refine ⟨follows, ⟨_, [], rfl, rfl⟩, .singleton _, ?_, ?_, ⟨stale, side, answer⟩, rfl, ?_, ?_⟩
    · rw [List.forall_mem_singleton]
      exact fun _ => rfl
    · rw [List.forall_mem_singleton]
      exact ⟨follows, List.prefix_refl _⟩
    · exact (if_pos full).symm
    · exact fun notFull => absurd full notFull
  · intro side world answer follows notFull ends
    refine ⟨follows.prepare, ⟨_, [], rfl, rfl⟩, .singleton _, ?_, ?_,
      ⟨stale, side, answer⟩, rfl, ?_, ?_⟩
    · rw [List.forall_mem_singleton]
      exact fun _ => rfl
    · rw [List.forall_mem_singleton]
      exact ⟨follows, List.prefix_refl _⟩
    · exact (if_neg notFull).symm
    · exact fun _ => ⟨ends, follows.full_prepared_iff notFull⟩
  · intro side world bytes next nextWorld ended rest follows notFull _ arrives traced
    obtain ⟨first, others, rfl, before⟩ := traced.begins
    obtain ⟨last, isLast, returned, after⟩ := traced.last
    refine ⟨traced.follows, ⟨_, _, rfl, rfl⟩, ?_, ?_, ?_, last, ?_, returned, after⟩
    · refine List.isChain_cons_cons.mpr ⟨?_, traced.linked⟩
      intro _
      rw [Round.Overflows, before, arrives.capacity]
      exact follows.full_prepared_iff notFull
    · rw [List.forall_mem_cons]
      refine ⟨fun full => absurd full notFull, fun round listed full => ?_⟩
      rw [List.getLast?_cons_cons]
      exact traced.overflows round listed full
    · rw [List.forall_mem_cons]
      refine ⟨⟨follows, ?_⟩, traced.within⟩
      have later := (traced.within first List.mem_cons_self).2
      rw [before, arrives.received] at later
      exact (List.prefix_append _ _).trans later
    · rw [List.getLast?_cons_cons]
      exact isLast

end Loop

/-! ### The calls of a session -/

/-- One call of `on_readable`: what it returned, and its rounds (none in a closed session). -/
structure ReadCall where
  returned : Bool
  rounds : List Round

section Calls

variable {σ : Type} (lib : Nlohmann) (handler : MessageHandler σ)

/-- The rounds of an `on_readable` call. -/
def Session.readRounds (session : Session) (event : ReadEvent) (state : σ) : List Round :=
  match session.beginReading with
  | none => []
  | some session =>
    rounds lib (handleMessage lib handler) event.stale event.results session.side
      (session.writeBuffer, state)

/-- The `on_readable` calls of `readEvents`, in order. -/
def readCalls : List ReadEvent → Session → σ → List ReadCall
  | [], _, _ => []
  | event :: events, session, state =>
    let called := session.onReadable lib handler event.stale event.results state
    ⟨called.1, session.readRounds lib handler event state⟩ ::
      readCalls events called.2.1 called.2.2

theorem readRounds_active {session : Session} (active : session.state = .active)
    (event : ReadEvent) (state : σ) :
    session.readRounds lib handler event state
      = rounds lib (handleMessage lib handler) event.stale event.results session.side
          (session.writeBuffer, state) := by
  simp only [Session.readRounds, beginReading_active active]

theorem readRounds_closed {session : Session} (closed : session.state = .closed)
    (event : ReadEvent) (state : σ) : session.readRounds lib handler event state = [] := by
  simp only [Session.readRounds, beginReading_closed closed]

/-- One call on an open session is one read loop. -/
theorem readEvents_single {session : Session} (active : session.state = .active)
    (event : ReadEvent) (state : σ) :
    (readEvents lib handler [event] session state).1.side.received
        = (readLoop lib (handleMessage lib handler) event.stale event.results session.side
            (session.writeBuffer, state)).2.1.received ∧
      (readCalls lib handler [event] session state).flatMap ReadCall.rounds
        = rounds lib (handleMessage lib handler) event.stale event.results session.side
            (session.writeBuffer, state) := by
  simp only [readEvents, readCalls, onReadable_active lib handler active,
    (finishReading_side _ _).1, readRounds_active lib handler active, List.flatMap_singleton,
    true_and]

/-- A closed session reads nothing more. -/
theorem readEvents_closed {session : Session} (closed : session.state = .closed)
    (events : List ReadEvent) (state : σ) :
    readEvents lib handler events session state = (session, state) ∧
      ∀ call ∈ readCalls lib handler events session state, call.rounds = [] := by
  induction events with
  | nil => exact ⟨rfl, List.forall_mem_nil _⟩
  | cons event events ih =>
    simp only [readEvents, readCalls, onReadable_closed lib handler closed]
    rw [List.forall_mem_cons]
    exact ⟨ih.1, readRounds_closed lib handler closed event state, ih.2⟩

variable {lib}

/-- One call on an open session: its rounds, and the session it leaves. -/
theorem Follows.onReadable {session : Session} (active : session.state = .active)
    (follows : Follows lib session.side) (event : ReadEvent) (state : σ)
    (bounded : RunsAtMost newline (defaultMaxMessageSize - 1)
      (session.onReadable lib handler event.stale event.results state).2.1.side.received) :
    let called := session.onReadable lib handler event.stale event.results state
    ∃ ended, Traced lib session.side called.1 ended (session.readRounds lib handler event state) ∧
      called.2.1.side.received = ended.received ∧ called.2.1.side.dispatched = ended.dispatched ∧
      (called.1 = true → called.2.1.state = .active ∧ called.2.1.side = ended) ∧
      (called.1 = false → called.2.1.state = .closed) := by
  intro called
  have same : called = _ := onReadable_active lib handler active event.stale event.results state
  rw [show session.onReadable lib handler event.stale event.results state = _ from same,
    (finishReading_side _ _).1] at bounded
  have traced := follows.traced (handleMessage lib handler) event.stale event.results
    (session.writeBuffer, state) bounded
  rw [same, readRounds_active lib handler active]
  refine ⟨_, traced, (finishReading_side _ _).1, (finishReading_side _ _).2, ?_, ?_⟩
  · intro stays
    simp only at stays
    simp only [Session.finishReading, stays]
    exact ⟨rfl, rfl⟩
  · intro ends
    simp only at ends
    simp only [Session.finishReading, ends, Session.close]
    rfl

/-- The calls of an open session, against the session before and after them. -/
structure Session.Traces (lib : Nlohmann) (session final : Session) (calls : List ReadCall) :
    Prop where
  begins : ∀ first ∈ (calls.flatMap ReadCall.rounds).head?, first.before = session.side
  linked : (calls.flatMap ReadCall.rounds).IsChain Round.Leads
  traced : ∀ call ∈ calls, call.rounds = [] ∨
    ∃ side ended, Traced lib side call.returned ended call.rounds ∧
      ended.received <+: final.side.received
  dispatched : final.side.dispatched = requests lib final.side.received
  active : final.state = .active ↔ ∀ call ∈ calls, call.rounds ≠ [] → call.returned = true

/-- A call, and whatever rounds follow it, starts where the session is. -/
theorem Traced.begins_append {side ended : ReadSide} {returned : Bool} {trace : List Round}
    (traced : Traced lib side returned ended trace) (rest : List Round) :
    ∀ first ∈ (trace ++ rest).head?, first.before = side := by
  obtain ⟨first, others, starts, before⟩ := traced.begins
  intro round isFirst
  rw [starts, List.cons_append, List.head?_cons, Option.mem_some_iff] at isFirst
  rw [← isFirst]
  exact before

/-- A call that leaves the session open, and the calls after it. -/
theorem Traced.traces_stay {session next final : Session} {trace : List Round}
    {calls : List ReadCall} (traced : Traced lib session.side true next.side trace)
    (rest : next.Traces lib final calls) (further : next.side.received <+: final.side.received) :
    session.Traces lib final (⟨true, trace⟩ :: calls) := by
  obtain ⟨last, isLast, -, after⟩ := traced.last
  refine ⟨?_, ?_, ?_, rest.dispatched, ?_⟩
  · rw [List.flatMap_cons]
    exact traced.begins_append _
  · rw [List.flatMap_cons]
    refine traced.linked.append rest.linked ?_
    intro final isFinal first isFirst reads
    rw [isLast, Option.mem_some_iff] at isFinal
    rw [← isFinal] at reads ⊢
    rw [Round.Overflows, rest.begins first isFirst]
    exact (after reads).2
  · rw [List.forall_mem_cons]
    exact ⟨Or.inr ⟨_, _, traced, further⟩, rest.traced⟩
  · rw [rest.active, List.forall_mem_cons]
    exact (and_iff_right fun _ => rfl).symm

/-- A call that closes the session, after which nothing more is read. -/
theorem Traced.traces_stop {session final : Session} {ended : ReadSide} {trace : List Round}
    {calls : List ReadCall} (traced : Traced lib session.side false ended trace)
    (silent : ∀ call ∈ calls, call.rounds = []) (closed : final.state = .closed)
    (received : final.side.received = ended.received)
    (dispatched : final.side.dispatched = ended.dispatched) :
    session.Traces lib final (⟨false, trace⟩ :: calls) := by
  have none : calls.flatMap ReadCall.rounds = [] := List.flatMap_eq_nil_iff.mpr silent
  refine ⟨?_, ?_, ?_, ?_, ?_⟩
  · rw [List.flatMap_cons]
    exact traced.begins_append _
  · rw [List.flatMap_cons, none, List.append_nil]
    exact traced.linked
  · rw [List.forall_mem_cons, received]
    exact ⟨Or.inr ⟨_, _, traced, List.prefix_refl _⟩,
      fun call listed => Or.inl (silent call listed)⟩
  · rw [dispatched, received]
    exact traced.follows.dispatched
  · rw [closed, List.forall_mem_cons]
    obtain ⟨first, others, starts, -⟩ := traced.begins
    have some : trace ≠ [] := by
      rw [starts]
      exact List.cons_ne_nil _ _
    refine ⟨fun active => ?_, fun both => absurd (both.1 some) Bool.false_ne_true⟩
    cases active

/-- **Run.** The calls of an open session are traced by their rounds. -/
theorem Follows.traces (events : List ReadEvent) {session : Session}
    (active : session.state = .active) (follows : Follows lib session.side) (state : σ)
    (bounded : RunsAtMost newline (defaultMaxMessageSize - 1)
      (readEvents lib handler events session state).1.side.received) :
    session.Traces lib (readEvents lib handler events session state).1
      (readCalls lib handler events session state) := by
  induction events generalizing session state with
  | nil =>
    have none : ∀ {holds : ReadCall → Prop}, ∀ call ∈ ([] : List ReadCall), holds call :=
      List.forall_mem_nil _
    refine ⟨fun first isFirst => ?_, .nil, none, follows.dispatched, fun _ => none, fun _ => active⟩
    cases isFirst
  | cons event events ih =>
    have call := follows.onReadable handler active event state
    rcases called : session.onReadable lib handler event.stale event.results state
      with ⟨returned, next, nextState⟩
    have run : readEvents lib handler (event :: events) session state
        = readEvents lib handler events next nextState := by
      simp only [readEvents, called]
    have trace : readCalls lib handler (event :: events) session state
        = ⟨returned, session.readRounds lib handler event state⟩
          :: readCalls lib handler events next nextState := by
      simp only [readCalls, called]
    rw [called] at call
    rw [run] at bounded
    rw [run, trace]
    have further := received_readEvents lib handler events next nextState
    obtain ⟨ended, traced, received, dispatched, onTrue, onFalse⟩ :=
      call (bounded.of_infix further.isInfix)
    simp only at traced received dispatched onTrue onFalse
    cases returned with
    | true =>
      obtain ⟨nextActive, rfl⟩ := onTrue rfl
      exact traced.traces_stay (ih nextActive traced.follows nextState bounded) further
    | false =>
      have closed := onFalse rfl
      obtain ⟨unchanged, silent⟩ := readEvents_closed lib handler closed events nextState
      rw [unchanged]
      exact traced.traces_stop silent closed received dispatched

end Calls

end DemoDaemon.Ipc
