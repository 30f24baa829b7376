/-
**The reading side against an edge-triggered kernel.**

A client socket is registered with `EPOLLET`: the kernel reports it once when something arrives, and
not again because something is still there. So `on_readable` must not leave bytes behind unless it
closes the session. Here the answers of `::read` come from the bytes that have arrived, which may
grow while the loop reads.

* `SocketInput`: what has arrived and what is unread, the end of the peer, and whether `epoll_wait`
  has the socket to report. `kernelAnswers`: the answers of `::read` in one `on_readable`.
* **`kernelAnswers_induction`**: the rule for such a loop, one case for each way a round can go.
* `endpointStep`: bytes arrive, the peer hangs up, the socket is reported for another reason, the
  server handles a report (`stop` and `close_all` are no actions here). `Wakeful`, `Followed`: the
  invariants.
* **`no_wakeup_lost`**: in every run, what is unread on an open session is about to be reported,
  unless the buffer of the session is full.
* **`quiet_dispatched`**: so when nothing is to be reported, the requests of what has arrived are
  dispatched: those on the complete lines before the first one for which the parser gives nothing.
* **`event_dispatches_all`**: and when something is, one report is enough for that.
-/

import DemoDaemon.Foundation.Transition
import DemoDaemon.Ipc.ReadSpace

namespace DemoDaemon.Ipc

open Foundation

/-! ### The kernel's side -/

/-- How the peer has gone away. -/
inductive Hangup where
  | closed
  | reset
deriving DecidableEq

/-- The kernel's side of a client socket. `arrived` is a record of all bytes of the peer. -/
structure SocketInput where
  arrived : Bytes
  unread : Bytes
  hangup : Option Hangup
  /-- The socket is among those that the next `epoll_wait` reports. -/
  edge : Bool

namespace SocketInput

/-- A socket that has just been registered. Its state is reported once in any case. -/
def registered : SocketInput := ⟨[], [], none, true⟩

/-- Bytes of the peer arrive. There are none behind its end. -/
def arrive (input : SocketInput) (bytes : Bytes) : SocketInput :=
  if bytes = [] ∨ input.hangup.isSome then input
  else { input with arrived := input.arrived ++ bytes, unread := input.unread ++ bytes, edge := true }

/-- The peer goes away. -/
def hang (input : SocketInput) (how : Hangup) : SocketInput :=
  if input.hangup.isSome then input else { input with hangup := some how, edge := true }

/-- What `::read` has to say. The end of the peer comes behind its bytes. -/
def answer (input : SocketInput) : ReadResult :=
  if input.unread = [] then
    match input.hangup with
    | none => .failed .again
    | some .closed => .data []
    | some .reset => .failed .other
  else .data input.unread

def take (input : SocketInput) (count : Nat) : SocketInput :=
  { input with unread := input.unread.drop count }

/-- `EPOLLIN`, `EPOLLERR` or `EPOLLHUP`. -/
def readable (input : SocketInput) : Bool := !input.unread.isEmpty || input.hangup.isSome

theorem arrive_nil (input : SocketInput) : input.arrive [] = input := if_pos (.inl rfl)

theorem arrived_arrive (input : SocketInput) (bytes : Bytes) :
    input.arrived <+: (input.arrive bytes).arrived := by
  unfold arrive
  split_ifs
  · exact List.prefix_refl _
  · exact List.prefix_append _ _

theorem answer_unread {input : SocketInput} (some : input.unread ≠ []) :
    input.answer = .data input.unread := if_neg some

end SocketInput

/-! ### One call of `on_readable` -/

section Loop

variable {ω : Type} (lib : Nlohmann) (handle : ω → RequestMessage → ω)

/-- The answers of `::read` in one read loop, and what the kernel has afterwards. The list says what
arrives in front of each call; when it is too short the loop is still running. -/
def kernelAnswers (stale : Errno) :
    List Bytes → SocketInput → ReadSide → ω → Option (List ReadResult × SocketInput)
  | [], _, _, _ => none
  | arrived :: arrivals, input, side, world =>
    let input := input.arrive arrived
    match readFromSocket stale side.buffer input.answer with
    | (.received bytes, buffer) =>
      let parsed := tryParseMessages lib handle (buffer.availableForRead + 1)
        { side with buffer, received := side.received ++ bytes } world
      (kernelAnswers stale arrivals (input.take bytes.length) parsed.1 parsed.2).map fun rest =>
        (input.answer :: rest.1, rest.2)
    | (.endOfStream, _) => some ([input.answer], input)
    | (.failed _, _) => some ([input.answer], input)

/-- A round that ends the loop. -/
theorem kernelAnswers_last (stale : Errno) {input : SocketInput} {side : ReadSide}
    (last : maxBufferSize ≤ side.buffer.capacity ∨ input.unread = []) (arrivals : List Bytes)
    (world : ω) :
    kernelAnswers lib handle stale ([] :: arrivals) input side world
      = some ([input.answer], input) := by
  unfold kernelAnswers
  rw [input.arrive_nil]
  dsimp only
  by_cases full : maxBufferSize ≤ side.buffer.capacity
  · rw [readFromSocket_full full]
  · have none := last.resolve_left full
    rw [SocketInput.answer, if_pos none]
    cases input.hangup with
    | none => rw [readFromSocket_failed full]
    | some how =>
      cases how with
      | closed => rw [readFromSocket_end full stale List.take_nil]
      | reset => rw [readFromSocket_failed full]

/-- A round that reads. -/
theorem kernelAnswers_read (stale : Errno) {input : SocketInput} {side : ReadSide}
    (notFull : ¬ maxBufferSize ≤ side.buffer.capacity)
    (some : input.unread.take (prepared side.buffer).availableForWrite ≠ [])
    (arrivals : List Bytes) (world : ω) :
    kernelAnswers lib handle stale ([] :: arrivals) input side world
      = (let room := (prepared side.buffer).availableForWrite
        let filled := (prepared side.buffer).fill (input.unread.take room)
          (List.length_take_le _ _)
        let parsed := tryParseMessages lib handle (filled.availableForRead + 1)
          { side with buffer := filled, received := side.received ++ input.unread.take room } world
        (kernelAnswers lib handle stale arrivals { input with unread := input.unread.drop room }
          parsed.1 parsed.2).map fun rest => (input.answer :: rest.1, rest.2)) := by
  have unread : input.unread ≠ [] := by
    intro none
    rw [none, List.take_nil] at some
    exact some rfl
  have taken : input.take (input.unread.take (prepared side.buffer).availableForWrite).length
      = { input with unread := input.unread.drop (prepared side.buffer).availableForWrite } := by
    rw [SocketInput.take, List.length_take]
    congr 1
    rcases Nat.le_total (prepared side.buffer).availableForWrite input.unread.length with
      less | more
    · rw [Nat.min_eq_left less]
    · rw [Nat.min_eq_right more, List.drop_length, List.drop_of_length_le more]
  conv_lhs => unfold kernelAnswers
  rw [input.arrive_nil]
  dsimp only
  rw [SocketInput.answer_unread unread, readFromSocket_data notFull stale some]
  dsimp only
  rw [taken]

/-- What arrives in front of a call might have arrived before the loop. -/
theorem kernelAnswers_arrive (stale : Errno) (input : SocketInput) (side : ReadSide)
    (arrived : Bytes) (arrivals : List Bytes) (world : ω) :
    kernelAnswers lib handle stale (arrived :: arrivals) input side world
      = kernelAnswers lib handle stale ([] :: arrivals) (input.arrive arrived) side world := by
  unfold kernelAnswers
  rw [(input.arrive arrived).arrive_nil]

/-- The space that is offered takes at least a byte of what is there. -/
theorem take_unread_ne_nil {input : SocketInput} {side : ReadSide} (doubled : Doubled side.buffer)
    (notFull : ¬ maxBufferSize ≤ side.buffer.capacity) (some : input.unread ≠ []) :
    input.unread.take (prepared side.buffer).availableForWrite ≠ [] := by
  have space := doubled.space notFull
  rw [Ne, List.take_eq_nil_iff]
  exact fun empty => empty.elim (by omega) some

/-- **The rule for a read loop.** -/
theorem kernelAnswers_induction (stale : Errno)
    {motive : SocketInput → ReadSide → ω → SocketInput → Bool × ReadSide × ω → Prop}
    (full : ∀ input side world, maxBufferSize ≤ side.buffer.capacity →
      motive input side world input (decide (stale = .again), side, world))
    (dry : ∀ input side world, ¬ maxBufferSize ≤ side.buffer.capacity → input.unread = [] →
      motive input side world input
        (input.hangup.isNone, { side with buffer := prepared side.buffer }, world))
    (reads : ∀ (input : SocketInput) (side : ReadSide) world after ended (delivered rest : Bytes)
      (fits : delivered.length ≤ (prepared side.buffer).availableForWrite),
      input.unread = delivered ++ rest →
      (let filled := (prepared side.buffer).fill delivered fits
        let parsed := tryParseMessages lib handle (filled.availableForRead + 1)
          { side with buffer := filled, received := side.received ++ delivered } world
        motive { input with unread := rest } parsed.1 parsed.2 after ended) →
      motive input side world after ended)
    (arrives : ∀ input side world after ended arrived,
      motive (input.arrive arrived) side world after ended → motive input side world after ended)
    {arrivals : List Bytes} {input after : SocketInput} {side : ReadSide} {world : ω}
    {results : List ReadResult} (doubled : Doubled side.buffer)
    (drained : kernelAnswers lib handle stale arrivals input side world = some (results, after)) :
    motive input side world after (readLoop lib handle stale results side world) := by
  induction arrivals generalizing input side world results with
  | nil => cases drained
  | cons arrived arrivals ih =>
    refine arrives input side world after _ arrived ?_
    rw [kernelAnswers_arrive] at drained
    generalize input.arrive arrived = input at drained ⊢
    by_cases isFull : maxBufferSize ≤ side.buffer.capacity
    · rw [kernelAnswers_last lib handle stale (.inl isFull)] at drained
      cases drained
      rw [readLoop_full lib handle stale isFull]
      exact full _ side world isFull
    · by_cases none : input.unread = []
      · have dried := dry input side world isFull none
        rw [kernelAnswers_last lib handle stale (.inr none)] at drained
        cases drained
        rw [SocketInput.answer, if_pos none]
        cases hung : after.hangup with
        | none =>
          rw [hung] at dried
          rw [readLoop_failed lib handle stale isFull]
          exact dried
        | some how =>
          rw [hung] at dried
          cases how with
          | closed =>
            rw [readLoop_end lib handle stale isFull List.take_nil]
            exact dried
          | reset =>
            rw [readLoop_failed lib handle stale isFull]
            exact dried
      · have some := take_unread_ne_nil doubled isFull none
        rw [kernelAnswers_read lib handle stale isFull some] at drained
        obtain ⟨⟨others, left⟩, further, same⟩ := Option.map_eq_some_iff.mp drained
        cases same
        rw [SocketInput.answer_unread none, readLoop_data lib handle stale isFull some]
        refine reads input side world left _ _ (input.unread.drop _) (List.length_take_le _ _)
          (List.take_append_drop _ _).symm ?_
        exact ih (doubled.parsed lib handle (List.length_take_le _ _) _ world) further

/-- **A read loop ends**: while nothing arrives, after one call of `::read` for each byte at most,
and one more. It leaves what is to be reported as it is. -/
theorem exists_kernelAnswers (stale : Errno) (input : SocketInput) {side : ReadSide}
    (doubled : Doubled side.buffer) (world : ω) {calls : Nat}
    (enough : input.unread.length ≤ calls) :
    ∃ results left, kernelAnswers lib handle stale (List.replicate (calls + 1) []) input side world
      = some (results, { input with unread := left }) := by
  induction calls generalizing input side world with
  | zero =>
    have none : input.unread = [] := List.length_eq_zero_iff.mp (Nat.le_zero.mp enough)
    exact ⟨_, input.unread, kernelAnswers_last lib handle stale (.inr none) [] world⟩
  | succ calls ih =>
    rw [List.replicate_succ]
    by_cases full : maxBufferSize ≤ side.buffer.capacity
    · exact ⟨_, input.unread, kernelAnswers_last lib handle stale (.inl full) _ world⟩
    · by_cases none : input.unread = []
      · exact ⟨_, input.unread, kernelAnswers_last lib handle stale (.inr none) _ world⟩
      · have some := take_unread_ne_nil doubled full none
        have space := doubled.space full
        have shorter : (input.unread.drop (prepared side.buffer).availableForWrite).length
            ≤ calls := by
          rw [List.length_drop]
          omega
        obtain ⟨results, left, drained⟩ := ih
          { input with unread := input.unread.drop (prepared side.buffer).availableForWrite }
          (doubled.parsed lib handle (List.length_take_le _ _) _ world) _ shorter
        refine ⟨input.answer :: results, left, ?_⟩
        rw [kernelAnswers_read lib handle stale full some]
        exact Option.map_eq_some_iff.mpr ⟨_, drained, rfl⟩

/-! What a whole loop does. -/

variable {lib handle} {stale : Errno} {arrivals : List Bytes} {input after : SocketInput}
  {side : ReadSide} {world : ω} {results : List ReadResult} (doubled : Doubled side.buffer)
  (drained : kernelAnswers lib handle stale arrivals input side world = some (results, after))

include doubled drained

/-- No byte is lost between the kernel and the session, and none is read twice. -/
theorem conserved_kernelAnswers (conserved : side.received ++ input.unread = input.arrived) :
    (readLoop lib handle stale results side world).2.1.received ++ after.unread = after.arrived := by
  refine kernelAnswers_induction lib handle stale
    (motive := fun input side _ after ended => side.received ++ input.unread = input.arrived →
      ended.2.1.received ++ after.unread = after.arrived) ?_ ?_ ?_ ?_ doubled drained conserved
  · intro input side world _ conserved
    exact conserved
  · intro input side world _ _ conserved
    exact conserved
  · intro input side world after ended delivered rest fits split ih conserved
    refine ih ?_
    rw [received_tryParseMessages]
    show side.received ++ delivered ++ rest = input.arrived
    rw [List.append_assoc, ← split, conserved]
  · intro input side world after ended arrived ih conserved
    refine ih ?_
    unfold SocketInput.arrive
    split_ifs
    · exact conserved
    · show side.received ++ (input.unread ++ arrived) = input.arrived ++ arrived
      rw [← List.append_assoc, conserved]

/-- **A read loop ends with nothing unread, or with a full buffer.** It closes a session whose buffer
is not full exactly when the peer has gone away. -/
theorem drained_kernelAnswers :
    maxBufferSize ≤ (readLoop lib handle stale results side world).2.1.buffer.capacity ∨
      (after.unread = [] ∧
        (readLoop lib handle stale results side world).1 = after.hangup.isNone) := by
  refine kernelAnswers_induction lib handle stale
    (motive := fun _ _ _ after ended => maxBufferSize ≤ ended.2.1.buffer.capacity ∨
      (after.unread = [] ∧ ended.1 = after.hangup.isNone)) ?_ ?_ ?_ ?_ doubled drained
  · intro input side world full
    exact .inl full
  · intro input side world _ none
    exact .inr ⟨none, rfl⟩
  · intro input side world after ended delivered rest fits _ ih
    exact ih
  · intro input side world after ended arrived ih
    exact ih

/-- The invariant of the input path, for streams of short lines. -/
theorem tracks_kernelAnswers (tracks : Tracks lib side)
    (bounded : RunsAtMost newline maxRun
      (readLoop lib handle stale results side world).2.1.received) :
    Tracks lib (readLoop lib handle stale results side world).2.1 := by
  have kept : side.received <+: (readLoop lib handle stale results side world).2.1.received ∧
      (Tracks lib side → RunsAtMost newline maxRun
        (readLoop lib handle stale results side world).2.1.received →
        Tracks lib (readLoop lib handle stale results side world).2.1) := by
    refine kernelAnswers_induction lib handle stale
      (motive := fun _ side _ _ ended => side.received <+: ended.2.1.received ∧
        (Tracks lib side → RunsAtMost newline maxRun ended.2.1.received →
          Tracks lib ended.2.1)) ?_ ?_ ?_ ?_ doubled drained
    · intro input side world _
      exact ⟨List.prefix_refl _, fun tracks _ => tracks⟩
    · intro input side world _ _
      exact ⟨List.prefix_refl _, fun tracks bounded => tracks.prepare bounded⟩
    · intro input side world after ended delivered rest fits _ ⟨more, ih⟩
      rw [received_tryParseMessages] at more
      refine ⟨(List.prefix_append _ _).trans more, fun tracks bounded => ih ?_ bounded⟩
      exact tracks.arrive handle fits (bounded.of_infix more.isInfix) world
    · intro input side world after ended arrived ih
      exact ih
  exact kept.2 tracks bounded

/-- What has arrived stays recorded. -/
theorem arrived_kernelAnswers : input.arrived <+: after.arrived := by
  refine kernelAnswers_induction lib handle stale
    (motive := fun input _ _ after _ => input.arrived <+: after.arrived) ?_ ?_ ?_ ?_ doubled drained
  · intro input side world _
    exact List.prefix_refl _
  · intro input side world _ _
    exact List.prefix_refl _
  · intro input side world after ended delivered rest fits _ ih
    exact ih
  · intro input side world after ended arrived ih
    exact (input.arrived_arrive arrived).trans ih

end Loop

/-! ### A session and its socket -/

/-- A session with its socket and the state of its handler. -/
structure Endpoint (σ : Type) where
  input : SocketInput
  session : Session
  state : σ

inductive InputAction where
  | arrives (bytes : Bytes)
  | hangsUp (how : Hangup)
  /-- The socket is reported for another reason: it can be written, or `EPOLL_CTL_MOD` has looked at
  it again. -/
  | rearmed
  /-- `handle_epoll_event`, with what arrives in front of each `::read`. -/
  | handles (stale : Errno) (arrivals : List Bytes)

section Endpoints

variable {σ : Type} (lib : Nlohmann) (handler : MessageHandler σ)

/-- The server handles a report. `on_readable` is called if there is something to read; a session
that it closed is taken out of the `epoll` set. -/
def Endpoint.handle (endpoint : Endpoint σ) (stale : Errno) (arrivals : List Bytes) :
    Option (Endpoint σ) :=
  let input := { endpoint.input with edge := false }
  if input.readable then
    (kernelAnswers lib (handleMessage lib handler) stale arrivals input endpoint.session.side
      (endpoint.session.writeBuffer, endpoint.state)).map fun drained =>
        let handled := endpoint.session.onReadable lib handler stale drained.1 endpoint.state
        ⟨drained.2, handled.2.1, handled.2.2⟩
  else some { endpoint with input }

/-- One action of the peer, the kernel or the server. -/
def endpointStep (endpoint : Endpoint σ) : InputAction → Option (Endpoint σ)
  | .arrives bytes => some { endpoint with input := endpoint.input.arrive bytes }
  | .hangsUp how => some { endpoint with input := endpoint.input.hang how }
  | .rearmed => some { endpoint with input := { endpoint.input with edge := true } }
  | .handles stale arrivals =>
    if endpoint.input.edge = true ∧ endpoint.session.state = .active then
      endpoint.handle lib handler stale arrivals
    else none

/-- A connection after a list of actions. -/
def endpointAfter (fd : Int32) (id : Nat) (state : σ) (actions : List InputAction) :
    Option (Endpoint σ) :=
  run (endpointStep lib handler) ⟨.registered, .create fd id, state⟩ actions

/-! ### No wake-up is lost -/

/-- What holds of a connection between two actions. -/
structure Endpoint.Wakeful (endpoint : Endpoint σ) : Prop where
  doubled : endpoint.session.state = .active → Doubled endpoint.session.side.buffer
  conserved : endpoint.session.side.received ++ endpoint.input.unread = endpoint.input.arrived
  /-- What is unread is about to be reported. -/
  reported : endpoint.session.state = .active → endpoint.input.readable = true →
    endpoint.input.edge = true ∨ maxBufferSize ≤ endpoint.session.side.buffer.capacity
  settled : endpoint.session.state = .active ∨ endpoint.session.state = .closed

theorem wakeful_start (fd : Int32) (id : Nat) (state : σ) :
    Endpoint.Wakeful ⟨.registered, .create fd id, state⟩ where
  doubled _ := ⟨0, by decide, capacity_fresh⟩
  conserved := rfl
  reported _ _ := .inl rfl
  settled := .inl rfl

variable {lib handler}

/-- A report is handled: nothing is there to read, or a whole read loop is run. -/
theorem handle_cases {endpoint after : Endpoint σ} {stale : Errno} {arrivals : List Bytes}
    (active : endpoint.session.state = .active)
    (handled : endpoint.handle lib handler stale arrivals = some after) :
    (endpoint.input.readable = false ∧
      after = { endpoint with input := { endpoint.input with edge := false } }) ∨
    ∃ results, kernelAnswers lib (handleMessage lib handler) stale arrivals
        { endpoint.input with edge := false } endpoint.session.side
        (endpoint.session.writeBuffer, endpoint.state) = some (results, after.input) ∧
      let ended := readLoop lib (handleMessage lib handler) stale results endpoint.session.side
        (endpoint.session.writeBuffer, endpoint.state)
      after.session = Session.finishReading { endpoint.session with
        state := .reading, side := ended.2.1, writeBuffer := ended.2.2.1 } ended.1 := by
  unfold Endpoint.handle at handled
  dsimp only at handled
  split_ifs at handled with readable
  · obtain ⟨⟨results, input⟩, drained, rfl⟩ := Option.map_eq_some_iff.mp handled
    refine .inr ⟨results, drained, ?_⟩
    rw [onReadable_active lib handler active]
  · cases handled
    exact .inl ⟨Bool.eq_false_iff.mpr readable, rfl⟩

/-- **Step: a report.** -/
theorem Endpoint.Wakeful.handle {endpoint after : Endpoint σ} (wakeful : endpoint.Wakeful)
    {stale : Errno} {arrivals : List Bytes} (active : endpoint.session.state = .active)
    (handled : endpoint.handle lib handler stale arrivals = some after) : after.Wakeful := by
  rcases handle_cases active handled with ⟨unreadable, rfl⟩ | ⟨results, drained, session⟩
  · refine ⟨wakeful.doubled, wakeful.conserved, fun _ readable => ?_, wakeful.settled⟩
    exact Bool.noConfusion (unreadable.symm.trans readable)
  · have doubled := wakeful.doubled active
    have conserved := conserved_kernelAnswers doubled drained wakeful.conserved
    have dry := drained_kernelAnswers doubled drained
    have kept := doubled.operated (recorded_readLoop lib (handleMessage lib handler) stale results
      endpoint.session.side (endpoint.session.writeBuffer, endpoint.state)).operates
    generalize readLoop lib (handleMessage lib handler) stale results endpoint.session.side
      (endpoint.session.writeBuffer, endpoint.state) = ended at conserved dry kept session
    have received : after.session.side.received ++ after.input.unread = after.input.arrived := by
      rw [session, (finishReading_side _ _).1]
      exact conserved
    obtain ⟨stays, side, writeBuffer, state⟩ := ended
    cases stays with
    | false =>
      have closed : after.session.state = .closed := by
        rw [session]
        rfl
      have inactive : after.session.state ≠ .active := by
        rw [closed]
        exact SessionState.noConfusion
      exact ⟨fun active => absurd active inactive, received, fun active => absurd active inactive,
        .inr closed⟩
    | true =>
      have sameSide : after.session.side = side := by
        rw [session]
        rfl
      have stillActive : after.session.state = .active := by
        rw [session]
        rfl
      refine ⟨fun _ => sameSide ▸ kept, received, fun _ readable => .inr ?_, .inl stillActive⟩
      rw [sameSide]
      refine dry.resolve_right ?_
      rintro ⟨none, present⟩
      have nobody : after.input.hangup = Option.none := Option.isNone_iff_eq_none.mp present.symm
      rw [SocketInput.readable, none, nobody] at readable
      cases readable

/-- **Step.** -/
theorem Endpoint.Wakeful.step {endpoint after : Endpoint σ} (wakeful : endpoint.Wakeful)
    {action : InputAction} (stepped : endpointStep lib handler endpoint action = some after) :
    after.Wakeful := by
  cases action with
  | arrives bytes =>
    cases stepped
    unfold SocketInput.arrive
    split_ifs
    · exact wakeful
    · refine ⟨wakeful.doubled, ?_, fun _ _ => .inl rfl, wakeful.settled⟩
      show _ ++ (endpoint.input.unread ++ bytes) = endpoint.input.arrived ++ bytes
      rw [← List.append_assoc, wakeful.conserved]
  | hangsUp how =>
    cases stepped
    unfold SocketInput.hang
    split_ifs
    · exact wakeful
    · exact ⟨wakeful.doubled, wakeful.conserved, fun _ _ => .inl rfl, wakeful.settled⟩
  | rearmed =>
    cases stepped
    exact ⟨wakeful.doubled, wakeful.conserved, fun _ _ => .inl rfl, wakeful.settled⟩
  | handles stale arrivals =>
    obtain ⟨⟨-, active⟩, handled⟩ := Option.ite_none_right_eq_some.mp stepped
    exact wakeful.handle active handled

/-- **Run.** -/
theorem wakeful_of_run {fd : Int32} {id : Nat} {state : σ} {actions : List InputAction}
    {endpoint : Endpoint σ} (ran : endpointAfter lib handler fd id state actions = some endpoint) :
    endpoint.Wakeful := by
  refine run_induction (endpointStep lib handler) _ (motive := fun _ endpoint => endpoint.Wakeful)
    (wakeful_start fd id state) ?_ ran
  intro actions action endpoint after _ wakeful stepped
  exact wakeful.step stepped

/-! ### Everything is dispatched -/

variable (lib) in
/-- The input path has followed what it has read; it closes only for a line that stops it, or at the
end of the peer. -/
def Endpoint.Followed (endpoint : Endpoint σ) : Prop :=
  (endpoint.session.state = .active ∧ Tracks lib endpoint.session.side) ∨
    (endpoint.session.state = .closed ∧
      endpoint.session.side.dispatched = requests lib endpoint.session.side.received ∧
      (Stopped newline (heard lib) endpoint.session.side.received ∨
        (endpoint.input.unread = [] ∧ endpoint.input.hangup.isSome = true)))

theorem Endpoint.Wakeful.received_within {endpoint : Endpoint σ} (wakeful : endpoint.Wakeful) :
    endpoint.session.side.received <:+: endpoint.input.arrived := by
  rw [← wakeful.conserved]
  exact (List.prefix_append _ _).isInfix

/-- **Step: a report.** -/
theorem Endpoint.Followed.handle {endpoint after : Endpoint σ} (wakeful : endpoint.Wakeful)
    (tracks : Tracks lib endpoint.session.side) {stale : Errno} {arrivals : List Bytes}
    (active : endpoint.session.state = .active)
    (handled : endpoint.handle lib handler stale arrivals = some after)
    (bounded : RunsAtMost newline maxRun after.input.arrived) : after.Followed lib := by
  have within := bounded.of_infix (wakeful.handle active handled).received_within
  rcases handle_cases active handled with ⟨-, rfl⟩ | ⟨results, drained, session⟩
  · exact .inl ⟨active, tracks⟩
  · have doubled := wakeful.doubled active
    rw [session, (finishReading_side _ _).1] at within
    have kept := tracks_kernelAnswers doubled drained tracks within
    have dry := drained_kernelAnswers doubled drained
    generalize readLoop lib (handleMessage lib handler) stale results endpoint.session.side
      (endpoint.session.writeBuffer, endpoint.state) = ended at dry kept session
    obtain ⟨stays, side, writeBuffer, state⟩ := ended
    unfold Endpoint.Followed
    rw [session]
    cases stays with
    | true => exact .inl ⟨rfl, kept⟩
    | false =>
      refine .inr ⟨rfl, kept.dispatched, ?_⟩
      rcases dry with full | ⟨none, gone⟩
      · exact .inl (kept.room.stopped_of_full full)
      · exact .inr ⟨none, Option.isSome_iff_ne_none.mpr fun nobody => by simp [nobody] at gone⟩

/-- What has arrived is not forgotten. -/
theorem arrived_of_step {endpoint after : Endpoint σ} (wakeful : endpoint.Wakeful)
    {action : InputAction} (stepped : endpointStep lib handler endpoint action = some after) :
    endpoint.input.arrived <+: after.input.arrived := by
  cases action with
  | arrives bytes =>
    cases stepped
    exact endpoint.input.arrived_arrive bytes
  | hangsUp how =>
    cases stepped
    show _ <+: (endpoint.input.hang how).arrived
    unfold SocketInput.hang
    split_ifs <;> exact List.prefix_refl _
  | rearmed =>
    cases stepped
    exact List.prefix_refl _
  | handles stale arrivals =>
    obtain ⟨⟨-, active⟩, handled⟩ := Option.ite_none_right_eq_some.mp stepped
    rcases handle_cases active handled with ⟨-, rfl⟩ | ⟨results, drained, -⟩
    · exact List.prefix_refl _
    · have more := arrived_kernelAnswers (wakeful.doubled active) drained
      exact more

/-- **Step.** -/
theorem Endpoint.Followed.step {endpoint after : Endpoint σ} (wakeful : endpoint.Wakeful)
    (followed : endpoint.Followed lib) {action : InputAction}
    (stepped : endpointStep lib handler endpoint action = some after)
    (bounded : RunsAtMost newline maxRun after.input.arrived) : after.Followed lib := by
  cases action with
  | arrives bytes =>
    cases stepped
    unfold Endpoint.Followed SocketInput.arrive
    split_ifs with nothing
    · exact followed
    · refine followed.imp_right fun ⟨closed, dispatched, ended⟩ => ⟨closed, dispatched, .inl ?_⟩
      refine ended.resolve_right fun both => nothing (.inr both.2)
  | hangsUp how =>
    cases stepped
    unfold Endpoint.Followed SocketInput.hang
    split_ifs
    · exact followed
    · exact followed.imp_right fun ⟨closed, dispatched, ended⟩ =>
        ⟨closed, dispatched, ended.imp_right fun both => ⟨both.1, rfl⟩⟩
  | rearmed =>
    cases stepped
    exact followed
  | handles stale arrivals =>
    obtain ⟨⟨-, active⟩, handled⟩ := Option.ite_none_right_eq_some.mp stepped
    rcases followed with ⟨-, tracks⟩ | ⟨closed, -⟩
    · exact Endpoint.Followed.handle wakeful tracks active handled bounded
    · rw [active] at closed
      cases closed

/-- **Run.** -/
theorem followed_of_run {fd : Int32} {id : Nat} {state : σ} {actions : List InputAction}
    {endpoint : Endpoint σ} (ran : endpointAfter lib handler fd id state actions = some endpoint)
    (bounded : RunsAtMost newline maxRun endpoint.input.arrived) : endpoint.Followed lib := by
  refine run_induction (endpointStep lib handler) _
    (motive := fun _ endpoint => RunsAtMost newline maxRun endpoint.input.arrived →
      endpoint.Followed lib) (fun _ => .inl ⟨rfl, tracks_fresh lib⟩) ?_ ran bounded
  intro actions action endpoint after ranBefore followed stepped bounded
  have wakeful := wakeful_of_run ranBefore
  have before := bounded.of_infix (arrived_of_step wakeful stepped).isInfix
  exact Endpoint.Followed.step wakeful (followed before) stepped bounded

/-- A connection without anything to report has dispatched what has arrived. -/
theorem Endpoint.Followed.dispatched {endpoint : Endpoint σ} (wakeful : endpoint.Wakeful)
    (followed : endpoint.Followed lib)
    (quiet : endpoint.input.edge = false ∨ endpoint.session.state = .closed) :
    endpoint.session.side.dispatched = requests lib endpoint.input.arrived := by
  have stopped : Stopped newline (heard lib) endpoint.session.side.received →
      requests lib endpoint.session.side.received = requests lib endpoint.input.arrived := by
    intro stopped
    rw [← wakeful.conserved, requests, requests, stopped.accepted_append]
  have drained : endpoint.input.unread = [] →
      requests lib endpoint.session.side.received = requests lib endpoint.input.arrived := by
    intro none
    rw [← wakeful.conserved, none, List.append_nil]
  rcases followed with ⟨active, tracks⟩ | ⟨-, dispatched, ended⟩
  · rw [tracks.dispatched]
    by_cases none : endpoint.input.unread = []
    · exact drained none
    · have readable : endpoint.input.readable = true := by
        simp [SocketInput.readable, none]
      have silent : endpoint.input.edge = false :=
        quiet.resolve_right fun closed => by rw [active] at closed; cases closed
      refine stopped (tracks.room.stopped_of_full ?_)
      exact (wakeful.reported active readable).resolve_left fun edge => by
        rw [silent] at edge; cases edge
  · rw [dispatched]
    exact ended.elim stopped fun both => drained both.1

/-- A request on a line of its own. -/
def oneCall : Bytes := ascii "\x7b\"method\":\"a\"\x7d\n"

variable (lib handler) in
/-- **When nothing is to be reported, all that is heard is dispatched.** In every run in which
newline-free runs have at most 523264 bytes, a session that is closed, or whose socket is not about
to be reported, has dispatched the requests on the complete lines that have arrived, up to the first
one for which the parser gives nothing: a blank or rejected line hides what follows. -/
theorem quiet_dispatched (fd : Int32) (id : Nat) (state : σ) (actions : List InputAction)
    (endpoint : Endpoint σ) (ran : endpointAfter lib handler fd id state actions = some endpoint)
    (bounded : RunsAtMost newline maxRun endpoint.input.arrived)
    (quiet : endpoint.input.edge = false ∨ endpoint.session.state = .closed) :
    endpoint.session.side.dispatched = requests lib endpoint.input.arrived :=
  (followed_of_run ran bounded).dispatched (wakeful_of_run ran) quiet

theorem quiet_dispatched_one_call :
    ∃ endpoint, endpointAfter compact quietHandler 7 1 ()
        [.arrives oneCall, .handles .again [[], []]] = some endpoint ∧
      endpoint.session.side.dispatched = requests compact endpoint.input.arrived := by
  have reached : (endpointAfter compact quietHandler 7 1 ()
      [.arrives oneCall, .handles .again [[], []]]).map
        (fun endpoint => (endpoint.input.arrived, endpoint.input.edge)) = some (oneCall, false) := by
    decide +kernel
  obtain ⟨endpoint, ran, same⟩ := Option.map_eq_some_iff.mp reached
  obtain ⟨arrived, silent⟩ := Prod.mk.inj same
  refine ⟨endpoint, ran,
    quiet_dispatched compact quietHandler 7 1 () _ endpoint ran ?_ (.inl silent)⟩
  rw [arrived]
  exact .of_length_le (by decide)

variable (lib handler) in
/-- **One report is enough.** After every such run, if the session is open and the server handles a
report while nothing arrives, the call of `on_readable` ends, and the requests on the complete lines
that have arrived are dispatched, up to the first one for which the parser gives nothing. -/
theorem event_dispatches_all (fd : Int32) (id : Nat) (state : σ) (actions : List InputAction)
    (endpoint : Endpoint σ) (ran : endpointAfter lib handler fd id state actions = some endpoint)
    (bounded : RunsAtMost newline maxRun endpoint.input.arrived)
    (active : endpoint.session.state = .active) (edge : endpoint.input.edge = true)
    (stale : Errno) :
    ∃ after, endpointStep lib handler endpoint (.handles stale
        (List.replicate (endpoint.input.unread.length + 1) [])) = some after ∧
      after.input.arrived = endpoint.input.arrived ∧ after.input.edge = false ∧
      after.session.side.dispatched = requests lib endpoint.input.arrived := by
  have wakeful := wakeful_of_run ran
  obtain ⟨after, handled, arrived, silent⟩ : ∃ after, endpoint.handle lib handler stale
      (List.replicate (endpoint.input.unread.length + 1) []) = some after ∧
      after.input.arrived = endpoint.input.arrived ∧ after.input.edge = false := by
    unfold Endpoint.handle
    dsimp only
    split_ifs
    · obtain ⟨results, left, drained⟩ := exists_kernelAnswers lib (handleMessage lib handler) stale
        { endpoint.input with edge := false } (wakeful.doubled active)
        (endpoint.session.writeBuffer, endpoint.state) (Nat.le_refl _)
      exact ⟨_, Option.map_eq_some_iff.mpr ⟨_, drained, rfl⟩, rfl, rfl⟩
    · exact ⟨_, rfl, rfl, rfl⟩
  have stepped : endpointStep lib handler endpoint (.handles stale
      (List.replicate (endpoint.input.unread.length + 1) [])) = some after :=
    Option.ite_none_right_eq_some.mpr ⟨⟨edge, active⟩, handled⟩
  refine ⟨after, stepped, arrived, silent, ?_⟩
  have further : endpointAfter lib handler fd id state (actions ++ [_]) = some after :=
    (run_concat_iff _ _).mpr ⟨endpoint, ran, stepped⟩
  rw [← arrived] at bounded ⊢
  exact (followed_of_run further bounded).dispatched (wakeful_of_run further) (.inl silent)

theorem event_dispatches_one_call :
    ∃ endpoint after, endpointAfter compact quietHandler 7 1 () [.arrives oneCall] = some endpoint ∧
      endpointStep compact quietHandler endpoint (.handles .other
        (List.replicate (endpoint.input.unread.length + 1) [])) = some after ∧
      after.session.side.dispatched = requests compact oneCall := by
  obtain ⟨after, stepped, -, -, dispatched⟩ := event_dispatches_all compact quietHandler 7 1 ()
    [.arrives oneCall] _ rfl (RunsAtMost.of_length_le (by decide)) rfl rfl .other
  exact ⟨_, after, rfl, stepped, dispatched⟩

end Endpoints

end DemoDaemon.Ipc
