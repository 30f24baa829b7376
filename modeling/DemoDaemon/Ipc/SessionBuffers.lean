/-
**What a session does to its buffers.**

Each function of a session is a sequence of operations on its two buffers. They are recorded here,
call by call, with the bytes and the counts of the call.

* `Operates`: such a sequence, each operation within what the buffer offers. **`Operates.steps`**:
  on the buffers without their invariant it goes through, and beside it the queue takes exactly the
  bytes and the counts of the record.
* `Round.ops`, `callOps`, `historyOps`: the records of a round of the read loop, of a call and of
  all that is done with a session; `historyOutgoing`: the messages that were scheduled.
* **`recorded_readLoop`**, **`recorded_call`**, **`recorded_history`**: the buffers are what the
  recorded operations leave, and the recorded bytes are those received and those scheduled.
* **`session_buffers_refine_queue`**: so both buffers of a session refine a queue of bytes.
-/

import DemoDaemon.Ipc.BufferQueue
import DemoDaemon.Ipc.SessionOutput

namespace DemoDaemon.Ipc

open Foundation

/-! ### Operations within what is offered -/

/-- The operation is cut nowhere: `::read` delivers no more than there is room for, and no more is
consumed than there is. -/
def BufferOp.Fits (buffer : IOBuffer) : BufferOp → Prop
  | .read bytes => bytes.length ≤ buffer.availableForWrite
  | .consume count => count ≤ buffer.availableForRead
  | _ => True

theorem BufferOp.Fits.cut {buffer : IOBuffer} {op : BufferOp} (fits : op.Fits buffer) :
    op.cut buffer = op := by
  cases op with
  | read bytes => exact congrArg BufferOp.read (List.take_of_length_le fits)
  | consume count =>
    rw [BufferOp.cut, IOBuffer.length_pending]
    exact congrArg BufferOp.consume (Nat.min_eq_left fits)
  | grow | compact | append | clear => rfl

/-- The operations on the read buffer. -/
def BufferOp.reads : BufferOp → Bool
  | .append _ => false
  | _ => true

/-- The operations on the write buffer. -/
def BufferOp.writes : BufferOp → Bool
  | .append _ => true
  | .consume _ => true
  | .clear => true
  | _ => false

/-- The bytes an operation adds. -/
def BufferOp.bytes : BufferOp → Bytes
  | .read bytes => bytes
  | .append text => text ++ [newline]
  | _ => []

/-- Operations of one kind, each within what it is offered, lead from one buffer to another. -/
inductive Operates (kind : BufferOp → Bool) : IOBuffer → List BufferOp → IOBuffer → Prop
  | nil (buffer : IOBuffer) : Operates kind buffer [] buffer
  | cons {buffer final : IOBuffer} {op : BufferOp} {ops : List BufferOp} (used : kind op = true)
      (fits : op.Fits buffer) (rest : Operates kind (buffer.apply op) ops final) :
      Operates kind buffer (op :: ops) final

namespace Operates

variable {kind : BufferOp → Bool} {buffer between final : IOBuffer} {ops later : List BufferOp}

theorem single {op : BufferOp} (used : kind op = true) (fits : op.Fits buffer) :
    Operates kind buffer [op] (buffer.apply op) :=
  .cons used fits (.nil _)

theorem append (first : Operates kind buffer ops between)
    (second : Operates kind between later final) : Operates kind buffer (ops ++ later) final := by
  induction first with
  | nil => exact second
  | cons used fits _ ih => exact .cons used fits (ih second)

/-- What every operation of the kind keeps, the sequence keeps. -/
theorem keeps {holds : IOBuffer → Prop} (operates : Operates kind buffer ops final)
    (step : ∀ (buffer : IOBuffer) (op : BufferOp), kind op = true → holds buffer →
      holds (buffer.apply op)) (start : holds buffer) : holds final := by
  induction operates with
  | nil => exact start
  | cons used _ _ ih => exact ih (step _ _ used start)

/-- **Run.** Without their invariant the buffers go the same way, and the queue takes the bytes and
the counts of the operations. -/
theorem steps (operates : Operates kind buffer ops final) {queue : ByteQueue}
    (agrees : Agrees buffer queue) :
    ops.foldlM bufferStep (buffer.raw, queue) = .ok (final.raw, ops.foldl ByteQueue.apply queue) ∧
      Agrees final (ops.foldl ByteQueue.apply queue) := by
  induction operates generalizing queue with
  | nil => exact ⟨rfl, agrees⟩
  | cons _ fits _ ih =>
    obtain ⟨stepped, kept⟩ := bufferStep_raw agrees _
    rw [fits.cut] at stepped kept
    obtain ⟨ran, ends⟩ := ih kept
    refine ⟨?_, ends⟩
    rw [List.foldlM_cons, stepped]
    exact ran

end Operates

/-! ### The input path -/

theorem IOBuffer.apply_consume {buffer : IOBuffer} {count : Nat}
    (enough : count ≤ buffer.availableForRead) :
    buffer.apply (.consume count) = (buffer.advanceRead count enough).compact := by
  have whole : min count buffer.pending.length = count := by
    rw [length_pending]
    exact Nat.min_eq_left enough
  simp only [apply, whole]

theorem IOBuffer.apply_read {buffer : IOBuffer} {bytes : Bytes}
    (fits : bytes.length ≤ buffer.availableForWrite) :
    buffer.apply (.read bytes) = buffer.fill bytes fits := by
  have whole : bytes.take buffer.availableForWrite = bytes := List.take_of_length_le fits
  simp only [apply, whole]

/-- The operations of `prepared`. -/
def prepareOps (buffer : IOBuffer) : List BufferOp :=
  if 0 < buffer.readPos ∧ 0 < buffer.availableForRead then [.compact, .grow] else [.grow]

theorem operates_prepared (buffer : IOBuffer) :
    Operates BufferOp.reads buffer (prepareOps buffer) (prepared buffer) := by
  rw [prepareOps, IOBuffer.prepared_eq]
  split_ifs
  · exact .cons rfl trivial (.single rfl trivial)
  · exact .single rfl trivial

section Reading

variable (lib : Nlohmann)

/-- The operations of `tryParseMessages`: the counts are what the parser consumes. -/
def parseOps : Nat → IOBuffer → List BufferOp
  | 0, _ => []
  | fuel + 1, buffer =>
    let result := tryParse lib defaultMaxMessageSize buffer.pending
    match result.1 with
    | none => []
    | some _ => .consume result.2 :: parseOps fuel (buffer.apply (.consume result.2))

/-- The operations of a round: nothing when the buffer is full, and otherwise `prepared`, then the
bytes that `::read` delivers and the parse loop over them. -/
def Round.ops (round : Round) : List BufferOp :=
  if round.Overflows then []
  else prepareOps round.before.buffer ++
    match round.answer with
    | .failed _ => []
    | .data bytes =>
      let buffer := prepared round.before.buffer
      let delivered := bytes.take buffer.availableForWrite
      if delivered.isEmpty then []
      else
        let filled := buffer.fill delivered (List.length_take_le _ _)
        .read delivered :: parseOps lib (filled.availableForRead + 1) filled

variable {ω : Type} (handle : ω → RequestMessage → ω)

theorem operates_tryParseMessages (fuel : Nat) (side : ReadSide) (world : ω) :
    Operates BufferOp.reads side.buffer (parseOps lib fuel side.buffer)
      (tryParseMessages lib handle fuel side world).1.buffer := by
  induction fuel generalizing side world with
  | zero => exact .nil _
  | succ fuel ih =>
    have enough : (tryParse lib defaultMaxMessageSize side.buffer.pending).2
        ≤ side.buffer.availableForRead := by
      rw [← IOBuffer.length_pending]
      exact tryParse_consumed_le lib defaultMaxMessageSize side.buffer.pending
    rw [parseOps, tryParseMessages]
    cases (tryParse lib defaultMaxMessageSize side.buffer.pending).1 with
    | none => exact .nil _
    | some message =>
      refine .cons rfl enough ?_
      rw [IOBuffer.apply_consume enough]
      exact ih { side with buffer := _, dispatched := _ } _

theorem bytes_parseOps (fuel : Nat) (buffer : IOBuffer) :
    (parseOps lib fuel buffer).flatMap BufferOp.bytes = [] := by
  induction fuel generalizing buffer with
  | zero => rfl
  | succ fuel ih =>
    rw [parseOps]
    cases (tryParse lib defaultMaxMessageSize buffer.pending).1 with
    | none => rfl
    | some message => exact ih _

theorem bytes_prepareOps (buffer : IOBuffer) :
    (prepareOps buffer).flatMap BufferOp.bytes = [] := by
  rw [prepareOps]
  split_ifs <;> rfl

/-- A read loop, by its rounds: their operations lead from its first buffer to its last, and to the
buffer of each of them; and their bytes are those it has received. -/
structure LoopRecorded (side ended : ReadSide) (trace : List Round) : Prop where
  operates : Operates BufferOp.reads side.buffer (trace.flatMap (Round.ops lib)) ended.buffer
  received : ended.received
    = side.received ++ (trace.flatMap (Round.ops lib)).flatMap BufferOp.bytes
  rounds : ∀ round ∈ trace, ∃ ops, Operates BufferOp.reads side.buffer ops round.before.buffer

/-- The last round of a loop, in which nothing is delivered. -/
theorem loopRecorded_last (round : Round) {buffer : IOBuffer}
    (operates : Operates BufferOp.reads round.before.buffer (round.ops lib) buffer)
    (quiet : (round.ops lib).flatMap BufferOp.bytes = []) :
    LoopRecorded lib round.before { round.before with buffer } [round] := by
  refine ⟨?_, ?_, List.forall_mem_singleton.mpr ⟨[], .nil _⟩⟩
  · rw [List.flatMap_singleton]
    exact operates
  · rw [List.flatMap_singleton, quiet, List.append_nil]

/-- A full buffer is left as it is. -/
theorem loopRecorded_full {side : ReadSide} (full : maxBufferSize ≤ side.buffer.capacity)
    (stale : Errno) (answer : ReadResult) : LoopRecorded lib side side [⟨stale, side, answer⟩] := by
  have none : Round.ops lib ⟨stale, side, answer⟩ = [] := if_pos full
  refine loopRecorded_last lib ⟨stale, side, answer⟩ ?_ ?_
  · rw [none]
    exact .nil _
  · rw [none]
    rfl

/-- In the last round `::read` fails or meets the end of the stream. -/
theorem loopRecorded_nothing {side : ReadSide} (notFull : ¬ maxBufferSize ≤ side.buffer.capacity)
    (stale : Errno) {answer : ReadResult} (nothing : ∀ bytes, answer = .data bytes →
      bytes.take (prepared side.buffer).availableForWrite = []) :
    LoopRecorded lib side { side with buffer := prepared side.buffer } [⟨stale, side, answer⟩] := by
  have ops : Round.ops lib ⟨stale, side, answer⟩ = prepareOps side.buffer := by
    rw [Round.ops, if_neg (show ¬ Round.Overflows ⟨stale, side, answer⟩ from notFull)]
    cases answer with
    | failed errno => exact List.append_nil _
    | data bytes =>
      dsimp only
      rw [if_pos (List.isEmpty_iff.mpr (nothing bytes rfl)), List.append_nil]
  refine loopRecorded_last lib ⟨stale, side, answer⟩ ?_ ?_
  · rw [ops]
    exact operates_prepared side.buffer
  · rw [ops, bytes_prepareOps]

/-- A round that delivers bytes, before the loop goes on. -/
theorem loopRecorded_data {side : ReadSide} (notFull : ¬ maxBufferSize ≤ side.buffer.capacity)
    (stale : Errno) {bytes : Bytes} (world : ω) {ended : ReadSide} {trace : List Round}
    (some : bytes.take (prepared side.buffer).availableForWrite ≠ [])
    (recorded :
      let delivered := bytes.take (prepared side.buffer).availableForWrite
      let filled := (prepared side.buffer).fill delivered (List.length_take_le _ _)
      let parsed := tryParseMessages lib handle (filled.availableForRead + 1)
        { side with buffer := filled, received := side.received ++ delivered } world
      LoopRecorded lib parsed.1 ended trace) :
    LoopRecorded lib side ended (⟨stale, side, .data bytes⟩ :: trace) := by
  let delivered := bytes.take (prepared side.buffer).availableForWrite
  have fits : delivered.length ≤ (prepared side.buffer).availableForWrite :=
    List.length_take_le _ _
  let filled : ReadSide :=
    { side with buffer := (prepared side.buffer).fill delivered fits
                received := side.received ++ delivered }
  have ops : Round.ops lib ⟨stale, side, .data bytes⟩ = prepareOps side.buffer ++
      .read delivered :: parseOps lib (filled.buffer.availableForRead + 1) filled.buffer := by
    rw [Round.ops, if_neg (show ¬ Round.Overflows ⟨stale, side, .data bytes⟩ from notFull)]
    dsimp only
    rw [if_neg (mt List.isEmpty_iff.mp some)]
  have leads : Operates BufferOp.reads side.buffer (Round.ops lib ⟨stale, side, .data bytes⟩)
      (tryParseMessages lib handle (filled.buffer.availableForRead + 1) filled world).1.buffer := by
    rw [ops]
    refine (operates_prepared _).append (.cons rfl fits ?_)
    rw [IOBuffer.apply_read fits]
    exact operates_tryParseMessages lib handle _ filled world
  -- only `::read` adds bytes: the parse loop behind it consumes
  have added : (Round.ops lib ⟨stale, side, .data bytes⟩).flatMap BufferOp.bytes = delivered := by
    rw [ops, List.flatMap_append, bytes_prepareOps, List.nil_append, List.flatMap_cons,
      bytes_parseOps, List.append_nil]
    rfl
  refine ⟨?_, ?_, ?_⟩
  · rw [List.flatMap_cons]
    exact leads.append recorded.operates
  · rw [recorded.received, received_tryParseMessages, List.flatMap_cons, List.flatMap_append, added,
      List.append_assoc]
  · refine List.forall_mem_cons.mpr ⟨⟨[], .nil _⟩, fun other listed => ?_⟩
    obtain ⟨later, continues⟩ := recorded.rounds other listed
    exact ⟨_, leads.append continues⟩

/-- **Run.** The read loop is recorded by its rounds. -/
theorem recorded_readLoop (stale : Errno) (results : List ReadResult) (side : ReadSide)
    (world : ω) :
    LoopRecorded lib side (readLoop lib handle stale results side world).2.1
      (rounds lib handle stale results side world) := by
  induction results generalizing side world with
  | nil =>
    by_cases full : maxBufferSize ≤ side.buffer.capacity
    · rw [readLoop_full lib handle stale full]
      exact loopRecorded_full lib full stale _
    · rw [readLoop_nil lib handle stale full]
      exact loopRecorded_nothing lib full stale fun _ same => by cases same
  | cons result results ih =>
    by_cases full : maxBufferSize ≤ side.buffer.capacity
    · rw [readLoop_full lib handle stale full, rounds_full lib handle stale full]
      exact loopRecorded_full lib full stale _
    cases result with
    | failed errno =>
      rw [readLoop_failed lib handle stale full, rounds_failed lib handle stale full]
      exact loopRecorded_nothing lib full stale fun _ same => by cases same
    | data bytes =>
      by_cases none : bytes.take (prepared side.buffer).availableForWrite = []
      · rw [readLoop_end lib handle stale full none, rounds_end lib handle stale full none]
        refine loopRecorded_nothing lib full stale ?_
        rintro other ⟨⟩
        exact none
      · rw [readLoop_data lib handle stale full none, rounds_data lib handle stale full none]
        exact loopRecorded_data lib handle full stale world none (ih _ _)

end Reading

/-! ### The output path -/

section Writing

variable (lib : Nlohmann)

/-- The operations of `enqueue`. -/
def enqueueOps (message : Outgoing) : List BufferOp :=
  match serialize lib message.message with
  | .error _ => []
  | .ok json => if json.isEmpty then [] else [.append json]

theorem operates_enqueue (message : Outgoing) (buffer : IOBuffer) :
    Operates BufferOp.writes buffer (enqueueOps lib message)
      ((enqueue lib buffer message.message).toOption.getD buffer) := by
  unfold enqueueOps enqueue
  cases serialize lib message.message with
  | error error => exact .nil _
  | ok json =>
    dsimp only
    split_ifs
    · exact .nil _
    · exact .single rfl trivial

theorem operates_enqueueAll (outgoing : List Outgoing) (buffer : IOBuffer) :
    Operates BufferOp.writes buffer (outgoing.flatMap (enqueueOps lib))
      (enqueueAll lib buffer outgoing) := by
  induction outgoing generalizing buffer with
  | nil => exact .nil _
  | cons message outgoing ih => exact (operates_enqueue lib message buffer).append (ih _)

/-- The bytes of these operations are those that the messages add. -/
theorem bytes_enqueueOps (outgoing : List Outgoing) :
    (outgoing.flatMap (enqueueOps lib)).flatMap BufferOp.bytes = scheduled lib outgoing := by
  induction outgoing with
  | nil => rfl
  | cons message outgoing ih =>
    rw [scheduled, List.flatMap_cons, List.flatMap_cons, List.flatMap_append, ih, scheduled]
    congr 1
    unfold enqueueOps
    cases written : serialize lib message.message with
    | error error => rfl
    | ok json =>
      dsimp only
      rw [isEmpty_serialize lib written]
      exact List.append_nil _

/-- The operations of `writeLoop`: the counts are what `::write` takes. -/
def writeOps : List WriteResult → IOBuffer → List BufferOp
  | .wrote count :: results, buffer =>
    let taken := min count buffer.availableForRead
    if taken = 0 then [] else .consume taken :: writeOps results (buffer.apply (.consume taken))
  | _, _ => []

theorem operates_writeLoop (stale : Errno) (results : List WriteResult) (buffer : IOBuffer)
    (attempts : List WriteResult) :
    Operates BufferOp.writes buffer (writeOps results buffer)
      (writeLoop stale results buffer attempts).2.1 := by
  induction results generalizing buffer attempts with
  | nil =>
    unfold writeLoop
    split_ifs <;> exact .nil _
  | cons result results ih =>
    rw [writeLoop.eq_def]
    dsimp only
    by_cases drained : buffer.availableForRead = 0
    · rw [dif_pos drained]
      cases result with
      | failed errno => exact .nil _
      | wrote count =>
        rw [writeOps, drained, Nat.min_zero]
        exact .nil _
    · rw [dif_neg drained]
      cases result with
      | failed errno => exact .nil _
      | wrote count =>
        have enough : min count buffer.availableForRead ≤ buffer.availableForRead :=
          Nat.min_le_right _ _
        rw [writeOps]
        dsimp only
        by_cases nothing : min count buffer.availableForRead = 0
        · rw [if_pos nothing, if_pos nothing]
          exact .nil _
        · rw [if_neg nothing, if_neg nothing]
          refine .cons rfl enough ?_
          rw [IOBuffer.apply_consume enough]
          exact ih _ _

theorem bytes_writeOps (results : List WriteResult) (buffer : IOBuffer) :
    (writeOps results buffer).flatMap BufferOp.bytes = [] := by
  induction results generalizing buffer with
  | nil => rfl
  | cons result results ih =>
    cases result with
    | failed errno => rfl
    | wrote count =>
      rw [writeOps]
      split_ifs
      · rfl
      · exact ih _

end Writing

/-! ### The calls of a session -/

/-- Operations on the two buffers of a session. -/
structure CallOps where
  reads : List BufferOp
  writes : List BufferOp

/-- One thing that is done with a session: a call of the server, or `close()`. -/
inductive SessionOp where
  | call (action : Call)
  | close

section Calls

variable {σ : Type} (lib : Nlohmann) (handler : MessageHandler σ)

def sessionOp (world : Session × σ) : SessionOp → Session × σ
  | .call action => call lib handler world action
  | .close => (world.1.close, world.2)

/-- The messages that the handler schedules for a list of requests. -/
def answersTo : List RequestMessage → σ → List Outgoing
  | [], _ => []
  | request :: requests, state =>
    (handler state request).1 ++ answersTo requests (handler state request).2

/-- The messages that are scheduled in a call: one, or those for the requests it dispatches. -/
def callOutgoing (world : Session × σ) (action : Call) : List Outgoing :=
  match action with
  | .onReadable _ => answersTo handler ((call lib handler world action).1.side.dispatched.drop
      world.1.side.dispatched.length) world.2
  | .schedule message => [message]
  | _ => []

/-- The operations of a call. One that closes the session ends with a `clear` of both buffers. -/
def callOps (world : Session × σ) (action : Call) : CallOps :=
  match action with
  | .onReadable event =>
    match world.1.beginReading with
    | none => ⟨[], []⟩
    | some _ =>
      let closes :=
        if (world.1.onReadable lib handler event.stale event.results world.2).1 then []
        else [.clear]
      ⟨(world.1.readRounds lib handler event world.2).flatMap (Round.ops lib) ++ closes,
        (callOutgoing lib handler world action).flatMap (enqueueOps lib) ++ closes⟩
  | .schedule message => ⟨[], enqueueOps lib message⟩
  | .onWritable stale results =>
    if world.1.state ≠ .writing then ⟨[], []⟩
    else
      let closes := if (world.1.onWritable stale results).1 then [] else [.clear]
      ⟨closes, writeOps results world.1.writeBuffer ++ closes⟩
  | .initializeSession _ _ => ⟨[], []⟩

/-- The operations of `close`. -/
def closeOps (session : Session) : CallOps :=
  if session.state = .closed ∨ session.state = .closing then ⟨[], []⟩ else ⟨[.clear], [.clear]⟩

/-- The messages scheduled in a history of a session. -/
def historyOutgoing : List SessionOp → Session × σ → List Outgoing
  | [], _ => []
  | op :: history, world =>
    let first := match op with
      | .call action => callOutgoing lib handler world action
      | .close => []
    first ++ historyOutgoing history (sessionOp lib handler world op)

/-- The operations of a history. -/
def historyOps : List SessionOp → Session × σ → CallOps
  | [], _ => ⟨[], []⟩
  | op :: history, world =>
    let first := match op with
      | .call action => callOps lib handler world action
      | .close => closeOps world.1
    let rest := historyOps history (sessionOp lib handler world op)
    ⟨first.reads ++ rest.reads, first.writes ++ rest.writes⟩

theorem foldl_handleMessage (requests : List RequestMessage) (world : IOBuffer × σ) :
    (requests.foldl (handleMessage lib handler) world).1
      = enqueueAll lib world.1 (answersTo handler requests world.2) := by
  induction requests generalizing world with
  | nil => rfl
  | cons request requests ih =>
    rw [List.foldl_cons, ih, answersTo, enqueueAll, enqueueAll, List.foldl_append]
    rfl

/-- The buffers of a session before and after such operations: these lead from the first to the
second, and their bytes are those received in between and those of the messages scheduled. -/
structure CallRecorded (before after : Session) (ops : CallOps) (outgoing : List Outgoing) :
    Prop where
  reads : Operates BufferOp.reads before.side.buffer ops.reads after.side.buffer
  writes : Operates BufferOp.writes before.writeBuffer ops.writes after.writeBuffer
  received : after.side.received = before.side.received ++ ops.reads.flatMap BufferOp.bytes
  scheduled : ops.writes.flatMap BufferOp.bytes = scheduled lib outgoing

variable {lib} in
theorem CallRecorded.trans {before between after : Session} {first second : CallOps}
    {outgoing later : List Outgoing} (early : CallRecorded lib before between first outgoing)
    (late : CallRecorded lib between after second later) :
    CallRecorded lib before after ⟨first.reads ++ second.reads, first.writes ++ second.writes⟩
      (outgoing ++ later) := by
  refine ⟨early.reads.append late.reads, early.writes.append late.writes, ?_, ?_⟩
  · rw [late.received, early.received, List.append_assoc, List.flatMap_append]
  · rw [List.flatMap_append, early.scheduled, late.scheduled, Ipc.scheduled, Ipc.scheduled,
      Ipc.scheduled, List.flatMap_append]

/-- A call that does nothing to the buffers. -/
theorem recorded_nothing {before after : Session} (side : after.side = before.side)
    (write : after.writeBuffer = before.writeBuffer) :
    CallRecorded lib before after ⟨[], []⟩ [] := by
  refine ⟨?_, ?_, ?_, rfl⟩
  · rw [side]
    exact .nil _
  · rw [write]
    exact .nil _
  · rw [side]
    exact (List.append_nil _).symm

theorem recorded_close (session : Session) :
    CallRecorded lib session session.close (closeOps session) [] := by
  unfold closeOps Session.close
  split_ifs
  · exact recorded_nothing lib rfl rfl
  · exact ⟨.single rfl trivial, .single rfl trivial, (List.append_nil _).symm, rfl⟩

theorem closeOps_of_open {session : Session}
    (opened : ¬ (session.state = .closed ∨ session.state = .closing)) :
    closeOps session = ⟨[.clear], [.clear]⟩ :=
  if_neg opened

/-- A read loop, and the messages its handler schedules. -/
theorem recorded_loop (session : Session) (event : ReadEvent) (state : σ) :
    let ended := readLoop lib (handleMessage lib handler) event.stale event.results session.side
      (session.writeBuffer, state)
    let outgoing := answersTo handler
      (ended.2.1.dispatched.drop session.side.dispatched.length) state
    CallRecorded lib session
      { session with state := .reading, side := ended.2.1, writeBuffer := ended.2.2.1 }
      ⟨(rounds lib (handleMessage lib handler) event.stale event.results session.side
        (session.writeBuffer, state)).flatMap (Round.ops lib), outgoing.flatMap (enqueueOps lib)⟩
      outgoing := by
  intro ended outgoing
  have recorded := recorded_readLoop lib (handleMessage lib handler) event.stale event.results
    session.side (session.writeBuffer, state)
  obtain ⟨asked, dispatched, handled⟩ := readLoop_dispatched lib (handleMessage lib handler)
    event.stale event.results session.side (session.writeBuffer, state)
  have all : outgoing = answersTo handler asked state := by
    have own : ended.2.1.dispatched = session.side.dispatched ++ asked := dispatched
    show answersTo handler (ended.2.1.dispatched.drop session.side.dispatched.length) state = _
    rw [own, List.drop_left]
  refine ⟨recorded.operates, ?_, recorded.received, bytes_enqueueOps lib outgoing⟩
  have written : ended.2.2.1 = enqueueAll lib session.writeBuffer outgoing := by
    show (readLoop lib (handleMessage lib handler) event.stale event.results session.side
      (session.writeBuffer, state)).2.2.1 = _
    rw [handled, foldl_handleMessage, all]
  show Operates BufferOp.writes session.writeBuffer _ ended.2.2.1
  rw [written]
  exact operates_enqueueAll lib outgoing session.writeBuffer

theorem recorded_finishReading {session : Session} (reading : session.state = .reading)
    (stays : Bool) :
    let closes := if stays then [] else [.clear]
    CallRecorded lib session (session.finishReading stays) ⟨closes, closes⟩ [] := by
  cases stays with
  | true => exact recorded_nothing lib rfl rfl
  | false =>
    have closed := recorded_close lib session
    rwa [closeOps_of_open (by rw [reading]; decide)] at closed

theorem recorded_onReadable (session : Session) (event : ReadEvent) (state : σ) :
    CallRecorded lib session (call lib handler (session, state) (.onReadable event)).1
      (callOps lib handler (session, state) (.onReadable event))
      (callOutgoing lib handler (session, state) (.onReadable event)) := by
  cases begun : session.beginReading with
  | none =>
    have same : call lib handler (session, state) (.onReadable event) = (session, state) := by
      simp only [call, Session.onReadable, begun]
    simp only [callOps, callOutgoing, begun, same, List.drop_length]
    exact recorded_nothing lib rfl rfl
  | some opened =>
    have looped := recorded_loop lib handler session event state
    have ran := onReadable_begun lib handler begun event.stale event.results state
    have traced : session.readRounds lib handler event state
        = rounds lib (handleMessage lib handler) event.stale event.results session.side
          (session.writeBuffer, state) := by
      simp only [Session.readRounds, begun, beginReading_eq_some begun]
    simp only [callOps, callOutgoing, call, begun, ran, traced, (finishReading_side _ _).2]
    generalize readLoop lib (handleMessage lib handler) event.stale event.results session.side
      (session.writeBuffer, state) = ended at looped ⊢
    have whole := looped.trans (recorded_finishReading lib rfl ended.1)
    rwa [List.append_nil] at whole

theorem recorded_onWritable (session : Session) (stale : Errno) (results : List WriteResult)
    (state : σ) :
    CallRecorded lib session (call lib handler (session, state) (.onWritable stale results)).1
      (callOps lib handler (session, state) (.onWritable stale results)) [] := by
  rw [call, callOps, Session.onWritable]
  by_cases writing : session.state ≠ .writing
  · rw [if_pos writing, if_pos writing]
    exact recorded_nothing lib rfl rfl
  · rw [if_neg writing, if_neg writing]
    have written := operates_writeLoop stale results session.writeBuffer []
    have looped : ∀ buffer, Operates BufferOp.writes session.writeBuffer
        (writeOps results session.writeBuffer) buffer →
        CallRecorded lib session { session with writeBuffer := buffer }
          ⟨[], writeOps results session.writeBuffer⟩ [] :=
      fun buffer leads => ⟨.nil _, leads, (List.append_nil _).symm, bytes_writeOps _ _⟩
    generalize writeLoop stale results session.writeBuffer [] = outcome at written
    obtain ⟨ends, buffer, attempts⟩ := outcome
    cases ends with
    | drained =>
      have idle : CallRecorded lib { session with writeBuffer := buffer }
          { session with writeBuffer := buffer, state := .active } ⟨[], []⟩ [] :=
        recorded_nothing lib rfl rfl
      exact (looped buffer written).trans idle
    | blocked => exact (looped buffer written).trans (recorded_nothing lib rfl rfl)
    | failed =>
      -- the state is still `Writing`, so `close` clears both buffers
      have closed := recorded_close lib { session with writeBuffer := buffer }
      rw [closeOps_of_open (by rw [show session.state = .writing from not_not.mp writing]; decide)]
        at closed
      exact (looped buffer written).trans closed

/-- **Step.** Every call is recorded by its operations. -/
theorem recorded_call (world : Session × σ) (action : Call) :
    CallRecorded lib world.1 (call lib handler world action).1 (callOps lib handler world action)
      (callOutgoing lib handler world action) := by
  cases action with
  | initializeSession flagsRead flagsSet =>
    show CallRecorded lib world.1 (world.1.initializeSession flagsRead flagsSet).2 ⟨[], []⟩ []
    unfold Session.initializeSession
    split_ifs <;> exact recorded_nothing lib rfl rfl
  | onReadable event => exact recorded_onReadable lib handler world.1 event world.2
  | schedule message =>
    show CallRecorded lib world.1 (world.1.schedule lib message) ⟨[], enqueueOps lib message⟩
      [message]
    have bytes := bytes_enqueueOps lib [message]
    rw [List.flatMap_singleton] at bytes
    rw [schedule_eq]
    exact ⟨.nil _, operates_enqueue lib message _, (List.append_nil _).symm, bytes⟩
  | onWritable stale results => exact recorded_onWritable lib handler world.1 stale results world.2

/-- **Run.** -/
theorem recorded_history (history : List SessionOp) (world : Session × σ) :
    CallRecorded lib world.1 (history.foldl (sessionOp lib handler) world).1
      (historyOps lib handler history world) (historyOutgoing lib handler history world) := by
  induction history generalizing world with
  | nil => exact recorded_nothing lib rfl rfl
  | cons op history ih =>
    have rest := ih (sessionOp lib handler world op)
    cases op with
    | call action => exact (recorded_call lib handler world action).trans rest
    | close => exact (recorded_close lib world.1).trans rest

end Calls

/-! ### The buffers of a session -/

/-- On a new buffer the operations lead to this one, with every access inside `data`, and its view
is what they have appended since the last `clear` without what they have consumed. -/
def Operated (ops : List BufferOp) (buffer : IOBuffer) : Prop :=
  let queue := ops.foldl ByteQueue.apply .empty
  operate 4096 ops = .ok (buffer.raw, queue) ∧ buffer.raw.getReadView = .ok queue.unread

theorem Operates.operated {kind : BufferOp → Bool} {ops : List BufferOp} {buffer : IOBuffer}
    (operates : Operates kind .empty ops buffer) : Operated ops buffer := by
  have agrees : Agrees IOBuffer.empty .empty := ⟨rfl, Nat.le_refl _⟩
  obtain ⟨ran, ends⟩ := operates.steps agrees
  exact ⟨ran, by rw [IOBuffer.getReadView_raw, ends.unread]⟩

/-- **The buffers of a session refine a queue of bytes.** Every sequence of the operations of a
session does, on a buffer of any size, with any counts that are offered. And whatever is done with a
session, both its buffers are what the recorded operations lead to; the bytes that these append to
the first are those it has received, and to the second the lines of the messages scheduled. -/
theorem session_buffers_refine_queue :
    (∀ initialSize ops, RefinesQueue initialSize ops) ∧
    ∀ (σ : Type) (lib : Nlohmann) (handler : MessageHandler σ) (fd : Int32) (id : Nat) (state : σ)
      (history : List SessionOp),
      let session := (history.foldl (sessionOp lib handler) (Session.create fd id, state)).1
      let ops := historyOps lib handler history (Session.create fd id, state)
      Operated ops.reads session.side.buffer ∧ Operated ops.writes session.writeBuffer ∧
        ops.reads.flatMap BufferOp.bytes = session.side.received ∧
        ops.writes.flatMap BufferOp.bytes
          = scheduled lib (historyOutgoing lib handler history (Session.create fd id, state)) := by
  refine ⟨refinesQueue_of_steps, ?_⟩
  intro σ lib handler fd id state history session ops
  have recorded := recorded_history lib handler history (Session.create fd id, state)
  exact ⟨recorded.reads.operated, recorded.writes.operated, recorded.received.symm,
    recorded.scheduled⟩

end DemoDaemon.Ipc
