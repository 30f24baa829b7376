/-
**What a session dispatches.**

The reading side follows the stream through the framing library: `heard` lines are consumed, and
the first line for which the parser gives nothing stops the loop for good, since the loop breaks
without advancing past it.

* **`tryParseMessages_spec`**: one run of the parse loop, from any buffer: it takes the heard lines
  and leaves the rest; **`arrive_spec`**: the same behind a read.
* `Tracks`: the invariant of the reading side over whole runs. The pending bytes are what the
  framing leaves of everything received; while no line has stopped the loop, the buffer stays
  within 512 KiB.
* **`dispatched_eq_requests`**: for runs of at most `523264` bytes without a newline, and for every
  way the stream is cut, a session dispatches the requests up to the first line that is not heard.
* **`dispatched_all_iff`**: it dispatches every request of the stream if and only if no request
  line follows a skipped line.
-/

import DemoDaemon.Ipc.Session
import DemoDaemon.Json.TextLaws

namespace DemoDaemon.Ipc

open Foundation

/-! ### Lines and their requests -/

section Lines

variable (lib : Nlohmann)

/-- The parser gives a message for the line. -/
def heard (line : Bytes) : Bool := (lineVerdict lib defaultMaxMessageSize line).isSome

/-- The request of a line, if the parser gives one. -/
def requestOf (line : Bytes) : Option RequestMessage :=
  (lineVerdict lib defaultMaxMessageSize line).bind fun message =>
    if message.isRequest then some message.toRequest else none

/-- The requests on the complete lines before the first one that is not heard. -/
def requests (stream : Bytes) : List RequestMessage :=
  (accepted newline (heard lib) stream).filterMap (requestOf lib)

theorem requests_append (first second : Bytes) :
    requests lib (first ++ second)
      = requests lib first ++ requests lib (unread newline (heard lib) first ++ second) := by
  rw [requests, accepted_append, List.filterMap_append]
  rfl

end Lines

/-- What a message asks the handler to do. -/
def JsonMessage.asked (message : JsonMessage) : List RequestMessage :=
  if message.isRequest then [message.toRequest] else []

section FirstLine

variable (lib : Nlohmann) {body : Bytes} (outside : newline ∉ body)

include outside

/-- A first line that gives no message is the end of what is asked for. -/
theorem requests_of_nothing (verdict : lineVerdict lib defaultMaxMessageSize body = none)
    (rest : Bytes) : requests lib (body ++ newline :: rest) = [] := by
  have unheard : ¬ heard lib body = true := by
    rw [heard, verdict]
    decide
  rw [requests, accepted_append_cons outside, if_neg unheard]
  rfl

/-- A first line with a message asks for what the message does. -/
theorem requests_of_message {message : JsonMessage}
    (verdict : lineVerdict lib defaultMaxMessageSize body = some message) (rest : Bytes) :
    requests lib (body ++ newline :: rest) = message.asked ++ requests lib rest := by
  have isHeard : heard lib body = true := by
    rw [heard, verdict]
    rfl
  rw [requests, accepted_append_cons outside, if_pos isHeard, List.filterMap_cons, requestOf,
    verdict, JsonMessage.asked]
  cases request : message.isRequest with
  | true => simp [request, requests]
  | false => simp [request, requests]

end FirstLine

/-! ### The parse loop -/

section ParseLoop

variable {ω : Type} (lib : Nlohmann) (handle : ω → RequestMessage → ω)

/-- Nothing to parse: the loop stops where it is. -/
theorem tryParseMessages_none {side : ReadSide}
    (nothing : (tryParse lib defaultMaxMessageSize side.buffer.pending).1 = none) (fuel : Nat)
    (world : ω) : tryParseMessages lib handle fuel side world = (side, world) := by
  cases fuel with
  | zero => rfl
  | succ fuel => simp only [tryParseMessages, nothing]

/-- A message: its request goes to the handler, its bytes are consumed, the loop goes on. -/
theorem tryParseMessages_some {side : ReadSide} {message : JsonMessage} {count : Nat}
    (found : tryParse lib defaultMaxMessageSize side.buffer.pending = (some message, count))
    (fuel : Nat) (world : ω) :
    ∃ buffer, tryParseMessages lib handle (fuel + 1) side world
        = tryParseMessages lib handle fuel
            { side with buffer, dispatched := side.dispatched ++ message.asked }
            (message.asked.foldl handle world) ∧
      buffer.readPos = 0 ∧ buffer.capacity = side.buffer.capacity ∧
      buffer.pending = side.buffer.pending.drop count := by
  have enough : count ≤ side.buffer.availableForRead := by
    have consumed := tryParse_consumed_le lib defaultMaxMessageSize side.buffer.pending
    rw [found, IOBuffer.length_pending] at consumed
    exact consumed
  refine ⟨(side.buffer.advanceRead count enough).compact, ?_, IOBuffer.readPos_compact _, ?_, ?_⟩
  · rw [tryParseMessages]
    simp only [found, JsonMessage.asked]
    cases message.isRequest with
    | true => rfl
    | false =>
      simp only [Bool.false_eq_true, if_false, List.append_nil]
      rfl
  · exact IOBuffer.capacity_compact _
  · rw [IOBuffer.pending_compact, IOBuffer.pending_advanceRead]

/-- Parsing receives nothing. -/
theorem received_tryParseMessages (fuel : Nat) (side : ReadSide) (world : ω) :
    (tryParseMessages lib handle fuel side world).1.received = side.received := by
  induction fuel generalizing side world with
  | zero => rfl
  | succ fuel ih =>
    rcases parsed : tryParse lib defaultMaxMessageSize side.buffer.pending with ⟨_ | message, count⟩
    · rw [tryParseMessages_none lib handle (by rw [parsed])]
    · obtain ⟨buffer, step, -⟩ := tryParseMessages_some lib handle parsed fuel world
      rw [step, ih]

/-- The requests that the parse loop dispatches are those it hands to the handler, in order. -/
theorem tryParseMessages_dispatched (fuel : Nat) (side : ReadSide) (world : ω) :
    ∃ asked, (tryParseMessages lib handle fuel side world).1.dispatched = side.dispatched ++ asked ∧
      (tryParseMessages lib handle fuel side world).2 = asked.foldl handle world := by
  induction fuel generalizing side world with
  | zero => exact ⟨[], (List.append_nil _).symm, rfl⟩
  | succ fuel ih =>
    rcases parsed : tryParse lib defaultMaxMessageSize side.buffer.pending with ⟨_ | message, count⟩
    · rw [tryParseMessages_none lib handle (by rw [parsed])]
      exact ⟨[], (List.append_nil _).symm, rfl⟩
    · obtain ⟨buffer, step, -⟩ := tryParseMessages_some lib handle parsed fuel world
      rw [step]
      obtain ⟨asked, dispatched, handled⟩ := ih
        { side with buffer, dispatched := side.dispatched ++ message.asked }
        (message.asked.foldl handle world)
      exact ⟨message.asked ++ asked, by rw [dispatched, List.append_assoc],
        by rw [handled, List.foldl_append]⟩

/-- **One run of the parse loop.** It takes the heard lines of the pending bytes, hands their
requests to the handler in order, and leaves the rest in the buffer. -/
theorem tryParseMessages_spec {fuel : Nat} {side : ReadSide} (world : ω)
    (enough : side.buffer.pending.length < fuel) (start : side.buffer.readPos = 0)
    (short : (residue newline side.buffer.pending).length < defaultMaxMessageSize) :
    ∃ buffer, tryParseMessages lib handle fuel side world
        = ({ side with
              buffer, dispatched := side.dispatched ++ requests lib side.buffer.pending },
            (requests lib side.buffer.pending).foldl handle world) ∧
      buffer.readPos = 0 ∧ buffer.capacity = side.buffer.capacity ∧
      buffer.pending = unread newline (heard lib) side.buffer.pending := by
  -- the induction is on the pending bytes, line by line
  induction pending : side.buffer.pending using lines_induction newline
    generalizing fuel side world with
  | free stream outside =>
    rw [pending, residue_of_not_mem outside] at short
    have nothing : (tryParse lib defaultMaxMessageSize side.buffer.pending).1 = none := by
      rw [pending, tryParse_partial lib (by decide) outside, if_neg (Nat.not_le_of_gt short)]
    have none : requests lib stream = [] := by
      rw [requests, accepted_of_not_mem outside]
      rfl
    refine ⟨side.buffer, ?_, start, rfl, ?_⟩
    · rw [tryParseMessages_none lib handle nothing, none, List.append_nil]
      rfl
    · rw [pending, unread_of_not_mem outside]
  | line body rest outside ih =>
    have parsed := tryParse_line lib defaultMaxMessageSize outside rest
    rw [← pending] at parsed
    cases verdict : lineVerdict lib defaultMaxMessageSize body with
    | none =>
      have unheard : ¬ heard lib body = true := by
        rw [heard, verdict]
        decide
      have none := requests_of_nothing lib outside verdict rest
      refine ⟨side.buffer, ?_, start, rfl, ?_⟩
      · rw [tryParseMessages_none lib handle (by rw [parsed, verdict]), none, List.append_nil]
        rfl
      · rw [unread_append_cons outside, if_neg unheard]
        exact pending
    | some message =>
      have isHeard : heard lib body = true := by
        rw [heard, verdict]
        rfl
      have dropped : (body ++ newline :: rest).drop (body.length + 1) = rest :=
        List.drop_length_add_append 1
      have asked := requests_of_message lib outside verdict rest
      obtain ⟨fuel, rfl⟩ := Nat.exists_eq_add_of_lt (Nat.zero_lt_of_lt enough)
      rw [Nat.zero_add] at enough ⊢
      rw [verdict] at parsed
      obtain ⟨buffer, step, zero, capacity, left⟩ :=
        tryParseMessages_some lib handle parsed fuel world
      rw [pending, dropped] at left
      rw [pending, List.length_append, List.length_cons] at enough
      rw [pending, residue_append_cons outside] at short
      let next : ReadSide :=
        { side with buffer, dispatched := side.dispatched ++ message.asked }
      have nextEnough : next.buffer.pending.length < fuel := by
        show buffer.pending.length < fuel
        rw [left]
        omega
      have nextShort : (residue newline next.buffer.pending).length < defaultMaxMessageSize := by
        show (residue newline buffer.pending).length < defaultMaxMessageSize
        rw [left]
        exact short
      obtain ⟨final, run, finalZero, finalCapacity, finalLeft⟩ :=
        ih (message.asked.foldl handle world) nextEnough zero nextShort left
      refine ⟨final, ?_, finalZero, finalCapacity.trans capacity, ?_⟩
      · rw [step, run, asked, List.foldl_append, ← List.append_assoc]
      · rw [finalLeft, unread_append_cons outside, if_pos isHeard]

end ParseLoop

/-! ### The buffer between reads -/

/-- The bound on newline-free runs under which the buffer never fills: 512 KiB - 1024. -/
def maxRun : Nat := 523264

/-- What `prepared` does to a buffer with nothing consumed. -/
theorem prepared_spec {buffer : IOBuffer} (start : buffer.readPos = 0) :
    (prepared buffer).readPos = 0 ∧ (prepared buffer).pending = buffer.pending ∧
      (prepared buffer).capacity =
        if buffer.capacity - buffer.pending.length < 1024 ∧
            buffer.capacity < min (buffer.capacity * 2) maxBufferSize then
          min (buffer.capacity * 2) maxBufferSize
        else buffer.capacity := by
  have unmoved : ¬ (0 < buffer.readPos ∧ 0 < buffer.availableForRead) := by
    rw [start]
    exact fun both => absurd both.1 (Nat.lt_irrefl 0)
  unfold prepared
  simp only [if_neg unmoved]
  rw [← IOBuffer.availableForWrite_of_readPos start]
  split_ifs with grows
  · exact ⟨start, IOBuffer.pending_resize _ _, IOBuffer.capacity_resize _ _⟩
  · exact ⟨start, rfl, rfl⟩

theorem length_pending_le_capacity {buffer : IOBuffer} (start : buffer.readPos = 0) :
    buffer.pending.length ≤ buffer.capacity := by
  have inside := buffer.inside
  rw [IOBuffer.length_pending, IOBuffer.availableForRead, start]
  exact inside

/-- A full buffer is refused without a call. -/
theorem readFromSocket_full {buffer : IOBuffer} (full : maxBufferSize ≤ buffer.capacity)
    (stale : Errno) (result : ReadResult) :
    readFromSocket stale buffer result = (.failed stale, buffer) := by
  rw [readFromSocket, if_pos full]

theorem readFromSocket_failed {buffer : IOBuffer} (notFull : ¬ maxBufferSize ≤ buffer.capacity)
    (stale errno : Errno) :
    readFromSocket stale buffer (.failed errno) = (.failed errno, prepared buffer) := by
  rw [readFromSocket, if_neg notFull]

theorem readFromSocket_data {buffer : IOBuffer} (notFull : ¬ maxBufferSize ≤ buffer.capacity)
    (stale : Errno) {bytes : Bytes} (some : bytes.take (prepared buffer).availableForWrite ≠ []) :
    readFromSocket stale buffer (.data bytes)
      = (.received (bytes.take (prepared buffer).availableForWrite),
        (prepared buffer).fill (bytes.take (prepared buffer).availableForWrite)
          (List.length_take_le _ _)) := by
  rw [readFromSocket, if_neg notFull]
  show (if (bytes.take (prepared buffer).availableForWrite).isEmpty then _ else _) = _
  rw [if_neg (by rw [List.isEmpty_iff]; exact some)]

theorem readFromSocket_end {buffer : IOBuffer} (notFull : ¬ maxBufferSize ≤ buffer.capacity)
    (stale : Errno) {bytes : Bytes} (none : bytes.take (prepared buffer).availableForWrite = []) :
    readFromSocket stale buffer (.data bytes) = (.endOfStream, prepared buffer) := by
  rw [readFromSocket, if_neg notFull]
  show (if (bytes.take (prepared buffer).availableForWrite).isEmpty then _ else _) = _
  rw [if_pos (List.isEmpty_iff.mpr none)]

/-- A buffer that is not full has room after `prepared`. -/
theorem prepared_room {buffer : IOBuffer} (start : buffer.readPos = 0) (some : 0 < buffer.capacity)
    (notFull : buffer.capacity < maxBufferSize) : 0 < (prepared buffer).availableForWrite := by
  obtain ⟨preparedStart, pending, capacity⟩ := prepared_spec start
  have within := length_pending_le_capacity start
  rw [IOBuffer.availableForWrite_of_readPos preparedStart, pending, capacity]
  split_ifs with grows
  · omega
  · omega

theorem capacity_fresh : ReadSide.fresh.buffer.capacity = 4096 := List.length_replicate

theorem not_full_fresh : ¬ maxBufferSize ≤ ReadSide.fresh.buffer.capacity := by
  rw [capacity_fresh]
  decide

section Tracking

variable (lib : Nlohmann)

/-- The buffer is within 512 KiB, or a line has stopped the loop. -/
def Room (side : ReadSide) : Prop :=
  (∃ doublings ≤ 7, side.buffer.capacity = 4096 * 2 ^ doublings) ∨
    (Stopped newline (heard lib) side.received ∧ 0 < side.buffer.capacity)

/-- The reading side against everything received. -/
structure Tracks (side : ReadSide) : Prop where
  start : side.buffer.readPos = 0
  pending : side.buffer.pending = unread newline (heard lib) side.received
  dispatched : side.dispatched = requests lib side.received
  room : Room lib side

theorem tracks_fresh : Tracks lib ReadSide.fresh where
  start := rfl
  pending := (unread_of_not_mem List.not_mem_nil).symm
  dispatched := by
    rw [requests, ReadSide.fresh, accepted_of_not_mem List.not_mem_nil]
    rfl
  room := Or.inl ⟨0, by decide, capacity_fresh⟩

variable {lib}

theorem Room.capacity_pos {side : ReadSide} (room : Room lib side) : 0 < side.buffer.capacity := by
  rcases room with ⟨doublings, -, capacity⟩ | ⟨-, positive⟩
  · rw [capacity]
    exact Nat.mul_pos (by decide) (Nat.two_pow_pos doublings)
  · exact positive

/-- A full buffer means that a line has stopped the loop. -/
theorem Room.stopped_of_full {side : ReadSide} (room : Room lib side)
    (full : maxBufferSize ≤ side.buffer.capacity) : Stopped newline (heard lib) side.received := by
  rcases room with ⟨doublings, few, capacity⟩ | ⟨stopped, -⟩
  · have bound : 2 ^ doublings ≤ 2 ^ 7 := Nat.pow_le_pow_right (by decide) few
    rw [capacity, maxBufferSize] at full
    omega
  · exact stopped

/-- **Growing keeps the bound**: only an unfinished line fills the buffer, and it is short. -/
theorem Tracks.room_prepared {side : ReadSide} (tracks : Tracks lib side)
    (bounded : RunsAtMost newline maxRun side.received) :
    Room lib { side with buffer := prepared side.buffer } := by
  obtain ⟨-, -, capacity⟩ := prepared_spec tracks.start
  have positive := tracks.room.capacity_pos
  by_cases stopped : Stopped newline (heard lib) side.received
  · refine Or.inr ⟨stopped, ?_⟩
    show 0 < (prepared side.buffer).capacity
    rw [capacity]
    split_ifs with grows
    · omega
    · exact positive
  · have short : side.buffer.pending.length ≤ 523264 := by
      rw [tracks.pending, unread_of_all (not_not.mp stopped)]
      exact bounded.length_residue_le
    rcases tracks.room with ⟨doublings, few, size⟩ | ⟨holds, -⟩
    · refine Or.inl ?_
      show ∃ doublings ≤ 7, (prepared side.buffer).capacity = 4096 * 2 ^ doublings
      rw [capacity]
      split_ifs with grows
      · have below : doublings ≠ 7 := by
          rintro rfl
          omega
        have bound : 2 ^ doublings ≤ 2 ^ 6 := Nat.pow_le_pow_right (by decide) (by omega)
        refine ⟨doublings + 1, by omega, ?_⟩
        rw [size, Nat.pow_succ, maxBufferSize]
        omega
      · exact ⟨doublings, few, size⟩
    · exact absurd holds stopped

theorem Tracks.prepare {side : ReadSide} (tracks : Tracks lib side)
    (bounded : RunsAtMost newline maxRun side.received) :
    Tracks lib { side with buffer := prepared side.buffer } := by
  obtain ⟨start, pending, -⟩ := prepared_spec tracks.start
  exact ⟨start, pending.trans tracks.pending, tracks.dispatched, tracks.room_prepared bounded⟩

/-- **One arrival.** Parsing what was delivered takes the heard lines that are now complete and
leaves the rest. -/
theorem arrive_spec {ω : Type} (handle : ω → RequestMessage → ω) {side : ReadSide}
    (start : side.buffer.readPos = 0)
    (pending : side.buffer.pending = unread newline (heard lib) side.received) {delivered : Bytes}
    (fits : delivered.length ≤ (prepared side.buffer).availableForWrite)
    (short : (residue newline (side.received ++ delivered)).length < defaultMaxMessageSize)
    (world : ω) :
    let filled := (prepared side.buffer).fill delivered fits
    let asked := requests lib (unread newline (heard lib) side.received ++ delivered)
    ∃ buffer, tryParseMessages lib handle (filled.availableForRead + 1)
          { side with buffer := filled, received := side.received ++ delivered } world
        = (⟨buffer, side.received ++ delivered, side.dispatched ++ asked⟩,
            asked.foldl handle world) ∧
      buffer.readPos = 0 ∧ buffer.capacity = (prepared side.buffer).capacity ∧
      buffer.pending = unread newline (heard lib) (side.received ++ delivered) := by
  intro filled asked
  obtain ⟨preparedStart, preparedPending, -⟩ := prepared_spec start
  have filledPending : filled.pending = unread newline (heard lib) side.received ++ delivered := by
    rw [IOBuffer.pending_fill, preparedPending, pending]
  have residual : residue newline filled.pending
      = residue newline (side.received ++ delivered) := by
    conv_rhs => rw [← unlines_accepted newline (heard lib) side.received, List.append_assoc]
    rw [filledPending, residue_unlines_append fun _ member => not_mem_of_mem_accepted member]
  let side' : ReadSide := { side with buffer := filled, received := side.received ++ delivered }
  have enough : side'.buffer.pending.length < filled.availableForRead + 1 := by
    rw [IOBuffer.length_pending]
    exact Nat.lt_succ_self _
  obtain ⟨buffer, run, zero, capacity, left⟩ :=
    tryParseMessages_spec lib handle world enough preparedStart (by rw [residual]; exact short)
  refine ⟨buffer, ?_, zero, capacity.trans (IOBuffer.capacity_fill _ fits), ?_⟩
  · rw [run]
    show (_, (requests lib filled.pending).foldl handle world) = _
    rw [filledPending]
  · rw [left, unread_append, ← filledPending]

theorem Tracks.arrive {ω : Type} (handle : ω → RequestMessage → ω) {side : ReadSide}
    (tracks : Tracks lib side) {delivered : Bytes}
    (fits : delivered.length ≤ (prepared side.buffer).availableForWrite)
    (bounded : RunsAtMost newline maxRun (side.received ++ delivered)) (world : ω) :
    let filled := (prepared side.buffer).fill delivered fits
    let parsed := tryParseMessages lib handle (filled.availableForRead + 1)
      { side with buffer := filled, received := side.received ++ delivered } world
    Tracks lib parsed.1 := by
  intro filled parsed
  obtain ⟨buffer, run, start, capacity, left⟩ := arrive_spec handle tracks.start tracks.pending fits
    (Nat.lt_of_le_of_lt bounded.length_residue_le (by decide)) world
  have before := tracks.room_prepared
    (bounded.of_infix (List.prefix_append side.received delivered).isInfix)
  rw [show parsed.1 = _ from congrArg Prod.fst run]
  refine ⟨start, left, ?_, ?_⟩
  · show side.dispatched ++ _ = requests lib (side.received ++ delivered)
    rw [tracks.dispatched]
    exact (requests_append lib side.received delivered).symm
  · rcases before with ⟨doublings, few, size⟩ | ⟨stopped, positive⟩
    · exact Or.inl ⟨doublings, few, capacity.trans size⟩
    · exact Or.inr ⟨stopped.append delivered, Nat.lt_of_lt_of_eq positive capacity.symm⟩

end Tracking

/-! ### The read loop -/

/-- An answer of `::read` that delivers part of the stream, or nothing yet: no end of the stream
and no error. -/
def ReadResult.Delivers : ReadResult → Prop
  | .data bytes => bytes ≠ []
  | .failed errno => errno = .again

instance : DecidablePred ReadResult.Delivers
  | .data bytes => inferInstanceAs (Decidable (bytes ≠ []))
  | .failed errno => inferInstanceAs (Decidable (errno = .again))

section ReadLoop

variable {ω : Type} (lib : Nlohmann) (handle : ω → RequestMessage → ω)

/-- What has been received stays received. -/
theorem received_readLoop (stale : Errno) (results : List ReadResult) (side : ReadSide)
    (world : ω) :
    side.received <+: (readLoop lib handle stale results side world).2.1.received := by
  induction results generalizing side world with
  | nil =>
    unfold readLoop
    split <;> exact List.prefix_refl _
  | cons result results ih =>
    unfold readLoop
    split
    · next bytes buffer read =>
      refine List.IsPrefix.trans ?_ (ih _ _)
      rw [received_tryParseMessages]
      exact List.prefix_append _ _
    · exact List.prefix_refl _
    · exact List.prefix_refl _

/-- So for the read loop. -/
theorem readLoop_dispatched (stale : Errno) (results : List ReadResult) (side : ReadSide)
    (world : ω) :
    ∃ asked, (readLoop lib handle stale results side world).2.1.dispatched
        = side.dispatched ++ asked ∧
      (readLoop lib handle stale results side world).2.2 = asked.foldl handle world := by
  induction results generalizing side world with
  | nil =>
    unfold readLoop
    split <;> exact ⟨[], (List.append_nil _).symm, rfl⟩
  | cons result results ih =>
    unfold readLoop
    split
    · next bytes buffer read =>
      obtain ⟨asked, dispatched, handled⟩ := tryParseMessages_dispatched lib handle
        (buffer.availableForRead + 1) { side with buffer, received := side.received ++ bytes } world
      obtain ⟨more, later, rest⟩ := ih
        (tryParseMessages lib handle (buffer.availableForRead + 1)
          { side with buffer, received := side.received ++ bytes } world).1
        (tryParseMessages lib handle (buffer.availableForRead + 1)
          { side with buffer, received := side.received ++ bytes } world).2
      refine ⟨asked ++ more, ?_, ?_⟩
      · rw [later, dispatched, List.append_assoc]
      · rw [rest, handled, List.foldl_append]
    · exact ⟨[], (List.append_nil _).symm, rfl⟩
    · exact ⟨[], (List.append_nil _).symm, rfl⟩

/-- What every handler call keeps, the read loop keeps. -/
theorem readLoop_world {holds : ω → Prop}
    (keeps : ∀ world request, holds world → holds (handle world request)) (stale : Errno)
    (results : List ReadResult) (side : ReadSide) {world : ω} (start : holds world) :
    holds (readLoop lib handle stale results side world).2.2 := by
  obtain ⟨asked, -, handled⟩ := readLoop_dispatched lib handle stale results side world
  rw [handled]
  exact List.foldlRecOn asked handle start fun world kept request _ => keeps world request kept

/-! The rounds of the loop. -/

theorem readLoop_full (stale : Errno) {side : ReadSide}
    (full : maxBufferSize ≤ side.buffer.capacity) (results : List ReadResult) (world : ω) :
    readLoop lib handle stale results side world = (decide (stale = .again), side, world) := by
  cases results with
  | nil => simp only [readLoop, readFromSocket_full full]
  | cons result results => simp only [readLoop, readFromSocket_full full]

theorem readLoop_nil (stale : Errno) {side : ReadSide}
    (notFull : ¬ maxBufferSize ≤ side.buffer.capacity) (world : ω) :
    readLoop lib handle stale [] side world
      = (true, { side with buffer := prepared side.buffer }, world) := by
  simp only [readLoop, readFromSocket_failed notFull]
  rfl

theorem readLoop_failed (stale : Errno) {side : ReadSide}
    (notFull : ¬ maxBufferSize ≤ side.buffer.capacity) (errno : Errno) (results : List ReadResult)
    (world : ω) :
    readLoop lib handle stale (.failed errno :: results) side world
      = (decide (errno = .again), { side with buffer := prepared side.buffer }, world) := by
  simp only [readLoop, readFromSocket_failed notFull]

theorem readLoop_end (stale : Errno) {side : ReadSide}
    (notFull : ¬ maxBufferSize ≤ side.buffer.capacity) {bytes : Bytes}
    (none : bytes.take (prepared side.buffer).availableForWrite = []) (results : List ReadResult)
    (world : ω) :
    readLoop lib handle stale (.data bytes :: results) side world
      = (false, { side with buffer := prepared side.buffer }, world) := by
  simp only [readLoop, readFromSocket_end notFull stale none]

theorem readLoop_data (stale : Errno) {side : ReadSide}
    (notFull : ¬ maxBufferSize ≤ side.buffer.capacity) {bytes : Bytes}
    (some : bytes.take (prepared side.buffer).availableForWrite ≠ []) (results : List ReadResult)
    (world : ω) :
    readLoop lib handle stale (.data bytes :: results) side world
      = (let delivered := bytes.take (prepared side.buffer).availableForWrite
        let filled := (prepared side.buffer).fill delivered (List.length_take_le _ _)
        let parsed := tryParseMessages lib handle (filled.availableForRead + 1)
          { side with buffer := filled, received := side.received ++ delivered } world
        readLoop lib handle stale results parsed.1 parsed.2) := by
  simp only [readLoop, readFromSocket_data notFull stale some]

/-- One chunk that fits is received whole. -/
theorem received_readLoop_single (stale : Errno) {side : ReadSide}
    (notFull : ¬ maxBufferSize ≤ side.buffer.capacity) {bytes : Bytes} (some : bytes ≠ [])
    (fits : bytes.length ≤ (prepared side.buffer).availableForWrite) (world : ω) :
    (readLoop lib handle stale [.data bytes] side world).2.1.received = side.received ++ bytes := by
  have last : ∀ (side : ReadSide) (world : ω),
      (readLoop lib handle stale [] side world).2.1.received = side.received := by
    intro side world
    by_cases full : maxBufferSize ≤ side.buffer.capacity
    · rw [readLoop_full lib handle stale full]
    · rw [readLoop_nil lib handle stale full]
  have whole : bytes.take (prepared side.buffer).availableForWrite = bytes :=
    List.take_of_length_le fits
  rw [readLoop_data lib handle stale notFull (by rw [whole]; exact some)]
  show (readLoop lib handle stale [] _ _).2.1.received = _
  rw [last, received_tryParseMessages]
  exact congrArg (side.received ++ ·) whole

variable {lib}

/-- **A whole read loop keeps the invariant**; it ends for good only when a line has stopped the
parse loop. -/
theorem Tracks.readLoop {side : ReadSide} (tracks : Tracks lib side) (stale : Errno)
    {results : List ReadResult} (delivers : ∀ result ∈ results, result.Delivers) (world : ω)
    (bounded : RunsAtMost newline maxRun
      (Ipc.readLoop lib handle stale results side world).2.1.received) :
    Tracks lib (Ipc.readLoop lib handle stale results side world).2.1 ∧
      ((Ipc.readLoop lib handle stale results side world).1 = false →
        Stopped newline (heard lib)
          (Ipc.readLoop lib handle stale results side world).2.1.received) := by
  induction results generalizing side world with
  | nil =>
    by_cases full : maxBufferSize ≤ side.buffer.capacity
    · rw [readLoop_full lib handle stale full]
      exact ⟨tracks, fun _ => tracks.room.stopped_of_full full⟩
    · rw [readLoop_nil lib handle stale full] at bounded ⊢
      exact ⟨tracks.prepare bounded, nofun⟩
  | cons result results ih =>
    by_cases full : maxBufferSize ≤ side.buffer.capacity
    · rw [readLoop_full lib handle stale full]
      exact ⟨tracks, fun _ => tracks.room.stopped_of_full full⟩
    · have first := delivers result List.mem_cons_self
      have others : ∀ other ∈ results, other.Delivers := fun other member =>
        delivers other (List.mem_cons_of_mem _ member)
      cases result with
      | failed errno =>
        cases first
        rw [readLoop_failed lib handle stale full] at bounded ⊢
        exact ⟨tracks.prepare bounded, nofun⟩
      | data bytes =>
        have space := prepared_room tracks.start tracks.room.capacity_pos (Nat.lt_of_not_le full)
        have some : bytes.take (prepared side.buffer).availableForWrite ≠ [] := by
          rw [Ne, List.take_eq_nil_iff]
          exact fun none => none.elim (Nat.ne_of_gt space) first
        rw [readLoop_data lib handle stale full some] at bounded ⊢
        refine ih ?_ others _ bounded
        refine tracks.arrive handle (List.length_take_le _ _) ?_ world
        refine bounded.of_infix (List.IsPrefix.isInfix ?_)
        refine List.IsPrefix.trans ?_ (received_readLoop lib handle stale results _ _)
        rw [received_tryParseMessages]

end ReadLoop

/-! ### A session over many events -/

/-- One `on_readable` call: the answers of `::read` in it, and the `errno` it starts with. -/
structure ReadEvent where
  stale : Errno
  results : List ReadResult

/-- Every answer in the event delivers part of the stream, or nothing yet. -/
def ReadEvent.Delivers (event : ReadEvent) : Prop := ∀ result ∈ event.results, result.Delivers

instance : DecidablePred ReadEvent.Delivers :=
  fun event => inferInstanceAs (Decidable (∀ result ∈ event.results, result.Delivers))

section Events

variable {σ : Type} (lib : Nlohmann) (handler : MessageHandler σ)

/-- A session through a list of `on_readable` calls. -/
def readEvents : List ReadEvent → Session → σ → Session × σ
  | [], session, state => (session, state)
  | event :: events, session, state =>
    let (_, session, state) := session.onReadable lib handler event.stale event.results state
    readEvents events session state

/-- The session will not call `::read` again: it is closed, or its buffer is full. -/
def Session.StoppedReading (session : Session) : Prop :=
  session.state = .closed ∨ maxBufferSize ≤ session.side.buffer.capacity

/-- The invariant of a session between two events. -/
def Session.Reads (session : Session) : Prop :=
  (session.state = .active ∧ Tracks lib session.side) ∨
    (session.state = .closed ∧ session.side.dispatched = requests lib session.side.received ∧
      Stopped newline (heard lib) session.side.received)

theorem beginReading_active {session : Session} (active : session.state = .active) :
    session.beginReading = some { session with state := .reading } := by
  rw [Session.beginReading, if_neg (by rw [active]; exact fun both => both.1 rfl)]

/-- A session that may read only changes its state. -/
theorem beginReading_eq_some {session opened : Session}
    (begun : session.beginReading = some opened) :
    opened = { session with state := .reading } := by
  obtain ⟨-, same⟩ := Option.ite_none_left_eq_some.mp begun
  exact (Option.some.inj same).symm

theorem beginReading_closed {session : Session} (closed : session.state = .closed) :
    session.beginReading = none := by
  rw [Session.beginReading, if_pos (by rw [closed]; decide)]

/-- What `on_readable` does to a session that it does not refuse. -/
theorem onReadable_begun {session opened : Session} (begun : session.beginReading = some opened)
    (stale : Errno) (results : List ReadResult) (state : σ) :
    session.onReadable lib handler stale results state =
      (let ended := readLoop lib (handleMessage lib handler) stale results session.side
        (session.writeBuffer, state)
      (ended.1, Session.finishReading
        { session with state := .reading, side := ended.2.1, writeBuffer := ended.2.2.1 } ended.1,
        ended.2.2.2)) := by
  simp only [Session.onReadable, begun, beginReading_eq_some begun]

theorem onReadable_active {session : Session} (active : session.state = .active) (stale : Errno)
    (results : List ReadResult) (state : σ) :
    session.onReadable lib handler stale results state =
      (let ended := readLoop lib (handleMessage lib handler) stale results session.side
        (session.writeBuffer, state)
      (ended.1, Session.finishReading
        { session with state := .reading, side := ended.2.1, writeBuffer := ended.2.2.1 } ended.1,
        ended.2.2.2)) :=
  onReadable_begun lib handler (beginReading_active active) stale results state

theorem onReadable_closed {session : Session} (closed : session.state = .closed) (stale : Errno)
    (results : List ReadResult) (state : σ) :
    session.onReadable lib handler stale results state = (false, session, state) := by
  simp only [Session.onReadable, beginReading_closed closed]

/-- The two ends of `on_readable`, on the reading side. -/
theorem finishReading_side (session : Session) (stays : Bool) :
    (session.finishReading stays).side.received = session.side.received ∧
      (session.finishReading stays).side.dispatched = session.side.dispatched := by
  unfold Session.finishReading Session.close
  split_ifs <;> exact ⟨rfl, rfl⟩

theorem received_onReadable (session : Session) (stale : Errno) (results : List ReadResult)
    (state : σ) :
    session.side.received
      <+: (session.onReadable lib handler stale results state).2.1.side.received := by
  unfold Session.onReadable
  cases begun : session.beginReading with
  | none => exact List.prefix_refl _
  | some reading =>
    rw [beginReading_eq_some begun]
    show session.side.received <+: (Session.finishReading _ _).side.received
    rw [(finishReading_side _ _).1]
    exact received_readLoop lib _ stale results session.side _

theorem received_readEvents (events : List ReadEvent) (session : Session) (state : σ) :
    session.side.received <+: (readEvents lib handler events session state).1.side.received := by
  induction events generalizing session state with
  | nil => exact List.prefix_refl _
  | cons event events ih =>
    exact (received_onReadable lib handler session event.stale event.results state).trans (ih _ _)

variable {lib}

/-- **One event keeps the invariant.** -/
theorem Session.Reads.onReadable {session : Session} (reads : session.Reads lib)
    {event : ReadEvent} (delivers : event.Delivers) (state : σ)
    (bounded : RunsAtMost newline maxRun
      (session.onReadable lib handler event.stale event.results state).2.1.side.received) :
    (session.onReadable lib handler event.stale event.results state).2.1.Reads lib := by
  rcases reads with ⟨active, tracks⟩ | ⟨closed, dispatched, stopped⟩
  · rw [onReadable_active lib handler active] at bounded ⊢
    rw [(finishReading_side _ _).1] at bounded
    obtain ⟨kept, ended⟩ :=
      tracks.readLoop (handleMessage lib handler) event.stale delivers _ bounded
    cases stays : (readLoop lib (handleMessage lib handler) event.stale event.results session.side
        (session.writeBuffer, state)).1 with
    | true =>
      refine Or.inl ⟨?_, ?_⟩
      · simp only [stays]
        rfl
      · simp only [stays]
        exact kept
    | false =>
      refine Or.inr ⟨?_, ?_, ?_⟩
      · simp only [stays]
        rfl
      · show (Session.finishReading _ _).side.dispatched
          = requests lib (Session.finishReading _ _).side.received
        rw [(finishReading_side _ _).1, (finishReading_side _ _).2]
        exact kept.dispatched
      · show Stopped newline (heard lib) (Session.finishReading _ _).side.received
        rw [(finishReading_side _ _).1]
        exact ended stays
  · rw [onReadable_closed lib handler closed]
    exact Or.inr ⟨closed, dispatched, stopped⟩

/-- **Every event keeps the invariant.** -/
theorem Session.Reads.readEvents {events : List ReadEvent}
    (delivers : ∀ event ∈ events, event.Delivers) {session : Session} (reads : session.Reads lib)
    (state : σ)
    (bounded : RunsAtMost newline maxRun
      (Ipc.readEvents lib handler events session state).1.side.received) :
    (Ipc.readEvents lib handler events session state).1.Reads lib := by
  induction events generalizing session state with
  | nil => exact reads
  | cons event events ih =>
    refine ih (fun other member => delivers other (List.mem_cons_of_mem _ member)) ?_ _ bounded
    refine reads.onReadable handler (delivers event List.mem_cons_self) state ?_
    exact bounded.of_infix (received_readEvents lib handler events _ _).isInfix

theorem Session.Reads.dispatched {session : Session} (reads : session.Reads lib) :
    session.side.dispatched = requests lib session.side.received := by
  rcases reads with ⟨-, tracks⟩ | ⟨-, dispatched, -⟩
  · exact tracks.dispatched
  · exact dispatched

theorem Session.Reads.stopped {session : Session} (reads : session.Reads lib)
    (stoppedReading : session.StoppedReading) :
    Stopped newline (heard lib) session.side.received := by
  rcases reads with ⟨active, tracks⟩ | ⟨-, -, stopped⟩
  · rcases stoppedReading with closed | full
    · rw [active] at closed
      cases closed
    · exact tracks.room.stopped_of_full full
  · exact stopped

/-- The session has read the whole stream, or part of it and will not read on. -/
def Session.DoneWith (session : Session) (stream : Bytes) : Prop :=
  session.side.received = stream ∨
    (session.side.received <+: stream ∧ session.StoppedReading)

theorem Session.DoneWith.received_prefix {session : Session} {stream : Bytes}
    (done : session.DoneWith stream) : session.side.received <+: stream := by
  rcases done with same | ⟨part, -⟩
  · rw [same]
  · exact part

/-- **A session that is done with a stream has dispatched the stream's requests.** -/
theorem Session.Reads.dispatched_of_doneWith {session : Session} (reads : session.Reads lib)
    {stream : Bytes} (done : session.DoneWith stream) :
    session.side.dispatched = requests lib stream := by
  rw [reads.dispatched]
  rcases done with same | ⟨⟨rest, cut⟩, stopped⟩
  · rw [same]
  · rw [← cut, requests, requests, (reads.stopped stopped).accepted_append]

theorem reads_create (fd : Int32) (id : Nat) : (Session.create fd id).Reads lib :=
  Or.inl ⟨rfl, tracks_fresh lib⟩

/-- A new session that is done with a stream still satisfies its invariant. -/
theorem reads_of_doneWith {fd : Int32} {id : Nat} {state : σ} {stream : Bytes}
    (bounded : RunsAtMost newline maxRun stream) {events : List ReadEvent}
    (delivers : ∀ event ∈ events, event.Delivers)
    (done : (Ipc.readEvents lib handler events (Session.create fd id) state).1.DoneWith stream) :
    (Ipc.readEvents lib handler events (Session.create fd id) state).1.Reads lib :=
  (reads_create fd id).readEvents handler delivers state
    (bounded.of_infix done.received_prefix.isInfix)

/-- A short stream that arrives at once is read at once. -/
theorem received_at_once (fd : Int32) (id : Nat) (state : σ) {stream : Bytes} (some : stream ≠ [])
    (short : stream.length ≤ 4096) :
    (Ipc.readEvents lib handler [⟨.again, [.data stream]⟩] (Session.create fd id)
      state).1.side.received = stream := by
  have space : (prepared ReadSide.fresh.buffer).availableForWrite = 4096 := by
    obtain ⟨zero, pending, size⟩ := prepared_spec (tracks_fresh lib).start
    rw [IOBuffer.availableForWrite_of_readPos zero, pending, size, capacity_fresh]
    rfl
  have active : (Session.create fd id).state = .active := rfl
  have side : (Session.create fd id).side = .fresh := rfl
  have read := received_readLoop_single lib (handleMessage lib handler) .again not_full_fresh some
    (by rw [space]; exact short) ((Session.create fd id).writeBuffer, state)
  simp only [Ipc.readEvents, onReadable_active lib handler active, (finishReading_side _ _).1]
  rw [side, read]
  rfl

end Events

/-- **The dispatched requests do not depend on how the stream is cut.** When newline-free runs have
at most 523264 bytes, a session that has read the stream, or has stopped reading it, has dispatched
the requests on the complete lines before the first one for which the parser gives nothing. -/
theorem dispatched_eq_requests {σ : Type} (lib : Nlohmann) (handler : MessageHandler σ) (fd : Int32)
    (id : Nat) (state : σ) (stream : Bytes) (bounded : RunsAtMost newline maxRun stream)
    (events : List ReadEvent) (delivers : ∀ event ∈ events, event.Delivers)
    (done : (readEvents lib handler events (Session.create fd id) state).1.DoneWith stream) :
    (readEvents lib handler events (Session.create fd id) state).1.side.dispatched
      = requests lib stream := by
  have reads := reads_of_doneWith handler bounded delivers done
  exact reads.dispatched_of_doneWith done

/-- A handler that schedules nothing. -/
def quietHandler : MessageHandler Unit := fun _ _ => ([], ())

theorem delivers_at_once {stream : Bytes} (some : stream ≠ []) :
    ∀ event ∈ [(⟨.again, [.data stream]⟩ : ReadEvent)], event.Delivers := by
  rw [List.forall_mem_singleton]
  show ∀ result ∈ [ReadResult.data stream], result.Delivers
  rw [List.forall_mem_singleton]
  exact some

/-- Two requests, a blank line, and a request that the blank line hides. -/
def threeRequests : Bytes :=
  ascii ("\x7b\"method\":\"a\"\x7d\n\x7b\"method\":\"b\"\x7d\n" ++
    "\n\x7b\"method\":\"c\"\x7d\n")

/-- The same bytes, cut inside lines, in five reads of three events. -/
def threeRequestsCut : List ReadEvent :=
  [⟨.again, [.data (threeRequests.take 5), .data ((threeRequests.drop 5).take 20)]⟩,
    ⟨.other, [.failed .again]⟩,
    ⟨.other, [.data ((threeRequests.drop 25).take 1), .data ((threeRequests.drop 26).take 6),
      .data (threeRequests.drop 32), .failed .again]⟩]

theorem dispatched_eq_requests_blank_line :
    (readEvents compact quietHandler threeRequestsCut (Session.create 7 1) ()).1.side.dispatched
      = requests compact threeRequests := by
  have received : (readEvents compact quietHandler threeRequestsCut (Session.create 7 1)
      ()).1.side.received = threeRequests := by
    decide +kernel
  exact dispatched_eq_requests compact quietHandler 7 1 () threeRequests
    (.of_length_le (by decide)) threeRequestsCut (by decide) (Or.inl received)

/-! ### No line left out -/

section AllLines

variable (lib : Nlohmann)

/-- The request of a line whose trimmed text is JSON that the decoder accepts as a request. -/
def lineRequest (line : Bytes) : Option RequestMessage :=
  (trim line).bind fun text =>
    match lib.parse text with
    | .error _ => none
    | .ok json =>
      match JsonMessage.fromJson json with
      | .accepted message => if message.isRequest then some message.toRequest else none
      | .rejected => none
      | .thrown _ => none

/-- A parse error is not a request, so the parser gives no other requests. -/
theorem requestOf_eq_lineRequest {line : Bytes} (short : line.length < defaultMaxMessageSize) :
    requestOf lib line = lineRequest lib line := by
  rw [requestOf, lineVerdict_of_lt lib short, lineRequest, Option.bind_assoc]
  congr 1
  funext text
  unfold parseText
  cases lib.parse text with
  | error error => rfl
  | ok json =>
    dsimp only
    cases JsonMessage.fromJson json with
    | accepted message => rfl
    | rejected => rfl
    | thrown error => rfl

theorem heard_eq_false_iff {line : Bytes} (short : line.length < defaultMaxMessageSize) :
    heard lib line = false ↔ Skipped lib line := by
  rw [heard, Option.isSome_eq_false_iff, Option.isNone_iff_eq_none, lineVerdict_eq_none_iff]
  exact and_iff_right short

theorem requestOf_of_not_heard (line : Bytes) (unheard : heard lib line = false) :
    requestOf lib line = none := by
  rw [heard, Option.isSome_eq_false_iff, Option.isNone_iff_eq_none] at unheard
  rw [requestOf, unheard]
  rfl

end AllLines

/-- **When no request is left out.** Under the same bound, a session dispatches the requests of all
complete lines of a stream if and only if no request line follows a line that is blank or is JSON
but not a message. -/
theorem dispatched_all_iff {σ : Type} (lib : Nlohmann) (handler : MessageHandler σ) (fd : Int32)
    (id : Nat) (state : σ) (stream : Bytes) (bounded : RunsAtMost newline maxRun stream)
    (events : List ReadEvent) (delivers : ∀ event ∈ events, event.Delivers)
    (done : (readEvents lib handler events (Session.create fd id) state).1.DoneWith stream) :
    (readEvents lib handler events (Session.create fd id) state).1.side.dispatched
        = (lines newline stream).filterMap (lineRequest lib)
      ↔ ∀ before line after, lines newline stream = before ++ line :: after → Skipped lib line →
          ∀ later ∈ after, lineRequest lib later = none := by
  have reads := reads_of_doneWith handler bounded delivers done
  have short : ∀ line ∈ lines newline stream, line.length < defaultMaxMessageSize := by
    intro line member
    exact Nat.lt_of_le_of_lt (bounded.length_line_le member) (by decide)
  have given : ∀ line ∈ lines newline stream, lineRequest lib line = requestOf lib line :=
    fun line member => (requestOf_eq_lineRequest lib (short line member)).symm
  rw [reads.dispatched_of_doneWith done, requests, List.filterMap_congr given,
    filterMap_accepted_eq_iff (requestOf_of_not_heard lib)]
  constructor
  · intro clean before line after cut skipped later member
    have inside : line ∈ lines newline stream := by
      rw [cut]
      exact List.mem_append_right _ List.mem_cons_self
    have laterInside : later ∈ lines newline stream := by
      rw [cut]
      exact List.mem_append_right _ (List.mem_cons_of_mem _ member)
    rw [given later laterInside]
    exact clean before line after cut ((heard_eq_false_iff lib (short line inside)).mpr skipped)
      later member
  · intro clean before line after cut unheard later member
    have inside : line ∈ lines newline stream := by
      rw [cut]
      exact List.mem_append_right _ List.mem_cons_self
    have laterInside : later ∈ lines newline stream := by
      rw [cut]
      exact List.mem_append_right _ (List.mem_cons_of_mem _ member)
    rw [← given later laterInside]
    exact clean before line after cut ((heard_eq_false_iff lib (short line inside)).mp unheard)
      later member

/-- A blank line in front of a request. -/
def blankThenCall : Bytes := ascii "\n\x7b\"method\":\"a\"\x7d\n"

/-- The session stops at the blank line, and the request behind it is never dispatched. -/
theorem dispatched_all_fails_after_blank :
    ¬ ∀ (lib : Nlohmann) (stream : Bytes) (events : List ReadEvent),
      RunsAtMost newline maxRun stream → (∀ event ∈ events, event.Delivers) →
      (readEvents lib quietHandler events (Session.create 7 1) ()).1.DoneWith stream →
      (readEvents lib quietHandler events (Session.create 7 1) ()).1.side.dispatched
        = (lines newline stream).filterMap (lineRequest lib) := by
  intro all
  have some : blankThenCall ≠ [] := by decide
  have bounded : RunsAtMost newline maxRun blankThenCall := .of_length_le (by decide)
  have done : (readEvents compact quietHandler [⟨.again, [.data blankThenCall]⟩]
      (Session.create 7 1) ()).1.DoneWith blankThenCall :=
    Or.inl (received_at_once quietHandler 7 1 () some (by decide))
  have claimed := all compact _ _ bounded (delivers_at_once some) done
  have reads := reads_of_doneWith quietHandler bounded (delivers_at_once some) done
  rw [reads.dispatched_of_doneWith done] at claimed
  exact absurd (congrArg List.length claimed) (by decide +kernel)

/-- A blank line behind the last request hides nothing. -/
theorem dispatched_all_blank_last :
    (readEvents compact quietHandler [⟨.again, [.data (ascii "\x7b\"method\":\"a\"\x7d\n\n")]⟩]
      (Session.create 7 1) ()).1.side.dispatched
      = (lines newline (ascii "\x7b\"method\":\"a\"\x7d\n\n")).filterMap (lineRequest compact) := by
  refine (dispatched_all_iff compact quietHandler 7 1 () _ (.of_length_le (by decide)) _
    (delivers_at_once (by decide))
    (Or.inl (received_at_once quietHandler 7 1 () (by decide) (by decide)))).mpr ?_
  have split : lines newline (ascii "\x7b\"method\":\"a\"\x7d\n\n")
      = [ascii "\x7b\"method\":\"a\"\x7d", []] := by decide
  intro before line after cut _ later member
  rw [split] at cut
  rcases before with _ | ⟨first, _ | ⟨second, before⟩⟩
  · cases cut
    rw [List.mem_singleton] at member
    rw [member]
    rfl
  · cases cut
    cases member
  · cases before <;> cases cut

end DemoDaemon.Ipc
