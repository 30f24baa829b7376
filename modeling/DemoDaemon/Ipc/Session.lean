/-
**A session** (`session_manager.cpp`): one client connection.

The environment is a script: what `::read` and `::write` answer, call by call, and the value
`errno` happens to have. The message handler is a parameter on a state of its own, so the same
loops serve a session alone and a session inside the server.

* `ReadSide`: the read buffer, with two records no code reads: what `::read` has delivered and
  what was handed to `handle_message`.
* `tryParseMessages`, `readFromSocket`, `readLoop`: the input path.
* `enqueue`, `writeLoop`: the output path.
* `Session.initializeSession`, `onReadable`, `onWritable`, `scheduleSend`, `scheduleSendError`,
  `close`: the operations, with the state field as the source sets it.
-/

import DemoDaemon.Ipc.Parser
import DemoDaemon.Ipc.Buffer

namespace DemoDaemon.Ipc

open Foundation

/-! ### The environment -/

/-- What `errno` says: `EAGAIN`/`EWOULDBLOCK`, or anything else. -/
inductive Errno where
  | again
  | other
deriving DecidableEq

/-- One answer of `::read`: the bytes that have arrived (none at the end of the stream), of which
it delivers as many as there is room for; or -1. -/
inductive ReadResult where
  | data (bytes : Bytes)
  | failed (errno : Errno)

/-- One answer of `::write`: how many bytes it would take, or -1. -/
inductive WriteResult where
  | wrote (count : Nat)
  | failed (errno : Errno)
deriving DecidableEq

/-! ### Input -/

/-- `static constexpr size_t MAX_BUFFER_SIZE`, 1 MiB. -/
def maxBufferSize : Nat := 1024 * 1024

/-- The reading side of a session. `received` and `dispatched` are records for the proofs. -/
structure ReadSide where
  buffer : IOBuffer
  received : Bytes
  dispatched : List RequestMessage

def ReadSide.fresh : ReadSide := ⟨.empty, [], []⟩

/-- What `read_from_socket` returns: a positive count, with the bytes; zero; or -1. -/
inductive ReadReturn where
  | received (bytes : Bytes)
  | endOfStream
  | failed (errno : Errno)

/-- Compact the buffer, and double it when less than 1024 bytes are free. -/
def prepared (buffer : IOBuffer) : IOBuffer :=
  let compacted :=
    if 0 < buffer.readPos ∧ 0 < buffer.availableForRead then buffer.compact else buffer
  let newSize := min (compacted.capacity * 2) maxBufferSize
  if grows : compacted.availableForWrite < 1024 ∧ compacted.capacity < newSize then
    compacted.resize newSize (Nat.le_trans compacted.inside (Nat.le_of_lt grows.2))
  else compacted

/-- `read_from_socket()`. A full buffer is refused without a call, so the caller finds an `errno`
that nothing here has set. -/
def readFromSocket (stale : Errno) (buffer : IOBuffer) (result : ReadResult) :
    ReadReturn × IOBuffer :=
  if maxBufferSize ≤ buffer.capacity then (.failed stale, buffer)
  else
    let buffer := prepared buffer
    match result with
    | .failed errno => (.failed errno, buffer)
    | .data bytes =>
      let delivered := bytes.take buffer.availableForWrite
      if delivered.isEmpty then (.endOfStream, buffer)
      else (.received delivered, buffer.fill delivered (List.length_take_le _ _))

section Loops

variable {ω : Type} (lib : Nlohmann) (handle : ω → RequestMessage → ω)

/-- `try_parse_messages()`, for at most `fuel` rounds. -/
def tryParseMessages : Nat → ReadSide → ω → ReadSide × ω
  | 0, side, world => (side, world)
  | fuel + 1, side, world =>
    let result := tryParse lib defaultMaxMessageSize side.buffer.pending
    match result.1 with
    | none => (side, world)
    | some message =>
      let dispatched := if message.isRequest then side.dispatched ++ [message.toRequest]
        else side.dispatched
      let world := if message.isRequest then handle world message.toRequest else world
      let consumed := side.buffer.advanceRead result.2 (by
        rw [← IOBuffer.length_pending]
        exact tryParse_consumed_le lib defaultMaxMessageSize side.buffer.pending)
      tryParseMessages fuel { side with buffer := consumed.compact, dispatched } world

/-- The loop of `on_readable`: read and parse until a read delivers nothing. True when the session
stays open. Behind the last scripted answer nothing more has arrived. -/
def readLoop (stale : Errno) : List ReadResult → ReadSide → ω → Bool × ReadSide × ω
  | [], side, world =>
    match readFromSocket stale side.buffer (.failed .again) with
    | (.failed errno, buffer) => (decide (errno = .again), { side with buffer }, world)
    | (_, buffer) => (false, { side with buffer }, world)
  | result :: results, side, world =>
    match readFromSocket stale side.buffer result with
    | (.received bytes, buffer) =>
      -- every round that goes on consumes a byte
      let parsed := tryParseMessages lib handle (buffer.availableForRead + 1)
        { side with buffer, received := side.received ++ bytes } world
      readLoop stale results parsed.1 parsed.2
    | (.endOfStream, buffer) => (false, { side with buffer }, world)
    | (.failed errno, buffer) => (decide (errno = .again), { side with buffer }, world)

end Loops

/-! ### Output -/

theorem writePos_le_room (buffer : IOBuffer) (json : Bytes) :
    buffer.writePos ≤ buffer.writePos + json.length + 1 := by
  omega

/-- The resized buffer has room for the text and its newline. -/
theorem length_le_room (buffer : IOBuffer) (json : Bytes) :
    (json ++ [newline]).length ≤ (buffer.resize (buffer.writePos + json.length + 1)
      (writePos_le_room buffer json)).availableForWrite := by
  rw [IOBuffer.availableForWrite]
  show _ ≤ (resized buffer.data (buffer.writePos + json.length + 1)).length - buffer.writePos
  rw [length_resized, List.length_append, List.length_singleton]
  omega

/-- The common body of `schedule_send` and `schedule_send_error`. -/
def enqueue (lib : Nlohmann) (buffer : IOBuffer) (message : JsonMessage) : Except Exn IOBuffer :=
  match serialize lib message with
  | .error error => .error error
  | .ok json =>
    if json.isEmpty then .ok buffer
    else
      let room := buffer.resize (buffer.writePos + json.length + 1) (writePos_le_room buffer json)
      .ok (room.fill (json ++ [newline]) (length_le_room buffer json))

def ResponseMessage.message (response : ResponseMessage) : JsonMessage :=
  { id := response.id, result := some response.result }

def ErrorResponseMessage.message (response : ErrorResponseMessage) : JsonMessage :=
  { id := response.id, error := some response.error }

/-- How the write loop ends. -/
inductive WriteEnd where
  | drained
  | blocked
  | failed
deriving DecidableEq

/-- The loop of `on_writable`, with the answers of the `::write` calls it made. A count of zero is
read as an error, with an `errno` that nothing here has set. -/
def writeLoop (stale : Errno) :
    List WriteResult → IOBuffer → List WriteResult → WriteEnd × IOBuffer × List WriteResult
  | results, buffer, attempts =>
    if _pending : buffer.availableForRead = 0 then (.drained, buffer, attempts)
    else
      match results with
      | [] => (.blocked, buffer, attempts ++ [.failed .again])
      | .failed errno :: _ =>
        (if errno = .again then .blocked else .failed, buffer, attempts ++ [.failed errno])
      | .wrote count :: results =>
        if min count buffer.availableForRead = 0 then
          (if stale = .again then .blocked else .failed, buffer, attempts ++ [.wrote count])
        else
          writeLoop stale results (buffer.advanceRead (min count buffer.availableForRead)
            (Nat.min_le_right _ _)).compact (attempts ++ [.wrote count])

/-! ### The session -/

inductive SessionState where
  | active
  | reading
  | writing
  | closing
  | closed
deriving DecidableEq

structure Session where
  fd : Int32
  id : Nat
  state : SessionState
  side : ReadSide
  writeBuffer : IOBuffer

namespace Session

/-- The constructor. -/
def create (fd : Int32) (id : Nat) : Session := ⟨fd, id, .active, .fresh, .empty⟩

/-- `initialize()`, given whether the two `fcntl` calls succeed. -/
def initializeSession (session : Session) (flagsRead flagsSet : Bool) : Bool × Session :=
  if !flagsRead then (false, session)
  else if !flagsSet then (false, session)
  else (true, { session with state := .active })

def isClosed (session : Session) : Bool := session.state == .closed

def close (session : Session) : Session :=
  if session.state = .closed ∨ session.state = .closing then session
  else
    { session with
      side := { session.side with buffer := session.side.buffer.clear }
      writeBuffer := session.writeBuffer.clear
      state := .closed }

def scheduleSend (lib : Nlohmann) (session : Session) (response : ResponseMessage) :
    Except Exn Session :=
  (enqueue lib session.writeBuffer response.message).map fun writeBuffer =>
    { session with writeBuffer }

def scheduleSendError (lib : Nlohmann) (session : Session) (response : ErrorResponseMessage) :
    Except Exn Session :=
  (enqueue lib session.writeBuffer response.message).map fun writeBuffer =>
    { session with writeBuffer }

/-- The head of `on_readable`: refused unless active or reading. -/
def beginReading (session : Session) : Option Session :=
  if session.state ≠ .active ∧ session.state ≠ .reading then none
  else some { session with state := .reading }

/-- The end of `on_readable`: active again, or closed. -/
def finishReading (session : Session) (stays : Bool) : Session :=
  if stays then { session with state := .active } else session.close

/-- `on_writable()`, with the answers of the `::write` calls it made. -/
def onWritable (session : Session) (stale : Errno) (results : List WriteResult) :
    Bool × Session × List WriteResult :=
  if session.state ≠ .writing then (true, { session with state := .active }, [])
  else
    match writeLoop stale results session.writeBuffer [] with
    | (.drained, writeBuffer, attempts) =>
      (true, { session with writeBuffer, state := .active }, attempts)
    | (.blocked, writeBuffer, attempts) => (true, { session with writeBuffer }, attempts)
    | (.failed, writeBuffer, attempts) => (false, { session with writeBuffer }.close, attempts)

end Session

/-! ### A session and its handler -/

/-- What a handler may schedule on the session that called it. -/
inductive Outgoing where
  | response (answer : ResponseMessage)
  | error (answer : ErrorResponseMessage)

def Outgoing.message : Outgoing → JsonMessage
  | .response answer => answer.message
  | .error answer => answer.message

/-- A message handler: on a state of its own, it schedules messages on the session. -/
abbrev MessageHandler (σ : Type) := σ → RequestMessage → List Outgoing × σ

section Handler

variable {σ : Type} (lib : Nlohmann) (handler : MessageHandler σ)

/-- Schedule a list of messages; one that cannot be serialized leaves the buffer as it is. -/
def enqueueAll (buffer : IOBuffer) (outgoing : List Outgoing) : IOBuffer :=
  outgoing.foldl (fun buffer message => (enqueue lib buffer message.message).toOption.getD buffer)
    buffer

/-- `handle_message(msg)`: the handler runs, and the write buffer takes what it scheduled. -/
def handleMessage (world : IOBuffer × σ) (request : RequestMessage) : IOBuffer × σ :=
  let handled := handler world.2 request
  (enqueueAll lib world.1 handled.1, handled.2)

/-- `on_readable()`. -/
def Session.onReadable (stale : Errno) (results : List ReadResult) (session : Session) (state : σ) :
    Bool × Session × σ :=
  match session.beginReading with
  | none => (false, session, state)
  | some session =>
    let (stays, side, writeBuffer, state) :=
      readLoop lib (handleMessage lib handler) stale results session.side
        (session.writeBuffer, state)
    (stays, { session with side, writeBuffer }.finishReading stays, state)

end Handler

end DemoDaemon.Ipc
