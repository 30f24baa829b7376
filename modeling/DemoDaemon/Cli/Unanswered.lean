/-
**The client program and the server.**

The client talks to the server of this repository, with any command handler behind it. While the
client waits in a `::recv` the server handles any events, of this client and of others; what it
writes to the client's session arrives in any pieces. What the server reads is given with the
events, so the statement holds for whatever the clients have sent.

* `writtenTo`, `Peer.handle`: what an event writes to the session, and a step of the server.
* `Peer.recv`, `peerSocket`: the client's end.
* `wire_handleAll`: nothing ever arrives, since the server never writes.
* **`recvLoop_unanswered`**: so every receive loop ends without a response.
* **`exit_zero_iff_help`**: and the client's exit code is 0 only for `--help`, whatever it asked and
  whatever the server did about it.
-/

import DemoDaemon.Cli.Conversation
import DemoDaemon.Cli.Program
import DemoDaemon.Ipc.Replies

namespace DemoDaemon.Cli

open Foundation DemoDaemon.Ipc

/-! ### The server at the other end -/

/-- What `::write` calls with such answers take of the bytes that are to be sent. -/
def takenBy : List WriteResult → Bytes → Bytes
  | [], _ => []
  | .wrote count :: results, pending => pending.take count ++ takenBy results (pending.drop count)
  | .failed _ :: results, pending => takenBy results pending

/-- The events that the server has handled, and what it has written to the client's session that the
client has not received. -/
structure Peer where
  events : List ServerEvent
  wire : Bytes

/-- A connection that has just been made. -/
def Peer.connected (events : List ServerEvent) : Peer := ⟨events, []⟩

/-- What happens outside during one `::recv`: the server handles some events, and the call gets its
answer. -/
structure ServerTurn where
  events : List ServerEvent
  delivery : Delivery

section Peer

variable {χ : Type} (lib : Nlohmann) (handler : CommandHandler χ) (maxConnections : Nat) (state : χ)
  (id : Nat)

/-- What an event writes to the session with an id. -/
def writtenTo (world : World χ) : ServerEvent → Bytes
  | .client event =>
    match world.server.manager.getSessionByFd event.fd with
    | none => []
    | some session =>
      if session.id = id then
        let read := if event.readable then clientReadable lib handler event session world
          else (true, world)
        takenBy (clientWrites lib handler world event) (read.2.current session).writeBuffer.pending
      else []
  | _ => []

/-- The server handles an event. -/
def Peer.handle (peer : Peer) (event : ServerEvent) : Peer :=
  ⟨peer.events ++ [event], peer.wire ++
    writtenTo lib handler id (serve lib handler maxConnections state peer.events) event⟩

def Peer.handleAll (peer : Peer) (events : List ServerEvent) : Peer :=
  events.foldl (Peer.handle lib handler maxConnections state id) peer

/-- `::recv`. -/
def Peer.recv (room : Nat) (peer : Peer) (turn : ServerTurn) : RecvResult × Peer :=
  let peer := peer.handleAll lib handler maxConnections state id turn.events
  let answered := turn.delivery.answer room peer.wire
  (answered.1, { peer with wire := answered.2 })

/-- The client's end of the connection. -/
def peerSocket : Socket Peer ServerTurn :=
  ⟨fun peer _ => peer, Peer.recv lib handler maxConnections state id⟩

/-! ### Nothing arrives -/

/-- **Step.** -/
theorem wire_handle (peer : Peer) (event : ServerEvent) :
    (peer.handle lib handler maxConnections state id event).wire = peer.wire := by
  have none : writtenTo lib handler id (serve lib handler maxConnections state peer.events) event
      = [] := by
    unfold writtenTo
    cases event with
    | accept results => rfl
    | closeAll => rfl
    | client event =>
      have noWrites : clientWrites lib handler
          (serve lib handler maxConnections state peer.events) event = [] :=
        ((unsent_serve maxConnections state peer.events).clientEvent
          (recorded_serve maxConnections state peer.events) event).2
      dsimp only
      rw [noWrites]
      split
      · rfl
      · split_ifs <;> rfl
  exact (congrArg (peer.wire ++ ·) none).trans (List.append_nil _)

/-- **Run.** -/
theorem wire_handleAll (peer : Peer) (events : List ServerEvent) :
    (peer.handleAll lib handler maxConnections state id events).wire = peer.wire := by
  induction events generalizing peer with
  | nil => rfl
  | cons event events ih =>
    refine (ih (peer.handle lib handler maxConnections state id event)).trans ?_
    exact wire_handle lib handler maxConnections state id peer event

/-- **Step.** A `::recv` meets the end of the stream or fails. -/
theorem recv_unanswered {peer : Peer} (nothing : peer.wire = []) {room : Nat} (some : 0 < room)
    (turn : ServerTurn) :
    ∃ result after, (peerSocket lib handler maxConnections state id).recv room peer turn
        = (result, after) ∧ after.wire = [] ∧
      (result = .data [] ∨ ∃ error, result = .failed error) := by
  have still : (peer.handleAll lib handler maxConnections state id turn.events).wire = [] :=
    (wire_handleAll lib handler maxConnections state id peer turn.events).trans nothing
  show ∃ result after, Peer.recv lib handler maxConnections state id room peer turn
    = (result, after) ∧ _
  unfold Peer.recv
  dsimp only
  rw [still]
  rcases turn.delivery.answer_cases some [] with
    ⟨error, failed⟩ | ⟨-, closed⟩ | ⟨count, arrived, -⟩
  · rw [failed]
    exact ⟨_, _, rfl, rfl, .inr ⟨error, rfl⟩⟩
  · rw [closed]
    exact ⟨_, _, rfl, rfl, .inl rfl⟩
  · exact absurd List.take_nil arrived

/-- **Run.** Every receive loop ends without a response. -/
theorem recvLoop_unanswered (turns : List ServerTurn) {peer : Peer} (nothing : peer.wire = [])
    (raw : Bytes) :
    (recvLoop (peerSocket lib handler maxConnections state id) turns [] peer).1 ≠ .ok raw := by
  induction turns generalizing peer with
  | nil => rintro ⟨⟩
  | cons turn turns ih =>
    obtain ⟨result, after, received, still, rfl | ⟨error, rfl⟩⟩ :=
      recv_unanswered lib handler maxConnections state id nothing (Nat.succ_pos 4094) turn
    · rw [recvLoop, received]
      rintro ⟨⟩
    · rw [recvLoop, received]
      dsimp only
      split_ifs
      · exact ih still
      · rintro ⟨⟩
      · rintro ⟨⟩

/-- **The client succeeds only with `--help`.** For every command handler, every run of the server
before the connection and every interleaving of its events with the calls of the client, whatever
the environment, the words, the kernel and the clock: the exit code of the client is 0 if and only if
`--help` was among its options. -/
theorem exit_zero_iff_help (dumpIndented : Json → Except Exn Bytes) (program : Bytes)
    (screen : Screen) (environment : Environment) (words : List Bytes)
    (outside : Outside ServerTurn) (events : List ServerEvent) :
    (clientMain lib dumpIndented (peerSocket lib handler maxConnections state id) program screen
        environment words outside (.connected events)).exit = .code 0
      ↔ (parseOptions environment words).help = true := by
  refine (clientMain_exit_iff lib dumpIndented _ program screen environment words outside _).trans
    (or_iff_left ?_)
  rintro ⟨-, -, zero⟩
  obtain ⟨method, params, data, -, ⟨text, raw, -, -, received, -⟩, -⟩ :=
    (mainConnected_exit_iff lib dumpIndented _ program screen _ outside _).mp zero
  exact recvLoop_unanswered lib handler maxConnections state id outside.turns rfl raw received

end Peer

end DemoDaemon.Cli
