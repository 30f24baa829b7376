/-
**The server's event loop** (`unix_socket_server.cpp`).

One thread handles one event at a time, so a run of the server is a list of events: an accept
notification with the answers of `accept4`, readiness of a client socket with the answers of
`::read` and `::write`, or `close_all`. The command handler is a parameter with a state of its own.

The closure that the accept loop gives to a session is `onRequest`. It does not know its session:
it looks one up, by the id of the request read as a descriptor. `messageHandler` adds a record of
the call (`Dispatch`) for the proofs; so do `executed`, the requests the command handler ran on, and
`calls`, the descriptors accepted and closed.

The source captures the command handler by reference to a parameter of the call that accepts; the
model has it valid for as long as the session lives.
-/

import DemoDaemon.Ipc.OnMessage
import DemoDaemon.Ipc.ConnectionManager

namespace DemoDaemon.Ipc

open Foundation

/-! ### State -/

/-- System calls on client descriptors, as they are made. -/
inductive SystemCall where
  | accept4 (result : Except Errno Int32)
  | close (fd : Int32)

structure Server (χ : Type) where
  manager : ConnectionManager
  nextSessionId : Nat
  state : χ
  executed : List RequestMessage
  calls : List SystemCall

/-- One call of a session's message handler: the session, the request, and the server around it. -/
structure Dispatch (χ : Type) where
  fd : Int32
  id : Nat
  request : RequestMessage
  before : Server χ
  after : Server χ

/-- The server with the record of all handler calls so far. -/
structure World (χ : Type) where
  server : Server χ
  dispatches : List (Dispatch χ)

def Server.start {χ : Type} (state : χ) : Server χ := ⟨.empty, 0, state, [], []⟩

def World.start {χ : Type} (state : χ) : World χ := ⟨.start state, []⟩

section Events

variable {χ : Type}

def Server.put (server : Server χ) (session : Session) : Server χ :=
  { server with manager := server.manager.put session }

def Server.log (server : Server χ) (calls : List SystemCall) : Server χ :=
  { server with calls := server.calls ++ calls }

def World.put (world : World χ) (session : Session) : World χ :=
  { world with server := world.server.put session }

/-- The session behind a `shared_ptr`, as it is now. -/
def World.current (world : World χ) (session : Session) : Session :=
  (world.server.manager.sessionsById.lookup session.id).getD session

/-- `~Session()`: the descriptor is closed. -/
def Session.destroyed (session : Session) : List SystemCall :=
  if 0 ≤ session.fd then [.close session.fd] else []

variable (lib : Nlohmann) (handler : CommandHandler χ)

/-! ### The closure of a session -/

/-- `static_cast<int>(msg.id.value_or(0))`. -/
def routedFd (request : RequestMessage) : Int32 := (request.id.getD 0).toInt32

/-- The message handler that the accept loop builds. What `on_message` throws, `handle_message`
catches. -/
def Server.onRequest (server : Server χ) (request : RequestMessage) : Server χ :=
  match server.manager.getSessionByFd (routedFd request) with
  | none => server
  | some session =>
    match onMessage lib handler server.state request session with
    | (.ok session, state) =>
      { server.put session with state, executed := server.executed ++ [request] }
    | (.error _, state) => { server with state, executed := server.executed ++ [request] }

/-- The message handler of one session, with its record. -/
def messageHandler (fd : Int32) (id : Nat) (world : World χ) (request : RequestMessage) : World χ :=
  let after := world.server.onRequest lib handler request
  ⟨after, world.dispatches ++ [⟨fd, id, request, world.server, after⟩]⟩

/-! ### Client events -/

/-- Readiness of a client socket, with the answers the calls on it will get. The source keeps the
descriptor in the event's pointer, where 0 means the listening socket; nothing here needs that it is
another one. -/
structure ClientEvent where
  fd : Int32
  /-- `EPOLLIN`, `EPOLLERR` or `EPOLLHUP`. -/
  readable : Bool
  /-- `EPOLLOUT`. -/
  writable : Bool
  stale : Errno
  reads : List ReadResult
  writes : List WriteResult

/-- `session->on_readable()`. The handler runs in the middle of it and works on the server, where
the session's write buffer is; the reading side is the session's own. -/
def clientReadable (event : ClientEvent) (session : Session) (world : World χ) : Bool × World χ :=
  match session.beginReading with
  | none => (false, world)
  | some session =>
    let ended := readLoop lib (messageHandler lib handler session.fd session.id) event.stale
      event.reads session.side (world.put session)
    let session := { ended.2.2.current session with side := ended.2.1 }
    (ended.1, ended.2.2.put (session.finishReading ended.1))

/-- `session->on_writable()`. -/
def clientWritable (event : ClientEvent) (session : Session) (world : World χ) : Bool × World χ :=
  let written := (world.current session).onWritable event.stale event.writes
  (written.1, world.put written.2.1)

/-- `handle_epoll_event`, client branch. -/
def clientEvent (world : World χ) (event : ClientEvent) : World χ :=
  match world.server.manager.getSessionByFd event.fd with
  | none => world
  | some session =>
    let read := if event.readable then clientReadable lib handler event session world
      else (true, world)
    let written := if read.1 && event.writable then clientWritable event session read.2 else read
    let session := written.2.current session
    if !written.1 || session.isClosed then
      let server := written.2.server
      { written.2 with
        server := { server with manager := server.manager.removeSessionByFd event.fd }.log
          session.destroyed }
    else written.2

/-! ### Accepting -/

/-- One answer of `accept4`, and for a connection whether `initialize` and `add_to_epoll`
succeed. -/
inductive AcceptResult where
  | failed (errno : Errno)
  | accepted (fd : Int32) (flagsRead flagsSet registered : Bool)

/-- The accept loop of `handle_epoll_event`. -/
def acceptLoop (maxConnections : Nat) : List AcceptResult → Server χ → Server χ
  | [], server => server.log [.accept4 (.error .again)]
  | .failed errno :: _, server => server.log [.accept4 (.error errno)]
  | .accepted fd flagsRead flagsSet registered :: results, server =>
    let server := server.log [.accept4 (.ok fd)]
    if maxConnections ≤ server.manager.sessionCount then server.log [.close fd]
    else
      let session := Session.create fd (server.nextSessionId + 1)
      let server := { server with nextSessionId := server.nextSessionId + 1 }
      let initialized := session.initializeSession flagsRead flagsSet
      if !initialized.1 then
        -- the session is destroyed on the way to the next round
        acceptLoop maxConnections results (server.log (.close fd :: initialized.2.destroyed))
      else
        let server := { server with manager := server.manager.addSession initialized.2 }
        if !registered then
          acceptLoop maxConnections results
            ({ server with manager := server.manager.removeSessionByFd fd }.log
              (.close fd :: initialized.2.destroyed))
        else acceptLoop maxConnections results server

/-! ### Runs -/

inductive ServerEvent where
  | accept (results : List AcceptResult)
  | client (event : ClientEvent)
  | closeAll

def handleEvent (maxConnections : Nat) (world : World χ) : ServerEvent → World χ
  | .accept results => { world with server := acceptLoop maxConnections results world.server }
  | .client event => clientEvent lib handler world event
  | .closeAll =>
    let sessions := world.server.manager.sessionsById.entries.map fun entry => entry.2
    { world with
      server := { world.server with manager := world.server.manager.closeAll }.log
        (sessions.flatMap Session.destroyed) }

/-- A run of the server. -/
def serve (maxConnections : Nat) (state : χ) (events : List ServerEvent) : World χ :=
  events.foldl (handleEvent lib handler maxConnections) (.start state)

end Events

end DemoDaemon.Ipc
