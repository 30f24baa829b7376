/-
**Runs of the server**: what every event keeps, for any command handler.

* `Server.Valid`: the connection tables agree, and ids are new. Every event keeps it.
* `Serving`: in the middle of a client event the session is registered under its descriptor, and
  stays so through every call of its message handler. **`Kept.clientEvent`**: what a change to the
  served session and a call of its handler keep, a client event keeps.
* **`recorded_serve`**: in every run, every call of a message handler is made by a registered
  session of a valid server, and does what the closure does.
-/

import DemoDaemon.Ipc.Server

namespace DemoDaemon.Ipc

open Foundation

/-! ### The tables -/

section Tables

variable {χ : Type}

/-- The tables agree, and no session has an id that is still to come. -/
structure Server.Valid (server : Server χ) : Prop where
  consistent : server.manager.Consistent
  bounded : ∀ id session, server.manager.sessionsById.lookup id = some session →
    id ≤ server.nextSessionId

theorem valid_start (state : χ) : (Server.start state).Valid where
  consistent := ConnectionManager.consistent_empty
  bounded id session found := by simp [Server.start, ConnectionManager.empty] at found

theorem Server.Valid.put {server : Server χ} (valid : server.Valid) {session before : Session}
    (stored : server.manager.sessionsById.lookup session.id = some before)
    (sameFd : session.fd = before.fd) : (server.put session).Valid where
  consistent := valid.consistent.put stored sameFd
  bounded id other found := by
    by_cases here : id = session.id
    · subst here
      exact valid.bounded _ before stored
    · refine valid.bounded id other ?_
      rw [← found]
      exact (AList.lookup_insert_ne here).symm

end Tables

/-! ### Sessions keep their descriptor and id -/

theorem close_fd_id (session : Session) :
    session.close.fd = session.fd ∧ session.close.id = session.id := by
  unfold Session.close
  split_ifs <;> exact ⟨rfl, rfl⟩

theorem finishReading_fd_id (session : Session) (stays : Bool) :
    (session.finishReading stays).fd = session.fd ∧
      (session.finishReading stays).id = session.id := by
  unfold Session.finishReading
  split_ifs
  · exact ⟨rfl, rfl⟩
  · exact close_fd_id session

theorem onWritable_fd_id (session : Session) (stale : Errno) (results : List WriteResult) :
    (session.onWritable stale results).2.1.fd = session.fd ∧
      (session.onWritable stale results).2.1.id = session.id := by
  unfold Session.onWritable
  split_ifs
  · exact ⟨rfl, rfl⟩
  · split
    · exact ⟨rfl, rfl⟩
    · exact ⟨rfl, rfl⟩
    · exact close_fd_id _

/-! ### Answering keeps the tables -/

section Answers

variable {χ : Type} (lib : Nlohmann) (handler : CommandHandler χ)

/-- `on_message` changes nothing of a session but its output. -/
theorem onMessage_session {state : χ} {request : RequestMessage} {session after : Session}
    (answered : (onMessage lib handler state request session).1 = .ok after) :
    ∃ writeBuffer, after = { session with writeBuffer } := by
  have scheduled : ∀ message : JsonMessage, ∀ after : Session,
      ((enqueue lib session.writeBuffer message).map fun writeBuffer =>
        { session with writeBuffer }) = .ok after →
      ∃ writeBuffer, after = { session with writeBuffer } := by
    intro message after done
    cases queued : enqueue lib session.writeBuffer message with
    | error error =>
      rw [queued] at done
      cases done
    | ok writeBuffer =>
      rw [queued] at done
      cases done
      exact ⟨writeBuffer, rfl⟩
  unfold onMessage at answered
  rcases called : handler state request with ⟨error | response, next⟩
  · simp only [called] at answered
    exact scheduled _ after answered
  · simp only [called] at answered
    cases sent : session.scheduleSend lib { response with id := request.id } with
    | ok other =>
      rw [sent] at answered
      cases answered
      exact scheduled _ after sent
    | error error =>
      rw [sent] at answered
      exact scheduled _ after answered

/-- What the closure of a session does to the tables: a new output for one stored session. -/
theorem onRequest_manager (server : Server χ) (request : RequestMessage) :
    (server.onRequest lib handler request).nextSessionId = server.nextSessionId ∧
      ((server.onRequest lib handler request).manager = server.manager ∨
        ∃ session writeBuffer,
          server.manager.getSessionByFd (routedFd request) = some session ∧
          (server.onRequest lib handler request).manager
            = server.manager.put { session with writeBuffer }) := by
  unfold Server.onRequest
  cases found : server.manager.getSessionByFd (routedFd request) with
  | none => exact ⟨rfl, Or.inl rfl⟩
  | some session =>
    dsimp only
    rcases answered : onMessage lib handler server.state request session with ⟨error | after, next⟩
    · exact ⟨rfl, Or.inl rfl⟩
    · obtain ⟨writeBuffer, rfl⟩ := onMessage_session lib handler (congrArg Prod.fst answered)
      exact ⟨rfl, Or.inr ⟨session, writeBuffer, rfl, rfl⟩⟩

theorem Server.Valid.onRequest {server : Server χ} (valid : server.Valid)
    (request : RequestMessage) : (server.onRequest lib handler request).Valid := by
  obtain ⟨ids, same | ⟨session, writeBuffer, found, changed⟩⟩ :=
    onRequest_manager lib handler server request
  · refine ⟨by rw [same]; exact valid.consistent, ?_⟩
    rw [same, ids]
    exact valid.bounded
  · obtain ⟨-, stored⟩ := valid.consistent.lookup_of_getSessionByFd found
    have kept : (server.put { session with writeBuffer }).Valid := valid.put stored rfl
    refine ⟨by rw [changed]; exact kept.consistent, ?_⟩
    rw [changed, ids]
    exact kept.bounded

theorem fdToId_onRequest (server : Server χ) (request : RequestMessage) :
    (server.onRequest lib handler request).manager.fdToId = server.manager.fdToId := by
  obtain ⟨-, same | ⟨session, writeBuffer, -, changed⟩⟩ :=
    onRequest_manager lib handler server request
  · rw [same]
  · rw [changed]
    rfl

end Answers

/-! ### Events -/

section Runs

variable {χ : Type} {lib : Nlohmann} {handler : CommandHandler χ}

/-- A call of a message handler, by a registered session of a valid server. -/
structure Called (lib : Nlohmann) (handler : CommandHandler χ) (call : Dispatch χ) : Prop where
  valid : call.before.Valid
  registered : call.before.manager.fdToId.lookup call.fd = some call.id
  result : call.after = call.before.onRequest lib handler call.request

/-- The tables are valid, and so were they at every call so far. -/
structure Recorded (lib : Nlohmann) (handler : CommandHandler χ) (world : World χ) : Prop where
  valid : world.server.Valid
  calls : ∀ call ∈ world.dispatches, Called lib handler call

/-- A session is served: it is registered under its descriptor, in a recorded world. -/
structure Serving (lib : Nlohmann) (handler : CommandHandler χ) (fd : Int32) (id : Nat)
    (world : World χ) : Prop extends Recorded lib handler world where
  registered : world.server.manager.fdToId.lookup fd = some id

theorem recorded_start (state : χ) : Recorded lib handler (World.start state) where
  valid := valid_start state
  calls := nofun

/-- The session behind the pointer is the one stored under its id. -/
theorem Serving.current {world : World χ} (session : Session)
    (serving : Serving lib handler session.fd session.id world) :
    world.server.manager.sessionsById.lookup session.id = some (world.current session) ∧
      (world.current session).fd = session.fd ∧ (world.current session).id = session.id := by
  obtain ⟨own, stored, sameFd⟩ :=
    serving.valid.consistent.registered session.fd session.id serving.registered
  rw [World.current, stored]
  exact ⟨rfl, sameFd, serving.valid.consistent.own_id session.id own stored⟩

/-- A change to the served session keeps it served. -/
theorem Serving.put {world : World χ} {fd : Int32} {id : Nat}
    (serving : Serving lib handler fd id world) {session : Session} (sameFd : session.fd = fd)
    (sameId : session.id = id) :
    Serving lib handler fd id (world.put session) := by
  obtain ⟨own, stored, ownFd⟩ := serving.valid.consistent.registered fd id serving.registered
  rw [← sameId] at stored
  have kept : (world.server.put session).Valid := serving.valid.put stored (sameFd.trans ownFd.symm)
  exact ⟨⟨kept, serving.calls⟩, serving.registered⟩

/-- **Step: a call of the message handler.** -/
theorem Serving.messageHandler {fd : Int32} {id : Nat} (world : World χ) (request : RequestMessage)
    (serving : Serving lib handler fd id world) :
    Serving lib handler fd id (messageHandler lib handler fd id world request) where
  valid := serving.valid.onRequest lib handler request
  calls call among := by
    rcases List.mem_append.mp among with earlier | now
    · exact serving.calls call earlier
    · rw [List.mem_singleton.mp now]
      exact ⟨serving.valid, serving.registered, rfl⟩
  registered := by
    rw [Ipc.messageHandler, fdToId_onRequest lib handler]
    exact serving.registered

/-! ### The rule for client events -/

/-- A property that a change to the served session keeps, and a call of its message handler. -/
structure Kept (lib : Nlohmann) (handler : CommandHandler χ) (fd : Int32) (id : Nat)
    (holds : World χ → Prop) : Prop where
  put : ∀ world session, Serving lib handler fd id world → holds world → session.fd = fd →
    session.id = id → holds (world.put session)
  call : ∀ world request, Serving lib handler fd id world → holds world →
    holds (messageHandler lib handler fd id world request)

/-- **Step: a readable client.** -/
theorem Kept.clientReadable {holds : World χ → Prop} {session : Session}
    (kept : Kept lib handler session.fd session.id holds) {world : World χ} (event : ClientEvent)
    (serving : Serving lib handler session.fd session.id world) (start : holds world) :
    Serving lib handler session.fd session.id
        (clientReadable lib handler event session world).2 ∧
      holds (clientReadable lib handler event session world).2 := by
  unfold Ipc.clientReadable Session.beginReading
  split_ifs with refused
  · exact ⟨serving, start⟩
  · dsimp only
    have reading : Serving lib handler session.fd session.id
        (world.put { session with state := .reading }) := serving.put rfl rfl
    have ended := readLoop_world lib
      (Ipc.messageHandler lib handler session.fd session.id)
      (fun world request (both : Serving lib handler session.fd session.id world ∧ holds world) =>
        ⟨both.1.messageHandler world request, kept.call world request both.1 both.2⟩)
      event.stale event.reads session.side
      ⟨reading, kept.put world { session with state := .reading } serving start rfl rfl⟩
    obtain ⟨-, sameFd, sameId⟩ := Serving.current { session with state := .reading } ended.1
    refine ⟨ended.1.put ?_ ?_, kept.put _ _ ended.1 ended.2 ?_ ?_⟩
    · exact (finishReading_fd_id _ _).1.trans sameFd
    · exact (finishReading_fd_id _ _).2.trans sameId
    · exact (finishReading_fd_id _ _).1.trans sameFd
    · exact (finishReading_fd_id _ _).2.trans sameId

/-- **Step: a writable client.** -/
theorem Kept.clientWritable {holds : World χ → Prop} {session : Session}
    (kept : Kept lib handler session.fd session.id holds) {world : World χ} (event : ClientEvent)
    (serving : Serving lib handler session.fd session.id world) (start : holds world) :
    Serving lib handler session.fd session.id (clientWritable event session world).2 ∧
      holds (clientWritable event session world).2 := by
  obtain ⟨-, sameFd, sameId⟩ := Serving.current session serving
  refine ⟨serving.put ?_ ?_, kept.put _ _ serving start ?_ ?_⟩
  · exact (onWritable_fd_id _ _ _).1.trans sameFd
  · exact (onWritable_fd_id _ _ _).2.trans sameId
  · exact (onWritable_fd_id _ _ _).1.trans sameFd
  · exact (onWritable_fd_id _ _ _).2.trans sameId

/-- The session of a descriptor is dropped, and destroyed. -/
def World.dropped (world : World χ) (fd : Int32) (session : Session) : World χ :=
  { world with
    server := { world.server with manager := world.server.manager.removeSessionByFd fd }.log
      (world.current session).destroyed }

theorem Recorded.serving {world : World χ} (recorded : Recorded lib handler world) {fd : Int32}
    {session : Session} (found : world.server.manager.getSessionByFd fd = some session) :
    Serving lib handler session.fd session.id world := by
  obtain ⟨registered, -⟩ := recorded.valid.consistent.lookup_of_getSessionByFd found
  rw [← recorded.valid.consistent.getSessionByFd_fd found] at registered
  exact ⟨recorded, registered⟩

/-- **A client event**, for any property that its steps keep: the session is served up to a world
that has the property, and perhaps dropped there. -/
theorem Kept.clientEvent {holds : World χ → Prop} {session : Session}
    (kept : Kept lib handler session.fd session.id holds) {world : World χ} (event : ClientEvent)
    (found : world.server.manager.getSessionByFd event.fd = some session)
    (recorded : Recorded lib handler world) (start : holds world) :
    ∃ middle, Serving lib handler session.fd session.id middle ∧ holds middle ∧
      (clientEvent lib handler world event = middle ∨
        clientEvent lib handler world event = middle.dropped event.fd session) := by
  unfold Ipc.clientEvent
  simp only [found]
  have serving := recorded.serving found
  have read : Serving lib handler session.fd session.id (if event.readable then
        Ipc.clientReadable lib handler event session world else (true, world)).2 ∧
      holds (if event.readable then
        Ipc.clientReadable lib handler event session world else (true, world)).2 := by
    split_ifs
    · exact kept.clientReadable event serving start
    · exact ⟨serving, start⟩
  generalize (if event.readable then
      Ipc.clientReadable lib handler event session world else (true, world)) = afterRead at read ⊢
  have written : Serving lib handler session.fd session.id (if afterRead.1 && event.writable then
        Ipc.clientWritable event session afterRead.2 else afterRead).2 ∧
      holds (if afterRead.1 && event.writable then
        Ipc.clientWritable event session afterRead.2 else afterRead).2 := by
    split_ifs
    · exact kept.clientWritable event read.1 read.2
    · exact read
  generalize (if afterRead.1 && event.writable then
      Ipc.clientWritable event session afterRead.2 else afterRead) = afterWrite at written ⊢
  refine ⟨afterWrite.2, written.1, written.2, ?_⟩
  split_ifs
  · exact Or.inr rfl
  · exact Or.inl rfl

theorem Server.Valid.removeSessionByFd {server : Server χ} (valid : server.Valid) (fd : Int32) :
    Server.Valid { server with manager := server.manager.removeSessionByFd fd } where
  consistent := valid.consistent.removeSessionByFd fd
  bounded id session found := by
    refine valid.bounded id session ?_
    unfold ConnectionManager.removeSessionByFd at found
    split at found
    · exact found
    · rename_i gone removed
      by_cases here : id = gone
      · rw [here, AList.lookup_erase] at found
        cases found
      · rw [AList.lookup_erase_ne here] at found
        exact found

theorem Server.Valid.log {server : Server χ} (valid : server.Valid) (calls : List SystemCall) :
    (server.log calls).Valid :=
  ⟨valid.consistent, valid.bounded⟩

/-- **Step: an event on a client socket.** -/
theorem Recorded.clientEvent {world : World χ} (recorded : Recorded lib handler world)
    (event : ClientEvent) :
    Recorded lib handler (clientEvent lib handler world event) := by
  cases found : world.server.manager.getSessionByFd event.fd with
  | none =>
    rw [Ipc.clientEvent, found]
    exact recorded
  | some session =>
    have kept : Kept lib handler session.fd session.id fun _ => True :=
      ⟨fun _ _ _ _ _ _ => trivial, fun _ _ _ _ => trivial⟩
    obtain ⟨middle, serving, -, same | dropped⟩ := kept.clientEvent event found recorded trivial
    · rw [same]
      exact serving.toRecorded
    · rw [dropped]
      exact ⟨(serving.valid.removeSessionByFd event.fd).log _, serving.calls⟩

/-- A new session gets an id that no session has. -/
theorem Server.Valid.addSession {server : Server χ} (valid : server.Valid) {session : Session}
    (new : session.id = server.nextSessionId + 1) :
    Server.Valid { server with
      nextSessionId := server.nextSessionId + 1
      manager := server.manager.addSession session } where
  consistent := by
    apply valid.consistent.addSession
    cases stored : server.manager.sessionsById.lookup session.id with
    | none => rfl
    | some other =>
      have bound := valid.bounded session.id other stored
      omega
  bounded id other found := by
    by_cases here : id = session.id
    · exact (here.trans new).le
    · rw [ConnectionManager.addSession, AList.lookup_insert_ne here] at found
      exact (valid.bounded id other found).trans (Nat.le_succ _)

theorem initializeSession_id (fd : Int32) (id : Nat) (flagsRead flagsSet : Bool) :
    ((Session.create fd id).initializeSession flagsRead flagsSet).2.id = id := by
  unfold Session.initializeSession
  split_ifs <;> rfl

/-- **Step: an accept notification.** -/
theorem Server.Valid.acceptLoop {server : Server χ} (valid : server.Valid) (maxConnections : Nat)
    (results : List AcceptResult) : (acceptLoop maxConnections results server).Valid := by
  induction results generalizing server with
  | nil => exact valid.log _
  | cons result results ih =>
    cases result with
    | failed errno => exact valid.log _
    | accepted fd flagsRead flagsSet registered =>
      have added := (valid.log [.accept4 (.ok fd)]).addSession
        (initializeSession_id fd (server.nextSessionId + 1) flagsRead flagsSet)
      unfold Ipc.acceptLoop
      dsimp only
      split_ifs with full failed unregistered
      · exact (valid.log _).log _
      · refine ih ⟨valid.consistent, fun id session stored => ?_⟩
        exact (valid.bounded id session stored).trans (Nat.le_succ _)
      · exact ih ((added.removeSessionByFd fd).log _)
      · exact ih added

/-- **Step: any event.** -/
theorem Recorded.handleEvent {world : World χ} (recorded : Recorded lib handler world)
    (maxConnections : Nat) (event : ServerEvent) :
    Recorded lib handler (handleEvent lib handler maxConnections world event) := by
  cases event with
  | accept results => exact ⟨recorded.valid.acceptLoop maxConnections results, recorded.calls⟩
  | client event => exact recorded.clientEvent event
  | closeAll =>
    refine ⟨Server.Valid.log ⟨ConnectionManager.consistent_empty, ?_⟩ _, recorded.calls⟩
    intro id session stored
    simp [ConnectionManager.closeAll, ConnectionManager.empty] at stored

/-- **Run.** Every call of a message handler is made by a registered session of a valid server. -/
theorem recorded_serve (maxConnections : Nat) (state : χ) (events : List ServerEvent) :
    Recorded lib handler (serve lib handler maxConnections state events) := by
  have run : ∀ world, Recorded lib handler world → Recorded lib handler
      (events.foldl (Ipc.handleEvent lib handler maxConnections) world) := by
    induction events with
    | nil => exact fun world recorded => recorded
    | cons event events ih =>
      intro world recorded
      exact ih _ (recorded.handleEvent maxConnections event)
  exact run _ (recorded_start state)

end Runs

end DemoDaemon.Ipc
