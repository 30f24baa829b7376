/-
**What becomes of the replies**, over whole runs of the server and for any command handler.

* `repliesTo`: the texts that the calls of message handlers so far have routed to a session, in the
  order of the calls.
* `Unsent`: the invariant of the sessions, of which only the one that is served may be closed.
  **`Unsent.clientEvent`** is the step for one event of a client.
* **`server_never_writes`**: no event of any run makes a `::write`.
* **`replies_unsent`**: so the output of every connected session is, in every run, exactly the
  replies routed to it since it was created: none is lost, none is sent, and they are in order.
-/

import DemoDaemon.Ipc.ConnectionTable
import DemoDaemon.Ipc.SessionOutput

namespace DemoDaemon.Ipc

open Foundation

section Replies

variable {χ : Type} (lib : Nlohmann) (handler : CommandHandler χ)

/-! ### The record of the replies -/

/-- The bytes that a call of a message handler queues: those of its answer, if it can be written. -/
def replyText (call : Dispatch χ) : Bytes :=
  match lib.dump (answer lib call.request (handler call.before.state call.request).1).toJson with
  | .ok text => queuedText text
  | .error _ => []

/-- What a call queues for the session with an id: its reply, if the session is the one that is
registered under the request's id. -/
def replyTo (id : Nat) (call : Dispatch χ) : Bytes :=
  if call.before.manager.fdToId.lookup (routedFd call.request) = some id then
    replyText lib handler call
  else []

def repliesTo (calls : List (Dispatch χ)) (id : Nat) : Bytes :=
  calls.flatMap (replyTo lib handler id)

theorem repliesTo_concat (calls : List (Dispatch χ)) (call : Dispatch χ) (id : Nat) :
    repliesTo lib handler (calls ++ [call]) id
      = repliesTo lib handler calls id ++ replyTo lib handler id call := by
  rw [repliesTo, List.flatMap_append, List.flatMap_singleton]
  rfl

/-- An answer that cannot be written leaves the session as it is. -/
theorem onMessage_refused (state : χ) (request : RequestMessage) (session : Session) {error : Exn}
    (failed : lib.dump (answer lib request (handler state request).1).toJson = .error error) :
    ∃ thrown next, onMessage lib handler state request session = (.error thrown, next) := by
  have refused := enqueue_of_dump_error lib failed session.writeBuffer
  rcases called : handler state request with ⟨outcome, after⟩
  rw [called] at refused
  unfold onMessage
  simp only [called]
  cases outcome with
  | error thrown =>
    unfold answer at refused
    simp only [Session.scheduleSendError, refused]
    exact ⟨error, after, rfl⟩
  | ok response =>
    unfold answer at refused
    dsimp only at refused ⊢
    cases dumped : lib.dump (ResponseMessage.message { response with id := request.id }).toJson with
    | ok line =>
      obtain ⟨filled, done, -⟩ := enqueue_of_dump lib dumped session.writeBuffer
      rw [dumped] at refused
      cases done.symm.trans refused
    | error thrown =>
      rw [dumped] at refused
      dsimp only at refused
      simp only [Session.scheduleSend, enqueue_of_dump_error lib dumped,
        Session.scheduleSendError, Except.map, refused]
      exact ⟨error, after, rfl⟩

variable {lib handler}

/-- **One call**, for every session of the table: its output grows by what the call queues for it. -/
theorem onRequest_stored {server : Server χ} (valid : server.Valid) (request : RequestMessage)
    (fd : Int32) (own : Nat) {id : Nat} {after : Session}
    (stored : (server.onRequest lib handler request).manager.sessionsById.lookup id
      = some after) :
    ∃ before, server.manager.sessionsById.lookup id = some before ∧ after.state = before.state ∧
      after.writeBuffer.pending = before.writeBuffer.pending
        ++ replyTo lib handler id
          ⟨fd, own, request, server, server.onRequest lib handler request⟩ := by
  cases registered : server.manager.fdToId.lookup (routedFd request) with
  | none =>
    have missing : server.manager.getSessionByFd (routedFd request) = none := by
      rw [ConnectionManager.getSessionByFd, registered]
      rfl
    simp only [Server.onRequest, missing] at stored
    refine ⟨after, stored, rfl, ?_⟩
    simp [replyTo, registered]
  | some target =>
    obtain ⟨session, found, -⟩ := valid.consistent.registered _ _ registered
    have same := valid.consistent.own_id target session found
    have looked : server.manager.getSessionByFd (routedFd request) = some session := by
      rw [ConnectionManager.getSessionByFd, registered]
      exact found
    cases written : lib.dump
        (answer lib request (handler server.state request).1).toJson with
    | error error =>
      obtain ⟨thrown, next, refused⟩ :=
        onMessage_refused lib handler server.state request session written
      simp only [Server.onRequest, looked, refused] at stored
      refine ⟨after, stored, rfl, ?_⟩
      simp [replyTo, replyText, written]
    | ok text =>
      obtain ⟨writeBuffer, answered, pending⟩ :=
        onMessage_spec lib handler server.state request session written
      simp only [Server.onRequest, looked, answered, Server.put, ConnectionManager.put, same]
        at stored
      by_cases here : id = target
      · subst here
        rw [AList.lookup_insert] at stored
        cases stored
        refine ⟨session, found, rfl, ?_⟩
        simp [replyTo, replyText, registered, written, pending]
      · rw [AList.lookup_insert_ne here] at stored
        refine ⟨after, stored, rfl, ?_⟩
        simp [replyTo, registered, Ne.symm here]

/-! ### The invariant -/

/-- No session writes; a session that is not closed has the replies routed to it as its output; and
only the session that is served may be closed. -/
structure Unsent (lib : Nlohmann) (handler : CommandHandler χ) (served : Option Nat)
    (world : World χ) : Prop where
  quiet : ∀ id session, world.server.manager.sessionsById.lookup id = some session →
    session.state ≠ .writing
  opened : ∀ id session, world.server.manager.sessionsById.lookup id = some session →
    session.state = .closed → served = some id
  output : ∀ id session, world.server.manager.sessionsById.lookup id = some session →
    session.state ≠ .closed →
    session.writeBuffer.pending = repliesTo lib handler world.dispatches id
  fresh : ∀ id, world.server.nextSessionId < id → repliesTo lib handler world.dispatches id = []

theorem unsent_start (state : χ) : Unsent lib handler none (World.start state) where
  quiet id session stored := by simp [World.start, Server.start, ConnectionManager.empty] at stored
  opened id session stored := by simp [World.start, Server.start, ConnectionManager.empty] at stored
  output id session stored := by simp [World.start, Server.start, ConnectionManager.empty] at stored
  fresh _ _ := rfl

/-- Outside of an event no session is closed. -/
theorem Unsent.weaken {world : World χ} (unsent : Unsent lib handler none world) (id : Nat) :
    Unsent lib handler (some id) world where
  quiet := unsent.quiet
  opened other session stored closed := absurd (unsent.opened other session stored closed).symm
    (Option.some_ne_none other)
  output := unsent.output
  fresh := unsent.fresh

/-- The served session is open again. -/
theorem Unsent.settle {world : World χ} {id : Nat} (unsent : Unsent lib handler (some id) world)
    (live : ∀ session, world.server.manager.sessionsById.lookup id = some session →
      session.state ≠ .closed) : Unsent lib handler none world where
  quiet := unsent.quiet
  opened other session stored closed := by
    cases unsent.opened other session stored closed
    exact absurd closed (live session stored)
  output := unsent.output
  fresh := unsent.fresh

/-- **Step: a change to the served session**, which does not begin to write, and leaves its output
alone or closes it. -/
theorem Unsent.put {world : World χ} {before after : Session} {id : Nat}
    (unsent : Unsent lib handler (some id) world) (own : after.id = id)
    (stored : world.server.manager.sessionsById.lookup id = some before)
    (quiet : after.state ≠ .writing)
    (change : after.state = .closed ∨
      (after.writeBuffer = before.writeBuffer ∧ before.state ≠ .closed)) :
    Unsent lib handler (some id) (world.put after) := by
  subst own
  have lookup : ∀ id session,
      (world.put after).server.manager.sessionsById.lookup id = some session →
      (id = after.id ∧ session = after) ∨
        (id ≠ after.id ∧ world.server.manager.sessionsById.lookup id = some session) := by
    intro id session found
    by_cases here : id = after.id
    · subst here
      rw [World.put, Server.put, ConnectionManager.put, AList.lookup_insert] at found
      exact .inl ⟨rfl, (Option.some.inj found).symm⟩
    · rw [World.put, Server.put, ConnectionManager.put, AList.lookup_insert_ne here] at found
      exact .inr ⟨here, found⟩
  refine ⟨fun id session found => ?_, fun id session found closed => ?_,
    fun id session found still => ?_, unsent.fresh⟩
  · rcases lookup id session found with ⟨rfl, rfl⟩ | ⟨-, other⟩
    · exact quiet
    · exact unsent.quiet id session other
  · rcases lookup id session found with ⟨rfl, rfl⟩ | ⟨-, other⟩
    · rfl
    · exact unsent.opened id session other closed
  · rcases lookup id session found with ⟨rfl, rfl⟩ | ⟨-, other⟩
    · obtain ⟨same, live⟩ := change.resolve_left still
      rw [same]
      exact unsent.output _ before stored live
    · exact unsent.output id session other still

/-- **Step: a call of the message handler.** -/
theorem Unsent.messageHandler {world : World χ} {served : Option Nat}
    (unsent : Unsent lib handler served world) (valid : world.server.Valid) (fd : Int32) (own : Nat)
    (request : RequestMessage) :
    Unsent lib handler served (messageHandler lib handler fd own world request) := by
  have ids := (onRequest_manager lib handler world.server request).1
  refine ⟨fun id session found => ?_, fun id session found closed => ?_,
    fun id session found still => ?_, fun id later => ?_⟩
  · obtain ⟨before, stored, state, -⟩ := onRequest_stored valid request fd own found
    rw [state]
    exact unsent.quiet id before stored
  · obtain ⟨before, stored, state, -⟩ := onRequest_stored valid request fd own found
    rw [state] at closed
    exact unsent.opened id before stored closed
  · obtain ⟨before, stored, state, grown⟩ := onRequest_stored valid request fd own found
    rw [state] at still
    rw [Ipc.messageHandler, repliesTo_concat, grown, unsent.output id before stored still]
  · rw [Ipc.messageHandler] at later ⊢
    dsimp only at later ⊢
    rw [ids] at later
    rw [repliesTo_concat, unsent.fresh id later, List.nil_append, replyTo, if_neg]
    -- an id that is still to come is registered for no descriptor
    intro registered
    obtain ⟨session, stored, -⟩ := valid.consistent.registered _ _ registered
    have bound := valid.bounded id session stored
    omega

/-! ### Events -/

theorem eq_of_lookup_put {world : World χ} {session now : Session} {id : Nat}
    (found : (world.put session).server.manager.sessionsById.lookup id = some now)
    (own : session.id = id) : now = session := by
  subst own
  exact Option.some.inj (found.symm.trans (AList.lookup_insert _))

/-- In the loop of `on_readable`: the session is served, and in the state `Reading`. -/
structure Reading (lib : Nlohmann) (handler : CommandHandler χ) (fd : Int32) (id : Nat)
    (world : World χ) : Prop extends Serving lib handler fd id world where
  unsent : Unsent lib handler (some id) world
  state : ∀ now, world.server.manager.sessionsById.lookup id = some now → now.state = .reading

theorem reading_start {world : World χ} {session : Session}
    (serving : Serving lib handler session.fd session.id world)
    (stored : world.server.manager.sessionsById.lookup session.id = some session)
    (unsent : Unsent lib handler none world) :
    Reading lib handler session.fd session.id (world.put { session with state := .reading }) where
  toServing := serving.put rfl rfl
  unsent := by
    refine (unsent.weaken session.id).put rfl stored SessionState.noConfusion
      (.inr ⟨rfl, fun closed => ?_⟩)
    exact absurd (unsent.opened session.id session stored closed).symm (Option.some_ne_none _)
  state now found := by
    rw [eq_of_lookup_put found rfl]

/-- **Step: a call in the loop.** -/
theorem Reading.messageHandler {fd : Int32} {id : Nat} {world : World χ}
    (reading : Reading lib handler fd id world) (request : RequestMessage) :
    Reading lib handler fd id (messageHandler lib handler fd id world request) where
  toServing := reading.toServing.messageHandler world request
  unsent := reading.unsent.messageHandler reading.valid fd id request
  state now found := by
    obtain ⟨before, stored, state, -⟩ := onRequest_stored reading.valid request fd id found
    rw [state]
    exact reading.state before stored

theorem state_close_of_reading {session : Session} (reading : session.state = .reading) :
    session.close.state = .closed := by
  rw [Session.close, if_neg]
  rw [reading]
  rintro (same | same) <;> cases same

/-- **Step: a readable client.** If it stays open, its session is not closed. -/
theorem Unsent.clientReadable {world : World χ} {session : Session} (event : ClientEvent)
    (serving : Serving lib handler session.fd session.id world)
    (stored : world.server.manager.sessionsById.lookup session.id = some session)
    (unsent : Unsent lib handler none world) :
    Serving lib handler session.fd session.id (clientReadable lib handler event session world).2 ∧
      Unsent lib handler (some session.id) (clientReadable lib handler event session world).2 ∧
      ((clientReadable lib handler event session world).1 = true →
        Unsent lib handler none (clientReadable lib handler event session world).2) := by
  unfold Ipc.clientReadable Session.beginReading
  split_ifs with refused
  · exact ⟨serving, unsent.weaken session.id, fun stays => absurd stays id⟩
  · dsimp only
    have ended := readLoop_world lib (Ipc.messageHandler lib handler session.fd session.id)
      (fun world request (reading : Reading lib handler session.fd session.id world) =>
        reading.messageHandler request) event.stale event.reads session.side
      (reading_start serving stored unsent)
    generalize readLoop lib (Ipc.messageHandler lib handler session.fd session.id) event.stale
      event.reads session.side (world.put { session with state := .reading }) = loop at ended ⊢
    obtain ⟨stays, side, middle⟩ := loop
    dsimp only at ended ⊢
    obtain ⟨found, sameFd, sameId⟩ :=
      Serving.current { session with state := .reading } ended.toServing
    have state := ended.state _ found
    generalize middle.current { session with state := .reading } = current
      at found sameFd sameId state ⊢
    have live : current.state ≠ .closed := by
      rw [state]
      exact SessionState.noConfusion
    cases stays with
    | true =>
      have kept : Unsent lib handler (some session.id)
          (middle.put { current with side, state := .active }) :=
        ended.unsent.put sameId found SessionState.noConfusion (.inr ⟨rfl, live⟩)
      refine ⟨ended.toServing.put sameFd sameId, kept, fun _ => kept.settle fun now looked => ?_⟩
      rw [eq_of_lookup_put looked sameId]
      exact SessionState.noConfusion
    | false =>
      have closed : (Session.close { current with side }).state = .closed :=
        state_close_of_reading state
      have ids := close_fd_id { current with side }
      refine ⟨ended.toServing.put (ids.1.trans sameFd) (ids.2.trans sameId),
        ended.unsent.put (ids.2.trans sameId) found ?_ (.inl closed),
        fun stays => absurd stays Bool.false_ne_true⟩
      rw [Session.finishReading, if_neg Bool.false_ne_true, closed]
      exact SessionState.noConfusion

/-- **Step: a writable client**, which has nothing to do for a session that does not write. -/
theorem Unsent.clientWritable {world : World χ} {session : Session} (event : ClientEvent)
    (serving : Serving lib handler session.fd session.id world)
    (unsent : Unsent lib handler none world) :
    Unsent lib handler none (clientWritable event session world).2 ∧
      ((world.current session).onWritable event.stale event.writes).2.2 = [] := by
  obtain ⟨found, sameFd, sameId⟩ := Serving.current session serving
  have quiet := unsent.quiet _ _ found
  have live : (world.current session).state ≠ .closed := fun closed =>
    absurd (unsent.opened _ _ found closed).symm (Option.some_ne_none _)
  rw [Ipc.clientWritable, onWritable_of_not_writing quiet]
  refine ⟨?_, rfl⟩
  have kept : Unsent lib handler (some session.id)
      (world.put { world.current session with state := .active }) :=
    (unsent.weaken session.id).put sameId found SessionState.noConfusion (.inr ⟨rfl, live⟩)
  refine kept.settle fun now looked => ?_
  rw [eq_of_lookup_put looked sameId]
  exact SessionState.noConfusion

/-- **Step: the served session is dropped.** -/
theorem Unsent.dropped {world : World χ} {fd : Int32} {id : Nat} (session : Session)
    (unsent : Unsent lib handler (some id) world)
    (registered : world.server.manager.fdToId.lookup fd = some id) :
    Unsent lib handler none (world.dropped fd session) := by
  have lookup : ∀ other found,
      (world.dropped fd session).server.manager.sessionsById.lookup other = some found →
      other ≠ id ∧ world.server.manager.sessionsById.lookup other = some found := by
    intro other found looked
    simp only [World.dropped, Server.log, ConnectionManager.removeSessionByFd, registered] at looked
    by_cases here : other = id
    · rw [here, AList.lookup_erase] at looked
      cases looked
    · rw [AList.lookup_erase_ne here] at looked
      exact ⟨here, looked⟩
  refine ⟨fun other found looked => ?_, fun other found looked closed => ?_,
    fun other found looked still => ?_, unsent.fresh⟩
  · exact unsent.quiet other found (lookup other found looked).2
  · have same := unsent.opened other found (lookup other found looked).2 closed
    exact absurd (Option.some.inj same).symm (lookup other found looked).1
  · exact unsent.output other found (lookup other found looked).2 still

variable (lib handler) in
/-- The `::write` calls of a client event, with their answers. -/
def clientWrites (world : World χ) (event : ClientEvent) : List WriteResult :=
  match world.server.manager.getSessionByFd event.fd with
  | none => []
  | some session =>
    let read := if event.readable then clientReadable lib handler event session world
      else (true, world)
    if read.1 && event.writable then
      ((read.2.current session).onWritable event.stale event.writes).2.2
    else []

/-- **Step: a client event** makes no `::write`, and keeps what is unsent. -/
theorem Unsent.clientEvent {world : World χ} (recorded : Recorded lib handler world)
    (unsent : Unsent lib handler none world) (event : ClientEvent) :
    Unsent lib handler none (clientEvent lib handler world event) ∧
      clientWrites lib handler world event = [] := by
  unfold Ipc.clientEvent clientWrites
  cases found : world.server.manager.getSessionByFd event.fd with
  | none => exact ⟨unsent, rfl⟩
  | some session =>
    dsimp only
    have serving := recorded.serving found
    have stored := (recorded.valid.consistent.lookup_of_getSessionByFd found).2
    have sameFd := recorded.valid.consistent.getSessionByFd_fd found
    have read : Serving lib handler session.fd session.id (if event.readable then
          Ipc.clientReadable lib handler event session world else (true, world)).2 ∧
        Unsent lib handler (some session.id) (if event.readable then
          Ipc.clientReadable lib handler event session world else (true, world)).2 ∧
        ((if event.readable then
          Ipc.clientReadable lib handler event session world else (true, world)).1 = true →
          Unsent lib handler none (if event.readable then
            Ipc.clientReadable lib handler event session world else (true, world)).2) := by
      split_ifs
      · exact unsent.clientReadable event serving stored
      · exact ⟨serving, unsent.weaken session.id, fun _ => unsent⟩
    generalize (if event.readable then
      Ipc.clientReadable lib handler event session world else (true, world)) = afterRead at read ⊢
    obtain ⟨stays, middle⟩ := afterRead
    obtain ⟨serving, kept, settled⟩ := read
    dsimp only at serving kept settled ⊢
    have registered := serving.registered
    rw [sameFd] at registered
    -- the end of the event, behind either branch
    have ends : ∀ (stays : Bool) (last : World χ), Unsent lib handler (some session.id) last →
        last.server.manager.fdToId.lookup event.fd = some session.id →
        (stays = true → Unsent lib handler none last) →
        Unsent lib handler none (if (!stays || (last.current session).isClosed) = true then
          last.dropped event.fd session else last) := by
      intro stays last kept registered settled
      split_ifs with ended
      · exact kept.dropped session registered
      · refine settled ?_
        cases stays
        · exact absurd rfl ended
        · rfl
    by_cases writes : (stays && event.writable) = true
    · obtain ⟨after, nothing⟩ :=
        (settled (Bool.and_eq_true_iff.mp writes).1).clientWritable event serving
      rw [if_pos writes, if_pos writes]
      exact ⟨ends _ _ (after.weaken session.id) registered fun _ => after, nothing⟩
    · rw [if_neg writes, if_neg writes]
      exact ⟨ends _ _ kept registered settled, rfl⟩

/-- A connection brings in at most one new session. -/
theorem lookup_connect (server : Server χ) (fd : Int32) (initialized registered : Bool) {id : Nat}
    {session : Session}
    (found : (server.connect fd initialized registered).manager.sessionsById.lookup id
      = some session) :
    (id = server.nextSessionId + 1 ∧ session = Session.create fd (server.nextSessionId + 1)) ∨
      server.manager.sessionsById.lookup id = some session := by
  have inserted : ∀ other found, (server.manager.sessionsById.insert (server.nextSessionId + 1)
      (Session.create fd (server.nextSessionId + 1))).lookup other = some found →
      (other = server.nextSessionId + 1 ∧ found = Session.create fd (server.nextSessionId + 1)) ∨
        server.manager.sessionsById.lookup other = some found := by
    intro other found looked
    by_cases here : other = server.nextSessionId + 1
    · subst here
      rw [AList.lookup_insert] at looked
      exact .inl ⟨rfl, (Option.some.inj looked).symm⟩
    · rw [AList.lookup_insert_ne here] at looked
      exact .inr looked
  cases initialized with
  | false => exact .inr found
  | true =>
    cases registered with
    | true => exact inserted id session found
    | false =>
      have erased : ((server.manager.sessionsById.insert (server.nextSessionId + 1)
          (Session.create fd (server.nextSessionId + 1))).erase
            (server.nextSessionId + 1)).lookup id = some session := by
        rw [← found]
        simp [Server.connect, Server.log, ConnectionManager.removeSessionByFd,
          ConnectionManager.addSession, Session.create]
      by_cases here : id = server.nextSessionId + 1
      · rw [here, AList.lookup_erase] at erased
        cases erased
      · rw [AList.lookup_erase_ne here] at erased
        exact inserted id session erased

theorem nextSessionId_connect (server : Server χ) (fd : Int32) (initialized registered : Bool) :
    (server.connect fd initialized registered).nextSessionId = server.nextSessionId + 1 := by
  cases initialized <;> cases registered <;> rfl

/-- **Step: a connection.** -/
theorem Unsent.connect {world : World χ} (unsent : Unsent lib handler none world) (fd : Int32)
    (initialized registered : Bool) :
    Unsent lib handler none
      { world with server := world.server.connect fd initialized registered } := by
  refine ⟨fun id session found => ?_, fun id session found closed => ?_,
    fun id session found still => ?_, fun id later => unsent.fresh id ?_⟩
  · rcases lookup_connect world.server fd initialized registered found with ⟨-, rfl⟩ | old
    · exact SessionState.noConfusion
    · exact unsent.quiet id session old
  · rcases lookup_connect world.server fd initialized registered found with ⟨-, rfl⟩ | old
    · cases closed
    · exact unsent.opened id session old closed
  · rcases lookup_connect world.server fd initialized registered found with ⟨rfl, rfl⟩ | old
    · exact (unsent.fresh _ (Nat.lt_succ_self _)).symm ▸ IOBuffer.pending_empty
    · exact unsent.output id session old still
  · rw [nextSessionId_connect] at later
    omega

/-- **Step: an accept notification.** -/
theorem Unsent.acceptLoop (maxConnections : Nat) (results : List AcceptResult) {world : World χ}
    (unsent : Unsent lib handler none world) :
    Unsent lib handler none
      { world with server := acceptLoop maxConnections results world.server } := by
  induction results generalizing world with
  | nil => exact ⟨unsent.quiet, unsent.opened, unsent.output, unsent.fresh⟩
  | cons result results ih =>
    cases result with
    | failed errno => exact ⟨unsent.quiet, unsent.opened, unsent.output, unsent.fresh⟩
    | accepted fd flagsRead flagsSet registered =>
      rw [acceptLoop_accepted]
      split_ifs
      · exact ⟨unsent.quiet, unsent.opened, unsent.output, unsent.fresh⟩
      · exact ih (unsent.connect fd (flagsRead && flagsSet) registered)

/-- **Step.** -/
theorem Unsent.handleEvent {world : World χ} (recorded : Recorded lib handler world)
    (unsent : Unsent lib handler none world) (maxConnections : Nat) (event : ServerEvent) :
    Unsent lib handler none (handleEvent lib handler maxConnections world event) := by
  cases event with
  | accept results => exact unsent.acceptLoop maxConnections results
  | client event => exact (unsent.clientEvent recorded event).1
  | closeAll =>
    have none : ∀ id session, ¬ AList.lookup id (ConnectionManager.empty).sessionsById
        = some session := by
      intro id session found
      simp [ConnectionManager.empty] at found
    exact ⟨fun id session found => absurd found (none id session),
      fun id session found => absurd found (none id session),
      fun id session found => absurd found (none id session), unsent.fresh⟩

/-- **Run.** -/
theorem unsent_serve (maxConnections : Nat) (state : χ) (events : List ServerEvent) :
    Unsent lib handler none (serve lib handler maxConnections state events) := by
  induction events using List.reverseRecOn with
  | nil => exact unsent_start state
  | append_singleton events event ih =>
    rw [serve_concat]
    exact ih.handleEvent (recorded_serve maxConnections state events) maxConnections event

/-! ### What clients get -/

/-- **The server never writes.** After every run, no readiness of any client socket makes it call
`::write`, whatever is queued for the client. -/
theorem server_never_writes (maxConnections : Nat) (state : χ) (events : List ServerEvent)
    (event : ClientEvent) :
    clientWrites lib handler (serve lib handler maxConnections state events) event = [] :=
  ((unsent_serve maxConnections state events).clientEvent
    (recorded_serve maxConnections state events) event).2

/-- **The output of a session is its replies.** After every run, the unsent output of every
connected session is exactly the sequence of the replies that calls of message handlers have routed
to it, in the order of the calls, and nothing of it has been sent. -/
theorem replies_unsent (maxConnections : Nat) (state : χ) (events : List ServerEvent) (id : Nat)
    (session : Session)
    (connected : (serve lib handler maxConnections state events).server.manager.sessionsById.lookup
      id = some session) :
    session.writeBuffer.pending
      = repliesTo lib handler (serve lib handler maxConnections state events).dispatches id := by
  have unsent : Unsent lib handler none (serve lib handler maxConnections state events) :=
    unsent_serve maxConnections state events
  refine unsent.output id session connected fun closed => ?_
  exact absurd (unsent.opened id session connected closed).symm (Option.some_ne_none id)

end Replies

/-- A client, on descriptor 5, asks under id 5 on a socket that would take a reply at once. -/
def oneClient : List ServerEvent :=
  [.accept [.accepted 5 true true true], .client ⟨5, true, true, .again,
    [.data (ascii "\x7b\"method\":\"a\",\"id\":5\x7d\n")], [.wrote 4096]⟩]

theorem replies_unsent_one_client :
    ∃ session, (serve compact nullHandler 16 () oneClient).server.manager.sessionsById.lookup 1
        = some session ∧ session.writeBuffer.pending
        = repliesTo compact nullHandler (serve compact nullHandler 16 () oneClient).dispatches 1 := by
  obtain ⟨session, connected⟩ := Option.isSome_iff_exists.mp (show ((serve compact nullHandler 16
    () oneClient).server.manager.sessionsById.lookup 1).isSome = true by decide +kernel)
  exact ⟨session, connected, replies_unsent 16 () oneClient 1 session connected⟩

end DemoDaemon.Ipc
