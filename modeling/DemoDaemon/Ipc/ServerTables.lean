/-
**What an event does to the connection tables and to the descriptors**, said once for each kind of
event.

* `leases`: the descriptors that `accept4` gave and `::close` gave back.
* `SameTables`: two managers with the same entries, up to what is inside a session.
* **`clientEvent_tables`**: a client event leaves the tables as they are, or removes its own session
  and closes its descriptor.
* `Server.connect`: what the accept loop does with one connection below the limit;
  **`acceptLoop_accepted`** takes the loop apart at its first connection.
-/

import DemoDaemon.Foundation.Leases
import DemoDaemon.Ipc.ServerRuns

namespace DemoDaemon.Ipc

open Foundation

/-! ### Descriptors -/

/-- What a system call does to a client descriptor. -/
def SystemCall.lease : SystemCall → Option (Lease Int32)
  | .accept4 (.ok fd) => some (.acquire fd)
  | .accept4 (.error _) => none
  | .close fd => some (.release fd)

def leases (calls : List SystemCall) : List (Lease Int32) := calls.filterMap SystemCall.lease

theorem leases_append (before after : List SystemCall) :
    leases (before ++ after) = leases before ++ leases after :=
  List.filterMap_append

theorem leases_destroyed {session : Session} (valid : 0 ≤ session.fd) :
    leases session.destroyed = [.release session.fd] := by
  rw [Session.destroyed, if_pos valid]
  rfl

/-- A descriptor is registered. -/
def Server.Registered {χ : Type} (server : Server χ) (fd : Int32) : Prop :=
  fd ∈ server.manager.fdToId

/-! ### Counting sessions -/

namespace ConnectionManager

variable {manager : ConnectionManager}

theorem sessionCount_eq (manager : ConnectionManager) :
    manager.sessionCount = manager.sessionsById.keys.length :=
  (List.length_map _).symm

theorem sessionCount_addSession {session : Session}
    (fresh : manager.sessionsById.lookup session.id = none) :
    (manager.addSession session).sessionCount = manager.sessionCount + 1 := by
  have absent : session.id ∉ manager.sessionsById := AList.lookup_eq_none.mp fresh
  rw [sessionCount, addSession, AList.entries_insert_of_notMem absent]
  rfl

/-- A session that is taken out again leaves the count as it was. -/
theorem sessionCount_removeSessionByFd_addSession {session : Session}
    (fresh : manager.sessionsById.lookup session.id = none) :
    ((manager.addSession session).removeSessionByFd session.fd).sessionCount
      = manager.sessionCount := by
  have absent : session.id ∉ manager.sessionsById.keys := AList.lookup_eq_none.mp fresh
  simp only [removeSessionByFd, addSession, AList.lookup_insert]
  rw [sessionCount_eq, sessionCount_eq, AList.keys_erase, AList.keys_insert,
    List.erase_cons_head, List.erase_of_not_mem absent]

theorem sessionCount_put {session before : Session}
    (stored : manager.sessionsById.lookup session.id = some before) :
    (manager.put session).sessionCount = manager.sessionCount := by
  have present : session.id ∈ manager.sessionsById.keys := by
    rw [← AList.mem_keys, ← AList.lookup_isSome, stored]
    rfl
  rw [sessionCount_eq, sessionCount_eq, put, AList.keys_insert, List.length_cons,
    List.length_erase_of_mem present]
  have positive := List.length_pos_of_mem present
  omega

theorem sessionCount_removeSessionByFd_le (fd : Int32) :
    (manager.removeSessionByFd fd).sessionCount ≤ manager.sessionCount := by
  unfold removeSessionByFd
  split
  · exact Nat.le_refl _
  · rw [sessionCount_eq, sessionCount_eq, AList.keys_erase]
    exact List.length_erase_le

theorem mem_fdToId_removeSessionByFd (fd other : Int32) :
    other ∈ (manager.removeSessionByFd fd).fdToId ↔ other ≠ fd ∧ other ∈ manager.fdToId := by
  unfold removeSessionByFd
  cases removed : manager.fdToId.lookup fd with
  | none =>
    refine (and_iff_right_of_imp ?_).symm
    rintro member rfl
    exact AList.lookup_eq_none.mp removed member
  | some id => exact AList.mem_erase

end ConnectionManager

/-! ### Tables that differ in their sessions only -/

/-- The same entries, with other sessions behind the same descriptors. -/
structure SameTables (before after : ConnectionManager) : Prop where
  ids : after.fdToId = before.fdToId
  fds : ∀ id, (after.sessionsById.lookup id).map Session.fd
    = (before.sessionsById.lookup id).map Session.fd
  count : after.sessionCount = before.sessionCount

theorem SameTables.refl (manager : ConnectionManager) : SameTables manager manager :=
  ⟨rfl, fun _ => rfl, rfl⟩

theorem SameTables.trans {first second third : ConnectionManager} (one : SameTables first second)
    (two : SameTables second third) : SameTables first third :=
  ⟨two.ids.trans one.ids, fun id => (two.fds id).trans (one.fds id), two.count.trans one.count⟩

theorem sameTables_put {manager : ConnectionManager} {session before : Session}
    (stored : manager.sessionsById.lookup session.id = some before)
    (sameFd : session.fd = before.fd) : SameTables manager (manager.put session) where
  ids := rfl
  fds id := by
    by_cases here : id = session.id
    · subst here
      rw [stored, ConnectionManager.put, AList.lookup_insert, Option.map_some, Option.map_some,
        sameFd]
    · rw [ConnectionManager.put, AList.lookup_insert_ne here]
  count := ConnectionManager.sessionCount_put stored

section Client

variable {χ : Type} {lib : Nlohmann} {handler : CommandHandler χ}

/-- A world in the middle of a client event: nothing but sessions has changed. -/
structure Framed (origin : Server χ) (world : World χ) : Prop where
  tables : SameTables origin.manager world.server.manager
  ids : world.server.nextSessionId = origin.nextSessionId
  calls : world.server.calls = origin.calls

theorem Framed.put {origin : Server χ} {world : World χ} (framed : Framed origin world)
    {fd : Int32} {id : Nat} (serving : Serving lib handler fd id world) {session : Session}
    (sameFd : session.fd = fd) (sameId : session.id = id) : Framed origin (world.put session) := by
  obtain ⟨own, stored, ownFd⟩ := serving.valid.consistent.registered fd id serving.registered
  rw [← sameId] at stored
  exact ⟨framed.tables.trans (sameTables_put stored (sameFd.trans ownFd.symm)), framed.ids,
    framed.calls⟩

theorem calls_onRequest (server : Server χ) (request : RequestMessage) :
    (server.onRequest lib handler request).calls = server.calls := by
  unfold Server.onRequest
  split
  · rfl
  · split <;> rfl

/-- **Step: a call of the message handler.** -/
theorem Framed.messageHandler {origin : Server χ} {world : World χ} (framed : Framed origin world)
    (valid : world.server.Valid) (fd : Int32) (id : Nat) (request : RequestMessage) :
    Framed origin (messageHandler lib handler fd id world request) := by
  obtain ⟨ids, same | ⟨session, writeBuffer, found, changed⟩⟩ :=
    onRequest_manager lib handler world.server request
  · exact ⟨same ▸ framed.tables, ids.trans framed.ids, (calls_onRequest _ _).trans framed.calls⟩
  · obtain ⟨-, stored⟩ := valid.consistent.lookup_of_getSessionByFd found
    have put : SameTables world.server.manager (world.server.manager.put
        { session with writeBuffer }) := sameTables_put stored rfl
    exact ⟨changed ▸ framed.tables.trans put, ids.trans framed.ids,
      (calls_onRequest _ _).trans framed.calls⟩

/-- **A client event** leaves the tables and the descriptors as they are, or drops its own
session. -/
theorem clientEvent_tables {world : World χ} (recorded : Recorded lib handler world)
    (event : ClientEvent) :
    Framed world.server (clientEvent lib handler world event) ∨
      ∃ middle session, Framed world.server middle ∧ middle.server.Valid ∧
        middle.server.Registered event.fd ∧ (middle.current session).fd = event.fd ∧
        clientEvent lib handler world event = middle.dropped event.fd session := by
  have unchanged : Framed world.server world := ⟨.refl _, rfl, rfl⟩
  cases found : world.server.manager.getSessionByFd event.fd with
  | none =>
    rw [clientEvent, found]
    exact Or.inl unchanged
  | some session =>
    have sameFd := recorded.valid.consistent.getSessionByFd_fd found
    have kept : Kept lib handler session.fd session.id (Framed world.server) := by
      refine ⟨fun _ _ serving framed => framed.put serving, fun _ request serving framed => ?_⟩
      exact framed.messageHandler serving.valid _ _ request
    obtain ⟨middle, serving, framed, same | dropped⟩ :=
      kept.clientEvent event found recorded unchanged
    · rw [same]
      exact Or.inl framed
    · refine Or.inr ⟨middle, session, framed, serving.valid, ?_, ?_, dropped⟩
      · rw [← sameFd, Server.Registered, ← AList.lookup_isSome, serving.registered]
        rfl
      · rw [← sameFd]
        exact (Serving.current session serving).2.1

end Client

/-! ### One connection -/

section Accept

variable {χ : Type}

/-- The flags say whether a new session is initialised; nothing of it changes. -/
theorem initializeSession_create (fd : Int32) (id : Nat) (flagsRead flagsSet : Bool) :
    (Session.create fd id).initializeSession flagsRead flagsSet
      = (flagsRead && flagsSet, Session.create fd id) := by
  cases flagsRead <;> cases flagsSet <;> rfl

/-- A connection below the limit: its session is registered, or it is closed by the loop and once
more by the destructor of its session. -/
def Server.connect (server : Server χ) (fd : Int32) (initialized registered : Bool) : Server χ :=
  let session := Session.create fd (server.nextSessionId + 1)
  let opened := { server with nextSessionId := server.nextSessionId + 1 }.log [.accept4 (.ok fd)]
  if !initialized then opened.log (.close fd :: session.destroyed)
  else
    let added := { opened with manager := opened.manager.addSession session }
    if !registered then
      { added with manager := added.manager.removeSessionByFd fd }.log
        (.close fd :: session.destroyed)
    else added

/-- **The accept loop, at a connection.** -/
theorem acceptLoop_accepted (maxConnections : Nat) (fd : Int32)
    (flagsRead flagsSet registered : Bool) (results : List AcceptResult) (server : Server χ) :
    acceptLoop maxConnections (.accepted fd flagsRead flagsSet registered :: results) server
      = if maxConnections ≤ server.manager.sessionCount then
          (server.log [.accept4 (.ok fd)]).log [.close fd]
        else acceptLoop maxConnections results
          (server.connect fd (flagsRead && flagsSet) registered) := by
  have initialized := initializeSession_create fd
    ((server.log [.accept4 (.ok fd)]).nextSessionId + 1) flagsRead flagsSet
  rw [acceptLoop]
  simp only [initialized]
  by_cases full : maxConnections ≤ server.manager.sessionCount
  · rw [if_pos full]
    exact if_pos full
  · rw [if_neg full, if_neg (show ¬ maxConnections
      ≤ (server.log [.accept4 (.ok fd)]).manager.sessionCount from full)]
    cases flagsRead && flagsSet <;> cases registered <;> rfl

/-- A connection adds `accept4` and perhaps more to the record of calls. -/
theorem calls_connect (server : Server χ) (fd : Int32) (initialized registered : Bool) :
    ∃ more, (server.connect fd initialized registered).calls
      = server.calls ++ SystemCall.accept4 (.ok fd) :: more := by
  cases initialized <;> cases registered
  · exact ⟨_, List.append_assoc _ _ _⟩
  · exact ⟨_, List.append_assoc _ _ _⟩
  · exact ⟨_, List.append_assoc _ _ _⟩
  · exact ⟨[], rfl⟩

theorem Server.Valid.connect {server : Server χ} (valid : server.Valid) (fd : Int32)
    (initialized registered : Bool) : (server.connect fd initialized registered).Valid := by
  have counted : Server.Valid { server with nextSessionId := server.nextSessionId + 1 } :=
    ⟨valid.consistent, fun id session stored =>
      (valid.bounded id session stored).trans (Nat.le_succ _)⟩
  have added := (valid.log [.accept4 (.ok fd)]).addSession
    (show (Session.create fd (server.nextSessionId + 1)).id = _ from rfl)
  cases initialized
  · exact (counted.log _).log _
  · cases registered
    · exact (added.removeSessionByFd fd).log _
    · exact added

/-- A connection adds a session exactly when it is initialised and registered. -/
theorem sessionCount_connected {server : Server χ} (valid : server.Valid) (fd : Int32)
    (initialized registered : Bool) :
    (server.connect fd initialized registered).manager.sessionCount
      = server.manager.sessionCount + (initialized && registered).toNat := by
  have fresh : server.manager.sessionsById.lookup (server.nextSessionId + 1) = none := by
    cases stored : server.manager.sessionsById.lookup (server.nextSessionId + 1) with
    | none => rfl
    | some other =>
      have bound := valid.bounded _ other stored
      omega
  cases initialized
  · rfl
  · cases registered
    · exact ConnectionManager.sessionCount_removeSessionByFd_addSession fresh
    · exact ConnectionManager.sessionCount_addSession fresh

/-- The accept loop adds to the record of calls. -/
theorem calls_acceptLoop (maxConnections : Nat) (results : List AcceptResult) (server : Server χ) :
    server.calls <+: (acceptLoop maxConnections results server).calls := by
  induction results generalizing server with
  | nil => exact List.prefix_append _ _
  | cons result results ih =>
    cases result with
    | failed errno => exact List.prefix_append _ _
    | accepted fd flagsRead flagsSet registered =>
      rw [acceptLoop_accepted]
      split_ifs
      · exact (List.prefix_append _ _).trans (List.prefix_append _ _)
      · obtain ⟨more, connected⟩ := calls_connect server fd (flagsRead && flagsSet) registered
        refine List.IsPrefix.trans ?_ (ih _)
        rw [connected]
        exact List.prefix_append _ _

end Accept

/-- Every event adds to the record of calls. -/
theorem calls_handleEvent {χ : Type} {lib : Nlohmann} {handler : CommandHandler χ}
    {world : World χ} (recorded : Recorded lib handler world) (maxConnections : Nat)
    (event : ServerEvent) :
    world.server.calls <+: (handleEvent lib handler maxConnections world event).server.calls := by
  cases event with
  | accept results => exact calls_acceptLoop maxConnections results world.server
  | client event =>
    rcases clientEvent_tables recorded event
      with framed | ⟨middle, session, framed, -, -, -, dropped⟩
    · show world.server.calls <+: (clientEvent lib handler world event).server.calls
      rw [framed.calls]
    · show world.server.calls <+: (clientEvent lib handler world event).server.calls
      rw [dropped, ← framed.calls]
      exact List.prefix_append _ _
  | closeAll => exact List.prefix_append _ _

theorem serve_concat {χ : Type} (lib : Nlohmann) (handler : CommandHandler χ) (maxConnections : Nat)
    (state : χ) (events : List ServerEvent) (event : ServerEvent) :
    serve lib handler maxConnections state (events ++ [event])
      = handleEvent lib handler maxConnections (serve lib handler maxConnections state events)
        event := by
  rw [serve, List.foldl_append]
  rfl

end DemoDaemon.Ipc
