/-
**Where requests go**: the daemon's command handler behind the server's event loop.

* `Routed`: what one call of a session's message handler should do. The request is executed once;
  its one response, under its id, goes to the session it came from, or nowhere for a notification;
  no other session's output changes.
* `onRequest_found`, `onRequest_missing`: what the closure does, by the session it finds.
* **`routed_iff`**: over every run and every call, the call does what it should if and only if the
  request carries an id whose low 32 bits happen to be the descriptor of its own session.
-/

import DemoDaemon.Ipc.ServerRuns
import DemoDaemon.Daemon.CommandHandler

namespace DemoDaemon.Daemon

open Foundation DemoDaemon.Ipc

/-! ### The property of one call -/

/-- The unsent bytes of the session with an id. -/
def pendingOf {χ : Type} (server : Server χ) (id : Nat) : Option Bytes :=
  (server.manager.sessionsById.lookup id).map fun session => session.writeBuffer.pending

/-- The bytes are one response with the id, and the newlines behind it. -/
def OneResponse (lib : Nlohmann) (id : Int64) (bytes : Bytes) : Prop :=
  ∃ (response : JsonMessage) (text : Bytes) (newlines : Nat), response.id = some id ∧
    response.isResponse = true ∧ lib.dump response.toJson = .ok text ∧
    bytes = text ++ List.replicate (newlines + 1) newline

/-- One call of a message handler does what it should. -/
def Routed {χ : Type} (lib : Nlohmann) (call : Dispatch χ) : Prop :=
  call.after.executed = call.before.executed ++ [call.request] ∧
  (∀ other, other ≠ call.id → pendingOf call.after other = pendingOf call.before other) ∧
  match call.request.id with
  | some id => ∃ sent bytes, pendingOf call.before call.id = some sent ∧
      pendingOf call.after call.id = some (sent ++ bytes) ∧ OneResponse lib id bytes
  | none => pendingOf call.after call.id = pendingOf call.before call.id

/-- The request carries an id whose low 32 bits are the descriptor of its own session. -/
def IdIsOwnFd {χ : Type} (call : Dispatch χ) : Prop :=
  ∃ id, call.request.id = some id ∧ id.toInt32 = call.fd

/-! ### One call -/

section Calls

variable {χ : Type}

theorem pendingOf_put_same {server : Server χ} (session : Session) :
    pendingOf (server.put session) session.id = some session.writeBuffer.pending := by
  simp [pendingOf, Server.put, ConnectionManager.put]

theorem pendingOf_put_other {server : Server χ} (session : Session) {other : Nat}
    (different : other ≠ session.id) :
    pendingOf (server.put session) other = pendingOf server other := by
  simp [pendingOf, Server.put, ConnectionManager.put, AList.lookup_insert_ne different]

variable {lib : Nlohmann} (documented : lib.Documented) (registry : CommandRegistry χ)

/-- The daemon's handler never throws. -/
theorem commandHandler_returns (state : χ) (request : RequestMessage) :
    ∃ response, (commandHandler registry state request).1 = .ok response := by
  unfold commandHandler
  cases registry.getCommand request.method with
  | none => exact ⟨_, rfl⟩
  | some command =>
    dsimp only
    rcases command.execute state request.params with ⟨error | result, after⟩
    · exact ⟨_, rfl⟩
    · dsimp only
      split_ifs
      · exact ⟨_, rfl⟩
      · exact ⟨_, rfl⟩

theorem onRequest_missing {server : Server χ} {request : RequestMessage}
    (missing : server.manager.getSessionByFd (routedFd request) = none) :
    server.onRequest lib (commandHandler registry) request = server := by
  simp only [Server.onRequest, missing]

include documented

/-- **The session the closure finds gets the answer.** -/
theorem onRequest_found {server : Server χ} {request : RequestMessage} {target : Session}
    (found : server.manager.getSessionByFd (routedFd request) = some target) :
    ∃ writeBuffer text, server.onRequest lib (commandHandler registry) request
        = { server.put { target with writeBuffer } with
            state := (commandHandler registry server.state request).2
            executed := server.executed ++ [request] } ∧
      lib.dump (answer lib request (commandHandler registry server.state request).1).toJson
        = .ok text ∧
      writeBuffer.pending = target.writeBuffer.pending ++ queuedText text := by
  obtain ⟨response, handled⟩ := commandHandler_returns registry server.state request
  obtain ⟨text, written⟩ := answer_written documented request
    (commandHandler registry server.state request).1 (by
      intro error threw
      rw [handled] at threw
      cases threw)
  obtain ⟨writeBuffer, answered, pending⟩ :=
    onMessage_spec lib (commandHandler registry) server.state request target written
  refine ⟨writeBuffer, text, ?_, written, pending⟩
  simp only [Server.onRequest, found, answered]

/-- The session that is found has its unsent bytes extended. -/
theorem pendingOf_found {server : Server χ} (valid : server.Valid) {request : RequestMessage}
    {target : Session}
    (found : server.manager.getSessionByFd (routedFd request) = some target) :
    ∃ text, pendingOf server target.id = some target.writeBuffer.pending ∧
      pendingOf (server.onRequest lib (commandHandler registry) request) target.id
        = some (target.writeBuffer.pending ++ queuedText text) ∧
      lib.dump (answer lib request (commandHandler registry server.state request).1).toJson
        = .ok text := by
  obtain ⟨writeBuffer, text, result, written, pending⟩ :=
    onRequest_found documented registry found
  obtain ⟨-, stored⟩ := valid.consistent.lookup_of_getSessionByFd found
  refine ⟨text, ?_, ?_, written⟩
  · rw [pendingOf, stored]
    rfl
  · rw [result, ← pending]
    exact pendingOf_put_same { target with writeBuffer }

/-- **One call.** It does what it should exactly when it finds its own session by the id. -/
theorem onRequest_routed_iff {server : Server χ} (valid : server.Valid) {fd : Int32} {id : Nat}
    (registered : server.manager.fdToId.lookup fd = some id) (request : RequestMessage) :
    Routed lib ⟨fd, id, request, server, server.onRequest lib (commandHandler registry) request⟩
      ↔ IdIsOwnFd
        ⟨fd, id, request, server, server.onRequest lib (commandHandler registry) request⟩ := by
  obtain ⟨own, ownStored, ownFd⟩ := valid.consistent.registered fd id registered
  constructor
  · rintro ⟨executed, others, reply⟩
    cases found : server.manager.getSessionByFd (routedFd request) with
    | none =>
      rw [onRequest_missing registry found] at executed
      exact absurd (congrArg List.length executed) (by simp)
    | some target =>
      obtain ⟨text, before, after, -⟩ := pendingOf_found documented registry valid found
      have grown : pendingOf (server.onRequest lib (commandHandler registry) request) target.id
          ≠ pendingOf server target.id := by
        rw [before, after]
        intro same
        simp [queuedText] at same
      -- only the own session may have changed, so the one found is the own one
      have same : target.id = id := by
        by_contra different
        exact grown (others target.id different)
      obtain ⟨-, stored⟩ := valid.consistent.lookup_of_getSessionByFd found
      rw [same, ownStored] at stored
      cases stored
      have found := valid.consistent.getSessionByFd_fd found
      cases carried : request.id with
      | none =>
        simp only [carried] at reply
        exact absurd reply (same ▸ grown)
      | some number =>
        refine ⟨number, carried, ?_⟩
        rw [routedFd, carried] at found
        exact found.symm.trans ownFd
  · rintro ⟨number, carried, same⟩
    have routed : routedFd request = fd := by
      rw [routedFd, carried]
      exact same
    have found : server.manager.getSessionByFd (routedFd request) = some own := by
      rw [routed, ConnectionManager.getSessionByFd, registered]
      exact ownStored
    have ownId := valid.consistent.own_id id own ownStored
    obtain ⟨writeBuffer, -, result, -, -⟩ := onRequest_found documented registry found
    obtain ⟨text, before, after, written⟩ := pendingOf_found documented registry valid found
    refine ⟨?_, ?_, ?_⟩
    · rw [result]
    · intro other different
      rw [result]
      exact pendingOf_put_other { own with writeBuffer } (ownId ▸ different)
    · dsimp only
      rw [carried]
      rw [ownId] at before after
      exact ⟨_, _, before, after, _, text, 1, (answer_id lib request _).trans carried,
        answer_isResponse lib request _, written, List.append_assoc _ _ _⟩

end Calls

/-! ### Runs -/

/-- The calls of a run are such calls. -/
theorem called_routed_iff {χ : Type} {lib : Nlohmann} (documented : lib.Documented)
    (registry : CommandRegistry χ) {call : Dispatch χ}
    (called : Called lib (commandHandler registry) call) :
    Routed lib call ↔ IdIsOwnFd call := by
  obtain ⟨fd, id, request, before, after⟩ := call
  obtain ⟨valid, registered, result⟩ := called
  dsimp only at valid registered result
  subst result
  exact onRequest_routed_iff documented registry valid registered request

/-- **Routing.** In every run of the server, over every registry of commands, every call of a
session's message handler executes its request once, appends one response under the request's id to
that session's output (none for a notification) and leaves the others alone, if and only if the
request carries an id whose low 32 bits are the descriptor of that session. -/
theorem routed_iff {χ : Type} {lib : Nlohmann} (documented : lib.Documented)
    (registry : CommandRegistry χ) (maxConnections : Nat) (state : χ) (events : List ServerEvent) :
    ∀ call ∈ (serve lib (commandHandler registry) maxConnections state events).dispatches,
      (Routed lib call ↔ IdIsOwnFd call) := by
  intro call among
  exact called_routed_iff documented registry ((recorded_serve maxConnections state events).calls
    call among)

/-- Two clients, on descriptors 5 and 6, that send the same request under id 5. -/
def twoClients : List ServerEvent :=
  [.accept [.accepted 5 true true true, .accepted 6 true true true],
    .client ⟨5, true, false, .again, [.data (ascii "\x7b\"method\":\"a\",\"id\":5\x7d\n")], []⟩,
    .client ⟨6, true, false, .again, [.data (ascii "\x7b\"method\":\"a\",\"id\":5\x7d\n")], []⟩]

theorem dispatches_twoClients :
    (serve compact (commandHandler ⟨[]⟩) 16 () twoClients).dispatches.map
      (fun call => (call.fd, call.request.id)) = [(5, some 5), (6, some 5)] := by
  decide +kernel

/-- The request of the second client is answered to the first. -/
theorem not_routed_second_client :
    ¬ ∀ (lib : Nlohmann) (registry : CommandRegistry Unit) (maxConnections : Nat)
      (events : List ServerEvent), lib.Documented →
      ∀ call ∈ (serve lib (commandHandler registry) maxConnections () events).dispatches,
        Routed lib call := by
  intro all
  have second : (6, some 5) ∈ (serve compact (commandHandler ⟨[]⟩) 16 () twoClients).dispatches.map
      (fun call => (call.fd, call.request.id)) := by
    rw [dispatches_twoClients]
    simp
  obtain ⟨call, among, same⟩ := List.mem_map.mp second
  obtain ⟨number, carried, own⟩ :=
    (called_routed_iff compact_documented ⟨[]⟩
      ((recorded_serve 16 () twoClients).calls call among)).mp
      (all compact ⟨[]⟩ 16 twoClients compact_documented call among)
  obtain ⟨fd, id⟩ := Prod.mk.inj same
  rw [carried] at id
  rw [fd, Option.some.inj id] at own
  exact absurd own (by decide)

/-- The request of the first client is its own. -/
theorem routed_first_client :
    ∃ call ∈ (serve compact (commandHandler ⟨[]⟩) 16 () twoClients).dispatches,
      call.fd = 5 ∧ call.request.id = some 5 ∧ Routed compact call := by
  have first : (5, some 5) ∈ (serve compact (commandHandler ⟨[]⟩) 16 () twoClients).dispatches.map
      (fun call => (call.fd, call.request.id)) := by
    rw [dispatches_twoClients]
    simp
  obtain ⟨call, among, same⟩ := List.mem_map.mp first
  obtain ⟨fd, id⟩ := Prod.mk.inj same
  refine ⟨call, among, fd, id, ?_⟩
  rw [routed_iff compact_documented ⟨[]⟩ 16 () twoClients call among]
  exact ⟨5, id, fd.symm⟩

end DemoDaemon.Daemon
