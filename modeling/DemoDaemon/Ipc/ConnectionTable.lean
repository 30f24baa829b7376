/-
**The connection table over whole runs**, with a kernel that may give a descriptor again as soon as
it is closed.

* `Server.Linked`: the invariant. A registered descriptor is held, so the kernel cannot give it a
  second time; that is what keeps one session from taking the entry of another.
* One lemma for each thing an event can do: `Linked.frame`, `Linked.drop`, `Linked.register`,
  `Linked.connect`, `Linked.acceptLoop`.
* **`connection_table`**: in every run the two maps are inverse to each other and bounded.
-/

import DemoDaemon.Ipc.ServerTables

namespace DemoDaemon.Ipc

open Foundation

/-- The two maps are inverse to each other, and hold no more sessions than allowed. -/
structure ConnectionManager.Inverse (manager : ConnectionManager) (maxConnections : Nat) :
    Prop where
  inverse : ∀ fd id, manager.fdToId.lookup fd = some id
    ↔ ∃ session, manager.sessionsById.lookup id = some session ∧ session.fd = fd
  unique : ∀ first second one two, manager.sessionsById.lookup first = some one →
    manager.sessionsById.lookup second = some two → one.fd = two.fd ∨ one.id = two.id →
    first = second
  found : ∀ id session, manager.sessionsById.lookup id = some session →
    manager.getSessionByFd session.fd = some session
  room : manager.sessionCount ≤ maxConnections

section Linked

variable {χ : Type} {maxConnections : Nat}

/-- The invariant: every stored session is found through its descriptor, and every registered
descriptor is held. -/
structure Server.Linked (maxConnections : Nat) (server : Server χ) : Prop
    extends Server.Valid server where
  indexed : ∀ id session, server.manager.sessionsById.lookup id = some session →
    server.manager.fdToId.lookup session.fd = some id
  held : ∀ fd, server.Registered fd → releases fd (leases server.calls) = some 0
  room : server.manager.sessionCount ≤ maxConnections

theorem Server.Linked.inverse {server : Server χ} (linked : server.Linked maxConnections) :
    server.manager.Inverse maxConnections where
  inverse fd id := by
    constructor
    · exact linked.consistent.registered fd id
    · rintro ⟨session, stored, rfl⟩
      exact linked.indexed id session stored
  unique first second one two storedOne storedTwo := by
    rintro (sameFd | sameId)
    · have indexed := linked.indexed first one storedOne
      rw [sameFd, linked.indexed second two storedTwo] at indexed
      exact (Option.some.inj indexed).symm
    · rw [← linked.consistent.own_id first one storedOne, sameId]
      exact linked.consistent.own_id second two storedTwo
  found id session stored := by
    rw [ConnectionManager.getSessionByFd, linked.indexed id session stored]
    exact stored
  room := linked.room

theorem linked_start (state : χ) : (Server.start state).Linked maxConnections where
  toValid := valid_start state
  indexed id session stored := by simp [Server.start, ConnectionManager.empty] at stored
  held fd registered := absurd registered (AList.notMem_empty fd)
  room := Nat.zero_le _

/-- **Sessions may change behind the tables.** -/
theorem Server.Linked.frame {server after : Server χ} (linked : server.Linked maxConnections)
    (valid : after.Valid) (tables : SameTables server.manager after.manager)
    (calls : after.calls = server.calls) : after.Linked maxConnections where
  toValid := valid
  indexed id session stored := by
    have fds := tables.fds id
    rw [stored, Option.map_some] at fds
    obtain ⟨before, storedBefore, sameFd⟩ := Option.map_eq_some_iff.mp fds.symm
    rw [tables.ids, ← sameFd]
    exact linked.indexed id before storedBefore
  held fd registered := by
    rw [Server.Registered, tables.ids] at registered
    rw [calls]
    exact linked.held fd registered
  room := by
    rw [tables.count]
    exact linked.room

/-- Calls about descriptors that are not registered. -/
theorem Server.Linked.log {server : Server χ} (linked : server.Linked maxConnections)
    {calls : List SystemCall} (others : ∀ entry ∈ leases calls, ¬ server.Registered entry.name) :
    (server.log calls).Linked maxConnections where
  toValid := linked.toValid.log calls
  indexed := linked.indexed
  held fd registered := by
    show releases fd (leases (server.calls ++ calls)) = some 0
    rw [leases_append, releases_append_of_other]
    · exact linked.held fd registered
    · rintro entry member rfl
      exact others entry member registered
  room := linked.room

/-- **A session is dropped.** -/
theorem Server.Linked.drop {server : Server χ} (linked : server.Linked maxConnections)
    (fd : Int32) :
    Server.Linked maxConnections
      { server with manager := server.manager.removeSessionByFd fd } where
  toValid := linked.toValid.removeSessionByFd fd
  indexed id session stored := by
    dsimp only at stored ⊢
    unfold ConnectionManager.removeSessionByFd at stored ⊢
    cases removed : server.manager.fdToId.lookup fd with
    | none =>
      rw [removed] at stored
      exact linked.indexed id session stored
    | some gone =>
      rw [removed] at stored
      dsimp only at stored ⊢
      have kept : id ≠ gone := by
        rintro rfl
        rw [AList.lookup_erase] at stored
        cases stored
      rw [AList.lookup_erase_ne kept] at stored
      have indexed := linked.indexed id session stored
      rw [AList.lookup_erase_ne]
      · exact indexed
      · rintro rfl
        rw [removed] at indexed
        exact kept (Option.some.inj indexed).symm
  held other registered :=
    linked.held other ((ConnectionManager.mem_fdToId_removeSessionByFd fd other).mp registered).2
  room := (ConnectionManager.sessionCount_removeSessionByFd_le fd).trans linked.room

/-- **A new session is registered**, under a descriptor that is not. -/
theorem Server.Linked.register {server : Server χ} (linked : server.Linked maxConnections)
    {fd : Int32} (free : ¬ server.Registered fd)
    (below : server.manager.sessionCount < maxConnections) :
    (server.connect fd true true).Linked maxConnections := by
  have valid : (server.log [.accept4 (.ok fd)]).Valid := linked.toValid.log _
  have unused : server.manager.sessionsById.lookup (server.nextSessionId + 1) = none := by
    cases stored : server.manager.sessionsById.lookup (server.nextSessionId + 1) with
    | none => rfl
    | some other =>
      have bound := linked.bounded _ other stored
      omega
  refine ⟨valid.addSession rfl, ?_, ?_, ?_⟩
  · intro id session stored
    show (server.manager.fdToId.insert fd (server.nextSessionId + 1)).lookup session.fd = some id
    change (server.manager.sessionsById.insert (server.nextSessionId + 1)
      (Session.create fd (server.nextSessionId + 1))).lookup id = some session at stored
    by_cases here : id = server.nextSessionId + 1
    · subst here
      rw [AList.lookup_insert] at stored
      cases stored
      exact AList.lookup_insert _
    · rw [AList.lookup_insert_ne here] at stored
      have indexed := linked.indexed id session stored
      rw [AList.lookup_insert_ne]
      · exact indexed
      · intro same
        refine free (AList.lookup_isSome.mp ?_)
        rw [← same, indexed]
        rfl
  · intro other registered
    show releases other (leases (server.calls ++ [SystemCall.accept4 (.ok fd)])) = some 0
    rw [leases_append]
    show releases other (leases server.calls ++ [Lease.acquire fd]) = some 0
    rw [releases_concat_acquire]
    split_ifs with same
    · rfl
    · exact linked.held other (((AList.mem_insert _).mp registered).resolve_left (Ne.symm same))
  · show (server.manager.addSession (Session.create fd (server.nextSessionId + 1))).sessionCount ≤ _
    rw [ConnectionManager.sessionCount_addSession unused]
    exact below

/-- The two closes of a connection that is given up are about its descriptor. -/
theorem name_of_close_destroyed {fd : Int32} {id : Nat} {entry : Lease Int32}
    (member : entry ∈ leases (.close fd :: (Session.create fd id).destroyed)) :
    entry.name = fd := by
  unfold Session.destroyed at member
  split_ifs at member
  · simp only [leases, SystemCall.lease, Session.create, List.filterMap_cons, List.filterMap_nil,
      List.mem_cons, List.not_mem_nil, or_false, or_self] at member
    rw [member]
    rfl
  · simp only [leases, SystemCall.lease, List.filterMap_cons, List.filterMap_nil,
      List.mem_singleton] at member
    rw [member]
    rfl

/-- **A connection below the limit**, whatever becomes of it. -/
theorem Server.Linked.connect {server : Server χ} (linked : server.Linked maxConnections)
    {fd : Int32} (free : ¬ server.Registered fd)
    (below : server.manager.sessionCount < maxConnections) (initialized registered : Bool) :
    (server.connect fd initialized registered).Linked maxConnections := by
  have next : Server.Linked maxConnections
      { server with nextSessionId := server.nextSessionId + 1 } := by
    refine ⟨⟨linked.consistent, fun id session stored => ?_⟩, linked.indexed, linked.held,
      linked.room⟩
    exact (linked.bounded id session stored).trans (Nat.le_succ _)
  have givenUp : (({ server with nextSessionId := server.nextSessionId + 1 }.log
      [.accept4 (.ok fd)]).log (.close fd :: (Session.create fd
        (server.nextSessionId + 1)).destroyed)).Linked maxConnections := by
    refine Server.Linked.log (next.log ?_) ?_
    · intro entry member
      rw [List.mem_singleton.mp member]
      exact free
    · intro entry member
      rw [name_of_close_destroyed member]
      exact free
  have dropped := (linked.register free below).drop fd
  cases initialized <;> cases registered
  · exact givenUp
  · exact givenUp
  · refine dropped.log fun entry member => ?_
    rw [name_of_close_destroyed member]
    intro still
    exact ((ConnectionManager.mem_fdToId_removeSessionByFd fd fd).mp still).1 rfl
  · exact linked.register free below

/-- A descriptor that the kernel gives is not registered. -/
theorem Server.Linked.free {server : Server χ} (linked : server.Linked maxConnections)
    {fd : Int32} {calls more : List SystemCall}
    (split : calls = server.calls ++ SystemCall.accept4 (.ok fd) :: more)
    (fresh : Fresh (leases calls)) :
    ¬ server.Registered fd := by
  intro registered
  rw [split, leases_append] at fresh
  exact fresh (leases server.calls) fd (leases more) rfl (linked.held fd registered)

/-- **An accept notification.** -/
theorem Server.Linked.acceptLoop {server : Server χ} (linked : server.Linked maxConnections)
    {results : List AcceptResult}
    (fresh : Fresh (leases (acceptLoop maxConnections results server).calls)) :
    (acceptLoop maxConnections results server).Linked maxConnections := by
  induction results generalizing server with
  | nil => exact linked.log (by simp [leases, SystemCall.lease])
  | cons result results ih =>
    cases result with
    | failed errno => exact linked.log (by simp [leases, SystemCall.lease])
    | accepted fd flagsRead flagsSet registered =>
      rw [acceptLoop_accepted] at fresh ⊢
      split_ifs at fresh ⊢ with full
      · have free : ¬ server.Registered fd := linked.free (List.append_assoc _ _ _) fresh
        refine Server.Linked.log (linked.log ?_) ?_
        · intro entry member
          rw [List.mem_singleton.mp member]
          exact free
        · intro entry member
          rw [List.mem_singleton.mp member]
          exact free
      · obtain ⟨more, connected⟩ := calls_connect server fd (flagsRead && flagsSet) registered
        obtain ⟨rest, ended⟩ := calls_acceptLoop maxConnections results
          (server.connect fd (flagsRead && flagsSet) registered)
        rw [connected, List.append_assoc] at ended
        have free : ¬ server.Registered fd := linked.free ended.symm fresh
        exact ih (linked.connect free (Nat.lt_of_not_le full) _ _) fresh

end Linked

section Runs

variable {χ : Type} {lib : Nlohmann} {handler : CommandHandler χ} {maxConnections : Nat}

/-- **Step: any event.** -/
theorem Server.Linked.handleEvent {world : World χ} (recorded : Recorded lib handler world)
    (linked : world.server.Linked maxConnections) (event : ServerEvent)
    (fresh : Fresh (leases (handleEvent lib handler maxConnections world event).server.calls)) :
    (handleEvent lib handler maxConnections world event).server.Linked maxConnections := by
  cases event with
  | accept results => exact linked.acceptLoop fresh
  | client event =>
    rcases clientEvent_tables recorded event with
      framed | ⟨middle, session, framed, valid, -, sameFd, dropped⟩
    · exact linked.frame (recorded.clientEvent event).valid framed.tables framed.calls
    · show (clientEvent lib handler world event).server.Linked maxConnections
      rw [dropped]
      refine ((linked.frame valid framed.tables framed.calls).drop event.fd).log ?_
      intro entry member registered
      have name : entry.name = event.fd := by
        unfold Session.destroyed at member
        split_ifs at member
        · rw [List.mem_singleton.mp member]
          exact sameFd
        · cases member
      rw [name] at registered
      exact ((ConnectionManager.mem_fdToId_removeSessionByFd event.fd event.fd).mp registered).1 rfl
  | closeAll =>
    refine ⟨(recorded.handleEvent maxConnections .closeAll).valid, ?_, ?_, Nat.zero_le _⟩
    · intro id session stored
      exact absurd stored (by
        show ¬ (∅ : AList fun _ : Nat => Session).lookup id = some session
        simp)
    · intro fd registered
      exact absurd registered (AList.notMem_empty fd)

/-- **Run.** -/
theorem linked_serve (state : χ) (events : List ServerEvent)
    (fresh : Fresh (leases (serve lib handler maxConnections state events).server.calls)) :
    (serve lib handler maxConnections state events).server.Linked maxConnections := by
  induction events using List.reverseRecOn with
  | nil => exact linked_start state
  | append_singleton events event ih =>
    rw [serve_concat] at fresh ⊢
    have recorded : Recorded lib handler (serve lib handler maxConnections state events) :=
      recorded_serve maxConnections state events
    obtain ⟨more, extended⟩ := calls_handleEvent recorded maxConnections event
    have before : Fresh (leases (serve lib handler maxConnections state events).server.calls) := by
      rw [← extended, leases_append] at fresh
      exact fresh.of_append
    exact Server.Linked.handleEvent recorded (ih before) event fresh

/-- **The connection table.** In every run, if `accept4` never gives a descriptor that is open, the
two maps are inverse to each other, no two registered sessions share a descriptor or an id, every
registered session is found through its descriptor, and there are no more than allowed. -/
theorem connection_table (lib : Nlohmann) (handler : CommandHandler χ) (maxConnections : Nat)
    (state : χ) (events : List ServerEvent)
    (fresh : Fresh (leases (serve lib handler maxConnections state events).server.calls)) :
    (serve lib handler maxConnections state events).server.manager.Inverse maxConnections :=
  (linked_serve state events fresh).inverse

end Runs

/-- A command handler that answers every request with null. -/
def nullHandler : CommandHandler Unit := fun _ request => (.ok ⟨request.id, Json.null⟩, ())

/-- A client hangs up, and the next one gets its descriptor. -/
def reusedDescriptor : List ServerEvent :=
  [.accept [.accepted 5 true true true], .client ⟨5, true, false, .again, [.data []], []⟩,
    .accept [.accepted 5 true true true]]

theorem connection_table_reused_descriptor :
    let served := serve compact nullHandler 1 () reusedDescriptor
    served.server.manager.sessionCount = 1 ∧ served.server.manager.Inverse 1 := by
  have log : leases (serve compact nullHandler 1 () reusedDescriptor).server.calls
      = (([] ++ [Lease.acquire 5]) ++ [Lease.release 5]) ++ [Lease.acquire 5] := by
    decide +kernel
  refine ⟨by decide +kernel, connection_table _ _ _ _ _ ?_⟩
  rw [log, fresh_concat_acquire, fresh_concat_release, fresh_concat_acquire]
  exact ⟨⟨fresh_nil, by decide⟩, by decide⟩

end DemoDaemon.Ipc
