/-
**How often a client descriptor is closed.**

`accept_connection` gives a descriptor to a `Session`, whose destructor closes it. The accept loop
closes it as well when the session cannot be initialised or registered.

* `HandedOver`: every connection that the loop takes below the limit is initialised and registered.
* `accounted_acceptLoop`, `accounted_handleEvent`: then every descriptor is closed once, or belongs
  to a registered session.
* `acceptLoop_twice`: any other connection is closed twice.
* **`closed_once_iff`**: over whole runs.
-/

import DemoDaemon.Ipc.ConnectionTable

namespace DemoDaemon.Ipc

open Foundation

/-- What the kernel promises about `accept4`: a descriptor is not negative, and not open. -/
structure KernelAnswers (calls : List SystemCall) : Prop where
  fresh : Fresh (leases calls)
  nonneg : ∀ fd, .acquire fd ∈ leases calls → 0 ≤ fd

theorem acquire_mem_leases {before after : List SystemCall} {fd : Int32} (longer : before <+: after)
    (member : .acquire fd ∈ leases before) : .acquire fd ∈ leases after := by
  obtain ⟨more, rfl⟩ := longer
  rw [leases_append]
  exact List.mem_append_left _ member

theorem KernelAnswers.of_prefix {before after : List SystemCall} (kernel : KernelAnswers after)
    (longer : before <+: after) : KernelAnswers before := by
  refine ⟨?_, fun fd member => kernel.nonneg fd (acquire_mem_leases longer member)⟩
  obtain ⟨more, rfl⟩ := longer
  have fresh := kernel.fresh
  rw [leases_append] at fresh
  exact fresh.of_append

/-- Every connection that the accept loop takes below the limit is initialised and registered; a
connection at the limit ends the loop. -/
def HandedOver (maxConnections : Nat) : List AcceptResult → Nat → Prop
  | [], _ => True
  | .failed _ :: _, _ => True
  | .accepted _ flagsRead flagsSet registered :: results, sessions =>
    maxConnections ≤ sessions ∨
      (flagsRead && flagsSet) = true ∧ registered = true ∧
        HandedOver maxConnections results (sessions + 1)

section Accept

variable {χ : Type} {maxConnections : Nat}

theorem sessionCount_connect {server : Server χ} (valid : server.Valid) (fd : Int32) :
    (server.connect fd true true).manager.sessionCount = server.manager.sessionCount + 1 :=
  sessionCount_connected valid fd true true

/-- **A connection that is given up is closed twice.** -/
theorem releases_connect {server : Server χ} {fd : Int32} (nonneg : 0 ≤ fd)
    {initialized registered : Bool} (givenUp : ¬ (initialized = true ∧ registered = true)) :
    releases fd (leases (server.connect fd initialized registered).calls) = some 2 := by
  have twice : releases fd (leases ((server.calls ++ [SystemCall.accept4 (.ok fd)]) ++
      (.close fd :: (Session.create fd (server.nextSessionId + 1)).destroyed))) = some 2 := by
    have split : leases ((server.calls ++ [SystemCall.accept4 (.ok fd)]) ++
        (.close fd :: (Session.create fd (server.nextSessionId + 1)).destroyed))
          = ((leases server.calls ++ [Lease.acquire fd]) ++ [Lease.release fd])
            ++ [Lease.release fd] := by
      rw [Session.destroyed, if_pos (show 0 ≤ (Session.create fd _).fd from nonneg),
        leases_append, leases_append]
      simp [leases, SystemCall.lease, Session.create]
    rw [split, releases_concat_release, releases_concat_release, releases_concat_acquire]
    simp
  cases initialized <;> cases registered
  · exact twice
  · exact twice
  · exact twice
  · exact absurd ⟨rfl, rfl⟩ givenUp

/-- **Otherwise some descriptor is closed twice.** -/
theorem acceptLoop_twice {server : Server χ} (valid : server.Valid) {results : List AcceptResult}
    (nonneg : ∀ fd, .acquire fd ∈ leases (acceptLoop maxConnections results server).calls → 0 ≤ fd)
    (failed : ¬ HandedOver maxConnections results server.manager.sessionCount) :
    ∃ calls fd, calls <+: (acceptLoop maxConnections results server).calls ∧
      releases fd (leases calls) = some 2 := by
  induction results generalizing server with
  | nil => exact absurd trivial failed
  | cons result results ih =>
    cases result with
    | failed errno => exact absurd trivial failed
    | accepted fd flagsRead flagsSet registered =>
      rw [HandedOver, not_or] at failed
      obtain ⟨below, failed⟩ := failed
      rw [acceptLoop_accepted, if_neg below] at nonneg ⊢
      by_cases clean : (flagsRead && flagsSet) = true ∧ registered = true
      · rw [clean.1, clean.2] at nonneg failed ⊢
        have later : ¬ HandedOver maxConnections results
            (server.connect fd true true).manager.sessionCount := by
          rw [sessionCount_connect valid]
          exact fun handed => failed ⟨rfl, rfl, handed⟩
        exact ih (valid.connect fd true true) nonneg later
      · refine ⟨_, fd, calls_acceptLoop maxConnections results _, releases_connect ?_ clean⟩
        refine nonneg fd (acquire_mem_leases (calls_acceptLoop maxConnections results _) ?_)
        obtain ⟨more, connected⟩ :=
          calls_connect server fd (flagsRead && flagsSet) registered
        rw [connected, leases_append]
        exact List.mem_append_right _ List.mem_cons_self

/-- A refused connection: acquired, and released at once. -/
theorem accounted_refused {server : Server χ}
    (accounted : Accounted server.Registered (leases server.calls)) {fd : Int32}
    (free : ¬ server.Registered fd) :
    Accounted server.Registered
      (leases ((server.log [.accept4 (.ok fd)]).log [.close fd]).calls) := by
  have split : leases ((server.log [.accept4 (.ok fd)]).log [.close fd]).calls
      = (leases server.calls ++ [Lease.acquire fd]) ++ [Lease.release fd] := by
    show leases ((server.calls ++ [SystemCall.accept4 (.ok fd)]) ++ [SystemCall.close fd]) = _
    rw [leases_append, leases_append]
    rfl
  rw [split]
  have acquired : Accounted (fun other => other = fd ∨ server.Registered other)
      (leases server.calls ++ [Lease.acquire fd]) := accounted.acquire free fun _ => Iff.rfl
  refine acquired.release (Or.inl rfl) fun other => ?_
  constructor
  · intro registered
    exact ⟨fun same => free (same ▸ registered), Or.inr registered⟩
  · rintro ⟨different, same | registered⟩
    · exact absurd same different
    · exact registered

/-- A registered connection is acquired, and owned. -/
theorem accounted_connect {server : Server χ}
    (accounted : Accounted server.Registered (leases server.calls)) {fd : Int32}
    (free : ¬ server.Registered fd) :
    Accounted (server.connect fd true true).Registered
      (leases (server.connect fd true true).calls) := by
  have split : leases (server.connect fd true true).calls
      = leases server.calls ++ [Lease.acquire fd] := by
    show leases (server.calls ++ [SystemCall.accept4 (.ok fd)]) = _
    rw [leases_append]
    rfl
  rw [split]
  exact accounted.acquire free fun other => AList.mem_insert _

/-- **Handed over, every descriptor is closed once or registered.** -/
theorem accounted_acceptLoop {server : Server χ} (linked : server.Linked maxConnections)
    (accounted : Accounted server.Registered (leases server.calls)) {results : List AcceptResult}
    (fresh : Fresh (leases (acceptLoop maxConnections results server).calls))
    (handed : HandedOver maxConnections results server.manager.sessionCount) :
    Accounted (acceptLoop maxConnections results server).Registered
      (leases (acceptLoop maxConnections results server).calls) := by
  have unchanged : ∀ (server : Server χ) errno, leases (server.log [.accept4 (.error errno)]).calls
      = leases server.calls := by
    intro server errno
    show leases (server.calls ++ [SystemCall.accept4 (.error errno)]) = leases server.calls
    rw [leases_append]
    exact List.append_nil _
  induction results generalizing server with
  | nil =>
    rw [acceptLoop, unchanged]
    exact accounted
  | cons result results ih =>
    cases result with
    | failed errno =>
      rw [acceptLoop, unchanged]
      exact accounted
    | accepted fd flagsRead flagsSet registered =>
      rw [acceptLoop_accepted] at fresh ⊢
      by_cases full : maxConnections ≤ server.manager.sessionCount
      · rw [if_pos full] at fresh ⊢
        exact accounted_refused accounted (linked.free (List.append_assoc _ _ _) fresh)
      · obtain ⟨initialized, rfl, later⟩ := handed.resolve_left full
        rw [if_neg full, initialized] at fresh ⊢
        obtain ⟨rest, ended⟩ := calls_acceptLoop maxConnections results (server.connect fd true true)
        have split : (acceptLoop maxConnections results (server.connect fd true true)).calls
            = server.calls ++ SystemCall.accept4 (.ok fd) :: rest := by
          rw [← ended]
          exact List.append_assoc _ _ _
        have free : ¬ server.Registered fd := linked.free split fresh
        rw [← sessionCount_connect linked.toValid fd] at later
        exact ih (linked.register free (Nat.lt_of_not_le full)) (accounted_connect accounted free)
          fresh later

end Accept

/-! ### Other events -/

section Events

variable {χ : Type} {lib : Nlohmann} {handler : CommandHandler χ} {maxConnections : Nat}

/-- A registered descriptor was given by the kernel. -/
theorem Server.Linked.nonneg {server : Server χ} (linked : server.Linked maxConnections)
    (kernel : KernelAnswers server.calls) {fd : Int32} (registered : server.Registered fd) :
    0 ≤ fd :=
  kernel.nonneg fd (acquire_mem_of_releases (linked.held fd registered))

/-- A client event, for a server whose descriptors are accounted for. -/
theorem accounted_clientEvent {world : World χ} (recorded : Recorded lib handler world)
    (linked : world.server.Linked maxConnections) (kernel : KernelAnswers world.server.calls)
    (accounted : Accounted world.server.Registered (leases world.server.calls))
    (event : ClientEvent) :
    Accounted (clientEvent lib handler world event).server.Registered
      (leases (clientEvent lib handler world event).server.calls) := by
  have same : ∀ {middle : World χ}, Framed world.server middle →
      middle.server.Registered = world.server.Registered := by
    intro middle framed
    funext fd
    rw [Server.Registered, framed.tables.ids]
    rfl
  rcases clientEvent_tables recorded event with
    framed | ⟨middle, session, framed, valid, registered, sameFd, dropped⟩
  · rw [same framed, framed.calls]
    exact accounted
  · have own : world.server.Registered event.fd := same framed ▸ registered
    have nonneg : 0 ≤ (middle.current session).fd := by
      rw [sameFd]
      exact linked.nonneg kernel own
    have split : leases (middle.dropped event.fd session).server.calls
        = leases world.server.calls ++ [Lease.release event.fd] := by
      show leases (middle.server.calls ++ (middle.current session).destroyed) = _
      rw [leases_append, leases_destroyed nonneg, sameFd, framed.calls]
    rw [dropped, split]
    refine accounted.release own fun other => ?_
    rw [← same framed]
    exact ConnectionManager.mem_fdToId_removeSessionByFd event.fd other

/-- The descriptors of the stored sessions are the registered ones, each once. -/
theorem Server.Linked.fds {server : Server χ} (linked : server.Linked maxConnections) :
    (server.manager.sessionsById.entries.map fun entry => entry.2.fd).Nodup ∧
      ∀ fd, server.Registered fd
        ↔ fd ∈ server.manager.sessionsById.entries.map fun entry => entry.2.fd := by
  have stored : ∀ entry ∈ server.manager.sessionsById.entries,
      server.manager.sessionsById.lookup entry.1 = some entry.2 :=
    fun entry member => AList.mem_lookup_iff.mpr member
  refine ⟨?_, fun fd => ?_⟩
  · refine List.Nodup.map_on ?_ server.manager.sessionsById.nodupKeys.nodup
    intro first one second two sameFd
    have sameId : first.1 = second.1 :=
      linked.inverse.unique first.1 second.1 first.2 second.2 (stored first one)
        (stored second two) (Or.inl sameFd)
    exact server.manager.sessionsById.nodupKeys.eq_of_fst_eq one two sameId
  · constructor
    · intro registered
      obtain ⟨id, found⟩ := Option.isSome_iff_exists.mp (AList.lookup_isSome.mpr registered)
      obtain ⟨session, kept, sameFd⟩ := linked.consistent.registered fd id found
      exact List.mem_map.mpr ⟨⟨id, session⟩, AList.mem_lookup_iff.mp kept, sameFd⟩
    · intro member
      obtain ⟨entry, among, rfl⟩ := List.mem_map.mp member
      refine AList.lookup_isSome.mp ?_
      rw [linked.indexed entry.1 entry.2 (stored entry among)]
      rfl

theorem leases_flatMap_destroyed {sessions : List Session}
    (nonneg : ∀ session ∈ sessions, 0 ≤ session.fd) :
    leases (sessions.flatMap Session.destroyed) = (sessions.map Session.fd).map .release := by
  induction sessions with
  | nil => rfl
  | cons session sessions ih =>
    rw [List.forall_mem_cons] at nonneg
    rw [List.flatMap_cons, leases_append, leases_destroyed nonneg.1, ih nonneg.2]
    rfl

/-- `close_all` destroys every session, and so releases every descriptor once. -/
theorem accounted_closeAll {server : Server χ} (linked : server.Linked maxConnections)
    (kernel : KernelAnswers server.calls)
    (accounted : Accounted server.Registered (leases server.calls)) :
    Accounted (fun _ => False) (leases server.calls ++ leases
      ((server.manager.sessionsById.entries.map fun entry => entry.2).flatMap
        Session.destroyed)) := by
  obtain ⟨nodup, exact⟩ := linked.fds
  rw [leases_flatMap_destroyed]
  · have names : (server.manager.sessionsById.entries.map fun entry => entry.2).map Session.fd
        = server.manager.sessionsById.entries.map fun entry => entry.2.fd := List.map_map
    rw [names]
    exact accounted.releaseAll nodup exact
  · intro session member
    obtain ⟨entry, among, rfl⟩ := List.mem_map.mp member
    exact linked.nonneg kernel ((exact _).mpr (List.mem_map.mpr ⟨entry, among, rfl⟩))

/-- The condition on one event, in the world before it. -/
def HandsOver (maxConnections : Nat) (world : World χ) : ServerEvent → Prop
  | .accept results => HandedOver maxConnections results world.server.manager.sessionCount
  | .client _ => True
  | .closeAll => True

/-- **Step: any event.** -/
theorem accounted_handleEvent {world : World χ} (recorded : Recorded lib handler world)
    (linked : world.server.Linked maxConnections)
    (accounted : Accounted world.server.Registered (leases world.server.calls))
    {event : ServerEvent}
    (kernel : KernelAnswers (handleEvent lib handler maxConnections world event).server.calls)
    (handed : HandsOver maxConnections world event) :
    Accounted (handleEvent lib handler maxConnections world event).server.Registered
      (leases (handleEvent lib handler maxConnections world event).server.calls) := by
  have before : KernelAnswers world.server.calls :=
    kernel.of_prefix (calls_handleEvent recorded maxConnections event)
  cases event with
  | accept results => exact accounted_acceptLoop linked accounted kernel.fresh handed
  | client event => exact accounted_clientEvent recorded linked before accounted event
  | closeAll =>
    have none : (handleEvent lib handler maxConnections world .closeAll).server.Registered
        = fun _ => False := by
      funext fd
      exact eq_false (AList.notMem_empty fd)
    rw [none]
    show Accounted _ (leases (world.server.calls ++ _))
    rw [leases_append]
    exact accounted_closeAll linked before accounted

/-- **Run.** -/
theorem accounted_serve (state : χ) (events : List ServerEvent)
    (kernel : KernelAnswers (serve lib handler maxConnections state events).server.calls)
    (handed : ∀ before event rest, events = before ++ event :: rest →
      HandsOver maxConnections (serve lib handler maxConnections state before) event) :
    Accounted (serve lib handler maxConnections state events).server.Registered
      (leases (serve lib handler maxConnections state events).server.calls) := by
  induction events using List.reverseRecOn with
  | nil => exact accounted_nil fun fd => AList.notMem_empty fd
  | append_singleton events event ih =>
    rw [serve_concat] at kernel ⊢
    have recorded : Recorded lib handler (serve lib handler maxConnections state events) :=
      recorded_serve maxConnections state events
    have before := kernel.of_prefix (calls_handleEvent recorded maxConnections event)
    refine accounted_handleEvent recorded (linked_serve state events before.fresh)
      (ih before ?_) kernel (handed events event [] rfl)
    rintro earlier other rest rfl
    exact handed earlier other (rest ++ [event]) (by simp)

/-- The record of calls of a longer run goes on where the shorter one ends. -/
theorem calls_serve_append (lib : Nlohmann) (handler : CommandHandler χ) (maxConnections : Nat)
    (state : χ) (events more : List ServerEvent) :
    (serve lib handler maxConnections state events).server.calls
      <+: (serve lib handler maxConnections state (events ++ more)).server.calls := by
  induction more using List.reverseRecOn with
  | nil => rw [List.append_nil]
  | append_singleton more event ih =>
    rw [← List.append_assoc, serve_concat]
    exact ih.trans (calls_handleEvent (recorded_serve maxConnections state _) maxConnections event)

/-- **Every accepted descriptor is closed exactly once, exactly when it is handed over.** In every
run, under the promises of the kernel, every life of a descriptor has one `::close` (and one that
still belongs to a registered session none yet) if and only if no accept notification meets, below
the limit, a connection that cannot be initialised or registered. -/
theorem closed_once_iff (lib : Nlohmann) (handler : CommandHandler χ) (maxConnections : Nat)
    (state : χ) (events : List ServerEvent)
    (kernel : KernelAnswers (serve lib handler maxConnections state events).server.calls) :
    ReleasedOnce (serve lib handler maxConnections state events).server.Registered
        (leases (serve lib handler maxConnections state events).server.calls)
      ↔ ∀ before event rest, events = before ++ event :: rest →
        HandsOver maxConnections (serve lib handler maxConnections state before) event := by
  constructor
  · rintro once before event rest rfl
    cases event with
    | accept results =>
      by_contra failed
      have recorded : Recorded lib handler (serve lib handler maxConnections state before) :=
        recorded_serve maxConnections state before
      have ended := calls_serve_append lib handler maxConnections state
        (before ++ [ServerEvent.accept results]) rest
      rw [serve_concat, List.append_assoc, List.singleton_append] at ended
      obtain ⟨calls, fd, earlier, twice⟩ := acceptLoop_twice recorded.valid
        (fun fd member => kernel.nonneg fd (acquire_mem_leases ended member)) failed
      obtain ⟨more, split⟩ := earlier.trans ended
      have atMost := once.le_one (by rw [← split, leases_append]) twice
      omega
    | client event => trivial
    | closeAll => trivial
  · intro handed
    exact (accounted_serve state events kernel handed).releasedOnce

end Events

section Runs

theorem closed_once_reused_descriptor :
    ReleasedOnce (serve compact nullHandler 1 () reusedDescriptor).server.Registered
      (leases (serve compact nullHandler 1 () reusedDescriptor).server.calls) := by
  have log : leases (serve compact nullHandler 1 () reusedDescriptor).server.calls
      = (([] ++ [Lease.acquire 5]) ++ [Lease.release 5]) ++ [Lease.acquire 5] := by
    decide +kernel
  refine (closed_once_iff compact nullHandler 1 () reusedDescriptor ⟨?_, ?_⟩).mpr ?_
  · rw [log, fresh_concat_acquire, fresh_concat_release, fresh_concat_acquire]
    exact ⟨⟨fresh_nil, by decide⟩, by decide⟩
  · rw [log]
    simp
  · intro before event rest split
    have member : event ∈ reusedDescriptor := by
      rw [split]
      simp
    simp only [reusedDescriptor, List.mem_cons, List.not_mem_nil, or_false] at member
    rcases member with rfl | rfl | rfl
    · exact Or.inr ⟨rfl, rfl, trivial⟩
    · trivial
    · exact Or.inr ⟨rfl, rfl, trivial⟩

/-- `epoll_ctl` fails for the first client: its descriptor is closed by the accept loop and by the
destructor of its session. -/
theorem closed_twice_unregistered :
    ¬ ∀ (lib : Nlohmann) (events : List ServerEvent), lib.Documented →
      KernelAnswers (serve lib nullHandler 16 () events).server.calls →
      ReleasedOnce (serve lib nullHandler 16 () events).server.Registered
        (leases (serve lib nullHandler 16 () events).server.calls) := by
  intro all
  have log : leases (serve compact nullHandler 16 ()
      [.accept [.accepted 5 true true false]]).server.calls
        = (([] ++ [Lease.acquire 5]) ++ [Lease.release 5]) ++ [Lease.release 5] := by
    decide +kernel
  have once := all compact [.accept [.accepted 5 true true false]] compact_documented (by
    refine ⟨?_, ?_⟩
    · rw [log, fresh_concat_release, fresh_concat_release, fresh_concat_acquire]
      exact ⟨fresh_nil, by decide⟩
    · rw [log]
      simp)
  rw [log] at once
  have twice : releases (5 : Int32)
      ((([] ++ [Lease.acquire 5]) ++ [Lease.release 5]) ++ [Lease.release 5]) = some 2 := by decide
  have atMost := once.le_one (List.append_nil _).symm twice
  omega

end Runs

end DemoDaemon.Ipc
