/-
**The listening socket** (`UnixSocketServer`: `cleanup_socket`, `create_server_socket`, `initialize`
and the destructor).

The two descriptors are fields, -1 when there is none. What the kernel answers is given with each
call of `initialize`; the calls are recorded with their outcome.

* `cleanupSocket`, `createServerSocket`, `initializeServer`, `destroyed`: as in the source.
* `initializeServer_outcome`: what a call does to the two fields and to the descriptors.
* `initializeServer_paired`: on a server without descriptors, a call sets both or none of them.
* **`listener_descriptors_iff`**: over every sequence of calls of `initialize` and every answer of
  the kernel, each descriptor is closed exactly once by the end of the destructor if and only if
  `initialize` was not called again behind a success.
-/

import DemoDaemon.Foundation.Bytes
import DemoDaemon.Foundation.Slots

namespace DemoDaemon.Ipc

open Foundation

/-! ### State -/

/-- The values of `errno` that `cleanup_socket` tells apart. -/
inductive FileErrno where
  | noEntry
  | other
deriving DecidableEq

/-- What `::stat` answers. -/
inductive StatResult where
  | socket
  | other
  | failed (errno : FileErrno)
deriving DecidableEq

/-- System calls of the listening side, as they are made, with their outcome. -/
inductive ListenerCall where
  | stat (path : Bytes) (result : StatResult)
  | unlink (path : Bytes) (result : Option FileErrno)
  | socket (result : Option Int32)
  | bind (fd : Int32) (path : Bytes) (done : Bool)
  | chmod (path : Bytes) (mode : Int32) (done : Bool)
  | listen (fd : Int32) (backlog : Int32) (done : Bool)
  | epollCreate (result : Option Int32)
  | epollAdd (epollFd fd : Int32) (done : Bool)
  | close (fd : Int32)
deriving DecidableEq

/-- The fields of `UnixSocketConfig` that the listening side reads. -/
structure UnixSocketConfig where
  socketPath : Bytes
  socketPermissions : Int32
  backlog : Int32

/-- `UnixSocketServer`, by its two descriptors. `calls` is a record. -/
structure Listener where
  config : UnixSocketConfig
  serverFd : Int32
  epollFd : Int32
  calls : List ListenerCall

/-- The constructor. -/
def Listener.create (config : UnixSocketConfig) : Listener := ⟨config, -1, -1, []⟩

/-- What the kernel answers to the calls of one `initialize`. -/
structure InitializeAnswers where
  /-- `errno` before the first call. -/
  stale : FileErrno
  stat : StatResult
  /-- The failure of `::unlink`. -/
  unlink : Option FileErrno
  socket : Option Int32
  bind : Bool
  chmod : Bool
  listen : Bool
  epollCreate : Option Int32
  epollAdd : Bool

/-! ### Calls -/

/-- `sizeof(addr.sun_path)`. -/
def sunPathSize : Nat := 108

/-- `path.c_str()`, as a C function reads it. -/
def cString (path : Bytes) : Bytes := path.takeWhile (· != 0)

/-- What `std::strncpy(addr.sun_path, path.c_str(), sizeof(addr.sun_path) - 1)` leaves in a field of
zero bytes, up to the first of them. -/
def sunPath (path : Bytes) : Bytes := (cString path).take (sunPathSize - 1)

/-- `cleanup_socket(path)`. The value of `errno` that it looks at is the one of `::unlink`, of
`::stat`, or, when there is a file that is no socket, one that nothing here has set. -/
def cleanupSocket (path : Bytes) (answers : InitializeAnswers) : Bool × List ListenerCall :=
  let stat := ListenerCall.stat (cString path) answers.stat
  match answers.stat with
  | .failed errno => (decide (errno = .noEntry), [stat])
  | .other => (decide (answers.stale = .noEntry), [stat])
  | .socket =>
    let unlink := ListenerCall.unlink (cString path) answers.unlink
    match answers.unlink with
    | none => (true, [stat, unlink])
    | some errno => (decide (errno = .noEntry), [stat, unlink])

/-- `create_server_socket()`: the descriptor, or -1. -/
def createServerSocket (config : UnixSocketConfig) (answers : InitializeAnswers) :
    Int32 × List ListenerCall :=
  match answers.socket with
  | none => (-1, [.socket none])
  | some fd =>
    if sunPathSize ≤ config.socketPath.length then (-1, [.socket (some fd), .close fd])
    else if !answers.bind then
      (-1, [.socket (some fd), .bind fd (sunPath config.socketPath) false, .close fd])
    else if !answers.listen then
      (-1, [.socket (some fd), .bind fd (sunPath config.socketPath) true,
        .chmod (cString config.socketPath) config.socketPermissions answers.chmod,
        .listen fd config.backlog false, .close fd])
    else
      (fd, [.socket (some fd), .bind fd (sunPath config.socketPath) true,
        .chmod (cString config.socketPath) config.socketPermissions answers.chmod,
        .listen fd config.backlog true])

namespace Listener

def log (listener : Listener) (calls : List ListenerCall) : Listener :=
  { listener with calls := listener.calls ++ calls }

/-- `initialize()`. That the old file could not be removed is only logged. -/
def initializeServer (listener : Listener) (answers : InitializeAnswers) : Bool × Listener :=
  let cleaned := cleanupSocket listener.config.socketPath answers
  let created := createServerSocket listener.config answers
  let listener := { (listener.log cleaned.2).log created.2 with serverFd := created.1 }
  if listener.serverFd < 0 then (false, listener)
  else
    match answers.epollCreate with
    | none =>
      (false, { listener.log [.epollCreate none, .close listener.serverFd] with
        serverFd := -1, epollFd := -1 })
    | some epollFd =>
      let listener := { listener.log [.epollCreate (some epollFd),
        .epollAdd epollFd listener.serverFd answers.epollAdd] with epollFd }
      if !answers.epollAdd then
        (false, { listener.log [.close listener.epollFd, .close listener.serverFd] with
          serverFd := -1, epollFd := -1 })
      else (true, listener)

/-- `~UnixSocketServer()`, behind `stop`. -/
def destroyed (listener : Listener) : Listener :=
  let listener := if 0 ≤ listener.serverFd then
    { listener.log [.close listener.serverFd] with serverFd := -1 } else listener
  if 0 ≤ listener.epollFd then
    { listener.log [.close listener.epollFd] with epollFd := -1 } else listener

/-- The test of `run`. -/
def isInitialized (listener : Listener) : Bool :=
  decide (0 ≤ listener.serverFd) && decide (0 ≤ listener.epollFd)

end Listener

/-! ### The descriptors as variables -/

/-- `fd` of `create_server_socket`, and the two fields. -/
inductive ListenerSlot where
  | created
  | server
  | epoll
deriving DecidableEq

/-- What a system call does to a descriptor. -/
def ListenerCall.lease : ListenerCall → Option (Lease Int32)
  | .socket (some fd) => some (.acquire fd)
  | .epollCreate (some fd) => some (.acquire fd)
  | .close fd => some (.release fd)
  | _ => none

def listenerLeases (calls : List ListenerCall) : List (Lease Int32) :=
  calls.filterMap ListenerCall.lease

/-- The name that a field holds. -/
def nameOf (fd : Int32) : Option Int32 := if 0 ≤ fd then some fd else none

def Listener.slots (listener : Listener) : Slots ListenerSlot Int32 where
  held
    | .created => none
    | .server => nameOf listener.serverFd
    | .epoll => nameOf listener.epollFd
  log := listenerLeases listener.calls

/-- What `initialize` does to its variables. -/
def initializeActions (config : UnixSocketConfig) (answers : InitializeAnswers) :
    List (SlotAction ListenerSlot Int32) :=
  match answers.socket with
  | none => [.forget .server]
  | some fd =>
    if (createServerSocket config answers).1 < 0 then
      [.take .created fd, .drop .created, .forget .server]
    else
      match answers.epollCreate with
      | none => [.take .server fd, .forget .epoll, .drop .server]
      | some epollFd =>
        if !answers.epollAdd then
          [.take .server fd, .take .epoll epollFd, .drop .epoll, .drop .server]
        else [.take .server fd, .take .epoll epollFd]

/-- What the kernel promises: a descriptor is not negative. -/
structure InitializeAnswers.Answered (answers : InitializeAnswers) : Prop where
  socket : ∀ fd, answers.socket = some fd → 0 ≤ fd
  epollCreate : ∀ fd, answers.epollCreate = some fd → 0 ≤ fd

theorem nameOf_nonneg {fd : Int32} (nonneg : 0 ≤ fd) : nameOf fd = some fd := if_pos nonneg

theorem nameOf_minus_one : nameOf (-1) = none := rfl

/-- The descriptor that `create_server_socket` returns is the one that `::socket` gave. -/
theorem createServerSocket_cases (config : UnixSocketConfig) (answers : InitializeAnswers)
    (answered : answers.Answered) :
    (answers.socket = none ∧ createServerSocket config answers = (-1, [.socket none])) ∨
      ∃ fd, answers.socket = some fd ∧ 0 ≤ fd ∧
        (((createServerSocket config answers).1 = fd ∧
            listenerLeases (createServerSocket config answers).2 = [.acquire fd]) ∨
          ((createServerSocket config answers).1 = -1 ∧
            listenerLeases (createServerSocket config answers).2
              = [.acquire fd, .release fd])) := by
  unfold createServerSocket
  cases given : answers.socket with
  | none => exact .inl ⟨rfl, rfl⟩
  | some fd =>
    refine .inr ⟨fd, rfl, answered.socket fd given, ?_⟩
    dsimp only
    split_ifs
    · exact .inr ⟨rfl, rfl⟩
    · exact .inr ⟨rfl, rfl⟩
    · exact .inr ⟨rfl, rfl⟩
    · exact .inl ⟨rfl, rfl⟩

theorem leases_cleanupSocket (path : Bytes) (answers : InitializeAnswers) :
    listenerLeases (cleanupSocket path answers).2 = [] := by
  unfold cleanupSocket
  split
  · rfl
  · rfl
  · split <;> rfl

theorem listenerLeases_append (before after : List ListenerCall) :
    listenerLeases (before ++ after) = listenerLeases before ++ listenerLeases after :=
  List.filterMap_append

/-- The three variables and the log. -/
theorem slots_eq {slots other : Slots ListenerSlot Int32}
    (created : slots.held .created = other.held .created)
    (server : slots.held .server = other.held .server)
    (epoll : slots.held .epoll = other.held .epoll) (log : slots.log = other.log) :
    slots = other := by
  obtain ⟨held, record⟩ := slots
  obtain ⟨held', record'⟩ := other
  have same : held = held' := by
    funext slot
    cases slot
    · exact created
    · exact server
    · exact epoll
  rw [same, show record = record' from log]

/-- What `initialize` leaves behind: its result, the two fields, what it has acquired and released,
and what that is as a list of actions. -/
inductive InitializeOutcome (listener after : Listener) :
    Bool → List (SlotAction ListenerSlot Int32) → Prop
  | noSocket (server : after.serverFd = -1) (epoll : after.epollFd = listener.epollFd)
      (record : listenerLeases after.calls = listenerLeases listener.calls) :
      InitializeOutcome listener after false [.forget .server]
  | notCreated {fd : Int32} (nonneg : 0 ≤ fd) (server : after.serverFd = -1)
      (epoll : after.epollFd = listener.epollFd)
      (record : listenerLeases after.calls
        = listenerLeases listener.calls ++ [.acquire fd] ++ [.release fd]) :
      InitializeOutcome listener after false
        [.take .created fd, .drop .created, .forget .server]
  | noEpoll {fd : Int32} (nonneg : 0 ≤ fd) (server : after.serverFd = -1)
      (epoll : after.epollFd = -1)
      (record : listenerLeases after.calls
        = listenerLeases listener.calls ++ [.acquire fd] ++ [.release fd]) :
      InitializeOutcome listener after false [.take .server fd, .forget .epoll, .drop .server]
  | notAdded {fd epollFd : Int32} (nonneg : 0 ≤ fd) (nonneg' : 0 ≤ epollFd)
      (server : after.serverFd = -1) (epoll : after.epollFd = -1)
      (record : listenerLeases after.calls = listenerLeases listener.calls ++ [.acquire fd]
        ++ [.acquire epollFd] ++ [.release epollFd] ++ [.release fd]) :
      InitializeOutcome listener after false
        [.take .server fd, .take .epoll epollFd, .drop .epoll, .drop .server]
  | ready {fd epollFd : Int32} (nonneg : 0 ≤ fd) (nonneg' : 0 ≤ epollFd)
      (server : after.serverFd = fd) (epoll : after.epollFd = epollFd)
      (record : listenerLeases after.calls
        = listenerLeases listener.calls ++ [.acquire fd] ++ [.acquire epollFd]) :
      InitializeOutcome listener after true [.take .server fd, .take .epoll epollFd]

theorem initializeServer_outcome (listener : Listener) {answers : InitializeAnswers}
    (answered : answers.Answered) :
    InitializeOutcome listener (listener.initializeServer answers).2
      (listener.initializeServer answers).1 (initializeActions listener.config answers) := by
  have cleaned := leases_cleanupSocket listener.config.socketPath answers
  unfold Listener.initializeServer initializeActions
  rcases createServerSocket_cases listener.config answers answered with
    ⟨given, created⟩ | ⟨fd, given, nonneg, ⟨returned, record⟩ | ⟨returned, record⟩⟩
  · simp only [given, created]
    refine .noSocket rfl rfl ?_
    simp [Listener.log, listenerLeases_append, cleaned]
    rfl
  · have set : ¬ fd < 0 := Int32.not_lt.mpr nonneg
    simp only [given, returned, set, if_false]
    cases epollGiven : answers.epollCreate with
    | none =>
      refine .noEpoll nonneg rfl rfl ?_
      simp [Listener.log, listenerLeases_append, cleaned, record]
      rfl
    | some epollFd =>
      have nonneg' := answered.epollCreate epollFd epollGiven
      cases added : answers.epollAdd with
      | false =>
        refine .notAdded nonneg nonneg' rfl rfl ?_
        simp [Listener.log, listenerLeases_append, cleaned, record]
        rfl
      | true =>
        refine .ready nonneg nonneg' rfl rfl ?_
        simp [Listener.log, listenerLeases_append, cleaned, record]
        rfl
  · simp only [given, returned]
    refine .notCreated nonneg rfl rfl ?_
    simp [Listener.log, listenerLeases_append, cleaned, record]

/-- **Step.** -/
theorem slots_initializeServer (listener : Listener) {answers : InitializeAnswers}
    (answered : answers.Answered) :
    (listener.initializeServer answers).2.slots
      = listener.slots.steps (initializeActions listener.config answers) := by
  have outcome := initializeServer_outcome listener answered
  generalize (listener.initializeServer answers).2 = after at outcome ⊢
  generalize (listener.initializeServer answers).1 = result at outcome
  generalize initializeActions listener.config answers = actions at outcome ⊢
  cases outcome with
  | noSocket server epoll record | notCreated _ server epoll record | noEpoll _ server epoll record
  | notAdded _ _ server epoll record =>
    refine slots_eq ?_ ?_ ?_ ?_
    all_goals simp [Listener.slots, Slots.steps, Slots.step, server, epoll, record,
      nameOf_minus_one]
  | ready nonneg nonneg' server epoll record =>
    refine slots_eq ?_ ?_ ?_ ?_
    all_goals simp [Listener.slots, Slots.steps, Slots.step, server, epoll, record,
      nameOf_nonneg nonneg, nameOf_nonneg nonneg']

/-! ### Every descriptor is closed once -/

theorem leases_destroyed_listener (listener : Listener) :
    listenerLeases listener.destroyed.calls
      = (listener.slots.steps ([ListenerSlot.created, .server, .epoll].map .drop)).log := by
  unfold Listener.destroyed
  by_cases server : 0 ≤ listener.serverFd
  · by_cases epoll : 0 ≤ listener.epollFd
    · simp [Slots.steps, Slots.step, Listener.slots, Listener.log, nameOf, server, epoll,
        listenerLeases_append]
      rfl
    · simp [Slots.steps, Slots.step, Listener.slots, Listener.log, nameOf, server, epoll,
        listenerLeases_append]
      rfl
  · by_cases epoll : 0 ≤ listener.epollFd
    · simp [Slots.steps, Slots.step, Listener.slots, Listener.log, nameOf, server, epoll,
        listenerLeases_append]
      rfl
    · simp [Slots.steps, Slots.step, Listener.slots, nameOf, server, epoll]

/-- The server as an owner of its two descriptors. -/
def listenerOwner : Owner ListenerSlot Int32 Listener InitializeAnswers where
  slots := Listener.slots
  call listener answers := (listener.initializeServer answers).2
  actions listener answers := initializeActions listener.config answers
  answered := InitializeAnswers.Answered
  simulates listener _ := slots_initializeServer listener
  destroyed listener := listenerLeases listener.destroyed.calls
  order := [.created, .server, .epoll]
  drops := leases_destroyed_listener
  complete slot := by cases slot <;> simp

/-- The server after some calls of `initialize`. -/
def Listener.initializeAll (listener : Listener) (calls : List InitializeAnswers) : Listener :=
  calls.foldl (fun listener answers => (listener.initializeServer answers).2) listener

/-- `initialize` is not called on an initialized server. -/
def NeverAgain (listener : Listener) (calls : List InitializeAnswers) : Prop :=
  ∀ before answers rest, calls = before ++ answers :: rest →
    (listener.initializeAll before).isInitialized = false

/-- Both descriptors, or none. -/
def Listener.Paired (listener : Listener) : Prop := 0 ≤ listener.serverFd ↔ 0 ≤ listener.epollFd

theorem Listener.Paired.unset {listener : Listener} (paired : listener.Paired)
    (uninitialized : listener.isInitialized = false) :
    ¬ 0 ≤ listener.serverFd ∧ ¬ 0 ≤ listener.epollFd := by
  have notBoth : ¬ (0 ≤ listener.serverFd ∧ 0 ≤ listener.epollFd) := by
    rw [Listener.isInitialized, Bool.and_eq_false_iff, decide_eq_false_iff_not,
      decide_eq_false_iff_not] at uninitialized
    rintro ⟨server, epoll⟩
    exact uninitialized.elim (· server) (· epoll)
  have server : ¬ 0 ≤ listener.serverFd := fun server => notBoth ⟨server, paired.mp server⟩
  exact ⟨server, fun epoll => server (paired.mpr epoll)⟩

/-- **Both descriptors are set exactly when `initialize` says so**, on a server without them. -/
theorem initializeServer_paired {listener : Listener} (paired : listener.Paired)
    (uninitialized : listener.isInitialized = false) {answers : InitializeAnswers}
    (answered : answers.Answered) :
    (listener.initializeServer answers).2.Paired ∧
      (listener.initializeServer answers).2.isInitialized
        = (listener.initializeServer answers).1 := by
  obtain ⟨-, noEpoll⟩ := paired.unset uninitialized
  have minus : ¬ (0 : Int32) ≤ -1 := by decide
  have outcome := initializeServer_outcome listener answered
  generalize (listener.initializeServer answers).2 = after at outcome ⊢
  generalize (listener.initializeServer answers).1 = result at outcome ⊢
  generalize initializeActions listener.config answers = actions at outcome
  unfold Listener.Paired Listener.isInitialized
  cases outcome with
  | noSocket server epoll _ | notCreated _ server epoll _ => simp [server, epoll, minus, noEpoll]
  | noEpoll _ server epoll _ | notAdded _ _ server epoll _ => simp [server, epoll, minus]
  | ready nonneg nonneg' server epoll _ => simp [server, epoll, nonneg, nonneg']

/-- A call on a server without descriptors overwrites none. -/
theorem careful_initializeActions {listener : Listener} {answers : InitializeAnswers}
    (answered : answers.Answered) (noServer : ¬ 0 ≤ listener.serverFd)
    (noEpoll : ¬ 0 ≤ listener.epollFd) :
    listener.slots.Careful (initializeActions listener.config answers) := by
  have outcome := initializeServer_outcome listener answered
  generalize (listener.initializeServer answers).1 = result at outcome
  generalize initializeActions listener.config answers = actions at outcome ⊢
  have server : listener.slots.held .server = none := if_neg noServer
  have epoll : listener.slots.held .epoll = none := if_neg noEpoll
  have created : listener.slots.held .created = none := rfl
  cases outcome with
  | noSocket | notCreated | noEpoll | notAdded | ready =>
    simp [Slots.careful_cons, Slots.careful_nil, Slots.Overwrites, Slots.step, server, epoll,
      created]

/-- A call on a server with a listening socket overwrites it. -/
theorem unset_of_careful {listener : Listener} {answers : InitializeAnswers}
    (answered : answers.Answered)
    (careful : listener.slots.Careful (initializeActions listener.config answers)) :
    ¬ 0 ≤ listener.serverFd := by
  intro set
  have outcome := initializeServer_outcome listener answered
  generalize (listener.initializeServer answers).1 = result at outcome
  generalize initializeActions listener.config answers = actions at outcome careful
  have server : listener.slots.held .server = some listener.serverFd := if_pos set
  cases outcome with
  | noSocket | notCreated | noEpoll | notAdded | ready =>
    simp [Slots.careful_cons, Slots.careful_nil, Slots.Overwrites, Slots.step, server] at careful

/-- **Run.** While nobody initializes an initialized server, it has both descriptors or none. -/
theorem paired_initializeAll {listener : Listener} (paired : listener.Paired)
    (calls : List InitializeAnswers) (answered : ∀ answers ∈ calls, answers.Answered)
    (never : NeverAgain listener calls) : (listener.initializeAll calls).Paired := by
  induction calls using List.reverseRecOn with
  | nil => exact paired
  | append_singleton calls answers ih =>
    rw [List.forall_mem_append] at answered
    have earlier : NeverAgain listener calls := by
      rintro before other rest rfl
      exact never before other (rest ++ [answers]) (by simp)
    have kept := ih answered.1 earlier
    rw [Listener.initializeAll, List.foldl_append]
    exact (initializeServer_paired kept (never calls answers [] rfl)
      (answered.2 answers List.mem_cons_self)).1

/-- **The server closes each descriptor once, unless it is initialized twice.** For every sequence
of calls of `initialize` on a new server, and whatever the kernel answers, every descriptor that
`::socket` and `::epoll_create1` gave has been closed exactly once at the end of the destructor, if
and only if `initialize` was never called on an initialized server. -/
theorem listener_descriptors_iff (config : UnixSocketConfig) (calls : List InitializeAnswers)
    (answered : ∀ answers ∈ calls, answers.Answered)
    (fresh : Fresh (listenerLeases
      ((Listener.create config).initializeAll calls).destroyed.calls)) :
    Accounted (fun _ => False)
        (listenerLeases ((Listener.create config).initializeAll calls).destroyed.calls)
      ↔ NeverAgain (Listener.create config) calls := by
  have start : (Listener.create config).slots = Slots.empty :=
    slots_eq rfl rfl rfl rfl
  have tidy : (listenerOwner.slots (Listener.create config)).Tidy := by
    rw [show listenerOwner.slots (Listener.create config) = _ from start]
    exact Slots.tidy_empty
  refine (listenerOwner.accounted_iff tidy calls answered fresh).trans ?_
  constructor
  · intro careful before answers rest split
    have here := answered answers (split ▸ List.mem_append_right _ List.mem_cons_self)
    have unset := unset_of_careful here (careful before answers rest split)
    exact (Bool.and_eq_false_iff).mpr (.inl (decide_eq_false unset))
  · intro never before answers rest split
    have here := answered answers (split ▸ List.mem_append_right _ List.mem_cons_self)
    have earlier : NeverAgain (Listener.create config) before := by
      rintro before' other rest' rfl
      exact never before' other (rest' ++ answers :: rest) (by simp [split])
    have unset : ¬ (0 : Int32) ≤ -1 := by decide
    have new : (Listener.create config).Paired := iff_of_false unset unset
    have paired := paired_initializeAll new before
      (fun other member => answered other (split ▸ List.mem_append_left _ member)) earlier
    obtain ⟨noServer, noEpoll⟩ := paired.unset (never before answers rest split)
    exact careful_initializeActions here noServer noEpoll

/-- Every call succeeds. -/
def allDone (socket epoll : Int32) : InitializeAnswers :=
  ⟨.other, .failed .noEntry, none, some socket, true, true, true, some epoll, true⟩

theorem allDone_answered {socket epoll : Int32} (nonneg : 0 ≤ socket) (nonneg' : 0 ≤ epoll) :
    (allDone socket epoll).Answered where
  socket _ given := Option.some.inj given ▸ nonneg
  epollCreate _ given := Option.some.inj given ▸ nonneg'

/-- `initialize` twice: the descriptors of the first call are never closed. -/
theorem listener_descriptors_twice :
    ¬ Accounted (fun _ => False) (listenerLeases ((Listener.create ⟨ascii "/tmp/a", 432, 128⟩
      ).initializeAll [allDone 3 4, allDone 5 6]).destroyed.calls) := by
  have log : listenerLeases ((Listener.create ⟨ascii "/tmp/a", 432, 128⟩
      ).initializeAll [allDone 3 4, allDone 5 6]).destroyed.calls
      = [] ++ [Lease.acquire 3] ++ [Lease.acquire 4] ++ [Lease.acquire 5] ++ [Lease.acquire 6]
        ++ [Lease.release 5] ++ [Lease.release 6] := by decide
  rw [listener_descriptors_iff]
  · intro never
    exact absurd (never [allDone 3 4] (allDone 5 6) [] rfl) (by decide)
  · intro answers member
    simp only [List.mem_cons, List.not_mem_nil, or_false] at member
    rcases member with rfl | rfl
    · exact allDone_answered (by decide) (by decide)
    · exact allDone_answered (by decide) (by decide)
  · rw [log]
    simp only [fresh_concat_release, fresh_concat_acquire]
    exact ⟨⟨⟨⟨fresh_nil, by decide⟩, by decide⟩, by decide⟩, by decide⟩

end DemoDaemon.Ipc
