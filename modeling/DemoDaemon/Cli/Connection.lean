/-
**The client's connection** (`DemoDaemonClient::Impl`: `setupSocket`, `doConnect`, `disconnect` and
the destructor).

The descriptor is a field, -1 when there is none. What the kernel answers is given with each call.

* `setupSocket`, `doConnect`, `disconnect`, `destroyed`: as in the source, with the record of the
  system calls.
* `connectActions`: what a call of `connect` does to the field, as actions on a variable that holds
  the name of a resource.
* **`client_descriptors_iff`**: over every sequence of calls and every answer of the kernel, each
  descriptor is closed exactly once by the end of the destructor if and only if `connect` was never
  called on a connected client.
* `timeval_value`: the timeout is taken apart without loss.
-/

import DemoDaemon.Foundation.Slots
import DemoDaemon.Ipc.Listener

namespace DemoDaemon.Cli

open Foundation
open DemoDaemon.Ipc (sunPath)

/-! ### State -/

/-- `struct timeval`. -/
structure TimeVal where
  sec : Int
  usec : Int
deriving DecidableEq

inductive SocketOption where
  | receiveTimeout
  | sendTimeout
deriving DecidableEq

/-- System calls on the client's descriptor, as they are made, with their outcome. -/
inductive SocketCall where
  | socket (result : Option Int32)
  | setsockopt (fd : Int32) (option : SocketOption) (timeval : TimeVal) (done : Bool)
  | connect (fd : Int32) (path : Bytes) (done : Bool)
  | close (fd : Int32)
deriving DecidableEq

/-- `DemoDaemonClient::Impl`, without the counter of the requests. `calls` is a record. -/
structure Impl where
  socketPath : Bytes
  /-- In milliseconds. -/
  timeout : Int
  fd : Int32
  calls : List SocketCall

/-- The constructor. -/
def Impl.create (socketPath : Bytes) (timeout : Int) : Impl := ⟨socketPath, timeout, -1, []⟩

/-- What the kernel answers to the calls of one `connect`. -/
structure ConnectAnswers where
  socket : Option Int32
  receiveTimeout : Bool
  sendTimeout : Bool
  connected : Bool

/-! ### Calls -/

/-- `duration_cast` truncates towards zero. -/
def timeval (timeout : Int) : TimeVal :=
  let sec := timeout.tdiv 1000
  ⟨sec, (timeout - sec * 1000) * 1000⟩

namespace Impl

def log (impl : Impl) (calls : List SocketCall) : Impl := { impl with calls := impl.calls ++ calls }

/-- `::close(fd); fd = -1;`. -/
def closeFd (impl : Impl) : Impl := { impl.log [.close impl.fd] with fd := -1 }

def setupSocket (impl : Impl) (answers : ConnectAnswers) : Bool × Impl :=
  match answers.socket with
  | none => (false, { impl.log [.socket none] with fd := -1 })
  | some fd =>
    let impl := { impl.log [.socket (some fd)] with fd }
    let tv := timeval impl.timeout
    let impl := impl.log [.setsockopt fd .receiveTimeout tv answers.receiveTimeout]
    if !answers.receiveTimeout then (false, impl.closeFd)
    else
      let impl := impl.log [.setsockopt fd .sendTimeout tv answers.sendTimeout]
      if !answers.sendTimeout then (false, impl.closeFd) else (true, impl)

def doConnect (impl : Impl) (answers : ConnectAnswers) : Bool × Impl :=
  let setup := impl.setupSocket answers
  if !setup.1 then (false, setup.2)
  else
    let impl := setup.2.log [.connect setup.2.fd (sunPath setup.2.socketPath) answers.connected]
    if !answers.connected then (false, impl.closeFd) else (true, impl)

def isConnected (impl : Impl) : Bool := decide (0 ≤ impl.fd)

def disconnect (impl : Impl) : Impl := if 0 ≤ impl.fd then impl.closeFd else impl

/-- `~Impl()`. -/
def destroyed (impl : Impl) : Impl := if 0 ≤ impl.fd then impl.log [.close impl.fd] else impl

end Impl

/-- **The timeout is taken apart without loss**: seconds and microseconds of the same sign, and
less than a second of microseconds. -/
theorem timeval_value (timeout : Int) :
    (timeval timeout).sec * 1000000 + (timeval timeout).usec = timeout * 1000 ∧
      (timeval timeout).usec.natAbs < 1000000 := by
  have parts := Int.tmod_add_mul_tdiv timeout 1000
  have small : (timeout.tmod 1000).natAbs < 1000 := by
    rw [Int.natAbs_tmod]
    exact Nat.mod_lt _ (by decide)
  simp only [timeval]
  omega

/-! ### Sequences of calls -/

inductive ClientCall where
  | connect (answers : ConnectAnswers)
  | disconnect

def Impl.call (impl : Impl) : ClientCall → Impl
  | .connect answers => (impl.doConnect answers).2
  | .disconnect => impl.disconnect

def Impl.callAll (impl : Impl) (calls : List ClientCall) : Impl := calls.foldl Impl.call impl

/-- What a system call does to a descriptor. -/
def SocketCall.lease : SocketCall → Option (Lease Int32)
  | .socket (some fd) => some (.acquire fd)
  | .close fd => some (.release fd)
  | _ => none

def socketLeases (calls : List SocketCall) : List (Lease Int32) := calls.filterMap SocketCall.lease

theorem socketLeases_append (before after : List SocketCall) :
    socketLeases (before ++ after) = socketLeases before ++ socketLeases after :=
  List.filterMap_append

/-- The field as a variable that holds a name, and the record as its log. -/
def Impl.slots (impl : Impl) : Slots Unit Int32 :=
  ⟨fun _ => if 0 ≤ impl.fd then some impl.fd else none, socketLeases impl.calls⟩

/-- `connect` sets the field, and empties it again when a later call fails. -/
def connectActions (answers : ConnectAnswers) : List (SlotAction Unit Int32) :=
  match answers.socket with
  | none => [.forget ()]
  | some fd =>
    if answers.receiveTimeout && answers.sendTimeout && answers.connected then [.take () fd]
    else [.take () fd, .drop ()]

def ClientCall.actions : ClientCall → List (SlotAction Unit Int32)
  | .connect answers => connectActions answers
  | .disconnect => [.drop ()]

/-- What the kernel promises about `::socket`: a descriptor is not negative. -/
def ClientCall.Answered : ClientCall → Prop
  | .connect answers => ∀ fd, answers.socket = some fd → 0 ≤ fd
  | .disconnect => True

/-- A descriptor is stored, whatever else was called since. -/
theorem slots_take {impl after : Impl} {fd : Int32} (nonneg : 0 ≤ fd) (field : after.fd = fd)
    (record : socketLeases after.calls = socketLeases impl.calls ++ [.acquire fd]) :
    after.slots = impl.slots.step (.take () fd) := by
  rw [Impl.slots, field, record, if_pos nonneg, Slots.step]
  congr 1

/-- The descriptor is closed, and the field is -1. -/
theorem slots_closeFd {impl : Impl} (nonneg : 0 ≤ impl.fd) :
    impl.closeFd.slots = impl.slots.step (.drop ()) := by
  have held : impl.slots.held () = some impl.fd := if_pos nonneg
  rw [Slots.step, held, Impl.slots, Impl.closeFd, Impl.log, socketLeases_append]
  congr 1

/-- **Step.** -/
theorem slots_call (impl : Impl) {call : ClientCall} (answered : call.Answered) :
    (impl.call call).slots = impl.slots.steps call.actions := by
  cases call with
  | disconnect =>
    show impl.disconnect.slots = impl.slots.step (.drop ())
    unfold Impl.disconnect
    split_ifs with nonneg
    · exact slots_closeFd nonneg
    · have held : impl.slots.held () = none := if_neg nonneg
      rw [Slots.step, held]
  | connect answers =>
    show (impl.doConnect answers).2.slots = impl.slots.steps (connectActions answers)
    obtain ⟨socket, receiveTimeout, sendTimeout, connected⟩ := answers
    cases socket with
    | none =>
      show Impl.slots { impl.log [.socket none] with fd := -1 } = impl.slots.step (.forget ())
      rw [Impl.slots, Slots.step, Impl.log, socketLeases_append]
      congr 1
      exact List.append_nil _
    | some fd =>
      have nonneg : 0 ≤ fd := answered fd rfl
      -- the record of the calls behind `::socket` holds no other descriptor
      have taken : ∀ middle : Impl, middle.fd = fd →
          socketLeases middle.calls = socketLeases impl.calls ++ [.acquire fd] →
          middle.slots = impl.slots.step (.take () fd) ∧
            middle.closeFd.slots = (impl.slots.step (.take () fd)).step (.drop ()) := by
        intro middle field record
        have stored := slots_take nonneg field record
        exact ⟨stored, stored ▸ slots_closeFd (field ▸ nonneg)⟩
      cases receiveTimeout with
      | false => exact (taken _ rfl (by simp [Impl.log, socketLeases, SocketCall.lease])).2
      | true =>
        cases sendTimeout with
        | false => exact (taken _ rfl (by simp [Impl.log, socketLeases, SocketCall.lease])).2
        | true =>
          cases connected with
          | false =>
            exact (taken _ rfl (by
              simp [Impl.setupSocket, Impl.log, socketLeases, SocketCall.lease])).2
          | true =>
            exact (taken _ rfl (by
              simp [Impl.doConnect, Impl.setupSocket, Impl.log, socketLeases,
                SocketCall.lease])).1

/-! ### Every descriptor is closed once -/

/-- Nobody connects a connected client. -/
def NeverReconnects (impl : Impl) (calls : List ClientCall) : Prop :=
  ∀ before answers rest, calls = before ++ .connect answers :: rest →
    (impl.callAll before).isConnected = false

/-- The client as an owner of one descriptor. -/
def clientOwner : Owner Unit Int32 Impl ClientCall where
  slots := Impl.slots
  call := Impl.call
  actions _ call := call.actions
  answered := ClientCall.Answered
  simulates impl _ := slots_call impl
  destroyed impl := socketLeases impl.destroyed.calls
  order := [()]
  drops impl := by
    show _ = (impl.slots.step (.drop ())).log
    unfold Impl.destroyed
    split_ifs with nonneg
    · have held : impl.slots.held () = some impl.fd := if_pos nonneg
      rw [Slots.step, held, Impl.log, socketLeases_append]
      rfl
    · have held : impl.slots.held () = none := if_neg nonneg
      rw [Slots.step, held]
      rfl
  complete _ := List.mem_singleton.mpr rfl

theorem isConnected_eq_false_iff (impl : Impl) :
    impl.isConnected = false ↔ impl.slots.held () = none := by
  unfold Impl.isConnected Impl.slots
  by_cases nonneg : 0 ≤ impl.fd
  · simp [nonneg]
  · simp [nonneg]

/-- A call overwrites a descriptor exactly when it connects a connected client. -/
theorem careful_actions_iff (impl : Impl) (call : ClientCall) :
    impl.slots.Careful call.actions
      ↔ ∀ answers, call = .connect answers → impl.isConnected = false := by
  have free : ¬ impl.slots.held () ≠ none ↔ impl.isConnected = false := by
    rw [not_not, isConnected_eq_false_iff]
  cases call with
  | disconnect =>
    refine iff_of_true (Slots.careful_drops _ [()]) ?_
    rintro answers ⟨⟩
  | connect answers =>
    have always : (∀ other, ClientCall.connect answers = .connect other →
        impl.isConnected = false) ↔ impl.isConnected = false :=
      ⟨fun all => all answers rfl, fun free _ _ => free⟩
    rw [always, ClientCall.actions, connectActions, ← free]
    cases answers.socket with
    | none => exact Slots.careful_cons.trans (and_iff_left (Slots.careful_nil _))
    | some fd =>
      dsimp only
      split_ifs
      · exact Slots.careful_cons.trans (and_iff_left (Slots.careful_nil _))
      · exact Slots.careful_cons.trans (and_iff_left (Slots.careful_drops _ [()]))

/-- **The client closes each descriptor once, unless it is connected twice.** For every sequence of
calls of `connect` and `disconnect` on a new client, and whatever the kernel answers, every
descriptor that `::socket` gave has been closed exactly once at the end of the destructor, if and
only if `connect` was never called on a connected client. -/
theorem client_descriptors_iff (socketPath : Bytes) (timeout : Int) (calls : List ClientCall)
    (answered : ∀ call ∈ calls, call.Answered)
    (fresh : Fresh (socketLeases ((Impl.create socketPath timeout).callAll calls).destroyed.calls)) :
    Accounted (fun _ => False)
        (socketLeases ((Impl.create socketPath timeout).callAll calls).destroyed.calls)
      ↔ NeverReconnects (Impl.create socketPath timeout) calls := by
  have start : (Impl.create socketPath timeout).slots = Slots.empty := rfl
  have tidy : (clientOwner.slots (Impl.create socketPath timeout)).Tidy := by
    rw [show clientOwner.slots (Impl.create socketPath timeout) = _ from start]
    exact Slots.tidy_empty
  refine (clientOwner.accounted_iff tidy calls answered fresh).trans ?_
  constructor
  · intro careful before answers rest split
    exact (careful_actions_iff _ (.connect answers)).mp
      (careful before (.connect answers) rest split) answers rfl
  · intro never before call rest split
    refine (careful_actions_iff _ _).mpr ?_
    rintro answers rfl
    exact never before answers rest split

/-- Two calls of `connect` in a row: the descriptor of the first is never closed. -/
theorem client_descriptors_reconnect :
    ¬ Accounted (fun _ => False) (socketLeases ((Impl.create (ascii "/tmp/a") 5000).callAll
      [.connect ⟨some 3, true, true, true⟩,
        .connect ⟨some 4, true, true, true⟩]).destroyed.calls) := by
  have log : socketLeases ((Impl.create (ascii "/tmp/a") 5000).callAll
      [.connect ⟨some 3, true, true, true⟩,
        .connect ⟨some 4, true, true, true⟩]).destroyed.calls
      = [] ++ [.acquire 3] ++ [.acquire 4] ++ [.release 4] := by decide
  rw [client_descriptors_iff]
  · intro never
    exact absurd (never [.connect ⟨some 3, true, true, true⟩] ⟨some 4, true, true, true⟩ [] rfl)
      (by decide)
  · intro call member
    simp only [List.mem_cons, List.not_mem_nil, or_false] at member
    rcases member with rfl | rfl
    · rintro fd ⟨⟩
      decide
    · rintro fd ⟨⟩
      decide
  · rw [log, fresh_concat_release, fresh_concat_acquire, fresh_concat_acquire]
    exact ⟨⟨fresh_nil, by decide⟩, by decide⟩

end DemoDaemon.Cli
