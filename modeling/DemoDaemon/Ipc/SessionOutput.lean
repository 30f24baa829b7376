/-
**What a session sends.**

* `pending_enqueue`: scheduling a message adds its serialized line and one more newline;
  `pending_enqueueAll`: what a list of messages adds.
* **`framing_agrees_iff`**: the pending bytes are the serialized messages, and a peer that runs the
  session's own parse loop over them gets the messages back, if and only if nothing was scheduled:
  `serialize` has written the delimiter already when `schedule_send` writes it again.
* `never_writing`: no sequence of calls ever puts a session in the `Writing` state.
* **`onWritable_drains_iff`**: so in every reachable state `on_writable` keeps its promise (bytes
  are left behind only after a `::write` that would block) if and only if there was nothing to send.
-/

import DemoDaemon.Ipc.SessionInput
import DemoDaemon.Ipc.RoundTrip

namespace DemoDaemon.Ipc

open Foundation

/-! ### Scheduled bytes -/

section Enqueue

variable (lib : Nlohmann)

/-- A serialized message ends with its newline. -/
theorem isEmpty_serialize {message : JsonMessage} {json : Bytes}
    (written : serialize lib message = .ok json) : json.isEmpty = false := by
  unfold serialize at written
  cases dumped : lib.dump message.toJson with
  | error error =>
    rw [dumped] at written
    cases written
  | ok text =>
    rw [dumped] at written
    cases written
    cases text <;> rfl

/-- **Scheduling adds the serialized line and a newline.** -/
theorem pending_enqueue {message : JsonMessage} {json : Bytes}
    (written : serialize lib message = .ok json) (buffer : IOBuffer) :
    ∃ filled, enqueue lib buffer message = .ok filled ∧
      filled.pending = buffer.pending ++ (json ++ [newline]) := by
  unfold enqueue
  simp only [written, isEmpty_serialize lib written, Bool.false_eq_true, if_false]
  exact ⟨_, rfl, by rw [IOBuffer.pending_fill, IOBuffer.pending_resize]⟩

theorem enqueue_error {message : JsonMessage} {error : Exn}
    (failed : serialize lib message = .error error) (buffer : IOBuffer) :
    enqueue lib buffer message = .error error := by
  unfold enqueue
  simp only [failed]

/-- The serialized forms of a list of messages. -/
def serializeAll (outgoing : List Outgoing) : Except Exn (List Bytes) :=
  outgoing.mapM fun message => serialize lib message.message

theorem serializeAll_cons {message : Outgoing} {outgoing : List Outgoing} {written : List Bytes}
    (serialized : serializeAll lib (message :: outgoing) = .ok written) :
    ∃ json rest, serialize lib message.message = .ok json ∧ serializeAll lib outgoing = .ok rest ∧
      written = json :: rest := by
  rw [serializeAll, List.mapM_cons] at serialized
  cases first : serialize lib message.message with
  | error error =>
    rw [first] at serialized
    cases serialized
  | ok json =>
    cases others : serializeAll lib outgoing with
    | error error =>
      rw [serializeAll] at others
      rw [first, others] at serialized
      cases serialized
    | ok rest =>
      rw [serializeAll] at others
      rw [first, others] at serialized
      cases serialized
      exact ⟨json, rest, rfl, rfl, rfl⟩

/-- The bytes a list of messages adds to a write buffer. -/
def scheduled (outgoing : List Outgoing) : Bytes :=
  outgoing.flatMap fun message =>
    match serialize lib message.message with
    | .ok json => json ++ [newline]
    | .error _ => []

theorem pending_enqueueAll (outgoing : List Outgoing) (buffer : IOBuffer) :
    (enqueueAll lib buffer outgoing).pending = buffer.pending ++ scheduled lib outgoing := by
  induction outgoing generalizing buffer with
  | nil => exact (List.append_nil _).symm
  | cons message outgoing ih =>
    rw [scheduled, List.flatMap_cons]
    show (enqueueAll lib ((enqueue lib buffer message.message).toOption.getD buffer)
      outgoing).pending = _
    rw [ih]
    cases written : serialize lib message.message with
    | error error =>
      rw [enqueue_error lib written]
      rfl
    | ok json =>
      obtain ⟨filled, done, pending⟩ := pending_enqueue lib written buffer
      rw [done]
      show filled.pending ++ scheduled lib outgoing = _
      rw [pending, List.append_assoc]
      rfl

/-- When all messages can be serialized, each adds its line. -/
theorem scheduled_of_serializeAll {outgoing : List Outgoing} {written : List Bytes}
    (serialized : serializeAll lib outgoing = .ok written) :
    scheduled lib outgoing = unlines newline written := by
  induction outgoing generalizing written with
  | nil =>
    cases serialized
    rfl
  | cons message outgoing ih =>
    obtain ⟨json, rest, first, others, rfl⟩ := serializeAll_cons lib serialized
    rw [scheduled, List.flatMap_cons, first, unlines_cons, ← ih others, List.append_assoc]
    rfl

end Enqueue

/-- Schedule one message; one that cannot be serialized leaves the session as it is. -/
def Session.schedule (lib : Nlohmann) (session : Session) : Outgoing → Session
  | .response answer => (session.scheduleSend lib answer).toOption.getD session
  | .error answer => (session.scheduleSendError lib answer).toOption.getD session

/-- Schedule a list of messages, one call each. -/
def Session.scheduleAll (lib : Nlohmann) (session : Session) (outgoing : List Outgoing) : Session :=
  outgoing.foldl (Session.schedule lib) session

theorem schedule_eq (lib : Nlohmann) (session : Session) (message : Outgoing) :
    session.schedule lib message
      = { session with writeBuffer :=
          (enqueue lib session.writeBuffer message.message).toOption.getD session.writeBuffer } := by
  cases message with
  | response answer =>
    simp only [Session.schedule, Session.scheduleSend, Outgoing.message]
    cases enqueue lib session.writeBuffer answer.message <;> rfl
  | error answer =>
    simp only [Session.schedule, Session.scheduleSendError, Outgoing.message]
    cases enqueue lib session.writeBuffer answer.message <;> rfl

theorem writeBuffer_scheduleAll (lib : Nlohmann) (session : Session) (outgoing : List Outgoing) :
    (session.scheduleAll lib outgoing).writeBuffer
      = enqueueAll lib session.writeBuffer outgoing := by
  induction outgoing generalizing session with
  | nil => rfl
  | cons message outgoing ih =>
    show (Session.scheduleAll lib (session.schedule lib message) outgoing).writeBuffer = _
    rw [ih, schedule_eq]
    rfl

/-! ### Framing -/

/-- The loop of `try_parse_messages` over received bytes: the messages up to the first call that
gives nothing, and the bytes it stops at. -/
def peerLoop (lib : Nlohmann) : Nat → Bytes → List JsonMessage × Bytes
  | 0, data => ([], data)
  | fuel + 1, data =>
    match tryParse lib defaultMaxMessageSize data with
    | (none, _) => ([], data)
    | (some message, consumed) =>
      let rest := peerLoop lib fuel (data.drop consumed)
      (message :: rest.1, rest.2)

/-- Output framing agrees with input framing: what is pending is the serialized messages, and the
peer recovers exactly these messages. -/
def FramingAgrees (lib : Nlohmann) (outgoing : List Outgoing) (pending : Bytes) : Prop :=
  ∃ written, serializeAll lib outgoing = .ok written ∧ pending = written.flatten ∧
    peerLoop lib (pending.length + 1) pending = (outgoing.map Outgoing.message, [])

/-- **Framing agrees exactly when nothing is scheduled.** -/
theorem framing_agrees_iff (lib : Nlohmann) (fd : Int32) (id : Nat) (outgoing : List Outgoing) :
    FramingAgrees lib outgoing
        ((Session.create fd id).scheduleAll lib outgoing).writeBuffer.pending
      ↔ outgoing = [] := by
  rw [writeBuffer_scheduleAll]
  constructor
  · rintro ⟨written, serialized, same, -⟩
    have fresh : (Session.create fd id).writeBuffer.pending = [] := IOBuffer.pending_empty
    rw [pending_enqueueAll, scheduled_of_serializeAll lib serialized, fresh, List.nil_append]
      at same
    have lengths := congrArg List.length same
    rw [length_unlines] at lengths
    cases outgoing with
    | nil => rfl
    | cons message outgoing =>
      obtain ⟨json, rest, -, -, rfl⟩ := serializeAll_cons lib serialized
      rw [List.length_cons] at lengths
      omega
  · rintro rfl
    exact ⟨[], rfl, rfl, rfl⟩

/-- A response without a result, on a new session: its line is followed by an empty one. -/
theorem framing_fails_for_one_response :
    ¬ ∀ (lib : Nlohmann) (outgoing : List Outgoing), lib.Documented →
      (∀ message ∈ outgoing, message.message.Encodable ∧
        ∀ text, lib.dump message.message.toJson = .ok text → text.length < defaultMaxMessageSize) →
      FramingAgrees lib outgoing
        ((Session.create 7 1).scheduleAll lib outgoing).writeBuffer.pending := by
  intro all
  obtain ⟨written, serialized, same, -⟩ := all compact [.response ⟨some 1, Json.null⟩]
    compact_documented (by
      rw [List.forall_mem_singleton]
      refine ⟨⟨by decide, by decide⟩, fun text dumped => ?_⟩
      obtain ⟨-, rfl⟩ := compact_dump_eq_ok dumped
      decide)
  obtain ⟨json, rest, -, -, rfl⟩ := serializeAll_cons compact serialized
  rw [writeBuffer_scheduleAll, pending_enqueueAll, scheduled_of_serializeAll compact serialized]
    at same
  have lengths := congrArg List.length same
  rw [List.length_append, length_unlines, List.length_cons] at lengths
  omega

/-! ### Draining -/

/-- One call of the server on a session. -/
inductive Call where
  | initializeSession (flagsRead flagsSet : Bool)
  | onReadable (event : ReadEvent)
  | schedule (message : Outgoing)
  | onWritable (stale : Errno) (results : List WriteResult)

section Calls

variable {σ : Type} (lib : Nlohmann) (handler : MessageHandler σ)

/-- The effect of a call on a session and on the state of its handler. -/
def call (world : Session × σ) : Call → Session × σ
  | .initializeSession flagsRead flagsSet =>
    ((world.1.initializeSession flagsRead flagsSet).2, world.2)
  | .onReadable event => (world.1.onReadable lib handler event.stale event.results world.2).2
  | .schedule message => (world.1.schedule lib message, world.2)
  | .onWritable stale results => ((world.1.onWritable stale results).2.1, world.2)

theorem state_finishReading_ne_writing {session : Session} (notWriting : session.state ≠ .writing)
    (stays : Bool) : (session.finishReading stays).state ≠ .writing := by
  unfold Session.finishReading Session.close
  split_ifs
  · exact nofun
  · exact notWriting
  · exact nofun

theorem onWritable_of_not_writing {session : Session} (notWriting : session.state ≠ .writing)
    (stale : Errno) (results : List WriteResult) :
    session.onWritable stale results = (true, { session with state := .active }, []) := by
  rw [Session.onWritable, if_pos notWriting]

/-- One call does not put a session in the `Writing` state. -/
theorem call_not_writing {world : Session × σ} (notWriting : world.1.state ≠ .writing)
    (action : Call) : (call lib handler world action).1.state ≠ .writing := by
  cases action with
  | initializeSession flagsRead flagsSet =>
    show (world.1.initializeSession flagsRead flagsSet).2.state ≠ .writing
    unfold Session.initializeSession
    split_ifs
    · exact notWriting
    · exact notWriting
    · exact nofun
  | onReadable event =>
    show (world.1.onReadable lib handler event.stale event.results world.2).2.1.state ≠ .writing
    unfold Session.onReadable
    cases begun : world.1.beginReading with
    | none => exact notWriting
    | some reading =>
      rw [beginReading_eq_some begun]
      refine state_finishReading_ne_writing ?_ _
      exact nofun
  | schedule message =>
    show (world.1.schedule lib message).state ≠ .writing
    rw [schedule_eq]
    exact notWriting
  | onWritable stale results =>
    show (world.1.onWritable stale results).2.1.state ≠ .writing
    rw [onWritable_of_not_writing notWriting]
    exact nofun

/-- **No sequence of calls puts a session in the `Writing` state.** -/
theorem never_writing (calls : List Call) {world : Session × σ}
    (notWriting : world.1.state ≠ .writing) :
    (calls.foldl (call lib handler) world).1.state ≠ .writing := by
  induction calls generalizing world with
  | nil => exact notWriting
  | cons action calls ih => exact ih (call_not_writing lib handler notWriting action)

end Calls

/-- When `on_writable` returns true and leaves bytes behind, its last `::write` would have
blocked. -/
def Session.Drains (session : Session) (stale : Errno) (results : List WriteResult) : Prop :=
  let (stays, left, attempts) := session.onWritable stale results
  stays = true → left.writeBuffer.pending ≠ [] → attempts.getLast? = some (.failed .again)

/-- **Output is drained only when there is none.** In every state that any calls lead to, and for
all answers of `::write`, `on_writable` leaves no bytes behind unasked if and only if there were
none to send. -/
theorem onWritable_drains_iff {σ : Type} (lib : Nlohmann) (handler : MessageHandler σ) (fd : Int32)
    (id : Nat) (state : σ) (calls : List Call) (stale : Errno) (results : List WriteResult) :
    (calls.foldl (call lib handler) (Session.create fd id, state)).1.Drains stale results
      ↔ (calls.foldl (call lib handler) (Session.create fd id, state)).1.writeBuffer.pending = [] := by
  have notWriting : (calls.foldl (call lib handler) (Session.create fd id, state)).1.state
      ≠ .writing := never_writing lib handler calls nofun
  rw [Session.Drains, onWritable_of_not_writing notWriting]
  constructor
  · intro drains
    by_contra some
    exact absurd (drains rfl some) nofun
  · intro none _ some
    exact absurd none some

/-- One response scheduled on a new session, and a socket that would take all of it. -/
theorem onWritable_leaves_response :
    ¬ ∀ (lib : Nlohmann) (calls : List Call) (stale : Errno) (results : List WriteResult),
      lib.Documented →
      (calls.foldl (call lib quietHandler) (Session.create 7 1, ())).1.Drains stale results := by
  intro all
  have drains := all compact [.schedule (.response ⟨some 1, Json.null⟩)] .again [.wrote 4096]
    compact_documented
  have serialized : ∃ json, serialize compact (Outgoing.message (.response ⟨some 1, Json.null⟩))
      = .ok json := ⟨_, rfl⟩
  obtain ⟨json, written⟩ := serialized
  obtain ⟨filled, done, pending⟩ := pending_enqueue compact written (Session.create 7 1).writeBuffer
  let sent : Session := { Session.create 7 1 with writeBuffer := filled }
  have reached : ([Call.schedule (.response ⟨some 1, Json.null⟩)].foldl (call compact quietHandler)
      (Session.create 7 1, ())).1 = sent := by
    rw [List.foldl_cons, List.foldl_nil, call, schedule_eq, done]
    rfl
  have notWriting : sent.state ≠ .writing := fun same => SessionState.noConfusion same
  have some : sent.writeBuffer.pending ≠ [] := by
    show filled.pending ≠ []
    rw [pending]
    simp
  rw [reached, Session.Drains, onWritable_of_not_writing notWriting] at drains
  exact absurd (drains rfl some) nofun

end DemoDaemon.Ipc
