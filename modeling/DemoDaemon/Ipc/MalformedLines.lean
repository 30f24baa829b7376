/-
**Malformed lines.**

A line can fail to be JSON, or be JSON that `JsonMessage::from_json` does not accept. The protocol
answers the first with a parse error and the second with an invalid request error. The session
does neither: a parse error message is logged and dropped, and a rejected line stops the parse loop.

* `Answered`: the write buffer that the protocol calls for, line by line.
* `served_readEvents`: what an open session has in its write buffer is what its handler scheduled
  for the dispatched requests.
* **`malformed_answered_iff`**: for non-blank lines below 1 MiB, a session has answered what has
  arrived and is still open if and only if no line was malformed and no overflow met an `errno`
  other than `EAGAIN`.
-/

import DemoDaemon.Ipc.ReadRounds
import DemoDaemon.Ipc.SessionOutput

namespace DemoDaemon.Ipc

open Foundation

/-! ### What the protocol calls for -/

section Lines

variable (lib : Nlohmann)

/-- The text of the line is not JSON. -/
def InvalidJson (line : Bytes) : Prop :=
  ∃ text error, trim line = some text ∧ lib.parse text = .error error

/-- The text of the line is JSON that is not a message. -/
def Rejected (line : Bytes) : Prop :=
  ∃ text json, trim line = some text ∧ lib.parse text = .ok json ∧
    ∀ message, JsonMessage.fromJson json ≠ .accepted message

/-- The text of the line is a message. -/
def Holds (line : Bytes) (message : JsonMessage) : Prop :=
  ∃ text json, trim line = some text ∧ lib.parse text = .ok json ∧
    JsonMessage.fromJson json = .accepted message

def Malformed (line : Bytes) : Prop := InvalidJson lib line ∨ Rejected lib line

/-- Non-blank lines, all of them shorter than 1 MiB. -/
def Plain (bodies : List Bytes) : Prop :=
  ∀ body ∈ bodies, newline ∉ body ∧ trim body ≠ none ∧ body.length < defaultMaxMessageSize

variable {lib}

/-- A line that is not blank is malformed or holds a message. -/
theorem malformed_or_holds {line : Bytes} (some : trim line ≠ none) :
    Malformed lib line ∨ ∃ message, Holds lib line message := by
  obtain ⟨text, trimmed⟩ := Option.ne_none_iff_exists'.mp some
  cases parsed : lib.parse text with
  | error error => exact Or.inl (Or.inl ⟨text, error, trimmed, parsed⟩)
  | ok json =>
    by_cases accepted : ∃ message, JsonMessage.fromJson json = .accepted message
    · obtain ⟨message, decoded⟩ := accepted
      exact Or.inr ⟨message, text, json, trimmed, parsed, decoded⟩
    · exact Or.inl (Or.inr ⟨text, json, trimmed, parsed, not_exists.mp accepted⟩)

theorem Holds.not_malformed {line : Bytes} {message : JsonMessage}
    (holds : Holds lib line message) : ¬ Malformed lib line := by
  obtain ⟨text, json, trimmed, parsed, decoded⟩ := holds
  rintro (⟨other, error, again, invalid⟩ | ⟨other, value, again, valid, refused⟩)
  · cases trimmed.symm.trans again
    cases parsed.symm.trans invalid
  · cases trimmed.symm.trans again
    cases parsed.symm.trans valid
    exact refused message decoded

/-- The parser gives the message of the line. -/
theorem Holds.lineVerdict {line : Bytes} {message : JsonMessage} (holds : Holds lib line message)
    (short : line.length < defaultMaxMessageSize) :
    Ipc.lineVerdict lib defaultMaxMessageSize line = some message := by
  obtain ⟨text, json, trimmed, parsed, decoded⟩ := holds
  rw [lineVerdict_of_lt lib short, trimmed, Option.bind_some, parseText]
  simp only [parsed, decoded]

theorem Holds.requestOf_cons {line : Bytes} {message : JsonMessage}
    (holds : Holds lib line message) (short : line.length < defaultMaxMessageSize)
    (lines : List Bytes) :
    (line :: lines).filterMap (requestOf lib)
      = message.asked ++ lines.filterMap (requestOf lib) := by
  have given : requestOf lib line = if message.isRequest then some message.toRequest else none := by
    rw [requestOf, holds.lineVerdict short, Option.bind_some]
  rw [List.filterMap_cons, given, JsonMessage.asked]
  split_ifs <;> rfl

/-- A malformed line is not a request. -/
theorem Malformed.requestOf {line : Bytes} (malformed : Malformed lib line)
    (short : line.length < defaultMaxMessageSize) : Ipc.requestOf lib line = none := by
  rw [requestOf_eq_lineRequest lib short, lineRequest]
  rcases malformed with ⟨text, error, trimmed, invalid⟩ | ⟨text, json, trimmed, valid, refused⟩
  · rw [trimmed, Option.bind_some]
    simp only [invalid]
  · rw [trimmed, Option.bind_some]
    simp only [valid]
    cases decoded : JsonMessage.fromJson json with
    | accepted message => exact absurd decoded (refused message)
    | rejected => rfl
    | thrown error => rfl

end Lines

section Answers

variable {σ : Type} (lib : Nlohmann) (handler : MessageHandler σ)

/-- The write buffer and the handler's state that the protocol calls for after some lines: one
parse error without an id for each line that is not JSON, one invalid request error for each line
that is JSON but not a message, and what the handler schedules for each request, in order. -/
inductive Answered : List Bytes → IOBuffer × σ → IOBuffer × σ → Prop where
  | done (world : IOBuffer × σ) : Answered [] world world
  | parseError {line : Bytes} {lines : List Bytes} {world final : IOBuffer × σ} {buffer : IOBuffer}
      {reply : ErrorResponseMessage} (invalid : InvalidJson lib line)
      (code : reply.error.code = .parseError) (anonymous : reply.id = none)
      (sent : enqueue lib world.1 reply.message = .ok buffer)
      (rest : Answered lines (buffer, world.2) final) : Answered (line :: lines) world final
  | invalidRequest {line : Bytes} {lines : List Bytes} {world final : IOBuffer × σ}
      {buffer : IOBuffer} {reply : ErrorResponseMessage} (rejected : Rejected lib line)
      (code : reply.error.code = .invalidRequest)
      (sent : enqueue lib world.1 reply.message = .ok buffer)
      (rest : Answered lines (buffer, world.2) final) : Answered (line :: lines) world final
  | message {line : Bytes} {lines : List Bytes} {world final : IOBuffer × σ}
      {message : JsonMessage} (holds : Holds lib line message)
      (rest : Answered lines (message.asked.foldl (handleMessage lib handler) world) final) :
      Answered (line :: lines) world final

/-! ### Counting what is sent -/

/-- How many bytes the handler schedules for a list of requests. -/
def replied : σ → List RequestMessage → Nat
  | _, [] => 0
  | state, request :: requests =>
    (scheduled lib (handler state request).1).length + replied (handler state request).2 requests

theorem replied_append (first second : List RequestMessage) (world : IOBuffer × σ) :
    replied lib handler world.2 (first ++ second)
      = replied lib handler world.2 first
        + replied lib handler (first.foldl (handleMessage lib handler) world).2 second := by
  induction first generalizing world with
  | nil => exact (Nat.zero_add _).symm
  | cons request first ih =>
    rw [List.cons_append, replied, replied, List.foldl_cons, Nat.add_assoc]
    exact congrArg (_ + ·) (ih (handleMessage lib handler world request))

/-- The handler adds these bytes to the write buffer. -/
theorem length_pending_foldl (requests : List RequestMessage) (world : IOBuffer × σ) :
    (requests.foldl (handleMessage lib handler) world).1.pending.length
      = world.1.pending.length + replied lib handler world.2 requests := by
  induction requests generalizing world with
  | nil => rfl
  | cons request requests ih =>
    rw [List.foldl_cons, ih, handleMessage, replied]
    show (enqueueAll lib world.1 (handler world.2 request).1).pending.length + _ = _
    rw [pending_enqueueAll, List.length_append, Nat.add_assoc]

/-- A message that is enqueued adds at least one byte. -/
theorem length_pending_lt_enqueue {buffer filled : IOBuffer} {message : JsonMessage}
    (sent : enqueue lib buffer message = .ok filled) :
    buffer.pending.length < filled.pending.length := by
  cases written : serialize lib message with
  | error error =>
    rw [enqueue_error lib written] at sent
    cases sent
  | ok json =>
    obtain ⟨other, done, pending⟩ := pending_enqueue lib written buffer
    rw [done] at sent
    cases sent
    rw [pending, List.length_append, List.length_append, List.length_singleton]
    omega

variable {lib handler}

/-- An error reply comes on top of what the handler schedules: a malformed line is no request. -/
theorem length_lt_of_malformed {line : Bytes} {lines : List Bytes} {world final : IOBuffer × σ}
    {buffer : IOBuffer} {message : JsonMessage} (malformed : Malformed lib line)
    (short : line.length < defaultMaxMessageSize)
    (sent : enqueue lib world.1 message = .ok buffer)
    (rest : buffer.pending.length + replied lib handler world.2 (lines.filterMap (requestOf lib))
      ≤ final.1.pending.length) :
    world.1.pending.length + replied lib handler world.2 ((line :: lines).filterMap (requestOf lib))
      < final.1.pending.length := by
  have more := length_pending_lt_enqueue lib sent
  rw [List.filterMap_cons_none (malformed.requestOf short)]
  omega

/-- **The protocol sends at least what the handler schedules, and more for a malformed line.** -/
theorem Answered.length_le {lines : List Bytes} {world final : IOBuffer × σ}
    (answered : Answered lib handler lines world final)
    (short : ∀ line ∈ lines, line.length < defaultMaxMessageSize) :
    world.1.pending.length + replied lib handler world.2 (lines.filterMap (requestOf lib))
        ≤ final.1.pending.length ∧
      ((∃ line ∈ lines, Malformed lib line) →
        world.1.pending.length + replied lib handler world.2 (lines.filterMap (requestOf lib))
          < final.1.pending.length) := by
  induction answered with
  | done world => exact ⟨Nat.le_refl _, fun ⟨_, listed, _⟩ => absurd listed List.not_mem_nil⟩
  | parseError invalid code anonymous sent rest ih =>
    rw [List.forall_mem_cons] at short
    have strict := length_lt_of_malformed (Or.inl invalid) short.1 sent (ih short.2).1
    exact ⟨Nat.le_of_lt strict, fun _ => strict⟩
  | invalidRequest rejected code sent rest ih =>
    rw [List.forall_mem_cons] at short
    have strict := length_lt_of_malformed (Or.inr rejected) short.1 sent (ih short.2).1
    exact ⟨Nat.le_of_lt strict, fun _ => strict⟩
  | @message line lines world final message holds rest ih =>
    rw [List.forall_mem_cons] at short
    obtain ⟨weak, strict⟩ := ih short.2
    rw [length_pending_foldl, Nat.add_assoc, ← replied_append, ← holds.requestOf_cons short.1]
      at weak strict
    refine ⟨weak, fun ⟨other, listed, malformed⟩ => strict ?_⟩
    rcases List.mem_cons.mp listed with rfl | later
    · exact absurd malformed holds.not_malformed
    · exact ⟨other, later, malformed⟩

/-- Lines that all hold messages are answered by the handler. -/
theorem answered_of_holds {lines : List Bytes}
    (short : ∀ line ∈ lines, line.length < defaultMaxMessageSize)
    (holds : ∀ line ∈ lines, ∃ message, Holds lib line message) (world : IOBuffer × σ) :
    Answered lib handler lines world
      ((lines.filterMap (requestOf lib)).foldl (handleMessage lib handler) world) := by
  induction lines generalizing world with
  | nil => exact .done world
  | cons line lines ih =>
    rw [List.forall_mem_cons] at short holds
    obtain ⟨message, first⟩ := holds.1
    rw [first.requestOf_cons short.1, List.foldl_append]
    exact .message first (ih short.2 holds.2 _)

/-- **What the parse loop dispatches is what the protocol calls for exactly when no line is
malformed.** -/
theorem answered_lines_iff {lines : List Bytes}
    (some : ∀ line ∈ lines, trim line ≠ none)
    (short : ∀ line ∈ lines, line.length < defaultMaxMessageSize) (world : IOBuffer × σ) :
    Answered lib handler lines world
        (((lines.takeWhile (heard lib)).filterMap (requestOf lib)).foldl
          (handleMessage lib handler) world)
      ↔ ∀ line ∈ lines, ¬ Malformed lib line := by
  constructor
  · intro answered line listed malformed
    have strict := (answered.length_le short).2 ⟨line, listed, malformed⟩
    -- the dispatched requests are the first of all requests
    have whole : lines.filterMap (requestOf lib)
        = (lines.takeWhile (heard lib)).filterMap (requestOf lib)
          ++ (lines.dropWhile (heard lib)).filterMap (requestOf lib) := by
      rw [← List.filterMap_append, List.takeWhile_append_dropWhile]
    rw [length_pending_foldl, whole, replied_append] at strict
    omega
  · intro clean
    have holds : ∀ line ∈ lines, ∃ message, Holds lib line message := fun line listed =>
      (malformed_or_holds (some line listed)).resolve_left (clean line listed)
    have all : lines.takeWhile (heard lib) = lines := by
      rw [List.takeWhile_eq_self_iff]
      intro line listed
      obtain ⟨message, first⟩ := holds line listed
      rw [heard, first.lineVerdict (short line listed)]
      rfl
    rw [all]
    exact answered_of_holds short holds world

end Answers

/-! ### What an open session has scheduled -/

section Served

variable {ω : Type} (lib : Nlohmann) (handle : ω → RequestMessage → ω)

theorem served_tryParseMessages {start : ω} (fuel : Nat) {side : ReadSide} {world : ω}
    (served : world = side.dispatched.foldl handle start) :
    (tryParseMessages lib handle fuel side world).2
      = (tryParseMessages lib handle fuel side world).1.dispatched.foldl handle start := by
  induction fuel generalizing side world with
  | zero => exact served
  | succ fuel ih =>
    rcases parsed : tryParse lib defaultMaxMessageSize side.buffer.pending with ⟨_ | message, count⟩
    · rw [tryParseMessages_none lib handle (by rw [parsed])]
      exact served
    · obtain ⟨buffer, step, -⟩ := tryParseMessages_some lib handle parsed fuel world
      rw [step]
      refine ih ?_
      rw [List.foldl_append, ← served]

theorem served_readLoop {start : ω} (stale : Errno) (results : List ReadResult) {side : ReadSide}
    {world : ω} (served : world = side.dispatched.foldl handle start) :
    (readLoop lib handle stale results side world).2.2
      = (readLoop lib handle stale results side world).2.1.dispatched.foldl handle start := by
  induction results generalizing side world with
  | nil =>
    unfold readLoop
    split <;> exact served
  | cons result results ih =>
    unfold readLoop
    split
    · exact ih (served_tryParseMessages lib handle _ served)
    · exact served
    · exact served

end Served

section Sessions

variable {σ : Type} (lib : Nlohmann) (handler : MessageHandler σ)

/-- **Run.** The write buffer of an open session holds what the handler scheduled for the dispatched
requests. -/
theorem served_readEvents {start : IOBuffer × σ} (events : List ReadEvent) {session : Session}
    {state : σ} (active : session.state = .active)
    (served : (session.writeBuffer, state)
      = session.side.dispatched.foldl (handleMessage lib handler) start)
    (stays : (readEvents lib handler events session state).1.state = .active) :
    ((readEvents lib handler events session state).1.writeBuffer,
        (readEvents lib handler events session state).2)
      = (readEvents lib handler events session state).1.side.dispatched.foldl
          (handleMessage lib handler) start := by
  induction events generalizing session state with
  | nil => exact served
  | cons event events ih =>
    have loop := served_readLoop lib (handleMessage lib handler) event.stale event.results served
    simp only [readEvents, onReadable_active lib handler active] at stays ⊢
    cases returned : (readLoop lib (handleMessage lib handler) event.stale event.results
        session.side (session.writeBuffer, state)).1 with
    | true =>
      rw [returned] at stays
      exact ih rfl loop stays
    | false =>
      rw [returned] at stays
      rw [(readEvents_closed lib handler rfl events _).1] at stays
      cases stays

/-- The answers in the rounds are those of the script. -/
theorem answer_mem_rounds {ω : Type} (handle : ω → RequestMessage → ω) (stale : Errno)
    (results : List ReadResult) (side : ReadSide) (world : ω) :
    ∀ round ∈ rounds lib handle stale results side world,
      round.answer ∈ results ∨ round.answer = .failed .again := by
  induction results generalizing side world with
  | nil =>
    intro round listed
    rw [rounds, List.mem_singleton] at listed
    rw [listed]
    exact Or.inr rfl
  | cons result results ih =>
    intro round listed
    rw [rounds] at listed
    rcases List.mem_cons.mp listed with rfl | later
    · exact Or.inl List.mem_cons_self
    · split at later
      · exact (ih _ _ round later).imp_left (List.mem_cons_of_mem _)
      · exact absurd later List.not_mem_nil
      · exact absurd later List.not_mem_nil

theorem delivers_readCalls {events : List ReadEvent} (delivers : ∀ event ∈ events, event.Delivers)
    (session : Session) (state : σ) :
    ∀ call ∈ readCalls lib handler events session state,
      ∀ round ∈ call.rounds, round.answer.Delivers := by
  induction events generalizing session state with
  | nil => exact List.forall_mem_nil _
  | cons event events ih =>
    rw [List.forall_mem_cons] at delivers
    rw [readCalls, List.forall_mem_cons]
    refine ⟨fun round listed => ?_, ih delivers.2 _ _⟩
    unfold Session.readRounds at listed
    split at listed
    · exact absurd listed List.not_mem_nil
    · rcases answer_mem_rounds lib _ _ _ _ _ round listed with scripted | nothing
      · exact delivers.1 _ scripted
      · rw [nothing]
        rfl

variable {lib}

/-- A loop whose answers all deliver gives up only at an overflow with another `errno`. -/
theorem Traced.returned_iff {side ended : ReadSide} {returned : Bool} {trace : List Round}
    (traced : Traced lib side returned ended trace)
    (delivers : ∀ round ∈ trace, round.answer.Delivers) :
    returned = true ↔ ∀ round ∈ trace, round.Overflows → round.stale = .again := by
  obtain ⟨last, isLast, same, after⟩ := traced.last
  have listed : last ∈ trace := List.mem_of_getLast? isLast
  rw [same]
  constructor
  · intro stays round inside full
    have final := Option.some.inj (isLast.symm.trans (traced.overflows round inside full))
    rw [final, Round.stays, if_pos full] at stays
    exact of_decide_eq_true stays
  · intro quiet
    by_cases full : last.Overflows
    · rw [Round.stays, if_pos full]
      exact decide_eq_true (quiet last listed full)
    · rw [Round.stays, if_neg full]
      refine (after full).1.resolve_right fun ends => ?_
      have delivered := delivers last listed
      cases answer : last.answer with
      | data bytes =>
        rw [answer] at ends delivered
        exact delivered ends
      | failed errno =>
        rw [answer] at ends delivered
        exact absurd (delivered.symm.trans ends) nofun

end Sessions

/-- **When malformed lines are answered.** A new session is sent non-blank lines, all shorter than
1 MiB, in any pieces. It has answered every line that has arrived as the protocol says, and is still
open, if and only if none of these lines was malformed and no overflow has met an `errno` other than
`EAGAIN`. -/
theorem malformed_answered_iff {σ : Type} (lib : Nlohmann) (handler : MessageHandler σ) (fd : Int32)
    (id : Nat) (state : σ) (bodies : List Bytes) (plain : Plain bodies) (events : List ReadEvent)
    (delivers : ∀ event ∈ events, event.Delivers)
    (arrived : (readEvents lib handler events (Session.create fd id) state).1.side.received
      <+: unlines newline bodies) :
    (Answered lib handler
        (lines newline
          (readEvents lib handler events (Session.create fd id) state).1.side.received)
        ((Session.create fd id).writeBuffer, state)
        ((readEvents lib handler events (Session.create fd id) state).1.writeBuffer,
          (readEvents lib handler events (Session.create fd id) state).2) ∧
      (readEvents lib handler events (Session.create fd id) state).1.state = .active)
      ↔ (∀ line ∈ lines newline
            (readEvents lib handler events (Session.create fd id) state).1.side.received,
          ¬ Malformed lib line) ∧
        ∀ call ∈ readCalls lib handler events (Session.create fd id) state,
          ∀ round ∈ call.rounds, round.Overflows → round.stale = .again := by
  have follows : Follows lib (Session.create fd id).side := follows_fresh lib
  have free : ∀ body ∈ bodies, newline ∉ body := fun body listed => (plain body listed).1
  have bounded : RunsAtMost newline (defaultMaxMessageSize - 1) (unlines newline bodies) :=
    .unlines free fun body listed => Nat.le_sub_one_of_lt (plain body listed).2.2
  have traces := follows.traces handler events rfl state (bounded.of_infix arrived.isInfix)
  have delivered := delivers_readCalls lib handler delivers (Session.create fd id) state
  have begun : ((Session.create fd id).writeBuffer, state)
      = (Session.create fd id).side.dispatched.foldl (handleMessage lib handler)
          ((Session.create fd id).writeBuffer, state) := rfl
  have served := served_readEvents lib handler events rfl begun
  generalize readEvents lib handler events (Session.create fd id) state = ended at *
  generalize readCalls lib handler events (Session.create fd id) state = calls at *
  have inside : ∀ line ∈ lines newline ended.1.side.received, line ∈ bodies := by
    intro line listed
    have member := (lines_mono arrived).subset listed
    rw [lines_unlines free] at member
    exact member
  have open_iff : ended.1.state = .active ↔
      ∀ call ∈ calls, ∀ round ∈ call.rounds, round.Overflows → round.stale = .again := by
    rw [traces.active]
    refine forall₂_congr fun call isCall => ?_
    rcases traces.traced call isCall with silent | ⟨side, final, traced, -⟩
    · rw [silent]
      exact ⟨fun _ => nofun, fun _ some => absurd rfl some⟩
    · obtain ⟨first, rest, starts, -⟩ := traced.begins
      have some : call.rounds ≠ [] := by
        rw [starts]
        exact List.cons_ne_nil _ _
      rw [← traced.returned_iff (delivered call isCall)]
      exact forall_prop_of_true some
  rw [← open_iff]
  refine and_congr_left fun active => ?_
  rw [served active, traces.dispatched, requests, accepted]
  exact answered_lines_iff (fun line listed => (plain line (inside line listed)).2.1)
    (fun line listed => (plain line (inside line listed)).2.2) _

/-- A handler that answers every request with null. -/
def ackHandler : MessageHandler Unit := fun _ request => ([.response ⟨request.id, .null⟩], ())

/-- A request with an id, in one piece. -/
def requestLine : Bytes := ascii "\x7b\"id\":1,\"method\":\"a\"\x7d"

def requestEvents : List ReadEvent := [⟨.again, [.data (requestLine ++ [newline])]⟩]

/-- A request is answered by its handler. -/
theorem malformed_answered_request :
    Answered compact ackHandler
        (lines newline (readEvents compact ackHandler requestEvents (Session.create 7 1)
          ()).1.side.received)
        ((Session.create 7 1).writeBuffer, ())
        ((readEvents compact ackHandler requestEvents (Session.create 7 1) ()).1.writeBuffer,
          (readEvents compact ackHandler requestEvents (Session.create 7 1) ()).2) ∧
      (readEvents compact ackHandler requestEvents (Session.create 7 1) ()).1.state = .active := by
  have received : (readEvents compact ackHandler requestEvents (Session.create 7 1)
      ()).1.side.received = requestLine ++ [newline] := by
    rw [requestEvents]
    exact received_at_once ackHandler 7 1 () (by decide) (by decide)
  have delivers : ∀ event ∈ requestEvents, event.Delivers := delivers_at_once (by decide)
  refine (malformed_answered_iff compact ackHandler 7 1 () [requestLine] ?_ requestEvents delivers
    ?_).mpr ⟨?_, by decide +kernel⟩
  · rw [Plain, List.forall_mem_singleton]
    decide
  · rw [received]
    exact List.prefix_refl _
  · have split : lines newline (requestLine ++ [newline]) = [requestLine] := by decide
    rw [received, split, List.forall_mem_singleton]
    intro malformed
    have none := malformed.requestOf (by decide)
    exact absurd (congrArg Option.isSome none) (by decide +kernel)

/-- A line that is not JSON gets no answer. -/
theorem malformed_line_unanswered :
    ¬ ∀ (bodies : List Bytes) (events : List ReadEvent), Plain bodies →
      (∀ event ∈ events, event.Delivers) →
      (readEvents compact ackHandler events (Session.create 7 1) ()).1.side.received
        <+: unlines newline bodies →
      Answered compact ackHandler
          (lines newline
            (readEvents compact ackHandler events (Session.create 7 1) ()).1.side.received)
          ((Session.create 7 1).writeBuffer, ())
          ((readEvents compact ackHandler events (Session.create 7 1) ()).1.writeBuffer,
            (readEvents compact ackHandler events (Session.create 7 1) ()).2) ∧
        (readEvents compact ackHandler events (Session.create 7 1) ()).1.state = .active := by
  intro claimed
  have received : (readEvents compact ackHandler [⟨.again, [.data (ascii "nope\n")]⟩]
      (Session.create 7 1) ()).1.side.received = ascii "nope\n" :=
    received_at_once ackHandler 7 1 () (by decide) (by decide)
  have split : lines newline (ascii "nope\n") = [ascii "nope"] := by decide
  have answered := (claimed [ascii "nope"] [⟨.again, [.data (ascii "nope\n")]⟩]
    (by rw [Plain, List.forall_mem_singleton]; decide) (delivers_at_once (by decide))
    (by rw [received]; exact List.prefix_refl _)).1
  rw [received, split] at answered
  have sent := (answered.length_le (by rw [List.forall_mem_singleton]; decide)).2
    ⟨_, List.mem_singleton_self _, Or.inl ⟨_, _, rfl, rfl⟩⟩
  exact absurd sent (by decide +kernel)

end DemoDaemon.Ipc
