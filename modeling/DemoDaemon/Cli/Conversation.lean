/-
**A client and its server.**

One connected client makes one call after the other. The server answers each request it receives
with one line that carries the request's id, whenever it likes; the bytes of a reply arrive in any
pieces, perhaps only when the call that asked for them has given up.

* `Server`, `Link`, `Turn`: a server as the protocol wants it, what is under way between the two,
  and what happens outside during one `::recv`. `Delivery.answer` is what the call makes of that.
* `Awaits`: the invariant of a receive loop that began with nothing under way: the request is
  unanswered, or what has arrived and what is under way make up its reply.
* **`recvLoop_awaits`**: such a loop returns the reply to its own request.
* **`replies_match`**: in every sequence of calls that all begin with nothing under way, a call that
  succeeds returns the result of the reply with its own id.
* `late_reply_taken`: the client never looks at the id, so a call that begins behind a timeout takes
  the reply to the call before it.
-/

import DemoDaemon.Cli.Transport
import DemoDaemon.Foundation.Framing
import DemoDaemon.Json.TextLaws

namespace DemoDaemon.Cli

open Foundation DemoDaemon.Ipc

/-! ### The server -/

section Protocol

variable (lib : Nlohmann)

/-- A request line: JSON with an integer id. -/
def isRequestLine (line : Bytes) : Bool :=
  match lib.parse line with
  | .error _ => false
  | .ok json => (json.find (ascii "id")).any Json.isNumberInteger

/-- The reply carries the id of the request. -/
def Carries (asked reply : Bytes) : Prop :=
  ∃ question answer, lib.parse asked = .ok question ∧ lib.parse reply = .ok answer ∧
    answer.find (ascii "id") = question.find (ascii "id")

/-- A server that answers each request with one line that carries its id. The reply may depend on
how many replies it has sent before. -/
structure Server where
  answer : Nat → Bytes → Bytes
  line : ∀ count asked, newline ∉ answer count asked
  carries : ∀ count asked, isRequestLine lib asked = true → Carries lib asked (answer count asked)

end Protocol

/-- What is under way between a client and its server: the part of a request line that the server
has, the requests it has not answered, the bytes of replies that the client has not received.
`replies` records the lines that the server has sent. -/
structure Link where
  unfinished : Bytes
  owed : List Bytes
  wire : Bytes
  replies : List Bytes

/-- What happens with a `::recv`: some bytes arrive, or the server has closed the connection, or
the call fails. -/
inductive Delivery where
  | arrives (count : Nat)
  | closes
  | fails (error : SocketError)

namespace Delivery

/-- What `::recv` answers with such bytes on the wire, and the bytes that stay on it. It waits while
there are none, until the timeout; the end of the stream comes behind what is on the wire. -/
def answer (room : Nat) (wire : Bytes) : Delivery → RecvResult × Bytes
  | .arrives count =>
    if wire.isEmpty then (.failed timedOut, wire)
    else (.data (wire.take (min (count + 1) room)), wire.drop (min (count + 1) room))
  | .closes => if wire.isEmpty then (.data [], wire) else (.data (wire.take room), wire.drop room)
  | .fails error => (.failed error, wire)

/-- The three ways a `::recv` can go: it fails, meets the end of the stream, or takes some bytes. -/
theorem answer_cases (delivery : Delivery) {room : Nat} (some : 0 < room) (wire : Bytes) :
    (∃ error, delivery.answer room wire = (.failed error, wire)) ∨
      (wire = [] ∧ delivery.answer room wire = (.data [], wire)) ∨
      ∃ count, wire.take count ≠ [] ∧
        delivery.answer room wire = (.data (wire.take count), wire.drop count) := by
  have taken : ∀ count, 0 < count → ¬ wire.isEmpty → wire.take count ≠ [] := by
    intro count positive more
    rw [Ne, List.take_eq_nil_iff]
    exact fun empty => empty.elim (Nat.ne_of_gt positive) (mt List.isEmpty_iff.mpr more)
  cases delivery with
  | fails error => exact .inl ⟨error, rfl⟩
  | closes =>
    unfold answer
    split_ifs with empty
    · exact .inr (.inl ⟨List.isEmpty_iff.mp empty, rfl⟩)
    · exact .inr (.inr ⟨room, taken room some empty, rfl⟩)
  | arrives count =>
    unfold answer
    split_ifs with empty
    · exact .inl ⟨timedOut, rfl⟩
    · exact .inr (.inr ⟨_, taken _ (lt_min (Nat.succ_pos count) some) empty, rfl⟩)

end Delivery

/-- What happens outside during one `::recv`: the server answers some requests, picked by their
positions, and the call gets its answer. -/
structure Turn where
  answers : List Nat
  delivery : Delivery

namespace Link

/-- A connection that has just been made. -/
def idle : Link := ⟨[], [], [], []⟩

/-- Nothing is under way. -/
def Quiet (link : Link) : Prop := link.unfinished = [] ∧ link.owed = [] ∧ link.wire = []

instance : DecidablePred Quiet := fun _ => inferInstanceAs (Decidable (_ ∧ _ ∧ _))

variable {lib : Nlohmann} (server : Server lib)

variable (lib) in
/-- The server receives some bytes of the client. -/
def receive (link : Link) (bytes : Bytes) : Link :=
  { link with
    unfinished := residue newline (link.unfinished ++ bytes)
    owed := link.owed ++ (lines newline (link.unfinished ++ bytes)).filter (isRequestLine lib) }

/-- The server answers one of the requests it has not answered. -/
def reply (link : Link) (index : Nat) : Link :=
  match link.owed[index]? with
  | none => link
  | some asked =>
    let text := server.answer link.replies.length asked
    { link with
      owed := link.owed.eraseIdx index
      wire := link.wire ++ (text ++ [newline])
      replies := link.replies ++ [text] }

/-- `::recv`. -/
def recv (room : Nat) (link : Link) (turn : Turn) : RecvResult × Link :=
  let link := turn.answers.foldl (reply server) link
  let answered := turn.delivery.answer room link.wire
  (answered.1, { link with wire := answered.2 })

/-- The client's end of the connection. -/
def socket : Socket Link Turn := ⟨receive lib, recv server⟩

end Link

/-! ### A reply that is awaited -/

/-- What a receive loop that began with nothing under way is waiting for: the request is unanswered
and nothing has arrived, or what has arrived and what is on the wire make up its reply. -/
inductive Awaits (lib : Nlohmann) (asked : Bytes) (link : Link) (response : Bytes) : Prop where
  | owed (unfinished : link.unfinished = []) (owed : link.owed = [asked]) (wire : link.wire = [])
      (nothing : response = [])
  | replied (text : Bytes) (line : newline ∉ text) (carries : Carries lib asked text)
      (listed : text ∈ link.replies) (unfinished : link.unfinished = []) (owed : link.owed = [])
      (whole : response ++ link.wire = text ++ [newline])

section Waiting

variable {lib : Nlohmann} (server : Server lib) {asked : Bytes}
  (isRequest : isRequestLine lib asked = true)
include isRequest

/-- **Step.** The server answers the request, or has nothing to answer. -/
theorem Awaits.reply {link : Link} {response : Bytes} (awaits : Awaits lib asked link response)
    (index : Nat) : Awaits lib asked (link.reply server index) response := by
  cases awaits with
  | owed unfinished owed wire nothing =>
    unfold Link.reply
    rw [owed]
    cases index with
    | zero =>
      refine .replied (server.answer link.replies.length asked) (server.line _ _)
        (server.carries _ _ isRequest) (List.mem_append_right _ (List.mem_singleton_self _))
        unfinished rfl ?_
      show response ++ (link.wire ++ _) = _
      rw [nothing, wire]
      rfl
    | succ index => exact .owed unfinished owed wire nothing
  | replied text line carries listed unfinished owed whole =>
    unfold Link.reply
    rw [owed]
    exact .replied text line carries listed unfinished owed whole

theorem Awaits.answers {link : Link} {response : Bytes} (awaits : Awaits lib asked link response)
    (answers : List Nat) : Awaits lib asked (answers.foldl (Link.reply server) link) response := by
  induction answers generalizing link with
  | nil => exact awaits
  | cons index answers ih => exact ih (awaits.reply server isRequest index)

omit isRequest in
/-- A response that ends with a newline is the whole reply. -/
theorem Awaits.finished {link : Link} {response : Bytes} (awaits : Awaits lib asked link response)
    (ends : response.getLast? = some newline) :
    ∃ text ∈ link.replies, response = text ++ [newline] ∧ Carries lib asked text ∧ link.Quiet := by
  cases awaits with
  | owed unfinished owed wire nothing =>
    rw [nothing] at ends
    cases ends
  | replied text line carries listed unfinished owed whole =>
    rcases List.eq_nil_or_concat link.wire with empty | ⟨front, last, wire⟩
    · rw [empty, List.append_nil] at whole
      exact ⟨text, listed, whole, carries, unfinished, owed, empty⟩
    · -- otherwise the newline would stand inside the reply
      rw [wire, List.concat_eq_append, ← List.append_assoc] at whole
      have inside := (List.append_inj' whole rfl).1
      refine absurd ?_ line
      rw [← inside]
      exact List.mem_append_left _ (List.mem_of_getLast? ends)

omit isRequest in
/-- **Step.** Some bytes of the reply arrive. -/
theorem Awaits.arrive {link : Link} {response : Bytes} (awaits : Awaits lib asked link response)
    (some : link.wire ≠ []) (count : Nat) :
    Awaits lib asked { link with wire := link.wire.drop count }
      (response ++ link.wire.take count) := by
  cases awaits with
  | owed unfinished owed wire nothing => exact absurd wire some
  | replied text line carries listed unfinished owed whole =>
    refine .replied text line carries listed unfinished owed ?_
    show response ++ link.wire.take count ++ link.wire.drop count = _
    rw [List.append_assoc, List.take_append_drop, whole]

/-- The three ways a `::recv` can go while a reply is awaited. -/
theorem Awaits.recv_cases {link : Link} {response : Bytes} (awaits : Awaits lib asked link response)
    (turn : Turn) :
    ∃ next, Awaits lib asked next response ∧
      ((∃ error, Link.recv server 4095 link turn = (.failed error, next)) ∨
        (next.wire = [] ∧ Link.recv server 4095 link turn = (.data [], next)) ∨
        ∃ count, next.wire.take count ≠ [] ∧ Link.recv server 4095 link turn
          = (.data (next.wire.take count), { next with wire := next.wire.drop count })) := by
  have kept := awaits.answers server isRequest turn.answers
  unfold Link.recv
  dsimp only
  generalize turn.answers.foldl (Link.reply server) link = next at kept ⊢
  refine ⟨next, kept, ?_⟩
  rcases turn.delivery.answer_cases (show 0 < 4095 by decide) next.wire with
    ⟨error, failed⟩ | ⟨empty, closed⟩ | ⟨count, some, arrived⟩
  · rw [failed]
    exact .inl ⟨error, rfl⟩
  · rw [closed]
    exact .inr (.inl ⟨empty, rfl⟩)
  · rw [arrived]
    exact .inr (.inr ⟨count, some, rfl⟩)

/-- **Run.** A receive loop that began with nothing under way returns the reply to its own
request, and leaves nothing under way. -/
theorem recvLoop_awaits (turns : List Turn) {link final : Link} {response raw : Bytes}
    (awaits : Awaits lib asked link response) (unfinished : response.getLast? ≠ some newline)
    (returned : recvLoop (Link.socket server) turns response link = (.ok raw, final)) :
    ∃ text ∈ final.replies, raw = text ++ [newline] ∧ Carries lib asked text ∧ final.Quiet := by
  induction turns generalizing link response with
  | nil => cases returned
  | cons turn turns ih =>
    obtain ⟨next, kept, ways⟩ := awaits.recv_cases server isRequest turn
    unfold recvLoop at returned
    rcases ways with ⟨error, failed⟩ | ⟨empty, closed⟩ | ⟨count, some, arrived⟩
    · rw [show (Link.socket server).recv 4095 link turn = _ from failed] at returned
      dsimp only at returned
      split_ifs at returned with interrupted again
      · exact ih kept unfinished returned
      · cases returned
      · cases returned
    · rw [show (Link.socket server).recv 4095 link turn = _ from closed] at returned
      dsimp only at returned
      rw [if_pos List.isEmpty_nil] at returned
      split_ifs at returned with nothing
      · cases returned
      · -- the stream ends behind a whole line, and the loop would have stopped there
        cases kept with
        | owed _ owed wire none => exact absurd (List.isEmpty_iff.mpr none) nothing
        | replied text line carries listed _ owed whole =>
          rw [empty, List.append_nil] at whole
          rw [whole, List.getLast?_concat] at unfinished
          exact absurd rfl unfinished
    · rw [show (Link.socket server).recv 4095 link turn = _ from arrived] at returned
      have further := kept.arrive (fun empty => some (by rw [empty, List.take_nil])) count
      dsimp only at returned
      rw [if_neg (mt List.isEmpty_iff.mp some)] at returned
      split_ifs at returned with ends
      · cases returned
        exact further.finished ends
      · exact ih further ends returned

end Waiting

/-! ### Sequences of calls -/

/-- One `sendRequest` call, with what happens outside during it. -/
structure Call where
  method : Bytes
  params : Json
  results : List SendResult
  turns : List Turn

/-- What came of a call: the id it sent, what it returned, and what was under way before and after
it. -/
structure Outcome where
  id : UInt64
  before : Link
  response : CommandResponse
  after : Link

section Conversation

variable {lib : Nlohmann} (server : Server lib)

/-- The calls of one client, one after the other. -/
def converse : List Call → UInt64 → Link → List Outcome
  | [], _, _ => []
  | call :: calls, requestId, link =>
    let done := sendRequest (Link.socket server) lib requestId call.method call.params call.results
      call.turns link
    ⟨done.2.1, link, done.1, done.2.2⟩ :: converse calls done.2.1 done.2.2

/-- A call that succeeds returns the result of a reply that carries the id it sent. -/
def Outcome.Matches (lib : Nlohmann) (outcome : Outcome) : Prop :=
  outcome.response.success = true →
    ∃ reply ∈ outcome.after.replies, ∃ json, lib.parse reply = .ok json ∧
      json.find (ascii "id") = some (.ofUInt64 outcome.id) ∧
      json.find (ascii "result") = some outcome.response.data

theorem find_id_request (requestId : UInt64) (method : Bytes) (params : Json) :
    (request requestId method params).nullify.find (ascii "id") = some (.ofUInt64 requestId) := by
  rw [Json.find_nullify, request, Json.find_set_other _ (by decide),
    Json.find_set_other _ (by decide), Json.find_set_same]
  rfl

/-- A request sent while nothing is under way is what the server owes. -/
theorem Link.Quiet.receive {link : Link} (quiet : link.Quiet) {text : Bytes}
    (line : newline ∉ text) (isRequest : isRequestLine lib text = true) :
    Awaits lib text (link.receive lib (text ++ [newline])) [] := by
  obtain ⟨unfinished, owed, wire⟩ := quiet
  refine .owed ?_ ?_ wire rfl
  · show residue newline (link.unfinished ++ (text ++ [newline])) = []
    rw [unfinished, List.nil_append, residue_append_cons line, residue_of_not_mem List.not_mem_nil]
  · show link.owed ++ (lines newline (link.unfinished ++ (text ++ [newline]))).filter _ = [text]
    rw [unfinished, owed, List.nil_append, List.nil_append, lines_append_cons line,
      lines_of_not_mem List.not_mem_nil, List.filter_cons_of_pos isRequest]
    rfl

variable (documented : lib.Documented)
include documented

/-- **A call that begins with nothing under way** and gets a response gets the reply to its own
request, and leaves nothing under way. -/
theorem sendMessage_quiet {link : Link} (quiet : link.Quiet) {requestId : UInt64} {method : Bytes}
    {params : Json} {results : List SendResult} {turns : List Turn} {response : Bytes}
    (returned : (sendMessage (Link.socket server) lib (request requestId method params) results
      turns link).1 = .ok response) :
    let after := (sendMessage (Link.socket server) lib (request requestId method params) results
      turns link).2
    response ∈ after.replies ∧ after.Quiet ∧ ∃ json, lib.parse response = .ok json ∧
      json.find (ascii "id") = some (.ofUInt64 requestId) := by
  intro after
  obtain ⟨text, raw, dumped, received, rfl⟩ := sendMessage_ok (Link.socket server) returned
  have parsed := documented.parse_dump _ _ dumped
  have isRequest : isRequestLine lib text = true := by
    simp only [isRequestLine, parsed, find_id_request]
    rfl
  have awaits := quiet.receive (documented.dump_line _ _ dumped) isRequest
  obtain ⟨reply, listed, rfl, ⟨question, answer, asked, answered, same⟩, left⟩ :=
    recvLoop_awaits server isRequest turns awaits nofun received
  have whole : trimmed (reply ++ [newline]) = reply := by
    rw [trimmed, if_pos List.getLast?_concat, List.dropLast_concat]
  rw [whole]
  refine ⟨listed, left, answer, answered, ?_⟩
  rw [parsed] at asked
  cases asked
  rw [same, find_id_request]

/-- **Step.** A call that begins with nothing under way, and succeeds. -/
theorem sendRequest_quiet {link : Link} (quiet : link.Quiet) (requestId : UInt64) (call : Call) :
    let done := sendRequest (Link.socket server) lib requestId call.method call.params call.results
      call.turns link
    done.1.success = true →
      done.2.2.Quiet ∧ Outcome.Matches lib ⟨done.2.1, link, done.1, done.2.2⟩ := by
  intro done
  have step : done = sendRequest (Link.socket server) lib requestId call.method call.params
    call.results call.turns link := rfl
  unfold sendRequest at step
  dsimp only at step
  cases returned : (sendMessage (Link.socket server) lib
      (request (requestId + 1) call.method call.params) call.results call.turns link).1 with
  | error error =>
    rw [returned] at step
    rw [step]
    exact nofun
  | ok response =>
    rw [returned] at step
    rw [step]
    intro success
    obtain ⟨listed, left, json, parsed, carried⟩ :=
      sendMessage_quiet server documented quiet returned
    obtain ⟨other, again, -, result⟩ := decodeResponse_success success
    rw [parsed] at again
    cases again
    exact ⟨left, fun _ => ⟨response, listed, json, parsed, carried, result⟩⟩

/-- **Run.** A client whose calls but the last have all succeeded has begun each call with nothing
under way. -/
theorem quiet_of_successes (calls : List Call) (requestId : UInt64) {link : Link}
    (quiet : link.Quiet)
    (succeeded : ∀ outcome ∈ (converse server calls requestId link).dropLast,
      outcome.response.success = true) :
    ∀ outcome ∈ converse server calls requestId link, outcome.before.Quiet := by
  induction calls generalizing requestId link with
  | nil => exact List.forall_mem_nil _
  | cons call calls ih =>
    rw [converse, List.forall_mem_cons]
    refine ⟨quiet, ?_⟩
    cases calls with
    | nil => exact List.forall_mem_nil _
    | cons next calls =>
      rw [converse, converse, List.dropLast_cons_cons, List.forall_mem_cons, ← converse]
        at succeeded
      have left := (sendRequest_quiet server documented quiet requestId call succeeded.1).1
      exact ih _ left succeeded.2

/-- **Run.** As long as each call begins with nothing under way, each gets its own reply. -/
theorem matches_of_quiet (calls : List Call) (requestId : UInt64) (link : Link)
    (quiet : ∀ outcome ∈ converse server calls requestId link, outcome.before.Quiet) :
    ∀ outcome ∈ converse server calls requestId link, outcome.Matches lib := by
  induction calls generalizing requestId link with
  | nil => exact List.forall_mem_nil _
  | cons call calls ih =>
    rw [converse, List.forall_mem_cons] at quiet ⊢
    refine ⟨fun success => ?_, ih _ _ quiet.2⟩
    exact (sendRequest_quiet server documented quiet.1 requestId call success).2 success

/-- **Replies match requests while nothing is left under way.** In every sequence of calls on one
new connection, against a server that answers each request with one line that carries its id, for
all delays and all ways the replies are cut: if each call begins with nothing under way (no part of
an earlier request, no unanswered request, no byte of a reply), a call that succeeds returns the
result of the reply with the id that it sent. -/
theorem replies_match (calls : List Call)
    (quiet : ∀ outcome ∈ converse server calls 0 .idle, outcome.before.Quiet) :
    ∀ outcome ∈ converse server calls 0 .idle, outcome.Matches lib :=
  matches_of_quiet server documented calls 0 .idle quiet

end Conversation

/-! ### An echo server -/

/-- The reply that echoes an id as the result. -/
def echoReply (id : Json) : Json :=
  (Json.emptyObject.set (ascii "id") id).set (ascii "result") id

theorem find_id_echoReply (id : Json) : (echoReply id).find (ascii "id") = some id := by
  rw [echoReply, Json.find_set_other _ (by decide), Json.find_set_same]

theorem validUtf8_echoReply {id : Json} (number : id.isNumberInteger = true) :
    (echoReply id).validUtf8 = true := by
  have valid : id.validUtf8 = true := by
    obtain ⟨raw, canonical⟩ := id
    cases raw <;> first | rfl | cases number
  have absent : (Json.emptyObject.set (ascii "id") id).find (ascii "result") = none := by
    rw [Json.find_set_other _ (by decide), Json.find_emptyObject]
  rw [echoReply, Json.validUtf8_of_isObject (Json.isObject_set _ _ _),
    Json.fieldsUtf8_set (by decide) absent,
    Json.fieldsUtf8_set (by decide) (Json.find_emptyObject _), valid]
  rfl

theorem nullify_of_isNumberInteger {id : Json} (number : id.isNumberInteger = true) :
    id.nullify = id := by
  obtain ⟨raw, canonical⟩ := id
  cases raw <;> first | rfl | cases number

/-- A server that answers each request with its id. -/
def echoAnswer (asked : Bytes) : Bytes :=
  match compact.parse asked with
  | .error _ => []
  | .ok json =>
    match json.find (ascii "id") with
    | none => []
    | some id => (compact.dump (echoReply id)).toOption.getD []

theorem not_mem_echoAnswer (asked : Bytes) : newline ∉ echoAnswer asked := by
  unfold echoAnswer
  split
  · exact List.not_mem_nil
  · split
    · exact List.not_mem_nil
    · next id _ =>
      cases dumped : compact.dump (echoReply id) with
      | error error => exact List.not_mem_nil
      | ok text => exact compact_documented.dump_line _ _ dumped

theorem carries_echoAnswer {asked : Bytes} (isRequest : isRequestLine compact asked = true) :
    Carries compact asked (echoAnswer asked) := by
  unfold isRequestLine at isRequest
  cases parsed : compact.parse asked with
  | error error =>
    rw [parsed] at isRequest
    cases isRequest
  | ok json =>
    simp only [parsed] at isRequest
    cases found : json.find (ascii "id") with
    | none =>
      rw [found] at isRequest
      cases isRequest
    | some id =>
      rw [found] at isRequest
      obtain ⟨text, dumped⟩ := compact_documented.dump_valid _ (validUtf8_echoReply isRequest)
      have answer : echoAnswer asked = text := by
        simp only [echoAnswer, parsed, found, dumped]
        rfl
      rw [answer]
      refine ⟨json, _, parsed, compact_documented.parse_dump _ _ dumped, ?_⟩
      rw [Json.find_nullify, find_id_echoReply, found, Option.map_some,
        nullify_of_isNumberInteger isRequest]

def echoServer : Server compact :=
  ⟨fun _ => echoAnswer, fun _ => not_mem_echoAnswer, fun _ _ => carries_echoAnswer⟩

/-- Two calls, each answered while it waits. -/
def promptReplies : List Call :=
  [⟨ascii "ping", .null, [.sent 20, .sent 20], [⟨[0], .arrives 4⟩, ⟨[], .arrives 40⟩]⟩,
    ⟨ascii "ping", .null, [.sent 40], [⟨[0], .arrives 40⟩]⟩]

/-- Both calls succeed, each with its own reply. -/
theorem replies_match_prompt :
    (converse echoServer promptReplies 0 .idle).map (fun outcome => outcome.response.success)
        = [true, true] ∧
      ∀ outcome ∈ converse echoServer promptReplies 0 .idle, outcome.Matches compact :=
  ⟨by decide +kernel,
    replies_match echoServer compact_documented promptReplies (by decide +kernel)⟩

/-- A call that times out, and a call during which the reply to the first one arrives. -/
def lateReply : List Call :=
  [⟨ascii "ping", .null, [.sent 40], []⟩, ⟨ascii "ping", .null, [.sent 40], [⟨[0], .arrives 40⟩]⟩]

/-- The id of a reply, as a number. -/
def replyId (reply : Bytes) : Option Int64 :=
  match compact.parse reply with
  | .error _ => none
  | .ok json => (json.find (ascii "id")).bind fun id => id.getInt64.toOption

theorem converse_lateReply_ne_nil : converse echoServer lateReply 0 .idle ≠ [] :=
  List.cons_ne_nil _ _

/-- What came of the second call. -/
def lateOutcome : Outcome :=
  (converse echoServer lateReply 0 .idle).getLast converse_lateReply_ne_nil

/-- **A late reply is taken for the wrong call.** The second call succeeds with the result of the
first. -/
theorem late_reply_taken :
    ¬ ∀ (lib : Nlohmann) (server : Server lib) (calls : List Call), lib.Documented →
      ∀ outcome ∈ converse server calls 0 .idle, outcome.Matches lib := by
  intro claimed
  have matched : lateOutcome.Matches compact := claimed compact echoServer lateReply
    compact_documented _ (List.getLast_mem converse_lateReply_ne_nil)
  obtain ⟨reply, listed, json, parsed, carried, -⟩ := matched (by decide +kernel)
  have second : lateOutcome.id = 2 := by decide +kernel
  have others : ∀ reply ∈ lateOutcome.after.replies, replyId reply ≠ some 2 := by decide +kernel
  refine others reply listed ?_
  rw [second] at carried
  simp only [replyId, parsed, carried]
  rfl

end DemoDaemon.Cli
