/-
**Answering a request** (`UnixSocketServer::on_message`).

The command handler answers or throws; the answer is scheduled on a session under the id of the
request, and whatever throws on the way, the handler or the JSON writer, is answered with an
internal error instead.

* `answer`: the message that ends up scheduled.
* **`onMessage_spec`**: when that message can be written, `on_message` appends its line to the
  session's output, leaves the rest of the session alone, and does not throw.
* `answer_written`: it can be written, for a documented library and a handler whose exceptions have
  UTF-8 texts.
* **`one_reply`**: so every call adds one message to the output, with the id of the request.
-/

import DemoDaemon.Json.TextLaws
import DemoDaemon.Ipc.SessionOutput

namespace DemoDaemon.Ipc

open Foundation

/-- `std::function<ResponseMessage(const RequestMessage&)>`, on a state of its own. -/
abbrev CommandHandler (χ : Type) := χ → RequestMessage → Except Exn ResponseMessage × χ

/-- The error response to a request whose handling threw. -/
def internalError (request : RequestMessage) (error : Exn) : ErrorResponseMessage :=
  ⟨request.id, ⟨.internalError, ascii "Internal error: " ++ error.what, none⟩⟩

section OnMessage

variable {χ : Type} (lib : Nlohmann) (handler : CommandHandler χ)

/-- `on_message(msg, session, command_handler)`. -/
def onMessage (state : χ) (request : RequestMessage) (session : Session) :
    Except Exn Session × χ :=
  match handler state request with
  | (.error error, state) => (session.scheduleSendError lib (internalError request error), state)
  | (.ok response, state) =>
    match session.scheduleSend lib { response with id := request.id } with
    | .ok session => (.ok session, state)
    | .error error => (session.scheduleSendError lib (internalError request error), state)

/-- The message that answers a request, given what the handler made of it. -/
def answer (request : RequestMessage) : Except Exn ResponseMessage → JsonMessage
  | .error error => (internalError request error).message
  | .ok response =>
    match lib.dump (ResponseMessage.message { response with id := request.id }).toJson with
    | .ok _ => ResponseMessage.message { response with id := request.id }
    | .error error => (internalError request error).message

theorem answer_id (request : RequestMessage) (outcome : Except Exn ResponseMessage) :
    (answer lib request outcome).id = request.id := by
  unfold answer
  split
  · rfl
  · split <;> rfl

theorem answer_isResponse (request : RequestMessage) (outcome : Except Exn ResponseMessage) :
    (answer lib request outcome).isResponse = true := by
  unfold answer
  split
  · rfl
  · split <;> rfl

theorem response_wellShaped (response : ResponseMessage) : response.message.WellShaped := rfl

theorem errorResponse_wellShaped (response : ErrorResponseMessage) :
    response.message.WellShaped := rfl

/-- The bytes a scheduled message adds to the output, given its text. -/
def queuedText (text : Bytes) : Bytes := text ++ [newline] ++ [newline]

theorem enqueue_of_dump {message : JsonMessage} {text : Bytes}
    (written : lib.dump message.toJson = .ok text) (buffer : IOBuffer) :
    ∃ filled, enqueue lib buffer message = .ok filled ∧
      filled.pending = buffer.pending ++ queuedText text := by
  refine pending_enqueue lib ?_ buffer
  rw [serialize, written]
  rfl

theorem enqueue_of_dump_error {message : JsonMessage} {error : Exn}
    (failed : lib.dump message.toJson = .error error) (buffer : IOBuffer) :
    enqueue lib buffer message = .error error := by
  refine enqueue_error lib ?_ buffer
  rw [serialize, failed]
  rfl

/-- **The answer is appended to the session's output.** -/
theorem onMessage_spec (state : χ) (request : RequestMessage) (session : Session) {text : Bytes}
    (written : lib.dump (answer lib request (handler state request).1).toJson = .ok text) :
    ∃ writeBuffer, onMessage lib handler state request session
        = (.ok { session with writeBuffer }, (handler state request).2) ∧
      writeBuffer.pending = session.writeBuffer.pending ++ queuedText text := by
  obtain ⟨filled, done, pending⟩ := enqueue_of_dump lib written session.writeBuffer
  refine ⟨filled, ?_, pending⟩
  rcases called : handler state request with ⟨outcome, after⟩
  rw [called] at done
  unfold onMessage
  simp only [called]
  cases outcome with
  | error error =>
    unfold answer at done
    simp only [Session.scheduleSendError, done]
    rfl
  | ok response =>
    unfold answer at done
    dsimp only at done ⊢
    cases dumped : lib.dump (ResponseMessage.message { response with id := request.id }).toJson with
    | ok line =>
      rw [dumped] at done
      simp only [Session.scheduleSend, done]
      rfl
    | error error =>
      rw [dumped] at done
      dsimp only at done
      simp only [Session.scheduleSend, enqueue_of_dump_error lib dumped,
        Session.scheduleSendError, Except.map, done]

end OnMessage

/-! ### Which answers can be written -/

section Written

variable (lib : Nlohmann)

theorem validUtf8_response (response : ResponseMessage) :
    response.message.toJson.validUtf8 = response.result.validUtf8 := by
  rw [JsonMessage.validUtf8_toJson (response_wellShaped response)]
  simp [ResponseMessage.message]

theorem validUtf8_internalError (request : RequestMessage) (error : Exn) :
    (internalError request error).message.toJson.validUtf8 = validUtf8 error.what := by
  have constant : validUtf8 (ascii "Internal error: ") = true := by decide
  rw [JsonMessage.validUtf8_toJson (errorResponse_wellShaped _)]
  simp [ErrorResponseMessage.message, internalError, ProtocolError.validUtf8_toJson,
    validUtf8_append constant]

variable {lib}

/-- **Every answer can be written**, when what the handler throws has a UTF-8 text: what the writer
throws is ASCII. -/
theorem answer_written (documented : lib.Documented) (request : RequestMessage)
    (outcome : Except Exn ResponseMessage)
    (thrown : ∀ error, outcome = .error error → validUtf8 error.what = true) :
    ∃ text, lib.dump (answer lib request outcome).toJson = .ok text := by
  cases outcome with
  | error error =>
    refine documented.dump_valid _ ?_
    rw [answer, validUtf8_internalError, thrown error rfl]
  | ok response =>
    cases dumped : lib.dump (ResponseMessage.message { response with id := request.id }).toJson with
    | ok text =>
      refine ⟨text, ?_⟩
      simp only [answer, dumped]
    | error error =>
      have invalid : (ResponseMessage.message { response with id := request.id }).toJson.validUtf8
          = false := by
        by_contra valid
        obtain ⟨text, written⟩ := documented.dump_valid _ (Bool.not_eq_false _ ▸ valid)
        rw [dumped] at written
        cases written
      obtain ⟨other, failed, small⟩ := documented.dump_invalid _ invalid
      rw [dumped] at failed
      cases failed
      refine documented.dump_valid _ ?_
      simp only [answer, dumped]
      rw [validUtf8_internalError, validUtf8_of_ascii small]

/-! ### One reply -/

/-- What a call of `on_message` must answer: the handler's result if there is one and it can be
written, an internal error otherwise. -/
inductive Reply (lib : Nlohmann) (request : RequestMessage) (outcome : Except Exn ResponseMessage) :
    JsonMessage → Prop
  | result (response : ResponseMessage) (returned : outcome = .ok response) (line : Bytes)
      (encoded : serialize lib { id := request.id, result := some response.result } = .ok line) :
      Reply lib request outcome { id := request.id, result := some response.result }
  | error (failed : ∀ response, outcome = .ok response →
        ∃ error, serialize lib { id := request.id, result := some response.result } = .error error)
      (what : Bytes) :
      Reply lib request outcome { id := request.id, error := some ⟨.internalError, what, none⟩ }

theorem reply_answer (request : RequestMessage) (outcome : Except Exn ResponseMessage) :
    Reply lib request outcome (answer lib request outcome) := by
  cases outcome with
  | error error =>
    refine .error (fun response same => ?_) _
    cases same
  | ok response =>
    cases dumped : lib.dump (ResponseMessage.message { response with id := request.id }).toJson with
    | ok text =>
      simp only [answer, dumped]
      refine .result response rfl (text ++ [newline]) ?_
      exact congrArg (Except.map fun text => text ++ [newline]) dumped
    | error error =>
      simp only [answer, dumped]
      refine .error (fun other same => ⟨error, ?_⟩) _
      cases same
      exact congrArg (Except.map fun text => text ++ [newline]) dumped

/-- **One reply per call.** For every request, session and state of its write buffer, and every
command handler that returns any response or throws with a UTF-8 text: `on_message` does not throw,
and leaves the pending bytes with one message appended, under the id of the request, in the one line
that `serialize` writes and the empty line that `schedule_send` adds to it. -/
theorem one_reply {χ : Type} (documented : lib.Documented) (handler : CommandHandler χ) (state : χ)
    (request : RequestMessage) (session : Session)
    (thrown : ∀ error, (handler state request).1 = .error error → validUtf8 error.what = true) :
    ∃ message text writeBuffer, Reply lib request (handler state request).1 message ∧
      message.id = request.id ∧ serialize lib message = .ok (text ++ [newline]) ∧ newline ∉ text ∧
      onMessage lib handler state request session
        = (.ok { session with writeBuffer }, (handler state request).2) ∧
      writeBuffer.pending = session.writeBuffer.pending ++ (text ++ [newline]) ++ [newline] := by
  obtain ⟨text, written⟩ := answer_written documented request (handler state request).1 thrown
  obtain ⟨writeBuffer, done, pending⟩ := onMessage_spec lib handler state request session written
  refine ⟨answer lib request (handler state request).1, text, writeBuffer,
    reply_answer request (handler state request).1, answer_id lib request _, ?_,
    documented.dump_line _ _ written, done, ?_⟩
  · rw [serialize, written]
    rfl
  · rw [pending, queuedText, ← List.append_assoc]

end Written

/-- A handler whose result is not UTF-8: the one reply is an internal error. -/
theorem one_reply_invalid_result :
    ∃ message text writeBuffer,
      Reply compact ⟨some 7, ascii "ping", Json.emptyObject⟩
        (.ok ⟨none, Json.ofString [0xFF]⟩) message ∧
      message.id = some 7 ∧ serialize compact message = .ok (text ++ [newline]) ∧
      newline ∉ text ∧
      onMessage compact (fun (_ : Unit) _ => (.ok ⟨none, Json.ofString [0xFF]⟩, ())) ()
          ⟨some 7, ascii "ping", Json.emptyObject⟩ (Session.create 5 1)
        = (.ok { Session.create 5 1 with writeBuffer }, ()) ∧
      writeBuffer.pending = (Session.create 5 1).writeBuffer.pending ++ (text ++ [newline])
        ++ [newline] :=
  one_reply compact_documented (fun (_ : Unit) _ => (.ok ⟨none, Json.ofString [0xFF]⟩, ())) ()
    ⟨some 7, ascii "ping", Json.emptyObject⟩ (Session.create 5 1) (fun _ same => by cases same)

end DemoDaemon.Ipc
