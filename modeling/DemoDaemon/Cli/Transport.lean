/-
**How the client sends a request and reads its response** (`Impl::sendMessage`, `sendRequest`).

The socket is a parameter: a state, what becomes of it when `::send` takes some bytes, and what
`::recv` answers on it. The answers of `::send` and the turns of `::recv` are scripts; behind the
last one the timeout of the socket runs out.

* `sendLoop`, `recvLoop`, `sendMessage`, `sendRequest`: as in the source.
* **`sendLoop_ok`**: when the send loop ends without a throw, every byte has been handed over, once
  and in order.
-/

import DemoDaemon.Cli.Client

namespace DemoDaemon.Cli

open Foundation DemoDaemon.Ipc

/-! ### The socket -/

/-- The values of `errno` that the two loops tell apart. -/
inductive SocketErrno where
  | interrupted
  | again
  | other
deriving DecidableEq

/-- `errno` after a failed call, with its `strerror`. -/
structure SocketError where
  errno : SocketErrno
  text : Bytes

/-- `EAGAIN`, when a timeout of the socket runs out. -/
def timedOut : SocketError := ⟨.again, ascii "Resource temporarily unavailable"⟩

/-- One answer of `::send`: how many bytes it would take, or -1. -/
inductive SendResult where
  | sent (count : Nat)
  | failed (error : SocketError)

/-- One answer of `::recv`: the bytes (none at the end of the stream), or -1. -/
inductive RecvResult where
  | data (bytes : Bytes)
  | failed (error : SocketError)

/-- A socket: its state after `::send` has taken some bytes, and the answer of `::recv` for a buffer
of some size, in one turn of the outside world. -/
structure Socket (ε α : Type) where
  send : ε → Bytes → ε
  recv : Nat → ε → α → RecvResult × ε

/-! ### Sending -/

/-- The send loop, with the bytes it handed to the socket. -/
def sendLoop : List SendResult → Bytes → Except Exn Unit × Bytes
  | [], rest =>
    if rest.isEmpty then (.ok (), [])
    else (.error ⟨ascii "Failed to send: " ++ timedOut.text⟩, [])
  | result :: results, rest =>
    if rest.isEmpty then (.ok (), [])
    else
      match result with
      | .failed error =>
        if error.errno = .interrupted then sendLoop results rest
        else (.error ⟨ascii "Failed to send: " ++ error.text⟩, [])
      | .sent count =>
        if (rest.take count).isEmpty then (.error ⟨ascii "Connection closed during send"⟩, [])
        else
          let more := sendLoop results (rest.drop count)
          (more.1, rest.take count ++ more.2)

/-- **A send loop that does not throw has handed over every byte, once and in order.** -/
theorem sendLoop_ok {results : List SendResult} {rest : Bytes}
    (done : (sendLoop results rest).1 = .ok ()) : (sendLoop results rest).2 = rest := by
  induction results generalizing rest with
  | nil =>
    unfold sendLoop at done ⊢
    split_ifs at done ⊢ with empty
    exact (List.isEmpty_iff.mp empty).symm
  | cons result results ih =>
    unfold sendLoop at done ⊢
    split_ifs at done ⊢ with empty
    · exact (List.isEmpty_iff.mp empty).symm
    · cases result with
      | failed error =>
        dsimp only at done ⊢
        split_ifs at done ⊢ with interrupted
        exact ih done
      | sent count =>
        dsimp only at done ⊢
        split_ifs at done ⊢ with closed
        exact (congrArg (rest.take count ++ ·) (ih done)).trans (List.take_append_drop _ _)

/-! ### Receiving -/

section Receive

variable {ε α : Type} (socket : Socket ε α)

/-- The receive loop, from what has been received so far. -/
def recvLoop : List α → Bytes → ε → Except Exn Bytes × ε
  | [], _, state => (.error ⟨ascii "Response timeout"⟩, state)
  | turn :: turns, response, state =>
    match socket.recv 4095 state turn with
    | (.failed error, state) =>
      if error.errno = .interrupted then recvLoop turns response state
      else if error.errno = .again then (.error ⟨ascii "Response timeout"⟩, state)
      else (.error ⟨ascii "Failed to receive: " ++ error.text⟩, state)
    | (.data bytes, state) =>
      if bytes.isEmpty then
        if response.isEmpty then (.error ⟨ascii "Connection closed unexpectedly"⟩, state)
        else (.ok response, state)
      else if (response ++ bytes).getLast? = some newline then (.ok (response ++ bytes), state)
      else recvLoop turns (response ++ bytes) state

/-- The trailing newline is removed. -/
def trimmed (response : Bytes) : Bytes :=
  if response.getLast? = some newline then response.dropLast else response

/-- `sendMessage(message)`. -/
def sendMessage (lib : Nlohmann) (message : Json) (results : List SendResult) (turns : List α)
    (state : ε) : Except Exn Bytes × ε :=
  match lib.dump message with
  | .error error => (.error error, state)
  | .ok text =>
    let sent := sendLoop results (text ++ [newline])
    match sent.1 with
    | .error error => (.error error, socket.send state sent.2)
    | .ok () =>
      let received := recvLoop socket turns [] (socket.send state sent.2)
      (received.1.map trimmed, received.2)

/-- A message that is answered was written, sent whole, and its response ended the loop. -/
theorem sendMessage_ok {lib : Nlohmann} {message : Json} {results : List SendResult}
    {turns : List α} {state : ε} {response : Bytes}
    (returned : (sendMessage socket lib message results turns state).1 = .ok response) :
    ∃ text raw, lib.dump message = .ok text ∧
      recvLoop socket turns [] (socket.send state (text ++ [newline]))
        = (.ok raw, (sendMessage socket lib message results turns state).2) ∧
      response = trimmed raw := by
  unfold sendMessage at returned ⊢
  cases dumped : lib.dump message with
  | error error =>
    rw [dumped] at returned
    cases returned
  | ok text =>
    simp only [dumped] at returned ⊢
    cases sent : (sendLoop results (text ++ [newline])).1 with
    | error error =>
      simp only [sent] at returned
      cases returned
    | ok done =>
      simp only [sent] at returned ⊢
      rw [sendLoop_ok sent] at returned ⊢
      cases received : recvLoop socket turns [] (socket.send state (text ++ [newline])) with
      | mk outcome final =>
        rw [received] at returned
        cases outcome with
        | error error => cases returned
        | ok raw =>
          cases returned
          exact ⟨text, raw, rfl, received, rfl⟩

/-- The request that `sendRequest` builds. -/
def request (requestId : UInt64) (method : Bytes) (params : Json) : Json :=
  ((Json.emptyObject.set (ascii "id") (.ofUInt64 requestId)).set (ascii "method")
    (.ofString method)).set (ascii "params") params

/-- `sendRequest(method, params)`, on a client with the given `request_id`. -/
def sendRequest (lib : Nlohmann) (requestId : UInt64) (method : Bytes) (params : Json)
    (results : List SendResult) (turns : List α) (state : ε) : CommandResponse × UInt64 × ε :=
  let requestId := requestId + 1
  let received := sendMessage socket lib (request requestId method params) results turns state
  match received.1 with
  | .error error => (communicationError error, requestId, received.2)
  | .ok response => (decodeResponse lib response, requestId, received.2)

end Receive

end DemoDaemon.Cli
