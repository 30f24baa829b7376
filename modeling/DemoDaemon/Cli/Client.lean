/-
**The client's reading of a response** (`DemoDaemonClient::sendRequest`, response branch).

A line with an `error` is a failure with its code, a line with a `result` is a success with its
data, anything else is an invalid response; what throws on the way is a communication error.

* **`decodeResponse_result`**, **`decodeResponse_error`**: what the client makes of the line of a
  message with a result, and of one with an error.
-/

import DemoDaemon.Ipc.Messages

namespace DemoDaemon.Cli

open Foundation DemoDaemon.Ipc

/-- What `sendRequest` returns, without the response time. -/
structure CommandResponse where
  success : Bool
  errorCode : Option Int32
  message : Bytes
  data : Json

/-- The `catch` branch. -/
def communicationError (error : Exn) : CommandResponse :=
  ⟨false, some (-1), ascii "Communication error: " ++ error.what, Json.emptyObject⟩

/-- The three branches on the parsed response. -/
def readResponse (response : Json) : Except Exn CommandResponse :=
  match response.find (ascii "error") with
  | some error => do
    let code ← error.value Json.getInt (ascii "code") (-1)
    let message ← error.value Json.getString (ascii "message") (ascii "Unknown error")
    let data ← error.value Except.ok (ascii "data") Json.emptyObject
    return ⟨false, some code, message, data⟩
  | none =>
    match response.find (ascii "result") with
    | some result => .ok ⟨true, none, ascii "OK", result⟩
    | none => .ok ⟨false, some (-32600), ascii "Invalid response format", Json.emptyObject⟩

/-- The response branch of `sendRequest`, from the received text on. -/
def decodeResponse (lib : Nlohmann) (text : Bytes) : CommandResponse :=
  match lib.parse text with
  | .error error => communicationError error
  | .ok response =>
    match readResponse response with
    | .error error => communicationError error
    | .ok result => result

/-- Only the branch of `result` succeeds, behind that of `error`. -/
theorem readResponse_success {json : Json} {response : CommandResponse}
    (read : readResponse json = .ok response) (success : response.success = true) :
    json.find (ascii "error") = none ∧ json.find (ascii "result") = some response.data := by
  unfold readResponse at read
  cases failure : json.find (ascii "error") with
  | some error =>
    simp only [failure] at read
    cases code : error.value Json.getInt (ascii "code") (-1) with
    | error thrown =>
      rw [code] at read
      cases read
    | ok number =>
      cases text : error.value Json.getString (ascii "message") (ascii "Unknown error") with
      | error thrown =>
        rw [code, text] at read
        cases read
      | ok words =>
        cases data : error.value Except.ok (ascii "data") Json.emptyObject with
        | error thrown =>
          rw [code, text, data] at read
          cases read
        | ok value =>
          rw [code, text, data] at read
          cases read
          cases success
  | none =>
    simp only [failure] at read
    cases found : json.find (ascii "result") with
    | some result =>
      simp only [found] at read
      cases read
      exact ⟨rfl, rfl⟩
    | none =>
      simp only [found] at read
      cases read
      cases success

/-- A success comes from a response with a result and no error. -/
theorem decodeResponse_success {lib : Nlohmann} {text : Bytes}
    (success : (decodeResponse lib text).success = true) :
    ∃ json, lib.parse text = .ok json ∧ json.find (ascii "error") = none ∧
      json.find (ascii "result") = some (decodeResponse lib text).data := by
  unfold decodeResponse at success ⊢
  cases parsed : lib.parse text with
  | error error =>
    simp only [parsed] at success
    cases success
  | ok json =>
    refine ⟨json, rfl, ?_⟩
    simp only [parsed] at success ⊢
    cases read : readResponse json with
    | error error =>
      simp only [read] at success
      cases success
    | ok response =>
      simp only [read] at success ⊢
      exact readResponse_success read success

section Decode

variable {lib : Nlohmann} (documented : lib.Documented) {message : JsonMessage} {text : Bytes}
  (written : lib.dump message.toJson = .ok text)
include documented written

theorem decodeResponse_of_read {result : CommandResponse}
    (read : readResponse message.toJson.nullify = .ok result) :
    decodeResponse lib text = result := by
  simp only [decodeResponse, documented.parse_dump _ _ written, read]

/-- **A result is read as a success with the written data.** -/
theorem decodeResponse_result {result : Json} (noError : message.error = none)
    (found : message.result = some result) :
    decodeResponse lib text = ⟨true, none, ascii "OK", result.nullify⟩ := by
  apply decodeResponse_of_read documented written
  simp [readResponse, Json.find_nullify, JsonMessage.find_error_toJson,
    JsonMessage.find_result_toJson, noError, found]

/-- **An error is read as a failure with its code.** -/
theorem decodeResponse_error {error : ProtocolError} (found : message.error = some error) :
    decodeResponse lib text = ⟨false, some error.code.value, error.message,
      (error.data.map Json.nullify).getD Json.emptyObject⟩ := by
  apply decodeResponse_of_read documented written
  have code : error.toJson.nullify.find (ascii "code") = some (Json.ofInt32 error.code.value) := by
    rw [Json.find_nullify, error.find_code_toJson]
    rfl
  have text : error.toJson.nullify.find (ascii "message") = some (Json.ofString error.message) := by
    rw [Json.find_nullify, error.find_message_toJson]
    rfl
  have data : error.toJson.nullify.find (ascii "data") = error.data.map Json.nullify := by
    rw [Json.find_nullify, error.find_data_toJson]
  have dataValue : error.toJson.nullify.value Except.ok (ascii "data") Json.emptyObject
      = .ok ((error.data.map Json.nullify).getD Json.emptyObject) := by
    cases some : error.data with
    | none =>
      rw [some] at data
      exact Json.value_of_absent (Json.isObject_of_find code) data _ _
    | some value =>
      rw [some] at data
      exact Json.value_of_find data _ _
  simp only [readResponse, Json.find_nullify, JsonMessage.find_error_toJson, found,
    Option.map_some, Json.value_of_find code, Json.value_of_find text, dataValue,
    Json.getInt_ofInt32, Json.getString_ofString]
  rfl

end Decode

end DemoDaemon.Cli
