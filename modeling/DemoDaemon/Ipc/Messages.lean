/-
**The messages of the protocol and their JSON form** (`json_protocol.cpp`).

A `JsonMessage` is a request or a response read off one line. A decoder has three outcomes
(`Decoded`): it accepts, it rejects (`std::nullopt`), or a typed reader inside it throws; the three
are told apart because the parser treats the last two differently.

* **`fromJson_eq_accepted_iff`**: exactly what `JsonMessage::from_json` accepts, and with what
  fields. Every proof about the decoder goes through it.
* **`fromJson_toJson`**: a well-shaped message is read back from its own encoding, null `params`
  and `result`, default-free errors and optional `data` included.
* `fromJson_wellShaped`: nothing else is ever accepted.
-/

import DemoDaemon.Json.Library

namespace DemoDaemon.Ipc

open Foundation

/-! ### Decoders -/

/-- What a decoder does with a value. -/
inductive Decoded (β : Type) where
  | accepted (value : β)
  | rejected
  | thrown (error : Exn)

namespace Decoded

variable {β γ : Type}

/-- Sequencing: the first outcome that is not an acceptance is the result. -/
def bind (first : Decoded β) (next : β → Decoded γ) : Decoded γ :=
  match first with
  | accepted value => next value
  | rejected => rejected
  | thrown error => thrown error

instance : Monad Decoded where
  pure := accepted
  bind := bind

/-- `if (!condition) return std::nullopt;` -/
def require (condition : Bool) : Decoded Unit := if condition then accepted () else rejected

/-- A call that may throw and never rejects. -/
def ofExcept : Except Exn β → Decoded β
  | .ok value => accepted value
  | .error error => thrown error

theorem bind_eq_accepted {first : Decoded β} {next : β → Decoded γ} {value : γ} :
    (first >>= next) = accepted value
      ↔ ∃ middle, first = accepted middle ∧ next middle = accepted value := by
  cases first with
  | accepted middle =>
    constructor
    · exact fun same => ⟨middle, rfl, same⟩
    · rintro ⟨other, same, rest⟩
      cases same
      exact rest
  | rejected => exact ⟨nofun, fun ⟨_, same, _⟩ => nomatch same⟩
  | thrown error => exact ⟨nofun, fun ⟨_, same, _⟩ => nomatch same⟩

theorem require_eq_accepted {condition : Bool} {done : Unit} :
    require condition = accepted done ↔ condition = true := by
  cases condition with
  | false => exact ⟨nofun, nofun⟩
  | true => exact ⟨fun _ => rfl, fun _ => rfl⟩

theorem pure_eq_accepted {first second : β} :
    (pure first : Decoded β) = accepted second ↔ first = second :=
  ⟨fun same => Decoded.accepted.inj same, fun same => congrArg accepted same⟩

end Decoded

/-! ### Errors -/

/-- `enum class ProtocolErrorCode : int32_t`. A value read off the wire is cast into it unchecked,
so any `int32_t` occurs. -/
structure ProtocolErrorCode where
  value : Int32
deriving DecidableEq

namespace ProtocolErrorCode

def parseError : ProtocolErrorCode := ⟨-32700⟩

def invalidRequest : ProtocolErrorCode := ⟨-32600⟩

def internalError : ProtocolErrorCode := ⟨-32603⟩

end ProtocolErrorCode

@[ext]
structure ProtocolError where
  code : ProtocolErrorCode
  message : Bytes
  data : Option Json

namespace ProtocolError

def toJson (error : ProtocolError) : Json :=
  ((Json.emptyObject.set (ascii "code") (Json.ofInt32 error.code.value)).set (ascii "message")
    (Json.ofString error.message)).setSome (ascii "data") error.data

def fromJson (json : Json) : Except Exn ProtocolError :=
  match json.value Json.getInt (ascii "code") (-32603) with
  | .error error => .error error
  | .ok code =>
    match json.value Json.getString (ascii "message") (ascii "Unknown error") with
    | .error error => .error error
    | .ok message => .ok ⟨⟨code⟩, message, json.find (ascii "data")⟩

theorem isObject_toJson (error : ProtocolError) : error.toJson.isObject = true := by
  unfold toJson
  cases error.data <;> rfl

theorem find_code_toJson (error : ProtocolError) :
    error.toJson.find (ascii "code") = some (Json.ofInt32 error.code.value) := by
  rw [toJson, Json.find_setSome_other _ (by decide), Json.find_set_other _ (by decide),
    Json.find_set_same]

theorem find_message_toJson (error : ProtocolError) :
    error.toJson.find (ascii "message") = some (Json.ofString error.message) := by
  rw [toJson, Json.find_setSome_other _ (by decide), Json.find_set_same]

theorem find_data_toJson (error : ProtocolError) :
    error.toJson.find (ascii "data") = error.data := by
  rw [toJson, Json.find_setSome_same]
  rw [Json.find_set_other _ (by decide), Json.find_set_other _ (by decide),
    Json.find_emptyObject]

/-- **An error is read back from its own encoding.** -/
theorem fromJson_toJson (error : ProtocolError) : fromJson error.toJson = .ok error := by
  simp only [fromJson, Json.value_of_find error.find_code_toJson,
    Json.value_of_find error.find_message_toJson, Json.getInt_ofInt32, Json.getString_ofString,
    find_data_toJson]

/-- The encoding of an error is UTF-8 exactly when its texts are. -/
theorem validUtf8_toJson (error : ProtocolError) :
    error.toJson.validUtf8 = (error.data.all Json.validUtf8 && validUtf8 error.message) := by
  rw [Json.validUtf8_of_isObject error.isObject_toJson, toJson,
    Json.fieldsUtf8_setSome (by decide) (by
      rw [Json.find_set_other _ (by decide), Json.find_set_other _ (by decide),
        Json.find_emptyObject]),
    Json.fieldsUtf8_set (by decide) (by
      rw [Json.find_set_other _ (by decide), Json.find_emptyObject]),
    Json.fieldsUtf8_set (by decide) (Json.find_emptyObject _)]
  show (_ && (validUtf8 error.message && (true && true))) = _
  rw [Bool.and_true, Bool.and_true]

end ProtocolError

/-! ### Messages -/

/-- A request as the session hands it on. -/
@[ext]
structure RequestMessage where
  id : Option Int64
  method : Bytes
  params : Json

structure ResponseMessage where
  id : Option Int64
  result : Json

structure ErrorResponseMessage where
  id : Option Int64
  error : ProtocolError

/-- Generic message that can be request or response. -/
@[ext]
structure JsonMessage where
  id : Option Int64 := none
  method : Option Bytes := none
  params : Option Json := none
  result : Option Json := none
  error : Option ProtocolError := none

namespace JsonMessage

def isRequest (message : JsonMessage) : Bool := message.method.isSome

def isResponse (message : JsonMessage) : Bool := message.result.isSome || message.error.isSome

def toJson (message : JsonMessage) : Json :=
  ((((Json.null.setSome (ascii "id") (message.id.map Json.ofInt64)).setSome (ascii "method")
    (message.method.map Json.ofString)).setSome (ascii "params") message.params).setSome
    (ascii "result") message.result).setSome (ascii "error") (message.error.map ProtocolError.toJson)

/-- The `id` field: an integer, null, or absent. -/
def readId (json : Json) : Decoded (Option Int64) :=
  match json.find (ascii "id") with
  | none => .accepted none
  | some field =>
    if field.isNumberInteger then (Decoded.ofExcept field.getInt64).bind fun id => .accepted (some id)
    else if field.isNull then .accepted none
    else .rejected

/-- The `method` field: a string, or absent. -/
def readMethod (json : Json) : Decoded (Option Bytes) :=
  match json.find (ascii "method") with
  | none => .accepted none
  | some field =>
    if field.isString then
      (Decoded.ofExcept field.getString).bind fun method => .accepted (some method)
    else .rejected

/-- The `error` field: an object, or absent. -/
def readError (json : Json) : Decoded (Option ProtocolError) :=
  match json.find (ascii "error") with
  | none => .accepted none
  | some field =>
    if field.isObject then
      (Decoded.ofExcept (ProtocolError.fromJson field)).bind fun error => .accepted (some error)
    else .rejected

def fromJson (json : Json) : Decoded JsonMessage := do
  Decoded.require json.isObject
  let id ← readId json
  let method ← readMethod json
  let error ← readError json
  let message : JsonMessage :=
    { id, method, params := json.find (ascii "params"), result := json.find (ascii "result"), error }
  -- must be either request or response, not both
  Decoded.require !(message.isRequest && message.isResponse)
  Decoded.require (message.isRequest || message.isResponse)
  return message

/-- The request a session builds from a message with a method. -/
def toRequest (message : JsonMessage) : RequestMessage :=
  { id := message.id
    method := message.method.getD []
    params := message.params.getD Json.emptyObject }

/-- A request and not a response, or a response and not a request. -/
def WellShaped (message : JsonMessage) : Prop := message.isRequest = !message.isResponse

instance (message : JsonMessage) : Decidable message.WellShaped :=
  inferInstanceAs (Decidable (_ = _))

theorem wellShaped_iff (message : JsonMessage) :
    message.WellShaped ↔ (!(message.isRequest && message.isResponse)) = true ∧
      (message.isRequest || message.isResponse) = true := by
  unfold WellShaped
  cases message.isRequest <;> cases message.isResponse <;> simp

/-- **What the decoder accepts.** -/
theorem fromJson_eq_accepted_iff (json : Json) (message : JsonMessage) :
    fromJson json = .accepted message ↔
      json.isObject = true ∧ readId json = .accepted message.id ∧
      readMethod json = .accepted message.method ∧ readError json = .accepted message.error ∧
      json.find (ascii "params") = message.params ∧
      json.find (ascii "result") = message.result ∧ message.WellShaped := by
  unfold fromJson
  simp only [Decoded.bind_eq_accepted, Decoded.require_eq_accepted, Decoded.pure_eq_accepted,
    wellShaped_iff]
  constructor
  · rintro ⟨_, object, id, readId, method, readMethod, error, readError, _, apart, _, either, rfl⟩
    exact ⟨object, readId, readMethod, readError, rfl, rfl, apart, either⟩
  · rintro ⟨object, readId, readMethod, readError, params, result, apart, either⟩
    refine ⟨(), object, message.id, readId, message.method, readMethod, message.error, readError,
      (), ?_, (), ?_, ?_⟩
    · rw [params, result]
      exact apart
    · rw [params, result]
      exact either
    · rw [params, result]

theorem fromJson_wellShaped {json : Json} {message : JsonMessage}
    (accepted : fromJson json = .accepted message) : message.WellShaped :=
  ((fromJson_eq_accepted_iff json message).mp accepted).2.2.2.2.2.2

/-! ### The encoding of a message -/

section Encoding

variable (message : JsonMessage)

theorem find_id_toJson : message.toJson.find (ascii "id") = message.id.map Json.ofInt64 := by
  rw [toJson, Json.find_setSome_other _ (by decide), Json.find_setSome_other _ (by decide),
    Json.find_setSome_other _ (by decide), Json.find_setSome_other _ (by decide),
    Json.find_setSome_same (Json.find_null _)]

theorem find_method_toJson :
    message.toJson.find (ascii "method") = message.method.map Json.ofString := by
  rw [toJson, Json.find_setSome_other _ (by decide), Json.find_setSome_other _ (by decide),
    Json.find_setSome_other _ (by decide), Json.find_setSome_same]
  rw [Json.find_setSome_other _ (by decide), Json.find_null]

theorem find_params_toJson : message.toJson.find (ascii "params") = message.params := by
  rw [toJson, Json.find_setSome_other _ (by decide), Json.find_setSome_other _ (by decide),
    Json.find_setSome_same]
  rw [Json.find_setSome_other _ (by decide), Json.find_setSome_other _ (by decide), Json.find_null]

theorem find_result_toJson : message.toJson.find (ascii "result") = message.result := by
  rw [toJson, Json.find_setSome_other _ (by decide), Json.find_setSome_same]
  rw [Json.find_setSome_other _ (by decide), Json.find_setSome_other _ (by decide),
    Json.find_setSome_other _ (by decide), Json.find_null]

theorem find_error_toJson :
    message.toJson.find (ascii "error") = message.error.map ProtocolError.toJson := by
  rw [toJson, Json.find_setSome_same]
  rw [Json.find_setSome_other _ (by decide), Json.find_setSome_other _ (by decide),
    Json.find_setSome_other _ (by decide), Json.find_setSome_other _ (by decide), Json.find_null]

variable {message}

/-- A well-shaped message has a field, so its encoding is an object. -/
theorem isObject_toJson (shaped : message.WellShaped) : message.toJson.isObject = true := by
  cases method : message.method with
  | some text =>
    have found := message.find_method_toJson
    rw [method] at found
    exact Json.isObject_of_find found
  | none =>
    cases result : message.result with
    | some value =>
      have found := message.find_result_toJson
      rw [result] at found
      exact Json.isObject_of_find found
    | none =>
      cases error : message.error with
      | some value =>
        have found := message.find_error_toJson
        rw [error] at found
        exact Json.isObject_of_find found
      | none => simp [WellShaped, isRequest, isResponse, method, result, error] at shaped

theorem readId_toJson (message : JsonMessage) : readId message.toJson = .accepted message.id := by
  rw [readId, find_id_toJson]
  cases message.id with
  | none => rfl
  | some id =>
    simp only [Option.map_some, Json.isNumberInteger_ofInt64, if_true, Json.getInt64_ofInt64]
    rfl

theorem readMethod_toJson (message : JsonMessage) :
    readMethod message.toJson = .accepted message.method := by
  rw [readMethod, find_method_toJson]
  cases message.method with
  | none => rfl
  | some text => rfl

theorem readError_toJson (message : JsonMessage) :
    readError message.toJson = .accepted message.error := by
  rw [readError, find_error_toJson]
  cases message.error with
  | none => rfl
  | some error =>
    simp only [Option.map_some, error.isObject_toJson, if_true, ProtocolError.fromJson_toJson]
    rfl

/-- **A well-shaped message is read back from its own encoding.** -/
theorem fromJson_toJson (shaped : message.WellShaped) :
    fromJson message.toJson = .accepted message :=
  (fromJson_eq_accepted_iff _ _).mpr
    ⟨isObject_toJson shaped, readId_toJson message, readMethod_toJson message,
      readError_toJson message, find_params_toJson message, find_result_toJson message, shaped⟩

/-- The encoding is UTF-8 exactly when every text in the message is. -/
theorem validUtf8_toJson (shaped : message.WellShaped) :
    message.toJson.validUtf8 =
      ((message.error.map ProtocolError.toJson).all Json.validUtf8 &&
        (message.result.all Json.validUtf8 && (message.params.all Json.validUtf8 &&
          (message.method.map Json.ofString).all Json.validUtf8))) := by
  rw [Json.validUtf8_of_isObject (isObject_toJson shaped), toJson,
    Json.fieldsUtf8_setSome (by decide) (by
      rw [Json.find_setSome_other _ (by decide), Json.find_setSome_other _ (by decide),
        Json.find_setSome_other _ (by decide), Json.find_setSome_other _ (by decide),
        Json.find_null]),
    Json.fieldsUtf8_setSome (by decide) (by
      rw [Json.find_setSome_other _ (by decide), Json.find_setSome_other _ (by decide),
        Json.find_setSome_other _ (by decide), Json.find_null]),
    Json.fieldsUtf8_setSome (by decide) (by
      rw [Json.find_setSome_other _ (by decide), Json.find_setSome_other _ (by decide),
        Json.find_null]),
    Json.fieldsUtf8_setSome (by decide) (by
      rw [Json.find_setSome_other _ (by decide), Json.find_null]),
    Json.fieldsUtf8_setSome (by decide) (Json.find_null _)]
  cases message.id <;> simp [Json.validUtf8, Json.ofInt64, RawJson.validUtf8, RawJson.everywhere,
    RawJson.utf8Node]

end Encoding

end JsonMessage

end DemoDaemon.Ipc
