/-
**The typed decoders** (`json_protocol.cpp`): `RequestMessage`, `ResponseMessage` and
`ErrorResponseMessage` read off a JSON value each on their own.

The check of the `id` is the same text in all four decoders (`JsonMessage.readId`); the other checks
come in another order, and a request has its `params` defaulted here and in the session.

* `requestFromJson_eq_accepted_iff` and its two siblings: exactly what each decoder accepts, in
  terms of the readers of the generic one.
* **`decoders_agree`**: the generic decoder and the typed ones accept the same values, where the
  keys say which message it is.
-/

import DemoDaemon.Ipc.Messages

namespace DemoDaemon.Ipc

open Foundation

/-! ### The decoders -/

/-- `!j.contains(key) || !check(j[key])` rejects. -/
def requiredField (json : Json) (key : Bytes) (check : Json → Bool) : Decoded Json :=
  match json.find key with
  | none => .rejected
  | some field => if check field then .accepted field else .rejected

def RequestMessage.fromJson (json : Json) : Decoded RequestMessage := do
  Decoded.require json.isObject
  let field ← requiredField json (ascii "method") Json.isString
  let method ← Decoded.ofExcept field.getString
  let id ← JsonMessage.readId json
  return { id, method, params := (json.find (ascii "params")).getD Json.emptyObject }

def ResponseMessage.fromJson (json : Json) : Decoded ResponseMessage := do
  Decoded.require json.isObject
  let result ← requiredField json (ascii "result") fun _ => true
  let id ← JsonMessage.readId json
  return { id, result }

def ErrorResponseMessage.fromJson (json : Json) : Decoded ErrorResponseMessage := do
  Decoded.require json.isObject
  let field ← requiredField json (ascii "error") Json.isObject
  let error ← Decoded.ofExcept (ProtocolError.fromJson field)
  let id ← JsonMessage.readId json
  return { id, error }

/-! ### What they accept -/

section Accepted

variable (json : Json)

theorem requiredField_eq_accepted {key : Bytes} {check : Json → Bool} {field : Json} :
    requiredField json key check = .accepted field ↔
      json.find key = some field ∧ check field = true := by
  unfold requiredField
  cases json.find key with
  | none => simp
  | some found =>
    dsimp only
    split_ifs with checked
    · constructor
      · intro same
        cases same
        exact ⟨rfl, checked⟩
      · rintro ⟨same, -⟩
        cases same
        rfl
    · refine ⟨fun same => (by cases same), ?_⟩
      rintro ⟨same, other⟩
      cases same
      exact absurd other checked

theorem ofExcept_eq_accepted {β : Type} {result : Except Exn β} {value : β} :
    Decoded.ofExcept result = .accepted value ↔ result = .ok value := by
  cases result with
  | error error => simp [Decoded.ofExcept]
  | ok read => simp [Decoded.ofExcept]

/-- The optional readers of the generic decoder give a value exactly when the field is there, passes
its check and is converted. -/
theorem optional_read_iff {β : Type} {found : Option Json} {check : Json → Bool}
    {get : Json → Except Exn β} {value : β} :
    (match found with
      | none => Decoded.accepted none
      | some field =>
        if check field then (Decoded.ofExcept (get field)).bind fun read => .accepted (some read)
        else .rejected) = .accepted (some value) ↔
      ∃ field, found = some field ∧ check field = true ∧ get field = .ok value := by
  cases found with
  | none => simp
  | some field =>
    dsimp only
    split_ifs with checked
    · cases read : get field with
      | error error => simp [Decoded.ofExcept, Decoded.bind, read]
      | ok other => simp [Decoded.ofExcept, Decoded.bind, checked, read]
    · simp [checked]

theorem readMethod_eq_some_iff {method : Bytes} :
    JsonMessage.readMethod json = .accepted (some method) ↔
      ∃ field, json.find (ascii "method") = some field ∧ field.isString = true ∧
        field.getString = .ok method :=
  optional_read_iff

theorem readError_eq_some_iff {error : ProtocolError} :
    JsonMessage.readError json = .accepted (some error) ↔
      ∃ field, json.find (ascii "error") = some field ∧ field.isObject = true ∧
        ProtocolError.fromJson field = .ok error :=
  optional_read_iff

theorem requestFromJson_eq_accepted_iff (request : RequestMessage) :
    RequestMessage.fromJson json = .accepted request ↔
      json.isObject = true ∧ JsonMessage.readMethod json = .accepted (some request.method) ∧
      JsonMessage.readId json = .accepted request.id ∧
      (json.find (ascii "params")).getD Json.emptyObject = request.params := by
  unfold RequestMessage.fromJson
  simp only [Decoded.bind_eq_accepted, Decoded.require_eq_accepted, Decoded.pure_eq_accepted,
    requiredField_eq_accepted, ofExcept_eq_accepted, readMethod_eq_some_iff]
  constructor
  · rintro ⟨_, object, field, ⟨found, string⟩, method, read, id, readId, rfl⟩
    exact ⟨object, ⟨field, found, string, read⟩, readId, rfl⟩
  · rintro ⟨object, ⟨field, found, string, read⟩, readId, params⟩
    exact ⟨(), object, field, ⟨found, string⟩, request.method, read, request.id, readId,
      RequestMessage.ext rfl rfl params⟩

theorem responseFromJson_eq_accepted_iff (response : ResponseMessage) :
    ResponseMessage.fromJson json = .accepted response ↔
      json.isObject = true ∧ json.find (ascii "result") = some response.result ∧
      JsonMessage.readId json = .accepted response.id := by
  unfold ResponseMessage.fromJson
  simp only [Decoded.bind_eq_accepted, Decoded.require_eq_accepted, Decoded.pure_eq_accepted,
    requiredField_eq_accepted]
  constructor
  · rintro ⟨_, object, result, ⟨found, -⟩, id, readId, rfl⟩
    exact ⟨object, found, readId⟩
  · rintro ⟨object, found, readId⟩
    exact ⟨(), object, response.result, ⟨found, trivial⟩, response.id, readId, rfl⟩

theorem errorResponseFromJson_eq_accepted_iff (response : ErrorResponseMessage) :
    ErrorResponseMessage.fromJson json = .accepted response ↔
      json.isObject = true ∧ JsonMessage.readError json = .accepted (some response.error) ∧
      JsonMessage.readId json = .accepted response.id := by
  unfold ErrorResponseMessage.fromJson
  simp only [Decoded.bind_eq_accepted, Decoded.require_eq_accepted, Decoded.pure_eq_accepted,
    requiredField_eq_accepted, ofExcept_eq_accepted, readError_eq_some_iff]
  constructor
  · rintro ⟨_, object, field, ⟨found, shape⟩, error, read, id, readId, rfl⟩
    exact ⟨object, ⟨field, found, shape, read⟩, readId⟩
  · rintro ⟨object, ⟨field, found, shape, read⟩, readId⟩
    exact ⟨(), object, field, ⟨found, shape⟩, response.error, read, response.id, readId, rfl⟩

end Accepted

/-! ### Agreement -/

section Agreement

/-- A response, as the generic message holds it. -/
def JsonMessage.toResponse (message : JsonMessage) : Option ResponseMessage :=
  message.result.map fun result => ⟨message.id, result⟩

/-- An error response, as the generic message holds it. -/
def JsonMessage.toErrorResponse (message : JsonMessage) : Option ErrorResponseMessage :=
  message.error.map fun error => ⟨message.id, error⟩

/-- Two decoders accept the same values, the first with what a view gives of its message. What a
decoder throws counts as not accepting. -/
structure SameAccepted {β : Type} (generic : Decoded JsonMessage) (view : JsonMessage → Option β)
    (typed : Decoded β) : Prop where
  typed_of_generic : ∀ message, generic = .accepted message →
    ∃ value, view message = some value ∧ typed = .accepted value
  generic_of_typed : ∀ value, typed = .accepted value →
    ∃ message, generic = .accepted message ∧ view message = some value

variable (json : Json)

theorem readMethod_eq_none_iff :
    JsonMessage.readMethod json = .accepted none ↔ json.find (ascii "method") = none := by
  unfold JsonMessage.readMethod
  cases json.find (ascii "method") with
  | none => simp
  | some field =>
    dsimp only
    split_ifs
    · cases field.getString <;> simp [Decoded.ofExcept, Decoded.bind]
    · simp

theorem readError_eq_none_iff :
    JsonMessage.readError json = .accepted none ↔ json.find (ascii "error") = none := by
  unfold JsonMessage.readError
  cases json.find (ascii "error") with
  | none => simp
  | some field =>
    dsimp only
    split_ifs
    · cases ProtocolError.fromJson field <;> simp [Decoded.ofExcept, Decoded.bind]
    · simp

/-- The generic decoder gives a request for what the typed one accepts, when neither key of a
response is there. -/
theorem generic_of_request {request : RequestMessage}
    (accepted : RequestMessage.fromJson json = .accepted request)
    (noResult : json.find (ascii "result") = none) (noError : json.find (ascii "error") = none) :
    JsonMessage.fromJson json = .accepted {
      id := request.id
      method := some request.method
      params := json.find (ascii "params") } := by
  obtain ⟨object, method, id, -⟩ := (requestFromJson_eq_accepted_iff json request).mp accepted
  exact (JsonMessage.fromJson_eq_accepted_iff json _).mpr
    ⟨object, id, method, (readError_eq_none_iff json).mpr noError, rfl, noResult, rfl⟩

/-- What the generic decoder accepts as a request has neither key of a response, and the request
the session builds of it is the one the typed decoder accepts. -/
theorem request_of_generic {message : JsonMessage}
    (accepted : JsonMessage.fromJson json = .accepted message)
    (request : message.isRequest = true) :
    RequestMessage.fromJson json = .accepted message.toRequest ∧
      json.find (ascii "result") = none ∧ json.find (ascii "error") = none := by
  obtain ⟨object, id, method, error, params, result, shaped⟩ :=
    (JsonMessage.fromJson_eq_accepted_iff json message).mp accepted
  have notResponse : message.isResponse = false := by
    rw [JsonMessage.WellShaped, request] at shaped
    simpa using shaped.symm
  obtain ⟨text, holds⟩ := Option.isSome_iff_exists.mp request
  rw [JsonMessage.isResponse, Bool.or_eq_false_iff, Option.isSome_eq_false_iff,
    Option.isSome_eq_false_iff, Option.isNone_iff_eq_none, Option.isNone_iff_eq_none] at notResponse
  refine ⟨(requestFromJson_eq_accepted_iff json _).mpr ⟨object, ?_, id, ?_⟩, ?_, ?_⟩
  · rw [method, JsonMessage.toRequest, holds]
    rfl
  · rw [params]
    rfl
  · rw [result, notResponse.1]
  · rw [← readError_eq_none_iff, error, notResponse.2]

theorem contains_eq_false_iff (key : Bytes) : json.contains key = false ↔ json.find key = none := by
  rw [Json.contains, Option.isSome_eq_false_iff, Option.isNone_iff_eq_none]

/-- Without `method` and `error`, the generic decoder is the one for responses. -/
theorem sameAccepted_response (noMethod : json.find (ascii "method") = none)
    (noError : json.find (ascii "error") = none) :
    SameAccepted (JsonMessage.fromJson json) JsonMessage.toResponse
      (ResponseMessage.fromJson json) where
  typed_of_generic := by
    intro message accepted
    obtain ⟨object, id, method, error, -, result, shaped⟩ :=
      (JsonMessage.fromJson_eq_accepted_iff json message).mp accepted
    rw [(readMethod_eq_none_iff json).mpr noMethod] at method
    rw [(readError_eq_none_iff json).mpr noError] at error
    have response : message.isResponse = true := by
      rw [JsonMessage.WellShaped, JsonMessage.isRequest, ← Decoded.accepted.inj method] at shaped
      simpa using shaped.symm
    rw [JsonMessage.isResponse, ← Decoded.accepted.inj error, Option.isSome_none,
      Bool.or_false] at response
    obtain ⟨value, holds⟩ := Option.isSome_iff_exists.mp response
    refine ⟨⟨message.id, value⟩, ?_, ?_⟩
    · rw [JsonMessage.toResponse, holds]
      rfl
    · exact (responseFromJson_eq_accepted_iff json _).mpr ⟨object, result.trans holds, id⟩
  generic_of_typed := by
    intro response accepted
    obtain ⟨object, result, id⟩ := (responseFromJson_eq_accepted_iff json response).mp accepted
    refine ⟨{
      id := response.id
      params := json.find (ascii "params")
      result := some response.result }, ?_, rfl⟩
    exact (JsonMessage.fromJson_eq_accepted_iff json _).mpr
      ⟨object, id, (readMethod_eq_none_iff json).mpr noMethod,
        (readError_eq_none_iff json).mpr noError, rfl, result, rfl⟩

/-- Without `method` and `result`, the generic decoder is the one for error responses. -/
theorem sameAccepted_errorResponse (noMethod : json.find (ascii "method") = none)
    (noResult : json.find (ascii "result") = none) :
    SameAccepted (JsonMessage.fromJson json) JsonMessage.toErrorResponse
      (ErrorResponseMessage.fromJson json) where
  typed_of_generic := by
    intro message accepted
    obtain ⟨object, id, method, error, -, result, shaped⟩ :=
      (JsonMessage.fromJson_eq_accepted_iff json message).mp accepted
    rw [(readMethod_eq_none_iff json).mpr noMethod] at method
    have response : message.isResponse = true := by
      rw [JsonMessage.WellShaped, JsonMessage.isRequest, ← Decoded.accepted.inj method] at shaped
      simpa using shaped.symm
    rw [JsonMessage.isResponse, ← result, noResult, Option.isSome_none, Bool.false_or] at response
    obtain ⟨value, holds⟩ := Option.isSome_iff_exists.mp response
    refine ⟨⟨message.id, value⟩, ?_, ?_⟩
    · rw [JsonMessage.toErrorResponse, holds]
      rfl
    · refine (errorResponseFromJson_eq_accepted_iff json _).mpr ⟨object, ?_, id⟩
      rw [error, holds]
  generic_of_typed := by
    intro response accepted
    obtain ⟨object, error, id⟩ := (errorResponseFromJson_eq_accepted_iff json response).mp accepted
    refine ⟨{
      id := response.id
      params := json.find (ascii "params")
      error := some response.error }, ?_, rfl⟩
    exact (JsonMessage.fromJson_eq_accepted_iff json _).mpr
      ⟨object, id, (readMethod_eq_none_iff json).mpr noMethod, error, rfl, noResult, rfl⟩

/-- **The generic and the typed decoders agree**, on every JSON value. A request for the one is a
request for the other without `result` and `error`, and the session builds the same request of it;
without `method` and one of the other two keys, the generic decoder and the one for responses or for
error responses accept the same values, with the same fields. -/
theorem decoders_agree :
    ((∃ message, JsonMessage.fromJson json = .accepted message ∧ message.isRequest = true) ↔
      (∃ request, RequestMessage.fromJson json = .accepted request) ∧
        json.contains (ascii "result") = false ∧ json.contains (ascii "error") = false) ∧
    (∀ message, JsonMessage.fromJson json = .accepted message → message.isRequest = true →
      RequestMessage.fromJson json = .accepted message.toRequest) ∧
    (json.contains (ascii "method") = false → json.contains (ascii "error") = false →
      SameAccepted (JsonMessage.fromJson json) JsonMessage.toResponse
        (ResponseMessage.fromJson json)) ∧
    (json.contains (ascii "method") = false → json.contains (ascii "result") = false →
      SameAccepted (JsonMessage.fromJson json) JsonMessage.toErrorResponse
        (ErrorResponseMessage.fromJson json)) := by
  simp only [contains_eq_false_iff]
  refine ⟨⟨?_, ?_⟩, ?_, sameAccepted_response json, sameAccepted_errorResponse json⟩
  · rintro ⟨message, accepted, request⟩
    obtain ⟨typed, absent⟩ := request_of_generic json accepted request
    exact ⟨⟨message.toRequest, typed⟩, absent⟩
  · rintro ⟨⟨request, typed⟩, noResult, noError⟩
    exact ⟨_, generic_of_request json typed noResult noError, rfl⟩
  · intro message accepted request
    exact (request_of_generic json accepted request).1

end Agreement

/-- A request with an id, a response with a null result, and an error response whose error is
empty. -/
theorem decoders_agree_three :
    RequestMessage.fromJson ((Json.emptyObject.set (ascii "id") (.ofInt64 7)).set (ascii "method")
        (.ofString (ascii "ping"))) = .accepted ⟨some 7, ascii "ping", Json.emptyObject⟩ ∧
    SameAccepted (JsonMessage.fromJson (Json.emptyObject.set (ascii "result") Json.null))
      JsonMessage.toResponse
      (ResponseMessage.fromJson (Json.emptyObject.set (ascii "result") Json.null)) ∧
    SameAccepted (JsonMessage.fromJson (Json.emptyObject.set (ascii "error") Json.emptyObject))
      JsonMessage.toErrorResponse
      (ErrorResponseMessage.fromJson (Json.emptyObject.set (ascii "error") Json.emptyObject)) :=
  ⟨(decoders_agree _).2.1 { id := some 7, method := some (ascii "ping") } rfl rfl,
    (decoders_agree _).2.2.1 rfl rfl, (decoders_agree _).2.2.2 rfl rfl⟩

end DemoDaemon.Ipc
