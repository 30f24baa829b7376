/-
**The id of an answer** (`json_protocol.cpp`, `session_manager.cpp`, `unix_socket_server.cpp`).

An integer of a JSON value lies in `[-2^63, 2^64)`. The id of a request is read by
`get<int64_t>()`, which wraps the upper half of that range, and written back as it was read.

* `Echoes`: the value is rejected as a request, or every answer to it carries its id.
* `readId_of_integer`: what the decoder makes of an integer id.
* **`id_echoed_iff`**: the id is echoed if and only if it is below `2^63` or the value is not a
  request for another reason.
-/

import DemoDaemon.Json.Text
import DemoDaemon.Ipc.OnMessage
import DemoDaemon.Ipc.TypedMessages

namespace DemoDaemon.Ipc

open Foundation

/-- The integer of a `number_integer` or a `number_unsigned`. -/
def intValue (json : Json) : Option Int :=
  match json.raw with
  | .integer value => some value
  | _ => none

/-- The integer under the key `id`. -/
def idValue (json : Json) : Option Int := (json.find (ascii "id")).bind intValue

/-- Whatever the command handler makes of the request, if it is one, the answer to it carries the
integer of its id. -/
def Echoes (lib : Nlohmann) (json : Json) : Prop :=
  ∀ message, JsonMessage.fromJson json = .accepted message → message.isRequest = true →
    ∀ outcome, idValue (answer lib message.toRequest outcome).toJson = idValue json

/-- A value with the keys of a request: a text for the method, and no result or error. -/
def RequestKeys (json : Json) : Prop :=
  (∃ method, json.find (ascii "method") = some method ∧ method.isString = true) ∧
    json.contains (ascii "result") = false ∧ json.contains (ascii "error") = false

theorem intValue_range {json : Json} {value : Int} (integer : intValue json = some value) :
    -2 ^ 63 ≤ value ∧ value < 2 ^ 64 := by
  have canonical := json.canonical
  unfold intValue at integer
  cases shape : json.raw with
  | integer held =>
    rw [shape] at integer canonical
    cases integer
    have range : (decide (-2 ^ 63 ≤ value) && decide (value < 2 ^ 64)) = true := canonical
    rw [Bool.and_eq_true, decide_eq_true_eq, decide_eq_true_eq] at range
    exact range
  | _ =>
    rw [shape] at integer
    cases integer

/-- The decoder wraps an integer id. -/
theorem readId_of_integer {json : Json} {value : Int} (integer : idValue json = some value) :
    JsonMessage.readId json = .accepted (some (Int64.ofInt value)) := by
  obtain ⟨field, found, holds⟩ := Option.bind_eq_some_iff.mp integer
  unfold intValue at holds
  cases shape : field.raw with
  | integer held =>
    rw [shape] at holds
    cases holds
    simp only [JsonMessage.readId, found, Json.isNumberInteger, Json.getInt64, shape]
    rfl
  | _ =>
    rw [shape] at holds
    cases holds

/-- A value with an integer id and the keys of a request is accepted. -/
theorem accepted_of_requestKeys {json : Json} {value : Int} (integer : idValue json = some value)
    (keys : RequestKeys json) :
    ∃ message, JsonMessage.fromJson json = .accepted message ∧ message.isRequest = true := by
  obtain ⟨⟨method, found, string⟩, noResult, noError⟩ := keys
  rw [contains_eq_false_iff] at noResult noError
  have text : ∃ text, method.getString = .ok text := by
    unfold Json.isString at string
    unfold Json.getString
    cases shape : method.raw with
    | string text => exact ⟨text, rfl⟩
    | _ =>
      rw [shape] at string
      cases string
  obtain ⟨text, read⟩ := text
  refine ⟨{
    id := some (Int64.ofInt value)
    method := some text
    params := json.find (ascii "params") }, ?_, rfl⟩
  exact (JsonMessage.fromJson_eq_accepted_iff json _).mpr
    ⟨Json.isObject_of_find found, readId_of_integer integer,
      (readMethod_eq_some_iff json).mpr ⟨method, found, string, read⟩,
      (readError_eq_none_iff json).mpr noError, rfl, noResult, rfl⟩

theorem requestKeys_of_accepted {json : Json} {message : JsonMessage}
    (accepted : JsonMessage.fromJson json = .accepted message)
    (request : message.isRequest = true) : RequestKeys json := by
  obtain ⟨typed, noResult, noError⟩ := request_of_generic json accepted request
  obtain ⟨-, method, -, -⟩ := (requestFromJson_eq_accepted_iff json _).mp typed
  obtain ⟨field, found, string, -⟩ := (readMethod_eq_some_iff json).mp method
  exact ⟨⟨field, found, string⟩, (contains_eq_false_iff json _).mpr noResult,
    (contains_eq_false_iff json _).mpr noError⟩

/-- The id of every answer is what the decoder made of the id of the request. -/
theorem idValue_answer (lib : Nlohmann) {json : Json} {message : JsonMessage} {value : Int}
    (integer : idValue json = some value)
    (accepted : JsonMessage.fromJson json = .accepted message)
    (outcome : Except Exn ResponseMessage) :
    idValue (answer lib message.toRequest outcome).toJson = some (Int64.ofInt value).toInt := by
  obtain ⟨-, id, -⟩ := (JsonMessage.fromJson_eq_accepted_iff json message).mp accepted
  rw [readId_of_integer integer] at id
  rw [idValue, JsonMessage.find_id_toJson, answer_id, JsonMessage.toRequest,
    ← Decoded.accepted.inj id]
  rfl

theorem toInt_ofInt_iff {value : Int} (lower : -2 ^ 63 ≤ value) :
    (Int64.ofInt value).toInt = value ↔ value < 2 ^ 63 := by
  constructor
  · intro same
    rw [← same]
    exact (Int64.ofInt value).toInt_lt
  · intro upper
    exact Int64.toInt_ofInt_of_le lower upper

/-- **An id is echoed if and only if it is below `2^63`**, or the value is no request. For every
JSON value whose id is an integer, and whatever the handler answers or throws. -/
theorem id_echoed_iff (lib : Nlohmann) (json : Json) (value : Int)
    (integer : idValue json = some value) :
    Echoes lib json ↔ value < 2 ^ 63 ∨ ¬ RequestKeys json := by
  obtain ⟨field, -, holds⟩ := Option.bind_eq_some_iff.mp integer
  have lower := (intValue_range holds).1
  by_cases keys : RequestKeys json
  · rw [or_iff_left (not_not_intro keys), ← toInt_ofInt_iff lower]
    constructor
    · intro echoes
      obtain ⟨message, accepted, request⟩ := accepted_of_requestKeys integer keys
      have same := echoes message accepted request (.ok ⟨none, Json.null⟩)
      rw [idValue_answer lib integer accepted, integer] at same
      exact Option.some.inj same
    · intro same message accepted _ outcome
      rw [idValue_answer lib integer accepted, integer, same]
  · refine iff_of_true ?_ (.inr keys)
    intro message accepted request
    exact absurd (requestKeys_of_accepted accepted request) keys

/-- The largest id that is echoed. -/
theorem id_echoed_largest :
    idValue ((Json.emptyObject.set (ascii "id") (.ofUInt64 9223372036854775807)).set
      (ascii "method") (.ofString (ascii "ping"))) = some 9223372036854775807 ∧
    Echoes compact ((Json.emptyObject.set (ascii "id") (.ofUInt64 9223372036854775807)).set
      (ascii "method") (.ofString (ascii "ping"))) :=
  ⟨rfl, (id_echoed_iff compact _ 9223372036854775807 rfl).mpr (.inl (by decide))⟩

/-- The next one comes back as `-2^63`. -/
theorem id_not_echoed :
    ¬ ∀ (lib : Nlohmann) (json : Json) (value : Int), idValue json = some value →
      Echoes lib json := by
  intro all
  have echoed := all compact ((Json.emptyObject.set (ascii "id")
      (.ofUInt64 9223372036854775808)).set (ascii "method") (.ofString (ascii "ping")))
    9223372036854775808 rfl
    { id := some (-9223372036854775808), method := some (ascii "ping") } rfl rfl (.error ⟨[]⟩)
  have negative : some (-9223372036854775808 : Int) = some 9223372036854775808 := echoed
  exact absurd negative (by decide)

end DemoDaemon.Ipc
