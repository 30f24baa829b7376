/-
**The codec over streams.**

`parseTimes n` calls `tryParse` `n` times, dropping what each call consumed. **`codec_roundTrip`**:
on the serialized form of any list of well-shaped messages, followed by any bytes, it gives back
exactly the list and leaves exactly the trailing bytes; and every message the decoder ever returns
is well-shaped and survives its own encoding.

One message is `parseText_dump` (the decoder on the written text) and `tryParse_serialize` (the
framing around it); the list is an induction that peels one serialized line at a time.
-/

import DemoDaemon.Ipc.Parser
import DemoDaemon.Json.TextLaws

namespace DemoDaemon.Ipc

open Foundation

/-- A message whose JSON form the library writes and reads back: UTF-8 texts, finite numbers. -/
def JsonMessage.Encodable (message : JsonMessage) : Prop :=
  message.toJson.validUtf8 = true ∧ message.toJson.finite = true

/-- `count` calls of `tryParse`, each on what the previous one left. -/
def parseTimes (lib : Nlohmann) (maxMessageSize : Nat) :
    Nat → Bytes → List (Option JsonMessage) × Bytes
  | 0, data => ([], data)
  | count + 1, data =>
    let first := tryParse lib maxMessageSize data
    let rest := parseTimes lib maxMessageSize count (data.drop first.2)
    (first.1 :: rest.1, rest.2)

section RoundTrip

variable {lib : Nlohmann} (documented : lib.Documented)
include documented

/-- A written message is decoded as itself. -/
theorem parseText_dump {message : JsonMessage} (shaped : message.WellShaped)
    (finite : message.toJson.finite = true) {text : Bytes}
    (written : lib.dump message.toJson = .ok text) : parseText lib text = some message := by
  unfold parseText
  rw [documented.parse_dump_finite finite written]
  dsimp only
  rw [JsonMessage.fromJson_toJson shaped]

/-- A written message is a line that trimming leaves alone. -/
theorem trim_dump {message : JsonMessage} (shaped : message.WellShaped) {text : Bytes}
    (written : lib.dump message.toJson = .ok text) : trim text = some text := by
  obtain ⟨opening, closing⟩ :=
    documented.dump_braces _ text (JsonMessage.isObject_toJson shaped) written
  exact trim_eq_self opening closing (by decide) (by decide)

/-- The verdict on a written message is the message. -/
theorem lineVerdict_dump {message : JsonMessage} (shaped : message.WellShaped)
    (finite : message.toJson.finite = true) {text : Bytes}
    (written : lib.dump message.toJson = .ok text) {maxMessageSize : Nat}
    (short : text.length < maxMessageSize) :
    lineVerdict lib maxMessageSize text = some message := by
  rw [lineVerdict_of_lt lib short, trim_dump documented shaped written]
  exact parseText_dump documented shaped finite written

/-- **One serialized message in front of anything.** -/
theorem tryParse_serialize {message : JsonMessage} (shaped : message.WellShaped)
    (finite : message.toJson.finite = true) {text : Bytes}
    (written : lib.dump message.toJson = .ok text) {maxMessageSize : Nat}
    (short : text.length < maxMessageSize) (rest : Bytes) :
    tryParse lib maxMessageSize (text ++ newline :: rest) = (some message, text.length + 1) := by
  rw [tryParse_line lib maxMessageSize (documented.dump_line _ text written) rest,
    lineVerdict_dump documented shaped finite written short]

/-- **A serialized list, read back call by call.** -/
theorem parseTimes_serialize {maxMessageSize : Nat} (messages : List JsonMessage)
    (shaped : ∀ message ∈ messages, message.WellShaped)
    (encodable : ∀ message ∈ messages, message.Encodable)
    (short : ∀ message ∈ messages, ∀ text, lib.dump message.toJson = .ok text →
      text.length < maxMessageSize) (trailing : Bytes) :
    ∃ written, messages.mapM (serialize lib) = .ok written ∧
      parseTimes lib maxMessageSize messages.length (written.flatten ++ trailing)
        = (messages.map some, trailing) := by
  induction messages with
  | nil => exact ⟨[], rfl, rfl⟩
  | cons message messages ih =>
    obtain ⟨rest, restWritten, restParsed⟩ :=
      ih (fun other member => shaped other (List.mem_cons_of_mem _ member))
        (fun other member => encodable other (List.mem_cons_of_mem _ member))
        (fun other member => short other (List.mem_cons_of_mem _ member))
    obtain ⟨utf8, finite⟩ := encodable message List.mem_cons_self
    obtain ⟨text, written⟩ := documented.dump_valid _ utf8
    have line : serialize lib message = .ok (text ++ [newline]) := by rw [serialize, written]; rfl
    have head := tryParse_serialize documented (shaped message List.mem_cons_self) finite written
      (short message List.mem_cons_self text written) (rest.flatten ++ trailing)
    have stream : ((text ++ [newline]) :: rest).flatten ++ trailing
        = text ++ newline :: (rest.flatten ++ trailing) := by
      rw [List.flatten_cons, List.append_assoc, List.append_assoc]
      rfl
    have dropped : (text ++ newline :: (rest.flatten ++ trailing)).drop (text.length + 1)
        = rest.flatten ++ trailing := List.drop_length_add_append 1
    refine ⟨(text ++ [newline]) :: rest, ?_, ?_⟩
    · rw [List.mapM_cons, line, restWritten]
      rfl
    · rw [stream, List.length_cons, parseTimes, head]
      simp only [dropped, restParsed, List.map_cons]

end RoundTrip

/-- **Codec round trip over streams.** Serializing any list of well-shaped messages and calling
`tryParse` once per message gives the list back and leaves the trailing bytes; conversely every
message the decoder returns is well-shaped and is read back from its own encoding. -/
theorem codec_roundTrip (lib : Nlohmann) (documented : lib.Documented) :
    (∀ (maxMessageSize : Nat) (messages : List JsonMessage) (trailing : Bytes),
      (∀ message ∈ messages, message.WellShaped) →
      (∀ message ∈ messages, message.Encodable) →
      (∀ message ∈ messages, ∀ text, lib.dump message.toJson = .ok text →
        text.length < maxMessageSize) →
      ∃ written, messages.mapM (serialize lib) = .ok written ∧
        parseTimes lib maxMessageSize messages.length (written.flatten ++ trailing)
          = (messages.map some, trailing)) ∧
    (∀ (json : Json) (message : JsonMessage), JsonMessage.fromJson json = .accepted message →
      message.WellShaped ∧ JsonMessage.fromJson message.toJson = .accepted message) := by
  refine ⟨fun maxMessageSize messages trailing shaped encodable short => ?_,
    fun json message accepted => ?_⟩
  · exact parseTimes_serialize documented messages shaped encodable short trailing
  · have shaped := JsonMessage.fromJson_wellShaped accepted
    exact ⟨shaped, JsonMessage.fromJson_toJson shaped⟩

/-- A call without parameters and an error response, with an unfinished line behind them. -/
theorem codec_roundTrip_call_and_error :
    ∃ written, [⟨some 1, some (ascii "system.ping"), none, none, none⟩, makeParseError].mapM
        (serialize compact) = .ok written ∧
      parseTimes compact defaultMaxMessageSize 2 (written.flatten ++ ascii "\x7b")
        = ([some ⟨some 1, some (ascii "system.ping"), none, none, none⟩, some makeParseError],
          ascii "\x7b") := by
  refine (codec_roundTrip compact compact_documented).1 defaultMaxMessageSize
    [⟨some 1, some (ascii "system.ping"), none, none, none⟩, makeParseError] (ascii "\x7b")
    (by decide) ?_ ?_
  · rw [List.forall_mem_cons, List.forall_mem_singleton]
    exact ⟨⟨by decide, by decide⟩, by decide, by decide⟩
  · rw [List.forall_mem_cons, List.forall_mem_singleton]
    refine ⟨fun text written => ?_, fun text written => ?_⟩
    · obtain ⟨-, rfl⟩ := compact_dump_eq_ok written
      decide
    · obtain ⟨-, rfl⟩ := compact_dump_eq_ok written
      decide

end DemoDaemon.Ipc
