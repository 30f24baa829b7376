/-
**A failure end to end**: command handler, `on_message`, the session's output, and the client's
reading of the queued line.

* `clientSees_valid`, `clientSees_invalid`: the client sees a success with the handler's result
  when that result can be written, and otherwise the internal error that `on_message` sends in its
  place.
* **`outcome_reported_iff`**: the client sees what happened if and only if the command succeeded
  with data that can be written and read back, or the failure happened to make the writer throw.
  The handler reports a failure inside a *result*, which the client takes for a success.
-/

import DemoDaemon.Daemon.CommandHandler
import DemoDaemon.Cli.Client

namespace DemoDaemon.Daemon

open Foundation DemoDaemon.Ipc DemoDaemon.Cli

/-! ### What the client sees -/

/-- The line that was added to a session's output, up to its newline. -/
def queuedLine (before after : Session) : Bytes :=
  (after.writeBuffer.pending.drop before.writeBuffer.pending.length).takeWhile (· != newline)

/-- The client's reading of the line that the server queues for a request. -/
def clientSees {χ : Type} (lib : Nlohmann) (registry : CommandRegistry χ) (state : χ)
    (request : RequestMessage) (session : Session) : Option CommandResponse :=
  match onMessage lib (commandHandler registry) state request session with
  | (.ok after, _) => some (decodeResponse lib (queuedLine session after))
  | (.error _, _) => none

/-- What the client should see: a failure with its code, or a success with its data. -/
def Reported {χ : Type} (registry : CommandRegistry χ) (state : χ) (request : RequestMessage)
    (seen : CommandResponse) : Prop :=
  match registry.getCommand request.method with
  | none => seen.success = false ∧ seen.errorCode = some (-32601)
  | some command =>
    match (command.execute state request.params).1 with
    | .error _ => seen.success = false ∧ seen.errorCode = some (-32603)
    | .ok result =>
      if result.success then seen.success = true ∧ seen.data = result.data
      else seen.success = false ∧ seen.errorCode = some result.errorCode

/-- When it does: a success with data that survives the wire; or a failure that should carry the
internal error's code and whose text makes the writer throw. -/
def Carried {χ : Type} (registry : CommandRegistry χ) (state : χ) (request : RequestMessage) :
    Prop :=
  match registry.getCommand request.method with
  | none => False
  | some command =>
    match (command.execute state request.params).1 with
    | .error error => validUtf8 error.what = false
    | .ok result =>
      if result.success then result.data.validUtf8 = true ∧ result.data.finite = true
      else result.errorCode = -32603 ∧ validUtf8 result.message = false

section Seen

variable {χ : Type} {lib : Nlohmann} (documented : lib.Documented) (registry : CommandRegistry χ)
  (state : χ) (request : RequestMessage) (session : Session)
include documented

/-- The client reads the text of the answer. -/
theorem clientSees_eq {text : Bytes}
    (written : lib.dump (answer lib request (commandHandler registry state request).1).toJson
      = .ok text) :
    clientSees lib registry state request session = some (decodeResponse lib text) := by
  obtain ⟨writeBuffer, answered, pending⟩ :=
    onMessage_spec lib (commandHandler registry) state request session written
  have free : newline ∉ text := documented.dump_line _ _ written
  have line : queuedLine session { session with writeBuffer } = text := by
    have visible : ∀ byte ∈ text, (byte != newline) = true := by
      intro byte member
      simp only [bne_iff_ne]
      rintro rfl
      exact free member
    rw [queuedLine, pending, List.drop_left, queuedText, List.append_assoc,
      List.takeWhile_append_of_pos visible]
    simp
  simp only [clientSees, answered, line]

variable {response : ResponseMessage}
  (handled : (commandHandler registry state request).1 = .ok response)
include handled

theorem clientSees_valid (valid : response.result.validUtf8 = true) :
    clientSees lib registry state request session
      = some ⟨true, none, ascii "OK", response.result.nullify⟩ := by
  have utf8 : (ResponseMessage.message { response with id := request.id }).toJson.validUtf8
      = true := by
    rw [validUtf8_response]
    exact valid
  obtain ⟨text, written⟩ := documented.dump_valid _ utf8
  have answered : answer lib request (commandHandler registry state request).1
      = ResponseMessage.message { response with id := request.id } := by
    simp only [handled, answer, written]
  rw [clientSees_eq documented registry state request session (by rw [answered]; exact written),
    decodeResponse_result documented written rfl rfl]

theorem clientSees_invalid (invalid : response.result.validUtf8 = false) :
    ∃ message data, clientSees lib registry state request session
      = some ⟨false, some (-32603), message, data⟩ := by
  have utf8 : (ResponseMessage.message { response with id := request.id }).toJson.validUtf8
      = false := by
    rw [validUtf8_response]
    exact invalid
  obtain ⟨error, failed, -⟩ := documented.dump_invalid _ utf8
  have answered : answer lib request (commandHandler registry state request).1
      = (internalError request error).message := by
    simp only [handled, answer, failed]
  obtain ⟨text, written⟩ := answer_written documented request
    (commandHandler registry state request).1 (by
      intro error threw
      rw [handled] at threw
      cases threw)
  have sees := clientSees_eq documented registry state request session written
  rw [answered] at written
  rw [decodeResponse_error documented written rfl] at sees
  exact ⟨_, _, sees⟩

end Seen

/-! ### Failures are read as successes -/

section Reports

variable {χ : Type} {lib : Nlohmann} (documented : lib.Documented)
include documented

/-- A failure that is reported inside a result is seen as a failure only when it cannot be written,
and then with the code of the internal error. -/
theorem errorData_reported_iff (registry : CommandRegistry χ) (state : χ) (request : RequestMessage)
    (session : Session) {code wanted : Int32} {message : Bytes}
    (handled : (commandHandler registry state request).1
      = .ok ⟨request.id, errorData code message⟩) :
    (∃ seen, clientSees lib registry state request session = some seen ∧ seen.success = false ∧
        seen.errorCode = some wanted)
      ↔ wanted = -32603 ∧ validUtf8 message = false := by
  have valid := validUtf8_errorData code message
  cases utf8 : validUtf8 message with
  | true =>
    rw [utf8] at valid
    rw [clientSees_valid documented registry state request session handled valid]
    constructor
    · rintro ⟨seen, same, failed, -⟩
      cases same
      cases failed
    · rintro ⟨-, impossible⟩
      cases impossible
  | false =>
    rw [utf8] at valid
    obtain ⟨text, data, sees⟩ :=
      clientSees_invalid documented registry state request session handled valid
    rw [sees]
    constructor
    · rintro ⟨seen, same, -, code⟩
      cases same
      exact ⟨(Option.some.inj code).symm, rfl⟩
    · rintro ⟨rfl, -⟩
      exact ⟨_, rfl, rfl, rfl⟩

/-- A success is seen with its data only when the data survives the wire. -/
theorem success_reported_iff (registry : CommandRegistry χ) (state : χ) (request : RequestMessage)
    (session : Session) {data : Json}
    (handled : (commandHandler registry state request).1 = .ok ⟨request.id, data⟩) :
    (∃ seen, clientSees lib registry state request session = some seen ∧ seen.success = true ∧
        seen.data = data)
      ↔ data.validUtf8 = true ∧ data.finite = true := by
  cases valid : data.validUtf8 with
  | true =>
    rw [clientSees_valid documented registry state request session handled valid,
      ← data.nullify_eq_self_iff]
    constructor
    · rintro ⟨seen, same, -, kept⟩
      cases same
      exact ⟨rfl, kept⟩
    · rintro ⟨-, kept⟩
      exact ⟨_, rfl, rfl, kept⟩
  | false =>
    obtain ⟨text, other, sees⟩ :=
      clientSees_invalid documented registry state request session handled valid
    rw [sees]
    constructor
    · rintro ⟨seen, same, succeeded, -⟩
      cases same
      cases succeeded
    · rintro ⟨impossible, -⟩
      cases impossible

end Reports

/-- **The client sees what happened if and only if it survives the wire.** -/
theorem outcome_reported_iff {χ : Type} (lib : Nlohmann) (documented : lib.Documented)
    (registry : CommandRegistry χ) (state : χ) (request : RequestMessage) (session : Session) :
    (∃ seen, clientSees lib registry state request session = some seen ∧
        Reported registry state request seen)
      ↔ Carried registry state request := by
  unfold Reported Carried
  cases registered : registry.getCommand request.method with
  | none =>
    have handled : (commandHandler registry state request).1
        = .ok ⟨request.id, errorData (-32601) (ascii "Method not found: " ++ request.method)⟩ := by
      simp only [commandHandler, registered]
    dsimp only
    rw [errorData_reported_iff documented registry state request session handled]
    simp
  | some command =>
    rcases executed : command.execute state request.params with ⟨error | result, after⟩
    · have handled : (commandHandler registry state request).1
          = .ok ⟨request.id, errorData (-32603) (ascii "Internal error: " ++ error.what)⟩ := by
        simp only [commandHandler, registered, executed]
      have constant : validUtf8 (ascii "Internal error: ") = true := by decide
      simp only [executed]
      rw [errorData_reported_iff documented registry state request session handled,
        validUtf8_append constant]
      simp
    · by_cases success : result.success = true
      · have handled : (commandHandler registry state request).1
            = .ok ⟨request.id, result.data⟩ := by
          simp [commandHandler, registered, executed, success]
        simp only [executed, success, if_true]
        exact success_reported_iff documented registry state request session handled
      · have handled : (commandHandler registry state request).1
            = .ok ⟨request.id, errorData result.errorCode result.message⟩ := by
          simp [commandHandler, registered, executed, success]
        simp only [executed, success, Bool.false_eq_true, if_false]
        exact errorData_reported_iff documented registry state request session handled

/-- A method nobody registered is reported to the client as a success. -/
theorem outcome_not_reported_unknown_method :
    ¬ ∀ (lib : Nlohmann) (registry : CommandRegistry Unit) (request : RequestMessage)
      (session : Session), lib.Documented →
      ∃ seen, clientSees lib registry () request session = some seen ∧
        Reported registry () request seen := by
  intro all
  obtain ⟨seen, sees, reported⟩ := all compact ⟨[]⟩ ⟨some 1, ascii "nope", Json.emptyObject⟩
    (Session.create 7 1) compact_documented
  have handled : (commandHandler (⟨[]⟩ : CommandRegistry Unit) ()
      ⟨some 1, ascii "nope", Json.emptyObject⟩).1
      = .ok ⟨some 1, errorData (-32601) (ascii "Method not found: nope")⟩ := rfl
  rw [clientSees_valid compact_documented _ () _ _ handled (by decide +kernel)] at sees
  cases sees
  exact absurd reported.1 (by decide)

/-- A command that succeeds with no data is reported. -/
theorem outcome_reported_ping :
    ∃ seen, clientSees compact
        ⟨[(ascii "ping", ⟨fun (_ : Unit) _ => (.ok ⟨true, 0, ascii "OK", Json.emptyObject⟩, ())⟩)]⟩ ()
        ⟨some 1, ascii "ping", Json.emptyObject⟩ (Session.create 7 1) = some seen ∧
      Reported
        ⟨[(ascii "ping", ⟨fun (_ : Unit) _ => (.ok ⟨true, 0, ascii "OK", Json.emptyObject⟩, ())⟩)]⟩ ()
        ⟨some 1, ascii "ping", Json.emptyObject⟩ seen :=
  (outcome_reported_iff compact compact_documented _ () _ (Session.create 7 1)).mpr
    ⟨by decide, by decide⟩

end DemoDaemon.Daemon
