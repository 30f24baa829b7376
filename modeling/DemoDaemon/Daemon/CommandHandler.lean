/-
**The daemon's command handler** (`main.cpp`), over any registry of commands.

A command works on the daemon's shared state and either returns a `CommandResult` or throws. The
handler never throws: an unknown method, a failed command and an exception all become a response,
with the code and the text inside its *result*.
-/

import DemoDaemon.Ipc.OnMessage

namespace DemoDaemon.Daemon

open Foundation DemoDaemon.Ipc

structure CommandResult where
  success : Bool
  errorCode : Int32
  message : Bytes
  data : Json

/-- `ICommand`, by its `execute`: on the shared state behind the context, it returns or throws. -/
structure Command (χ : Type) where
  execute : χ → Json → Except Exn CommandResult × χ

/-- `CommandRegistry`: the commands by name. -/
structure CommandRegistry (χ : Type) where
  commands : List (Bytes × Command χ)

def CommandRegistry.getCommand {χ : Type} (registry : CommandRegistry χ) (name : Bytes) :
    Option (Command χ) :=
  registry.commands.lookup name

/-- `{{"code", code}, {"message", message}}`. -/
def errorData (code : Int32) (message : Bytes) : Json :=
  (Json.emptyObject.set (ascii "code") (Json.ofInt32 code)).set (ascii "message")
    (Json.ofString message)

/-- The lambda `commandHandler` of `main`. -/
def commandHandler {χ : Type} (registry : CommandRegistry χ) : CommandHandler χ :=
  fun state request =>
    match registry.getCommand request.method with
    | none =>
      (.ok ⟨request.id, errorData (-32601) (ascii "Method not found: " ++ request.method)⟩, state)
    | some command =>
      match command.execute state request.params with
      | (.error error, state) =>
        (.ok ⟨request.id, errorData (-32603) (ascii "Internal error: " ++ error.what)⟩, state)
      | (.ok result, state) =>
        if !result.success then
          (.ok ⟨request.id, errorData result.errorCode result.message⟩, state)
        else (.ok ⟨request.id, result.data⟩, state)

/-- The error data is UTF-8 exactly when its text is. -/
theorem validUtf8_errorData (code : Int32) (message : Bytes) :
    (errorData code message).validUtf8 = validUtf8 message := by
  have object : (errorData code message).isObject = true := rfl
  rw [Json.validUtf8_of_isObject object, errorData,
    Json.fieldsUtf8_set (by decide) (by
      rw [Json.find_set_other _ (by decide), Json.find_emptyObject]),
    Json.fieldsUtf8_set (by decide) (Json.find_emptyObject _)]
  show (validUtf8 message && (true && true)) = validUtf8 message
  simp

end DemoDaemon.Daemon
