/-
**The request that `main` of the client builds** from its command and its arguments.

A command that the client does not know, or a subcommand without its argument, ends the program
with a text and the exit code 1.
-/

import DemoDaemon.Cli.Arguments
import DemoDaemon.Json.Library

namespace DemoDaemon.Cli

open Foundation

/-- The options that the construction reads. -/
structure CliOptions where
  command : Bytes
  args : List Bytes
  params : Json

/-- `CliOptions`, as `parseOptions` leaves it for a command and the arguments behind it. -/
def CliOptions.ofCommand (command : Bytes) (args : List Bytes) : CliOptions :=
  ⟨command, args, Json.null⟩

/-- What becomes of a command line. -/
inductive Construction where
  | request (method : Bytes) (params : Json)
  /-- The text on standard error, and the exit code. -/
  | refused (text : Bytes) (code : Int32)

/-- The branch of `tasks`. -/
def buildTasksRequest (opts : CliOptions) : Except Abort Construction :=
  match opts.args with
  | [] => .ok (.refused (ascii "Tasks subcommand required (list, add, stop)") 1)
  | subcommand :: rest =>
    if subcommand = ascii "list" then .ok (.request (ascii "tasks.list") opts.params)
    else
      match rest with
      | first :: _ =>
        if subcommand = ascii "add" then do
          let params ← parseTaskArgs rest
          let params := if params.contains (ascii "type") then params
            else params.set (ascii "type") (Json.ofString first)
          return .request (ascii "tasks.add") params
        else if subcommand = ascii "stop" then do
          let number ← unguarded (stoi first)
          return .request (ascii "tasks.stop")
            (opts.params.set (ascii "task_id") (Json.ofInt32 number))
        else .ok (.refused (ascii "Unknown tasks subcommand: " ++ subcommand) 1)
      | [] => .ok (.refused (ascii "Unknown tasks subcommand: " ++ subcommand) 1)

/-- The construction of the request in `main`. -/
def buildRequest (lib : Nlohmann) (opts : CliOptions) : Except Abort Construction :=
  if opts.command = ascii "ping" then .ok (.request (ascii "ping") opts.params)
  else if opts.command = ascii "status" then .ok (.request (ascii "status") opts.params)
  else if opts.command = ascii "shutdown" then .ok (.request (ascii "shutdown") opts.params)
  else if opts.command = ascii "commands" ∧ opts.args.head? = some (ascii "list") then
    .ok (.request (ascii "commands.list") opts.params)
  else if opts.command = ascii "tasks" then buildTasksRequest opts
  else
    match opts.args with
    | method :: text :: _ =>
      if opts.command = ascii "call" then
        match lib.parse text with
        | .ok params => .ok (.request method params)
        | .error error => .ok (.refused (ascii "Invalid JSON params: " ++ error.what) 1)
      else .ok (.refused (ascii "Unknown command: " ++ opts.command) 1)
    | _ => .ok (.refused (ascii "Unknown command: " ++ opts.command) 1)

section Tasks

variable (lib : Nlohmann)

theorem buildRequest_tasks (args : List Bytes) :
    buildRequest lib (.ofCommand (ascii "tasks") args)
      = buildTasksRequest (.ofCommand (ascii "tasks") args) := by
  have notCommands : ¬ (ascii "tasks" = ascii "commands" ∧ args.head? = some (ascii "list")) :=
    fun both => absurd both.1 (by decide)
  unfold buildRequest CliOptions.ofCommand
  dsimp only
  rw [if_neg (show ascii "tasks" ≠ ascii "ping" by decide),
    if_neg (show ascii "tasks" ≠ ascii "status" by decide),
    if_neg (show ascii "tasks" ≠ ascii "shutdown" by decide), if_neg notCommands, if_pos rfl]

end Tasks

end DemoDaemon.Cli
