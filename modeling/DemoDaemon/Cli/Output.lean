/-
**What the client prints** (`formatAndPrintResponse` of `cli/main.cpp`).

A function that prints appends to the two streams of the process and may throw; what it has written
before stays written (`Print`). `operator<<` of a JSON value writes its compact text, `dump(2)` is
an argument; both throw on a text that is not UTF-8, and what a text of theirs has begun before is
not followed.

* **`format_tasksList`**: under `tasks list` only an array prints more than the heading.
* **`format_tasksAdd`**: under `tasks add` the number under `task_id` is printed, by default -1.
-/

import DemoDaemon.Cli.Client
import DemoDaemon.Json.Text

namespace DemoDaemon.Cli

open Foundation

/-! ### Streams -/

/-- What has been written to `std::cout` and to `std::cerr`. -/
@[ext]
structure Screen where
  out : Bytes
  err : Bytes

/-- A function that writes and may throw. -/
abbrev Print := ExceptT Exn (StateM Screen)

/-- `std::cout << text`. -/
def cout (text : Bytes) : Print Unit :=
  modify fun screen => { screen with out := screen.out ++ text }

/-- `std::cerr << text`. -/
def cerr (text : Bytes) : Print Unit :=
  modify fun screen => { screen with err := screen.err ++ text }

/-- `std::endl`. -/
def endl : Bytes := [newline]

/-- An expression that may throw. -/
def evaluate {α : Type} (result : Except Exn α) : Print α := ExceptT.mk (pure result)

section Run

variable {α β : Type} (screen : Screen)

/-- The outcome of a function on the streams as they are. -/
def Print.on (action : Print α) : Except Exn α × Screen := action.run.run screen

theorem on_cout (text : Bytes) :
    (cout text).on screen = (.ok (), ⟨screen.out ++ text, screen.err⟩) := rfl

theorem on_evaluate (result : Except Exn α) : (evaluate result).on screen = (result, screen) := rfl

theorem on_pure (value : α) : Print.on screen (pure value) = (.ok value, screen) := rfl

/-- What follows a function that returned starts from what it has written. -/
theorem on_bind_ok {action : Print α} {value : α} {after : Screen}
    (returned : action.on screen = (.ok value, after)) (next : α → Print β) :
    (action >>= next).on screen = (next value).on after := by
  unfold Print.on at returned ⊢
  rw [ExceptT.run_bind, StateT.run_bind, returned]
  rfl

/-- What follows a function that threw is not run. -/
theorem on_bind_error {action : Print α} {error : Exn} {after : Screen}
    (threw : action.on screen = (.error error, after)) (next : α → Print β) :
    (action >>= next).on screen = (.error error, after) := by
  unfold Print.on at threw ⊢
  rw [ExceptT.run_bind, StateT.run_bind, threw]
  rfl

end Run

/-! ### The branches of `formatAndPrintResponse` -/

section Format

variable (lib : Nlohmann) (dumpIndented : Json → Except Exn Bytes)

/-- `std::cout << value` of an integer. -/
def coutInteger (value : Int) : Print Unit := cout (RawJson.printInteger value)

/-- `std::cout << data[key]`, between two texts, for a key that is there. -/
def coutField (data : Json) (key before behind : Bytes) : Print Unit :=
  match data.find key with
  | none => pure ()
  | some field => do
    cout before
    let text ← evaluate (lib.dump field)
    cout text
    cout (behind ++ endl)

/-- The branch of `status`. -/
def printStatus (data : Json) : Print Unit := do
  cout (ascii "Daemon Status:" ++ endl)
  coutField lib data (ascii "version") (ascii "  Version: ") []
  coutField lib data (ascii "uptime_seconds") (ascii "  Uptime: ") (ascii "s")
  coutField lib data (ascii "active_clients") (ascii "  Active clients: ") []
  match data.find (ascii "tasks") with
  | none => pure ()
  | some tasks => do
    cout (ascii "  Tasks: ")
    coutInteger tasks.size
    cout endl

/-- One turn of the loop of `commands list`. -/
def printCommand (command : Json) : Print Unit := do
  let name ← evaluate (command.value Json.getString (ascii "name") (ascii "unknown"))
  let description ← evaluate (command.value Json.getString (ascii "description") [])
  cout (ascii "  " ++ name)
  if description ≠ [] then cout (ascii " - " ++ description)
  cout endl

/-- One turn of the loop of `tasks list`. The id is read as an `int`. -/
def printTask (task : Json) : Print Unit := do
  cout (ascii "  ID: ")
  let id ← evaluate (task.value Json.getInt (ascii "id") (-1))
  coutInteger id.toInt
  cout (ascii ", Type: ")
  let type ← evaluate (task.value Json.getString (ascii "type") (ascii "unknown"))
  cout type
  cout (ascii ", State: ")
  let state ← evaluate (task.value Json.getString (ascii "state") (ascii "unknown"))
  cout state
  cout endl

/-- A heading, and a turn for each value of an array. -/
def printEach (heading : Bytes) (turn : Json → Print Unit) (data : Json) : Print Unit := do
  cout (heading ++ endl)
  if data.isArray then data.items.forM turn

/-- The branch of `tasks add`. -/
def printAdded (data : Json) : Print Unit := do
  cout (ascii "Task added. ID: ")
  let id ← evaluate (data.value Json.getInt (ascii "task_id") (-1))
  coutInteger id.toInt
  cout endl

/-- The branch of `tasks`, by its first argument. -/
def printTasks (data : Json) (subcommand : Bytes) : Print Unit :=
  if subcommand = ascii "list" then printEach (ascii "Background tasks:") printTask data
  else if subcommand = ascii "add" then printAdded data
  else if subcommand = ascii "stop" then cout (ascii "Task stopped." ++ endl)
  else pure ()

/-- `std::cout << json.dump(2) << std::endl`. -/
def printIndented (json : Json) : Print Unit := do
  let text ← evaluate (dumpIndented json)
  cout (text ++ endl)

/-- The branches on the command, for a success. -/
def printData (data : Json) (responseTime : Int64) (command : Bytes) (commandArgs : List Bytes) :
    Print Unit :=
  if command = ascii "ping" then do
    cout (ascii "Pong! Response time: ")
    coutInteger responseTime.toInt
    cout (ascii "ms" ++ endl)
  else if command = ascii "status" then printStatus lib data
  else if command = ascii "commands" ∧ commandArgs.head? = some (ascii "list") then
    printEach (ascii "Available commands:") printCommand data
  else if command = ascii "tasks" then
    match commandArgs with
    | subcommand :: _ => printTasks data subcommand
    | [] => printIndented dumpIndented data
  else if command = ascii "shutdown" then cout (ascii "Shutdown request sent." ++ endl)
  -- `call` and everything else
  else printIndented dumpIndented data

/-- The message of a failure, on `std::cerr`. -/
def printFailure (response : CommandResponse) : Print Unit := do
  cerr (ascii "Error: " ++ response.message)
  match response.errorCode with
  | none => pure ()
  | some code => cerr (ascii " (code: " ++ RawJson.printInteger code.toInt ++ ascii ")")
  cerr endl

/-- The whole response as one value, for `--raw-json`. -/
def rawResponse (response : CommandResponse) (responseTime : Int64) : Json :=
  ((((Json.null.set (ascii "success") (Json.ofBool response.success)).setSome (ascii "error_code")
    (response.errorCode.map Json.ofInt32)).set (ascii "message")
    (Json.ofString response.message)).set (ascii "data") response.data).set
    (ascii "response_time_ms") (Json.ofInt64 responseTime)

/-- `formatAndPrintResponse`, to the exit code. -/
def formatAndPrintResponse (response : CommandResponse) (responseTime : Int64) (command : Bytes)
    (commandArgs : List Bytes) (rawJson : Bool) : Print Int32 :=
  if rawJson then do
    printIndented dumpIndented (rawResponse response responseTime)
    return if response.success then 0 else 1
  else if !response.success then do
    printFailure response
    return 1
  else do
    printData lib dumpIndented response.data responseTime command commandArgs
    return if response.success then 0 else 1

end Format

/-! ### What is printed -/

section Printed

variable (lib : Nlohmann) (dumpIndented : Json → Except Exn Bytes) (screen : Screen)

/-- A value that is not an array prints the heading only. -/
theorem printEach_other {data : Json} (other : data.isArray = false) (heading : Bytes)
    (turn : Json → Print Unit) :
    (printEach heading turn data).on screen
      = (.ok (), ⟨screen.out ++ (heading ++ endl), screen.err⟩) := by
  unfold printEach
  rw [on_bind_ok screen (on_cout screen _), other]
  exact on_pure _ ()

/-- **A task whose id is a text makes the printer throw**, behind the label of the id. -/
theorem printTask_string {task : Json} {id : Bytes}
    (found : task.find (ascii "id") = some (Json.ofString id)) :
    (printTask task).on screen
      = (.error ((Json.ofString id).typeError302 "number"),
        ⟨screen.out ++ ascii "  ID: ", screen.err⟩) := by
  unfold printTask
  rw [on_bind_ok screen (on_cout screen _)]
  refine on_bind_error _ ?_ _
  rw [on_evaluate, Json.value_of_find found]
  rfl

/-- **Without a `task_id` the default is printed.** -/
theorem printAdded_absent {data : Json} (object : data.isObject = true)
    (absent : data.find (ascii "task_id") = none) :
    (printAdded data).on screen
      = (.ok (), ⟨screen.out ++ (ascii "Task added. ID: " ++ ascii "-1" ++ endl), screen.err⟩) := by
  have read : (evaluate (data.value Json.getInt (ascii "task_id") (-1))).on
      ⟨screen.out ++ ascii "Task added. ID: ", screen.err⟩
      = (.ok (-1), ⟨screen.out ++ ascii "Task added. ID: ", screen.err⟩) := by
    rw [on_evaluate, Json.value_of_absent object absent]
  have number : RawJson.printInteger (-1 : Int32).toInt = ascii "-1" := by decide
  unfold printAdded
  rw [on_bind_ok screen (on_cout screen _), on_bind_ok _ read, coutInteger, number,
    on_bind_ok _ (on_cout _ _), on_cout, List.append_assoc, List.append_assoc,
    ← List.append_assoc (ascii "Task added. ID: ")]

/-- What a success prints under `tasks`. -/
theorem format_tasks {data : Json} {subcommand message : Bytes} {after : Screen}
    (printed : (printTasks data subcommand).on screen = (.ok (), after)) (responseTime : Int64)
    (rest : List Bytes) :
    (formatAndPrintResponse lib dumpIndented ⟨true, none, message, data⟩ responseTime
      (ascii "tasks") (subcommand :: rest) false).on screen = (.ok 0, after) := by
  have branch : printData lib dumpIndented data responseTime (ascii "tasks") (subcommand :: rest)
      = printTasks data subcommand := by
    have notPing : ascii "tasks" ≠ ascii "ping" := by decide
    have notStatus : ascii "tasks" ≠ ascii "status" := by decide
    have notCommands : ascii "tasks" ≠ ascii "commands" := by decide
    rw [printData, if_neg notPing, if_neg notStatus, if_neg fun both => notCommands both.1,
      if_pos rfl]
  show (printData lib dumpIndented data responseTime (ascii "tasks") (subcommand :: rest)
    >>= fun _ => pure 0).on screen = _
  rw [branch, on_bind_ok screen printed]
  rfl

/-- **`tasks list` prints the heading only**, unless the data is an array. -/
theorem format_tasksList {data : Json} (other : data.isArray = false) (message : Bytes)
    (responseTime : Int64) (rest : List Bytes) :
    (formatAndPrintResponse lib dumpIndented ⟨true, none, message, data⟩ responseTime
      (ascii "tasks") (ascii "list" :: rest) false).on screen
      = (.ok 0, ⟨screen.out ++ (ascii "Background tasks:" ++ endl), screen.err⟩) := by
  have printed : (printTasks data (ascii "list")).on screen
      = (.ok (), ⟨screen.out ++ (ascii "Background tasks:" ++ endl), screen.err⟩) :=
    printEach_other screen other _ _
  exact format_tasks lib dumpIndented screen printed responseTime rest

/-- **`tasks add` prints -1**, unless the data has a `task_id`. -/
theorem format_tasksAdd {data : Json} (object : data.isObject = true)
    (absent : data.find (ascii "task_id") = none) (message : Bytes) (responseTime : Int64)
    (rest : List Bytes) :
    (formatAndPrintResponse lib dumpIndented ⟨true, none, message, data⟩ responseTime
      (ascii "tasks") (ascii "add" :: rest) false).on screen
      = (.ok 0, ⟨screen.out ++ (ascii "Task added. ID: " ++ ascii "-1" ++ endl), screen.err⟩) := by
  have printed : (printTasks data (ascii "add")).on screen
      = (.ok (), ⟨screen.out ++ (ascii "Task added. ID: " ++ ascii "-1" ++ endl), screen.err⟩) :=
    printAdded_absent screen object absent
  exact format_tasks lib dumpIndented screen printed responseTime rest

end Printed

end DemoDaemon.Cli
