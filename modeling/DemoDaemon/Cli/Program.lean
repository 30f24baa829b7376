/-
**The client program** (`main` of `cli/main.cpp`), from its words to its exit code.

What the outside world answers during a run is given: the kernel to the calls of `connect`, the
socket to those of `::send` and `::recv`, and the clock. An exception that nothing catches ends the
process. What `getopt_long` itself prints about an option it does not know is not followed.

* `printUsage`, `clientMain`: as in the source.
* `format_exit_iff`: what the printer returns.
* **`exit_zero_iff`**: for every socket, the exit code is 0 exactly when help was asked for, or every
  step succeeded: the connection, the request of the words, its whole line sent, a line received
  that has a result and no error, and that printed.
-/

import DemoDaemon.Cli.Connection
import DemoDaemon.Cli.Options
import DemoDaemon.Cli.Output
import DemoDaemon.Cli.Transport

namespace DemoDaemon.Cli

open Foundation DemoDaemon.Ipc

/-! ### `main` -/

/-- `printUsage(program)`. -/
def printUsage (program : Bytes) : Print Unit := do
  cout (ascii "Usage: " ++ program ++ ascii " [OPTIONS] COMMAND [ARGS...]\n")
  cout (ascii "\nCLI client for demo_daemon\n")
  cout (ascii "\nOptions:\n")
  cout (ascii "  --socket-path PATH   Path to Unix Domain Socket ")
  cout (ascii "(default: /run/demo_daemon/demo_daemon.sock)\n")
  cout (ascii "  --timeout MS         Timeout in milliseconds (default: 5000)\n")
  cout (ascii "  --raw-json           Output raw JSON response\n")
  cout (ascii "  --help               Show this help message\n")
  cout (ascii "\nCommands:\n")
  cout (ascii "  ping                 Check daemon connectivity\n")
  cout (ascii "  status               Get daemon status\n")
  cout (ascii "  shutdown             Request daemon shutdown\n")
  cout (ascii "  commands list        List available commands\n")
  cout (ascii "  tasks list           List background tasks\n")
  cout (ascii "  tasks add TYPE       Add a background task (TYPE: heartbeat, sleep)\n")
  cout (ascii "  tasks stop ID        Stop a background task by ID\n")
  cout (ascii "  call METHOD PARAMS   Call arbitrary method with JSON params\n")
  cout (ascii "\nExamples:\n")
  cout (ascii "  " ++ program ++ ascii " ping\n")
  cout (ascii "  " ++ program ++ ascii " status\n")
  cout (ascii "  " ++ program ++ ascii " tasks add heartbeat --interval 5\n")
  cout (ascii "  " ++ program ++ ascii " call my_method '\x7b\"key\":\"value\"\x7d'\n")

/-- How the process ends. -/
inductive Exit where
  | code (value : Int32)
  | aborted (reason : Abort)

/-- The end of `main`, from what it returned or threw. -/
def Exit.of : Except Exn Int32 → Exit
  | .ok value => .code value
  | .error error => .aborted (.uncaught error)

/-- What the outside world answers during a run of the client. -/
structure Outside (α : Type) where
  connect : ConnectAnswers
  sends : List SendResult
  turns : List α
  responseTime : Int64

/-- How a run ends, with what was printed and the socket as it is left. -/
structure Ended (ε : Type) where
  exit : Exit
  screen : Screen
  socket : ε

section Main

variable {ε α : Type} (lib : Nlohmann) (dumpIndented : Json → Except Exn Bytes)
  (socket : Socket ε α) (program : Bytes) (screen : Screen)

/-- The client that `main` makes. -/
def CommandLine.client (line : CommandLine) : Impl :=
  .create line.socketPath line.timeoutMs.toInt

/-- What `main` prints for a command that it does not send. Only an unknown command prints the
usage. -/
def printRefusal (options : CliOptions) (text : Bytes) : Print Unit := do
  cerr (text ++ endl)
  if text = ascii "Unknown command: " ++ options.command then printUsage program

def printUnreachable (line : CommandLine) : Print Unit := do
  cerr (ascii "Failed to connect to daemon at: " ++ line.socketPath ++ endl)
  cerr (ascii "Make sure the daemon is running and socket path is correct." ++ endl)

/-- `main`, behind `connect`. -/
def mainConnected (line : CommandLine) (outside : Outside α) (state : ε) : Ended ε :=
  match buildRequest lib line.options with
  | .error reason => ⟨.aborted reason, screen, state⟩
  | .ok (.refused text code) =>
    let printed := (printRefusal program line.options text).on screen
    ⟨.code code, printed.2, state⟩
  | .ok (.request method params) =>
    let answered := sendRequest socket lib 0 method params outside.sends outside.turns state
    let printed := (formatAndPrintResponse lib dumpIndented answered.1 outside.responseTime
      line.options.command line.options.args line.rawJson).on screen
    ⟨.of printed.1, printed.2, answered.2.2⟩

/-- `main(argc, argv)`. -/
def clientMain (environment : Environment) (words : List Bytes) (outside : Outside α) (state : ε) :
    Ended ε :=
  let line := parseOptions environment words
  if line.help = true ∨ line.options.command = [] then
    let printed := (printUsage program).on screen
    ⟨.code (if line.help then 0 else 1), printed.2, state⟩
  else if !(line.client.doConnect outside.connect).1 then
    let printed := (printUnreachable line).on screen
    ⟨.code 1, printed.2, state⟩
  else mainConnected lib dumpIndented socket program screen line outside state

/-! ### What the printer returns -/

/-- A function whose last step returns a value returned or threw. -/
theorem on_bind_pure_eq_ok_iff {action : Print Unit} {value : Int32} :
    ((action >>= fun _ => pure value).on screen).1 = .ok 0
      ↔ (action.on screen).1 = .ok () ∧ value = 0 := by
  cases printed : action.on screen with
  | mk outcome after =>
    cases outcome with
    | error error =>
      rw [on_bind_error screen printed]
      refine iff_of_false ?_ fun both => ?_
      · rintro ⟨⟩
      · cases both.1
    | ok done =>
      rw [on_bind_ok screen printed, on_pure, and_iff_right rfl]
      exact ⟨Except.ok.inj, congrArg Except.ok⟩

/-- What is printed for a success. -/
def printSuccess (data : Json) (responseTime : Int64) (line : CommandLine) : Print Unit :=
  if line.rawJson then
    printIndented dumpIndented (rawResponse ⟨true, none, ascii "OK", data⟩ responseTime)
  else printData lib dumpIndented data responseTime line.options.command line.options.args

/-- **The printer returns 0 exactly for a success that it could print.** -/
theorem format_exit_iff (response : CommandResponse) (responseTime : Int64) (line : CommandLine) :
    ((formatAndPrintResponse lib dumpIndented response responseTime line.options.command
        line.options.args line.rawJson).on screen).1 = .ok 0
      ↔ response.success = true ∧ ((if line.rawJson then
          printIndented dumpIndented (rawResponse response responseTime)
        else printData lib dumpIndented response.data responseTime line.options.command
          line.options.args).on screen).1 = .ok () := by
  have one : ¬ (1 : Int32) = 0 := by decide
  unfold formatAndPrintResponse
  cases line.rawJson with
  | true =>
    cases success : response.success with
    | true =>
      exact (on_bind_pure_eq_ok_iff screen).trans (and_comm.trans (and_congr_left' (by simp)))
    | false =>
      refine iff_of_false (fun zero => one ?_) fun both => Bool.noConfusion both.1
      exact ((on_bind_pure_eq_ok_iff screen).mp zero).2
  | false =>
    cases success : response.success with
    | true =>
      exact (on_bind_pure_eq_ok_iff screen).trans (and_comm.trans (and_congr_left' (by simp)))
    | false =>
      refine iff_of_false (fun zero => one ?_) fun both => Bool.noConfusion both.1
      exact ((on_bind_pure_eq_ok_iff screen).mp zero).2

/-! ### What a success is -/

/-- The line is a response with a result and no error. -/
def ResultLine (line : Bytes) (data : Json) : Prop :=
  ∃ json, lib.parse line = .ok json ∧ json.find (ascii "error") = none ∧
    json.find (ascii "result") = some data

theorem decodeResponse_of_resultLine {line : Bytes} {data : Json}
    (result : ResultLine lib line data) :
    decodeResponse lib line = ⟨true, none, ascii "OK", data⟩ := by
  obtain ⟨json, parsed, noError, found⟩ := result
  simp only [decodeResponse, parsed, readResponse, noError, found]

/-- The whole line of a message was sent, and the line received behind it has a result. -/
def Exchanged (message : Json) (outside : Outside α) (state : ε) (data : Json) : Prop :=
  ∃ text raw, lib.dump message = .ok text ∧
    (sendLoop outside.sends (text ++ [newline])).1 = .ok () ∧
    (recvLoop socket outside.turns [] (socket.send state (text ++ [newline]))).1 = .ok raw ∧
    ResultLine lib (trimmed raw) data

variable {lib socket} in
/-- A message that is exchanged for a result is a success. -/
theorem sendRequest_of_exchanged {requestId : UInt64} {method : Bytes} {params : Json}
    {outside : Outside α} {state : ε} {data : Json}
    (exchanged : Exchanged lib socket (request (requestId + 1) method params) outside state data) :
    (sendRequest socket lib requestId method params outside.sends outside.turns state).1
      = ⟨true, none, ascii "OK", data⟩ := by
  obtain ⟨text, raw, dumped, sent, received, result⟩ := exchanged
  unfold sendRequest sendMessage
  simp only [dumped, sent, sendLoop_ok sent, received]
  exact decodeResponse_of_resultLine lib result

variable {lib socket} in
/-- A success has exchanged its message for a result. -/
theorem exchanged_of_success {requestId : UInt64} {method : Bytes} {params : Json}
    {outside : Outside α} {state : ε}
    (success : (sendRequest socket lib requestId method params outside.sends outside.turns
      state).1.success = true) :
    ∃ data, Exchanged lib socket (request (requestId + 1) method params) outside state data := by
  unfold sendRequest sendMessage at success
  dsimp only at success
  cases dumped : lib.dump (request (requestId + 1) method params) with
  | error error =>
    simp only [dumped] at success
    cases success
  | ok text =>
    simp only [dumped] at success
    cases sent : (sendLoop outside.sends (text ++ [newline])).1 with
    | error error =>
      simp only [sent] at success
      cases success
    | ok done =>
      simp only [sent, sendLoop_ok sent] at success
      cases received : (recvLoop socket outside.turns []
          (socket.send state (text ++ [newline]))).1 with
      | error error =>
        simp only [received] at success
        cases success
      | ok raw =>
        simp only [received] at success
        exact ⟨_, text, raw, dumped, sent, received, decodeResponse_success success⟩

/-- A command of `tasks` that is not sent ends with the exit code 1. -/
theorem refused_tasks_code {options : CliOptions} {text : Bytes} {code : Int32}
    (refused : buildTasksRequest options = .ok (.refused text code)) : code = 1 := by
  obtain ⟨command, args, params⟩ := options
  unfold buildTasksRequest at refused
  cases args with
  | nil =>
    cases refused
    rfl
  | cons subcommand rest =>
    dsimp only at refused
    by_cases list : subcommand = ascii "list"
    · rw [if_pos list] at refused
      cases refused
    · rw [if_neg list] at refused
      cases rest with
      | nil =>
        cases refused
        rfl
      | cons first others =>
        dsimp only at refused
        split_ifs at refused
        · cases parsed : parseTaskArgs (first :: others) with
          | error reason =>
            rw [parsed] at refused
            cases refused
          | ok params =>
            rw [parsed] at refused
            cases refused
        · cases read : unguarded (stoi first) with
          | error reason =>
            rw [read] at refused
            cases refused
          | ok number =>
            rw [read] at refused
            cases refused
        · cases refused
          rfl

/-- A command that is not sent ends with the exit code 1. -/
theorem refused_code {options : CliOptions} {text : Bytes} {code : Int32}
    (refused : buildRequest lib options = .ok (.refused text code)) : code = 1 := by
  unfold buildRequest at refused
  split_ifs at refused with ping status shutdown commands tasks call
  · cases refused
  · cases refused
  · cases refused
  · cases refused
  · exact refused_tasks_code refused
  · split at refused
    · cases parsed : lib.parse _ with
      | error error =>
        rw [parsed] at refused
        cases refused
        rfl
      | ok params =>
        rw [parsed] at refused
        cases refused
    · cases refused
      rfl
  · split at refused <;>
      · cases refused
        rfl

/-! ### The exit code -/

theorem exit_of_eq_zero_iff (outcome : Except Exn Int32) :
    Exit.of outcome = .code 0 ↔ outcome = .ok 0 := by
  cases outcome with
  | error error =>
    refine iff_of_false ?_ ?_
    · rintro ⟨⟩
    · rintro ⟨⟩
  | ok value =>
    exact ⟨fun same => congrArg Except.ok (Exit.code.inj same),
      fun same => congrArg Exit.code (Except.ok.inj same)⟩

/-- Behind `connect`. -/
theorem mainConnected_exit_iff (line : CommandLine) (outside : Outside α) (state : ε) :
    (mainConnected lib dumpIndented socket program screen line outside state).exit = .code 0
      ↔ ∃ method params data, buildRequest lib line.options = .ok (.request method params) ∧
        Exchanged lib socket (request 1 method params) outside state data ∧
        ((printSuccess lib dumpIndented data outside.responseTime line).on screen).1
          = .ok () := by
  have first : (0 : UInt64) + 1 = 1 := by decide
  unfold mainConnected
  cases built : buildRequest lib line.options with
  | error reason =>
    refine iff_of_false ?_ ?_
    · rintro ⟨⟩
    · rintro ⟨method, params, data, ⟨⟩, -⟩
  | ok construction =>
    cases construction with
    | refused text code =>
      refine iff_of_false ?_ ?_
      · rw [refused_code lib built]
        rintro ⟨⟩
      · rintro ⟨method, params, data, ⟨⟩, -⟩
    | request method params =>
      refine (exit_of_eq_zero_iff _).trans ((format_exit_iff lib dumpIndented screen _ _ line).trans
        ⟨?_, ?_⟩)
      · rintro ⟨success, printed⟩
        obtain ⟨data, exchanged⟩ := exchanged_of_success success
        rw [sendRequest_of_exchanged exchanged] at printed
        rw [first] at exchanged
        exact ⟨method, params, data, rfl, exchanged, printed⟩
      · rintro ⟨other, others, data, same, exchanged, printed⟩
        cases same
        rw [← first] at exchanged
        rw [sendRequest_of_exchanged exchanged]
        exact ⟨rfl, printed⟩

/-- Before `connect`. -/
theorem clientMain_exit_iff (environment : Environment) (words : List Bytes) (outside : Outside α)
    (state : ε) :
    let line := parseOptions environment words
    (clientMain lib dumpIndented socket program screen environment words outside state).exit
        = .code 0
      ↔ line.help = true ∨
        line.options.command ≠ [] ∧ (line.client.doConnect outside.connect).1 = true ∧
          (mainConnected lib dumpIndented socket program screen line outside state).exit
            = .code 0 := by
  have one : ¬ Exit.code 1 = .code 0 := by
    rintro ⟨⟩
  unfold clientMain
  generalize parseOptions environment words = line
  dsimp only
  by_cases help : line.help = true
  · have usage : line.help = true ∨ line.options.command = [] := .inl help
    rw [if_pos usage, if_pos help]
    exact iff_of_true rfl (.inl help)
  · refine Iff.trans ?_ (or_iff_right help).symm
    by_cases noCommand : line.options.command = []
    · have usage : line.help = true ∨ line.options.command = [] := .inr noCommand
      rw [if_pos usage, if_neg help]
      exact iff_of_false one fun all => all.1 noCommand
    · have usage : ¬ (line.help = true ∨ line.options.command = []) := not_or.mpr ⟨help, noCommand⟩
      rw [if_neg usage, and_iff_right noCommand]
      cases connected : (line.client.doConnect outside.connect).1 with
      | false => exact iff_of_false one fun all => Bool.noConfusion all.1
      | true => exact (and_iff_right rfl).symm

/-- **The exit code is 0 exactly when help was asked for or a result was printed.** For every
socket, every answer of the outside world and all words: the client connected, the words gave a
request, its whole line was sent, the line received has a result and no error, and nothing was
thrown while it was printed. -/
theorem exit_zero_iff (environment : Environment) (words : List Bytes) (outside : Outside α)
    (state : ε) :
    let line := parseOptions environment words
    (clientMain lib dumpIndented socket program screen environment words outside state).exit
        = .code 0
      ↔ line.help = true ∨
        line.options.command ≠ [] ∧ (line.client.doConnect outside.connect).1 = true ∧
          ∃ method params data, buildRequest lib line.options = .ok (.request method params) ∧
            Exchanged lib socket (request 1 method params) outside state data ∧
            ((printSuccess lib dumpIndented data outside.responseTime line).on screen).1
              = .ok () := by
  refine (clientMain_exit_iff lib dumpIndented socket program screen environment words outside
    state).trans (or_congr_right (and_congr_right fun _ => and_congr_right fun _ => ?_))
  exact mainConnected_exit_iff lib dumpIndented socket program screen _ outside state

end Main

end DemoDaemon.Cli
