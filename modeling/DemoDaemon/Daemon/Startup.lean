/-
**How the daemon starts** (`daemon/main.cpp` up to the main loop, `SignalHandler::initialize`).

What the kernel answers is an argument; the calls that make or close a descriptor are recorded. A
start that fails returns from `main`, so the server and then the signal handler are destroyed.

* `readArguments`, `initializeSignals`, `startDaemon`: as in the source.
* `readArguments_append`, `exists_settings`: every list of words is a list of settings, read one by
  one, and a rest at which the loop ends.
* **`daemon_arguments_iff`**: which words start the daemon, and with which options; which ones end
  it with exit code 0; and that all others end it with 1 and a message.
* **`start_accounted`**: whatever fails, each descriptor has been closed exactly once when the
  process ends; and a daemon that is ready has exactly four.
-/

import DemoDaemon.Daemon.Logger
import DemoDaemon.Daemon.SignalLoop
import DemoDaemon.Ipc.Listener

namespace DemoDaemon.Daemon

open Foundation DemoDaemon.Ipc

/-! ### The command line -/

/-- The two variables of `main`. -/
structure DaemonOptions where
  socketPath : Bytes
  logLevel : LogLevel

def DaemonOptions.default : DaemonOptions := ⟨ascii "/tmp/demo_daemon.sock", .info⟩

/-- The text of a level on the command line. -/
def levelText : LogLevel → Bytes
  | .trace => ascii "trace"
  | .debug => ascii "debug"
  | .info => ascii "info"
  | .warn => ascii "warn"
  | .error => ascii "error"

def readLevel (level : Bytes) : Option LogLevel :=
  if level = ascii "trace" then some .trace
  else if level = ascii "debug" then some .debug
  else if level = ascii "info" then some .info
  else if level = ascii "warn" then some .warn
  else if level = ascii "error" then some .error
  else none

/-- What `printUsage(programName)` prints. -/
def usageText (program : Bytes) : Bytes :=
  ascii "Usage: " ++ program ++ ascii " [options]\n"
    ++ ascii "Options:\n"
    ++ ascii "  --socket-path PATH   Unix socket path (default: /tmp/demo_daemon.sock)\n"
    ++ ascii "  --log-level LEVEL    Log level: trace, debug, info, warn, error (default: info)\n"
    ++ ascii "  --help               Show this help message\n"
    ++ ascii "  --version            Show version information\n"

def versionText : Bytes := ascii "Demo Daemon v0.1.0\n"

/-- What the loop over the arguments comes to: `main` goes on, or returns. -/
inductive Arguments where
  | run (options : DaemonOptions)
  | exit (code : Int32) (cout cerr : Bytes)

/-- The loop over the arguments. An option that needs a value and is the last word is unknown. -/
def readArguments (program : Bytes) (options : DaemonOptions) : List Bytes → Arguments
  | [] => .run options
  | argument :: words =>
    if argument = ascii "--help" then .exit 0 (usageText program) []
    else if argument = ascii "--version" then .exit 0 versionText []
    else
      match words with
      | value :: words =>
        if argument = ascii "--socket-path" then
          readArguments program { options with socketPath := value } words
        else if argument = ascii "--log-level" then
          match readLevel value with
          | some logLevel => readArguments program { options with logLevel } words
          | none => .exit 1 [] (ascii "Unknown log level: " ++ value ++ ascii "\n")
        else .exit 1 (usageText program) (ascii "Unknown option: " ++ argument ++ ascii "\n")
      | [] => .exit 1 (usageText program) (ascii "Unknown option: " ++ argument ++ ascii "\n")

/-! ### Settings -/

/-- What can be set on the command line. -/
inductive Setting where
  | socketPath (path : Bytes)
  | logLevel (level : LogLevel)

def Setting.words : Setting → List Bytes
  | .socketPath path => [ascii "--socket-path", path]
  | .logLevel level => [ascii "--log-level", levelText level]

def Setting.apply (options : DaemonOptions) : Setting → DaemonOptions
  | .socketPath path => { options with socketPath := path }
  | .logLevel level => { options with logLevel := level }

theorem readLevel_levelText (level : LogLevel) : readLevel (levelText level) = some level := by
  cases level <;> decide

theorem readLevel_eq_some {text : Bytes} {level : LogLevel} (read : readLevel text = some level) :
    text = levelText level := by
  unfold readLevel at read
  split_ifs at read with trace debug info warn error
  · cases read
    exact trace
  · cases read
    exact debug
  · cases read
    exact info
  · cases read
    exact warn
  · cases read
    exact error

theorem readArguments_help (program : Bytes) (options : DaemonOptions) (words : List Bytes) :
    readArguments program options (ascii "--help" :: words) = .exit 0 (usageText program) [] := by
  rw [readArguments.eq_def]
  exact if_pos rfl

theorem readArguments_version (program : Bytes) (options : DaemonOptions) (words : List Bytes) :
    readArguments program options (ascii "--version" :: words) = .exit 0 versionText [] := by
  rw [readArguments.eq_def]
  exact (if_neg (by decide)).trans (if_pos rfl)

/-- A word that is no option on its own, with the word behind it. -/
theorem readArguments_pair (program : Bytes) (options : DaemonOptions) {argument : Bytes}
    (help : argument ≠ ascii "--help") (version : argument ≠ ascii "--version") (value : Bytes)
    (words : List Bytes) :
    readArguments program options (argument :: value :: words)
      = if argument = ascii "--socket-path" then
          readArguments program { options with socketPath := value } words
        else if argument = ascii "--log-level" then
          match readLevel value with
          | some logLevel => readArguments program { options with logLevel } words
          | none => .exit 1 [] (ascii "Unknown log level: " ++ value ++ ascii "\n")
        else .exit 1 (usageText program) (ascii "Unknown option: " ++ argument ++ ascii "\n") := by
  rw [readArguments, if_neg help, if_neg version]

/-- A setting is read, and the loop goes on behind it. -/
theorem readArguments_setting (program : Bytes) (options : DaemonOptions) (setting : Setting)
    (words : List Bytes) :
    readArguments program options (setting.words ++ words)
      = readArguments program (setting.apply options) words := by
  cases setting with
  | socketPath path =>
    refine (readArguments_pair program options ?_ ?_ path words).trans (if_pos rfl)
    · decide
    · decide
  | logLevel level =>
    refine (readArguments_pair program options ?_ ?_ (levelText level) words).trans ?_
    · decide
    · decide
    · rw [if_neg (by decide), if_pos rfl, readLevel_levelText]
      rfl

/-- **Settings are read one by one.** -/
theorem readArguments_append (program : Bytes) (options : DaemonOptions) (settings : List Setting)
    (words : List Bytes) :
    readArguments program options (settings.flatMap Setting.words ++ words)
      = readArguments program (settings.foldl Setting.apply options) words := by
  induction settings generalizing options with
  | nil => rfl
  | cons setting settings ih =>
    rw [List.flatMap_cons, List.append_assoc, readArguments_setting, ih]
    rfl

/-- What the loop ends at: nothing is left, or a word that is the start of no setting. -/
inductive Rest (program : Bytes) : List Bytes → (DaemonOptions → Arguments) → Prop
  | nothing : Rest program [] .run
  | help (words : List Bytes) :
      Rest program (ascii "--help" :: words) fun _ => .exit 0 (usageText program) []
  | version (words : List Bytes) :
      Rest program (ascii "--version" :: words) fun _ => .exit 0 versionText []
  | refused {words : List Bytes} (cout text : Bytes) :
      Rest program words fun _ => .exit 1 cout (text ++ ascii "\n")

/-- **Every list of words is a list of settings and a rest**, and the rest decides how the loop
ends. -/
theorem exists_settings (program : Bytes) : ∀ words : List Bytes,
    ∃ (settings : List Setting) (rest : List Bytes) (ending : DaemonOptions → Arguments),
      words = settings.flatMap Setting.words ++ rest ∧ Rest program rest ending ∧
      ∀ options, readArguments program options rest = ending options
  | [] => ⟨[], [], .run, rfl, .nothing, fun _ => rfl⟩
  | [argument] => by
    refine ⟨[], [argument], ?_⟩
    by_cases help : argument = ascii "--help"
    · rw [help]
      exact ⟨_, rfl, .help [], fun options => readArguments_help program options []⟩
    by_cases version : argument = ascii "--version"
    · rw [version]
      exact ⟨_, rfl, .version [], fun options => readArguments_version program options []⟩
    refine ⟨_, rfl, .refused (usageText program) (ascii "Unknown option: " ++ argument),
      fun options => ?_⟩
    rw [readArguments, if_neg help, if_neg version]
  | argument :: value :: words => by
    by_cases help : argument = ascii "--help"
    · rw [help]
      exact ⟨[], _, _, rfl, .help _, fun options => readArguments_help program options _⟩
    by_cases version : argument = ascii "--version"
    · rw [version]
      exact ⟨[], _, _, rfl, .version _, fun options => readArguments_version program options _⟩
    have pair := fun options => readArguments_pair program options help version value words
    obtain ⟨settings, rest, ending, split, ends, same⟩ := exists_settings program words
    by_cases path : argument = ascii "--socket-path"
    · refine ⟨.socketPath value :: settings, rest, ending, ?_, ends, same⟩
      rw [path, split]
      rfl
    by_cases level : argument = ascii "--log-level"
    · cases read : readLevel value with
      | some logLevel =>
        refine ⟨.logLevel logLevel :: settings, rest, ending, ?_, ends, same⟩
        rw [level, split, readLevel_eq_some read]
        rfl
      | none =>
        refine ⟨[], _, _, rfl, .refused [] (ascii "Unknown log level: " ++ value),
          fun options => ?_⟩
        rw [pair, if_neg path, if_pos level, read]
    refine ⟨[], _, _, rfl, .refused (usageText program) (ascii "Unknown option: " ++ argument),
      fun options => ?_⟩
    rw [pair, if_neg path, if_neg level]

/-- The exit code, if `main` returns. -/
def Arguments.code : Arguments → Option Int32
  | .run _ => none
  | .exit code _ _ => some code

/-- **The command line.** For every list of words: the daemon starts exactly when they are a list of
settings, with the options that these give, the last one of a kind counting; it exits with code 0
exactly when `--help` or `--version` stands behind a list of settings, whatever follows; and
otherwise it exits with code 1 and a line on `std::cerr`. -/
theorem daemon_arguments_iff (program : Bytes) (words : List Bytes) :
    (∀ options, readArguments program .default words = .run options
        ↔ ∃ settings : List Setting, words = settings.flatMap Setting.words ∧
          options = settings.foldl Setting.apply .default) ∧
      ((readArguments program .default words).code = some 0
        ↔ ∃ (settings : List Setting) (word : Bytes) (rest : List Bytes),
          words = settings.flatMap Setting.words ++ word :: rest ∧
          (word = ascii "--help" ∨ word = ascii "--version")) ∧
      ((readArguments program .default words).code = none ∨
        (readArguments program .default words).code = some 0 ∨
        ∃ cout text, readArguments program .default words = .exit 1 cout (text ++ ascii "\n")) := by
  obtain ⟨settings, rest, ending, split, ends, same⟩ := exists_settings program words
  have read : readArguments program .default words
      = ending (settings.foldl Setting.apply .default) := by
    rw [split, readArguments_append, same]
  refine ⟨fun options => ⟨fun runs => ?_, ?_⟩, ⟨fun zero => ?_, ?_⟩, ?_⟩
  · rw [read] at runs
    cases ends with
    | nothing =>
      cases runs
      exact ⟨settings, split.trans (List.append_nil _), rfl⟩
    | help | version | refused => cases runs
  · rintro ⟨others, rfl, rfl⟩
    have all := readArguments_append program .default others []
    rw [List.append_nil] at all
    exact all
  · rw [read] at zero
    cases ends with
    | nothing => cases zero
    | help words => exact ⟨settings, _, words, split, .inl rfl⟩
    | version words => exact ⟨settings, _, words, split, .inr rfl⟩
    | refused => cases zero
  · rintro ⟨others, word, words, rfl, rfl | rfl⟩
    · rw [readArguments_append, readArguments_help]
      rfl
    · rw [readArguments_append, readArguments_version]
      rfl
  · rw [read]
    cases ends with
    | nothing => exact .inl rfl
    | help | version => exact .inr (.inl rfl)
    | refused cout text => exact .inr (.inr ⟨cout, text, rfl⟩)

/-! ### The signal handler -/

/-- System calls of `SignalHandler`, as they are made, with their outcome. -/
inductive SignalCall where
  | pipe (result : Option (Int32 × Int32))
  | getFlags (fd : Int32) (done : Bool)
  | setNonblocking (fd : Int32) (done : Bool)
  | sigaction (signal : Signal) (ignored done : Bool)
  | close (fd : Int32)

/-- `SignalHandler`, by its pipe and `initialized_`. `calls` is a record. -/
structure SignalHandler where
  pipeFds : Int32 × Int32
  initialized : Bool
  calls : List SignalCall

/-- The constructor. -/
def SignalHandler.create : SignalHandler := ⟨(-1, -1), false, []⟩

/-- What the kernel answers to the calls of `initialize`. -/
structure SignalAnswers where
  pipe : Option (Int32 × Int32)
  getFlags : Bool
  setFlags : Bool
  sigaction : Signal → Bool

def SignalHandler.log (handler : SignalHandler) (calls : List SignalCall) : SignalHandler :=
  { handler with calls := handler.calls ++ calls }

/-- The registrations, up to the first that fails. Only `SIGPIPE` is ignored. -/
def registerSignals (answers : SignalAnswers) : List Signal → Bool × List SignalCall
  | [] => (true, [])
  | signal :: signals =>
    let call := SignalCall.sigaction signal (decide (signal = .sigpipe)) (answers.sigaction signal)
    if !answers.sigaction signal then (false, [call])
    else
      let rest := registerSignals answers signals
      (rest.1, call :: rest.2)

/-- `initialize()`. A failed call leaves the pipe in its fields. -/
def SignalHandler.initializeSignals (handler : SignalHandler) (answers : SignalAnswers) :
    Bool × SignalHandler :=
  if handler.initialized then (true, handler)
  else
    match answers.pipe with
    | none => (false, handler.log [.pipe none])
    | some pipeFds =>
      let handler := { handler.log [.pipe (some pipeFds)] with pipeFds }
      if !answers.getFlags then (false, handler.log [.getFlags pipeFds.1 false])
      else if !answers.setFlags then
        (false, handler.log [.getFlags pipeFds.1 true, .setNonblocking pipeFds.1 false])
      else
        let registered := registerSignals answers [.sigint, .sigterm, .sighup, .sigpipe]
        let handler := handler.log ([.getFlags pipeFds.1 true, .setNonblocking pipeFds.1 true]
          ++ registered.2)
        (registered.1, { handler with initialized := registered.1 })

/-- `~SignalHandler()`, by the calls it makes. -/
def SignalHandler.destroyed (handler : SignalHandler) : List SignalCall :=
  (if 0 ≤ handler.pipeFds.1 then [.close handler.pipeFds.1] else [])
    ++ if 0 ≤ handler.pipeFds.2 then [.close handler.pipeFds.2] else []

def SignalCall.leases : SignalCall → List (Lease Int32)
  | .pipe (some fds) => [.acquire fds.1, .acquire fds.2]
  | .close fd => [.release fd]
  | _ => []

def signalLeases (calls : List SignalCall) : List (Lease Int32) := calls.flatMap SignalCall.leases

/-! ### `main`, up to its loop -/

structure StartAnswers where
  signals : SignalAnswers
  server : InitializeAnswers

/-- `UnixSocketConfig` with the path of the options. -/
def serverConfig (options : DaemonOptions) : UnixSocketConfig := ⟨options.socketPath, 0o660, 128⟩

/-- How `main` gets on: it has returned, and the process has made and closed some descriptors; or it
is about to start the server. -/
inductive Start where
  | exited (code : Int32) (cout cerr : Bytes) (log : List (Lease Int32))
  | ready (options : DaemonOptions) (handler : SignalHandler) (server : Listener)

/-- `main`, up to its loop. -/
def startDaemon (program : Bytes) (words : List Bytes) (answers : StartAnswers) : Start :=
  match readArguments program .default words with
  | .exit code cout cerr => .exited code cout cerr []
  | .run options =>
    let signals := SignalHandler.create.initializeSignals answers.signals
    if !signals.1 then
      .exited 1 [] [] (signalLeases signals.2.calls ++ signalLeases signals.2.destroyed)
    else
      let server := (Listener.create (serverConfig options)).initializeServer answers.server
      if !server.1 then
        -- the server is destroyed with `main`, the signal handler behind it
        .exited 1 [] [] (signalLeases signals.2.calls ++ listenerLeases server.2.destroyed.calls
          ++ signalLeases signals.2.destroyed)
      else .ready options signals.2 server.2

/-- What the process has made and closed. -/
def Start.log : Start → List (Lease Int32)
  | .exited _ _ _ log => log
  | .ready _ handler server => signalLeases handler.calls ++ listenerLeases server.calls

/-- The descriptors that are open. -/
def Start.opened : Start → List Int32
  | .exited _ _ _ _ => []
  | .ready _ handler server =>
    [handler.pipeFds.1, handler.pipeFds.2, server.serverFd, server.epollFd]

/-! ### Descriptors -/

/-- What the kernel promises: a descriptor is not negative. -/
structure StartAnswers.Answered (answers : StartAnswers) : Prop where
  pipe : ∀ fds, answers.signals.pipe = some fds → 0 ≤ fds.1 ∧ 0 ≤ fds.2
  server : answers.server.Answered

theorem signalLeases_append (before after : List SignalCall) :
    signalLeases (before ++ after) = signalLeases before ++ signalLeases after :=
  List.flatMap_append

theorem signalLeases_registerSignals (answers : SignalAnswers) (signals : List Signal) :
    signalLeases (registerSignals answers signals).2 = [] := by
  induction signals with
  | nil => rfl
  | cons signal signals ih =>
    unfold registerSignals
    dsimp only
    split_ifs
    · rfl
    · exact ih

/-- What `initialize` of a new signal handler leaves: no pipe, or the pipe in its fields. -/
inductive SignalOutcome (handler : SignalHandler) : Bool → Prop
  | noPipe (fields : handler.pipeFds = (-1, -1)) (record : signalLeases handler.calls = []) :
      SignalOutcome handler false
  | piped {result : Bool} (nonneg : 0 ≤ handler.pipeFds.1 ∧ 0 ≤ handler.pipeFds.2)
      (record : signalLeases handler.calls
        = [.acquire handler.pipeFds.1, .acquire handler.pipeFds.2]) :
      SignalOutcome handler result

theorem initializeSignals_outcome {answers : StartAnswers} (answered : answers.Answered) :
    SignalOutcome (SignalHandler.create.initializeSignals answers.signals).2
      (SignalHandler.create.initializeSignals answers.signals).1 := by
  unfold SignalHandler.initializeSignals
  rw [if_neg (by decide)]
  cases given : answers.signals.pipe with
  | none => exact .noPipe rfl rfl
  | some fds =>
    have nonneg := answered.pipe fds given
    dsimp only
    split_ifs
    · exact .piped nonneg rfl
    · exact .piped nonneg rfl
    · refine .piped nonneg ?_
      have registered := signalLeases_registerSignals answers.signals
        [.sigint, .sigterm, .sighup, .sigpipe]
      simp only [SignalHandler.log, signalLeases_append, registered]
      rfl

/-- The variables of the process that hold a descriptor. -/
inductive StartSlot where
  | readEnd
  | writeEnd
  | server
  | epoll
deriving DecidableEq

theorem exists_startSlot {holds : StartSlot → Prop} :
    (∃ slot, holds slot)
      ↔ holds .readEnd ∨ holds .writeEnd ∨ holds .server ∨ holds .epoll := by
  constructor
  · rintro ⟨slot, held⟩
    cases slot with
    | readEnd => exact .inl held
    | writeEnd => exact .inr (.inl held)
    | server => exact .inr (.inr (.inl held))
    | epoll => exact .inr (.inr (.inr held))
  · rintro (held | held | held | held)
    · exact ⟨_, held⟩
    · exact ⟨_, held⟩
    · exact ⟨_, held⟩
    · exact ⟨_, held⟩

/-- Descriptors that are taken and dropped without being overwritten are accounted for. -/
theorem accounted_of_actions {log : List (Lease Int32)} (fresh : Fresh log)
    (actions : List (SlotAction StartSlot Int32))
    (same : (Slots.empty.steps actions).log = log) (careful : Slots.empty.Careful actions)
    {opened : List Int32}
    (held : ∀ fd, fd ∈ opened ↔ (Slots.empty.steps actions).Owned fd) :
    Accounted (fun fd => fd ∈ opened) log := by
  rw [← same] at fresh ⊢
  rw [funext fun fd => propext (held fd)]
  exact ((Slots.tidy_iff Slots.tidy_empty actions fresh).1.mpr careful).accounted

/-- A signal handler closes the pipe that it has. -/
theorem leases_destroyed_handler {handler : SignalHandler}
    (nonneg : 0 ≤ handler.pipeFds.1 ∧ 0 ≤ handler.pipeFds.2) :
    signalLeases handler.destroyed
      = [.release handler.pipeFds.1, .release handler.pipeFds.2] := by
  rw [SignalHandler.destroyed, if_pos nonneg.1, if_pos nonneg.2]
  rfl

/-- A server without descriptors closes none. -/
theorem destroyed_of_unset {listener : Listener} (server : listener.serverFd = -1)
    (epoll : listener.epollFd = -1) : listener.destroyed = listener := by
  have minus : ¬ (0 : Int32) ≤ -1 := by decide
  simp only [Listener.destroyed, server, epoll, minus, if_false]

/-- The signal handler could not be initialized. -/
theorem accounted_signals {handler : SignalHandler} {result : Bool}
    (outcome : SignalOutcome handler result)
    (fresh : Fresh (signalLeases handler.calls ++ signalLeases handler.destroyed)) :
    Accounted (fun fd => fd ∈ [])
      (signalLeases handler.calls ++ signalLeases handler.destroyed) := by
  cases outcome with
  | noPipe fields record =>
    have none : handler.destroyed = [] := by
      rw [SignalHandler.destroyed, fields]
      rfl
    rw [none, record]
    exact accounted_nil fun fd => List.not_mem_nil
  | piped nonneg record =>
    rw [leases_destroyed_handler nonneg, record] at fresh ⊢
    refine accounted_of_actions fresh [.take .readEnd handler.pipeFds.1,
      .take .writeEnd handler.pipeFds.2, .drop .readEnd, .drop .writeEnd] ?_ ?_ ?_
    · simp [Slots.steps, Slots.step, Slots.empty]
    · simp [Slots.careful_cons, Slots.careful_nil, Slots.Overwrites, Slots.step, Slots.empty]
    · simp [Slots.Owned, exists_startSlot, Slots.steps, Slots.step, Slots.empty]

/-- The server could not be initialized. -/
theorem accounted_server {handler : SignalHandler}
    (nonneg : 0 ≤ handler.pipeFds.1 ∧ 0 ≤ handler.pipeFds.2)
    (record : signalLeases handler.calls
      = [.acquire handler.pipeFds.1, .acquire handler.pipeFds.2])
    {config : UnixSocketConfig} {server : Listener} {actions : List (SlotAction ListenerSlot Int32)}
    (outcome : InitializeOutcome (Listener.create config) server false actions)
    (fresh : Fresh (signalLeases handler.calls ++ listenerLeases server.destroyed.calls
      ++ signalLeases handler.destroyed)) :
    Accounted (fun fd => fd ∈ []) (signalLeases handler.calls
      ++ listenerLeases server.destroyed.calls ++ signalLeases handler.destroyed) := by
  have unset : server.serverFd = -1 ∧ server.epollFd = -1 := by
    cases outcome with
    | noSocket serverFd epollFd => exact ⟨serverFd, epollFd⟩
    | notCreated _ serverFd epollFd => exact ⟨serverFd, epollFd⟩
    | noEpoll _ serverFd epollFd => exact ⟨serverFd, epollFd⟩
    | notAdded _ _ serverFd epollFd => exact ⟨serverFd, epollFd⟩
  rw [destroyed_of_unset unset.1 unset.2, leases_destroyed_handler nonneg, record] at fresh ⊢
  cases outcome with
  | noSocket _ _ leases =>
    rw [leases] at fresh ⊢
    refine accounted_of_actions fresh [.take .readEnd handler.pipeFds.1,
      .take .writeEnd handler.pipeFds.2, .drop .readEnd, .drop .writeEnd] ?_ ?_ ?_
    · simp [Slots.steps, Slots.step, Slots.empty, Listener.create, listenerLeases]
    · simp [Slots.careful_cons, Slots.careful_nil, Slots.Overwrites, Slots.step, Slots.empty]
    · simp [Slots.Owned, exists_startSlot, Slots.steps, Slots.step, Slots.empty]
  | notCreated _ _ _ leases | noEpoll _ _ _ leases =>
    rename_i fd _ _ _
    rw [leases] at fresh ⊢
    refine accounted_of_actions fresh [.take .readEnd handler.pipeFds.1,
      .take .writeEnd handler.pipeFds.2, .take .server fd, .drop .server, .drop .readEnd,
      .drop .writeEnd] ?_ ?_ ?_
    · simp [Slots.steps, Slots.step, Slots.empty, Listener.create, listenerLeases]
    · simp [Slots.careful_cons, Slots.careful_nil, Slots.Overwrites, Slots.step, Slots.empty]
    · simp [Slots.Owned, exists_startSlot, Slots.steps, Slots.step, Slots.empty]
  | notAdded _ _ _ _ leases =>
    rename_i fd epollFd _ _ _ _
    rw [leases] at fresh ⊢
    refine accounted_of_actions fresh [.take .readEnd handler.pipeFds.1,
      .take .writeEnd handler.pipeFds.2, .take .server fd, .take .epoll epollFd, .drop .epoll,
      .drop .server, .drop .readEnd, .drop .writeEnd] ?_ ?_ ?_
    · simp [Slots.steps, Slots.step, Slots.empty, Listener.create, listenerLeases]
    · simp [Slots.careful_cons, Slots.careful_nil, Slots.Overwrites, Slots.step, Slots.empty]
    · simp [Slots.Owned, exists_startSlot, Slots.steps, Slots.step, Slots.empty]

/-- The daemon is ready. -/
theorem accounted_ready {handler : SignalHandler}
    (record : signalLeases handler.calls
      = [.acquire handler.pipeFds.1, .acquire handler.pipeFds.2])
    {config : UnixSocketConfig} {server : Listener} {actions : List (SlotAction ListenerSlot Int32)}
    (outcome : InitializeOutcome (Listener.create config) server true actions)
    (fresh : Fresh (signalLeases handler.calls ++ listenerLeases server.calls)) :
    Accounted (fun fd => fd ∈ [handler.pipeFds.1, handler.pipeFds.2, server.serverFd,
        server.epollFd])
      (signalLeases handler.calls ++ listenerLeases server.calls) := by
  cases outcome with
  | ready _ _ serverFd epollFd leases =>
    rw [record, leases, ← serverFd, ← epollFd] at fresh ⊢
    refine accounted_of_actions fresh [.take .readEnd handler.pipeFds.1,
      .take .writeEnd handler.pipeFds.2, .take .server server.serverFd,
      .take .epoll server.epollFd] ?_ ?_ ?_
    · simp [Slots.steps, Slots.step, Slots.empty, Listener.create, listenerLeases]
    · simp [Slots.careful_cons, Slots.careful_nil, Slots.Overwrites, Slots.step, Slots.empty]
    · simp [Slots.Owned, exists_startSlot, Slots.steps, Slots.step, Slots.empty, eq_comm]

/-- **No descriptor is lost on the way.** For all words and every answer of the kernel: when `main`
returns before its loop, each descriptor of the process has been closed exactly once; when it gets
to its loop, the two ends of the pipe, the listening socket and the epoll instance are open, and
nothing else. -/
theorem start_accounted (program : Bytes) (words : List Bytes) {answers : StartAnswers}
    (answered : answers.Answered) (fresh : Fresh (startDaemon program words answers).log) :
    Accounted (fun fd => fd ∈ (startDaemon program words answers).opened)
      (startDaemon program words answers).log := by
  have signals := initializeSignals_outcome answered
  unfold startDaemon at fresh ⊢
  generalize readArguments program .default words = read at fresh ⊢
  cases read with
  | exit code cout cerr => exact accounted_nil fun fd => List.not_mem_nil
  | run options =>
    have server := initializeServer_outcome (Listener.create (serverConfig options))
      answered.server
    dsimp only at fresh ⊢
    generalize SignalHandler.create.initializeSignals answers.signals = signalled
      at signals fresh ⊢
    obtain ⟨done, handler⟩ := signalled
    cases done with
    | false => exact accounted_signals signals fresh
    | true =>
      generalize (Listener.create (serverConfig options)).initializeServer answers.server = tried
        at server fresh ⊢
      generalize initializeActions (Listener.create (serverConfig options)).config answers.server
        = actions at server
      obtain ⟨ready, listener⟩ := tried
      cases signals with
      | piped nonneg record =>
        cases ready with
        | false => exact accounted_server nonneg record server fresh
        | true => exact accounted_ready record server fresh

/-- The listening socket cannot be added to the epoll instance. -/
def notAdded : StartAnswers :=
  ⟨⟨some (3, 4), true, true, fun _ => true⟩, { allDone 5 6 with epollAdd := false }⟩

/-- All four descriptors are closed. -/
theorem start_accounted_not_added :
    (startDaemon (ascii "demo_daemon") [] notAdded).opened = [] ∧
      Accounted (fun fd => fd ∈ (startDaemon (ascii "demo_daemon") [] notAdded).opened)
        (startDaemon (ascii "demo_daemon") [] notAdded).log := by
  have log : (startDaemon (ascii "demo_daemon") [] notAdded).log
      = [] ++ [Lease.acquire 3] ++ [Lease.acquire 4] ++ [Lease.acquire 5] ++ [Lease.acquire 6]
        ++ [Lease.release 6] ++ [Lease.release 5] ++ [Lease.release 3] ++ [Lease.release 4] := by
    decide +kernel
  have answered : notAdded.Answered := by
    have done : (allDone 5 6).Answered := allDone_answered (by decide) (by decide)
    refine ⟨fun fds given => ?_, done.socket, done.epollCreate⟩
    cases given
    decide
  have fresh : Fresh (startDaemon (ascii "demo_daemon") [] notAdded).log := by
    rw [log]
    simp only [fresh_concat_release, fresh_concat_acquire]
    exact ⟨⟨⟨⟨fresh_nil, by decide⟩, by decide⟩, by decide⟩, by decide⟩
  have closed : (startDaemon (ascii "demo_daemon") [] notAdded).opened = [] := by decide +kernel
  exact ⟨closed, start_accounted (ascii "demo_daemon") [] answered fresh⟩

end DemoDaemon.Daemon
