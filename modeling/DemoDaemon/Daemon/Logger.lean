/-
**The log** (`core/logger.cpp`, `logger.hpp`, the levels of `types.hpp`).

Every `Logger` has a mutex and a least level of its own, and all of them write to `std::clog`. Any
number of threads call any loggers; `std::clog` takes one character at a time, so a record is put
byte by byte, and `std::endl` puts the last one. A run is any order of the actions of the threads.

* `formatPrefix`, `formatMessage`, `loggingStep`: as in the source. The template `log` tests the
  level twice.
* `Logging.Recorded`: what is written was logged, at a level that the logger took.
* **`records_whole`**: along every run the bytes of one logger are whole records in the order in
  which its mutex was taken.
* **`clog_whole_iff`**: the bytes on `std::clog` are whole records in every run if and only if no two
  loggers are in use.
-/

import DemoDaemon.Foundation.Bytes
import DemoDaemon.Foundation.Sections

namespace DemoDaemon.Daemon

open Foundation

/-! ### Records -/

inductive LogLevel where
  | trace
  | debug
  | info
  | warn
  | error
deriving DecidableEq

def LogLevel.value : LogLevel → Nat
  | .trace => 0
  | .debug => 1
  | .info => 2
  | .warn => 3
  | .error => 4

def logLevelToString : LogLevel → Bytes
  | .trace => ascii "TRACE"
  | .debug => ascii "DEBUG"
  | .info => ascii "INFO"
  | .warn => ascii "WARN"
  | .error => ascii "ERROR"

/-- The system clock: the text of `std::put_time`, and the milliseconds of the second. -/
structure Instant where
  date : Bytes
  milliseconds : Fin 1000

/-- `std::setfill('0') << std::setw(3)`. -/
def threeDigits (number : Fin 1000) : Bytes :=
  [number.val / 100, number.val / 10 % 10, number.val % 10].map fun digit => UInt8.ofNat (48 + digit)

def formatPrefix (now : Instant) (level : LogLevel) : Bytes :=
  ascii "[" ++ now.date ++ ascii "." ++ threeDigits now.milliseconds ++ ascii "] [" ++
    logLevelToString level ++ ascii "] "

/-- The text of the template `log`: the format as it is, and the arguments behind it. -/
def formatMessage (format : Bytes) (args : List Bytes) : Bytes :=
  ascii "[DEMON] " ++ format ++ args.flatMap fun arg => ascii " " ++ arg

/-! ### Threads -/

/-- Where a thread is in a call of `log`. -/
inductive LogPoint (κ : Type) where
  | idle
  /-- Behind the first test of the template. -/
  | formatted (logger : κ) (level : LogLevel) (message : Bytes)
  /-- In front of the lock in `write`. -/
  | waiting (logger : κ) (formattedMessage : Bytes)
  | writing (logger : κ)

/-- The loggers, the threads that call them, and `std::clog`. -/
structure Logging (κ : Type) where
  minLevel : κ → LogLevel
  threads : Nat → LogPoint κ
  clog : Sections κ UInt8

inductive LogAction (κ : Type) where
  | setMinLevel (logger : κ) (level : LogLevel)
  /-- `log(level, message)`. -/
  | log (thread : Nat) (logger : κ) (level : LogLevel) (message : Bytes) (now : Instant)
  /-- `log(level, format, args...)`, up to the call of `log(level, message)`. -/
  | logFormat (thread : Nat) (logger : κ) (level : LogLevel) (format : Bytes) (args : List Bytes)
  /-- The call of `log(level, message)` in it. -/
  | logMessage (thread : Nat) (now : Instant)
  | lock (thread : Nat)
  /-- The next character. -/
  | put (thread : Nat)
  | unlock (thread : Nat)

section Logging

variable {κ : Type}

def Logging.start (levels : κ → LogLevel) : Logging κ := ⟨levels, fun _ => .idle, .start⟩

def Logging.at (logging : Logging κ) (thread : Nat) (point : LogPoint κ) : Logging κ :=
  { logging with threads := Function.update logging.threads thread point }

theorem Logging.at_self (logging : Logging κ) (thread : Nat) (point : LogPoint κ) :
    (logging.at thread point).threads thread = point := Function.update_self _ _ _

theorem Logging.at_other (logging : Logging κ) {thread other : Nat} (elsewhere : other ≠ thread)
    (point : LogPoint κ) : (logging.at thread point).threads other = logging.threads other :=
  Function.update_of_ne elsewhere _ _

/-- The test of `log`. -/
def Logging.takes (logging : Logging κ) (logger : κ) (level : LogLevel) : Bool :=
  decide ((logging.minLevel logger).value ≤ level.value)

theorem Logging.takes_error (logging : Logging κ) (logger : κ) :
    logging.takes logger .error = true := by
  refine decide_eq_true ?_
  cases logging.minLevel logger <;> decide

/-- `log(level, message)`, up to the lock. -/
def Logging.tested (logging : Logging κ) (thread : Nat) (logger : κ) (level : LogLevel)
    (message : Bytes) (now : Instant) : Logging κ :=
  logging.at thread <| if logging.takes logger level then
    .waiting logger (formatPrefix now level ++ message) else .idle

variable [DecidableEq κ]

/-- An action on `std::clog` behind which the thread is at a point. -/
def Logging.writes (logging : Logging κ) (thread : Nat) (point : LogPoint κ)
    (action : SectionAction κ UInt8) : Option (Logging κ) :=
  (logging.clog.step action).map fun clog => { logging.at thread point with clog }

/-- One action. -/
def loggingStep (logging : Logging κ) : LogAction κ → Option (Logging κ)
  | .setMinLevel logger level =>
    some { logging with minLevel := Function.update logging.minLevel logger level }
  | .log thread logger level message now =>
    match logging.threads thread with
    | .idle => some (logging.tested thread logger level message now)
    | _ => none
  | .logFormat thread logger level format args =>
    match logging.threads thread with
    | .idle =>
      some (logging.at thread (if logging.takes logger level then
        .formatted logger level (formatMessage format args) else .idle))
    | _ => none
  | .logMessage thread now =>
    match logging.threads thread with
    | .formatted logger level message => some (logging.tested thread logger level message now)
    | _ => none
  | .lock thread =>
    match logging.threads thread with
    | .waiting logger formattedMessage =>
      logging.writes thread (.writing logger) (.enter logger (formattedMessage ++ [newline]))
    | _ => none
  | .put thread =>
    match logging.threads thread with
    | .writing logger => logging.writes thread (.writing logger) (.put logger)
    | _ => none
  | .unlock thread =>
    match logging.threads thread with
    | .writing logger => logging.writes thread .idle (.leave logger)
    | _ => none

end Logging

/-! ### What is written was logged -/

section Recorded

variable {κ : Type} (levels : κ → LogLevel)

/-- The level is one that the logger has taken, with one of the least levels that it had. -/
def Taken (actions : List (LogAction κ)) (logger : κ) (level : LogLevel) : Prop :=
  ∃ least, (least = levels logger ∨ .setMinLevel logger least ∈ actions) ∧
    least.value ≤ level.value

/-- The text is the one of a call on the logger. -/
def Logged (actions : List (LogAction κ)) (logger : κ) (formattedMessage : Bytes) : Prop :=
  ∃ thread level message now, formattedMessage = formatPrefix now level ++ message ∧
    Taken levels actions logger level ∧
    (.log thread logger level message now ∈ actions ∨
      ∃ format args, message = formatMessage format args ∧
        .logFormat thread logger level format args ∈ actions)

/-- A record of the logger: the text of a call, and the end of its line. -/
def IsRecord (actions : List (LogAction κ)) (logger : κ) (record : Bytes) : Prop :=
  ∃ formattedMessage, record = formattedMessage ++ [newline] ∧
    Logged levels actions logger formattedMessage

variable {levels}

theorem Taken.mono {actions more : List (LogAction κ)} {logger : κ} {level : LogLevel}
    (taken : Taken levels actions logger level) : Taken levels (actions ++ more) logger level := by
  obtain ⟨least, had, below⟩ := taken
  exact ⟨least, had.imp_right (List.mem_append_left _), below⟩

theorem Logged.mono {actions more : List (LogAction κ)} {logger : κ} {formattedMessage : Bytes}
    (logged : Logged levels actions logger formattedMessage) :
    Logged levels (actions ++ more) logger formattedMessage := by
  obtain ⟨thread, level, message, now, text, taken, called⟩ := logged
  refine ⟨thread, level, message, now, text, taken.mono,
    called.imp (List.mem_append_left _) ?_⟩
  rintro ⟨format, args, same, member⟩
  exact ⟨format, args, same, List.mem_append_left _ member⟩

variable (levels) in
/-- What a thread has in hand was logged. -/
def PointRecorded (actions : List (LogAction κ)) (thread : Nat) : LogPoint κ → Prop
  | .idle => True
  | .formatted logger level message => ∃ format args, message = formatMessage format args ∧
      .logFormat thread logger level format args ∈ actions
  | .waiting logger formattedMessage => Logged levels actions logger formattedMessage
  | .writing _ => True

theorem PointRecorded.mono {actions more : List (LogAction κ)} {thread : Nat} {point : LogPoint κ}
    (recorded : PointRecorded levels actions thread point) :
    PointRecorded levels (actions ++ more) thread point := by
  cases point with
  | idle => trivial
  | writing logger => trivial
  | waiting logger formattedMessage => exact Logged.mono recorded
  | formatted logger level message =>
    obtain ⟨format, args, same, member⟩ := recorded
    exact ⟨format, args, same, List.mem_append_left _ member⟩

theorem IsRecord.mono {actions more : List (LogAction κ)} {logger : κ} {record : Bytes}
    (isRecord : IsRecord levels actions logger record) :
    IsRecord levels (actions ++ more) logger record := by
  obtain ⟨formattedMessage, same, logged⟩ := isRecord
  exact ⟨formattedMessage, same, logged.mono⟩

variable [DecidableEq κ]

variable (levels) in
/-- The invariant. -/
structure Logging.Recorded (actions : List (LogAction κ)) (logging : Logging κ) : Prop where
  reached : ∃ sectionActions, run Sections.step .start sectionActions = some logging.clog
  least : ∀ logger, logging.minLevel logger = levels logger ∨
    .setMinLevel logger (logging.minLevel logger) ∈ actions
  points : ∀ thread, PointRecorded levels actions thread (logging.threads thread)
  entered : ∀ part ∈ logging.clog.entered, IsRecord levels actions part.lock part.pieces
  held : ∀ logger, logging.clog.current logger ≠ none →
    ∃ thread, logging.threads thread = .writing logger

theorem recorded_start : (Logging.start levels).Recorded levels [] where
  reached := ⟨[], rfl⟩
  least _ := .inl rfl
  points _ := trivial
  entered _ member := absurd member List.not_mem_nil
  held _ current := absurd rfl current

/-- **Step: outside of `write`** only the point of the thread changes. -/
theorem Logging.Recorded.moves {actions : List (LogAction κ)} {logging : Logging κ}
    (recorded : logging.Recorded levels actions) (action : LogAction κ) {thread : Nat}
    {point : LogPoint κ} (outside : ∀ logger, logging.threads thread ≠ .writing logger)
    (new : PointRecorded levels (actions ++ [action]) thread point) :
    (logging.at thread point).Recorded levels (actions ++ [action]) where
  reached := recorded.reached
  least logger := (recorded.least logger).imp_right (List.mem_append_left _)
  points other := by
    by_cases here : other = thread
    · rw [here, logging.at_self]
      exact new
    · rw [logging.at_other here]
      exact (recorded.points other).mono
  entered part member := (recorded.entered part member).mono
  held logger current := by
    obtain ⟨holder, writing⟩ := recorded.held logger current
    refine ⟨holder, ?_⟩
    have elsewhere : holder ≠ thread := by
      rintro rfl
      exact outside logger writing
    exact (logging.at_other elsewhere point).trans writing

/-- The test of `log` finds a level that the logger has taken. -/
theorem Logging.Recorded.taken {actions : List (LogAction κ)} {logging : Logging κ}
    (recorded : logging.Recorded levels actions) {logger : κ} {level : LogLevel}
    (takes : logging.takes logger level = true) : Taken levels actions logger level :=
  ⟨logging.minLevel logger, recorded.least logger, of_decide_eq_true takes⟩

/-- **Step: `log(level, message)`.** -/
theorem Logging.Recorded.tested {actions : List (LogAction κ)} {logging : Logging κ}
    (recorded : logging.Recorded levels actions) (action : LogAction κ) {thread : Nat}
    (outside : ∀ logger, logging.threads thread ≠ .writing logger) {logger : κ} {level : LogLevel}
    {message : Bytes} (now : Instant)
    (called : action = .log thread logger level message now ∨
      ∃ format args, message = formatMessage format args ∧
        .logFormat thread logger level format args ∈ actions) :
    (logging.tested thread logger level message now).Recorded levels (actions ++ [action]) := by
  refine recorded.moves action outside ?_
  split_ifs with takes
  · refine ⟨thread, level, message, now, rfl, (recorded.taken takes).mono, ?_⟩
    rcases called with rfl | ⟨format, args, same, member⟩
    · exact .inl (List.mem_append_right _ List.mem_cons_self)
    · exact .inr ⟨format, args, same, List.mem_append_left _ member⟩
  · trivial

/-- **Step: in `write`** the thread acts on `std::clog`. -/
theorem Logging.Recorded.writes {actions : List (LogAction κ)} {logging after : Logging κ}
    (recorded : logging.Recorded levels actions) (action : LogAction κ) {thread : Nat}
    {point : LogPoint κ} {sectionAction : SectionAction κ UInt8}
    (wrote : logging.writes thread point sectionAction = some after)
    (safe : PointRecorded levels (actions ++ [action]) thread point)
    (entered : ∀ logger pieces, sectionAction = .enter logger pieces →
      IsRecord levels (actions ++ [action]) logger pieces)
    (holds : ∀ logger, after.clog.current logger ≠ none →
      ∃ holder, after.threads holder = .writing logger) :
    after.Recorded levels (actions ++ [action]) := by
  obtain ⟨clog, stepped, rfl⟩ := Option.map_eq_some_iff.mp wrote
  obtain ⟨sectionActions, reached⟩ := recorded.reached
  refine ⟨⟨sectionActions ++ [sectionAction], (run_concat_iff _ _).mpr ⟨_, reached, stepped⟩⟩,
    fun logger => (recorded.least logger).imp_right (List.mem_append_left _), fun other => ?_,
    fun part member => ?_, holds⟩
  · show PointRecorded levels _ other ((logging.at thread point).threads other)
    by_cases here : other = thread
    · rw [here, logging.at_self]
      exact safe
    · rw [logging.at_other here]
      exact (recorded.points other).mono
  · have old : part ∈ logging.clog.entered → IsRecord levels (actions ++ [action]) part.lock
        part.pieces := fun before => (recorded.entered part before).mono
    cases Sections.move_of_step stepped with
    | enter lock pieces free =>
      rcases List.mem_append.mp member with before | new
      · exact old before
      · cases List.mem_singleton.mp new
        exact entered lock pieces rfl
    | put => exact old member
    | leave => exact old member

/-- While a thread goes on writing, every mutex that is held is held by a thread. -/
theorem Logging.Recorded.holds {actions : List (LogAction κ)} {logging : Logging κ}
    (recorded : logging.Recorded levels actions) {thread : Nat} {logger : κ}
    {clog : Sections κ UInt8}
    (elsewhere : ∀ other, other ≠ logger → clog.current other = logging.clog.current other)
    (outside : ∀ other, other ≠ logger → logging.threads thread ≠ .writing other)
    {other : κ} (current : clog.current other ≠ none) :
    ∃ holder, (logging.at thread (.writing logger)).threads holder = .writing other := by
  by_cases here : other = logger
  · exact ⟨thread, by rw [here, logging.at_self]⟩
  · rw [elsewhere other here] at current
    obtain ⟨holder, writing⟩ := recorded.held other current
    have different : holder ≠ thread := by
      rintro rfl
      exact outside other here writing
    exact ⟨holder, (logging.at_other different _).trans writing⟩

/-- **Step: the mutex is taken.** -/
theorem Logging.Recorded.lock {actions : List (LogAction κ)} {logging after : Logging κ}
    (recorded : logging.Recorded levels actions) {thread : Nat} {logger : κ}
    {formattedMessage : Bytes} (point : logging.threads thread = .waiting logger formattedMessage)
    (wrote : logging.writes thread (.writing logger)
      (.enter logger (formattedMessage ++ [newline])) = some after) :
    after.Recorded levels (actions ++ [.lock thread]) := by
  have known := recorded.points thread
  rw [point] at known
  refine recorded.writes _ wrote trivial ?_ ?_
  · rintro _ _ ⟨⟩
    exact ⟨formattedMessage, rfl, Logged.mono known⟩
  · obtain ⟨clog, entered, rfl⟩ := Option.map_eq_some_iff.mp wrote
    intro other current
    refine recorded.holds ?_ (by simp [point]) current
    cases Sections.move_of_step entered
    intro other different
    exact Function.update_of_ne different _ _

/-- **Step: a byte goes out.** -/
theorem Logging.Recorded.put {actions : List (LogAction κ)} {logging after : Logging κ}
    (recorded : logging.Recorded levels actions) {thread : Nat} {logger : κ}
    (point : logging.threads thread = .writing logger)
    (wrote : logging.writes thread (.writing logger) (.put logger) = some after) :
    after.Recorded levels (actions ++ [.put thread]) := by
  refine recorded.writes _ wrote trivial (by rintro _ _ ⟨⟩) ?_
  obtain ⟨clog, put, rfl⟩ := Option.map_eq_some_iff.mp wrote
  intro other current
  refine recorded.holds ?_ ?_ current
  · cases Sections.move_of_step put
    intro other different
    exact Function.update_of_ne different _ _
  · rintro other different same
    rw [point] at same
    cases same
    exact different rfl

/-- **Step: the mutex is given back.** -/
theorem Logging.Recorded.unlock {actions : List (LogAction κ)} {logging after : Logging κ}
    (recorded : logging.Recorded levels actions) {thread : Nat} {logger : κ}
    (point : logging.threads thread = .writing logger)
    (wrote : logging.writes thread .idle (.leave logger) = some after) :
    after.Recorded levels (actions ++ [.unlock thread]) := by
  refine recorded.writes _ wrote trivial (by rintro _ _ ⟨⟩) ?_
  obtain ⟨clog, left, rfl⟩ := Option.map_eq_some_iff.mp wrote
  intro other current
  cases Sections.move_of_step left
  by_cases here : other = logger
  · exact absurd (by rw [here]; exact Function.update_self _ _ _) current
  · have kept := Function.update_of_ne here none logging.clog.current
    obtain ⟨holder, writing⟩ := recorded.held other (kept ▸ current)
    have different : holder ≠ thread := by
      rintro rfl
      rw [point] at writing
      cases writing
      exact here rfl
    exact ⟨holder, (logging.at_other different _).trans writing⟩

/-- **Step.** -/
theorem Logging.Recorded.step {actions : List (LogAction κ)} {logging after : Logging κ}
    (recorded : logging.Recorded levels actions) {action : LogAction κ}
    (stepped : loggingStep logging action = some after) :
    after.Recorded levels (actions ++ [action]) := by
  cases action with
  | setMinLevel logger level =>
    cases stepped
    refine ⟨recorded.reached, fun other => ?_, fun thread => (recorded.points thread).mono,
      fun part member => (recorded.entered part member).mono, recorded.held⟩
    by_cases here : other = logger
    · refine .inr (List.mem_append_right _ ?_)
      simp [here]
    · simp only [Function.update_of_ne here]
      exact (recorded.least other).imp_right (List.mem_append_left _)
  | log thread logger level message now =>
    unfold loggingStep at stepped
    cases point : logging.threads thread with
    | idle =>
      simp only [point] at stepped
      cases stepped
      exact recorded.tested _ (by simp [point]) now (.inl rfl)
    | formatted | waiting | writing => simp [point] at stepped
  | logFormat thread logger level format args =>
    unfold loggingStep at stepped
    cases point : logging.threads thread with
    | idle =>
      simp only [point] at stepped
      cases stepped
      refine recorded.moves _ (by simp [point]) ?_
      split_ifs
      · exact ⟨format, args, rfl, List.mem_append_right _ List.mem_cons_self⟩
      · trivial
    | formatted | waiting | writing => simp [point] at stepped
  | logMessage thread now =>
    unfold loggingStep at stepped
    cases point : logging.threads thread with
    | formatted logger level message =>
      simp only [point] at stepped
      cases stepped
      have known := recorded.points thread
      rw [point] at known
      exact recorded.tested _ (by simp [point]) now (.inr known)
    | idle | waiting | writing => simp [point] at stepped
  | lock thread =>
    unfold loggingStep at stepped
    cases point : logging.threads thread with
    | waiting logger formattedMessage =>
      simp only [point] at stepped
      exact recorded.lock point stepped
    | idle | formatted | writing => simp [point] at stepped
  | put thread =>
    unfold loggingStep at stepped
    cases point : logging.threads thread with
    | writing logger =>
      simp only [point] at stepped
      exact recorded.put point stepped
    | idle | formatted | waiting => simp [point] at stepped
  | unlock thread =>
    unfold loggingStep at stepped
    cases point : logging.threads thread with
    | writing logger =>
      simp only [point] at stepped
      exact recorded.unlock point stepped
    | idle | formatted | waiting => simp [point] at stepped

/-- **Run.** -/
theorem recorded_of_run {actions : List (LogAction κ)} {logging : Logging κ}
    (ran : run loggingStep (.start levels) actions = some logging) :
    logging.Recorded levels actions := by
  refine run_induction loggingStep _ (motive := fun actions logging =>
    logging.Recorded levels actions) recorded_start ?_ ran
  intro actions action logging after _ recorded stepped
  exact recorded.step stepped

/-! ### Whole records -/

/-- The bytes of a logger on `std::clog`. -/
def Logging.bytesOf (logging : Logging κ) (logger : κ) : Bytes :=
  (Sections.under logger logging.clog.output).map Piece.piece

variable (levels) in
/-- **The records of a logger are whole.** Along every run of any number of threads and loggers, the
bytes that one logger has put on `std::clog` are records of calls on it that it has taken, one after
the other and each of them whole, up to the last one while a thread is writing it. -/
theorem records_whole (actions : List (LogAction κ)) (logging : Logging κ)
    (ran : run loggingStep (.start levels) actions = some logging) (logger : κ) :
    ∃ records : List Bytes, (∀ record ∈ records, IsRecord levels actions logger record) ∧
      logging.bytesOf logger <+: records.flatten ∧
      ((∀ thread, logging.threads thread ≠ .writing logger) →
        logging.bytesOf logger = records.flatten) := by
  have recorded := recorded_of_run ran
  obtain ⟨sectionActions, reached⟩ := recorded.reached
  have serial := (Sections.serial reached logger).whole
  have bytes := congrArg (List.map Piece.piece) serial
  rw [List.map_append, Section.piece_puts] at bytes
  refine ⟨(logging.clog.enteredUnder logger).map Section.pieces, ?_, ⟨_, bytes⟩, fun quiet => ?_⟩
  · intro record member
    obtain ⟨part, entered, rfl⟩ := List.mem_map.mp member
    obtain ⟨inside, same⟩ := List.mem_filter.mp entered
    rw [← of_decide_eq_true same]
    exact recorded.entered part inside
  · have free : logging.clog.current logger = none := by
      by_contra held
      obtain ⟨thread, writing⟩ := recorded.held logger held
      exact quiet thread writing
    rwa [Sections.rest_of_free free, List.map_nil, List.append_nil] at bytes

/-- A record of the global logger that a thread has begun to write. -/
def begunRecord : List (LogAction Unit) :=
  [.log 0 () .info (ascii "up") ⟨ascii "2024-01-01 00:00:00", 7⟩, .lock 0, .put 0, .put 0]

theorem records_whole_begun :
    ∃ logging, run loggingStep (.start fun _ => .info) begunRecord = some logging ∧
      ∃ records : List Bytes,
        (∀ record ∈ records, IsRecord (fun _ => .info) begunRecord () record) ∧
        logging.bytesOf () <+: records.flatten ∧
        ((∀ thread, logging.threads thread ≠ .writing ()) →
          logging.bytesOf () = records.flatten) :=
  ⟨_, rfl, records_whole (fun _ => .info) begunRecord _ rfl ()⟩

/-! ### Several loggers -/

/-- The logger that an action calls. -/
def LogAction.calls : LogAction κ → Option κ
  | .log _ logger _ _ _ => some logger
  | .logFormat _ logger _ _ _ => some logger
  | _ => none

/-- Only some of the loggers are called. -/
def Uses (used : κ → Prop) (actions : List (LogAction κ)) : Prop :=
  ∀ action ∈ actions, ∀ logger, action.calls = some logger → used logger

theorem Logging.Recorded.used {actions : List (LogAction κ)} {logging : Logging κ}
    (recorded : logging.Recorded levels actions) {used : κ → Prop} (uses : Uses used actions)
    {part : Section κ UInt8} (member : part ∈ logging.clog.entered) : used part.lock := by
  obtain ⟨_, -, thread, level, message, now, -, -, called | ⟨format, args, -, called⟩⟩ :=
    recorded.entered part member
  · exact uses _ called part.lock rfl
  · exact uses _ called part.lock rfl

theorem Logging.Recorded.long {actions : List (LogAction κ)} {logging : Logging κ}
    (recorded : logging.Recorded levels actions) {part : Section κ UInt8}
    (member : part ∈ logging.clog.entered) : 2 ≤ part.pieces.length := by
  obtain ⟨_, same, thread, level, message, now, text, -⟩ := recorded.entered part member
  have opens : ascii "[" = [91] := by decide
  rw [same, text, formatPrefix, opens]
  simp only [List.length_append, List.length_cons, List.length_nil]
  omega

/-- Two threads on two loggers, after the first character of each. -/
def mixing (one two : κ) (now : Instant) : List (LogAction κ) :=
  [.log 0 one .error [] now, .log 1 two .error [] now, .lock 0, .lock 1, .put 0, .put 1]

variable (levels) in
theorem run_mixing {one two : κ} (different : one ≠ two) (now : Instant) :
    ∃ logging first second, run loggingStep (.start levels) (mixing one two now) = some logging ∧
      logging.clog.output = [first, second] ∧ first.ticket ≠ second.ticket := by
  obtain ⟨rest, line⟩ : ∃ rest, formatPrefix now .error = 91 :: rest := ⟨_, rfl⟩
  have mixed : (run loggingStep (.start levels) (mixing one two now)).map
      (fun logging => logging.clog.output) = some [⟨one, 0, 91⟩, ⟨two, 1, 91⟩] := by
    simp [run, mixing, loggingStep, Logging.tested, Logging.takes_error, Logging.at, Logging.writes,
      Logging.start, Sections.start, Sections.step, line, different, Ne.symm different]
  obtain ⟨logging, ran, output⟩ := Option.map_eq_some_iff.mp mixed
  exact ⟨logging, _, _, ran, output, Nat.zero_ne_one⟩

variable (levels) in
/-- **Records are whole on `std::clog` exactly when no two loggers are in use.** Whatever the levels
of the loggers are: in every run that calls some of them only, `std::clog` holds whole records up to
the last one, if and only if there is at most one of them. -/
theorem clog_whole_iff (used : κ → Prop) :
    (∀ actions logging, run loggingStep (.start levels) actions = some logging →
        Uses used actions → logging.clog.Whole)
      ↔ ∀ one two, used one → used two → one = two := by
  constructor
  · intro whole one two usedOne usedTwo
    by_contra different
    obtain ⟨logging, first, second, ran, output, tickets⟩ := run_mixing levels different ⟨[], 0⟩
    refine Sections.not_whole output tickets (fun part => (recorded_of_run ran).long)
      (whole _ logging ran ?_)
    intro action member logger calls
    simp only [mixing, List.mem_cons, List.not_mem_nil, or_false] at member
    rcases member with rfl | rfl | rfl | rfl | rfl | rfl
    · cases calls
      exact usedOne
    · cases calls
      exact usedTwo
    all_goals cases calls
  · intro single actions logging ran uses
    have recorded := recorded_of_run ran
    obtain ⟨sectionActions, reached⟩ := recorded.reached
    refine Sections.whole_of_single reached fun part member other member' => ?_
    exact single _ _ (recorded.used uses member) (recorded.used uses member')

end Recorded

end DemoDaemon.Daemon
