/-
**The command line of the client** (`main.cpp`): `getopt_long`, `parseOptions`, and `main` up to the
request it sends.

`getopt_long` is the one of GNU: it goes through all words up to a `--`, leaves those that are no
option for the end, and reports what it does not know as `?`.

* `getoptLong`: the options returned, and the words left. **`nonoptions_of_getoptLong`**: without a
  `--` no word that looks like an option is left.
* `parseOptions`, `mainRequest`.
* **`mainRequest_add`**: the request of `tasks add` with an option, in each form.
  **`task_options_lost`**: the option never reaches the daemon.
-/

import DemoDaemon.Cli.Words
import DemoDaemon.Cli.Request
import DemoDaemon.Json.Text

namespace DemoDaemon.Cli

open Foundation

/-! ### `getopt_long` -/

/-- What a call of `getopt_long` returns, with `optarg` where the option takes an argument. -/
structure Returned where
  opt : UInt8
  optarg : Bytes

/-- `'?'`. -/
def unrecognised : Returned := ⟨63, []⟩

/-- An option, and whether it takes an argument. -/
structure LongOption where
  name : Bytes
  required : Bool
  val : UInt8

/-- `long_options`. -/
def longOptions : List LongOption :=
  [⟨ascii "socket-path", true, 115⟩, ⟨ascii "timeout", true, 116⟩, ⟨ascii "raw-json", false, 114⟩,
    ⟨ascii "help", false, 104⟩]

/-- The short options `"s:t:rh"`, with whether they take an argument. -/
def shortOption (letter : UInt8) : Option Bool :=
  if letter = 115 ∨ letter = 116 then some true
  else if letter = 114 ∨ letter = 104 then some false
  else none

/-- The long option of a name: by its full name, or by the only name that starts so. -/
def findLongOption (name : Bytes) : Option LongOption :=
  match longOptions.find? fun option => option.name == name with
  | some option => some option
  | none =>
    match longOptions.filter fun option => name.isPrefixOf option.name with
    | [option] => some option
    | _ => none

/-- What one word makes `getopt_long` return, and the option that still needs the next word. -/
structure Scanned where
  returned : List Returned
  needs : Option UInt8

/-- A word `--NAME` or `--NAME=VALUE`, without its dashes. -/
def scanLong (text : Bytes) : Scanned :=
  let name := text.takeWhile (· ≠ equals)
  match findLongOption name with
  | none => ⟨[unrecognised], none⟩
  | some option =>
    if equals ∈ text then
      if option.required then ⟨[⟨option.val, text.drop (name.length + 1)⟩], none⟩
      else ⟨[unrecognised], none⟩
    else if option.required then ⟨[], some option.val⟩
    else ⟨[⟨option.val, []⟩], none⟩

/-- The letters behind a single dash. -/
def scanShort : Bytes → Scanned
  | [] => ⟨[], none⟩
  | letter :: rest =>
    match shortOption letter with
    | none => ⟨unrecognised :: (scanShort rest).returned, (scanShort rest).needs⟩
    | some false => ⟨⟨letter, []⟩ :: (scanShort rest).returned, (scanShort rest).needs⟩
    | some true => if rest = [] then ⟨[], some letter⟩ else ⟨[⟨letter, rest⟩], none⟩

/-- A word with a dash and something behind it. -/
def isOption : Bytes → Bool
  | first :: _ :: _ => first == 45
  | _ => false

/-- A word that is an option. -/
def scanWord : Bytes → Scanned
  | _ :: second :: rest => if second = 45 then scanLong rest else scanShort (second :: rest)
  | _ => ⟨[], none⟩

/-- All calls of `getopt_long`: what they return, and the words left for the end. -/
def getoptLong : List Bytes → List Returned × List Bytes
  | [] => ([], [])
  | [word] =>
    if word = ascii "--" then ([], [])
    else if isOption word = false then ([], [word])
    else
      match (scanWord word).needs with
      | none => ((scanWord word).returned, [])
      | some _ => ((scanWord word).returned ++ [unrecognised], [])
  | word :: next :: rest =>
    if word = ascii "--" then ([], next :: rest)
    else if isOption word = false then
      ((getoptLong (next :: rest)).1, word :: (getoptLong (next :: rest)).2)
    else
      match (scanWord word).needs with
      | none =>
        ((scanWord word).returned ++ (getoptLong (next :: rest)).1, (getoptLong (next :: rest)).2)
      | some opt =>
        ((scanWord word).returned ++ ⟨opt, next⟩ :: (getoptLong rest).1, (getoptLong rest).2)

/-! ### `parseOptions` and `main` -/

/-- The variables that `getDefaultSocketPath` asks for. -/
structure Environment where
  demoDaemonSocket : Option Bytes
  xdgRuntimeDir : Option Bytes

def getDefaultSocketPath (environment : Environment) : Bytes :=
  if environment.demoDaemonSocket.getD [] ≠ [] then environment.demoDaemonSocket.getD []
  else if environment.xdgRuntimeDir.getD [] ≠ [] then
    environment.xdgRuntimeDir.getD [] ++ ascii "/demo_daemon.sock"
  else ascii "/run/demo_daemon/demo_daemon.sock"

/-- `std::atoi`: `strtol`, which stops at the ends of a `long`, cut to an `int`. -/
def atoi (text : Bytes) : Int32 :=
  let signed := readSign (text.dropWhile isSpace)
  Int32.ofInt (max (-2 ^ 63) (min (2 ^ 63 - 1) (signed.1 * (readDigits signed.2 0).1)))

/-- All fields of `CliOptions`. -/
structure CommandLine where
  socketPath : Bytes
  timeoutMs : Int32
  rawJson : Bool
  help : Bool
  options : CliOptions

/-- The `switch` of `parseOptions`. -/
def CommandLine.take (line : CommandLine) (returned : Returned) : CommandLine :=
  if returned.opt = 115 then { line with socketPath := returned.optarg }
  else if returned.opt = 116 then { line with timeoutMs := atoi returned.optarg }
  else if returned.opt = 114 then { line with rawJson := true }
  else if returned.opt = 104 then { line with help := true }
  else line

/-- The words left are the command and its arguments. -/
def CliOptions.ofWords : List Bytes → CliOptions
  | [] => .ofCommand [] []
  | command :: args => .ofCommand command args

/-- `parseOptions`, of the words behind the name of the program. -/
def parseOptions (environment : Environment) (words : List Bytes) : CommandLine :=
  (getoptLong words).1.foldl CommandLine.take
    ⟨getDefaultSocketPath environment, 5000, false, false, .ofWords (getoptLong words).2⟩

/-- What `main` comes to. -/
inductive Invocation where
  /-- `printUsage`, with the exit code. -/
  | usage (code : Int32)
  | built (construction : Construction)

/-- `main`, up to the request that it sends to a daemon it can reach. -/
def mainRequest (lib : Nlohmann) (environment : Environment) (words : List Bytes) :
    Except Abort Invocation :=
  let line := parseOptions environment words
  if line.help = true ∨ line.options.command = [] then .ok (.usage (if line.help then 0 else 1))
  else (buildRequest lib line.options).map .built

/-! ### The words that are left -/

/-- A word that is no option is left. -/
theorem getoptLong_nonoption {word : Bytes} (plain : isOption word = false) (rest : List Bytes) :
    getoptLong (word :: rest) = ((getoptLong rest).1, word :: (getoptLong rest).2) := by
  have notEnd : word ≠ ascii "--" := by
    rintro rfl
    exact absurd plain (by decide)
  cases rest with
  | nil => simp only [getoptLong, if_neg notEnd, if_pos plain]
  | cons next rest => rw [getoptLong, if_neg notEnd, if_pos plain]

/-- A word that needs no other is taken out. -/
theorem getoptLong_option {word : Bytes} (notEnd : word ≠ ascii "--")
    (option : isOption word = true) (alone : (scanWord word).needs = none) (rest : List Bytes) :
    getoptLong (word :: rest)
      = ((scanWord word).returned ++ (getoptLong rest).1, (getoptLong rest).2) := by
  have looks : isOption word ≠ false := by
    rw [option]
    decide
  cases rest with
  | nil => simp only [getoptLong, if_neg notEnd, if_neg looks, alone, List.append_nil]
  | cons next rest => rw [getoptLong, if_neg notEnd, if_neg looks, alone]

/-- **Without a `--` no option is left**, known or unknown. -/
theorem nonoptions_of_getoptLong {words : List Bytes} (unbroken : ascii "--" ∉ words) :
    ∀ word ∈ (getoptLong words).2, isOption word = false := by
  fun_induction getoptLong words with
  | case1 | case2 | case4 | case5 => simp
  | case3 word _ plain => simpa using plain
  | case6 => simp at unbroken
  | case7 word next rest _ plain ih =>
    intro other member
    rcases List.mem_cons.mp member with rfl | later
    · exact plain
    · exact ih (fun found => unbroken (List.mem_cons_of_mem _ found)) other later
  | case8 word next rest _ _ _ ih =>
    exact ih fun found => unbroken (List.mem_cons_of_mem _ found)
  | case9 word next rest _ _ _ _ ih =>
    exact ih fun found => unbroken (List.mem_cons_of_mem _ (List.mem_cons_of_mem _ found))

/-- Words that are no options are passed over by `parseTaskArgs` or assign. -/
theorem readWords_nonoptions {args : List Bytes} (plain : ∀ arg ∈ args, isOption arg = false) :
    readWords args = args.map Word.plain := by
  have other : ∀ arg ∈ args, ∀ name, isOption name = true → arg ≠ name := by
    rintro arg member name option rfl
    rw [plain arg member] at option
    cases option
  fun_induction readWords args with
  | case1 => rfl
  | case2 => exact absurd rfl (other _ (by simp) (ascii "--type") (by decide))
  | case3 => rfl
  | case4 => exact absurd rfl (other _ (by simp) (ascii "--interval") (by decide))
  | case5 => exact absurd rfl (other _ (by simp) (ascii "--duration") (by decide))
  | case6 => exact absurd rfl (other _ (by simp) (ascii "--type") (by decide))
  | case7 arg value rest _ _ _ ih =>
    rw [List.map_cons]
    congr 1
    exact ih (fun later member => plain later (by simp_all))
      (fun later member => other later (by simp_all))

/-- **The options of `parseTaskArgs` are dead** in a command line without a `--`: it only ever
assigns. -/
theorem readWords_of_getoptLong {words : List Bytes} (unbroken : ascii "--" ∉ words)
    {command subcommand : Bytes} {args : List Bytes}
    (left : (getoptLong words).2 = command :: subcommand :: args) :
    readWords args = args.map Word.plain := by
  refine readWords_nonoptions fun arg member => nonoptions_of_getoptLong unbroken arg ?_
  rw [left]
  exact List.mem_cons_of_mem _ (List.mem_cons_of_mem _ member)

/-! ### `tasks add` -/

/-- The three ways to give a task its time. -/
inductive AddForm where
  /-- `tasks add T --interval N`. -/
  | interval
  /-- `tasks add T --duration N`. -/
  | duration
  /-- `tasks add --type T --interval N`. -/
  | typed

/-- The option that gives the time. -/
def AddForm.option : AddForm → Bytes
  | .interval | .typed => ascii "interval"
  | .duration => ascii "duration"

/-- The words behind the name of the program. -/
def AddForm.words (form : AddForm) (type number : Bytes) : List Bytes :=
  match form with
  | .interval => [ascii "tasks", ascii "add", type, ascii "--interval", number]
  | .duration => [ascii "tasks", ascii "add", type, ascii "--duration", number]
  | .typed => [ascii "tasks", ascii "add", ascii "--type", type, ascii "--interval", number]

/-- The decimal text of an `int`. -/
def intText (number : Int32) : Bytes :=
  if number.toInt < 0 then 45 :: decimal number.toInt.natAbs else decimal number.toInt.natAbs

/-- The type and the time reach the daemon, and nothing else does. -/
def Delivered (lib : Nlohmann) (environment : Environment) (form : AddForm) (type : Bytes)
    (number : Int32) : Prop :=
  ∃ params, mainRequest lib environment (form.words type (intText number))
      = .ok (.built (.request (ascii "tasks.add") params)) ∧
    ∀ key, params.find key = if key = ascii "type" then some (Json.ofString type)
      else if key = form.option then some (Json.ofInt32 number) else none

/-- What is unknown to `getopt_long` changes no option. -/
theorem foldl_take_unrecognised {returned : List Returned}
    (unknown : ∀ one ∈ returned, one = unrecognised) (line : CommandLine) :
    returned.foldl CommandLine.take line = line := by
  induction returned generalizing line with
  | nil => rfl
  | cons one returned ih =>
    rw [List.foldl_cons, unknown one (by simp)]
    exact ih (fun other member => unknown other (by simp [member])) line

/-- A letter that is a digit is no option. -/
theorem shortOption_digit {letter : UInt8} (digit : isDigit letter = true) :
    shortOption letter = none := by
  have other : ∀ value : UInt8, isDigit value = false → letter ≠ value := by
    rintro value notDigit rfl
    rw [digit] at notDigit
    cases notDigit
  rw [shortOption, if_neg (not_or.mpr ⟨other 115 (by decide), other 116 (by decide)⟩),
    if_neg (not_or.mpr ⟨other 114 (by decide), other 104 (by decide)⟩)]

/-- Digits behind a dash are letters that nobody knows. -/
theorem scanShort_digits {digits : Bytes} (all : ∀ byte ∈ digits, isDigit byte = true) :
    (∀ one ∈ (scanShort digits).returned, one = unrecognised) ∧
      (scanShort digits).needs = none := by
  induction digits with
  | nil => exact ⟨by simp [scanShort], rfl⟩
  | cons letter rest ih =>
    obtain ⟨unknown, alone⟩ := ih fun byte member => all byte (by simp [member])
    simp only [scanShort, shortOption_digit (all letter (by simp))]
    refine ⟨?_, alone⟩
    intro one member
    rcases List.mem_cons.mp member with rfl | later
    · rfl
    · exact unknown one later

/-- The text of a number: digits, with a dash or without. -/
theorem intText_shape (number : Int32) :
    ∃ first others, (∀ byte ∈ first :: others, isDigit byte = true) ∧
      (intText number = 45 :: first :: others ∨ intText number = first :: others) := by
  obtain ⟨first, others, same⟩ := List.exists_cons_of_ne_nil (decimal_ne_nil number.toInt.natAbs)
  refine ⟨first, others, fun byte member => isDigit_of_mem_decimal (same ▸ member), ?_⟩
  rw [← same, intText]
  by_cases negative : number.toInt < 0
  · exact Or.inl (if_pos negative)
  · exact Or.inr (if_neg negative)

theorem intText_ne_end (number : Int32) : intText number ≠ ascii "--" := by
  obtain ⟨first, others, digits, text | text⟩ := intText_shape number
  · intro same
    have dash : first = 45 := (List.cons.inj (List.cons.inj (text.symm.trans same)).2).1
    exact (isDigit_other (digits first (by simp))).2.1 dash
  · intro same
    have dash : first = 45 := (List.cons.inj (text.symm.trans same)).1
    exact (isDigit_other (digits first (by simp))).2.1 dash

theorem equals_not_mem_intText (number : Int32) : equals ∉ intText number := by
  obtain ⟨first, others, digits, text | text⟩ := intText_shape number
  · rw [text]
    intro member
    rcases List.mem_cons.mp member with dash | digit
    · exact absurd dash (by decide)
    · exact absurd (digits equals digit) (by decide)
  · rw [text]
    intro digit
    exact absurd (digits equals digit) (by decide)

/-- A number is left, or reported digit by digit if it has a sign. -/
theorem getoptLong_intText (number : Int32) :
    (∀ one ∈ (getoptLong [intText number]).1, one = unrecognised) ∧
      (∀ word ∈ (getoptLong [intText number]).2, word = intText number) := by
  obtain ⟨first, others, digits, text | text⟩ := intText_shape number
  · have notDash : first ≠ 45 := (isDigit_other (digits first (by simp))).2.1
    have scanned : scanWord (intText number) = scanShort (first :: others) := by
      rw [text, scanWord, if_neg notDash]
    obtain ⟨unknown, alone⟩ := scanShort_digits digits
    rw [getoptLong_option (intText_ne_end number) (by rw [text]; rfl) (by rw [scanned, alone]),
      scanned]
    simpa [getoptLong] using unknown
  · have plain : isOption (intText number) = false := by
      rw [text]
      cases others with
      | nil => rfl
      | cons second others =>
        have notDash : first ≠ 45 := (isDigit_other (digits first (by simp))).2.1
        simpa [isOption] using notDash
    rw [getoptLong_nonoption plain]
    simp [getoptLong]

/-- A type that starts with no dash is left. -/
theorem isOption_of_noDash {word : Bytes} (noDash : word.head? ≠ some 45) :
    isOption word = false := by
  match word with
  | [] | [_] => rfl
  | first :: _ :: _ => simpa [isOption] using noDash

/-- A long option that nobody knows is reported and taken out. -/
theorem getoptLong_unknown {name : Bytes} (some : name ≠ [])
    (unknown : findLongOption (name.takeWhile (· ≠ equals)) = none) (rest : List Bytes) :
    getoptLong ((45 :: 45 :: name) :: rest)
      = (unrecognised :: (getoptLong rest).1, (getoptLong rest).2) := by
  have scanned : scanWord (45 :: 45 :: name) = ⟨[unrecognised], none⟩ := by
    rw [scanWord, if_pos rfl]
    simp only [scanLong, unknown]
  have notEnd : 45 :: 45 :: name ≠ ascii "--" := by
    intro same
    exact some (List.cons.inj (List.cons.inj same).2).2
  rw [getoptLong_option notEnd rfl (by rw [scanned]), scanned]
  rfl

/-- **What `getopt_long` leaves**: the command, its type and at most the number. -/
theorem getoptLong_add (form : AddForm) {type : Bytes} (noDash : type.head? ≠ some 45)
    (number : Int32) :
    (∀ one ∈ (getoptLong (form.words type (intText number))).1, one = unrecognised) ∧
      (getoptLong (form.words type (intText number))).2
        = ascii "tasks" :: ascii "add" :: type :: (getoptLong [intText number]).2 := by
  have unknown := (getoptLong_intText number).1
  have tasks := @getoptLong_nonoption (ascii "tasks") (by decide)
  have add := @getoptLong_nonoption (ascii "add") (by decide)
  have typed := getoptLong_nonoption (isOption_of_noDash noDash)
  have interval : ∀ rest, getoptLong (ascii "--interval" :: rest) = _ :=
    @getoptLong_unknown (ascii "interval") (by decide) (by decide)
  have duration : ∀ rest, getoptLong (ascii "--duration" :: rest) = _ :=
    @getoptLong_unknown (ascii "duration") (by decide) (by decide)
  have typeOption : ∀ rest, getoptLong (ascii "--type" :: rest) = _ :=
    @getoptLong_unknown (ascii "type") (by decide) (by decide)
  cases form with
  | interval =>
    rw [AddForm.words, tasks, add, typed, interval]
    simpa using unknown
  | duration =>
    rw [AddForm.words, tasks, add, typed, duration]
    simpa using unknown
  | typed =>
    rw [AddForm.words, tasks, add, typeOption, typed, interval]
    simpa using unknown

/-- Words without an `=` are passed over. -/
theorem foldlM_plain {args : List Bytes} (plain : ∀ arg ∈ args, equals ∉ arg) (params : Json) :
    (args.map Word.plain).foldlM Word.apply params = .ok params := by
  induction args with
  | nil => rfl
  | cons arg args ih =>
    have passed : (Word.plain arg).apply params = .ok params := by
      rw [Word.apply, assign, if_neg (plain arg (by simp))]
    rw [List.map_cons, List.foldlM_cons, passed]
    exact ih fun other member => plain other (by simp [member])

theorem end_not_mem_words (form : AddForm) {type : Bytes} (noDash : type.head? ≠ some 45)
    (number : Int32) : ascii "--" ∉ form.words type (intText number) := by
  have typed : ascii "--" ≠ type := by
    rintro rfl
    exact noDash rfl
  have numbered := (intText_ne_end number).symm
  have others : ∀ word ∈ [ascii "tasks", ascii "add", ascii "--interval", ascii "--duration",
      ascii "--type"], ascii "--" ≠ word := by decide
  cases form <;> simp only [AddForm.words, List.mem_cons, List.not_mem_nil, or_false, not_or] <;>
    simp [typed, numbered, others]

/-- **The request of `tasks add` with its option**: the type alone. -/
theorem mainRequest_add (lib : Nlohmann) (environment : Environment) (form : AddForm)
    {type : Bytes} (noDash : type.head? ≠ some 45) (noEquals : equals ∉ type) (number : Int32) :
    mainRequest lib environment (form.words type (intText number))
      = .ok (.built (.request (ascii "tasks.add")
        (Json.emptyObject.set (ascii "type") (Json.ofString type)))) := by
  obtain ⟨unknown, left⟩ := getoptLong_add form noDash number
  set rest := (getoptLong [intText number]).2 with isRest
  have parsed : parseOptions environment (form.words type (intText number))
      = ⟨getDefaultSocketPath environment, 5000, false, false,
        .ofCommand (ascii "tasks") (ascii "add" :: type :: rest)⟩ := by
    rw [parseOptions, foldl_take_unrecognised unknown, left]
    rfl
  have args : parseTaskArgs (type :: rest) = .ok Json.emptyObject := by
    rw [parseTaskArgs_eq, readWords_of_getoptLong (end_not_mem_words form noDash number) left]
    refine foldlM_plain ?_ _
    intro arg member
    rcases List.mem_cons.mp member with rfl | later
    · exact noEquals
    · rw [(getoptLong_intText number).2 arg later]
      exact equals_not_mem_intText number
  have built : buildRequest lib (.ofCommand (ascii "tasks") (ascii "add" :: type :: rest))
      = .ok (.request (ascii "tasks.add")
        (Json.emptyObject.set (ascii "type") (Json.ofString type))) := by
    rw [buildRequest_tasks]
    unfold buildTasksRequest CliOptions.ofCommand
    dsimp only
    rw [if_neg (by decide), if_pos rfl, args]
    rfl
  have runs : ¬ (false = true ∨
      (CliOptions.ofCommand (ascii "tasks") (ascii "add" :: type :: rest)).command = []) := by
    rintro (help | empty)
    · cases help
    · exact absurd empty (show ascii "tasks" ≠ [] by decide)
  simp only [mainRequest, parsed]
  rw [if_neg runs, built]
  rfl

/-- The parameters that are sent hold no time. -/
theorem type_holds_no_time (form : AddForm) (type : Bytes) (number : Int32) :
    ¬ ∀ key, (Json.emptyObject.set (ascii "type") (Json.ofString type)).find key
      = if key = ascii "type" then some (Json.ofString type)
        else if key = form.option then some (Json.ofInt32 number) else none := by
  intro exactly
  have notType : form.option ≠ ascii "type" := by
    cases form <;> decide
  have missing := exactly form.option
  rw [if_neg notType, if_pos rfl, Json.find_set_other _ notType] at missing
  cases missing

/-- **The option of `tasks add` is lost**, whatever the type and the number. -/
theorem task_options_lost (lib : Nlohmann) (environment : Environment) (form : AddForm)
    (type : Bytes) (noDash : type.head? ≠ some 45) (noEquals : equals ∉ type) (number : Int32) :
    ¬ Delivered lib environment form type number := by
  rintro ⟨params, sent, exactly⟩
  rw [mainRequest_add lib environment form noDash noEquals number] at sent
  cases sent
  exact type_holds_no_time form type number exactly

/-- `tasks add heartbeat --interval 5` asks for no interval. -/
theorem task_options_lost_heartbeat :
    ¬ Delivered compact ⟨none, none⟩ .interval (ascii "heartbeat") 5 :=
  task_options_lost compact ⟨none, none⟩ .interval (ascii "heartbeat") (by decide)
    (by decide) 5

/-- `tasks add --type heartbeat --interval 5`, as documented, asks for no interval either. -/
theorem task_options_not_delivered :
    ¬ ∀ (lib : Nlohmann) (environment : Environment) (form : AddForm) (type : Bytes),
      type.head? ≠ some 45 → equals ∉ type →
        ∀ number, Delivered lib environment form type number := by
  intro always
  obtain ⟨params, sent, exactly⟩ :=
    always compact ⟨none, none⟩ .typed (ascii "heartbeat") (by decide) (by decide) 5
  rw [mainRequest_add _ _ _ (by decide) (by decide)] at sent
  cases sent
  exact type_holds_no_time .typed (ascii "heartbeat") 5 exactly

end DemoDaemon.Cli
