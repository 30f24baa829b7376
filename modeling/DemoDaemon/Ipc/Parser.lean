/-
**The newline-delimited parser** (`JsonProtocolParser`).

`tryParse` looks at the unread bytes and says two things: a message or nothing, and how many bytes
it consumed. Nothing stands for three different situations (no complete line yet, a blank line, a
line whose JSON is not a message), which only the consumed count tells apart.

* **`tryParse_line`**: on a complete line the outcome is `lineVerdict` of that line alone, and the
  line with its newline is consumed.
* **`tryParse_partial`**: without a newline everything is consumed at the size limit, nothing
  before it.

* `lineVerdict_eq_none_iff`: which complete lines give no message.

The parser keeps no state, so these lemmas are all later proofs use of it.
-/

import DemoDaemon.Ipc.Messages
import DemoDaemon.Foundation.Framing

namespace DemoDaemon.Ipc

open Foundation

/-! ### The parser -/

/-- `static constexpr size_t DEFAULT_MAX_MESSAGE_SIZE`, 1 MiB. -/
def defaultMaxMessageSize : Nat := 1024 * 1024

/-- `" \t\r"`, the bytes trimmed from both ends of a line. -/
def blanks : Bytes := [32, 9, 13]

/-- `std::string_view::npos`. -/
def npos : Nat := 2 ^ 64 - 1

def makeParseError : JsonMessage :=
  { error := some ⟨.parseError, ascii "Invalid JSON payload", none⟩ }

/-- The `try` block: a parse error, and anything the decoder throws, become a parse error message;
a value the decoder rejects becomes nothing. -/
def parseText (lib : Nlohmann) (text : Bytes) : Option JsonMessage :=
  match lib.parse text with
  | .error _ => some makeParseError
  | .ok json =>
    match JsonMessage.fromJson json with
    | .accepted message => some message
    | .rejected => none
    | .thrown _ => some makeParseError

/-- A line with the blanks at both ends removed; nothing when there is nothing else. -/
def trim (line : Bytes) : Option Bytes :=
  match findFirstNotOf blanks line with
  | none => none
  | some start => some (substr line start ((findLastNotOf blanks line).getD npos - start + 1))

/-- `try_parse(data, bytes_consumed)`. -/
def tryParse (lib : Nlohmann) (maxMessageSize : Nat) (data : Bytes) : Option JsonMessage × Nat :=
  if data.isEmpty then (none, 0)
  else
    match data.idxOf? newline with
    | none =>
      if maxMessageSize ≤ data.length then (some makeParseError, data.length) else (none, 0)
    | some newlinePos =>
      if maxMessageSize ≤ newlinePos then (some makeParseError, newlinePos + 1)
      else
        match trim (substr data 0 newlinePos) with
        | none => (none, newlinePos + 1)
        | some text => (parseText lib text, newlinePos + 1)

/-- `serialize(msg)`. -/
def serialize (lib : Nlohmann) (message : JsonMessage) : Except Exn Bytes :=
  (lib.dump message.toJson).map fun text => text ++ [newline]

/-! ### One line -/

/-- What the parser makes of a complete line. -/
def lineVerdict (lib : Nlohmann) (maxMessageSize : Nat) (line : Bytes) : Option JsonMessage :=
  if maxMessageSize ≤ line.length then some makeParseError
  else (trim line).bind (parseText lib)

theorem idxOf?_append_cons {body : Bytes} (free : newline ∉ body) (rest : Bytes) :
    (body ++ newline :: rest).idxOf? newline = some body.length := by
  induction body with
  | nil => rfl
  | cons byte body ih =>
    have different : byte ≠ newline := fun same => free (by rw [same]; exact List.mem_cons_self)
    have others : newline ∉ body := fun member => free (List.mem_cons_of_mem _ member)
    rw [List.cons_append, List.idxOf?_cons, beq_eq_false_iff_ne.mpr different, ih others]
    rfl

/-- **A complete line is judged on its own and consumed with its newline.** -/
theorem tryParse_line (lib : Nlohmann) (maxMessageSize : Nat) {body : Bytes}
    (free : newline ∉ body) (rest : Bytes) :
    tryParse lib maxMessageSize (body ++ newline :: rest)
      = (lineVerdict lib maxMessageSize body, body.length + 1) := by
  have nonempty : (body ++ newline :: rest).isEmpty = false := by cases body <;> rfl
  have cut : substr (body ++ newline :: rest) 0 body.length = body := by
    rw [substr, List.drop_zero, List.take_left']
    rfl
  unfold tryParse lineVerdict
  rw [nonempty, idxOf?_append_cons free]
  simp only [Bool.false_eq_true, if_false, cut]
  split_ifs with long
  · rfl
  · cases trim body <;> rfl

/-- **Without a newline**, everything is consumed once the limit is reached. -/
theorem tryParse_partial (lib : Nlohmann) {maxMessageSize : Nat} (positive : 0 < maxMessageSize)
    {data : Bytes} (free : newline ∉ data) :
    tryParse lib maxMessageSize data
      = if maxMessageSize ≤ data.length then (some makeParseError, data.length) else (none, 0) := by
  have absent : data.idxOf? newline = none := List.idxOf?_eq_none_iff.mpr free
  unfold tryParse
  cases data with
  | nil => rw [if_pos (by rfl), List.length_nil, if_neg (Nat.not_le_of_gt positive)]
  | cons byte rest => rw [if_neg (by simp), absent]

/-- No call consumes more than there is. -/
theorem tryParse_consumed_le (lib : Nlohmann) (maxMessageSize : Nat) (data : Bytes) :
    (tryParse lib maxMessageSize data).2 ≤ data.length := by
  by_cases member : newline ∈ data
  · obtain ⟨body, rest, rfl, free⟩ := List.eq_append_cons_of_mem member
    rw [tryParse_line lib maxMessageSize free, List.length_append, List.length_cons]
    show body.length + 1 ≤ _
    omega
  · have absent : data.idxOf? newline = none := List.idxOf?_eq_none_iff.mpr member
    unfold tryParse
    rw [absent]
    split_ifs
    · exact Nat.zero_le _
    · exact Nat.le_refl _
    · exact Nat.zero_le _

/-- A short line is judged by its text alone. -/
theorem lineVerdict_of_lt (lib : Nlohmann) {maxMessageSize : Nat} {line : Bytes}
    (short : line.length < maxMessageSize) :
    lineVerdict lib maxMessageSize line = (trim line).bind (parseText lib) := by
  rw [lineVerdict, if_neg (by omega)]

/-- Leading blanks are trimmed. -/
theorem trim_padded {padding text : Bytes} {first last : UInt8}
    (padded : ∀ byte ∈ padding, byte ∈ blanks) (head : text.head? = some first)
    (tail : text.getLast? = some last) (firstOutside : first ∉ blanks)
    (lastOutside : last ∉ blanks) : trim (padding ++ text) = some text := by
  have nonempty : text ≠ [] := by
    rintro rfl
    cases head
  have ends : (padding ++ text).getLast? = some last := by
    rw [List.getLast?_append, tail]
    rfl
  rw [trim, findFirstNotOf_padded padded head firstOutside, findLastNotOf_last ends lastOutside]
  exact congrArg some (substr_padded padding nonempty)

theorem trim_eq_self {text : Bytes} {first last : UInt8} (head : text.head? = some first)
    (tail : text.getLast? = some last) (firstOutside : first ∉ blanks)
    (lastOutside : last ∉ blanks) : trim text = some text :=
  trim_padded (List.forall_mem_nil _) head tail firstOutside lastOutside

/-! ### Lines that give no message -/

/-- A line that is blank, or whose text is JSON that is not a message. -/
def Skipped (lib : Nlohmann) (line : Bytes) : Prop :=
  ∀ text, trim line = some text →
    ∃ json, lib.parse text = .ok json ∧ JsonMessage.fromJson json = .rejected

theorem parseText_eq_none_iff (lib : Nlohmann) (text : Bytes) :
    parseText lib text = none
      ↔ ∃ json, lib.parse text = .ok json ∧ JsonMessage.fromJson json = .rejected := by
  unfold parseText
  cases parsed : lib.parse text with
  | error error => exact ⟨nofun, fun ⟨_, same, _⟩ => nomatch same⟩
  | ok json =>
    simp only [Except.ok.injEq, exists_eq_left']
    cases JsonMessage.fromJson json with
    | accepted message => exact ⟨nofun, nofun⟩
    | rejected => exact ⟨fun _ => rfl, fun _ => rfl⟩
    | thrown error => exact ⟨nofun, nofun⟩

/-- **A line gives no message exactly when it is short and skipped.** -/
theorem lineVerdict_eq_none_iff (lib : Nlohmann) (maxMessageSize : Nat) (line : Bytes) :
    lineVerdict lib maxMessageSize line = none
      ↔ line.length < maxMessageSize ∧ Skipped lib line := by
  unfold lineVerdict
  split_ifs with long
  · exact ⟨nofun, fun both => absurd long (Nat.not_le_of_gt both.1)⟩
  · rw [Option.bind_eq_none_iff]
    constructor
    · exact fun none => ⟨Nat.lt_of_not_le long, fun text trimmed =>
        (parseText_eq_none_iff lib text).mp (none text trimmed)⟩
    · exact fun both text trimmed => (parseText_eq_none_iff lib text).mpr (both.2 text trimmed)

end DemoDaemon.Ipc
