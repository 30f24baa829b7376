/-
**What `sendMessage` transfers under partial I/O** (`client.cpp`).

The kernel may take or deliver any part of what is asked for, and any call may be interrupted. The
wire of this module records what `::send` has taken and what `::recv` has delivered.

* `Takes`, `Refuses`: the answers of `::send` take a number of bytes, or one of them fails first.
  One of the two is always so (`takes_or_refuses`).
* `Delivers`, `EndsEarly`: the answers of `::recv` deliver a reply in chunks, or the stream ends or
  fails before any of it.
* **`transfer_exact`**: every byte of the request is handed over once and in order, a reply of one
  line is returned as it is and read to its last byte, and the two failures throw.
-/

import DemoDaemon.Json.TextLaws
import DemoDaemon.Cli.Transport

namespace DemoDaemon.Cli

open Foundation

/-! ### The wire -/

structure Wire where
  sent : Bytes
  received : Bytes

/-- The bytes that an answer of `::recv` delivers. -/
def RecvResult.bytes : RecvResult → Bytes
  | .data bytes => bytes
  | .failed _ => []

/-- A socket whose calls are answered by a script. -/
def wireSocket : Socket Wire RecvResult where
  send wire bytes := { wire with sent := wire.sent ++ bytes }
  recv _ wire answer := (answer, { wire with received := wire.received ++ answer.bytes })

/-! ### Sending -/

/-- The answers of `::send` take that many bytes, in any parts and with any interruptions. -/
inductive Takes : Nat → List SendResult → Prop
  | whole (results : List SendResult) : Takes 0 results
  | interrupted {left : Nat} {results : List SendResult} (error : SocketError)
      (interrupts : error.errno = .interrupted) (rest : Takes left results) :
      Takes left (.failed error :: results)
  | part {left : Nat} {results : List SendResult} (count : Nat) (positive : 0 < count)
      (rest : Takes (left - count) results) : Takes left (.sent count :: results)

/-- An answer of `::send` is a failure before that many bytes are taken; behind the last answer the
timeout runs out. -/
inductive Refuses : Nat → List SendResult → Prop
  | timeout {left : Nat} (more : 0 < left) : Refuses left []
  | failed {left : Nat} {results : List SendResult} (more : 0 < left) (error : SocketError)
      (fails : error.errno ≠ .interrupted) : Refuses left (.failed error :: results)
  | closed {left : Nat} {results : List SendResult} (more : 0 < left) :
      Refuses left (.sent 0 :: results)
  | interrupted {left : Nat} {results : List SendResult} (error : SocketError)
      (interrupts : error.errno = .interrupted) (rest : Refuses left results) :
      Refuses left (.failed error :: results)
  | part {left : Nat} {results : List SendResult} (count : Nat) (positive : 0 < count)
      (rest : Refuses (left - count) results) : Refuses left (.sent count :: results)

theorem takes_or_refuses (left : Nat) (results : List SendResult) :
    Takes left results ∨ Refuses left results := by
  rcases Nat.eq_zero_or_pos left with rfl | more
  · exact .inl (.whole results)
  · induction results generalizing left with
    | nil => exact .inr (.timeout more)
    | cons result results ih =>
      cases result with
      | failed error =>
        by_cases interrupts : error.errno = .interrupted
        · exact (ih left more).imp (.interrupted error interrupts) (.interrupted error interrupts)
        · exact .inr (.failed more error interrupts)
      | sent count =>
        rcases Nat.eq_zero_or_pos count with rfl | positive
        · exact .inr (.closed more)
        · rcases Nat.eq_zero_or_pos (left - count) with none | some
          · exact .inl (.part count positive (none ▸ .whole results))
          · exact (ih (left - count) some).imp (.part count positive) (.part count positive)

theorem refuses_pos {left : Nat} {results : List SendResult} (refuses : Refuses left results) :
    0 < left := by
  induction refuses with
  | timeout more => exact more
  | failed more => exact more
  | closed more => exact more
  | interrupted _ _ _ ih => exact ih
  | part count _ _ ih => omega

theorem sendLoop_nil (results : List SendResult) : sendLoop results [] = (.ok (), []) := by
  cases results <;> rfl

/-- A call that takes bytes. -/
theorem sendLoop_sent {results : List SendResult} {rest : Bytes} (some : rest ≠ []) {count : Nat}
    (positive : 0 < count) :
    sendLoop (.sent count :: results) rest
      = ((sendLoop results (rest.drop count)).1,
          rest.take count ++ (sendLoop results (rest.drop count)).2) := by
  have taken : (rest.take count).isEmpty = false := by
    rw [List.isEmpty_eq_false_iff, ne_eq, List.take_eq_nil_iff]
    rintro (none | none)
    · omega
    · exact some none
  rw [sendLoop, if_neg (by simpa using some)]
  simp only [taken]
  rfl

/-- An interrupted call is made again. -/
theorem sendLoop_interrupted {results : List SendResult} {rest : Bytes} (some : rest ≠ [])
    {error : SocketError} (interrupts : error.errno = .interrupted) :
    sendLoop (.failed error :: results) rest = sendLoop results rest := by
  rw [sendLoop, if_neg (by simpa using some)]
  exact if_pos interrupts

theorem sendLoop_of_takes {results : List SendResult} {rest : Bytes}
    (takes : Takes rest.length results) : sendLoop results rest = (.ok (), rest) := by
  generalize size : rest.length = left at takes
  induction takes generalizing rest with
  | whole results =>
    rw [List.length_eq_zero_iff.mp size, sendLoop_nil]
  | @interrupted left results error interrupts _ ih =>
    by_cases empty : rest = []
    · rw [empty, sendLoop_nil]
    · rw [sendLoop_interrupted empty interrupts, ih size]
  | @part left results count positive _ ih =>
    by_cases empty : rest = []
    · rw [empty, sendLoop_nil]
    · have fewer : (rest.drop count).length = left - count := by rw [List.length_drop, size]
      rw [sendLoop_sent empty positive, ih fewer, List.take_append_drop]

/-- A loop that is refused throws, and has handed over the front of its bytes. -/
theorem sendLoop_of_refuses {results : List SendResult} {rest : Bytes}
    (refuses : Refuses rest.length results) :
    ∃ error, (sendLoop results rest).1 = .error error ∧ (sendLoop results rest).2 <+: rest := by
  have some : rest ≠ [] := List.length_pos_iff.mp (refuses_pos refuses)
  generalize size : rest.length = left at refuses
  induction refuses generalizing rest with
  | timeout more =>
    rw [sendLoop, if_neg (by simpa using some)]
    exact ⟨_, rfl, List.nil_prefix⟩
  | failed more error fails =>
    rw [sendLoop, if_neg (by simpa using some)]
    simp only [fails]
    exact ⟨_, rfl, List.nil_prefix⟩
  | closed more =>
    rw [sendLoop, if_neg (by simpa using some)]
    exact ⟨_, rfl, List.nil_prefix⟩
  | interrupted error interrupts _ ih =>
    rw [sendLoop_interrupted some interrupts]
    exact ih some size
  | @part left results count positive refused ih =>
    have fewer : (rest.drop count).length = left - count := by rw [List.length_drop, size]
    have more : rest.drop count ≠ [] := List.length_pos_iff.mp (fewer ▸ refuses_pos refused)
    obtain ⟨error, threw, front⟩ := ih more fewer
    rw [sendLoop_sent some positive]
    refine ⟨error, threw, ?_⟩
    conv_rhs => rw [← List.take_append_drop count rest]
    exact (List.prefix_append_right_inj _).mpr front

/-! ### Receiving -/

/-- The answers of `::recv` deliver the reply, in chunks of any size that fits and with any
interruptions. -/
inductive Delivers : Bytes → List RecvResult → Prop
  | whole (answers : List RecvResult) : Delivers [] answers
  | interrupted {reply : Bytes} {answers : List RecvResult} (error : SocketError)
      (interrupts : error.errno = .interrupted) (rest : Delivers reply answers) :
      Delivers reply (.failed error :: answers)
  | chunk {reply : Bytes} {answers : List RecvResult} (bytes : Bytes) (some : bytes ≠ [])
      (fits : bytes.length ≤ 4095) (rest : Delivers reply answers) :
      Delivers (bytes ++ reply) (.data bytes :: answers)

/-- The stream ends or fails before any byte. -/
inductive EndsEarly : List RecvResult → Prop
  | closed (answers : List RecvResult) : EndsEarly (.data [] :: answers)
  | failed (answers : List RecvResult) (error : SocketError) (fails : error.errno ≠ .interrupted) :
      EndsEarly (.failed error :: answers)
  | interrupted {answers : List RecvResult} (error : SocketError)
      (interrupts : error.errno = .interrupted) (rest : EndsEarly answers) :
      EndsEarly (.failed error :: answers)

/-- Only the whole line ends in its newline. -/
theorem getLast?_ne_newline {line first second : Bytes} (oneLine : newline ∉ line)
    (split : first ++ second = line ++ [newline]) (more : second ≠ []) :
    first.getLast? ≠ some newline := by
  obtain ⟨second, last, rfl⟩ := List.eq_nil_or_concat second |>.resolve_left more
  rw [List.concat_eq_append, ← List.append_assoc] at split
  obtain ⟨inside, -⟩ := List.append_inj' split rfl
  intro ends
  exact oneLine (inside ▸ List.mem_append_left _ (List.mem_of_getLast? ends))

/-- **The loop stops exactly at the end of the line**, for every chunking of what is left of it. -/
theorem recvLoop_of_delivers {line : Bytes} (oneLine : newline ∉ line) {reply response : Bytes}
    {answers : List RecvResult} (delivers : Delivers reply answers) (some : reply ≠ [])
    (split : response ++ reply = line ++ [newline]) (wire : Wire) :
    recvLoop wireSocket answers response wire
      = (.ok (line ++ [newline]), { wire with received := wire.received ++ reply }) := by
  induction delivers generalizing response wire with
  | whole answers => exact absurd rfl some
  | interrupted error interrupts _ ih =>
    have same : { wire with
        received := wire.received ++ (RecvResult.failed error).bytes } = wire := by
      rw [RecvResult.bytes, List.append_nil]
    rw [recvLoop]
    simp only [wireSocket, interrupts, if_true, same]
    exact ih some split wire
  | @chunk rest answers bytes nonempty _ _ ih =>
    rw [← List.append_assoc] at split
    rw [recvLoop]
    simp only [wireSocket, RecvResult.bytes, List.isEmpty_eq_false_iff.mpr nonempty]
    by_cases last : rest = []
    · subst last
      rw [List.append_nil] at split
      rw [if_neg Bool.false_ne_true, if_pos, split, List.append_nil]
      rw [split]
      simp
    · rw [if_neg Bool.false_ne_true, if_neg (getLast?_ne_newline oneLine split last)]
      have continued := ih last split { wire with received := wire.received ++ bytes }
      rw [List.append_assoc] at continued
      exact continued

theorem recvLoop_of_endsEarly {answers : List RecvResult} (early : EndsEarly answers)
    (wire : Wire) : ∃ error, (recvLoop wireSocket answers [] wire).1 = .error error := by
  induction early generalizing wire with
  | closed answers => exact ⟨_, rfl⟩
  | failed answers error fails =>
    rw [recvLoop]
    simp only [wireSocket, fails, if_false]
    split_ifs
    · exact ⟨_, rfl⟩
    · exact ⟨_, rfl⟩
  | interrupted error interrupts _ ih =>
    rw [recvLoop]
    simp only [wireSocket, interrupts, if_true]
    exact ih _

theorem trimmed_line (line : Bytes) : trimmed (line ++ [newline]) = line := by
  rw [trimmed, if_pos (by simp), List.dropLast_concat]

/-! ### The transfer -/

/-- **The transfer of a message is exact.** For every message that can be written, all answers of
`::send` and all answers of `::recv`: if the first take the request and the second deliver a reply
of one line, then exactly the text of the message and a newline has been sent, the reply has been
read to its last byte, and its line is returned; if a `::send` fails first, what was sent is a front
of that text, and the call throws; and it throws if the stream ends before any byte of a reply. -/
theorem transfer_exact (lib : Nlohmann) (message : Json) {text : Bytes}
    (dumped : lib.dump message = .ok text) (results : List SendResult) (answers : List RecvResult)
    (wire : Wire) :
    (∀ line, newline ∉ line → Takes (text ++ [newline]).length results →
      Delivers (line ++ [newline]) answers →
      sendMessage wireSocket lib message results answers wire
        = (.ok line, ⟨wire.sent ++ (text ++ [newline]), wire.received ++ (line ++ [newline])⟩)) ∧
    (Refuses (text ++ [newline]).length results →
      ∃ error front, front <+: text ++ [newline] ∧
        sendMessage wireSocket lib message results answers wire
          = (.error error, { wire with sent := wire.sent ++ front })) ∧
    (EndsEarly answers →
      ∃ error, (sendMessage wireSocket lib message results answers wire).1 = .error error) := by
  refine ⟨?_, ?_, ?_⟩
  · intro line oneLine takes delivers
    have some : line ++ [newline] ≠ [] :=
      List.append_ne_nil_of_right_ne_nil _ (List.cons_ne_nil _ _)
    have received := recvLoop_of_delivers oneLine delivers some (List.nil_append _)
      (wireSocket.send wire (text ++ [newline]))
    simp only [sendMessage, dumped, sendLoop_of_takes takes, received, Except.map, trimmed_line]
    rfl
  · intro refuses
    obtain ⟨error, threw, front⟩ := sendLoop_of_refuses refuses
    refine ⟨error, _, front, ?_⟩
    simp only [sendMessage, dumped, threw]
    rfl
  · intro early
    rcases takes_or_refuses (text ++ [newline]).length results with takes | refuses
    · obtain ⟨error, threw⟩ := recvLoop_of_endsEarly early
        (wireSocket.send wire (text ++ [newline]))
      refine ⟨error, ?_⟩
      simp only [sendMessage, dumped, sendLoop_of_takes takes, threw, Except.map]
    · obtain ⟨error, threw, -⟩ := sendLoop_of_refuses refuses
      refine ⟨error, ?_⟩
      simp only [sendMessage, dumped, threw]

/-- A request sent in two parts with an interruption, a reply in two chunks with another; the same
request refused in the middle; and a stream that ends at once. -/
theorem transfer_exact_null :
    sendMessage wireSocket compact Json.null
        [.failed ⟨.interrupted, []⟩, .sent 2, .sent 9]
        [.data (ascii "O"), .failed ⟨.interrupted, []⟩, .data (ascii "K" ++ [newline])] ⟨[], []⟩
      = (.ok (ascii "OK"), ⟨ascii "null" ++ [newline], ascii "OK" ++ [newline]⟩) ∧
    (∃ error front, front <+: ascii "null" ++ [newline] ∧
      sendMessage wireSocket compact Json.null [.sent 2, .failed ⟨.other, []⟩] [] ⟨[], []⟩
        = (.error error, { (⟨[], []⟩ : Wire) with sent := [] ++ front })) ∧
    ∃ error, (sendMessage wireSocket compact Json.null [.sent 9] [.data []] ⟨[], []⟩).1
      = .error error := by
  have dumped : compact.dump Json.null = .ok (ascii "null") := rfl
  refine ⟨?_, ?_, ?_⟩
  · exact (transfer_exact compact Json.null dumped _ _ ⟨[], []⟩).1 (ascii "OK") (by decide)
      (.interrupted _ rfl (.part 2 (by decide) (.part 9 (by decide) (.whole _))))
      (.chunk (ascii "O") (by decide) (by decide) (.interrupted _ rfl
        (.chunk (ascii "K" ++ [newline]) (by decide) (by decide) (.whole _))))
  · exact (transfer_exact compact Json.null dumped _ _ ⟨[], []⟩).2.1
      (.part 2 (by decide) (.failed (by decide) _ (by decide)))
  · exact (transfer_exact compact Json.null dumped _ _ ⟨[], []⟩).2.2 (.closed _)

end DemoDaemon.Cli
