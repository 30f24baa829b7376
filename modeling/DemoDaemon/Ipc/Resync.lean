/-
**A consumer of the parser, fed chunk by chunk.**

`drain` calls `tryParse` on the unread bytes and drops what each call consumed, until a call
consumes nothing; `feed` appends chunks one by one and drains after each.

* **`drain_eq`**: draining is the line reader of the framing library, with `lineVerdict` for its
  verdict and the size limit for its limit.
* **`feed_eq_drain_iff`**: chunk by chunk the consumer gets the messages of the whole stream if
  and only if, whenever an unfinished line reaches the limit at the end of a chunk, what follows it
  up to the next newline gives no message of its own. The parser forgets that it has thrown part of
  a line away, so the tail of an over-long line is otherwise read as a line.
-/

import DemoDaemon.Ipc.Parser
import DemoDaemon.Foundation.LimitedFraming
import DemoDaemon.Json.TextLaws

namespace DemoDaemon.Ipc

open Foundation

/-! ### The consumer -/

/-- At most `fuel` calls of `tryParse`, each on what the previous one left, until one consumes
nothing. -/
def drainFor (lib : Nlohmann) (maxMessageSize : Nat) : Nat → Bytes → List JsonMessage × Bytes
  | 0, data => ([], data)
  | fuel + 1, data =>
    let first := tryParse lib maxMessageSize data
    if first.2 = 0 then (first.1.toList, data)
    else
      let rest := drainFor lib maxMessageSize fuel (data.drop first.2)
      (first.1.toList ++ rest.1, rest.2)

/-- The messages of the unread bytes, and what stays unread. Every call but the last drops a byte,
so the fuel suffices. -/
def drain (lib : Nlohmann) (maxMessageSize : Nat) (data : Bytes) : List JsonMessage × Bytes :=
  drainFor lib maxMessageSize (data.length + 1) data

/-- Append the chunks one by one, draining after each. -/
def feed (lib : Nlohmann) (maxMessageSize : Nat) : Bytes → List Bytes → List JsonMessage × Bytes
  | unread, [] => ([], unread)
  | unread, chunk :: chunks =>
    let first := drain lib maxMessageSize (unread ++ chunk)
    let rest := feed lib maxMessageSize first.2 chunks
    (first.1 ++ rest.1, rest.2)

/-! ### The consumer is a line reader -/

section Reader

variable (lib : Nlohmann) {maxMessageSize : Nat}

theorem lineVerdict_long (line : Bytes) (long : maxMessageSize ≤ line.length) :
    lineVerdict lib maxMessageSize line = some makeParseError := by
  rw [lineVerdict, if_pos long]

theorem drainFor_nil (fuel : Nat) : drainFor lib maxMessageSize fuel [] = ([], []) := by
  cases fuel with
  | zero => rfl
  | succ fuel => rfl

variable (positive : 0 < maxMessageSize)
include positive

theorem drainFor_eq {fuel : Nat} {data : Bytes} (enough : data.length < fuel) :
    drainFor lib maxMessageSize fuel data
      = (reported newline maxMessageSize (lineVerdict lib maxMessageSize) makeParseError data,
        kept newline maxMessageSize data) := by
  induction data using lines_induction newline generalizing fuel with
  | free data outside =>
    obtain ⟨fuel, rfl⟩ := Nat.exists_eq_add_of_lt (Nat.zero_lt_of_lt enough)
    rw [Nat.zero_add, drainFor, tryParse_partial lib positive outside,
      reported_of_not_mem outside, kept, residue_of_not_mem outside]
    by_cases past : maxMessageSize ≤ data.length
    · have nonempty : data.length ≠ 0 := by omega
      simp only [if_pos past, if_neg nonempty, List.drop_length, drainFor_nil]
      rfl
    · simp only [if_neg past, if_true]
      rfl
  | line body rest outside ih =>
    obtain ⟨fuel, rfl⟩ := Nat.exists_eq_add_of_lt (Nat.zero_lt_of_lt enough)
    have shorter : rest.length < fuel := by
      rw [List.length_append, List.length_cons] at enough
      omega
    have dropped : (body ++ newline :: rest).drop (body.length + 1) = rest :=
      List.drop_length_add_append 1
    rw [Nat.zero_add, drainFor, tryParse_line lib maxMessageSize outside,
      if_neg (Nat.succ_ne_zero _), dropped, ih shorter, reported_append_cons outside, kept, kept,
      residue_append_cons outside]

/-- **Draining is reading lines up to the limit.** -/
theorem drain_eq (data : Bytes) :
    drain lib maxMessageSize data
      = (reported newline maxMessageSize (lineVerdict lib maxMessageSize) makeParseError data,
        kept newline maxMessageSize data) :=
  drainFor_eq lib positive (Nat.lt_succ_self _)

theorem feed_messages (unread : Bytes) (chunks : List Bytes) :
    (feed lib maxMessageSize unread chunks).1
      = feedReported newline maxMessageSize (lineVerdict lib maxMessageSize) makeParseError unread
          chunks := by
  induction chunks generalizing unread with
  | nil => rfl
  | cons chunk chunks ih =>
    rw [feed, drain_eq lib positive, feedReported]
    exact congrArg _ (ih _)

end Reader

/-! ### Chunk by chunk -/

/-- The unfinished line at the end of `before` reaches the size limit with `chunk`. -/
def ReachesLimit (maxMessageSize : Nat) (before chunk : Bytes) : Prop :=
  maxMessageSize ≤ (residue newline (before ++ chunk)).length ∧
    (newline ∈ chunk ∨ (residue newline before).length < maxMessageSize)

/-- Read as if a line started there, the first line gives no message: it is complete, short, and
skipped, or it is unfinished and short. -/
def TailSkipped (lib : Nlohmann) (maxMessageSize : Nat) (rest : Bytes) : Prop :=
  match lines newline rest with
  | [] => rest.length < maxMessageSize
  | line :: _ => line.length < maxMessageSize ∧ Skipped lib line

theorem silent_iff_tailSkipped (lib : Nlohmann) (maxMessageSize : Nat) (rest : Bytes) :
    Silent newline maxMessageSize (lineVerdict lib maxMessageSize) rest
      ↔ TailSkipped lib maxMessageSize rest := by
  unfold Silent TailSkipped
  cases lines newline rest with
  | nil => rfl
  | cons line others => exact lineVerdict_eq_none_iff lib maxMessageSize line

/-- **Chunk by chunk or at once.** The consumer gets the same messages either way if and only if
the tail of every line that reached the limit at the end of a chunk is skipped. -/
theorem feed_eq_drain_iff (lib : Nlohmann) {maxMessageSize : Nat} (positive : 1 ≤ maxMessageSize)
    (chunks : List Bytes) :
    (feed lib maxMessageSize [] chunks).1 = (drain lib maxMessageSize chunks.flatten).1
      ↔ ∀ before chunk after, chunks = before ++ chunk :: after →
          ReachesLimit maxMessageSize before.flatten chunk →
            TailSkipped lib maxMessageSize after.flatten := by
  have start : Follows newline maxMessageSize (lineVerdict lib maxMessageSize) [] [] chunks :=
    Or.inl ⟨positive, rfl⟩
  rw [feed_messages lib positive, drain_eq lib positive]
  rw [← List.nil_append chunks.flatten, feedReported_eq_iff (lineVerdict_long lib) positive start]
  unfold Clear
  simp only [List.nil_append, silent_iff_tailSkipped]
  rfl

/-- A line of 24 bytes and then the tail of the same line: cut between them, the tail is a request;
presented at once, it is part of one over-long line. -/
theorem feed_ne_drain_at_limit :
    ¬ ∀ (lib : Nlohmann) (maxMessageSize : Nat) (chunks : List Bytes), lib.Documented →
      1 ≤ maxMessageSize →
      (feed lib maxMessageSize [] chunks).1 = (drain lib maxMessageSize chunks.flatten).1 := by
  intro same
  have lengths := congrArg List.length (same compact 24
    [List.replicate 24 120, ascii "\x7b\"method\":\"stop\"\x7d\n"] compact_documented (by decide))
  exact absurd lengths (by decide +kernel)

/-- A line cut at the limit with nothing but blanks behind the cut. -/
theorem feed_eq_drain_blank_tail :
    (feed compact 24 [] [List.replicate 24 120, ascii "  \n"]).1
      = (drain compact 24 [List.replicate 24 120, ascii "  \n"].flatten).1 := by
  refine (feed_eq_drain_iff compact (by decide) [List.replicate 24 120, ascii "  \n"]).mpr ?_
  intro before chunk after cut _
  have tail : lines newline [ascii "  \n"].flatten = [ascii "  "] := by decide
  rcases before with _ | ⟨first, _ | ⟨second, before⟩⟩
  · cases cut
    rw [TailSkipped, tail]
    exact ⟨by decide, fun text trimmed => nomatch trimmed⟩
  · cases cut
    exact (by decide : 0 < 24)
  · cases before <;> cases cut

end DemoDaemon.Ipc
