/-
**The parse loop makes progress and ends** (`try_parse`, `try_parse_messages`).

The loop stops only when `try_parse` returns nothing, so a message that had consumed no bytes would
keep it going for ever.

* `Progresses`, `CutsInside`: what one call of `try_parse` consumes, and where its `substr` cut.
* `parseLoop`: the loop on a buffer without its invariant, for a parser with any message size limit,
  with a record of every `advance_read`.
* **`iterate_raw`**: one iteration. **`parseLoop_raw`**: the whole loop. It ends within `n + 1`
  iterations for `n` unread bytes.
* `parseLoop_default`: with the limit of a session it is `tryParseMessages`.
-/

import DemoDaemon.Ipc.BufferQueue

namespace DemoDaemon.Ipc

open Foundation

/-! ### One call of the parser -/

/-- What a call of `try_parse` consumes: no more than there is, and something with a message. -/
structure Progresses (lib : Nlohmann) (maxMessageSize : Nat) (data : Bytes) : Prop where
  within : (tryParse lib maxMessageSize data).2 ≤ data.length
  positive : (tryParse lib maxMessageSize data).1.isSome = true →
    1 ≤ (tryParse lib maxMessageSize data).2

theorem progresses (lib : Nlohmann) (maxMessageSize : Nat) (data : Bytes) :
    Progresses lib maxMessageSize data := by
  refine ⟨tryParse_consumed_le lib maxMessageSize data, ?_⟩
  by_cases member : newline ∈ data
  · obtain ⟨body, rest, rfl, free⟩ := List.eq_append_cons_of_mem member
    rw [tryParse_line lib maxMessageSize free]
    exact fun _ => Nat.le_add_left 1 _
  · have absent : data.idxOf? newline = none := List.idxOf?_eq_none_iff.mpr member
    unfold tryParse
    rw [absent]
    cases data with
    | nil => exact fun found => by cases found
    | cons byte rest =>
      rw [if_neg (by rw [List.isEmpty_cons]; exact Bool.false_ne_true)]
      dsimp only
      split_ifs
      · exact fun _ => Nat.le_add_left 1 _
      · exact fun found => by cases found

/-- The two `substr` of `try_parse` cut inside the text they are called on, from a first to a last
position that are in order. -/
structure CutsInside (data : Bytes) : Prop where
  line : ∀ newlinePos, data.idxOf? newline = some newlinePos →
    newlinePos < data.length ∧ (substr data 0 newlinePos).length = newlinePos
  trimmed : ∀ newlinePos start, data.idxOf? newline = some newlinePos →
    findFirstNotOf blanks (substr data 0 newlinePos) = some start →
    ∃ last, findLastNotOf blanks (substr data 0 newlinePos) = some last ∧ start ≤ last ∧
      start + (last - start + 1) ≤ newlinePos

theorem cutsInside (data : Bytes) : CutsInside data := by
  have line : ∀ newlinePos, data.idxOf? newline = some newlinePos →
      newlinePos < data.length ∧ (substr data 0 newlinePos).length = newlinePos := by
    intro newlinePos found
    have member : newline ∈ data := by
      by_contra absent
      rw [List.idxOf?_eq_none_iff.mpr absent] at found
      cases found
    obtain ⟨body, rest, rfl, free⟩ := List.eq_append_cons_of_mem member
    rw [idxOf?_append_cons free, Option.some.injEq] at found
    have inside : newlinePos < (body ++ newline :: rest).length := by
      rw [List.length_append, List.length_cons]
      omega
    refine ⟨inside, ?_⟩
    rw [substr, List.drop_zero, List.length_take]
    exact Nat.min_eq_left (Nat.le_of_lt inside)
  refine ⟨line, ?_⟩
  intro newlinePos start found first
  obtain ⟨last, trimmed, ordered, inside⟩ := findLastNotOf_of_first first
  rw [(line newlinePos found).2] at inside
  exact ⟨last, trimmed, ordered, by omega⟩

/-! ### The loop -/

/-- How an iteration goes: the loop breaks, or goes on, with the buffer right behind `advance_read`
and behind `compact`. -/
inductive Iteration (ω : Type) where
  | breaks
  | goesOn (advanced compacted : RawBuffer) (world : ω)

section Loop

variable {ω : Type} (lib : Nlohmann) (maxMessageSize : Nat) (handle : ω → RequestMessage → ω)

/-- The body of the loop of `try_parse_messages`. -/
def iterate (buffer : RawBuffer) (world : ω) : Except BufferFault (Iteration ω) := do
  let view ← buffer.getReadView
  let result := tryParse lib maxMessageSize view
  match result.1 with
  | none => return .breaks
  | some message =>
    let world := if message.isRequest then handle world message.toRequest else world
    let advanced := buffer.advanceRead result.2
    let compacted ← advanced.compact
    return .goesOn advanced compacted world

/-- The loop, cut off after `fuel` iterations: nothing then, else the buffer behind every
`advance_read`, and where it has left the buffer and the handler. It has one iteration more than it
has such calls. -/
def parseLoop : Nat → RawBuffer → ω → Except BufferFault (Option (List RawBuffer × RawBuffer × ω))
  | 0, _, _ => .ok none
  | fuel + 1, buffer, world => do
    match ← iterate lib maxMessageSize handle buffer world with
    | .breaks => return some ([], buffer, world)
    | .goesOn advanced compacted world =>
      let rest ← parseLoop fuel compacted world
      return rest.map fun ended => (advanced :: ended.1, ended.2)

/-- **Step.** On a buffer that keeps its invariant an iteration does not fault, and one that goes on
reads at least one byte and none that is not there. -/
theorem iterate_raw (buffer : IOBuffer) (world : ω) :
    ((tryParse lib maxMessageSize buffer.pending).1 = none ∧
      iterate lib maxMessageSize handle buffer.raw world = .ok .breaks) ∨
    ∃ message count, ∃ enough : count ≤ buffer.availableForRead, 1 ≤ count ∧
      tryParse lib maxMessageSize buffer.pending = (some message, count) ∧
      iterate lib maxMessageSize handle buffer.raw world
        = .ok (.goesOn (buffer.advanceRead count enough).raw
            (buffer.advanceRead count enough).compact.raw
            (if message.isRequest then handle world message.toRequest else world)) := by
  have progress := progresses lib maxMessageSize buffer.pending
  have started : iterate lib maxMessageSize handle buffer.raw world = (do
      let result := tryParse lib maxMessageSize buffer.pending
      match result.1 with
      | none => return .breaks
      | some message =>
        let world := if message.isRequest then handle world message.toRequest else world
        let advanced := buffer.raw.advanceRead result.2
        let compacted ← advanced.compact
        return .goesOn advanced compacted world) := by
    rw [iterate, IOBuffer.getReadView_raw]
    rfl
  rcases parsed : tryParse lib maxMessageSize buffer.pending with ⟨_ | message, count⟩
  · left
    refine ⟨rfl, ?_⟩
    rw [started, parsed]
    rfl
  · right
    have enough : count ≤ buffer.availableForRead := by
      have within := progress.within
      rw [parsed, IOBuffer.length_pending] at within
      exact within
    have some : 1 ≤ count := by
      have positive := progress.positive
      rw [parsed] at positive
      exact positive rfl
    have compacted : (buffer.raw.advanceRead count).compact
        = .ok (buffer.advanceRead count enough).compact.raw :=
      (buffer.advanceRead count enough).compact_raw
    refine ⟨message, count, enough, some, rfl, ?_⟩
    rw [started, parsed]
    dsimp only
    rw [compacted]
    rfl

/-- The loop over the unread bytes of a buffer: the same end for every bound of `n + 1` or more
iterations, no more than `n` calls of `advance_read`, none of which passes the write position. -/
def ParseLoopEnds (buffer : IOBuffer) (world : ω) : Prop :=
  ∃ advances final ended,
    (∀ fuel, buffer.availableForRead + 1 ≤ fuel →
      parseLoop lib maxMessageSize handle fuel buffer.raw world
        = .ok (some (advances, final, ended))) ∧
    advances.length + 1 ≤ buffer.availableForRead + 1 ∧
    ∀ advanced ∈ advances, advanced.readPos ≤ advanced.writePos

/-- **Run.** The induction is on the number of unread bytes. -/
theorem parseLoop_raw (buffer : IOBuffer) (world : ω) :
    ParseLoopEnds lib maxMessageSize handle buffer world := by
  induction size : buffer.availableForRead using Nat.strong_induction_on
    generalizing buffer world with
  | _ size ih =>
    rcases iterate_raw lib maxMessageSize handle buffer world with
      ⟨-, breaks⟩ | ⟨message, count, enough, some, -, goesOn⟩
    · refine ⟨[], buffer.raw, world, ?_, Nat.le_add_left 1 _,
        List.forall_mem_nil _⟩
      intro fuel fuelled
      obtain ⟨fuel, rfl⟩ := Nat.exists_eq_add_of_le' (Nat.le_of_add_left_le fuelled)
      rw [parseLoop, breaks]
      rfl
    · set advanced := buffer.advanceRead count enough
      set next := if message.isRequest then handle world message.toRequest else world
      have left : advanced.compact.availableForRead = buffer.availableForRead - count := by
        rw [← IOBuffer.length_pending, IOBuffer.pending_compact, IOBuffer.pending_advanceRead,
          List.length_drop, IOBuffer.length_pending]
      obtain ⟨advances, final, ended, run, few, ordered⟩ :=
        ih advanced.compact.availableForRead (by omega) advanced.compact next rfl
      refine ⟨advanced.raw :: advances, final, ended, ?_, ?_, ?_⟩
      · intro fuel fuelled
        obtain ⟨fuel, rfl⟩ := Nat.exists_eq_add_of_le' (Nat.le_of_add_left_le fuelled)
        rw [parseLoop, goesOn]
        show (do
          let rest ← parseLoop lib maxMessageSize handle fuel advanced.compact.raw next
          pure _) = _
        rw [run fuel (by omega)]
        rfl
      · rw [List.length_cons]
        omega
      · rw [List.forall_mem_cons]
        exact ⟨advanced.ordered, ordered⟩

/-- With the limit of a session the loop is `tryParseMessages`. -/
theorem parseLoop_default (fuel : Nat) (side : ReadSide) (world : ω) {advances : List RawBuffer}
    {final : RawBuffer} {ended : ω}
    (ran : parseLoop lib defaultMaxMessageSize handle fuel side.buffer.raw world
      = .ok (some (advances, final, ended))) :
    (tryParseMessages lib handle fuel side world).1.buffer.raw = final ∧
      (tryParseMessages lib handle fuel side world).2 = ended := by
  induction fuel generalizing side world advances with
  | zero => cases ran
  | succ fuel ih =>
    rcases iterate_raw lib defaultMaxMessageSize handle side.buffer world with
      ⟨nothing, breaks⟩ | ⟨message, count, enough, -, parsed, goesOn⟩
    · rw [parseLoop, breaks] at ran
      cases ran
      rw [tryParseMessages_none lib handle nothing]
      exact ⟨rfl, rfl⟩
    · rw [parseLoop, goesOn] at ran
      set next := if message.isRequest then handle world message.toRequest else world
      change (do
        let rest ← parseLoop lib defaultMaxMessageSize handle fuel
          (side.buffer.advanceRead count enough).compact.raw next
        pure _) = _ at ran
      rcases further : parseLoop lib defaultMaxMessageSize handle fuel
        (side.buffer.advanceRead count enough).compact.raw next with
        fault | _ | ⟨rest, last, left⟩
      · rw [further] at ran
        cases ran
      · rw [further] at ran
        cases ran
      · rw [further] at ran
        cases ran
        rw [tryParseMessages]
        simp only [parsed]
        exact ih { side with buffer := _, dispatched := _ } next further

end Loop

/-- **The parse loop makes progress and ends**, for every buffer, every size limit and every handler
that leaves the read buffer alone. Every call of `try_parse` consumes at most what there is, and
something when it returns a message; its `substr` cut inside the line; the loop ends within `n + 1`
iterations for `n` unread bytes, and never advances past the write position. With the limit of a
session that is the loop of `on_readable`. -/
theorem parse_loop_progresses :
    (∀ lib maxMessageSize data, Progresses lib maxMessageSize data) ∧ (∀ data, CutsInside data) ∧
    ∀ (ω : Type) (lib : Nlohmann) (handle : ω → RequestMessage → ω) (side : ReadSide) (world : ω),
      (∀ maxMessageSize, ParseLoopEnds lib maxMessageSize handle side.buffer world) ∧
      ∀ fuel, side.buffer.availableForRead + 1 ≤ fuel → ∃ advances,
        parseLoop lib defaultMaxMessageSize handle fuel side.buffer.raw world
          = .ok (some (advances, (tryParseMessages lib handle fuel side world).1.buffer.raw,
              (tryParseMessages lib handle fuel side world).2)) := by
  refine ⟨progresses, cutsInside, ?_⟩
  intro ω lib handle side world
  refine ⟨fun maxMessageSize => parseLoop_raw lib maxMessageSize handle side.buffer world, ?_⟩
  intro fuel fuelled
  obtain ⟨advances, final, ended, run, -, -⟩ :=
    parseLoop_raw lib defaultMaxMessageSize handle side.buffer world
  obtain ⟨same, left⟩ := parseLoop_default lib handle fuel side world (run fuel fuelled)
  refine ⟨advances, ?_⟩
  rw [same, left]
  exact run fuel fuelled

end DemoDaemon.Ipc
