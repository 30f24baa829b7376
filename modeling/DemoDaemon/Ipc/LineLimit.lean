/-
**The 1 MiB limit on lines.**

The parser and the session both name 1 MiB as the limit. The session tests it on the capacity of its
buffer, which doubles and never shrinks, so a line is refused well below the limit: from 512 KiB on,
depending on where `::read` happens to cut it.

* `ReadCall.ReadsOn`: a call gives up reading only because `::read` told it to.
* **`line_limit_iff`**: for lines that the parser accepts, all shorter than 1 MiB, a session keeps
  reading and never takes the overflow branch if and only if, in every round but the last, at most
  `523264` bytes of the unfinished line have arrived.
* `line_limit_overflows`: a request of 600 KB that takes the overflow branch.
-/

import DemoDaemon.Ipc.ReadRounds

namespace DemoDaemon.Ipc

open Foundation

/-! ### What the limit promises -/

/-- The answer of the last `::read` of the call. A round that overflows makes no call. -/
def ReadCall.lastRead (call : ReadCall) : Option ReadResult :=
  (call.rounds.filter fun round => ¬ round.Overflows).getLast?.map Round.answer

/-- A call on an open session returns true only when the last `::read` said that nothing more has
arrived, and false only at the end of the stream or on an error of the socket. -/
def ReadCall.ReadsOn (call : ReadCall) : Prop :=
  call.rounds ≠ [] →
    if call.returned then call.lastRead = some (.failed .again)
    else ∃ answer, call.lastRead = some answer ∧ answer.Ends

/-- Lines that the parser accepts, all of them shorter than 1 MiB. -/
def Legal (lib : Nlohmann) (bodies : List Bytes) : Prop :=
  ∀ body ∈ bodies, newline ∉ body ∧ heard lib body = true ∧ body.length < defaultMaxMessageSize

/-! ### A chain without overflows -/

/-- In a chain where an element is bad exactly when the one before it is heavy, and the first is not
bad, none is bad if and only if none but the last is heavy. -/
theorem none_bad_iff {α : Type} {bad heavy : α → Prop} {list : List α}
    (linked : list.IsChain fun first second => ¬ bad first → (bad second ↔ heavy first))
    (begins : ∀ first ∈ list.head?, ¬ bad first) :
    (∀ item ∈ list, ¬ bad item) ↔ ∀ item ∈ list.dropLast, ¬ heavy item := by
  induction list with
  | nil => exact ⟨nofun, nofun⟩
  | cons first rest ih =>
    have good : ¬ bad first := begins first rfl
    cases rest with
    | nil =>
      rw [List.forall_mem_singleton]
      exact ⟨fun _ => nofun, fun _ => good⟩
    | cons second rest =>
      obtain ⟨link, linked⟩ := List.isChain_cons_cons.mp linked
      rw [List.dropLast_cons_cons, List.forall_mem_cons, and_iff_right good]
      by_cases next : bad second
      · refine ⟨fun none => absurd next (none second List.mem_cons_self), fun light => ?_⟩
        exact absurd ((link good).mp next) (light first List.mem_cons_self)
      · have others := ih linked fun item isFirst => by
          rw [List.head?_cons, Option.mem_some_iff] at isFirst
          rw [← isFirst]
          exact next
        rw [others, List.forall_mem_cons, and_iff_right (fun heavy => next ((link good).mpr heavy))]

/-! ### Legal streams -/

section Legal

variable {lib : Nlohmann} {bodies : List Bytes}

theorem Legal.runsAtMost (legal : Legal lib bodies) :
    RunsAtMost newline (defaultMaxMessageSize - 1) (unlines newline bodies) :=
  .unlines (fun body listed => (legal body listed).1)
    fun body listed => Nat.le_sub_one_of_lt (legal body listed).2.2

/-- Every line that has arrived is heard. -/
theorem Legal.heard_of_mem (legal : Legal lib bodies) {arrived : Bytes}
    (part : arrived <+: unlines newline bodies) :
    ∀ line ∈ lines newline arrived, heard lib line = true := by
  intro line listed
  have inside := (lines_mono part).subset listed
  rw [lines_unlines fun body listed => (legal body listed).1] at inside
  exact (legal line inside).2.1

end Legal

/-! ### The theorem -/

section Calls

variable {lib : Nlohmann}

/-- A traced call without an overflow gives up reading only because `::read` told it to. -/
theorem Traced.readsOn {side ended : ReadSide} {call : ReadCall}
    (traced : Traced lib side call.returned ended call.rounds)
    (none : ∀ round ∈ call.rounds, ¬ round.Overflows) : call.ReadsOn := by
  intro _
  obtain ⟨last, isLast, returned, after⟩ := traced.last
  have reads : ¬ last.Overflows := none last (List.mem_of_getLast? isLast)
  have all : call.rounds.filter (fun round => ¬ round.Overflows) = call.rounds := by
    rw [List.filter_eq_self]
    intro round listed
    exact decide_eq_true (none round listed)
  have lastRead : call.lastRead = some last.answer := by
    rw [ReadCall.lastRead, all, isLast]
    rfl
  rw [returned, Round.stays, if_neg reads, lastRead]
  split_ifs with stays
  · rw [(ReadResult.stays_iff last.answer).mp stays]
  · exact ⟨last.answer, rfl, (after reads).1.resolve_left stays⟩

end Calls

/-- **When the 1 MiB limit is what a session enforces.** A new session is sent lines that the
parser accepts, all shorter than 1 MiB, through any `on_readable` calls and any answers of `::read`.
It never takes the overflow branch, reads until `::read` has nothing more, and dispatches every
request that has arrived, if and only if in every round but the last at most `523264` bytes of the
unfinished line have arrived. -/
theorem line_limit_iff {σ : Type} (lib : Nlohmann) (handler : MessageHandler σ) (fd : Int32)
    (id : Nat) (state : σ) (bodies : List Bytes) (legal : Legal lib bodies)
    (events : List ReadEvent)
    (arrived : (readEvents lib handler events (Session.create fd id) state).1.side.received
      <+: unlines newline bodies) :
    ((∀ call ∈ readCalls lib handler events (Session.create fd id) state,
        (∀ round ∈ call.rounds, ¬ round.Overflows) ∧ call.ReadsOn) ∧
      (readEvents lib handler events (Session.create fd id) state).1.side.dispatched
        = (lines newline
            (readEvents lib handler events (Session.create fd id) state).1.side.received).filterMap
          (requestOf lib))
      ↔ ∀ round ∈ ((readCalls lib handler events (Session.create fd id) state).flatMap
            ReadCall.rounds).dropLast,
          (residue newline round.before.received).length ≤ maxRun := by
  have follows : Follows lib (Session.create fd id).side := follows_fresh lib
  have traces := follows.traces handler events rfl state
    (legal.runsAtMost.of_infix arrived.isInfix)
  generalize (readEvents lib handler events (Session.create fd id) state).1 = final
    at arrived traces ⊢
  generalize readCalls lib handler events (Session.create fd id) state = calls at traces ⊢
  -- what is pending in a round is the unfinished line
  have pending : ∀ round ∈ calls.flatMap ReadCall.rounds,
      round.before.buffer.pending = residue newline round.before.received := by
    intro round listed
    obtain ⟨call, isCall, inCall⟩ := List.mem_flatMap.mp listed
    rcases traces.traced call isCall with none | ⟨side, ended, traced, earlier⟩
    · rw [none] at inCall
      exact absurd inCall List.not_mem_nil
    · obtain ⟨follows, part⟩ := traced.within round inCall
      rw [follows.pending]
      refine unread_of_all (List.dropWhile_eq_nil_iff.mpr ?_)
      exact legal.heard_of_mem ((part.trans earlier).trans arrived)
  have overflows : (∀ round ∈ calls.flatMap ReadCall.rounds, ¬ round.Overflows) ↔
      ∀ round ∈ (calls.flatMap ReadCall.rounds).dropLast,
        (residue newline round.before.received).length ≤ maxRun := by
    rw [none_bad_iff traces.linked]
    · refine forall₂_congr fun round listed => ?_
      rw [pending round (List.dropLast_subset _ listed), Nat.not_lt]
    · intro first isFirst
      rw [Round.Overflows, traces.begins first isFirst]
      exact not_full_fresh
  rw [← overflows]
  constructor
  · rintro ⟨each, -⟩ round listed
    obtain ⟨call, isCall, inCall⟩ := List.mem_flatMap.mp listed
    exact (each call isCall).1 round inCall
  · intro none
    have inCall : ∀ call ∈ calls, ∀ round ∈ call.rounds, ¬ round.Overflows :=
      fun call isCall round listed => none round (List.mem_flatMap.mpr ⟨call, isCall, listed⟩)
    refine ⟨fun call isCall => ⟨inCall call isCall, ?_⟩, ?_⟩
    · rcases traces.traced call isCall with silent | ⟨side, ended, traced, -⟩
      · exact fun some => absurd silent some
      · exact traced.readsOn (inCall call isCall)
    · rw [traces.dispatched, requests, accepted,
        List.takeWhile_eq_self_iff.mpr (legal.heard_of_mem arrived)]

/-- A request that arrives at once. -/
theorem line_limit_at_once :
    (∀ call ∈ readCalls compact quietHandler
        [⟨.again, [.data (ascii "\x7b\"method\":\"a\"\x7d\n")]⟩] (Session.create 7 1) (),
      (∀ round ∈ call.rounds, ¬ round.Overflows) ∧ call.ReadsOn) ∧
    (readEvents compact quietHandler [⟨.again, [.data (ascii "\x7b\"method\":\"a\"\x7d\n")]⟩]
        (Session.create 7 1) ()).1.side.dispatched
      = (lines newline (readEvents compact quietHandler
          [⟨.again, [.data (ascii "\x7b\"method\":\"a\"\x7d\n")]⟩]
          (Session.create 7 1) ()).1.side.received).filterMap (requestOf compact) := by
  refine (line_limit_iff compact quietHandler 7 1 () [ascii "\x7b\"method\":\"a\"\x7d"] ?_ _
    ?_).mpr (by decide +kernel)
  · intro body listed
    rw [List.mem_singleton] at listed
    rw [listed]
    decide +kernel
  · rw [received_at_once quietHandler 7 1 () (by decide) (by decide)]
    exact List.prefix_refl _

/-! ### A request that overflows -/

section Chunks

variable {ω : Type} {lib : Nlohmann} (handle : ω → RequestMessage → ω)

/-- A buffer that is not full has room for 1024 bytes after `prepared`. -/
theorem Follows.room_prepared {side : ReadSide} (follows : Follows lib side)
    (notFull : ¬ maxBufferSize ≤ side.buffer.capacity) :
    1024 ≤ (prepared side.buffer).availableForWrite := by
  obtain ⟨start, pending, capacity⟩ := prepared_spec follows.start
  obtain ⟨doublings, -, size⟩ := follows.capacity
  have positive := Nat.two_pow_pos doublings
  have half := follows.capacity_le_of_not_full notFull
  have within := length_pending_le_capacity follows.start
  rw [IOBuffer.availableForWrite_of_readPos start, pending, capacity, maxBufferSize]
  split_ifs with grows <;> omega

/-- Chunks of at most 1024 bytes are received whole, up to the first overflow. -/
theorem Follows.readLoop_chunks (stale : Errno) {chunks : List Bytes}
    (small : ∀ chunk ∈ chunks, chunk ≠ [] ∧ chunk.length ≤ 1024) {side : ReadSide}
    (follows : Follows lib side) (world : ω)
    (bounded : RunsAtMost newline (defaultMaxMessageSize - 1) (side.received ++ chunks.flatten)) :
    (readLoop lib handle stale (chunks.map .data) side world).2.1.received
        <+: side.received ++ chunks.flatten ∧
      ((∀ round ∈ rounds lib handle stale (chunks.map .data) side world, ¬ round.Overflows) →
        ∃ round ∈ rounds lib handle stale (chunks.map .data) side world,
          Follows lib round.before ∧ round.before.received = side.received ++ chunks.flatten) := by
  induction chunks generalizing side world with
  | nil =>
    rw [List.flatten_nil, List.append_nil]
    refine ⟨?_, fun _ => ⟨_, List.mem_singleton_self _, follows, rfl⟩⟩
    show (readLoop lib handle stale [] side world).2.1.received <+: side.received
    by_cases full : maxBufferSize ≤ side.buffer.capacity
    · rw [readLoop_full lib handle stale full]
    · rw [readLoop_nil lib handle stale full]
  | cons chunk chunks ih =>
    rw [List.map_cons]
    by_cases full : maxBufferSize ≤ side.buffer.capacity
    · rw [readLoop_full lib handle stale full, rounds_full lib handle stale full]
      exact ⟨List.prefix_append _ _, fun none => absurd full (none _ (List.mem_singleton_self _))⟩
    · obtain ⟨some, fits⟩ := small chunk List.mem_cons_self
      have whole : chunk.take (prepared side.buffer).availableForWrite = chunk :=
        List.take_of_length_le (Nat.le_trans fits (follows.room_prepared full))
      have taken : chunk.take (prepared side.buffer).availableForWrite ≠ [] := by
        rw [whole]
        exact some
      rw [List.flatten_cons, ← List.append_assoc] at bounded ⊢
      have short := (bounded.of_infix (List.prefix_append _ _).isInfix).length_residue_le
      have arrives := follows.arrive handle (List.length_take_le _ chunk)
        (by rw [whole]; exact Nat.lt_of_le_of_lt short (by decide)) world
      have received := arrives.received.trans (congrArg (side.received ++ ·) whole)
      rw [readLoop_data lib handle stale full taken, rounds_data lib handle stale full taken,
        ← received]
      obtain ⟨part, last⟩ := ih (fun other listed => small other (List.mem_cons_of_mem _ listed))
        arrives.follows _ (by rw [received]; exact bounded)
      refine ⟨part, fun none => ?_⟩
      obtain ⟨round, listed, reached⟩ :=
        last fun other listed => none other (List.mem_cons_of_mem _ listed)
      exact ⟨round, List.mem_cons_of_mem _ listed, reached⟩

end Chunks

/-- A request behind 600000 blanks. -/
def paddedRequest : Bytes := List.replicate 600000 32 ++ ascii "\x7b\"method\":\"a\"\x7d"

theorem legal_paddedRequest : Legal compact [paddedRequest] := by
  intro body listed
  rw [List.mem_singleton] at listed
  have length : paddedRequest.length = 600014 := by
    rw [paddedRequest, List.length_append, List.length_replicate]
    rfl
  have padded : ∀ byte ∈ List.replicate 600000 (32 : UInt8), byte ∈ blanks := by
    intro byte member
    rw [List.eq_of_mem_replicate member]
    decide
  have head : (ascii "\x7b\"method\":\"a\"\x7d").head? = some 123 := rfl
  have tail : (ascii "\x7b\"method\":\"a\"\x7d").getLast? = some 125 := rfl
  have text : trim paddedRequest = some (ascii "\x7b\"method\":\"a\"\x7d") := by
    rw [paddedRequest]
    exact trim_padded padded head tail (by decide) (by decide)
  subst listed
  refine ⟨?_, ?_, ?_⟩
  · rw [paddedRequest, List.mem_append]
    rintro (member | member)
    · exact absurd (List.eq_of_mem_replicate member) (by decide)
    · exact absurd member (by decide)
  · rw [heard, lineVerdict_of_lt compact (by rw [length]; decide), text]
    decide +kernel
  · rw [length]
    decide

/-- The blanks arrive 1024 at a time, 513 times. -/
def paddedChunks : List Bytes := List.replicate 513 (List.replicate 1024 32)

theorem flatten_paddedChunks : paddedChunks.flatten = List.replicate 525312 32 := by
  rw [paddedChunks, List.flatten_replicate_replicate]

theorem small_paddedChunks : ∀ chunk ∈ paddedChunks, chunk ≠ [] ∧ chunk.length ≤ 1024 := by
  intro chunk listed
  have length : chunk.length = 1024 := by
    rw [List.eq_of_mem_replicate listed, List.length_replicate]
  exact ⟨List.ne_nil_of_length_pos (by omega), by omega⟩

theorem prefix_paddedChunks : paddedChunks.flatten <+: unlines newline [paddedRequest] := by
  have split : List.replicate 600000 (32 : UInt8)
      = List.replicate 525312 32 ++ List.replicate 74688 32 := by
    rw [List.replicate_append_replicate]
  rw [flatten_paddedChunks, unlines_cons, paddedRequest, split, List.append_assoc,
    List.append_assoc]
  exact List.prefix_append _ _

/-- **A legal request that overflows.** The request is legal, and the session refuses to read
it to its end. -/
theorem line_limit_overflows :
    ¬ ∀ (bodies : List Bytes) (events : List ReadEvent), Legal compact bodies →
      (readEvents compact quietHandler events (Session.create 7 1) ()).1.side.received
        <+: unlines newline bodies →
      ∀ call ∈ readCalls compact quietHandler events (Session.create 7 1) (),
        ∀ round ∈ call.rounds, ¬ round.Overflows := by
  intro claimed
  have active : (Session.create 7 1).state = .active := rfl
  have nothing : (Session.create 7 1).side.received = [] := rfl
  have fresh : Follows compact (Session.create 7 1).side := follows_fresh compact
  have chunks := fresh.readLoop_chunks (handleMessage compact quietHandler) .again
    small_paddedChunks ((Session.create 7 1).writeBuffer, ())
  rw [nothing, List.nil_append] at chunks
  obtain ⟨part, whole⟩ := chunks (legal_paddedRequest.runsAtMost.of_infix
    prefix_paddedChunks.isInfix)
  obtain ⟨received, trace⟩ := readEvents_single compact quietHandler active
    ⟨.again, paddedChunks.map .data⟩ ()
  dsimp only at received trace
  have claims := claimed [paddedRequest] [⟨.again, paddedChunks.map .data⟩] legal_paddedRequest (by
    rw [received]
    exact part.trans prefix_paddedChunks)
  have none := List.forall_mem_flatMap.mpr claims
  rw [trace] at none
  -- the whole padding would have to fit into 512 KiB
  obtain ⟨round, listed, follows, received⟩ := whole none
  have capacity := follows.capacity_le_of_not_full (none round listed)
  have pending := length_pending_le_capacity follows.start
  have free : newline ∉ List.replicate 525312 (32 : UInt8) :=
    fun member => absurd (List.eq_of_mem_replicate member) (by decide)
  rw [follows.pending, received, flatten_paddedChunks, unread_of_not_mem free,
    List.length_replicate] at pending
  omega

end DemoDaemon.Ipc
