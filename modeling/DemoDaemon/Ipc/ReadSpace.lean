/-
**The space that `::read` is offered.**

A `::read` of zero bytes returns zero, as it does at the end of the stream, and `on_readable` would
close the session for it. It never comes to that.

* `Doubled.space`: on a capacity that is 4096 bytes doubled a few times, and below 1 MiB, the
  compaction and the growth of `read_from_socket` leave 1024 bytes or more.
* `Doubled.operated`: that is what all the operations on a read buffer leave the capacity at.
* **`zero_only_at_the_end`**: so whatever is done with a session, in every round of every
  `on_readable` zero is returned exactly when the peer has closed.
-/

import DemoDaemon.Ipc.SessionBuffers

namespace DemoDaemon.Ipc

open Foundation

/-! ### One round -/

theorem Doubled.capacity_le {buffer : IOBuffer} (doubled : Doubled buffer) :
    buffer.capacity ≤ maxBufferSize := by
  obtain ⟨doublings, few, capacity⟩ := doubled
  have bound : 2 ^ doublings ≤ 2 ^ 8 := Nat.pow_le_pow_right (by decide) few
  rw [capacity, maxBufferSize]
  omega

/-- **The space in front of `::read`.** When the buffer doubles, it does so by 4096 bytes or
more. -/
theorem Doubled.space {buffer : IOBuffer} (doubled : Doubled buffer)
    (notFull : ¬ maxBufferSize ≤ buffer.capacity) :
    1024 ≤ (prepared buffer).availableForWrite := by
  have least := doubled.capacity_ge
  rcases IOBuffer.prepared_cases (by omega) notFull with ⟨-, enough⟩ | ⟨twice, gained⟩
  · exact enough
  · obtain ⟨doublings, few, capacity⟩ := doubled.of_not_full notFull
    have bound : 2 ^ doublings ≤ 2 ^ 7 := Nat.pow_le_pow_right (by decide) few
    rw [maxBufferSize] at twice
    omega

theorem Doubled.fill {buffer : IOBuffer} (doubled : Doubled buffer) {bytes : Bytes}
    (fits : bytes.length ≤ buffer.availableForWrite) : Doubled (buffer.fill bytes fits) := by
  rw [Doubled, IOBuffer.capacity_fill]
  exact doubled

/-- Every operation on a read buffer leaves the capacity as it is, or doubles it below 1 MiB. -/
theorem Doubled.apply {buffer : IOBuffer} (doubled : Doubled buffer) {op : BufferOp}
    (reads : op.reads = true) : Doubled (buffer.apply op) := by
  cases op with
  | grow => exact doubled.grown
  | compact => exact doubled.compact
  | read bytes => exact doubled.fill (List.length_take_le _ _)
  | consume count =>
    have moved : Doubled (buffer.advanceRead _ (min_le_available buffer count)) := doubled
    exact moved.compact
  | append text => cases reads
  | clear => exact doubled

/-- **Run.** -/
theorem Doubled.operated {buffer final : IOBuffer} {ops : List BufferOp} (doubled : Doubled buffer)
    (operates : Operates BufferOp.reads buffer ops final) : Doubled final :=
  operates.keeps (fun _ _ reads kept => kept.apply reads) doubled

/-- A round that delivers bytes, and the parse loop behind it. -/
theorem Doubled.parsed {ω : Type} (lib : Nlohmann) (handle : ω → RequestMessage → ω)
    {side : ReadSide} (doubled : Doubled side.buffer) {bytes : Bytes}
    (fits : bytes.length ≤ (prepared side.buffer).availableForWrite) (fuel : Nat) (world : ω) :
    Doubled (tryParseMessages lib handle fuel { side with
      buffer := (prepared side.buffer).fill bytes fits
      received := side.received ++ bytes } world).1.buffer := by
  let filled : ReadSide := { side with
    buffer := (prepared side.buffer).fill bytes fits
    received := side.received ++ bytes }
  have ready : Doubled filled.buffer := doubled.prepare.fill fits
  exact ready.operated (operates_tryParseMessages lib handle fuel filled world)

/-- What `read_from_socket` leaves. -/
theorem Doubled.readFromSocket {buffer : IOBuffer} (doubled : Doubled buffer) (stale : Errno)
    (result : ReadResult) : Doubled (readFromSocket stale buffer result).2 := by
  by_cases full : maxBufferSize ≤ buffer.capacity
  · rw [readFromSocket_full full]
    exact doubled
  · cases result with
    | failed errno =>
      rw [readFromSocket_failed full]
      exact doubled.prepare
    | data bytes =>
      by_cases none : bytes.take (prepared buffer).availableForWrite = []
      · rw [readFromSocket_end full stale none]
        exact doubled.prepare
      · rw [readFromSocket_data full stale none]
        exact doubled.prepare.fill (List.length_take_le _ _)

/-- What holds in a round of `on_readable`: the capacity before and after `read_from_socket`, the
space when it comes to `::read`, and what a return of zero means. -/
structure Round.Spacious (round : Round) : Prop where
  before : Doubled round.before.buffer
  after : Doubled (readFromSocket round.stale round.before.buffer round.answer).2
  space : ¬ round.Overflows → 1024 ≤ (prepared round.before.buffer).availableForWrite
  zero : (readFromSocket round.stale round.before.buffer round.answer).1 = .endOfStream
    ↔ ¬ round.Overflows ∧ round.answer = .data []

/-- **Step.** -/
theorem Round.spacious_of_doubled {round : Round} (doubled : Doubled round.before.buffer) :
    round.Spacious := by
  refine ⟨doubled, doubled.readFromSocket _ _, doubled.space, ?_⟩
  by_cases full : maxBufferSize ≤ round.before.buffer.capacity
  · rw [readFromSocket_full full]
    refine ⟨fun same => ?_, fun both => absurd full both.1⟩
    cases same
  · have space := doubled.space full
    rw [and_iff_right (show ¬ round.Overflows from full)]
    cases answered : round.answer with
    | failed errno =>
      rw [readFromSocket_failed full]
      constructor <;> intro same <;> cases same
    | data bytes =>
      rw [ReadResult.data.injEq]
      by_cases none : bytes = []
      · have taken : bytes.take (prepared round.before.buffer).availableForWrite = [] := by
          rw [none, List.take_nil]
        rw [readFromSocket_end full _ taken]
        exact ⟨fun _ => none, fun _ => rfl⟩
      · have taken : bytes.take (prepared round.before.buffer).availableForWrite ≠ [] := by
          rw [Ne, List.take_eq_nil_iff]
          exact fun empty => empty.elim (by omega) none
        rw [readFromSocket_data full _ taken]
        refine ⟨fun same => ?_, fun same => absurd same none⟩
        cases same

/-! ### Every history -/

section History

variable {σ : Type} (lib : Nlohmann) (handler : MessageHandler σ)

/-- The rounds of an `on_readable` call start from the buffer of the session. -/
theorem spacious_readRounds {session : Session} (doubled : Doubled session.side.buffer)
    (event : ReadEvent) (state : σ) :
    ∀ round ∈ session.readRounds lib handler event state, round.Spacious := by
  unfold Session.readRounds
  cases begun : session.beginReading with
  | none => exact List.forall_mem_nil _
  | some opened =>
    rw [beginReading_eq_some begun]
    intro round listed
    obtain ⟨ops, leads⟩ := (recorded_readLoop lib (handleMessage lib handler) event.stale
      event.results session.side (session.writeBuffer, state)).rounds round listed
    exact Round.spacious_of_doubled (doubled.operated leads)

end History

/-- **A full buffer is never mistaken for the end of the stream.** After any history of a session
the capacity is 4096 bytes doubled at most eight times, so never above 1 MiB; and in every round of
an `on_readable` that follows, `::read` is offered 1024 bytes or more when it is called, and zero is
returned exactly when it is called and the peer has closed. -/
theorem zero_only_at_the_end {σ : Type} (lib : Nlohmann) (handler : MessageHandler σ) (fd : Int32)
    (id : Nat) (state : σ) (history : List SessionOp) :
    let world := history.foldl (sessionOp lib handler) (Session.create fd id, state)
    Doubled world.1.side.buffer ∧ world.1.side.buffer.capacity ≤ maxBufferSize ∧
      ∀ event, ∀ round ∈ world.1.readRounds lib handler event world.2, round.Spacious := by
  intro world
  have fresh : Doubled (Session.create fd id).side.buffer := ⟨0, by decide, capacity_fresh⟩
  have doubled : Doubled world.1.side.buffer :=
    fresh.operated (recorded_history lib handler history (Session.create fd id, state)).reads
  exact ⟨doubled, doubled.capacity_le, fun event =>
    spacious_readRounds lib handler doubled event world.2⟩

end DemoDaemon.Ipc
