/-
**What happens to a session after `close()`.** The server may still hold a shared pointer to it, so
any of its operations may be called again.

* `lateCall`: the operations, as the steps of a transition system.
* `Session.Final`: closed, with both buffers empty.
* `late_final_iff`: **one call** keeps a closed session closed unless it is `on_writable`, which
  makes it `Active` again, or schedules a message that can be serialized.
* **`closed_is_final_iff`**: over every sequence of calls.
-/

import DemoDaemon.Ipc.SessionOutput
import DemoDaemon.Foundation.Transition

namespace DemoDaemon.Ipc

open Foundation

/-- An operation called on a session that was closed. -/
inductive LateCall where
  | onReadable (event : ReadEvent)
  | onWritable (stale : Errno) (results : List WriteResult)
  | scheduleSend (response : ResponseMessage)
  | scheduleSendError (response : ErrorResponseMessage)
  | close

section LateCalls

variable {σ : Type} (lib : Nlohmann) (handler : MessageHandler σ)

/-- Every call is possible; one that throws leaves the session as it was. -/
def lateCall (world : Session × σ) : LateCall → Option (Session × σ)
  | .onReadable event => some (world.1.onReadable lib handler event.stale event.results world.2).2
  | .onWritable stale results => some ((world.1.onWritable stale results).2.1, world.2)
  | .scheduleSend response => some (world.1.schedule lib (.response response), world.2)
  | .scheduleSendError response => some (world.1.schedule lib (.error response), world.2)
  | .close => some (world.1.close, world.2)

theorem lateCall_isSome (world : Session × σ) (action : LateCall) :
    (lateCall lib handler world action).isSome := by
  cases action <;> rfl

/-- Closed, to every reader of the state, with nothing to read or to write. -/
structure Session.Final (session : Session) : Prop where
  closed : session.state = .closed
  reported : session.isClosed = true
  read_empty : session.side.buffer.pending = []
  write_empty : session.writeBuffer.pending = []

theorem Session.final_iff (session : Session) :
    session.Final ↔ session.state = .closed ∧ session.side.buffer.pending = [] ∧
      session.writeBuffer.pending = [] := by
  constructor
  · intro final
    exact ⟨final.closed, final.read_empty, final.write_empty⟩
  · rintro ⟨closed, read, write⟩
    exact ⟨closed, by rw [Session.isClosed, closed]; rfl, read, write⟩

/-- The calls that leave a closed session closed. -/
def LateCall.Harmless : LateCall → Prop
  | .onReadable _ => True
  | .onWritable _ _ => False
  | .scheduleSend response => ∃ error, serialize lib response.message = .error error
  | .scheduleSendError response => ∃ error, serialize lib response.message = .error error
  | .close => True

theorem close_of_closed {session : Session} (closed : session.state = .closed) :
    session.close = session := by
  rw [Session.close, if_pos (Or.inl closed)]

/-- A closed session takes a message that can be serialized. -/
theorem schedule_final_iff {session : Session} (final : session.Final) (message : Outgoing) :
    (session.schedule lib message).Final
      ↔ ∃ error, serialize lib message.message = .error error := by
  rw [schedule_eq]
  cases written : serialize lib message.message with
  | error error =>
    rw [enqueue_error lib written]
    exact iff_of_true final ⟨error, rfl⟩
  | ok json =>
    obtain ⟨filled, done, pending⟩ := pending_enqueue lib written session.writeBuffer
    rw [done]
    refine iff_of_false ?_ ?_
    · intro after
      have empty : filled.pending = [] := after.write_empty
      rw [pending] at empty
      simp at empty
    · rintro ⟨error, same⟩
      cases same

/-- **One call.** -/
theorem late_final_iff {world : Session × σ} (final : world.1.Final) (action : LateCall) :
    (∃ after, lateCall lib handler world action = some after ∧ after.1.Final)
      ↔ action.Harmless lib := by
  have unfolded : ∀ next : Session × σ, (∃ after, some next = some after ∧ after.1.Final)
      ↔ next.1.Final := by
    intro next
    simp only [Option.some.injEq, exists_eq_left']
  cases action with
  | onReadable event =>
    refine (unfolded _).trans (iff_of_true ?_ trivial)
    rw [onReadable_closed lib handler final.closed]
    exact final
  | onWritable stale results =>
    -- not in the `Writing` state, so the state is set without looking at it
    have notWriting : world.1.state ≠ .writing := by
      rw [final.closed]
      exact SessionState.noConfusion
    refine (unfolded _).trans (iff_of_false ?_ not_false)
    rw [onWritable_of_not_writing notWriting]
    exact fun after => SessionState.noConfusion after.closed
  | scheduleSend response =>
    exact (unfolded _).trans (schedule_final_iff lib final (.response response))
  | scheduleSendError response =>
    exact (unfolded _).trans (schedule_final_iff lib final (.error response))
  | close =>
    refine (unfolded _).trans (iff_of_true ?_ trivial)
    rw [close_of_closed final.closed]
    exact final

/-- The sessions that `close()` does close: it returns early on one that is closed already, and
leaves its buffers. -/
def Session.Closable (session : Session) : Prop :=
  session.state ≠ .closing ∧ (session.state = .closed →
    session.side.buffer.pending = [] ∧ session.writeBuffer.pending = [])

theorem close_final_iff (session : Session) : session.close.Final ↔ session.Closable := by
  by_cases early : session.state = .closed ∨ session.state = .closing
  · rw [Session.close, if_pos early, Session.final_iff]
    rcases early with closed | closing
    · simp [Session.Closable, closed]
    · simp [Session.Closable, closing]
  · rw [Session.final_iff, Session.close, if_neg early]
    rw [not_or] at early
    refine iff_of_true ⟨rfl, IOBuffer.pending_clear _, IOBuffer.pending_clear _⟩ ⟨early.2, ?_⟩
    exact fun closed => absurd closed early.1

/-- **Closed is final exactly for harmless calls.** Whatever calls follow a `close()`, with any
answers of the system, every state on the way is closed with empty buffers if and only if `close()`
was not stopped by its guard with bytes left and no call is `on_writable` or schedules a message
that can be serialized. -/
theorem closed_is_final_iff (session : Session) (state : σ) (calls : List LateCall) :
    Throughout (lateCall lib handler) (session.close, state) (fun world => world.1.Final) calls
      ↔ session.Closable ∧ ∀ action ∈ calls, action.Harmless lib := by
  by_cases closable : session.Closable
  · have initial : session.close.Final := (close_final_iff session).mpr closable
    rw [and_iff_right closable,
      ← before_iff_forall_mem (lateCall lib handler) (session.close, state)
        (lateCall_isSome lib handler)]
    refine throughout_iff_before (lateCall lib handler) (session.close, state) initial ?_ calls
    intro _ world _ final action
    exact late_final_iff lib handler final action
  · refine iff_of_false ?_ fun both => closable both.1
    intro throughout
    obtain ⟨world, ran, final⟩ := throughout [] calls rfl
    cases ran
    exact closable ((close_final_iff session).mp final)

end LateCalls

/-- A new session is closed, and then told that its socket can be written: it is active again. -/
theorem onWritable_reopens_closed :
    ¬ ∀ (lib : Nlohmann) (session : Session) (calls : List LateCall), lib.Documented →
      Throughout (lateCall lib quietHandler) (session.close, ()) (fun world => world.1.Final)
        calls := by
  intro all
  have throughout := all compact (Session.create 7 1) [.onWritable .again []] compact_documented
  obtain ⟨world, ran, final⟩ := throughout [.onWritable .again []] [] rfl
  cases ran
  exact SessionState.noConfusion final.closed

end DemoDaemon.Ipc
