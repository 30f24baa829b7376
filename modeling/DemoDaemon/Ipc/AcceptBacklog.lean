/-
**The accept loop and the backlog** (`UnixSocketServer::accept_connection`, `handle_epoll_event`).

The listening socket is registered edge-triggered: a connection that is pending when the loop ends
is not reported again. So the loop has to go on until `accept4` answers `EAGAIN`. It ends at the
first -1 of `accept_connection`, which stands for that answer, for any other failure of `accept4`,
and for a connection refused at the limit.

* `BacklogFits`: the first failure of `accept4` is `EAGAIN`, and every connection before it finds
  the table below the limit.
* **`backlog_drained_iff`**: in every reachable state the loop ends behind an `EAGAIN` if and only
  if the backlog fits.
-/

import DemoDaemon.Ipc.ServerTables

namespace DemoDaemon.Ipc

open Foundation

/-! ### The answers of one notification -/

def AcceptResult.isConnection : AcceptResult → Bool
  | .failed _ => false
  | .accepted _ _ _ _ => true

/-- A connection whose session is initialised and registered, if there is room. -/
def AcceptResult.joins : AcceptResult → Bool
  | .failed _ => false
  | .accepted _ flagsRead flagsSet registered => flagsRead && flagsSet && registered

/-- The connections in front of the first failure. -/
def arrivals (results : List AcceptResult) : List AcceptResult :=
  results.takeWhile AcceptResult.isConnection

/-- The first failure of `accept4` is `EAGAIN`; and the last connection in front of it, if there is
one, finds fewer than `maxConnections` sessions: those there were and those of the connections
before it. -/
def BacklogFits (maxConnections sessions : Nat) (results : List AcceptResult) : Prop :=
  (results.dropWhile AcceptResult.isConnection).head? ≠ some (.failed .other) ∧
    (arrivals results ≠ [] →
      sessions + (arrivals results).dropLast.countP AcceptResult.joins < maxConnections)

/-- Between two states of the server, an `accept4` reported `EAGAIN`. -/
def ReportsEmpty {χ : Type} (before after : Server χ) : Prop :=
  ∃ more, after.calls = before.calls ++ more ∧ SystemCall.accept4 (.error .again) ∈ more

/-! ### The condition, one answer at a time -/

theorem backlogFits_nil (maxConnections sessions : Nat) :
    BacklogFits maxConnections sessions [] := by
  refine ⟨?_, fun none => absurd rfl none⟩
  intro head
  cases head

theorem backlogFits_failed (maxConnections sessions : Nat) (errno : Errno)
    (results : List AcceptResult) :
    BacklogFits maxConnections sessions (.failed errno :: results) ↔ errno = .again := by
  have none : arrivals (.failed errno :: results) = [] := rfl
  have head : (List.dropWhile AcceptResult.isConnection (.failed errno :: results)).head?
      = some (.failed errno) := rfl
  rw [BacklogFits, none, head]
  cases errno with
  | again => simp
  | other => simp

/-- A connection must find room, and the rest must fit with it. -/
theorem backlogFits_accepted (maxConnections sessions : Nat) (fd : Int32)
    (flagsRead flagsSet registered : Bool) (results : List AcceptResult) :
    BacklogFits maxConnections sessions (.accepted fd flagsRead flagsSet registered :: results) ↔
      sessions < maxConnections ∧
        BacklogFits maxConnections (sessions + (flagsRead && flagsSet && registered).toNat)
          results := by
  have first : arrivals (.accepted fd flagsRead flagsSet registered :: results)
      = .accepted fd flagsRead flagsSet registered :: arrivals results := rfl
  have rest : (List.dropWhile AcceptResult.isConnection
      (.accepted fd flagsRead flagsSet registered :: results)).head?
        = (results.dropWhile AcceptResult.isConnection).head? := rfl
  rw [BacklogFits, BacklogFits, first, rest]
  cases later : arrivals results with
  | nil => simp [and_comm]
  | cons next more =>
    rw [List.dropLast_cons_of_ne_nil (List.cons_ne_nil next more), List.countP_cons]
    have counted : (if AcceptResult.joins (.accepted fd flagsRead flagsSet registered) = true then 1
        else 0) = (flagsRead && flagsSet && registered).toNat := by
      show (if (flagsRead && flagsSet && registered) = true then 1 else 0) = _
      cases flagsRead && flagsSet && registered <;> rfl
    rw [counted]
    constructor
    · rintro ⟨head, room⟩
      have room := room (List.cons_ne_nil _ _)
      exact ⟨by omega, head, fun _ => by omega⟩
    · rintro ⟨_, head, room⟩
      have room := room (List.cons_ne_nil _ _)
      exact ⟨head, fun _ => by omega⟩

/-! ### The loop -/

section Loop

variable {χ : Type}

/-- A connection that is taken reports no `EAGAIN`. -/
theorem calls_connect_again (server : Server χ) (fd : Int32) (initialized registered : Bool) :
    ∃ more, (server.connect fd initialized registered).calls = server.calls ++ more ∧
      SystemCall.accept4 (.error .again) ∉ more := by
  have quiet : SystemCall.accept4 (.error .again) ∉ [.accept4 (.ok fd)]
      ++ (.close fd :: (Session.create fd (server.nextSessionId + 1)).destroyed) := by
    rw [Session.destroyed]
    split_ifs <;> simp
  cases initialized <;> cases registered
  · exact ⟨_, List.append_assoc _ _ _, quiet⟩
  · exact ⟨_, List.append_assoc _ _ _, quiet⟩
  · exact ⟨_, List.append_assoc _ _ _, quiet⟩
  · exact ⟨[.accept4 (.ok fd)], rfl, by simp⟩

/-- **The loop ends behind an `EAGAIN` exactly when the backlog fits.** -/
theorem acceptLoop_reports {server : Server χ} (valid : server.Valid) (maxConnections : Nat)
    (results : List AcceptResult) :
    ∃ more, (acceptLoop maxConnections results server).calls = server.calls ++ more ∧
      (SystemCall.accept4 (.error .again) ∈ more ↔
        BacklogFits maxConnections server.manager.sessionCount results) := by
  induction results generalizing server with
  | nil => exact ⟨_, rfl, iff_of_true List.mem_cons_self (backlogFits_nil _ _)⟩
  | cons result results ih =>
    cases result with
    | failed errno =>
      refine ⟨[.accept4 (.error errno)], rfl, ?_⟩
      rw [backlogFits_failed]
      cases errno <;> simp
    | accepted fd flagsRead flagsSet registered =>
      rw [acceptLoop_accepted, backlogFits_accepted]
      by_cases full : maxConnections ≤ server.manager.sessionCount
      · rw [if_pos full]
        refine ⟨[SystemCall.accept4 (.ok fd)] ++ [SystemCall.close fd], ?_, ?_⟩
        · exact List.append_assoc server.calls [.accept4 (.ok fd)] [.close fd]
        · refine iff_of_false (by simp) ?_
          rintro ⟨room, -⟩
          omega
      · rw [if_neg full, and_iff_right (by omega)]
        obtain ⟨taken, connected, quiet⟩ :=
          calls_connect_again server fd (flagsRead && flagsSet) registered
        obtain ⟨more, looped, reports⟩ := ih (valid.connect fd (flagsRead && flagsSet) registered)
        refine ⟨taken ++ more, ?_, ?_⟩
        · rw [looped, connected, List.append_assoc]
        · rw [List.mem_append, or_iff_right quiet, reports, sessionCount_connected valid]

end Loop

/-- **The backlog is drained if and only if it fits.** In the state after any run of the server, for
every limit and all answers of `accept4`, `fcntl` and `epoll_ctl`: the notification is handled to an
`EAGAIN` exactly when no other failure comes first and no connection finds the table full. -/
theorem backlog_drained_iff {χ : Type} (lib : Nlohmann) (handler : CommandHandler χ)
    (maxConnections : Nat) (state : χ) (events : List ServerEvent) (results : List AcceptResult) :
    ReportsEmpty (serve lib handler maxConnections state events).server
        (handleEvent lib handler maxConnections (serve lib handler maxConnections state events)
          (.accept results)).server ↔
      BacklogFits maxConnections
        (serve lib handler maxConnections state events).server.manager.sessionCount results := by
  have recorded : Recorded lib handler (serve lib handler maxConnections state events) :=
    recorded_serve maxConnections state events
  obtain ⟨more, added, reports⟩ := acceptLoop_reports recorded.valid maxConnections results
  rw [← reports]
  constructor
  · rintro ⟨other, same, member⟩
    have split := same.symm.trans added
    rw [List.append_cancel_left split] at member
    exact member
  · intro member
    exact ⟨more, added, member⟩

/-- Two connections at a limit of one: the loop ends at the second, without an `EAGAIN`. -/
theorem backlog_left_at_limit :
    ¬ ∀ (lib : Nlohmann) (handler : CommandHandler Unit) (maxConnections : Nat)
      (events : List ServerEvent) (results : List AcceptResult),
      ReportsEmpty (serve lib handler maxConnections () events).server
        (handleEvent lib handler maxConnections (serve lib handler maxConnections () events)
          (.accept results)).server := by
  intro all
  obtain ⟨more, added, member⟩ := all ⟨fun _ => .error ⟨[]⟩, fun _ => .error ⟨[]⟩⟩
    (fun _ _ => (.error ⟨[]⟩, ())) 1 [] [.accepted 5 true true true, .accepted 6 true true true]
  have calls : more = [.accept4 (.ok 5), .accept4 (.ok 6), .close 6] := added.symm
  rw [calls] at member
  simp at member

end DemoDaemon.Ipc
