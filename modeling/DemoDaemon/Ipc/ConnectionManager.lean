/-
**The connection manager**: sessions by id, and ids by descriptor.

The two maps are the fields of the source. Their agreement is `Consistent`: a descriptor that is
registered leads to a session with that descriptor, and a session is stored under its own id. Every
operation keeps it (`Consistent.addSession`, `Consistent.removeSessionByFd`, `Consistent.put`), with
no assumption on the descriptors that are added.
-/

import Mathlib.Data.List.AList
import DemoDaemon.Ipc.Session

namespace DemoDaemon.Ipc

structure ConnectionManager where
  sessionsById : AList fun _ : Nat => Session
  fdToId : AList fun _ : Int32 => Nat

namespace ConnectionManager

def empty : ConnectionManager := ⟨∅, ∅⟩

def addSession (manager : ConnectionManager) (session : Session) : ConnectionManager :=
  { sessionsById := manager.sessionsById.insert session.id session
    fdToId := manager.fdToId.insert session.fd session.id }

def removeSessionByFd (manager : ConnectionManager) (fd : Int32) : ConnectionManager :=
  match manager.fdToId.lookup fd with
  | none => manager
  | some id =>
    { sessionsById := manager.sessionsById.erase id
      fdToId := manager.fdToId.erase fd }

def getSessionByFd (manager : ConnectionManager) (fd : Int32) : Option Session :=
  (manager.fdToId.lookup fd).bind fun id => manager.sessionsById.lookup id

def sessionCount (manager : ConnectionManager) : Nat := manager.sessionsById.entries.length

/-- `close_all()`: every session is closed and forgotten. -/
def closeAll (_ : ConnectionManager) : ConnectionManager := empty

/-- A change made to a session through a `shared_ptr` to it. -/
def put (manager : ConnectionManager) (session : Session) : ConnectionManager :=
  { manager with sessionsById := manager.sessionsById.insert session.id session }

/-! ### Agreement of the maps -/

/-- The two maps agree. -/
structure Consistent (manager : ConnectionManager) : Prop where
  registered : ∀ fd id, manager.fdToId.lookup fd = some id →
    ∃ session, manager.sessionsById.lookup id = some session ∧ session.fd = fd
  own_id : ∀ id session, manager.sessionsById.lookup id = some session → session.id = id

theorem consistent_empty : empty.Consistent where
  registered fd id found := by simp [empty] at found
  own_id id session found := by simp [empty] at found

variable {manager : ConnectionManager}

theorem Consistent.getSessionByFd_fd (consistent : manager.Consistent) {fd : Int32}
    {session : Session} (found : manager.getSessionByFd fd = some session) : session.fd = fd := by
  obtain ⟨id, registered, stored⟩ := Option.bind_eq_some_iff.mp found
  obtain ⟨other, same, owned⟩ := consistent.registered fd id registered
  rw [stored] at same
  cases same
  exact owned

theorem Consistent.lookup_of_getSessionByFd (consistent : manager.Consistent) {fd : Int32}
    {session : Session} (found : manager.getSessionByFd fd = some session) :
    manager.fdToId.lookup fd = some session.id ∧
      manager.sessionsById.lookup session.id = some session := by
  obtain ⟨id, registered, stored⟩ := Option.bind_eq_some_iff.mp found
  rw [consistent.own_id id session stored]
  exact ⟨registered, stored⟩

/-- A new session, under an id that no session has. -/
theorem Consistent.addSession (consistent : manager.Consistent) {session : Session}
    (fresh : manager.sessionsById.lookup session.id = none) :
    (manager.addSession session).Consistent where
  registered fd id found := by
    show ∃ other, (manager.sessionsById.insert session.id session).lookup id = some other ∧ _
    by_cases here : fd = session.fd
    · subst here
      rw [ConnectionManager.addSession, AList.lookup_insert] at found
      cases found
      exact ⟨session, AList.lookup_insert _, rfl⟩
    · rw [ConnectionManager.addSession, AList.lookup_insert_ne here] at found
      obtain ⟨other, stored, owned⟩ := consistent.registered fd id found
      refine ⟨other, ?_, owned⟩
      rw [AList.lookup_insert_ne]
      · exact stored
      · rintro rfl
        rw [fresh] at stored
        cases stored
  own_id id other found := by
    by_cases here : id = session.id
    · subst here
      rw [ConnectionManager.addSession, AList.lookup_insert] at found
      cases found
      rfl
    · rw [ConnectionManager.addSession, AList.lookup_insert_ne here] at found
      exact consistent.own_id id other found

theorem Consistent.removeSessionByFd (consistent : manager.Consistent) (fd : Int32) :
    (manager.removeSessionByFd fd).Consistent := by
  unfold ConnectionManager.removeSessionByFd
  cases removed : manager.fdToId.lookup fd with
  | none => exact consistent
  | some gone =>
    obtain ⟨session, stored, owned⟩ := consistent.registered fd gone removed
    refine ⟨fun other id found => ?_, fun id other found => ?_⟩
    · dsimp only at found ⊢
      by_cases here : other = fd
      · rw [here, AList.lookup_erase] at found
        cases found
      · rw [AList.lookup_erase_ne here] at found
        obtain ⟨kept, keptStored, keptOwned⟩ := consistent.registered other id found
        refine ⟨kept, ?_, keptOwned⟩
        rw [AList.lookup_erase_ne]
        · exact keptStored
        · rintro rfl
          rw [stored] at keptStored
          cases keptStored
          exact here (keptOwned.symm.trans owned)
    · dsimp only at found
      by_cases here : id = gone
      · rw [here, AList.lookup_erase] at found
        cases found
      · rw [AList.lookup_erase_ne here] at found
        exact consistent.own_id id other found

/-- Overwriting a stored session keeps the agreement, as long as its descriptor stays. -/
theorem Consistent.put (consistent : manager.Consistent) {session before : Session}
    (stored : manager.sessionsById.lookup session.id = some before)
    (sameFd : session.fd = before.fd) : (manager.put session).Consistent where
  registered fd id found := by
    obtain ⟨other, otherStored, owned⟩ := consistent.registered fd id found
    show ∃ other, (manager.sessionsById.insert session.id session).lookup id = some other ∧ _
    by_cases here : id = session.id
    · subst here
      rw [stored] at otherStored
      cases otherStored
      exact ⟨session, AList.lookup_insert _, sameFd.trans owned⟩
    · exact ⟨other, by rw [AList.lookup_insert_ne here]; exact otherStored, owned⟩
  own_id id other found := by
    by_cases here : id = session.id
    · subst here
      rw [ConnectionManager.put, AList.lookup_insert] at found
      cases found
      rfl
    · rw [ConnectionManager.put, AList.lookup_insert_ne here] at found
      exact consistent.own_id id other found

end ConnectionManager

end DemoDaemon.Ipc
