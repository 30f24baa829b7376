/-
**Tasks and who owns them** (`itask.hpp`).

A task is a value of any type with the virtual interface `ITask`. It lives on the heap behind a
`std::unique_ptr`, which `std::move` empties; following an empty one is undefined behaviour, which
the model reports as a fault (`UniquePtr.deref`).
-/

import DemoDaemon.Json.Value

namespace DemoDaemon.Tasks

open Foundation

inductive TaskState where
  | pending
  | running
  | stopping
  | stopped
  | failed
deriving DecidableEq

/-- The states `active_count` counts. -/
def TaskState.isActive (state : TaskState) : Bool := state == .running || state == .stopping

/-- The interface of a task. A method that changes the task gives its new value. -/
class ITask (τ : Type) where
  id : τ → Bytes
  type : τ → Bytes
  description : τ → Bytes
  state : τ → TaskState
  lastError : τ → Bytes
  /-- `start(stop_token)`, given whether a stop is requested at the call. -/
  start : τ → Bool → Except Exn Bool × τ
  requestStop : τ → τ
  /-- `wait_stopped(timeout)`, with the timeout in milliseconds. -/
  waitStopped : τ → Int → Except Exn Bool × τ

/-! ### Pointers -/

/-- An object on the heap: where it is, and what it is. -/
structure Object (τ : Type) where
  address : Nat
  value : τ

/-- `std::unique_ptr`. -/
abbrev UniquePtr (τ : Type) := Option (Object τ)

/-- `std::move` of a pointer into another: what arrives, and what is left behind. -/
def UniquePtr.move {τ : Type} (pointer : UniquePtr τ) : UniquePtr τ × UniquePtr τ := (pointer, none)

inductive Fault where
  | nullDereference
deriving DecidableEq

/-- `*pointer`. -/
def UniquePtr.deref {τ : Type} : UniquePtr τ → Except Fault (Object τ)
  | none => .error .nullDereference
  | some object => .ok object

end DemoDaemon.Tasks
