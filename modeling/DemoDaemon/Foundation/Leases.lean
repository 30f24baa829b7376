/-
**Resources that are acquired and released**, by the log of both.

A name can be acquired again once it is released, so a name has several lives. `releases a log`
counts the releases of the current life.

* `Fresh`: nothing is acquired while it is held.
* `ReleasedOnce`: every life has exactly one release, except that a last life may have none while
  somebody owns it. **`ReleasedOnce.le_one`**: then no life ever had two.
* `Accounted`: the invariant of a program that releases what it owns, once. It is kept by acquiring
  something new, by releasing something owned (**`Accounted.acquire`**, **`Accounted.release`**) and by
  releasing everything (**`Accounted.releaseAll`**).
-/

import Mathlib.Data.List.Induction

namespace Foundation

inductive Lease (α : Type) where
  | acquire (name : α)
  | release (name : α)
deriving DecidableEq

section Leases

variable {α : Type}

/-- The name that an entry is about. -/
def Lease.name : Lease α → α
  | .acquire name => name
  | .release name => name

variable [DecidableEq α]

/-- The releases in the current life of a name, after one more entry. -/
def recount (name : α) (count : Option Nat) : Lease α → Option Nat
  | .acquire other => if other = name then some 0 else count
  | .release other => if other = name then count.map (· + 1) else count

/-- How often a name was released since it was last acquired; `none` if it never was. -/
def releases (name : α) (log : List (Lease α)) : Option Nat := log.foldl (recount name) none

@[simp] theorem releases_nil (name : α) : releases name [] = none := rfl

@[simp]
theorem releases_concat_acquire (name other : α) (log : List (Lease α)) :
    releases name (log ++ [Lease.acquire other])
      = if other = name then some 0 else releases name log := by
  rw [releases, List.foldl_append]
  rfl

@[simp]
theorem releases_concat_release (name other : α) (log : List (Lease α)) :
    releases name (log ++ [Lease.release other])
      = if other = name then (releases name log).map (· + 1) else releases name log := by
  rw [releases, List.foldl_append]
  rfl

/-- Other names do not count. -/
theorem releases_append_of_other {name : α} {log tail : List (Lease α)}
    (other : ∀ entry ∈ tail, entry.name ≠ name) :
    releases name (log ++ tail) = releases name log := by
  induction tail using List.reverseRecOn with
  | nil => rw [List.append_nil]
  | append_singleton tail entry ih =>
    rw [List.forall_mem_append, List.forall_mem_singleton] at other
    rw [← List.append_assoc]
    cases entry with
    | acquire touched =>
      have different : touched ≠ name := other.2
      rw [releases_concat_acquire, if_neg different, ih other.1]
    | release touched =>
      have different : touched ≠ name := other.2
      rw [releases_concat_release, if_neg different, ih other.1]

theorem acquire_mem_of_releases {name : α} {log : List (Lease α)} {count : Nat}
    (counted : releases name log = some count) : .acquire name ∈ log := by
  induction log using List.reverseRecOn generalizing count with
  | nil => cases counted
  | append_singleton log entry ih =>
    rw [List.mem_append, List.mem_singleton]
    cases entry with
    | acquire other =>
      rw [releases_concat_acquire] at counted
      split_ifs at counted with same
      · exact Or.inr (by rw [same])
      · exact Or.inl (ih counted)
    | release other =>
      rw [releases_concat_release] at counted
      split_ifs at counted with same
      · obtain ⟨before, earlier, -⟩ := Option.map_eq_some_iff.mp counted
        exact Or.inl (ih earlier)
      · exact Or.inl (ih counted)

/-! ### Lives -/

/-- Nothing is acquired while it is held. -/
def Fresh (log : List (Lease α)) : Prop :=
  ∀ before name rest, log = before ++ Lease.acquire name :: rest → releases name before ≠ some 0

theorem Fresh.of_append {log rest : List (Lease α)} (fresh : Fresh (log ++ rest)) : Fresh log := by
  rintro before name after rfl
  exact fresh before name (after ++ rest) (by simp)

theorem fresh_nil : Fresh ([] : List (Lease α)) := by
  intro before name rest split
  simp at split

theorem fresh_concat_acquire (log : List (Lease α)) (name : α) :
    Fresh (log ++ [Lease.acquire name]) ↔ Fresh log ∧ releases name log ≠ some 0 := by
  constructor
  · intro fresh
    exact ⟨fresh.of_append, fresh log name [] rfl⟩
  · rintro ⟨fresh, free⟩ before other rest split
    rcases List.eq_nil_or_concat rest with rfl | ⟨rest, final, rfl⟩
    · obtain ⟨rfl, same⟩ := List.append_inj' split rfl
      cases same
      exact free
    · rw [List.concat_eq_append, ← List.cons_append, ← List.append_assoc] at split
      exact fresh before other rest (List.append_inj' split rfl).1

theorem fresh_concat_release (log : List (Lease α)) (name : α) :
    Fresh (log ++ [Lease.release name]) ↔ Fresh log := by
  constructor
  · exact Fresh.of_append
  · intro fresh before other rest split
    rcases List.eq_nil_or_concat rest with rfl | ⟨rest, final, rfl⟩
    · obtain ⟨-, same⟩ := List.append_inj' split rfl
      cases same
    · rw [List.concat_eq_append, ← List.cons_append, ← List.append_assoc] at split
      exact fresh before other rest (List.append_inj' split rfl).1

/-- Every life has exactly one release; the last one may still have none, of a name that is
owned. -/
structure ReleasedOnce (owned : α → Prop) (log : List (Lease α)) : Prop where
  ended : ∀ before name rest, log = before ++ Lease.acquire name :: rest →
    ∀ count, releases name before = some count → count = 1
  last : ∀ name count, releases name log = some count → count = 1 ∨ count = 0 ∧ owned name

/-- **No life ever had two releases.** -/
theorem ReleasedOnce.le_one {owned : α → Prop} {log : List (Lease α)}
    (once : ReleasedOnce owned log) {before rest : List (Lease α)} (split : log = before ++ rest)
    {name : α} {count : Nat} (counted : releases name before = some count) : count ≤ 1 := by
  induction rest generalizing before count with
  | nil =>
    rw [split, List.append_nil] at once
    have last := once.last name count counted
    omega
  | cons entry rest ih =>
    have next : log = (before ++ [entry]) ++ rest := by rw [split]; simp
    cases entry with
    | acquire other =>
      by_cases same : other = name
      · subst same
        exact Nat.le_of_eq (once.ended before other rest split count counted)
      · exact ih next (by rw [releases_concat_acquire, if_neg same]; exact counted)
    | release other =>
      by_cases same : other = name
      · have more : count + 1 ≤ 1 :=
          ih next (by rw [releases_concat_release, if_pos same, counted]; rfl)
        omega
      · exact ih next (by rw [releases_concat_release, if_neg same]; exact counted)

/-! ### Owners -/

/-- What is owned is held, and everything else was released once. -/
structure Accounted (owned : α → Prop) (log : List (Lease α)) : Prop where
  ended : ∀ before name rest, log = before ++ Lease.acquire name :: rest →
    ∀ count, releases name before = some count → count = 1
  held : ∀ name, owned name → releases name log = some 0
  done : ∀ name count, ¬ owned name → releases name log = some count → count = 1

variable {owned after : α → Prop} {log : List (Lease α)}

theorem Accounted.releasedOnce (accounted : Accounted owned log) : ReleasedOnce owned log := by
  refine ⟨accounted.ended, fun name count counted => ?_⟩
  by_cases own : owned name
  · rw [accounted.held name own] at counted
    exact Or.inr ⟨(Option.some.inj counted).symm, own⟩
  · exact Or.inl (accounted.done name count own counted)

theorem accounted_nil (none : ∀ name, ¬ owned name) : Accounted owned [] where
  ended before name rest split := by simp at split
  held name own := absurd own (none name)
  done name count _ counted := by cases counted

/-- **Something new.** -/
theorem Accounted.acquire (accounted : Accounted owned log) {name : α} (new : ¬ owned name)
    (exact : ∀ other, after other ↔ other = name ∨ owned other) :
    Accounted after (log ++ [Lease.acquire name]) where
  ended before other rest split count counted := by
    rcases List.eq_nil_or_concat rest with rfl | ⟨rest, final, rfl⟩
    · obtain ⟨rfl, same⟩ := List.append_inj' split rfl
      cases same
      exact accounted.done name count new counted
    · rw [List.concat_eq_append, ← List.cons_append, ← List.append_assoc] at split
      exact accounted.ended before other rest (List.append_inj' split rfl).1 count counted
  held other own := by
    rw [releases_concat_acquire]
    split_ifs with same
    · rfl
    · exact accounted.held other (((exact other).mp own).resolve_left (Ne.symm same))
  done other count notOwn counted := by
    rw [exact, not_or] at notOwn
    rw [releases_concat_acquire, if_neg (Ne.symm notOwn.1)] at counted
    exact accounted.done other count notOwn.2 counted

/-- **Something owned.** -/
theorem Accounted.release (accounted : Accounted owned log) {name : α} (own : owned name)
    (exact : ∀ other, after other ↔ other ≠ name ∧ owned other) :
    Accounted after (log ++ [Lease.release name]) where
  ended before other rest split count counted := by
    rcases List.eq_nil_or_concat rest with rfl | ⟨rest, final, rfl⟩
    · obtain ⟨-, same⟩ := List.append_inj' split rfl
      cases same
    · rw [List.concat_eq_append, ← List.cons_append, ← List.append_assoc] at split
      exact accounted.ended before other rest (List.append_inj' split rfl).1 count counted
  held other stays := by
    rw [exact] at stays
    rw [releases_concat_release, if_neg (Ne.symm stays.1)]
    exact accounted.held other stays.2
  done other count notOwn counted := by
    rw [releases_concat_release] at counted
    split_ifs at counted with same
    · subst same
      rw [accounted.held name own] at counted
      exact (Option.some.inj counted).symm
    · refine accounted.done other count (fun stays => notOwn ?_) counted
      exact (exact other).mpr ⟨Ne.symm same, stays⟩

/-- **Everything.** -/
theorem Accounted.releaseAll (accounted : Accounted owned log) {names : List α}
    (nodup : names.Nodup) (exact : ∀ name, owned name ↔ name ∈ names) :
    Accounted (fun _ => False) (log ++ names.map .release) := by
  induction names generalizing owned log with
  | nil =>
    rw [List.map_nil, List.append_nil]
    have none : owned = fun _ => False := by
      funext name
      simpa using exact name
    exact none ▸ accounted
  | cons name names ih =>
    rw [List.nodup_cons] at nodup
    have released : Accounted (fun other => other ∈ names) (log ++ [Lease.release name]) := by
      refine accounted.release ((exact name).mpr List.mem_cons_self) fun other => ?_
      rw [exact, List.mem_cons]
      constructor
      · intro member
        exact ⟨fun same => nodup.1 (same ▸ member), Or.inr member⟩
      · rintro ⟨different, same | member⟩
        · exact absurd same different
        · exact member
    have all := ih released nodup.2 fun other => Iff.rfl
    rw [List.append_assoc] at all
    exact all

end Leases

end Foundation
