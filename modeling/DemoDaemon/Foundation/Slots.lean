/-
**Variables that hold names of resources.** A program takes a resource and keeps its name in a
variable, drops what a variable holds, or forgets it.

* `Slots.step`: one such action, with the log of what was acquired and released.
* `Slots.Tidy`: what the variables hold is held, once each, and everything else was released once.
  `Slots.Leaks`: something is held that no variable knows.
* **`Slots.Tidy.step`**, **`Slots.Leaks.of_overwrites`**, **`Slots.Leaks.step`**: an action keeps the
  first unless it overwrites a name; then it makes a leak, and a leak stays.
* **`Slots.tidy_iff`**: so after every list of actions all is tidy exactly when nothing was
  overwritten.
* **`Owner.accounted_iff`**: the same for a program, whose calls are lists of such actions and whose
  last call empties every variable.
-/

import DemoDaemon.Foundation.Leases

namespace Foundation

inductive SlotAction (κ α : Type) where
  /-- A new resource, whose name is stored. -/
  | take (slot : κ) (name : α)
  /-- The variable is set to no name. -/
  | forget (slot : κ)
  /-- What the variable holds is released, and the variable is set to no name. -/
  | drop (slot : κ)

structure Slots (κ α : Type) where
  held : κ → Option α
  log : List (Lease α)

section Slots

variable {κ α : Type}

def Slots.empty : Slots κ α := ⟨fun _ => none, []⟩

/-- A variable holds the name. -/
def Slots.Owned (slots : Slots κ α) (name : α) : Prop := ∃ slot, slots.held slot = some name

/-- The action sets a variable that holds a name, without releasing it. -/
def Slots.Overwrites (slots : Slots κ α) : SlotAction κ α → Prop
  | .take slot _ => slots.held slot ≠ none
  | .forget slot => slots.held slot ≠ none
  | .drop _ => False

section Held

variable [DecidableEq α]

/-- Every variable holds a resource of its own, and everything else was released once. -/
structure Slots.Tidy (slots : Slots κ α) : Prop where
  accounted : Accounted slots.Owned slots.log
  separate : ∀ slot other name, slots.held slot = some name → slots.held other = some name →
    slot = other

/-- A resource is held, and no variable knows it. -/
def Slots.Leaks (slots : Slots κ α) : Prop :=
  ∃ name, releases name slots.log = some 0 ∧ ¬ slots.Owned name

theorem Slots.tidy_empty : Slots.Tidy (Slots.empty : Slots κ α) where
  accounted := accounted_nil fun name ⟨_, own⟩ => Option.some_ne_none name own.symm
  separate _ _ name own := absurd own.symm (Option.some_ne_none name)

theorem Slots.Tidy.not_leaks {slots : Slots κ α} (tidy : slots.Tidy) : ¬ slots.Leaks := by
  rintro ⟨name, held, unknown⟩
  exact absurd (tidy.accounted.done name 0 unknown held) Nat.zero_ne_one

/-- A new name is none that a variable holds. -/
theorem Slots.Tidy.new {slots : Slots κ α} (tidy : slots.Tidy) {name : α}
    (fresh : Fresh (slots.log ++ [Lease.acquire name])) : ¬ slots.Owned name := fun own =>
  ((fresh_concat_acquire slots.log name).mp fresh).2 (tidy.accounted.held name own)

/-- With empty variables, everything was released once or something is leaked. -/
theorem Slots.accounted_iff {slots : Slots κ α} (either : slots.Tidy ∨ slots.Leaks)
    (empty : ∀ slot, slots.held slot = none) :
    Accounted (fun _ => False) slots.log ↔ slots.Tidy := by
  have nobody : slots.Owned = fun _ => False := by
    funext name
    simp [Slots.Owned, empty]
  constructor
  · intro accounted
    refine either.resolve_right ?_
    rintro ⟨name, held, -⟩
    exact absurd (accounted.done name 0 id held) Nat.zero_ne_one
  · intro tidy
    rw [← nobody]
    exact tidy.accounted

end Held

variable [DecidableEq κ]

/-- One action. -/
def Slots.step (slots : Slots κ α) : SlotAction κ α → Slots κ α
  | .take slot name =>
    ⟨Function.update slots.held slot (some name), slots.log ++ [.acquire name]⟩
  | .forget slot => { slots with held := Function.update slots.held slot none }
  | .drop slot =>
    match slots.held slot with
    | none => slots
    | some name => ⟨Function.update slots.held slot none, slots.log ++ [.release name]⟩

/-- A list of actions. -/
def Slots.steps (slots : Slots κ α) (actions : List (SlotAction κ α)) : Slots κ α :=
  actions.foldl Slots.step slots

theorem Slots.steps_append (slots : Slots κ α) (before after : List (SlotAction κ α)) :
    slots.steps (before ++ after) = (slots.steps before).steps after :=
  List.foldl_append

theorem Slots.steps_concat (slots : Slots κ α) (actions : List (SlotAction κ α))
    (action : SlotAction κ α) :
    slots.steps (actions ++ [action]) = (slots.steps actions).step action := by
  rw [Slots.steps_append]
  rfl

theorem forget_of_empty {slots : Slots κ α} {slot : κ} (empty : slots.held slot = none) :
    slots.step (.forget slot) = slots := by
  rw [Slots.step, ← empty, Function.update_eq_self]

/-- A variable that is set holds the new name, and the others what they held. -/
theorem update_eq_some_iff {held : κ → Option α} {slot other : κ} {name found : α} :
    Function.update held slot (some name) other = some found ↔
      (other = slot ∧ found = name) ∨ (other ≠ slot ∧ held other = some found) := by
  by_cases here : other = slot
  · simp [here, eq_comm]
  · simp [here]

theorem update_none_eq_some_iff {held : κ → Option α} {slot other : κ} {found : α} :
    Function.update held slot none other = some found ↔ other ≠ slot ∧ held other = some found := by
  by_cases here : other = slot
  · simp [here]
  · simp [here]

theorem Slots.log_steps_concat (slots : Slots κ α) (actions : List (SlotAction κ α))
    (action : SlotAction κ α) :
    (slots.steps actions).log <+: (slots.steps (actions ++ [action])).log := by
  rw [Slots.steps_concat]
  cases action with
  | take slot name => exact List.prefix_append _ _
  | forget slot => exact List.prefix_refl _
  | drop slot =>
    cases held : (slots.steps actions).held slot with
    | none =>
      simp only [Slots.step, held]
      exact List.prefix_refl _
    | some name =>
      rw [Slots.step, held]
      exact List.prefix_append _ _

/-- Nothing is overwritten by a list of actions. -/
def Slots.Careful (slots : Slots κ α) (actions : List (SlotAction κ α)) : Prop :=
  ∀ before action rest, actions = before ++ action :: rest →
    ¬ (slots.steps before).Overwrites action

theorem Slots.careful_nil (slots : Slots κ α) : slots.Careful [] := by
  intro before action rest split
  simp at split

theorem Slots.careful_cons {slots : Slots κ α} {action : SlotAction κ α}
    {actions : List (SlotAction κ α)} :
    slots.Careful (action :: actions)
      ↔ ¬ slots.Overwrites action ∧ (slots.step action).Careful actions := by
  constructor
  · intro careful
    refine ⟨careful [] action actions rfl, ?_⟩
    rintro before other rest rfl
    exact careful (action :: before) other rest rfl
  · rintro ⟨first, others⟩ before other rest split
    cases before with
    | nil =>
      cases split
      exact first
    | cons head before =>
      cases split
      exact others before other rest rfl

theorem Slots.careful_append {slots : Slots κ α} {before after : List (SlotAction κ α)} :
    slots.Careful (before ++ after)
      ↔ slots.Careful before ∧ (slots.steps before).Careful after := by
  induction before generalizing slots with
  | nil => exact (and_iff_right slots.careful_nil).symm
  | cons action before ih =>
    rw [List.cons_append, Slots.careful_cons, Slots.careful_cons, ih, and_assoc]
    rfl

theorem Slots.careful_concat {slots : Slots κ α} {actions : List (SlotAction κ α)}
    {action : SlotAction κ α} :
    slots.Careful (actions ++ [action])
      ↔ slots.Careful actions ∧ ¬ (slots.steps actions).Overwrites action := by
  rw [Slots.careful_append, Slots.careful_cons]
  exact and_congr_right fun _ => and_iff_left (Slots.careful_nil _)

theorem Slots.held_drop (slots : Slots κ α) (slot : κ) :
    (slots.step (.drop slot)).held = Function.update slots.held slot none := by
  cases held : slots.held slot with
  | none =>
    rw [Slots.step, held]
    exact (Function.update_eq_self_iff.mpr held.symm).symm
  | some name => rw [Slots.step, held]

/-- Variables that are dropped, or were empty, are empty. -/
theorem Slots.held_drops (slots : Slots κ α) (order : List κ) {slot : κ}
    (among : slot ∈ order ∨ slots.held slot = none) :
    (slots.steps (order.map .drop)).held slot = none := by
  induction order generalizing slots with
  | nil => exact among.resolve_left List.not_mem_nil
  | cons first order ih =>
    refine ih (slots.step (.drop first)) ?_
    rw [Slots.held_drop]
    by_cases here : slot = first
    · rw [here, Function.update_self]
      exact .inr rfl
    · rw [Function.update_of_ne here]
      exact among.imp_left fun member => (List.mem_cons.mp member).resolve_left here

theorem Slots.careful_drops (slots : Slots κ α) (order : List κ) :
    slots.Careful (order.map .drop) := by
  intro before action rest split overwrites
  have member : action ∈ order.map SlotAction.drop := by
    rw [split]
    exact List.mem_append_right _ List.mem_cons_self
  obtain ⟨slot, -, rfl⟩ := List.mem_map.mp member
  exact overwrites

variable [DecidableEq α]

/-- **Step: nothing is overwritten.** -/
theorem Slots.Tidy.step {slots : Slots κ α} (tidy : slots.Tidy) {action : SlotAction κ α}
    (keeps : ¬ slots.Overwrites action) (fresh : Fresh (slots.step action).log) :
    Slots.Tidy (slots.step action) := by
  cases action with
  | forget slot => rwa [forget_of_empty (not_not.mp keeps)]
  | take slot name =>
    have empty : slots.held slot = none := not_not.mp keeps
    have new := tidy.new fresh
    refine ⟨tidy.accounted.acquire new fun other => ⟨?_, ?_⟩, ?_⟩
    · rintro ⟨owner, own⟩
      rcases update_eq_some_iff.mp own with ⟨-, same⟩ | ⟨-, old⟩
      · exact .inl same
      · exact .inr ⟨owner, old⟩
    · rintro (rfl | ⟨owner, own⟩)
      · exact ⟨slot, update_eq_some_iff.mpr (.inl ⟨rfl, rfl⟩)⟩
      · refine ⟨owner, update_eq_some_iff.mpr (.inr ⟨?_, own⟩)⟩
        rintro rfl
        exact Option.some_ne_none _ (own.symm.trans empty)
    · intro first second found own own'
      rcases update_eq_some_iff.mp own with ⟨here, same⟩ | ⟨-, old⟩ <;>
        rcases update_eq_some_iff.mp own' with ⟨here', same'⟩ | ⟨-, old'⟩
      · exact here.trans here'.symm
      · exact absurd ⟨second, same ▸ old'⟩ new
      · exact absurd ⟨first, same' ▸ old⟩ new
      · exact tidy.separate first second found old old'
  | drop slot =>
    cases held : slots.held slot with
    | none =>
      rw [Slots.step, held]
      exact tidy
    | some name =>
      rw [Slots.step, held]
      refine ⟨tidy.accounted.release ⟨slot, held⟩ fun other => ⟨?_, ?_⟩, ?_⟩
      · rintro ⟨owner, own⟩
        obtain ⟨elsewhere, old⟩ := update_none_eq_some_iff.mp own
        refine ⟨?_, owner, old⟩
        rintro rfl
        exact elsewhere (tidy.separate owner slot other old held)
      · rintro ⟨different, owner, own⟩
        refine ⟨owner, update_none_eq_some_iff.mpr ⟨?_, own⟩⟩
        rintro rfl
        exact different (Option.some.inj (own.symm.trans held))
      · intro first second found own own'
        exact tidy.separate first second found (update_none_eq_some_iff.mp own).2
          (update_none_eq_some_iff.mp own').2

/-- **Step: a name is overwritten.** -/
theorem Slots.Leaks.of_overwrites {slots : Slots κ α} (tidy : slots.Tidy) {action : SlotAction κ α}
    (overwrites : slots.Overwrites action) (fresh : Fresh (slots.step action).log) :
    Slots.Leaks (slots.step action) := by
  cases action with
  | drop slot => exact overwrites.elim
  | forget slot =>
    obtain ⟨name, held⟩ := Option.ne_none_iff_exists'.mp overwrites
    refine ⟨name, tidy.accounted.held name ⟨slot, held⟩, ?_⟩
    rintro ⟨owner, own⟩
    obtain ⟨elsewhere, old⟩ := update_none_eq_some_iff.mp own
    exact elsewhere (tidy.separate owner slot name old held)
  | take slot taken =>
    obtain ⟨name, held⟩ := Option.ne_none_iff_exists'.mp overwrites
    have different : taken ≠ name := by
      rintro rfl
      exact tidy.new fresh ⟨slot, held⟩
    refine ⟨name, ?_, ?_⟩
    · rw [Slots.step, releases_concat_acquire, if_neg different]
      exact tidy.accounted.held name ⟨slot, held⟩
    · rintro ⟨owner, own⟩
      rcases update_eq_some_iff.mp own with ⟨-, same⟩ | ⟨elsewhere, old⟩
      · exact different same.symm
      · exact elsewhere (tidy.separate owner slot name old held)

/-- **Step: a leak stays.** -/
theorem Slots.Leaks.step {slots : Slots κ α} (leaks : slots.Leaks) {action : SlotAction κ α}
    (fresh : Fresh (slots.step action).log) : Slots.Leaks (slots.step action) := by
  obtain ⟨name, held, unknown⟩ := leaks
  cases action with
  | forget slot =>
    refine ⟨name, held, ?_⟩
    rintro ⟨owner, own⟩
    exact unknown ⟨owner, (update_none_eq_some_iff.mp own).2⟩
  | take slot taken =>
    -- the kernel of the resource does not give what is held
    have different : taken ≠ name := by
      rintro rfl
      exact ((fresh_concat_acquire slots.log taken).mp fresh).2 held
    refine ⟨name, ?_, ?_⟩
    · rw [Slots.step, releases_concat_acquire, if_neg different]
      exact held
    · rintro ⟨owner, own⟩
      rcases update_eq_some_iff.mp own with ⟨-, same⟩ | ⟨-, old⟩
      · exact different same.symm
      · exact unknown ⟨owner, old⟩
  | drop slot =>
    cases dropped : slots.held slot with
    | none =>
      rw [Slots.step, dropped]
      exact ⟨name, held, unknown⟩
    | some gone =>
      rw [Slots.step, dropped]
      have different : gone ≠ name := by
        rintro rfl
        exact unknown ⟨slot, dropped⟩
      refine ⟨name, ?_, ?_⟩
      · rw [releases_concat_release, if_neg different]
        exact held
      · rintro ⟨owner, own⟩
        exact unknown ⟨owner, (update_none_eq_some_iff.mp own).2⟩

/-- **Run.** After every list of actions all is kept, if nothing was overwritten, and something is
leaked otherwise. -/
theorem Slots.tidy_iff {slots : Slots κ α} (tidy : slots.Tidy)
    (actions : List (SlotAction κ α)) (fresh : Fresh (slots.steps actions).log) :
    (Slots.Tidy (slots.steps actions) ↔ slots.Careful actions) ∧
      (Slots.Leaks (slots.steps actions) ↔ ¬ slots.Careful actions) := by
  have either : (slots.Careful actions → Slots.Tidy (slots.steps actions)) ∧
      (¬ slots.Careful actions → Slots.Leaks (slots.steps actions)) := by
    induction actions using List.reverseRecOn with
    | nil =>
      exact ⟨fun _ => tidy, fun careless => absurd slots.careful_nil careless⟩
    | append_singleton actions action ih =>
      obtain ⟨more, longer⟩ := slots.log_steps_concat actions action
      have earlier : Fresh (slots.steps actions).log := by
        rw [← longer] at fresh
        exact fresh.of_append
      rw [Slots.steps_concat] at fresh ⊢
      rw [Slots.careful_concat]
      refine ⟨fun ⟨careful, last⟩ => ((ih earlier).1 careful).step last fresh, fun careless => ?_⟩
      by_cases careful : slots.Careful actions
      · refine .of_overwrites ((ih earlier).1 careful) ?_ fresh
        by_contra last
        exact careless ⟨careful, last⟩
      · exact ((ih earlier).2 careful).step fresh
  refine ⟨⟨fun tidy => ?_, either.1⟩, ⟨fun leaks careful => ?_, either.2⟩⟩
  · by_contra careless
    exact tidy.not_leaks (either.2 careless)
  · exact (either.1 careful).not_leaks leaks

end Slots

/-! ### Programs -/

/-- A program with variables that hold names: its calls are lists of actions on them, and its
destructor drops what they hold. -/
structure Owner (κ α σ ι : Type) [DecidableEq κ] where
  slots : σ → Slots κ α
  call : σ → ι → σ
  actions : σ → ι → List (SlotAction κ α)
  /-- What is known of a call, and of what it is answered. -/
  answered : ι → Prop
  simulates : ∀ state input, answered input →
    slots (call state input) = (slots state).steps (actions state input)
  destroyed : σ → List (Lease α)
  /-- The variables in the order of the destructor. -/
  order : List κ
  drops : ∀ state, destroyed state = ((slots state).steps (order.map .drop)).log
  complete : ∀ slot, slot ∈ order

namespace Owner

variable {κ α σ ι : Type} [DecidableEq κ] (owner : Owner κ α σ ι)

/-- The state after a list of calls. -/
def calls (state : σ) (inputs : List ι) : σ := inputs.foldl owner.call state

/-- No call of a list overwrites a name. -/
def Careful (state : σ) (inputs : List ι) : Prop :=
  ∀ before input rest, inputs = before ++ input :: rest →
    (owner.slots (owner.calls state before)).Careful
      (owner.actions (owner.calls state before) input)

theorem careful_cons {state : σ} {input : ι} {inputs : List ι} :
    owner.Careful state (input :: inputs)
      ↔ (owner.slots state).Careful (owner.actions state input) ∧
        owner.Careful (owner.call state input) inputs := by
  constructor
  · intro careful
    refine ⟨careful [] input inputs rfl, ?_⟩
    rintro before other rest rfl
    exact careful (input :: before) other rest rfl
  · rintro ⟨first, others⟩ before other rest split
    cases before with
    | nil =>
      cases split
      exact first
    | cons head before =>
      cases split
      exact others before other rest rfl

/-- **A list of calls is one list of actions**, and overwrites a name exactly when a call does. -/
theorem exists_actions (state : σ) (inputs : List ι)
    (answered : ∀ input ∈ inputs, owner.answered input) :
    ∃ actions, owner.slots (owner.calls state inputs) = (owner.slots state).steps actions ∧
      ((owner.slots state).Careful actions ↔ owner.Careful state inputs) := by
  induction inputs generalizing state with
  | nil =>
    refine ⟨[], rfl, iff_of_true (Slots.careful_nil _) ?_⟩
    intro before input rest split
    simp at split
  | cons input inputs ih =>
    rw [List.forall_mem_cons] at answered
    obtain ⟨actions, reached, careful⟩ := ih (owner.call state input) answered.2
    refine ⟨owner.actions state input ++ actions, ?_, ?_⟩
    · rw [Slots.steps_append, ← owner.simulates state input answered.1]
      exact reached
    · rw [Slots.careful_append, ← owner.simulates state input answered.1, careful, careful_cons]

variable [DecidableEq α]

/-- **Run.** At the end of the destructor every resource that was taken has been released once, if
and only if no call has overwritten a name. -/
theorem accounted_iff {state : σ} (tidy : (owner.slots state).Tidy) (inputs : List ι)
    (answered : ∀ input ∈ inputs, owner.answered input)
    (fresh : Fresh (owner.destroyed (owner.calls state inputs))) :
    Accounted (fun _ => False) (owner.destroyed (owner.calls state inputs))
      ↔ owner.Careful state inputs := by
  obtain ⟨actions, reached, careful⟩ := owner.exists_actions state inputs answered
  rw [owner.drops, reached, ← Slots.steps_append] at fresh ⊢
  obtain ⟨tidies, leaks⟩ := Slots.tidy_iff tidy (actions ++ owner.order.map .drop) fresh
  have both : (owner.slots state).Careful (actions ++ owner.order.map .drop)
      ↔ owner.Careful state inputs := by
    rw [Slots.careful_append, careful]
    exact and_iff_left (Slots.careful_drops _ _)
  rw [Slots.accounted_iff, tidies, both]
  · rw [tidies, leaks]
    exact em _
  · intro slot
    rw [Slots.steps_append]
    exact Slots.held_drops _ _ (.inl (owner.complete slot))

end Owner

end Foundation
