/-
**Sections under locks that share an output.** A section takes its lock, puts its pieces one by one
and gives the lock back. Sections under the same lock exclude each other; the output is shared by
all locks.

* `Sections.step`: a section is entered, puts its next piece, is left.
* **`Sections.serial`**: in every run, what was put under one lock and what its current section has
  still to put are the sections under that lock, whole and in the order in which they were entered.
* **`Sections.whole_of_single`**, **`Sections.not_whole`**: so under a single lock the output is made
  of whole sections, and under two locks it may not be.
-/

import Mathlib.Logic.Function.Basic
import DemoDaemon.Foundation.Transition

namespace Foundation

/-- A section, with its place in the order of entering. -/
structure Section (κ α : Type) where
  lock : κ
  ticket : Nat
  pieces : List α

/-- A piece of the output, with where it comes from. -/
structure Piece (κ α : Type) where
  lock : κ
  ticket : Nat
  piece : α

/-- What a section puts. -/
def Section.puts {κ α : Type} (part : Section κ α) : List (Piece κ α) :=
  part.pieces.map fun piece => ⟨part.lock, part.ticket, piece⟩

theorem Section.piece_puts {κ α : Type} (parts : List (Section κ α)) :
    (parts.flatMap Section.puts).map Piece.piece = (parts.map Section.pieces).flatten := by
  induction parts with
  | nil => rfl
  | cons part parts ih =>
    rw [List.flatMap_cons, List.map_append, ih, Section.puts, List.map_map]
    show part.pieces.map id ++ _ = _
    rw [List.map_id]
    rfl

/-- `entered` records the sections, `current` holds the section under a lock with the pieces that it
has still to put. -/
structure Sections (κ α : Type) where
  entered : List (Section κ α)
  current : κ → Option (Section κ α)
  output : List (Piece κ α)

inductive SectionAction (κ α : Type) where
  | enter (lock : κ) (pieces : List α)
  | put (lock : κ)
  | leave (lock : κ)

namespace Sections

variable {κ α : Type}

def start : Sections κ α := ⟨[], fun _ => none, []⟩

/-- What the section under a lock has still to put. -/
def rest (sections : Sections κ α) (lock : κ) : List (Piece κ α) :=
  (sections.current lock).elim [] Section.puts

/-- The output is made of whole sections, up to the last one, which may be under way. -/
def Whole (sections : Sections κ α) : Prop :=
  ∃ parts : List (Section κ α), (∀ part ∈ parts, part ∈ sections.entered) ∧
    sections.output <+: parts.flatMap Section.puts

theorem rest_of_current {sections : Sections κ α} {lock : κ} {part : Section κ α}
    (held : sections.current lock = some part) : sections.rest lock = part.puts := by
  rw [rest, held]
  rfl

theorem rest_of_free {sections : Sections κ α} {lock : κ}
    (free : sections.current lock = none) : sections.rest lock = [] := by
  rw [rest, free]
  rfl

variable [DecidableEq κ]

/-- One action. -/
def step (sections : Sections κ α) : SectionAction κ α → Option (Sections κ α)
  | .enter lock pieces =>
    match sections.current lock with
    | none =>
      let part : Section κ α := ⟨lock, sections.entered.length, pieces⟩
      some { sections with
        entered := sections.entered ++ [part]
        current := Function.update sections.current lock (some part) }
    | some _ => none
  | .put lock =>
    match sections.current lock with
    | some ⟨owner, ticket, piece :: pieces⟩ =>
      some { sections with
        current := Function.update sections.current lock (some ⟨owner, ticket, pieces⟩)
        output := sections.output ++ [⟨owner, ticket, piece⟩] }
    | _ => none
  | .leave lock =>
    match sections.current lock with
    | some ⟨_, _, []⟩ => some { sections with current := Function.update sections.current lock none }
    | _ => none

/-- What was put under a lock. -/
def under (lock : κ) (output : List (Piece κ α)) : List (Piece κ α) :=
  output.filter fun piece => piece.lock = lock

/-- The sections under a lock. -/
def enteredUnder (sections : Sections κ α) (lock : κ) : List (Section κ α) :=
  sections.entered.filter fun part => part.lock = lock

/-- What an action finds and leaves behind. -/
inductive Move (sections : Sections κ α) : SectionAction κ α → Sections κ α → Prop
  | enter (lock : κ) (pieces : List α) (free : sections.current lock = none) :
      Move sections (.enter lock pieces) { sections with
        entered := sections.entered ++ [⟨lock, sections.entered.length, pieces⟩]
        current := Function.update sections.current lock
          (some ⟨lock, sections.entered.length, pieces⟩) }
  | put (lock owner : κ) (ticket : Nat) (piece : α) (pieces : List α)
      (held : sections.current lock = some ⟨owner, ticket, piece :: pieces⟩) :
      Move sections (.put lock) { sections with
        current := Function.update sections.current lock (some ⟨owner, ticket, pieces⟩)
        output := sections.output ++ [⟨owner, ticket, piece⟩] }
  | leave (lock owner : κ) (ticket : Nat) (held : sections.current lock = some ⟨owner, ticket, []⟩) :
      Move sections (.leave lock)
        { sections with current := Function.update sections.current lock none }

theorem move_of_step {sections after : Sections κ α} {action : SectionAction κ α}
    (stepped : sections.step action = some after) : Move sections action after := by
  cases action with
  | enter lock pieces =>
    unfold step at stepped
    dsimp only at stepped
    split at stepped
    next free =>
      cases stepped
      exact .enter lock pieces free
    next => cases stepped
  | put lock =>
    unfold step at stepped
    dsimp only at stepped
    split at stepped
    next owner ticket piece pieces held =>
      cases stepped
      exact .put lock owner ticket piece pieces held
    next => cases stepped
  | leave lock =>
    unfold step at stepped
    dsimp only at stepped
    split at stepped
    next owner ticket held =>
      cases stepped
      exact .leave lock owner ticket held
    next => cases stepped

/-! ### One lock -/

/-- The section under a lock is one of that lock, and everything before it is whole. -/
structure Serial (sections : Sections κ α) (lock : κ) : Prop where
  owns : ∀ part, sections.current lock = some part → part.lock = lock
  whole : under lock sections.output ++ sections.rest lock
    = (sections.enteredUnder lock).flatMap Section.puts

theorem under_concat (lock : κ) (output : List (Piece κ α)) (piece : Piece κ α) :
    under lock (output ++ [piece])
      = under lock output ++ if piece.lock = lock then [piece] else [] := by
  by_cases here : piece.lock = lock
  · simp [under, here]
  · simp [under, here]

/-- What happens under another lock does not matter. -/
theorem Serial.elsewhere {sections after : Sections κ α} {lock : κ} (serial : sections.Serial lock)
    (current : after.current lock = sections.current lock)
    (output : under lock after.output = under lock sections.output)
    (entered : after.enteredUnder lock = sections.enteredUnder lock) : after.Serial lock where
  owns part held := serial.owns part (current ▸ held)
  whole := by
    rw [output, entered, rest, current]
    exact serial.whole

/-- **Step.** The locks own their sections. -/
theorem Serial.step {sections after : Sections κ α}
    (serial : ∀ lock, sections.Serial lock) {action : SectionAction κ α}
    (stepped : sections.step action = some after) (lock : κ) : after.Serial lock := by
  cases move_of_step stepped with
  | enter other pieces free =>
    by_cases here : other = lock
    · subst here
      refine ⟨fun part held => ?_, ?_⟩
      · simp only [Function.update_self, Option.some.injEq] at held
        rw [← held]
      · have before := (serial other).whole
        rw [rest_of_free free, List.append_nil] at before
        simp [rest, enteredUnder, before]
    · refine (serial lock).elsewhere (Function.update_of_ne (Ne.symm here) _ _) rfl ?_
      simp [enteredUnder, here]
  | put other owner ticket piece pieces held =>
    have own : owner = other := (serial other).owns _ held
    subst own
    by_cases here : owner = lock
    · subst here
      refine ⟨fun part current => ?_, ?_⟩
      · simp only [Function.update_self, Option.some.injEq] at current
        rw [← current]
      · have before := (serial owner).whole
        rw [rest_of_current held] at before
        have still : rest { sections with
            current := Function.update sections.current owner (some ⟨owner, ticket, pieces⟩)
            output := sections.output ++ [⟨owner, ticket, piece⟩] } owner
            = Section.puts ⟨owner, ticket, pieces⟩ :=
          rest_of_current (Function.update_self _ _ _)
        rw [still, under_concat, if_pos rfl, List.append_assoc]
        exact before
    · refine (serial lock).elsewhere (Function.update_of_ne (Ne.symm here) _ _) ?_ rfl
      rw [under_concat, if_neg here, List.append_nil]
  | leave other owner ticket held =>
    by_cases here : other = lock
    · subst here
      refine ⟨fun part current => ?_, ?_⟩
      · simp only [Function.update_self, reduceCtorEq] at current
      · have before := (serial other).whole
        rw [rest_of_current held] at before
        have none : rest { sections with current := Function.update sections.current other none }
            other = [] :=
          rest_of_free (Function.update_self _ _ _)
        rw [none]
        exact before
    · exact (serial lock).elsewhere (Function.update_of_ne (Ne.symm here) _ _) rfl rfl

/-- **Run.** -/
theorem serial {actions : List (SectionAction κ α)} {sections : Sections κ α}
    (ran : run step start actions = some sections) (lock : κ) : sections.Serial lock := by
  refine run_induction step start (motive := fun _ sections => ∀ lock, sections.Serial lock)
    (fun _ => ⟨fun part held => ?_, rfl⟩) ?_ ran lock
  · cases held
  · intro actions action sections after _ serial stepped
    exact Serial.step serial stepped

/-- Every piece was put by a section that was entered. -/
theorem Serial.lock_mem {sections : Sections κ α} (serial : ∀ lock, sections.Serial lock)
    {piece : Piece κ α} (put : piece ∈ sections.output) :
    ∃ part ∈ sections.entered, part.lock = piece.lock := by
  have here : piece ∈ under piece.lock sections.output :=
    List.mem_filter.mpr ⟨put, decide_eq_true rfl⟩
  have found := List.mem_append_left (sections.rest piece.lock) here
  rw [(serial piece.lock).whole] at found
  obtain ⟨part, member, -⟩ := List.mem_flatMap.mp found
  obtain ⟨entered, same⟩ := List.mem_filter.mp member
  exact ⟨part, entered, of_decide_eq_true same⟩

/-! ### Several locks -/

/-- **Under a single lock everything is whole.** -/
theorem whole_of_single {actions : List (SectionAction κ α)} {sections : Sections κ α}
    (ran : run step start actions = some sections)
    (single : ∀ part ∈ sections.entered, ∀ other ∈ sections.entered, part.lock = other.lock) :
    sections.Whole := by
  refine ⟨sections.entered, fun part member => member, ?_⟩
  cases output : sections.output with
  | nil => exact List.nil_prefix
  | cons first more =>
    rw [← output]
    obtain ⟨known, entered, -⟩ := Serial.lock_mem (serial ran) (output ▸ List.mem_cons_self)
    have all : under known.lock sections.output = sections.output := by
      rw [under, List.filter_eq_self]
      intro piece put
      obtain ⟨part, member, same⟩ := Serial.lock_mem (serial ran) put
      exact decide_eq_true (same.symm.trans (single part member known entered))
    have every : sections.enteredUnder known.lock = sections.entered := by
      rw [enteredUnder, List.filter_eq_self]
      exact fun part member => decide_eq_true (single part member known entered)
    have whole := (serial ran known.lock).whole
    rw [all, every] at whole
    exact ⟨_, whole⟩

end Sections

/-- **Two sections at once are not whole**: the first two pieces belong to different sections, and no
section is shorter than that. -/
theorem Sections.not_whole {κ α : Type} {sections : Sections κ α} {first second : Piece κ α}
    (mixed : sections.output = [first, second]) (different : first.ticket ≠ second.ticket)
    (long : ∀ part ∈ sections.entered, 2 ≤ part.pieces.length) : ¬ sections.Whole := by
  rintro ⟨parts, entered, more, output⟩
  rw [mixed] at output
  cases parts with
  | nil => cases output
  | cons part parts =>
    have atLeast := long part (entered part List.mem_cons_self)
    obtain ⟨lock, ticket, pieces⟩ := part
    match pieces, atLeast with
    | one :: two :: rest, _ =>
      rw [List.flatMap_cons] at output
      obtain ⟨rfl, others⟩ := List.cons.inj output
      obtain ⟨rfl, -⟩ := List.cons.inj others
      exact different rfl

end Foundation
