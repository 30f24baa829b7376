/-
**Delimiter framing of a stream.**

A stream over any alphabet is cut by a delimiter into complete lines (`lines`) and what follows
the last delimiter (`residue`); `unlines` writes lines back, each with its delimiter.

* `unlines_lines`: nothing is lost, `unlines (lines s) ++ residue s = s`.
* `lines_append`, `residue_append`: a stream may be cut anywhere; only the residue of the first
  part meets the second part.
* `accepted ok s`, `unread ok s`: what a reader that consumes lines in order and stops for good at
  the first line that is not `ok` has taken, and what it has left. **`accepted_append`**,
  **`unread_append`**: such a reader gives the same lines however the stream arrives.
* `RunsAtMost n s`: no delimiter-free run of the stream is longer than `n`.
-/

import Mathlib.Data.List.Infix
import Mathlib.Data.List.TakeWhile

set_option linter.unusedSectionVars false

namespace Foundation

section Framing

variable {α : Type*} [DecidableEq α] (delim : α)

/-! ### Lines and residue -/

/-- The complete lines of a stream, without their delimiters. -/
def lines (stream : List α) : List (List α) := (stream.splitOn delim).dropLast

/-- What follows the last delimiter of a stream. -/
def residue (stream : List α) : List α := (stream.splitOn delim).getLastD []

/-- Lines written out, each followed by a delimiter. -/
def unlines (bodies : List (List α)) : List α := bodies.flatMap fun body => body ++ [delim]

variable {delim}

private theorem splitOn_of_not_mem {stream : List α} (free : delim ∉ stream) :
    stream.splitOn delim = [stream] := by
  rw [List.splitOn_eq_splitOnP]
  refine List.splitOnP_eq_singleton fun symbol member => ?_
  rw [beq_eq_false_iff_ne]
  rintro rfl
  exact free member

private theorem splitOn_append_cons {body : List α} (free : delim ∉ body) (rest : List α) :
    (body ++ delim :: rest).splitOn delim = body :: rest.splitOn delim := by
  have split : (body ++ delim :: rest).splitOnP (· == delim)
      = body.splitOnP (· == delim) ++ rest.splitOnP (· == delim) :=
    List.splitOnP_append_cons _ _ (beq_self_eq_true delim)
  rw [List.splitOn_eq_splitOnP, split, ← List.splitOn_eq_splitOnP, ← List.splitOn_eq_splitOnP,
    splitOn_of_not_mem free]
  rfl

private theorem splitOn_ne_nil (delim : α) (stream : List α) : stream.splitOn delim ≠ [] := by
  rw [List.splitOn_eq_splitOnP]
  exact List.splitOnP_ne_nil _ _

theorem lines_of_not_mem {stream : List α} (free : delim ∉ stream) : lines delim stream = [] := by
  rw [lines, splitOn_of_not_mem free]
  rfl

theorem residue_of_not_mem {stream : List α} (free : delim ∉ stream) :
    residue delim stream = stream := by
  rw [residue, splitOn_of_not_mem free]
  rfl

theorem lines_append_cons {body : List α} (free : delim ∉ body) (rest : List α) :
    lines delim (body ++ delim :: rest) = body :: lines delim rest := by
  rw [lines, splitOn_append_cons free, List.dropLast_cons_of_ne_nil (splitOn_ne_nil delim rest)]
  rfl

theorem residue_append_cons {body : List α} (free : delim ∉ body) (rest : List α) :
    residue delim (body ++ delim :: rest) = residue delim rest := by
  rw [residue, splitOn_append_cons free, residue, List.getLastD_cons]
  obtain ⟨head, tail, split⟩ := List.exists_cons_of_ne_nil (splitOn_ne_nil delim rest)
  rw [split, List.getLastD_cons, List.getLastD_cons]

variable (delim) in
/-- **Induction along the lines of a stream**: a delimiter-free stream, or one more line in front
of a stream. -/
@[elab_as_elim]
theorem lines_induction {motive : List α → Prop} (stream : List α)
    (free : ∀ stream, delim ∉ stream → motive stream)
    (line : ∀ body rest, delim ∉ body → motive rest → motive (body ++ delim :: rest)) :
    motive stream := by
  induction size : stream.length using Nat.strong_induction_on generalizing stream with
  | _ size ih =>
    by_cases member : delim ∈ stream
    · obtain ⟨body, rest, rfl, outside⟩ := List.eq_append_cons_of_mem member
      refine line body rest outside (ih rest.length ?_ rest rfl)
      rw [← size, List.length_append, List.length_cons]
      omega
    · exact free stream member

@[simp]
theorem unlines_nil : unlines delim [] = [] := rfl

@[simp]
theorem unlines_cons (body : List α) (bodies : List (List α)) :
    unlines delim (body :: bodies) = body ++ delim :: unlines delim bodies := by
  rw [unlines, List.flatMap_cons, List.append_assoc]
  rfl

theorem unlines_append (first second : List (List α)) :
    unlines delim (first ++ second) = unlines delim first ++ unlines delim second :=
  List.flatMap_append

theorem length_unlines (bodies : List (List α)) :
    (unlines delim bodies).length = bodies.flatten.length + bodies.length := by
  induction bodies with
  | nil => rfl
  | cons body bodies ih =>
    rw [unlines_cons, List.length_append, List.length_cons, ih, List.flatten_cons,
      List.length_append, List.length_cons]
    omega

variable (delim) in
/-- **The lines and the residue are the whole stream.** -/
theorem unlines_lines (stream : List α) :
    unlines delim (lines delim stream) ++ residue delim stream = stream := by
  induction stream using lines_induction delim with
  | free stream outside =>
    rw [lines_of_not_mem outside, residue_of_not_mem outside]
    rfl
  | line body rest outside ih =>
    rw [lines_append_cons outside, residue_append_cons outside, unlines_cons, List.append_assoc,
      List.cons_append, ih]

theorem not_mem_of_mem_lines {stream body : List α} (member : body ∈ lines delim stream) :
    delim ∉ body := by
  induction stream using lines_induction delim with
  | free stream outside =>
    rw [lines_of_not_mem outside] at member
    cases member
  | line first rest outside ih =>
    rw [lines_append_cons outside] at member
    rcases List.mem_cons.mp member with rfl | member
    · exact outside
    · exact ih member

theorem not_mem_residue (stream : List α) : delim ∉ residue delim stream := by
  induction stream using lines_induction delim with
  | free stream outside =>
    rw [residue_of_not_mem outside]
    exact outside
  | line body rest outside ih =>
    rw [residue_append_cons outside]
    exact ih

/-- Written-out lines in front of a stream are its first lines. -/
theorem lines_unlines_append {bodies : List (List α)} (free : ∀ body ∈ bodies, delim ∉ body)
    (rest : List α) : lines delim (unlines delim bodies ++ rest) = bodies ++ lines delim rest := by
  induction bodies with
  | nil => rfl
  | cons body bodies ih =>
    rw [unlines_cons, List.append_assoc, List.cons_append,
      lines_append_cons (free body List.mem_cons_self),
      ih fun other member => free other (List.mem_cons_of_mem _ member), List.cons_append]

theorem residue_unlines_append {bodies : List (List α)} (free : ∀ body ∈ bodies, delim ∉ body)
    (rest : List α) : residue delim (unlines delim bodies ++ rest) = residue delim rest := by
  induction bodies with
  | nil => rfl
  | cons body bodies ih =>
    rw [unlines_cons, List.append_assoc, List.cons_append,
      residue_append_cons (free body List.mem_cons_self),
      ih fun other member => free other (List.mem_cons_of_mem _ member)]

/-- **A stream may be cut anywhere.** -/
theorem lines_append (first second : List α) :
    lines delim (first ++ second)
      = lines delim first ++ lines delim (residue delim first ++ second) := by
  conv_lhs => rw [← unlines_lines delim first, List.append_assoc]
  exact lines_unlines_append (fun _ member => not_mem_of_mem_lines member) _

theorem residue_append (first second : List α) :
    residue delim (first ++ second) = residue delim (residue delim first ++ second) := by
  conv_lhs => rw [← unlines_lines delim first, List.append_assoc]
  exact residue_unlines_append (fun _ member => not_mem_of_mem_lines member) _

/-! ### A reader that stops at the first bad line -/

variable (delim) in
/-- The lines taken by a reader that stops for good at the first line that is not `ok`. -/
def accepted (ok : List α → Bool) (stream : List α) : List (List α) :=
  (lines delim stream).takeWhile ok

variable (delim) in
/-- What such a reader leaves: the first bad line and everything after it, or the residue. -/
def unread (ok : List α → Bool) (stream : List α) : List α :=
  unlines delim ((lines delim stream).dropWhile ok) ++ residue delim stream

variable (delim) in
theorem unlines_accepted (ok : List α → Bool) (stream : List α) :
    unlines delim (accepted delim ok stream) ++ unread delim ok stream = stream := by
  rw [accepted, unread, ← List.append_assoc, ← unlines_append, List.takeWhile_append_dropWhile,
    unlines_lines]

theorem not_mem_of_mem_accepted {ok : List α → Bool} {stream body : List α}
    (member : body ∈ accepted delim ok stream) : delim ∉ body :=
  not_mem_of_mem_lines ((List.takeWhile_prefix ok).subset member)

theorem ok_of_mem_accepted {ok : List α → Bool} {stream body : List α}
    (member : body ∈ accepted delim ok stream) : ok body = true :=
  List.mem_takeWhile_imp member

private theorem lines_split (ok : List α → Bool) (first second : List α) :
    lines delim (first ++ second)
      = accepted delim ok first ++ lines delim (unread delim ok first ++ second) := by
  conv_lhs => rw [← unlines_accepted delim ok first, List.append_assoc]
  exact lines_unlines_append (fun _ member => not_mem_of_mem_accepted member) _

/-- **The reader takes the same lines however the stream arrives.** -/
theorem accepted_append (ok : List α → Bool) (first second : List α) :
    accepted delim ok (first ++ second)
      = accepted delim ok first ++ accepted delim ok (unread delim ok first ++ second) := by
  rw [accepted, lines_split ok, List.takeWhile_append_of_pos fun _ => ok_of_mem_accepted]
  rfl

theorem unread_append (ok : List α → Bool) (first second : List α) :
    unread delim ok (first ++ second) = unread delim ok (unread delim ok first ++ second) := by
  have whole := unlines_accepted delim ok (first ++ second)
  have parts := unlines_accepted delim ok first
  have rest := unlines_accepted delim ok (unread delim ok first ++ second)
  rw [accepted_append, unlines_append, List.append_assoc] at whole
  refine List.append_cancel_left (List.append_cancel_left (whole.trans ?_))
  rw [rest, ← List.append_assoc, parts]

/-- A reader that is not stopped has only a residue left. -/
theorem unread_of_all {ok : List α → Bool} {stream : List α}
    (all : (lines delim stream).dropWhile ok = []) :
    unread delim ok stream = residue delim stream := by
  rw [unread, all]
  rfl

theorem accepted_of_not_mem {ok : List α → Bool} {stream : List α} (free : delim ∉ stream) :
    accepted delim ok stream = [] := by
  rw [accepted, lines_of_not_mem free]
  rfl

theorem unread_of_not_mem {ok : List α → Bool} {stream : List α} (free : delim ∉ stream) :
    unread delim ok stream = stream := by
  rw [unread_of_all (by rw [lines_of_not_mem free]; rfl), residue_of_not_mem free]

theorem accepted_append_cons {ok : List α → Bool} {body : List α} (free : delim ∉ body)
    (rest : List α) :
    accepted delim ok (body ++ delim :: rest)
      = if ok body then body :: accepted delim ok rest else [] := by
  rw [accepted, lines_append_cons free, List.takeWhile_cons]
  rfl

theorem unread_append_cons {ok : List α → Bool} {body : List α} (free : delim ∉ body)
    (rest : List α) :
    unread delim ok (body ++ delim :: rest)
      = if ok body then unread delim ok rest else body ++ delim :: rest := by
  rw [unread, lines_append_cons free, residue_append_cons free, List.dropWhile_cons]
  split_ifs with holds
  · rfl
  · rw [unlines_cons, List.append_assoc, List.cons_append, unlines_lines]

variable (delim) in
/-- A reader that has met a bad line. -/
def Stopped (ok : List α → Bool) (stream : List α) : Prop :=
  (lines delim stream).dropWhile ok ≠ []

/-- **A stopped reader takes nothing more.** -/
theorem Stopped.accepted_append {ok : List α → Bool} {first : List α}
    (stopped : Stopped delim ok first) (second : List α) :
    accepted delim ok (first ++ second) = accepted delim ok first := by
  obtain ⟨bad, rest, split⟩ := List.exists_cons_of_ne_nil stopped
  have refused : ok bad = false := by
    have head := List.head?_dropWhile_not ok (lines delim first)
    rw [split] at head
    simpa using head
  have member : bad ∈ lines delim first := by
    refine (List.dropWhile_suffix ok).subset ?_
    rw [split]
    exact List.mem_cons_self
  have free : delim ∉ bad := not_mem_of_mem_lines member
  rw [Foundation.accepted_append, unread, split, unlines_cons, List.append_assoc, List.append_assoc,
    List.cons_append, Foundation.accepted_append_cons free, if_neg (by rw [refused]; decide),
    List.append_nil]

theorem Stopped.append {ok : List α → Bool} {first : List α} (stopped : Stopped delim ok first)
    (second : List α) : Stopped delim ok (first ++ second) := by
  intro all
  have taken := stopped.accepted_append second
  rw [accepted, List.takeWhile_eq_self_iff.mpr (List.dropWhile_eq_nil_iff.mp all), lines_append]
    at taken
  refine stopped (List.dropWhile_eq_nil_iff.mpr fun line member => ?_)
  have inside : line ∈ accepted delim ok first := by
    rw [← taken]
    exact List.mem_append_left _ member
  exact ok_of_mem_accepted inside

/-- **What a reader that stops misses.** When bad lines give nothing, the taken lines give what all
lines give if and only if nothing follows a bad line. -/
theorem filterMap_accepted_eq_iff {β : Type*} {ok : List α → Bool} {give : List α → Option β}
    (quiet : ∀ line, ok line = false → give line = none) (stream : List α) :
    (accepted delim ok stream).filterMap give = (lines delim stream).filterMap give
      ↔ ∀ before line after, lines delim stream = before ++ line :: after → ok line = false →
          ∀ later ∈ after, give later = none := by
  have split : (lines delim stream).filterMap give = (accepted delim ok stream).filterMap give
      ++ ((lines delim stream).dropWhile ok).filterMap give := by
    rw [accepted, ← List.filterMap_append, List.takeWhile_append_dropWhile]
  rw [split, List.self_eq_append_right, List.filterMap_eq_nil_iff]
  constructor
  · intro rest before line after cut refused later member
    refine rest later ?_
    rw [cut, List.dropWhile_append]
    split_ifs
    · rw [List.dropWhile_cons_of_neg (by rw [refused]; decide)]
      exact List.mem_cons_of_mem _ member
    · exact List.mem_append_right _ (List.mem_cons_of_mem _ member)
  · intro clean line member
    obtain ⟨bad, after, dropped⟩ := List.exists_cons_of_ne_nil (List.ne_nil_of_mem member)
    have refused : ok bad = false := by
      have head := List.head?_dropWhile_not ok (lines delim stream)
      rw [dropped] at head
      simpa using head
    have cut : lines delim stream = accepted delim ok stream ++ bad :: after := by
      rw [accepted, ← dropped, List.takeWhile_append_dropWhile]
    rw [dropped] at member
    rcases List.mem_cons.mp member with rfl | member
    · exact quiet line refused
    · exact clean _ bad after cut refused line member

/-! ### Bounded runs -/

variable (delim) in
/-- No delimiter-free run of the stream is longer than `bound`. -/
def RunsAtMost (bound : Nat) (stream : List α) : Prop :=
  ∀ run, run <:+: stream → delim ∉ run → run.length ≤ bound

variable (delim) in
theorem residue_suffix (stream : List α) : residue delim stream <:+ stream :=
  ⟨_, unlines_lines delim stream⟩

theorem infix_of_mem_lines {stream body : List α} (member : body ∈ lines delim stream) :
    body <:+: stream := by
  induction stream using lines_induction delim with
  | free stream outside =>
    rw [lines_of_not_mem outside] at member
    cases member
  | line first rest outside ih =>
    rw [lines_append_cons outside] at member
    rcases List.mem_cons.mp member with rfl | member
    · exact (List.prefix_append body _).isInfix
    · exact (ih member).trans ((List.suffix_cons delim rest).trans
        (List.suffix_append first _)).isInfix

theorem RunsAtMost.of_infix {bound : Nat} {part stream : List α}
    (bounded : RunsAtMost delim bound stream) (inside : part <:+: stream) :
    RunsAtMost delim bound part :=
  fun run infixed free => bounded run (infixed.trans inside) free

theorem RunsAtMost.of_length_le {bound : Nat} {stream : List α} (short : stream.length ≤ bound) :
    RunsAtMost delim bound stream :=
  fun _ infixed _ => Nat.le_trans infixed.length_le short

theorem RunsAtMost.length_residue_le {bound : Nat} {stream : List α}
    (bounded : RunsAtMost delim bound stream) : (residue delim stream).length ≤ bound :=
  bounded _ (residue_suffix delim stream).isInfix (not_mem_residue stream)

theorem RunsAtMost.length_line_le {bound : Nat} {stream body : List α}
    (bounded : RunsAtMost delim bound stream) (member : body ∈ lines delim stream) :
    body.length ≤ bound :=
  bounded _ (infix_of_mem_lines member) (not_mem_of_mem_lines member)

/-- A delimiter-free run lies on one side of any delimiter. -/
theorem infix_of_infix_append_cons {run body rest : List α} (free : delim ∉ run)
    (inside : run <:+: body ++ delim :: rest) : run <:+: body ∨ run <:+: rest := by
  obtain ⟨before, after, cut⟩ := inside
  rcases List.append_eq_append_iff.mp cut with ⟨more, whole, -⟩ | ⟨more, reaches, split⟩
  · exact Or.inl ⟨before, more, whole.symm⟩
  · rcases more with _ | ⟨head, tail⟩
    · rw [List.append_nil] at reaches
      exact Or.inl ⟨before, [], by rw [List.append_nil, reaches]⟩
    · obtain ⟨rfl, rfl⟩ := List.cons.inj split
      rcases List.append_eq_append_iff.mp reaches with ⟨part, -, starts⟩ | ⟨part, -, starts⟩
      · rw [starts] at free
        exact absurd (List.mem_append_right _ List.mem_cons_self) free
      · rcases part with _ | ⟨first, part⟩
        · rw [List.nil_append] at starts
          rw [← starts] at free
          exact absurd List.mem_cons_self free
        · obtain ⟨-, rfl⟩ := List.cons.inj starts
          exact Or.inr ⟨part, after, rfl⟩

/-- Short lines and a short residue have no long run between them. -/
theorem RunsAtMost.of_lines {bound : Nat} {stream : List α}
    (short : ∀ body ∈ lines delim stream, body.length ≤ bound)
    (last : (residue delim stream).length ≤ bound) : RunsAtMost delim bound stream := by
  induction stream using lines_induction delim with
  | free stream outside =>
    rw [residue_of_not_mem outside] at last
    exact .of_length_le last
  | line body rest outside ih =>
    rw [lines_append_cons outside, List.forall_mem_cons] at short
    rw [residue_append_cons outside] at last
    intro run inside free
    rcases infix_of_infix_append_cons free inside with inBody | inRest
    · exact Nat.le_trans inBody.length_le short.1
    · exact ih short.2 last run inRest free

/-- The lines of a stream that is nothing but lines. -/
theorem lines_unlines {bodies : List (List α)} (free : ∀ body ∈ bodies, delim ∉ body) :
    lines delim (unlines delim bodies) = bodies := by
  have whole := lines_unlines_append free []
  rw [List.append_nil, lines_of_not_mem List.not_mem_nil, List.append_nil] at whole
  exact whole

theorem RunsAtMost.unlines {bound : Nat} {bodies : List (List α)}
    (free : ∀ body ∈ bodies, delim ∉ body) (short : ∀ body ∈ bodies, body.length ≤ bound) :
    RunsAtMost delim bound (Foundation.unlines delim bodies) := by
  have last := residue_unlines_append free []
  rw [List.append_nil, residue_of_not_mem List.not_mem_nil] at last
  refine .of_lines ?_ ?_
  · rw [lines_unlines free]
    exact short
  · rw [last]
    exact Nat.zero_le _

/-- What arrives of a stream are its first lines and part of the next. -/
theorem lines_mono {part stream : List α} (arrived : part <+: stream) :
    lines delim part <+: lines delim stream := by
  obtain ⟨rest, rfl⟩ := arrived
  rw [lines_append]
  exact List.prefix_append _ _

end Framing

end Foundation
