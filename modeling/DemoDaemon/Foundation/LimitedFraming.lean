/-
**A line reader with a length limit, fed chunk by chunk.**

The reader judges complete lines one at a time and keeps no state besides the unread symbols. An
unfinished line that reaches the limit is reported and thrown away at once, so what arrives of it
afterwards is read as if a line started there.

* `reported stream`, `kept stream`: what the reader reports of a stream presented at once, and
  what it keeps.
* `feedReported unread chunks`: what it reports when the chunks arrive one by one.
* `Crosses`, `Silent`, `Clear`: a chunk with which a line reaches the limit, a rest whose first
  line goes unreported, and the condition that every crossing is followed by such a rest.
* **`feedReported_eq_iff`**: chunk by chunk the reader reports the same as at once if and only if
  every crossing is silent. Cutting never loses a report (`length_reported_le`), so one line too
  many is never made up for.
-/

import DemoDaemon.Foundation.Framing

set_option linter.unusedSectionVars false

namespace Foundation

section Limited

variable {α β : Type*} [DecidableEq α] (delim : α) (limit : Nat) (verdict : List α → Option β)
  (tooLong : β)

/-! ### The reader -/

/-- What the reader reports of a stream presented at once. -/
def reported (stream : List α) : List β :=
  (lines delim stream).filterMap verdict
    ++ if limit ≤ (residue delim stream).length then [tooLong] else []

/-- What the reader keeps of a stream: its unfinished line, unless it was thrown away. -/
def kept (stream : List α) : List α :=
  if limit ≤ (residue delim stream).length then [] else residue delim stream

/-- What the reader reports of chunks that arrive one by one. -/
def feedReported : List α → List (List α) → List β
  | _, [] => []
  | unread, chunk :: chunks =>
    reported delim limit verdict tooLong (unread ++ chunk)
      ++ feedReported (kept delim limit (unread ++ chunk)) chunks

/-- The unfinished line reaches the limit with this chunk. -/
def Crosses (before chunk : List α) : Prop :=
  limit ≤ (residue delim (before ++ chunk)).length ∧
    (delim ∈ chunk ∨ (residue delim before).length < limit)

/-- The first line of the rest goes unreported: it is skipped, or it is unfinished and short. -/
def Silent (rest : List α) : Prop :=
  match lines delim rest with
  | [] => rest.length < limit
  | line :: _ => verdict line = none

/-- Every crossing, at whatever chunk, is followed by a silent rest. -/
def Clear (before : List α) (chunks : List (List α)) : Prop :=
  ∀ past chunk future, chunks = past ++ chunk :: future →
    Crosses delim limit (before ++ past.flatten) chunk →
      Silent delim limit verdict future.flatten

variable {delim limit verdict tooLong}

/-! ### Reports and cuts -/

theorem reported_of_not_mem {stream : List α} (free : delim ∉ stream) :
    reported delim limit verdict tooLong stream
      = if limit ≤ stream.length then [tooLong] else [] := by
  rw [reported, lines_of_not_mem free, residue_of_not_mem free]
  rfl

theorem reported_append_cons {body : List α} (free : delim ∉ body) (rest : List α) :
    reported delim limit verdict tooLong (body ++ delim :: rest)
      = (verdict body).toList ++ reported delim limit verdict tooLong rest := by
  rw [reported, reported, lines_append_cons free, residue_append_cons free, List.filterMap_cons]
  cases verdict body <;> rfl

/-- Complete lines are reported at once or in parts alike. -/
theorem reported_append (first second : List α) :
    reported delim limit verdict tooLong (first ++ second)
      = (lines delim first).filterMap verdict
        ++ reported delim limit verdict tooLong (residue delim first ++ second) := by
  rw [reported, lines_append, residue_append, List.filterMap_append, List.append_assoc]
  rfl

theorem silent_of_not_mem {rest : List α} (free : delim ∉ rest) :
    Silent delim limit verdict rest ↔ rest.length < limit := by
  rw [Silent, lines_of_not_mem free]

theorem silent_append_cons {body : List α} (free : delim ∉ body) (rest : List α) :
    Silent delim limit verdict (body ++ delim :: rest) ↔ verdict body = none := by
  rw [Silent, lines_append_cons free]

/-! ### One chunk -/

theorem feedReported_cons_of_short {unread chunk : List α}
    (short : (residue delim (unread ++ chunk)).length < limit) (chunks : List (List α)) :
    feedReported delim limit verdict tooLong unread (chunk :: chunks)
      = (lines delim (unread ++ chunk)).filterMap verdict
        ++ feedReported delim limit verdict tooLong (residue delim (unread ++ chunk)) chunks := by
  rw [feedReported, reported, kept, if_neg (Nat.not_le_of_gt short),
    if_neg (Nat.not_le_of_gt short), List.append_nil]

theorem feedReported_cons_of_past {unread chunk : List α}
    (past : limit ≤ (residue delim (unread ++ chunk)).length) (chunks : List (List α)) :
    feedReported delim limit verdict tooLong unread (chunk :: chunks)
      = (lines delim (unread ++ chunk)).filterMap verdict
        ++ tooLong :: feedReported delim limit verdict tooLong [] chunks := by
  rw [feedReported, reported, kept, if_pos past, if_pos past, List.append_assoc]
  rfl

theorem reported_cons (unread chunk : List α) (chunks : List (List α)) :
    reported delim limit verdict tooLong (unread ++ (chunk :: chunks).flatten)
      = (lines delim (unread ++ chunk)).filterMap verdict
        ++ reported delim limit verdict tooLong
          (residue delim (unread ++ chunk) ++ chunks.flatten) := by
  rw [List.flatten_cons, ← List.append_assoc, reported_append]

/-! ### Cut or not -/

section Long

variable (long : ∀ line : List α, limit ≤ line.length → verdict line = some tooLong)
include long

/-- An unfinished line past the limit is one report, whatever follows of it. What follows is
reported again, unless it is silent, when it is read as a line of its own. -/
theorem reported_past {unfinished : List α} (free : delim ∉ unfinished)
    (past : limit ≤ unfinished.length) (rest : List α) :
    ∃ others, reported delim limit verdict tooLong (unfinished ++ rest) = tooLong :: others ∧
      others.length ≤ (reported delim limit verdict tooLong rest).length ∧
      (Silent delim limit verdict rest → reported delim limit verdict tooLong rest = others) ∧
      (¬ Silent delim limit verdict rest →
        others.length < (reported delim limit verdict tooLong rest).length) := by
  by_cases member : delim ∈ rest
  · obtain ⟨body, after, rfl, bodyFree⟩ := List.eq_append_cons_of_mem member
    have whole : delim ∉ unfinished ++ body := fun inside =>
      (List.mem_append.mp inside).elim free bodyFree
    have judged : verdict (unfinished ++ body) = some tooLong :=
      long _ (by rw [List.length_append]; omega)
    refine ⟨reported delim limit verdict tooLong after, ?_, ?_, ?_, ?_⟩
    · rw [← List.append_assoc, reported_append_cons whole, judged]
      rfl
    · rw [reported_append_cons bodyFree, List.length_append]
      omega
    · rw [silent_append_cons bodyFree, reported_append_cons bodyFree]
      intro skipped
      rw [skipped]
      rfl
    · rw [silent_append_cons bodyFree, reported_append_cons bodyFree, List.length_append]
      intro judgedBody
      obtain ⟨report, judgedAs⟩ := Option.ne_none_iff_exists'.mp judgedBody
      rw [judgedAs, Option.toList_some, List.length_singleton]
      omega
  · have whole : delim ∉ unfinished ++ rest := fun inside =>
      (List.mem_append.mp inside).elim free member
    refine ⟨[], ?_, Nat.zero_le _, ?_, ?_⟩
    · rw [reported_of_not_mem whole, if_pos (by rw [List.length_append]; omega)]
    · rw [silent_of_not_mem member, reported_of_not_mem member]
      intro short
      rw [if_neg (Nat.not_le_of_gt short)]
    · rw [silent_of_not_mem member, reported_of_not_mem member]
      intro notShort
      rw [if_pos (Nat.not_lt.mp notShort)]
      exact Nat.one_pos

/-- **Cutting a stream never loses a report.** -/
theorem length_reported_le (positive : 0 < limit) {unread : List α}
    (free : delim ∉ unread) (short : unread.length < limit) (chunks : List (List α)) :
    (reported delim limit verdict tooLong (unread ++ chunks.flatten)).length
      ≤ (feedReported delim limit verdict tooLong unread chunks).length := by
  induction chunks generalizing unread with
  | nil =>
    rw [List.flatten_nil, List.append_nil, reported_of_not_mem free,
      if_neg (Nat.not_le_of_gt short)]
    exact Nat.zero_le _
  | cons chunk chunks ih =>
    rw [reported_cons]
    have ended : delim ∉ residue delim (unread ++ chunk) := not_mem_residue _
    by_cases past : limit ≤ (residue delim (unread ++ chunk)).length
    · obtain ⟨others, report, fewer, -, -⟩ := reported_past long ended past chunks.flatten
      have rest := ih List.not_mem_nil positive
      rw [List.nil_append] at rest
      rw [feedReported_cons_of_past past, report, List.length_append, List.length_append,
        List.length_cons, List.length_cons]
      omega
    · have rest := ih ended (Nat.lt_of_not_le past)
      rw [feedReported_cons_of_short (Nat.lt_of_not_le past), List.length_append,
        List.length_append]
      omega

variable (positive : 0 < limit)
include positive

/-- **One chunk.** The comparison after it is the same comparison on the kept symbols; after a
crossing the rest must be silent besides. -/
theorem feedReported_cons_eq_iff {unread : List α} (chunk : List α) (chunks : List (List α)) :
    feedReported delim limit verdict tooLong unread (chunk :: chunks)
        = reported delim limit verdict tooLong (unread ++ (chunk :: chunks).flatten)
      ↔ (limit ≤ (residue delim (unread ++ chunk)).length →
          Silent delim limit verdict chunks.flatten) ∧
        feedReported delim limit verdict tooLong (kept delim limit (unread ++ chunk)) chunks
          = reported delim limit verdict tooLong
            (kept delim limit (unread ++ chunk) ++ chunks.flatten) := by
  rw [reported_cons]
  by_cases past : limit ≤ (residue delim (unread ++ chunk)).length
  · obtain ⟨others, report, -, same, more⟩ :=
      reported_past long (not_mem_residue (unread ++ chunk)) past chunks.flatten
    rw [feedReported_cons_of_past past, List.append_cancel_left_eq, report, List.cons.injEq, kept,
      if_pos past, List.nil_append]
    constructor
    · rintro ⟨-, equal⟩
      have silent : Silent delim limit verdict chunks.flatten := by
        by_contra loud
        have atLeast := length_reported_le long positive (@List.not_mem_nil _ delim) positive chunks
        rw [List.nil_append, equal] at atLeast
        exact Nat.not_lt_of_le atLeast (more loud)
      exact ⟨fun _ => silent, equal.trans (same silent).symm⟩
    · rintro ⟨silent, equal⟩
      exact ⟨rfl, equal.trans (same (silent past))⟩
  · rw [feedReported_cons_of_short (Nat.lt_of_not_le past), List.append_cancel_left_eq, kept,
      if_neg past]
    exact ⟨fun equal => ⟨fun reached => absurd reached past, equal⟩, fun both => both.2⟩

end Long

/-! ### All chunks -/

theorem clear_cons {before chunk : List α} {chunks : List (List α)} :
    Clear delim limit verdict before (chunk :: chunks)
      ↔ (Crosses delim limit before chunk → Silent delim limit verdict chunks.flatten) ∧
        Clear delim limit verdict (before ++ chunk) chunks := by
  constructor
  · intro clear
    refine ⟨fun crosses => clear [] chunk chunks rfl ?_, fun past next future cut crosses => ?_⟩
    · rw [List.flatten_nil, List.append_nil]
      exact crosses
    · refine clear (chunk :: past) next future (by rw [cut]; rfl) ?_
      rw [List.flatten_cons, ← List.append_assoc]
      exact crosses
  · rintro ⟨here, later⟩ past next future cut crosses
    cases past with
    | nil =>
      cases cut
      rw [List.flatten_nil, List.append_nil] at crosses
      exact here crosses
    | cons first past =>
      cases cut
      rw [List.flatten_cons, ← List.append_assoc] at crosses
      exact later past next future rfl crosses

/-- How the unread symbols relate to the stream so far: they are its unfinished line; or that line
was thrown away, and what came of it since is the start of a silent rest. -/
def Follows (delim : α) (limit : Nat) (verdict : List α → Option β) (before unread : List α)
    (chunks : List (List α)) : Prop :=
  ((residue delim before).length < limit ∧ unread = residue delim before) ∨
    (limit ≤ (residue delim before).length ∧ delim ∉ unread ∧
      Silent delim limit verdict (unread ++ chunks.flatten))

/-- A delimiter ends both readings of the unfinished line. -/
theorem residue_append_of_mem {chunk : List α} (member : delim ∈ chunk) (first second : List α)
    (firstFree : delim ∉ first) :
    residue delim (first ++ chunk) = residue delim (second ++ chunk) := by
  obtain ⟨body, rest, rfl, bodyFree⟩ := List.eq_append_cons_of_mem member
  rw [residue_append second, ← List.append_assoc, ← List.append_assoc, residue_append_cons,
    residue_append_cons]
  · exact fun inside => (List.mem_append.mp inside).elim (not_mem_residue second) bodyFree
  · exact fun inside => (List.mem_append.mp inside).elim firstFree bodyFree

section AllChunks

variable (long : ∀ line : List α, limit ≤ line.length → verdict line = some tooLong)
include long

/-- **One chunk keeps the relation**, when a crossing with it is silent; and the reader reaches the
limit exactly at a crossing. -/
theorem Follows.cons {before unread chunk : List α} {chunks : List (List α)}
    (follows : Follows delim limit verdict before unread (chunk :: chunks)) :
    (limit ≤ (residue delim (unread ++ chunk)).length ↔ Crosses delim limit before chunk) ∧
      ((Crosses delim limit before chunk → Silent delim limit verdict chunks.flatten) →
        Follows delim limit verdict (before ++ chunk) (kept delim limit (unread ++ chunk))
          chunks) := by
  have joined : residue delim (before ++ chunk) = residue delim (residue delim before ++ chunk) :=
    residue_append before chunk
  -- after a newline, or with no line thrown away, both readings agree on the unfinished line
  have agree : residue delim (unread ++ chunk) = residue delim (before ++ chunk) →
      (delim ∈ chunk ∨ (residue delim before).length < limit) →
      (limit ≤ (residue delim (unread ++ chunk)).length ↔ Crosses delim limit before chunk) ∧
      ((Crosses delim limit before chunk → Silent delim limit verdict chunks.flatten) →
        Follows delim limit verdict (before ++ chunk) (kept delim limit (unread ++ chunk))
          chunks) := by
    intro same started
    have crossing : limit ≤ (residue delim (unread ++ chunk)).length
        ↔ Crosses delim limit before chunk := by
      rw [same]
      exact ⟨fun past => ⟨past, started⟩, fun crosses => crosses.1⟩
    refine ⟨crossing, fun silent => ?_⟩
    unfold kept
    split_ifs with past
    · exact Or.inr ⟨same ▸ past, List.not_mem_nil, silent (crossing.mp past)⟩
    · exact Or.inl ⟨same ▸ Nat.lt_of_not_le past, same⟩
  rcases follows with ⟨short, rfl⟩ | ⟨past, free, silent⟩
  · exact agree joined.symm (Or.inr short)
  · by_cases member : delim ∈ chunk
    · exact agree (residue_append_of_mem member unread before free) (Or.inl member)
    · have whole : delim ∉ unread ++ chunk := fun inside =>
        (List.mem_append.mp inside).elim free member
      have continued : delim ∉ residue delim before ++ chunk := fun inside =>
        (List.mem_append.mp inside).elim (not_mem_residue before) member
      rw [List.flatten_cons, ← List.append_assoc] at silent
      have short : (unread ++ chunk).length < limit := by
        by_cases later : delim ∈ chunks.flatten
        · obtain ⟨body, rest, split, bodyFree⟩ := List.eq_append_cons_of_mem later
          have line : delim ∉ unread ++ chunk ++ body := fun inside =>
            (List.mem_append.mp inside).elim whole bodyFree
          rw [split, ← List.append_assoc, silent_append_cons line] at silent
          by_contra reached
          rw [long _ (by rw [List.length_append]; omega)] at silent
          cases silent
        · rw [silent_of_not_mem fun inside => (List.mem_append.mp inside).elim whole later,
            List.length_append] at silent
          omega
      have notCrossing : ¬ Crosses delim limit before chunk := fun crosses =>
        crosses.2.elim member (Nat.not_lt_of_le past)
      rw [kept, residue_of_not_mem whole, if_neg (Nat.not_le_of_gt short)]
      refine ⟨⟨fun reached => absurd reached (Nat.not_le_of_gt short),
        fun crosses => absurd crosses notCrossing⟩, fun _ => Or.inr ⟨?_, whole, silent⟩⟩
      rw [joined, residue_of_not_mem continued, List.length_append]
      omega

/-- **Chunk by chunk or at once.** The reports agree if and only if every crossing is silent. -/
theorem feedReported_eq_iff (positive : 0 < limit) {before unread : List α}
    {chunks : List (List α)} (follows : Follows delim limit verdict before unread chunks) :
    feedReported delim limit verdict tooLong unread chunks
        = reported delim limit verdict tooLong (unread ++ chunks.flatten)
      ↔ Clear delim limit verdict before chunks := by
  induction chunks generalizing before unread with
  | nil =>
    have quiet : reported delim limit verdict tooLong (unread ++ [].flatten) = [] := by
      rw [List.flatten_nil, List.append_nil]
      rcases follows with ⟨short, rfl⟩ | ⟨-, free, silent⟩
      · rw [reported_of_not_mem (not_mem_residue before), if_neg (Nat.not_le_of_gt short)]
      · rw [List.flatten_nil, List.append_nil, silent_of_not_mem free] at silent
        rw [reported_of_not_mem free, if_neg (Nat.not_le_of_gt silent)]
    rw [quiet]
    refine ⟨fun _ past chunk future cut => ?_, fun _ => rfl⟩
    cases past <;> cases cut
  | cons chunk chunks ih =>
    obtain ⟨reached, next⟩ := follows.cons long
    rw [feedReported_cons_eq_iff long positive, clear_cons, reached]
    exact and_congr_right fun silent => ih (next silent)

end AllChunks

end Limited

end Foundation
