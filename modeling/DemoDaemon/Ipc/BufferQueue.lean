/-
**The session buffers without their invariant** (`IOBuffer`, `session_manager.cpp`).

None of the methods of `IOBuffer` checks what it is called with: positions are added to and
subtracted from as they are, in `size_t`, and memory is touched where they point. `RawBuffer` is
that, with a fault for every access outside `data`.

* `bufferStep`: the operations of a session on a buffer, beside the queue of bytes they stand for.
* `IOBuffer.raw`: a buffer that keeps its invariant, without it. `IOBuffer.apply` and
  `ByteQueue.apply`: what an operation does to a buffer that keeps it, and to the queue.
* **`bufferStep_raw`**: the step lemma. On such a buffer no operation faults, and it does these two.
* **`refinesQueue_of_steps`**: so it is for every sequence of operations.
-/

import DemoDaemon.Ipc.ReadRounds

namespace DemoDaemon.Ipc

open Foundation

/-! ### The model -/

/-- Subtraction in `size_t`. -/
def sizeSub (first second : Nat) : Nat :=
  if second ≤ first then first - second else first + 2 ^ 64 - second

/-- An access outside `data`. -/
inductive BufferFault where
  | memmove
  | memcpy
  | store
  | view
  | read

/-- `IOBuffer`, with nothing said about its positions. -/
structure RawBuffer where
  data : Bytes
  readPos : Nat
  writePos : Nat

namespace RawBuffer

/-- `IOBuffer(initial_size)`. -/
def create (initialSize : Nat) : RawBuffer := ⟨List.replicate initialSize 0, 0, 0⟩

def availableForRead (buffer : RawBuffer) : Nat := sizeSub buffer.writePos buffer.readPos

def availableForWrite (buffer : RawBuffer) : Nat := sizeSub buffer.data.length buffer.writePos

/-- An access to so many bytes of `data` at a position. -/
def access (buffer : RawBuffer) (fault : BufferFault) (position count : Nat) :
    Except BufferFault Unit :=
  if position + count ≤ buffer.data.length then .ok () else .error fault

def compact (buffer : RawBuffer) : Except BufferFault RawBuffer :=
  if 0 < buffer.readPos then do
    let count := sizeSub buffer.writePos buffer.readPos
    buffer.access .memmove buffer.readPos count
    buffer.access .memmove 0 count
    return ⟨overwritten buffer.data 0 (substr buffer.data buffer.readPos count), 0, count⟩
  else .ok buffer

def clear (buffer : RawBuffer) : RawBuffer := ⟨buffer.data, 0, 0⟩

def getReadView (buffer : RawBuffer) : Except BufferFault Bytes := do
  buffer.access .view buffer.readPos buffer.availableForRead
  return substr buffer.data buffer.readPos buffer.availableForRead

def advanceRead (buffer : RawBuffer) (bytes : Nat) : RawBuffer :=
  { buffer with readPos := buffer.readPos + bytes }

def advanceWrite (buffer : RawBuffer) (bytes : Nat) : RawBuffer :=
  { buffer with writePos := buffer.writePos + bytes }

/-- `data.resize(size)`. -/
def resize (buffer : RawBuffer) (size : Nat) : RawBuffer :=
  { buffer with data := resized buffer.data size }

/-- The growth in `read_from_socket`. -/
def grow (buffer : RawBuffer) : RawBuffer :=
  let newSize := min (buffer.data.length * 2) maxBufferSize
  if buffer.availableForWrite < 1024 ∧ buffer.data.length < newSize then buffer.resize newSize
  else buffer

/-- `::read` into the tail, which may use all it is offered, and `advance_write`. -/
def receive (buffer : RawBuffer) (bytes : Bytes) : Except BufferFault RawBuffer := do
  buffer.access .read buffer.writePos buffer.availableForWrite
  return { buffer with data := overwritten buffer.data buffer.writePos bytes }.advanceWrite
    bytes.length

/-- The body of `schedule_send`: resize, copy the text, store the newline, `advance_write`. -/
def append (buffer : RawBuffer) (text : Bytes) : Except BufferFault RawBuffer := do
  let room := buffer.resize (buffer.writePos + text.length + 1)
  room.access .memcpy room.writePos text.length
  let copied := { room with data := overwritten room.data room.writePos text }
  copied.access .store (copied.writePos + text.length) 1
  return { copied with
    data := overwritten copied.data (copied.writePos + text.length) [newline] }.advanceWrite
      (text.length + 1)

end RawBuffer

/-- What a session does to a buffer. The bytes that `::read` delivers, and the counts that `::write`
and the parser give, are cut to what they are offered. -/
inductive BufferOp where
  | grow
  | compact
  | read (bytes : Bytes)
  /-- Offer the view, `advance_read` and `compact`. -/
  | consume (count : Nat)
  | append (text : Bytes)
  | clear

/-- The bytes appended since the last `clear`, and how many of them were consumed. -/
structure ByteQueue where
  appended : Bytes
  consumed : Nat

def ByteQueue.empty : ByteQueue := ⟨[], 0⟩

def ByteQueue.unread (queue : ByteQueue) : Bytes := queue.appended.drop queue.consumed

/-- One operation, on the buffer and on the queue. -/
def bufferStep (state : RawBuffer × ByteQueue) :
    BufferOp → Except BufferFault (RawBuffer × ByteQueue)
  | .grow => .ok (state.1.grow, state.2)
  | .compact => do
    let buffer ← state.1.compact
    return (buffer, state.2)
  | .read bytes => do
    let delivered := bytes.take state.1.availableForWrite
    let buffer ← state.1.receive delivered
    return (buffer, { state.2 with appended := state.2.appended ++ delivered })
  | .consume count => do
    let view ← state.1.getReadView
    let taken := min count view.length
    let buffer ← (state.1.advanceRead taken).compact
    return (buffer, { state.2 with consumed := state.2.consumed + taken })
  | .append text => do
    let buffer ← state.1.append text
    return (buffer, { state.2 with appended := state.2.appended ++ (text ++ [newline]) })
  | .clear => .ok (state.1.clear, .empty)

/-- A sequence of operations, on a new buffer. -/
def operate (initialSize : Nat) (ops : List BufferOp) :
    Except BufferFault (RawBuffer × ByteQueue) :=
  ops.foldlM bufferStep (RawBuffer.create initialSize, ByteQueue.empty)

/-! ### Buffers that keep their invariant -/

namespace IOBuffer

/-- The buffer without its invariant. -/
def raw (buffer : IOBuffer) : RawBuffer := ⟨buffer.data, buffer.readPos, buffer.writePos⟩

variable (buffer : IOBuffer)

@[simp]
theorem data_raw : buffer.raw.data = buffer.data := rfl

@[simp]
theorem readPos_raw : buffer.raw.readPos = buffer.readPos := rfl

@[simp]
theorem writePos_raw : buffer.raw.writePos = buffer.writePos := rfl

@[simp]
theorem availableForRead_raw : buffer.raw.availableForRead = buffer.availableForRead :=
  if_pos buffer.ordered

@[simp]
theorem availableForWrite_raw : buffer.raw.availableForWrite = buffer.availableForWrite :=
  if_pos buffer.inside

/-- An access inside `data` does not fault. -/
theorem access_raw {fault : BufferFault} {position count : Nat}
    (inside : position + count ≤ buffer.capacity) :
    buffer.raw.access fault position count = .ok () :=
  if_pos inside

theorem readPos_add_available : buffer.readPos + buffer.availableForRead = buffer.writePos :=
  Nat.add_sub_cancel' buffer.ordered

theorem writePos_add_available : buffer.writePos + buffer.availableForWrite = buffer.capacity :=
  Nat.add_sub_cancel' buffer.inside

/-- The bytes from the read position on. -/
theorem substr_pending :
    substr buffer.data buffer.readPos buffer.availableForRead = buffer.pending := by
  rw [substr, pending, List.drop_take]
  rfl

/-- The bytes between the positions are inside `data`. -/
theorem pending_inside : buffer.readPos + buffer.availableForRead ≤ buffer.capacity := by
  rw [readPos_add_available]
  exact buffer.inside

/-- The view is inside `data`, and is what is pending. -/
theorem getReadView_raw : buffer.raw.getReadView = .ok buffer.pending := by
  rw [RawBuffer.getReadView, availableForRead_raw, readPos_raw,
    buffer.access_raw buffer.pending_inside, data_raw, substr_pending]
  rfl

/-- Both ranges of the `memmove` are inside `data`. -/
theorem compact_raw : buffer.raw.compact = .ok buffer.compact.raw := by
  have count : sizeSub buffer.raw.writePos buffer.raw.readPos = buffer.availableForRead :=
    buffer.availableForRead_raw
  have source : buffer.raw.access .memmove buffer.raw.readPos buffer.availableForRead = .ok () :=
    buffer.access_raw buffer.pending_inside
  have target : buffer.raw.access .memmove 0 buffer.availableForRead = .ok () := by
    have inside := buffer.pending_inside
    exact buffer.access_raw (by omega)
  have bytes : substr buffer.raw.data buffer.raw.readPos buffer.availableForRead = buffer.pending :=
    buffer.substr_pending
  rw [RawBuffer.compact, compact]
  by_cases moved : 0 < buffer.readPos
  · rw [if_pos (show 0 < buffer.raw.readPos from moved), if_pos moved]
    simp only [count, source, target, bytes]
    rfl
  · rw [if_neg (show ¬ 0 < buffer.raw.readPos from moved), if_neg moved]

/-- What `::read` is offered is inside `data`. -/
theorem receive_raw {bytes : Bytes} (fits : bytes.length ≤ buffer.availableForWrite) :
    buffer.raw.receive bytes = .ok (buffer.fill bytes fits).raw := by
  rw [RawBuffer.receive, availableForWrite_raw, writePos_raw,
    buffer.access_raw buffer.writePos_add_available.le]
  rfl

/-- Nothing behind the copied bytes changes. -/
theorem drop_overwritten {data bytes : Bytes} {position : Nat}
    (fits : position + bytes.length ≤ data.length) (more : Nat) :
    (overwritten data position bytes).drop (position + bytes.length + more)
      = data.drop (position + bytes.length + more) := by
  have length : (data.take position ++ bytes).length = position + bytes.length := by
    rw [List.length_append, List.length_take]
    omega
  rw [overwritten, List.drop_append, List.drop_of_length_le (by omega), List.nil_append, length,
    Nat.add_sub_cancel_left, List.drop_drop]

/-- Copying a text and then a byte behind it is copying both. -/
theorem overwritten_concat {data text : Bytes} {position : Nat} {last : UInt8}
    (fits : position + text.length + 1 ≤ data.length) :
    overwritten (overwritten data position text) (position + text.length) [last]
      = overwritten data position (text ++ [last]) := by
  have copied : position + text.length ≤ data.length := by omega
  have behind := drop_overwritten copied 1
  have front := take_overwritten copied
  rw [overwritten, front, List.length_singleton, behind, overwritten, List.length_append,
    List.length_singleton, ← Nat.add_assoc, List.append_assoc (data.take position)]

/-- What `enqueue` does with a text. -/
def append (text : Bytes) : IOBuffer :=
  (buffer.resize (buffer.writePos + text.length + 1) (writePos_le_room buffer text)).fill
    (text ++ [newline]) (length_le_room buffer text)

theorem pending_append (text : Bytes) :
    (buffer.append text).pending = buffer.pending ++ (text ++ [newline]) := by
  rw [append, pending_fill, pending_resize]

/-- The room that `append` makes takes the text and the newline. -/
theorem append_raw (text : Bytes) : buffer.raw.append text = .ok (buffer.append text).raw := by
  have size := length_resized buffer.data (buffer.writePos + text.length + 1)
  have copies : buffer.writePos + text.length
      ≤ (resized buffer.data (buffer.writePos + text.length + 1)).length := by omega
  have stores : buffer.writePos + text.length + 1
      ≤ (overwritten (resized buffer.data (buffer.writePos + text.length + 1)) buffer.writePos
        text).length := by
    rw [length_overwritten copies]
    omega
  have memcpy : RawBuffer.access ⟨resized buffer.data (buffer.writePos + text.length + 1),
      buffer.readPos, buffer.writePos⟩ .memcpy buffer.writePos text.length = .ok () := if_pos copies
  have store : RawBuffer.access ⟨overwritten (resized buffer.data
      (buffer.writePos + text.length + 1)) buffer.writePos text, buffer.readPos, buffer.writePos⟩
        .store (buffer.writePos + text.length) 1 = .ok () := if_pos stores
  have same := @overwritten_concat (resized buffer.data (buffer.writePos + text.length + 1)) text
    buffer.writePos newline (by omega)
  dsimp only [RawBuffer.append, RawBuffer.resize, RawBuffer.advanceWrite, raw]
  rw [memcpy]
  show (do
    RawBuffer.access ⟨overwritten (resized buffer.data (buffer.writePos + text.length + 1))
      buffer.writePos text, buffer.readPos, buffer.writePos⟩ .store
        (buffer.writePos + text.length) 1
    pure _) = _
  have length : (text ++ [newline]).length = text.length + 1 := by
    rw [List.length_append, List.length_singleton]
  rw [store, same, ← length]
  rfl

theorem grow_raw : buffer.raw.grow = buffer.grown.raw := by
  have room : buffer.raw.availableForWrite = buffer.availableForWrite :=
    buffer.availableForWrite_raw
  unfold RawBuffer.grow grown
  rw [room]
  by_cases grows : buffer.availableForWrite < 1024 ∧
      buffer.capacity < min (buffer.capacity * 2) maxBufferSize
  · rw [dif_pos grows]
    exact if_pos grows
  · rw [dif_neg grows]
    exact if_neg grows

end IOBuffer

/-! ### One operation -/

/-- A buffer and its queue agree. -/
structure Agrees (buffer : IOBuffer) (queue : ByteQueue) : Prop where
  unread : buffer.pending = queue.unread
  within : queue.consumed ≤ queue.appended.length

theorem Agrees.append {buffer filled : IOBuffer} {queue : ByteQueue} (agrees : Agrees buffer queue)
    {bytes : Bytes} (added : filled.pending = buffer.pending ++ bytes) :
    Agrees filled { queue with appended := queue.appended ++ bytes } := by
  refine ⟨?_, ?_⟩
  · rw [added, agrees.unread, ByteQueue.unread, ByteQueue.unread,
      List.drop_append_of_le_length agrees.within]
  · rw [List.length_append]
    exact Nat.le_add_right_of_le agrees.within

theorem Agrees.consume {buffer : IOBuffer} {queue : ByteQueue} (agrees : Agrees buffer queue)
    {count : Nat} (enough : count ≤ buffer.availableForRead) :
    Agrees (buffer.advanceRead count enough).compact
      { queue with consumed := queue.consumed + count } := by
  have unread := agrees.unread
  have within := agrees.within
  refine ⟨?_, ?_⟩
  · rw [IOBuffer.pending_compact, IOBuffer.pending_advanceRead, unread, ByteQueue.unread,
      ByteQueue.unread, List.drop_drop]
  · have length := congrArg List.length unread
    rw [IOBuffer.length_pending, ByteQueue.unread, List.length_drop] at length
    show queue.consumed + count ≤ queue.appended.length
    omega

theorem min_le_available (buffer : IOBuffer) (count : Nat) :
    min count buffer.pending.length ≤ buffer.availableForRead := by
  rw [IOBuffer.length_pending]
  exact Nat.min_le_right _ _

/-- An operation on a buffer that keeps its invariant. -/
def IOBuffer.apply (buffer : IOBuffer) : BufferOp → IOBuffer
  | .grow => buffer.grown
  | .compact => buffer.compact
  | .read bytes => buffer.fill (bytes.take buffer.availableForWrite) (List.length_take_le _ _)
  | .consume count =>
    (buffer.advanceRead (min count buffer.pending.length) (min_le_available buffer count)).compact
  | .append text => buffer.append text
  | .clear => buffer.clear

/-- An operation on the queue, for counts and bytes as they are. -/
def ByteQueue.apply (queue : ByteQueue) : BufferOp → ByteQueue
  | .grow => queue
  | .compact => queue
  | .read bytes => { queue with appended := queue.appended ++ bytes }
  | .consume count => { queue with consumed := queue.consumed + count }
  | .append text => { queue with appended := queue.appended ++ (text ++ [newline]) }
  | .clear => .empty

/-- The operation with its count, or its bytes, cut to what the buffer offers. -/
def BufferOp.cut (buffer : IOBuffer) : BufferOp → BufferOp
  | .read bytes => .read (bytes.take buffer.availableForWrite)
  | .consume count => .consume (min count buffer.pending.length)
  | op => op

/-- **Step.** On a buffer that keeps its invariant no operation faults: it keeps the invariant, and
the buffer goes on agreeing with the queue. -/
theorem bufferStep_raw {buffer : IOBuffer} {queue : ByteQueue} (agrees : Agrees buffer queue)
    (op : BufferOp) :
    bufferStep (buffer.raw, queue) op
        = .ok ((buffer.apply op).raw, queue.apply (op.cut buffer)) ∧
      Agrees (buffer.apply op) (queue.apply (op.cut buffer)) := by
  cases op with
  | grow =>
    refine ⟨?_, ?_, agrees.within⟩
    · rw [bufferStep, IOBuffer.grow_raw]
      rfl
    · rw [IOBuffer.apply, IOBuffer.pending_grown, agrees.unread]
      rfl
  | compact =>
    refine ⟨?_, ?_, agrees.within⟩
    · rw [bufferStep, IOBuffer.compact_raw]
      rfl
    · rw [IOBuffer.apply, IOBuffer.pending_compact, agrees.unread]
      rfl
  | read bytes =>
    have fits : (bytes.take buffer.availableForWrite).length ≤ buffer.availableForWrite :=
      List.length_take_le _ _
    refine ⟨?_, agrees.append (IOBuffer.pending_fill buffer fits)⟩
    rw [bufferStep, IOBuffer.availableForWrite_raw]
    dsimp only
    rw [buffer.receive_raw fits]
    rfl
  | consume count =>
    have enough := min_le_available buffer count
    refine ⟨?_, agrees.consume enough⟩
    have moved : (buffer.raw.advanceRead (min count buffer.pending.length)).compact
        = .ok (buffer.advanceRead _ enough).compact.raw :=
      (buffer.advanceRead _ enough).compact_raw
    rw [bufferStep, IOBuffer.getReadView_raw]
    show (do
      let moved ← (buffer.raw.advanceRead (min count buffer.pending.length)).compact
      pure (moved, _)) = _
    rw [moved]
    rfl
  | append text =>
    refine ⟨?_, agrees.append (buffer.pending_append text)⟩
    rw [bufferStep, IOBuffer.append_raw]
    rfl
  | clear => exact ⟨rfl, IOBuffer.pending_clear buffer, Nat.le_refl 0⟩

/-! ### Every sequence of operations -/

/-- A sequence of operations goes through with every access inside `data`, leaves the positions in
order, and the view is what was appended since the last `clear` without what was consumed. -/
def RefinesQueue (initialSize : Nat) (ops : List BufferOp) : Prop :=
  ∃ buffer queue, operate initialSize ops = .ok (buffer, queue) ∧
    buffer.readPos ≤ buffer.writePos ∧ buffer.writePos ≤ buffer.data.length ∧
    buffer.getReadView = .ok (queue.appended.drop queue.consumed) ∧
    queue.consumed ≤ queue.appended.length

/-- **Run.** -/
theorem steps_of_agrees (ops : List BufferOp) {buffer : IOBuffer} {queue : ByteQueue}
    (agrees : Agrees buffer queue) : ∃ next, ops.foldlM bufferStep (buffer.raw, queue)
      = .ok ((ops.foldl IOBuffer.apply buffer).raw, next) ∧
        Agrees (ops.foldl IOBuffer.apply buffer) next := by
  induction ops generalizing buffer queue with
  | nil => exact ⟨queue, rfl, agrees⟩
  | cons op ops ih =>
    obtain ⟨stepped, kept⟩ := bufferStep_raw agrees op
    obtain ⟨next, ran, ends⟩ := ih kept
    refine ⟨next, ?_, ends⟩
    rw [List.foldlM_cons, stepped]
    exact ran

theorem refinesQueue_of_steps (initialSize : Nat) (ops : List BufferOp) :
    RefinesQueue initialSize ops := by
  let fresh : IOBuffer := ⟨List.replicate initialSize 0, 0, 0, Nat.le_refl _, Nat.zero_le _⟩
  have agrees : Agrees fresh .empty := ⟨rfl, Nat.le_refl _⟩
  obtain ⟨next, ran, ends⟩ := steps_of_agrees ops agrees
  set after := ops.foldl IOBuffer.apply fresh
  refine ⟨after.raw, next, ran, after.ordered, after.inside, ?_, ends.within⟩
  rw [IOBuffer.getReadView_raw, ends.unread]
  rfl

end DemoDaemon.Ipc
