/-
**The session buffers** (`IOBuffer`).

A vector with a read and a write position; the bytes between them are pending. The invariant of
the type (`read_pos ≤ write_pos ≤ data.size()`) is a field, so every operation states what it may
be called with.

What the sessions rely on is the refinement to a queue: `pending` of each operation (`compact`
moves nothing, `advanceRead` drops from the front, `fill` adds at the back, `clear` empties), and
how `capacity` and `readPos` change. Later proofs use only these lemmas.
-/

import DemoDaemon.Foundation.Bytes

namespace DemoDaemon.Ipc

open Foundation

/-- `vector::resize(size)`: cut, or extended with zero bytes. -/
def resized (data : Bytes) (size : Nat) : Bytes :=
  data.take size ++ List.replicate (size - data.length) 0

/-- `memcpy` / `memmove` of the bytes to a position. -/
def overwritten (data : Bytes) (position : Nat) (bytes : Bytes) : Bytes :=
  data.take position ++ bytes ++ data.drop (position + bytes.length)

theorem length_resized (data : Bytes) (size : Nat) : (resized data size).length = size := by
  rw [resized, List.length_append, List.length_take, List.length_replicate]
  omega

theorem length_overwritten {data bytes : Bytes} {position : Nat}
    (fits : position + bytes.length ≤ data.length) :
    (overwritten data position bytes).length = data.length := by
  rw [overwritten, List.length_append, List.length_append, List.length_take, List.length_drop]
  omega

/-- Nothing in front of the position changes. -/
theorem take_resized {data : Bytes} {count size : Nat} (inside : count ≤ data.length)
    (within : count ≤ size) : (resized data size).take count = data.take count := by
  rw [resized, List.take_append_of_le_length (by rw [List.length_take]; omega), List.take_take,
    Nat.min_eq_left within]

theorem take_overwritten {data bytes : Bytes} {position : Nat}
    (fits : position + bytes.length ≤ data.length) :
    (overwritten data position bytes).take (position + bytes.length)
      = data.take position ++ bytes := by
  have length : (data.take position ++ bytes).length = position + bytes.length := by
    rw [List.length_append, List.length_take]
    omega
  rw [overwritten, ← length, List.take_left]

structure IOBuffer where
  data : Bytes
  readPos : Nat
  writePos : Nat
  ordered : readPos ≤ writePos
  inside : writePos ≤ data.length

namespace IOBuffer

/-- `IOBuffer()`. -/
def empty : IOBuffer := ⟨List.replicate 4096 0, 0, 0, Nat.le_refl _, Nat.zero_le _⟩

def availableForRead (buffer : IOBuffer) : Nat := buffer.writePos - buffer.readPos

def availableForWrite (buffer : IOBuffer) : Nat := buffer.data.length - buffer.writePos

/-- `data.size()`. -/
def capacity (buffer : IOBuffer) : Nat := buffer.data.length

/-- `get_read_view()`: the bytes written and not yet read. -/
def pending (buffer : IOBuffer) : Bytes := (buffer.data.take buffer.writePos).drop buffer.readPos

theorem length_pending (buffer : IOBuffer) : buffer.pending.length = buffer.availableForRead := by
  have inside := buffer.inside
  rw [pending, List.length_drop, List.length_take, Nat.min_eq_left inside]
  rfl

def compact (buffer : IOBuffer) : IOBuffer :=
  if 0 < buffer.readPos then
    { data := overwritten buffer.data 0 buffer.pending
      readPos := 0
      writePos := buffer.writePos - buffer.readPos
      ordered := Nat.zero_le _
      inside := by
        have inside := buffer.inside
        have length := buffer.length_pending
        rw [availableForRead] at length
        rw [length_overwritten (by omega)]
        omega }
  else buffer

def clear (buffer : IOBuffer) : IOBuffer := ⟨buffer.data, 0, 0, Nat.le_refl _, Nat.zero_le _⟩

def advanceRead (buffer : IOBuffer) (bytes : Nat) (enough : bytes ≤ buffer.availableForRead) :
    IOBuffer :=
  { buffer with
    readPos := buffer.readPos + bytes
    ordered := by
      have ordered := buffer.ordered
      rw [availableForRead] at enough
      omega }

/-- `data.resize(size)`, for a size not below the write position. -/
def resize (buffer : IOBuffer) (size : Nat) (covers : buffer.writePos ≤ size) : IOBuffer :=
  { buffer with
    data := resized buffer.data size
    inside := by
      rw [length_resized]
      exact covers }

/-- Copy the bytes to `get_write_ptr()` and `advance_write` by their number. -/
def fill (buffer : IOBuffer) (bytes : Bytes) (fits : bytes.length ≤ buffer.availableForWrite) :
    IOBuffer :=
  { data := overwritten buffer.data buffer.writePos bytes
    readPos := buffer.readPos
    writePos := buffer.writePos + bytes.length
    ordered := Nat.le_trans buffer.ordered (Nat.le_add_right _ _)
    inside := by
      have inside := buffer.inside
      rw [availableForWrite] at fits
      rw [length_overwritten (by omega)]
      omega }

/-! ### The queue -/

variable (buffer : IOBuffer)

@[simp]
theorem pending_empty : empty.pending = [] := rfl

@[simp]
theorem pending_clear : buffer.clear.pending = [] := by
  rw [pending, clear, List.take_zero]
  rfl

/-- Moving the pending bytes to the front leaves them as they are. -/
@[simp]
theorem pending_compact : buffer.compact.pending = buffer.pending := by
  unfold compact
  split_ifs with moved
  · have inside := buffer.inside
    have length := buffer.length_pending
    rw [availableForRead] at length
    have taken : (overwritten buffer.data 0 buffer.pending).take (0 + buffer.pending.length)
        = buffer.data.take 0 ++ buffer.pending := take_overwritten (by omega)
    rw [Nat.zero_add, length] at taken
    show ((overwritten buffer.data 0 buffer.pending).take (buffer.writePos - buffer.readPos)).drop 0
      = buffer.pending
    rw [taken]
    rfl
  · rfl

@[simp]
theorem pending_advanceRead {bytes : Nat} (enough : bytes ≤ buffer.availableForRead) :
    (buffer.advanceRead bytes enough).pending = buffer.pending.drop bytes := by
  rw [pending, pending, List.drop_drop]
  rfl

@[simp]
theorem pending_resize {size : Nat} (covers : buffer.writePos ≤ size) :
    (buffer.resize size covers).pending = buffer.pending := by
  show ((resized buffer.data size).take buffer.writePos).drop buffer.readPos = buffer.pending
  rw [take_resized buffer.inside covers]
  rfl

@[simp]
theorem pending_fill {bytes : Bytes} (fits : bytes.length ≤ buffer.availableForWrite) :
    (buffer.fill bytes fits).pending = buffer.pending ++ bytes := by
  have inside := buffer.inside
  have ordered := buffer.ordered
  rw [availableForWrite] at fits
  show ((overwritten buffer.data buffer.writePos bytes).take
    (buffer.writePos + bytes.length)).drop buffer.readPos = buffer.pending ++ bytes
  rw [take_overwritten (by omega), List.drop_append_of_le_length (by rw [List.length_take]; omega)]
  rfl

/-! ### Positions and capacity -/

@[simp]
theorem readPos_compact : buffer.compact.readPos = 0 := by
  unfold compact
  split_ifs with moved
  · rfl
  · exact Nat.eq_zero_of_not_pos moved

@[simp]
theorem capacity_compact : buffer.compact.capacity = buffer.capacity := by
  unfold compact
  split_ifs with moved
  · have inside := buffer.inside
    have length := buffer.length_pending
    rw [availableForRead] at length
    exact length_overwritten (by omega)
  · rfl

@[simp]
theorem capacity_fill {bytes : Bytes} (fits : bytes.length ≤ buffer.availableForWrite) :
    (buffer.fill bytes fits).capacity = buffer.capacity := by
  have inside := buffer.inside
  rw [availableForWrite] at fits
  exact length_overwritten (by omega)

@[simp]
theorem capacity_resize {size : Nat} (covers : buffer.writePos ≤ size) :
    (buffer.resize size covers).capacity = size :=
  length_resized buffer.data size

/-- With nothing read, the free space is what the pending bytes leave. -/
theorem availableForWrite_of_readPos {buffer : IOBuffer} (start : buffer.readPos = 0) :
    buffer.availableForWrite = buffer.capacity - buffer.pending.length := by
  rw [length_pending, availableForRead, start]
  rfl

end IOBuffer

end DemoDaemon.Ipc
