/-
**Byte strings.**

`std::string` and `std::string_view` carry bytes, not characters, so a text is a `List UInt8`
throughout. `ascii` gives the bytes of a literal, `validUtf8` is the well-formedness test a JSON
writer applies to every string, and the `find…Not` / `substr` family is what a trimming loop of
C++ is written with.

`validUtf8` runs one state over the text: how many continuation bytes are owed, and the range of
the next one. Being a left fold it composes with `++` (`validUtf8_append`).
-/

import Mathlib.Data.List.Basic
import Mathlib.Algebra.Order.Ring.Int

namespace Foundation

/-- A text: the bytes of a `std::string`. -/
abbrev Bytes := List UInt8

/-- The bytes of an ASCII literal. -/
def ascii (literal : String) : Bytes := literal.toList.map fun char => UInt8.ofNat char.toNat

/-- `'\n'`. -/
def newline : UInt8 := 10

/-! ### UTF-8 -/

/-- The state of the UTF-8 check between two bytes: `owed` continuation bytes are still to come,
and the next one lies between `low` and `high`. -/
structure Utf8State where
  owed : Nat
  low : UInt8
  high : UInt8
deriving DecidableEq

namespace Utf8State

/-- Between two characters. -/
def start : Utf8State := ⟨0, 0x80, 0xBF⟩

/-- The state after the first byte of a character. The tighter ranges after `E0`, `ED`, `F0` and
`F4` exclude overlong forms, surrogates and code points above `10FFFF`. -/
def lead (byte : UInt8) : Option Utf8State :=
  if byte < 0x80 then some start
  else if byte < 0xC2 then none
  else if byte < 0xE0 then some ⟨1, 0x80, 0xBF⟩
  else if byte = 0xE0 then some ⟨2, 0xA0, 0xBF⟩
  else if byte = 0xED then some ⟨2, 0x80, 0x9F⟩
  else if byte < 0xF0 then some ⟨2, 0x80, 0xBF⟩
  else if byte = 0xF0 then some ⟨3, 0x90, 0xBF⟩
  else if byte < 0xF4 then some ⟨3, 0x80, 0xBF⟩
  else if byte = 0xF4 then some ⟨3, 0x80, 0x8F⟩
  else none

/-- One byte. -/
def step (state : Utf8State) (byte : UInt8) : Option Utf8State :=
  if state.owed = 0 then lead byte
  else if state.low ≤ byte ∧ byte ≤ state.high then some ⟨state.owed - 1, 0x80, 0xBF⟩
  else none

end Utf8State

/-- The text is well-formed UTF-8. -/
def validUtf8 (text : Bytes) : Bool :=
  text.foldlM Utf8State.step Utf8State.start == some Utf8State.start

theorem validUtf8_iff (text : Bytes) :
    validUtf8 text = true ↔ text.foldlM Utf8State.step Utf8State.start = some Utf8State.start := by
  unfold validUtf8
  exact beq_iff_eq

/-- **A well-formed prefix does not affect the rest.** -/
theorem validUtf8_append {first : Bytes} (valid : validUtf8 first = true) (second : Bytes) :
    validUtf8 (first ++ second) = validUtf8 second := by
  rw [validUtf8_iff] at valid
  unfold validUtf8
  rw [List.foldlM_append, valid]
  rfl

/-- An ASCII text is well-formed. -/
theorem validUtf8_of_ascii {text : Bytes} (small : ∀ byte ∈ text, byte < 0x80) :
    validUtf8 text = true := by
  rw [validUtf8_iff]
  induction text with
  | nil => rfl
  | cons byte text ih =>
    have head : byte < 0x80 := small byte List.mem_cons_self
    have step : Utf8State.start.step byte = some Utf8State.start := by
      simp only [Utf8State.step, Utf8State.start, Utf8State.lead, if_true, if_pos head]
    rw [List.foldlM_cons, step]
    exact ih fun other member => small other (List.mem_cons_of_mem _ member)

/-! ### Searching and cutting -/

/-- `find_first_not_of`. -/
def findFirstNotOf (set : Bytes) (text : Bytes) : Option Nat :=
  text.findIdx? fun byte => byte ∉ set

/-- `find_last_not_of`. -/
def findLastNotOf (set : Bytes) (text : Bytes) : Option Nat :=
  (text.reverse.findIdx? fun byte => byte ∉ set).map fun fromEnd => text.length - 1 - fromEnd

/-- `substr(start, count)` for a `start` inside the text. -/
def substr (text : Bytes) (start count : Nat) : Bytes := (text.drop start).take count

/-- Behind a padding from the set, a text starts at its first byte outside the set. -/
theorem findFirstNotOf_padded {set padding text : Bytes} {byte : UInt8}
    (padded : ∀ other ∈ padding, other ∈ set) (first : text.head? = some byte)
    (outside : byte ∉ set) : findFirstNotOf set (padding ++ text) = some padding.length := by
  cases text with
  | nil => cases first
  | cons head rest =>
    cases first
    have none : padding.findIdx? (fun byte => byte ∉ set) = none := by
      rw [List.findIdx?_eq_none_iff]
      intro other listed
      simp [padded other listed]
    have here : (byte :: rest).findIdx? (fun byte => byte ∉ set) = some 0 := by
      simp [List.findIdx?_cons, outside]
    rw [findFirstNotOf, List.findIdx?_append, none, here]
    exact congrArg some (Nat.zero_add _)

/-- A text whose last byte is outside the set ends there. -/
theorem findLastNotOf_last {set text : Bytes} {byte : UInt8} (last : text.getLast? = some byte)
    (outside : byte ∉ set) : findLastNotOf set text = some (text.length - 1) := by
  have head : text.reverse.head? = some byte := by rw [List.head?_reverse, last]
  have found : text.reverse.findIdx? (fun byte => byte ∉ set) = some 0 :=
    findFirstNotOf_padded (List.forall_mem_nil _) head outside
  rw [findLastNotOf, found]
  rfl

/-- A text with a byte outside the set has a last one, not in front of the first. -/
theorem findLastNotOf_of_first {set text : Bytes} {start : Nat}
    (first : findFirstNotOf set text = some start) :
    ∃ last, findLastNotOf set text = some last ∧ start ≤ last ∧ last < text.length := by
  obtain ⟨inside, outside, earlier⟩ := List.findIdx?_eq_some_iff_getElem.mp first
  have listed : text[start] ∈ text.reverse := List.mem_reverse.mpr (List.getElem_mem inside)
  cases found : text.reverse.findIdx? fun byte => byte ∉ set with
  | none =>
    have none := List.findIdx?_eq_none_iff.mp found _ listed
    rw [outside] at none
    cases none
  | some fromEnd =>
    obtain ⟨within, here, -⟩ := List.findIdx?_eq_some_iff_getElem.mp found
    rw [List.length_reverse] at within
    rw [List.getElem_reverse] at here
    refine ⟨text.length - 1 - fromEnd, by rw [findLastNotOf, found]; rfl, ?_, by omega⟩
    by_contra before
    exact earlier _ (by omega) here

/-- What stands behind a padding, cut from its first to its last byte. -/
theorem substr_padded (padding : Bytes) {text : Bytes} (nonempty : text ≠ []) :
    substr (padding ++ text) padding.length
      ((padding ++ text).length - 1 - padding.length + 1) = text := by
  have positive : 0 < text.length := List.length_pos_of_ne_nil nonempty
  have count : (padding ++ text).length - 1 - padding.length + 1 = text.length := by
    rw [List.length_append]
    omega
  rw [substr, count, List.drop_left, List.take_length]

end Foundation
