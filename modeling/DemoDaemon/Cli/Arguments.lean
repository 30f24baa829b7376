/-
**The arguments of the command line** (`main.cpp` of the client): `std::stoi` and `parseTaskArgs`.

`main` has no handler around the conversions, so what they throw ends the program (`Abort`), and so
does, in the model, a read behind the last argument.

* `stoi`: white space, a sign, and as many digits as there are.
* `assign`: the `KEY=VALUE` branch; `parseTaskArgs`: the loop over the arguments.
* **`parseTaskArgs_single`**: one argument alone.
-/

import DemoDaemon.Foundation.Decimal
import DemoDaemon.Json.Value

namespace DemoDaemon.Cli

open Foundation

/-! ### Numbers -/

/-- `std::isspace` of the classic locale. -/
def isSpace (byte : UInt8) : Bool := byte == 32 || (decide (9 ≤ byte) && decide (byte ≤ 13))

/-- The sign in front of the digits, and the text behind it. -/
def readSign : Bytes → Int × Bytes
  | [] => (1, [])
  | byte :: rest => if byte = 45 then (-1, rest) else if byte = 43 then (1, rest)
    else (1, byte :: rest)

/-- `std::stoi`: `std::invalid_argument` without a digit, `std::out_of_range` for a number that is
no `int`; both say `stoi`. What follows the digits is ignored. -/
def stoi (text : Bytes) : Except Exn Int32 :=
  let signed := readSign (text.dropWhile isSpace)
  if signed.2.takeWhile isDigit = [] then .error ⟨ascii "stoi"⟩
  else
    let value := signed.1 * (readDigits signed.2 0).1
    if -2 ^ 31 ≤ value ∧ value < 2 ^ 31 then .ok (Int32.ofInt value) else .error ⟨ascii "stoi"⟩

/-- A text that starts with neither white space, nor a sign, nor a digit is no number. -/
theorem stoi_error {first : UInt8} {rest : Bytes} (notSpace : isSpace first = false)
    (notSign : first ≠ 45 ∧ first ≠ 43) (notDigit : isDigit first = false) :
    stoi (first :: rest) = .error ⟨ascii "stoi"⟩ := by
  have kept : (first :: rest).dropWhile isSpace = first :: rest := by
    rw [List.dropWhile_cons_of_neg (by rw [notSpace]; decide)]
  have unsigned : readSign (first :: rest) = (1, first :: rest) := by
    rw [readSign, if_neg notSign.1, if_neg notSign.2]
  have none : (first :: rest).takeWhile isDigit = [] := by
    rw [List.takeWhile_cons_of_neg (by rw [notDigit]; decide)]
  simp only [stoi, kept, unsigned, none, if_true]

/-! ### Task arguments -/

/-- How the client ends without a response: an exception that nothing catches, or a read of a
vector behind its end. -/
inductive Abort where
  | uncaught (error : Exn)
  | outOfBounds

/-- A conversion that nothing guards. -/
def unguarded {α : Type} : Except Exn α → Except Abort α
  | .error error => .error (.uncaught error)
  | .ok value => .ok value

/-- `'='`. -/
def equals : UInt8 := 61

/-- The branch of an argument with an `=`: the value is a number if `stoi` takes it. Any other
argument is passed over. -/
def assign (arg : Bytes) (params : Json) : Json :=
  if equals ∈ arg then
    let key := arg.takeWhile (· ≠ equals)
    let value := arg.drop (key.length + 1)
    match stoi value with
    | .ok number => params.set key (Json.ofInt32 number)
    | .error _ => params.set key (Json.ofString value)
  else params

/-- The loop of `parseTaskArgs`. Only `--interval` and `--duration` test that an argument follows. -/
def parseTaskArgsFrom : List Bytes → Json → Except Abort Json
  | [], params => .ok params
  | [arg], params =>
    if arg = ascii "--type" then .error .outOfBounds
    else .ok (assign arg params)
  | arg :: value :: rest, params =>
    if arg = ascii "--interval" then do
      let number ← unguarded (stoi value)
      parseTaskArgsFrom rest (params.set (ascii "interval") (Json.ofInt32 number))
    else if arg = ascii "--duration" then do
      let number ← unguarded (stoi value)
      parseTaskArgsFrom rest (params.set (ascii "duration") (Json.ofInt32 number))
    else if arg = ascii "--type" then
      parseTaskArgsFrom rest (params.set (ascii "type") (Json.ofString value))
    else parseTaskArgsFrom (value :: rest) (assign arg params)

/-- `parseTaskArgs(args)`. -/
def parseTaskArgs (args : List Bytes) : Except Abort Json := parseTaskArgsFrom args Json.emptyObject

/-- **One argument alone.** -/
theorem parseTaskArgs_single {arg : Bytes} (notType : arg ≠ ascii "--type") :
    parseTaskArgs [arg] = .ok (assign arg Json.emptyObject) := by
  rw [parseTaskArgs, parseTaskArgsFrom, if_neg notType]

/-- An argument assigns a key when it starts with the key and an `=`. -/
def Assigns (arg key : Bytes) : Prop := key ++ [equals] <+: arg

theorem assigns_iff {arg key : Bytes} (plain : equals ∉ key) :
    Assigns arg key ↔ equals ∈ arg ∧ arg.takeWhile (· ≠ equals) = key := by
  constructor
  · rintro ⟨rest, rfl⟩
    refine ⟨by simp, ?_⟩
    rw [List.append_assoc, List.takeWhile_append_of_pos]
    · simp
    · intro byte member
      simp only [ne_eq, decide_eq_true_eq]
      rintro rfl
      exact plain member
  · rintro ⟨member, rfl⟩
    obtain ⟨before, rest, rfl, absent⟩ := List.eq_append_cons_of_mem member
    have found : (before ++ equals :: rest).takeWhile (· ≠ equals) = before := by
      rw [List.takeWhile_append_of_pos]
      · simp
      · intro byte inside
        simp only [ne_eq, decide_eq_true_eq]
        rintro rfl
        exact absent inside
    rw [found]
    exact ⟨rest, by simp⟩

end DemoDaemon.Cli
