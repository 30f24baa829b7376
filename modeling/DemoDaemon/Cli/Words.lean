/-
**What `parseTaskArgs` makes of its arguments**, over every vector of arguments.

* `readWords`: the rounds of the loop, each with the arguments it reads. **`parseTaskArgs_eq`**: the
  loop applies them one after the other.
* `ReadsAs`: a text as white space, a sign, digits and a rest. **`ReadsAs.unique`**: in one way at
  most. **`stoi_ok_iff`**: `stoi` takes the texts that can be read so, whatever the rest is.
* **`assignment_kept_iff`**: `KEY=VALUE` keeps its value exactly when no blank and no other text
  stands around a number.
* **`parseTaskArgs_safe_iff`**: the loop is safe exactly when every option has the word it needs.
-/

import DemoDaemon.Cli.Arguments

namespace DemoDaemon.Cli

open Foundation

/-! ### Numbers in a text -/

/-- A text as `stoi` reads it. -/
structure ReadsAs (text spaces sign digits rest : Bytes) : Prop where
  split : text = spaces ++ (sign ++ (digits ++ rest))
  spaces : ∀ byte ∈ spaces, isSpace byte = true
  sign : sign = [] ∨ sign = [45] ∨ sign = [43]
  some : digits ≠ []
  digits : ∀ byte ∈ digits, isDigit byte = true
  rest : ∀ byte ∈ rest.head?, isDigit byte = false

/-- The number of a sign and digits. -/
def signedNumber (sign digits : Bytes) : Int :=
  (if sign = [45] then -1 else 1) * (readDigits digits 0).1

/-- A number that is an `int`. -/
def FitsInt (number : Int) : Prop := -2 ^ 31 ≤ number ∧ number < 2 ^ 31

instance : DecidablePred FitsInt := fun number =>
  inferInstanceAs (Decidable (-2 ^ 31 ≤ number ∧ number < 2 ^ 31))

theorem isDigit_other {byte : UInt8} (digit : isDigit byte = true) :
    isSpace byte = false ∧ byte ≠ 45 ∧ byte ≠ 43 := by
  refine ⟨?_, ?_, ?_⟩
  · rw [isDigit, Bool.and_eq_true, decide_eq_true_eq, decide_eq_true_eq, UInt8.le_iff_toNat_le,
      UInt8.le_iff_toNat_le] at digit
    by_contra space
    rw [Bool.not_eq_false, isSpace, Bool.or_eq_true, beq_iff_eq, Bool.and_eq_true,
      decide_eq_true_eq, decide_eq_true_eq, UInt8.le_iff_toNat_le, UInt8.le_iff_toNat_le] at space
    rcases space with rfl | ⟨-, small⟩
    · exact absurd digit.1 (by decide)
    · exact absurd (digit.1.trans small) (by decide)
  · rintro rfl
    exact absurd digit (by decide)
  · rintro rfl
    exact absurd digit (by decide)

theorem readDigits_digits {digits rest : Bytes} (all : ∀ byte ∈ digits, isDigit byte = true)
    (ends : ∀ byte ∈ rest.head?, isDigit byte = false) (number : Nat) :
    readDigits (digits ++ rest) number = ((readDigits digits number).1, rest) := by
  induction digits generalizing number with
  | nil =>
    cases rest with
    | nil => rfl
    | cons byte rest =>
      have other := ends byte rfl
      simp [readDigits, other]
  | cons byte digits ih =>
    have digit := all byte (by simp)
    rw [List.cons_append, readDigits, readDigits, if_pos digit, if_pos digit]
    exact ih (fun other member => all other (by simp [member])) _

section Reading

variable {text spaces sign digits rest : Bytes}

/-- The digits behind the sign. -/
theorem ReadsAs.takeWhile_digits (reads : ReadsAs text spaces sign digits rest) :
    (digits ++ rest).takeWhile isDigit = digits := by
  rw [List.takeWhile_append_of_pos reads.digits]
  cases rest with
  | nil => simp
  | cons byte rest =>
    have other := reads.rest byte rfl
    simp [other]

/-- The sign, whatever it is. -/
theorem ReadsAs.readSign_eq (reads : ReadsAs text spaces sign digits rest) :
    readSign (sign ++ (digits ++ rest)) = (if sign = [45] then -1 else 1, digits ++ rest) := by
  rcases reads.sign with rfl | rfl | rfl
  · obtain ⟨first, others, rfl⟩ := List.exists_cons_of_ne_nil reads.some
    obtain ⟨-, notMinus, notPlus⟩ := isDigit_other (reads.digits first (by simp))
    simp [readSign, notMinus, notPlus]
  · rfl
  · rfl

/-- The white space in front. -/
theorem ReadsAs.dropWhile_spaces (reads : ReadsAs text spaces sign digits rest) :
    text.dropWhile isSpace = sign ++ (digits ++ rest) := by
  rw [reads.split, List.dropWhile_append_of_pos reads.spaces]
  obtain ⟨first, others, same⟩ := List.exists_cons_of_ne_nil reads.some
  have notSpace := (isDigit_other (reads.digits first (by simp [same]))).1
  rcases reads.sign with rfl | rfl | rfl
  · simp [same, notSpace]
  · rfl
  · rfl

/-- **A text reads in one way at most.** -/
theorem ReadsAs.unique {spaces' sign' digits' rest' : Bytes}
    (reads : ReadsAs text spaces sign digits rest)
    (other : ReadsAs text spaces' sign' digits' rest') :
    spaces = spaces' ∧ sign = sign' ∧ digits = digits' ∧ rest = rest' := by
  have behind : sign ++ (digits ++ rest) = sign' ++ (digits' ++ rest') := by
    rw [← reads.dropWhile_spaces, other.dropWhile_spaces]
  have front : spaces = spaces' := by
    have texts := reads.split.symm.trans other.split
    rw [behind] at texts
    exact List.append_cancel_right texts
  have signs := reads.readSign_eq
  rw [behind, other.readSign_eq] at signs
  have tails : digits ++ rest = digits' ++ rest' := (congrArg Prod.snd signs).symm
  have same : digits = digits' := by
    rw [← reads.takeWhile_digits, tails, other.takeWhile_digits]
  rw [tails] at behind
  refine ⟨front, List.append_cancel_right behind, same, ?_⟩
  rw [same] at tails
  exact List.append_cancel_left tails

/-- What `stoi` makes of a text it can read. -/
theorem ReadsAs.stoi_eq (reads : ReadsAs text spaces sign digits rest) :
    stoi text = if -2 ^ 31 ≤ signedNumber sign digits ∧ signedNumber sign digits < 2 ^ 31
      then .ok (Int32.ofInt (signedNumber sign digits)) else .error ⟨ascii "stoi"⟩ := by
  have number := readDigits_digits reads.digits reads.rest 0
  simp only [stoi, reads.dropWhile_spaces, reads.readSign_eq, reads.takeWhile_digits,
    if_neg reads.some, number]
  rfl

/-- The sign in front of a text. -/
theorem readSign_split (text : Bytes) :
    ∃ sign, text = sign ++ (readSign text).2 ∧ (sign = [] ∨ sign = [45] ∨ sign = [43]) := by
  cases text with
  | nil => exact ⟨[], rfl, Or.inl rfl⟩
  | cons byte rest =>
    rw [readSign]
    by_cases minus : byte = 45
    · rw [if_pos minus, minus]
      exact ⟨[45], rfl, Or.inr (Or.inl rfl)⟩
    · rw [if_neg minus]
      by_cases plus : byte = 43
      · rw [if_pos plus, plus]
        exact ⟨[43], rfl, Or.inr (Or.inr rfl)⟩
      · rw [if_neg plus]
        exact ⟨[], rfl, Or.inl rfl⟩

/-- A text that `stoi` takes can be read. -/
theorem readsAs_of_stoi {number : Int32} (taken : stoi text = .ok number) :
    ∃ spaces sign digits rest, ReadsAs text spaces sign digits rest := by
  obtain ⟨sign, split, signs⟩ := readSign_split (text.dropWhile isSpace)
  set tail := (readSign (text.dropWhile isSpace)).2 with isTail
  refine ⟨text.takeWhile isSpace, sign, tail.takeWhile isDigit, tail.dropWhile isDigit, ?_, ?_,
    signs, ?_, ?_, ?_⟩
  · rw [List.takeWhile_append_dropWhile, ← split, List.takeWhile_append_dropWhile]
  · exact List.all_eq_true.mp List.all_takeWhile
  · intro empty
    simp only [stoi, ← isTail, empty, if_true] at taken
    cases taken
  · exact List.all_eq_true.mp List.all_takeWhile
  · intro byte first
    have ends := List.head?_dropWhile_not isDigit tail
    rw [Option.mem_def.mp first] at ends
    simpa using ends

/-- **What `stoi` takes.** -/
theorem stoi_ok_iff {number : Int32} : stoi text = .ok number ↔
    ∃ spaces sign digits rest, ReadsAs text spaces sign digits rest ∧
      FitsInt (signedNumber sign digits) ∧ number = Int32.ofInt (signedNumber sign digits) := by
  constructor
  · intro taken
    obtain ⟨spaces, sign, digits, rest, reads⟩ := readsAs_of_stoi taken
    rw [reads.stoi_eq] at taken
    split at taken
    next fits => exact ⟨spaces, sign, digits, rest, reads, fits, (Except.ok.inj taken).symm⟩
    next => cases taken
  · rintro ⟨spaces, sign, digits, rest, reads, fits, rfl⟩
    rw [reads.stoi_eq]
    exact if_pos fits

end Reading

/-! ### The rounds of the loop -/

/-- One round of the loop, with the arguments it reads. -/
inductive Word where
  | interval (value : Bytes)
  | duration (value : Bytes)
  /-- `none` where no argument follows. -/
  | type (value : Option Bytes)
  | plain (arg : Bytes)

/-- The rounds of the loop of `parseTaskArgs`. -/
def readWords : List Bytes → List Word
  | [] => []
  | [arg] => if arg = ascii "--type" then [.type none] else [.plain arg]
  | arg :: value :: rest =>
    if arg = ascii "--interval" then .interval value :: readWords rest
    else if arg = ascii "--duration" then .duration value :: readWords rest
    else if arg = ascii "--type" then .type (some value) :: readWords rest
    else .plain arg :: readWords (value :: rest)

/-- What a round does to the parameters. -/
def Word.apply (params : Json) : Word → Except Abort Json
  | .interval value => do
    let number ← unguarded (stoi value)
    return params.set (ascii "interval") (Json.ofInt32 number)
  | .duration value => do
    let number ← unguarded (stoi value)
    return params.set (ascii "duration") (Json.ofInt32 number)
  | .type none => .error .outOfBounds
  | .type (some value) => .ok (params.set (ascii "type") (Json.ofString value))
  | .plain arg => .ok (assign arg params)

theorem parseTaskArgsFrom_eq (args : List Bytes) (params : Json) :
    parseTaskArgsFrom args params = (readWords args).foldlM Word.apply params := by
  fun_induction readWords args generalizing params with
  | case1 => rfl
  | case2 => rfl
  | case3 arg other => 
    rw [parseTaskArgsFrom, if_neg other]
    rfl
  | case4 value rest ih =>
    rw [parseTaskArgsFrom, if_pos rfl, List.foldlM_cons, Word.apply, bind_assoc]
    exact bind_congr fun number => ih _
  | case5 value rest other ih =>
    rw [parseTaskArgsFrom, if_neg other, if_pos rfl, List.foldlM_cons, Word.apply, bind_assoc]
    exact bind_congr fun number => ih _
  | case6 value rest first second ih =>
    rw [parseTaskArgsFrom, if_neg first, if_neg second, if_pos rfl, List.foldlM_cons]
    exact ih _
  | case7 arg value rest first second third ih =>
    rw [parseTaskArgsFrom, if_neg first, if_neg second, if_neg third, List.foldlM_cons]
    exact ih _

/-- **The loop applies its rounds**, one after the other. -/
theorem parseTaskArgs_eq (args : List Bytes) :
    parseTaskArgs args = (readWords args).foldlM Word.apply Json.emptyObject :=
  parseTaskArgsFrom_eq args Json.emptyObject

/-- A round that stores a converted number. -/
theorem unguarded_bind_eq_ok {value : Bytes} {store : Int32 → Json} {after : Json} :
    (do let number ← unguarded (stoi value); return store number : Except Abort Json) = .ok after ↔
      ∃ number, stoi value = .ok number ∧ store number = after := by
  cases stoi value with
  | ok number =>
    constructor
    · intro stored
      exact ⟨number, rfl, Except.ok.inj stored⟩
    · rintro ⟨other, same, rfl⟩
      cases same
      rfl
  | error error =>
    constructor
    · intro stored
      cases stored
    · rintro ⟨other, same, -⟩
      cases same

/-- The key that a round assigns. -/
def Word.key : Word → Option Bytes
  | .interval _ => some (ascii "interval")
  | .duration _ => some (ascii "duration")
  | .type _ => some (ascii "type")
  | .plain arg => if equals ∈ arg then some (arg.takeWhile (· ≠ equals)) else none

/-! ### The value of an assignment -/

/-- What `KEY=VALUE` stores. -/
def storedValue (value : Bytes) : Json :=
  match stoi value with
  | .ok number => Json.ofInt32 number
  | .error _ => Json.ofString value

theorem assign_eq {arg : Bytes} (member : equals ∈ arg) (params : Json) :
    assign arg params = params.set (arg.takeWhile (· ≠ equals))
      (storedValue (arg.drop ((arg.takeWhile (· ≠ equals)).length + 1))) := by
  simp only [assign, if_pos member, storedValue]
  cases stoi (arg.drop ((arg.takeWhile (· ≠ equals)).length + 1)) <;> rfl

/-- The round of `KEY=VALUE`. -/
theorem assign_keyValue {key : Bytes} (plain : equals ∉ key) (value : Bytes) (params : Json) :
    assign (key ++ [equals] ++ value) params = params.set key (storedValue value) := by
  obtain ⟨member, found⟩ := (assigns_iff plain).mp (List.prefix_append (key ++ [equals]) value)
  have rest : (key ++ [equals] ++ value).drop (key.length + 1) = value := by
    rw [List.append_assoc, List.drop_append]
    simp
  rw [assign_eq member, found, rest]

/-- **Frame.** A round leaves the other keys alone. -/
theorem Word.find_apply_other {word : Word} {key : Bytes} {params after : Json}
    (other : word.key ≠ some key) (applied : word.apply params = .ok after) :
    after.find key = params.find key := by
  have different : ∀ {assigned : Bytes}, some assigned ≠ some key → key ≠ assigned :=
    fun distinct same => distinct (congrArg some same.symm)
  cases word with
  | interval value =>
    obtain ⟨number, -, rfl⟩ := unguarded_bind_eq_ok.mp applied
    exact Json.find_set_other _ (different other) _
  | duration value =>
    obtain ⟨number, -, rfl⟩ := unguarded_bind_eq_ok.mp applied
    exact Json.find_set_other _ (different other) _
  | type value =>
    cases value with
    | none => cases applied
    | some value =>
      cases applied
      exact Json.find_set_other _ (different other) _
  | plain arg =>
    cases applied
    by_cases member : equals ∈ arg
    · rw [Word.key, if_pos member] at other
      rw [assign_eq member]
      exact Json.find_set_other _ (different other) _
    · rw [assign, if_neg member]

/-- **The last assignment decides.** -/
theorem find_foldlM_other {words : List Word} {key : Bytes} (others : ∀ word ∈ words,
    word.key ≠ some key) {params after : Json}
    (applied : words.foldlM Word.apply params = .ok after) : after.find key = params.find key := by
  induction words generalizing params with
  | nil =>
    cases applied
    rfl
  | cons word words ih =>
    rw [List.foldlM_cons] at applied
    cases first : word.apply params with
    | error error =>
      rw [first] at applied
      cases applied
    | ok between =>
      rw [first] at applied
      rw [ih (fun later member => others later (by simp [member])) applied]
      exact Word.find_apply_other (others word (by simp)) first

/-- The parameters at the key of the last `KEY=VALUE`. -/
theorem find_of_last_assignment {args : List Bytes} {params : Json} {key value : Bytes}
    {before after : List Word} (returned : parseTaskArgs args = .ok params)
    (split : readWords args = before ++ .plain (key ++ [equals] ++ value) :: after)
    (plain : equals ∉ key) (last : ∀ word ∈ after, word.key ≠ some key) :
    params.find key = some (storedValue value) := by
  rw [parseTaskArgs_eq, split, List.foldlM_append] at returned
  cases first : before.foldlM Word.apply Json.emptyObject with
  | error error =>
    rw [first] at returned
    cases returned
  | ok between =>
    rw [first] at returned
    have rest : after.foldlM Word.apply (assign (key ++ [equals] ++ value) between)
        = .ok params := returned
    rw [find_foldlM_other last rest, assign_keyValue plain, Json.find_set_same]

/-- A text that is exactly the decimal text of an `int`. -/
def IsDecimal (value : Bytes) (number : Int32) : Prop :=
  ∃ sign digits, ReadsAs value [] sign digits [] ∧ FitsInt (signedNumber sign digits) ∧
    number = Int32.ofInt (signedNumber sign digits)

/-- The parameter that a value should become: its number if it is one, else itself. -/
def Kept (value : Bytes) (json : Json) : Prop :=
  (∀ number, IsDecimal value number → json = Json.ofInt32 number) ∧
  ((∀ number, ¬ IsDecimal value number) → json = Json.ofString value)

/-- No white space stands before, and nothing behind, a number that is an `int`. -/
def Bare (value : Bytes) : Prop :=
  ∀ spaces sign digits rest, ReadsAs value spaces sign digits rest →
    FitsInt (signedNumber sign digits) → spaces = [] ∧ rest = []

theorem stoi_of_isDecimal {value : Bytes} {number : Int32} (decimal : IsDecimal value number) :
    stoi value = .ok number := by
  obtain ⟨sign, digits, reads, fits, same⟩ := decimal
  exact stoi_ok_iff.mpr ⟨[], sign, digits, [], reads, fits, same⟩

theorem ofInt32_ne_ofString (number : Int32) (text : Bytes) :
    Json.ofInt32 number ≠ Json.ofString text := by
  intro same
  have strings := congrArg Json.isString same
  rw [Json.isString_ofString] at strings
  cases strings

/-- **What is stored is what was given** unless it is more than a number. -/
theorem kept_storedValue_iff (value : Bytes) : Kept value (storedValue value) ↔ Bare value := by
  cases read : stoi value with
  | error error =>
    have notDecimal : ∀ number, ¬ IsDecimal value number := by
      intro number decimal
      rw [stoi_of_isDecimal decimal] at read
      cases read
    refine iff_of_true ⟨fun number decimal => absurd decimal (notDecimal number), fun _ => ?_⟩ ?_
    · rw [storedValue, read]
    · intro spaces sign digits rest reads fits
      rw [stoi_ok_iff.mpr ⟨spaces, sign, digits, rest, reads, fits, rfl⟩] at read
      cases read
  | ok number =>
    have stored : storedValue value = Json.ofInt32 number := by rw [storedValue, read]
    rw [stored]
    constructor
    · intro kept spaces sign digits rest reads fits
      by_contra more
      refine ofInt32_ne_ofString number value (kept.2 ?_)
      rintro other ⟨sign', digits', bare, -, -⟩
      obtain ⟨noSpace, -, -, noRest⟩ := reads.unique bare
      exact more ⟨noSpace, noRest⟩
    · intro bare
      obtain ⟨spaces, sign, digits, rest, reads, fits, same⟩ := stoi_ok_iff.mp read
      obtain ⟨rfl, rfl⟩ := bare spaces sign digits rest reads fits
      refine ⟨?_, fun none => absurd ⟨sign, digits, reads, fits, same⟩ (none number)⟩
      intro other decimal
      rw [stoi_of_isDecimal decimal] at read
      cases read
      rfl

/-- **`KEY=VALUE` keeps its value** exactly when the value is not a number with something around
it. -/
theorem assignment_kept_iff (args : List Bytes) (params : Json) (key value : Bytes)
    (before after : List Word) (returned : parseTaskArgs args = .ok params)
    (split : readWords args = before ++ .plain (key ++ [equals] ++ value) :: after)
    (plain : equals ∉ key) (last : ∀ word ∈ after, word.key ≠ some key) :
    (∃ json, params.find key = some json ∧ Kept value json) ↔ Bare value := by
  rw [find_of_last_assignment returned split plain last, ← kept_storedValue_iff]
  constructor
  · rintro ⟨json, same, kept⟩
    cases same
    exact kept
  · intro kept
    exact ⟨storedValue value, rfl, kept⟩

/-- The words of one `KEY=VALUE` argument. -/
theorem readWords_single {arg : Bytes} (notType : arg ≠ ascii "--type") :
    readWords [arg] = [.plain arg] := by
  rw [readWords, if_neg notType]

/-- Digits with nothing in front of them. -/
theorem readsAs_digits (digits rest : Bytes) (some : digits.isEmpty = false)
    (all : digits.all isDigit = true) (stops : rest.head?.all (fun byte => !isDigit byte) = true) :
    ReadsAs (digits ++ rest) [] [] digits rest where
  split := rfl
  spaces := List.forall_mem_nil _
  sign := Or.inl rfl
  some := List.isEmpty_eq_false_iff.mp some
  digits := List.all_eq_true.mp all
  rest := by
    intro byte isFirst
    rw [Option.mem_def.mp isFirst, Option.all_some, Bool.not_eq_true'] at stops
    exact stops

/-- `5s` becomes the number 5. -/
theorem assignment_not_kept :
    ¬ ∀ (args : List Bytes) (params : Json) (key value : Bytes) (before after : List Word),
      parseTaskArgs args = .ok params →
      readWords args = before ++ .plain (key ++ [equals] ++ value) :: after → equals ∉ key →
      (∀ word ∈ after, word.key ≠ some key) →
        ∃ json, params.find key = some json ∧ Kept value json := by
  intro always
  have arg : ascii "interval=5s" ≠ ascii "--type" := by decide
  have split : readWords [ascii "interval=5s"]
      = [] ++ .plain (ascii "interval" ++ [equals] ++ ascii "5s") :: [] := readWords_single arg
  have plain : equals ∉ ascii "interval" := by decide
  have reads : ReadsAs (ascii "5s") [] [] (ascii "5") (ascii "s") :=
    readsAs_digits (ascii "5") (ascii "s") (by decide) (by decide) (by decide)
  obtain ⟨json, found, kept⟩ :=
    always _ _ _ _ [] [] (parseTaskArgs_single arg) split plain (by simp)
  rw [find_of_last_assignment (parseTaskArgs_single arg) split plain (by simp)] at found
  cases found
  have bare := (kept_storedValue_iff _).mp kept [] [] _ _ reads (by decide)
  exact absurd bare.2 (by decide)

/-- `5` stays the number 5. -/
theorem assignment_kept_number :
    ∃ params json, parseTaskArgs [ascii "interval=5"] = .ok params ∧
      params.find (ascii "interval") = some json ∧ Kept (ascii "5") json := by
  have arg : ascii "interval=5" ≠ ascii "--type" := by decide
  have bare : Bare (ascii "5") := by
    intro spaces sign digits rest reads _
    have expected : ReadsAs (ascii "5") [] [] (ascii "5") [] :=
      readsAs_digits (ascii "5") [] (by decide) (by decide) (by decide)
    obtain ⟨noSpace, -, -, noRest⟩ := reads.unique expected
    exact ⟨noSpace, noRest⟩
  obtain ⟨json, found, kept⟩ := (assignment_kept_iff [ascii "interval=5"] _ (ascii "interval")
    (ascii "5") [] [] (parseTaskArgs_single arg) (readWords_single arg) (by decide)
    (by simp)).mpr bare
  exact ⟨_, json, parseTaskArgs_single arg, found, kept⟩

/-! ### Safety -/

/-- A text that `stoi` takes. -/
def Readable (value : Bytes) : Prop :=
  ∃ spaces sign digits rest, ReadsAs value spaces sign digits rest ∧
    FitsInt (signedNumber sign digits)

/-- An option has the word it needs. -/
def Word.Supplied : Word → Prop
  | .interval value | .duration value => Readable value
  | .type value => value ≠ none
  | .plain _ => True

theorem readable_iff {value : Bytes} : Readable value ↔ ∃ number, stoi value = .ok number := by
  constructor
  · rintro ⟨spaces, sign, digits, rest, reads, fits⟩
    exact ⟨_, stoi_ok_iff.mpr ⟨spaces, sign, digits, rest, reads, fits, rfl⟩⟩
  · rintro ⟨number, taken⟩
    obtain ⟨spaces, sign, digits, rest, reads, fits, -⟩ := stoi_ok_iff.mp taken
    exact ⟨spaces, sign, digits, rest, reads, fits⟩

/-- A round that converts a number goes through if the text can be read. -/
theorem unguarded_bind_ok_iff {value : Bytes} {store : Int32 → Json} :
    (∃ after, (do let number ← unguarded (stoi value); return store number : Except Abort Json)
      = .ok after) ↔ Readable value := by
  rw [readable_iff]
  constructor
  · rintro ⟨after, applied⟩
    obtain ⟨number, taken, -⟩ := unguarded_bind_eq_ok.mp applied
    exact ⟨number, taken⟩
  · rintro ⟨number, taken⟩
    exact ⟨_, unguarded_bind_eq_ok.mpr ⟨number, taken, rfl⟩⟩

/-- **Step.** A round goes through exactly when it is supplied. -/
theorem Word.apply_ok_iff (word : Word) (params : Json) :
    (∃ after, word.apply params = .ok after) ↔ word.Supplied := by
  cases word with
  | interval value | duration value => exact unguarded_bind_ok_iff
  | type value =>
    cases value with
    | none => exact iff_of_false (fun ⟨_, applied⟩ => by cases applied) (fun some => some rfl)
    | some value => exact iff_of_true ⟨_, rfl⟩ (Option.some_ne_none value)
  | plain arg => exact iff_of_true ⟨_, rfl⟩ trivial

/-- **Step.** An object stays one. -/
theorem Word.isObject_apply {word : Word} {params after : Json} (object : params.isObject = true)
    (applied : word.apply params = .ok after) : after.isObject = true := by
  cases word with
  | interval value | duration value =>
    obtain ⟨number, -, rfl⟩ := unguarded_bind_eq_ok.mp applied
    exact Json.isObject_set _ _ _
  | type value =>
    cases value with
    | none => cases applied
    | some value =>
      cases applied
      exact Json.isObject_set _ _ _
  | plain arg =>
    cases applied
    by_cases member : equals ∈ arg
    · rw [assign_eq member]
      exact Json.isObject_set _ _ _
    · rwa [assign, if_neg member]

/-- **Run.** -/
theorem foldlM_safe_iff (words : List Word) {params : Json} (object : params.isObject = true) :
    (∃ after, words.foldlM Word.apply params = .ok after ∧ after.isObject = true)
      ↔ ∀ word ∈ words, word.Supplied := by
  induction words generalizing params with
  | nil => exact iff_of_true ⟨params, rfl, object⟩ (by simp)
  | cons word words ih =>
    rw [List.forall_mem_cons, ← Word.apply_ok_iff word params, List.foldlM_cons]
    cases first : word.apply params with
    | error error =>
      refine iff_of_false ?_ ?_
      · rintro ⟨after, applied, -⟩
        cases applied
      · rintro ⟨⟨after, applied⟩, -⟩
        cases applied
    | ok between =>
      have rest := ih (Word.isObject_apply object first)
      constructor
      · intro safe
        exact ⟨⟨between, rfl⟩, rest.mp safe⟩
      · rintro ⟨-, supplied⟩
        exact rest.mpr supplied

/-- What is asked of `parseTaskArgs`: it returns an object, reads no argument behind the last and
throws nothing. -/
def SafeArgs (args : List Bytes) : Prop :=
  ∃ params, parseTaskArgs args = .ok params ∧ params.isObject = true

/-- **`parseTaskArgs` is safe** exactly when no `--type` comes last and every `--interval` and
`--duration` has a number behind it. -/
theorem parseTaskArgs_safe_iff (args : List Bytes) :
    SafeArgs args ↔ ∀ word ∈ readWords args, word.Supplied := by
  rw [SafeArgs, parseTaskArgs_eq]
  exact foldlM_safe_iff (readWords args) rfl

/-- A `--type` alone is read past, and `--interval` throws on what is no number. -/
theorem parseTaskArgs_unsafe :
    parseTaskArgs [ascii "--type"] = .error .outOfBounds ∧
    parseTaskArgs [ascii "--interval", ascii "abc"] = .error (.uncaught ⟨ascii "stoi"⟩) ∧
    ¬ ∀ args, SafeArgs args := by
  have unread : parseTaskArgs [ascii "--type"] = .error .outOfBounds := rfl
  refine ⟨unread, ?_, ?_⟩
  · have refused : stoi (ascii "abc") = .error ⟨ascii "stoi"⟩ :=
      @stoi_error 97 (ascii "bc") (by decide) (by decide) (by decide)
    rw [parseTaskArgs, parseTaskArgsFrom, if_pos rfl, refused]
    rfl
  · intro always
    obtain ⟨params, returned, -⟩ := always [ascii "--type"]
    rw [unread] at returned
    cases returned

end DemoDaemon.Cli
