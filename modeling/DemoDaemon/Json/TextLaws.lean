/-
**The compact library meets the documentation.**

* `readString_quoted`, `readNumber_integer`, `readNumber_double`: the tokens.
* **`readValue_print`**: every tree is read back from its text, whatever follows, by induction on
  the tree; the length of the text is fuel enough.
* `print_visible`: no byte of a text is a control character, so a text is one line.
* **`compact_documented`**: the printer and the reader are a `Documented` library.
-/

import DemoDaemon.Json.Text

namespace DemoDaemon

open Foundation

namespace RawJson

/-! ### Tokens -/

theorem skipSpace_solid {byte : UInt8} (solid : byte ∉ [32, 9, 10, 13]) (rest : Bytes) :
    skipSpace (byte :: rest) = byte :: rest := by
  rw [skipSpace, if_neg solid]

theorem hexValue_hexDigit {digit : Nat} (small : digit < 16) :
    hexValue (hexDigit digit) = some digit := by
  have every : ∀ digit < 16, hexValue (hexDigit digit) = some digit := by decide
  exact every digit small

/-- The three forms of an escaped byte. -/
inductive Escaped (byte : UInt8) : Bytes → Prop
  | short (code : UInt8) (named : unescape code = some [byte]) (visible : 32 ≤ code)
      (other : code ≠ 117) : Escaped byte [92, code]
  | control (small : byte.toNat < 32) :
      Escaped byte [92, 117, 48, 48, hexDigit (byte.toNat / 16), hexDigit (byte.toNat % 16)]
  | plain (visible : ¬ byte < 32) (quote : byte ≠ 34) (backslash : byte ≠ 92) :
      Escaped byte [byte]

theorem escaped_escape (byte : UInt8) : Escaped byte (escape byte) := by
  unfold escape
  by_cases backspace : byte = 8
  · rw [if_pos backspace, backspace]
    exact .short 98 rfl (by decide) (by decide)
  rw [if_neg backspace]
  by_cases tab : byte = 9
  · rw [if_pos tab, tab]
    exact .short 116 rfl (by decide) (by decide)
  rw [if_neg tab]
  by_cases newline : byte = 10
  · rw [if_pos newline, newline]
    exact .short 110 rfl (by decide) (by decide)
  rw [if_neg newline]
  by_cases formfeed : byte = 12
  · rw [if_pos formfeed, formfeed]
    exact .short 102 rfl (by decide) (by decide)
  rw [if_neg formfeed]
  by_cases carriage : byte = 13
  · rw [if_pos carriage, carriage]
    exact .short 114 rfl (by decide) (by decide)
  rw [if_neg carriage]
  by_cases quote : byte = 34
  · rw [if_pos quote, quote]
    exact .short 34 rfl (by decide) (by decide)
  rw [if_neg quote]
  by_cases backslash : byte = 92
  · rw [if_pos backslash, backslash]
    exact .short 92 rfl (by decide) (by decide)
  rw [if_neg backslash]
  by_cases control : byte < 32
  · rw [if_pos control]
    exact .control (by simpa using UInt8.lt_iff_toNat_lt.mp control)
  · rw [if_neg control]
    exact .plain control quote backslash

/-- **One escaped byte is read back.** -/
theorem readString_escape (byte : UInt8) (rest : Bytes) :
    readString .plain (escape byte ++ rest) = prepend (some [byte]) (readString .plain rest) := by
  have escaped := escaped_escape byte
  generalize escape byte = text at escaped ⊢
  cases escaped with
  | short code named visible other =>
    show readString .escaped (code :: rest) = _
    rw [readString, if_neg other, named]
  | control small =>
    have code : ((0 * 16 + 0) * 16 + byte.toNat / 16) * 16 + byte.toNat % 16 = byte.toNat := by
      omega
    have opened : readString .plain ([92, 117, 48, 48, hexDigit (byte.toNat / 16),
        hexDigit (byte.toNat % 16)] ++ rest)
        = readString (.unicode 1 (0 * 16 + 0)) (hexDigit (byte.toNat / 16) ::
          hexDigit (byte.toNat % 16) :: rest) := rfl
    rw [opened, readString, hexValue_hexDigit (by omega)]
    dsimp only
    rw [readString, hexValue_hexDigit (by omega)]
    dsimp only
    rw [code, encodeUtf8, if_pos (by omega), UInt8.ofNat_toNat]
  | plain visible quote backslash =>
    rw [List.singleton_append, readString, if_neg quote, if_neg backslash, if_neg visible]

theorem readString_quoted (text rest : Bytes) :
    readString .plain (text.flatMap escape ++ 34 :: rest) = some (text, rest) := by
  induction text with
  | nil => rfl
  | cons byte text ih =>
    rw [List.flatMap_cons, List.append_assoc, readString_escape, ih]
    rfl

theorem quoted_append (text rest : Bytes) :
    quoted text ++ rest = 34 :: (text.flatMap escape ++ 34 :: rest) := by
  rw [quoted, List.cons_append, List.append_assoc]
  rfl

theorem readKey_quoted (key rest : Bytes) :
    readKey (quoted key ++ 58 :: rest) = some (key, rest) := by
  unfold readKey
  rw [quoted_append, skipSpace_solid (by decide)]
  simp only [if_true, readString_quoted, skipSpace_solid (show (58 : UInt8) ∉ _ by decide)]

/-- What may follow a value: nothing, a comma or a closing bracket. -/
def Stops (rest : Bytes) : Prop := ∀ byte ∈ rest.head?, byte = 44 ∨ byte = 93 ∨ byte = 125

theorem readDigits_stops {rest : Bytes} (stops : Stops rest) (number : Nat) :
    readDigits rest number = (number, rest) := by
  cases rest with
  | nil => rfl
  | cons byte rest =>
    have outside : isDigit byte = false := by
      rcases stops byte rfl with rfl | rfl | rfl <;> decide
    rw [readDigits, if_neg (by rw [outside]; decide)]

theorem decimal_head (number : Nat) :
    ∃ digit rest, decimal number = digit :: rest ∧ isDigit digit = true := by
  obtain ⟨digit, rest, shape⟩ := List.exists_cons_of_ne_nil (decimal_ne_nil number)
  have member : digit ∈ decimal number := by
    rw [shape]
    exact List.mem_cons_self
  exact ⟨digit, rest, shape, isDigit_of_mem_decimal member⟩

theorem readNumber_digits (number : Nat) (rest : Bytes) :
    readNumber (decimal number ++ rest)
      = if (readDigits rest number).2.take 2 = [46, 48] then
          some (.float ⟨UInt64.ofNat (readDigits rest number).1⟩, (readDigits rest number).2.drop 2)
        else some (.integer (readDigits rest number).1, (readDigits rest number).2) := by
  obtain ⟨digit, others, shape, isDigit⟩ := decimal_head number
  have notMinus : digit ≠ 45 := by
    rintro rfl
    cases isDigit
  have read := readDigits_decimal number rest
  rw [shape, List.cons_append] at read ⊢
  rw [readNumber, if_neg notMinus, if_pos isDigit, read]

theorem readNumber_integer (value : Int) {rest : Bytes} (stops : Stops rest) :
    readNumber (printInteger value ++ rest) = some (.integer value, rest) := by
  unfold printInteger
  split_ifs with negative
  · obtain ⟨digit, others, shape, isDigit⟩ := decimal_head value.natAbs
    have read := readDigits_decimal value.natAbs rest
    rw [readDigits_stops stops] at read
    have value_eq : -(value.natAbs : Int) = value := by omega
    rw [List.cons_append, readNumber, if_pos rfl, if_pos, read]
    · show some (RawJson.integer (-(value.natAbs : Int)), rest) = _
      rw [value_eq]
    · rw [shape]
      exact isDigit
  · have noFraction : rest.take 2 ≠ [46, 48] := by
      cases rest with
      | nil => exact nofun
      | cons byte rest =>
        intro same
        rw [List.take_succ_cons] at same
        rcases stops byte rfl with rfl | rfl | rfl <;> cases same
    rw [readNumber_digits, readDigits_stops stops, if_neg noFraction]
    rw [Int.natAbs_of_nonneg (by omega)]

theorem readNumber_double (bits : UInt64) (rest : Bytes) :
    readNumber (decimal bits.toNat ++ [46, 48] ++ rest) = some (.float ⟨bits⟩, rest) := by
  rw [List.append_assoc, readNumber_digits]
  have read : readDigits ([46, 48] ++ rest) bits.toNat = (bits.toNat, [46, 48] ++ rest) := rfl
  rw [read, if_pos (by rfl), UInt64.ofNat_toNat]
  rfl

/-! ### Values -/

/-- The first byte of a token. -/
def Opens (byte : UInt8) : Prop := byte ∉ [32, 9, 10, 13] ∧ byte ≠ 93 ∧ byte ≠ 125

instance (byte : UInt8) : Decidable (Opens byte) := inferInstanceAs (Decidable (_ ∧ _))

theorem opens_digit {byte : UInt8} (digit : isDigit byte = true) : Opens byte := by
  unfold isDigit at digit
  rw [Bool.and_eq_true, decide_eq_true_eq, decide_eq_true_eq] at digit
  have lower := UInt8.le_iff_toNat_le.mp digit.1
  have upper := UInt8.le_iff_toNat_le.mp digit.2
  refine ⟨fun blank => ?_, ?_, ?_⟩
  · simp only [List.mem_cons, List.not_mem_nil, or_false] at blank
    rcases blank with rfl | rfl | rfl | rfl <;> exact absurd lower (by decide)
  · rintro rfl
    exact absurd upper (by decide)
  · rintro rfl
    exact absurd upper (by decide)

theorem printInteger_head (value : Int) :
    ∃ byte rest, printInteger value = byte :: rest ∧ Opens byte ∧
      (byte = 45 ∨ isDigit byte = true) := by
  unfold printInteger
  obtain ⟨digit, rest, shape, isDigit⟩ := decimal_head value.natAbs
  split_ifs
  · exact ⟨45, decimal value.natAbs, rfl, by decide, Or.inl rfl⟩
  · exact ⟨digit, rest, shape, opens_digit isDigit, Or.inr isDigit⟩

theorem print_head (raw : RawJson) : ∃ byte rest, print raw = byte :: rest ∧ Opens byte := by
  cases raw with
  | null => exact ⟨110, _, rfl, by decide⟩
  | boolean value =>
    cases value with
    | true => exact ⟨116, _, rfl, by decide⟩
    | false => exact ⟨102, _, rfl, by decide⟩
  | integer value =>
    obtain ⟨byte, rest, shape, opens, -⟩ := printInteger_head value
    exact ⟨byte, rest, shape, opens⟩
  | float value =>
    rw [print, printDouble]
    split_ifs
    · obtain ⟨digit, rest, shape, isDigit⟩ := decimal_head value.bits.toNat
      rw [shape]
      exact ⟨digit, _, rfl, opens_digit isDigit⟩
    · exact ⟨110, _, rfl, by decide⟩
  | string text => exact ⟨34, _, rfl, by decide⟩
  | array items =>
    cases items with
    | nil => exact ⟨91, _, rfl, by decide⟩
    | cons item items => exact ⟨91, _, rfl, by decide⟩
  | object fields =>
    cases fields with
    | nil => exact ⟨123, _, rfl, by decide⟩
    | cons field fields => exact ⟨123, _, rfl, by decide⟩

/-- A number is read as a number. -/
theorem readValue_number {byte : UInt8} (opens : Opens byte)
    (numeric : byte = 45 ∨ isDigit byte = true) (fuel : Nat) (rest : Bytes) :
    readValue (fuel + 1) (byte :: rest) = readNumber (byte :: rest) := by
  have other : ∀ literal : UInt8, literal ≠ 45 → isDigit literal = false → byte ≠ literal := by
    rintro literal minus digit rfl
    rcases numeric with rfl | holds
    · exact minus rfl
    · rw [digit] at holds
      cases holds
  rw [readValue, skipSpace_solid opens.1]
  show (if byte = 34 then _ else _) = _
  rw [if_neg (other 34 (by decide) (by decide)), if_neg (other 91 (by decide) (by decide)),
    if_neg (other 123 (by decide) (by decide)), if_neg (other 110 (by decide) (by decide)),
    if_neg (other 116 (by decide) (by decide)), if_neg (other 102 (by decide) (by decide))]

theorem insertField_last {key : Bytes} {fields : List (Bytes × RawJson)}
    (above : ∀ other ∈ fields.map Prod.fst, other < key) (value : RawJson) :
    insertField key value fields = fields ++ [(key, value)] := by
  induction fields with
  | nil => rfl
  | cons field fields ih =>
    have less : field.1 < key := above field.1 List.mem_cons_self
    have notLess : ¬ key < field.1 := fun more => List.lt_irrefl _ (List.lt_trans less more)
    have different : key ≠ field.1 := fun same => List.lt_irrefl _ (same ▸ less)
    rw [insertField, if_neg notLess, if_neg different,
      ih fun other member => above other (List.mem_cons_of_mem _ member)]
    rfl

/-- Fields in key order build the object with exactly these fields. -/
theorem ofFields_sorted {fields : List (Bytes × RawJson)}
    (sorted : (fields.map Prod.fst).Pairwise (· < ·)) : ofFields fields = .object fields := by
  have build : ∀ done rest : List (Bytes × RawJson),
      ((done ++ rest).map Prod.fst).Pairwise (· < ·) →
      rest.foldl (fun built field => insertField field.1 field.2 built) done = done ++ rest := by
    intro done rest
    induction rest generalizing done with
    | nil => exact fun _ => (List.append_nil done).symm
    | cons field rest ih =>
      intro sorted
      have above : ∀ other ∈ done.map Prod.fst, other < field.1 := by
        rw [List.map_append, List.pairwise_append] at sorted
        exact fun other member => sorted.2.2 other member field.1 List.mem_cons_self
      rw [List.foldl_cons, insertField_last above, ih (done ++ [field]) (by
        rw [List.append_assoc]
        exact sorted), List.append_assoc]
      rfl
  exact congrArg RawJson.object (build [] fields sorted)

theorem stops_cons {byte : UInt8} (stop : byte = 44 ∨ byte = 93 ∨ byte = 125) (rest : Bytes) :
    Stops (byte :: rest) := by
  rintro other found
  cases found
  exact stop

theorem stops_printItems (items : List RawJson) (rest : Bytes) :
    Stops (printItems items ++ rest) := by
  cases items with
  | nil => exact stops_cons (by decide) _
  | cons item items => exact stops_cons (by decide) _

theorem stops_printFields (fields : List (Bytes × RawJson)) (rest : Bytes) :
    Stops (printFields fields ++ rest) := by
  cases fields with
  | nil => exact stops_cons (by decide) _
  | cons field fields => exact stops_cons (by decide) _

/-- A nonempty array is read as items behind a comma. -/
theorem readValue_array {next : UInt8} (opens : Opens next) (fuel : Nat) (rest : Bytes) :
    readValue (fuel + 1) (91 :: next :: rest)
      = (readItems fuel (44 :: next :: rest)).map fun (items, rest) => (.array items, rest) := by
  rw [readValue, skipSpace_solid (by decide)]
  simp only [skipSpace_solid opens.1, if_neg opens.2.1]
  rfl

/-- A nonempty object is read as fields behind a comma. -/
theorem readValue_object {next : UInt8} (opens : Opens next) (fuel : Nat) (rest : Bytes) :
    readValue (fuel + 1) (123 :: next :: rest)
      = (readFields fuel (44 :: next :: rest)).map
        fun (fields, rest) => (ofFields fields, rest) := by
  rw [readValue, skipSpace_solid (by decide)]
  simp only [skipSpace_solid opens.1, if_neg opens.2.2]
  rfl

mutual

/-- **A tree is read back from its text, whatever follows.** -/
theorem readValue_print : ∀ raw : RawJson, raw.canonical = true → ∀ (fuel : Nat) (rest : Bytes),
    (print raw).length < fuel → Stops rest →
      readValue fuel (print raw ++ rest) = some (raw.nullify, rest)
  | .null, _, fuel + 1, rest, _, _ => rfl
  | .boolean true, _, fuel + 1, rest, _, _ => rfl
  | .boolean false, _, fuel + 1, rest, _, _ => rfl
  | .integer value, _, fuel + 1, rest, _, stops => by
      obtain ⟨byte, others, shape, opens, numeric⟩ := printInteger_head value
      have read := readNumber_integer value stops
      rw [print, nullify, ← read, shape]
      exact readValue_number opens numeric fuel _
  | .float value, _, fuel + 1, rest, _, _ => by
      rw [print, printDouble, nullify]
      split_ifs with finite
      · obtain ⟨digit, others, shape, isDigit⟩ := decimal_head value.bits.toNat
        have read := readNumber_double value.bits rest
        rw [← read, shape]
        exact readValue_number (opens_digit isDigit) (Or.inr isDigit) fuel _
      · rfl
  | .string text, _, fuel + 1, rest, _, _ => by
      rw [print, quoted_append]
      show (readString .plain _).map _ = _
      rw [readString_quoted]
      rfl
  | .array [], _, fuel + 1, rest, _, _ => rfl
  | .array (item :: items), canonical, fuel + 1, rest, enough, _ => by
      obtain ⟨next, others, shape, opens⟩ := print_head item
      have each : everywhereItems canonicalNode (item :: items) = true := by
        rw [RawJson.canonical, everywhere, Bool.and_eq_true] at canonical
        exact canonical.2
      have read := readItems_print (item :: items) each fuel rest (by
        simpa [print, printItems] using enough)
      rw [printItems, List.cons_append, List.append_assoc, shape] at read
      rw [print, List.cons_append, List.append_assoc, shape, List.cons_append,
        readValue_array opens]
      rw [List.cons_append] at read
      rw [read]
      rfl
  | .object [], _, fuel + 1, rest, _, _ => rfl
  | .object (field :: fields), canonical, fuel + 1, rest, enough, _ => by
      obtain ⟨sorted, each⟩ := everywhere_object.mp canonical
      have read := readFields_print (field :: fields) each fuel rest (by
        simpa [print, printFields] using enough)
      have sortedAfter : ((nullifyFields (field :: fields)).map Prod.fst).Pairwise (· < ·) := by
        rw [nullifyFields_keys]
        exact of_decide_eq_true sorted
      rw [printFields, List.cons_append, List.append_assoc, quoted_append] at read
      rw [print, List.cons_append, List.append_assoc, quoted_append,
        readValue_object (by decide), read]
      exact congrArg (fun raw => some (raw, rest)) (ofFields_sorted sortedAfter)

theorem readItems_print : ∀ items : List RawJson, everywhereItems canonicalNode items = true →
    ∀ (fuel : Nat) (rest : Bytes), (printItems items).length < fuel + 1 →
      readItems fuel (printItems items ++ rest) = some (nullifyItems items, rest)
  | [], _, fuel + 1, rest, _ => rfl
  | item :: items, canonical, fuel + 1, rest, enough => by
      rw [everywhereItems, Bool.and_eq_true] at canonical
      have closed : 0 < (printItems items).length := by cases items <;> exact Nat.succ_pos _
      simp only [printItems, List.length_cons, List.length_append] at enough
      have head := readValue_print item canonical.1 fuel (printItems items ++ rest) (by omega)
        (stops_printItems items rest)
      have tail := readItems_print items canonical.2 fuel rest (by omega)
      rw [printItems, List.cons_append, List.append_assoc, readItems, skipSpace_solid (by decide)]
      simp only [show (44 : UInt8) ≠ 93 by decide, if_false, if_true, head, tail]
      rfl

theorem readFields_print : ∀ fields : List (Bytes × RawJson),
    everywhereFields canonicalNode fields = true →
    ∀ (fuel : Nat) (rest : Bytes), (printFields fields).length < fuel + 1 →
      readFields fuel (printFields fields ++ rest) = some (nullifyFields fields, rest)
  | [], _, fuel + 1, rest, _ => rfl
  | field :: fields, canonical, fuel + 1, rest, enough => by
      rw [everywhereFields, Bool.and_eq_true] at canonical
      have closed : 0 < (printFields fields).length := by cases fields <;> exact Nat.succ_pos _
      simp only [printFields, List.length_cons, List.length_append] at enough
      have key := readKey_quoted field.1 (print field.2 ++ (printFields fields ++ rest))
      have head := readValue_print field.2 canonical.1 fuel (printFields fields ++ rest) (by omega)
        (stops_printFields fields rest)
      have tail := readFields_print fields canonical.2 fuel rest (by omega)
      rw [printFields, List.cons_append, List.append_assoc, List.cons_append, List.append_assoc,
        readFields, skipSpace_solid (by decide)]
      simp only [show (44 : UInt8) ≠ 125 by decide, if_false, if_true, key, head, tail]
      rfl

end

/-! ### One line between braces -/

/-- Not a control character. -/
def Visible (text : Bytes) : Prop := ∀ byte ∈ text, 32 ≤ byte

theorem visible_append {first second : Bytes} (firstVisible : Visible first)
    (secondVisible : Visible second) : Visible (first ++ second) := fun byte member =>
  (List.mem_append.mp member).elim (firstVisible byte) (secondVisible byte)

theorem visible_cons {byte : UInt8} {text : Bytes} (byteVisible : 32 ≤ byte)
    (textVisible : Visible text) : Visible (byte :: text) := fun other member =>
  (List.mem_cons.mp member).elim (fun same => same ▸ byteVisible) (textVisible other)

theorem visible_nil : Visible [] := nofun

/-- A closed text, by evaluation. -/
theorem visible_of_all {text : Bytes} (all : (text.all fun byte => decide (32 ≤ byte)) = true) :
    Visible text := fun byte member =>
  of_decide_eq_true (List.all_eq_true.mp all byte member)

theorem visible_decimal (number : Nat) : Visible (decimal number) := by
  intro byte member
  have digit := isDigit_of_mem_decimal member
  unfold isDigit at digit
  rw [Bool.and_eq_true, decide_eq_true_eq] at digit
  exact UInt8.le_trans (by decide) digit.1

theorem visible_escape (byte : UInt8) : Visible (escape byte) := by
  have hex : ∀ digit < 16, 32 ≤ hexDigit digit := by decide
  have escaped := escaped_escape byte
  generalize escape byte = text at escaped ⊢
  cases escaped with
  | short code named visible other =>
    exact visible_cons (by decide) (visible_cons visible visible_nil)
  | control small =>
    exact visible_cons (by decide) (visible_cons (by decide) (visible_cons (by decide)
      (visible_cons (by decide) (visible_cons (hex _ (by omega)) (visible_cons (hex _ (by omega))
        visible_nil)))))
  | plain visible quote backslash =>
    exact visible_cons (UInt8.not_lt.mp visible) visible_nil

theorem visible_quoted (text : Bytes) : Visible (quoted text) := by
  refine visible_cons (by decide) (visible_append (fun byte member => ?_)
    (visible_cons (by decide) visible_nil))
  obtain ⟨source, -, member⟩ := List.mem_flatMap.mp member
  exact visible_escape source byte member

mutual

/-- **No byte of a text is a control character.** -/
theorem print_visible : ∀ raw : RawJson, Visible (print raw)
  | .null => by
      rw [print]
      exact visible_of_all (by decide)
  | .boolean value => by
      rw [print]
      split_ifs
      · exact visible_of_all (by decide)
      · exact visible_of_all (by decide)
  | .integer value => by
      rw [print, printInteger]
      split_ifs
      · exact visible_cons (by decide) (visible_decimal _)
      · exact visible_decimal _
  | .float value => by
      rw [print, printDouble]
      split_ifs
      · exact visible_append (visible_decimal _) (visible_of_all (by decide))
      · exact visible_of_all (by decide)
  | .string text => by
      rw [print]
      exact visible_quoted text
  | .array [] => by
      rw [print]
      exact visible_of_all (by decide)
  | .array (item :: items) => by
      rw [print]
      exact visible_cons (by decide) (visible_append (print_visible item)
        (printItems_visible items))
  | .object [] => by
      rw [print]
      exact visible_of_all (by decide)
  | .object (field :: fields) => by
      rw [print]
      exact visible_cons (by decide) (visible_append (visible_quoted field.1)
        (visible_cons (by decide) (visible_append (print_visible field.2)
          (printFields_visible fields))))

theorem printItems_visible : ∀ items : List RawJson, Visible (printItems items)
  | [] => by
      rw [printItems]
      exact visible_of_all (by decide)
  | item :: items => by
      rw [printItems]
      exact visible_cons (by decide) (visible_append (print_visible item)
        (printItems_visible items))

theorem printFields_visible : ∀ fields : List (Bytes × RawJson), Visible (printFields fields)
  | [] => by
      rw [printFields]
      exact visible_of_all (by decide)
  | field :: fields => by
      rw [printFields]
      exact visible_cons (by decide) (visible_append (visible_quoted field.1)
        (visible_cons (by decide) (visible_append (print_visible field.2)
          (printFields_visible fields))))

end

theorem printFields_last (fields : List (Bytes × RawJson)) :
    (printFields fields).getLast? = some 125 := by
  induction fields with
  | nil => rfl
  | cons field fields ih =>
    rw [printFields, ← List.cons_append, List.getLast?_append, List.getLast?_cons,
      List.getLast?_append, ih]
    rfl

theorem print_object_braces (fields : List (Bytes × RawJson)) :
    (print (.object fields)).head? = some 123 ∧ (print (.object fields)).getLast? = some 125 := by
  cases fields with
  | nil => exact ⟨rfl, rfl⟩
  | cons field fields =>
    refine ⟨rfl, ?_⟩
    rw [print, ← List.cons_append, List.getLast?_append, List.getLast?_cons,
      List.getLast?_append, printFields_last]
    rfl

end RawJson

/-! ### The library -/

theorem compact_dump_eq_ok {json : Json} {text : Bytes} (written : compact.dump json = .ok text) :
    json.validUtf8 = true ∧ json.raw.print = text := by
  unfold compact at written
  simp only at written
  split_ifs at written with valid
  exact ⟨valid, Except.ok.inj written⟩

/-- **The printer and the reader do what the library documents.** -/
theorem compact_documented : compact.Documented where
  dump_valid json valid := ⟨json.raw.print, if_pos valid⟩
  dump_invalid json invalid := by
    refine ⟨_, if_neg (by rw [invalid]; decide), ?_⟩
    intro byte member
    have all : ((ascii "[json.exception.type_error.316] invalid UTF-8 byte").all
        fun byte => decide (byte < 0x80)) = true := by decide
    exact of_decide_eq_true (List.all_eq_true.mp all byte member)
  dump_line json text written member := by
    obtain ⟨-, rfl⟩ := compact_dump_eq_ok written
    exact absurd (RawJson.print_visible json.raw newline member) (by decide)
  dump_braces json text object written := by
    obtain ⟨-, rfl⟩ := compact_dump_eq_ok written
    unfold Json.isObject at object
    split at object
    · next fields shape =>
      rw [shape]
      exact RawJson.print_object_braces fields
    · cases object
  parse_dump json text written := by
    obtain ⟨valid, rfl⟩ := compact_dump_eq_ok written
    have read := RawJson.readValue_print json.raw json.canonical (json.raw.print.length + 1) []
      (Nat.lt_succ_self _) nofun
    rw [List.append_nil] at read
    simp only [compact, read]
    rw [dif_pos (RawJson.nullify_canonical _ json.canonical),
      if_pos ⟨RawJson.nullify_validUtf8 _ valid, rfl⟩]
    rfl

end DemoDaemon
