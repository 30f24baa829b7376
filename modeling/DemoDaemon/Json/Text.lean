/-
**Compact JSON text.**

`compact` is a printer and a reader of compact JSON: the escapes, key order and separators are
those of `nlohmann::json`, and the reader skips blanks between tokens and lets a later duplicate
key win. It is the instance every concrete run of this development is evaluated with. Three things
the program never writes are simpler here: a double is written by its bits, with `.0` behind; a
surrogate escape is refused; so is an integer outside both 64-bit ranges.
-/

import DemoDaemon.Json.Library
import DemoDaemon.Foundation.Decimal

namespace DemoDaemon

open Foundation

/-! ### Writing -/

namespace RawJson

/-- The hexadecimal digit of a number below sixteen. -/
def hexDigit (digit : Nat) : UInt8 :=
  if digit < 10 then UInt8.ofNat (48 + digit) else UInt8.ofNat (87 + digit)

/-- One byte of a string, escaped. -/
def escape (byte : UInt8) : Bytes :=
  if byte = 8 then [92, 98]
  else if byte = 9 then [92, 116]
  else if byte = 10 then [92, 110]
  else if byte = 12 then [92, 102]
  else if byte = 13 then [92, 114]
  else if byte = 34 then [92, 34]
  else if byte = 92 then [92, 92]
  else if byte < 32 then
    [92, 117, 48, 48, hexDigit (byte.toNat / 16), hexDigit (byte.toNat % 16)]
  else [byte]

/-- A string in quotes. -/
def quoted (text : Bytes) : Bytes := 34 :: (text.flatMap escape ++ [34])

def printInteger (value : Int) : Bytes :=
  if value < 0 then 45 :: decimal value.natAbs else decimal value.natAbs

/-- A double by its bits; an infinity and a NaN as null. -/
def printDouble (value : Double) : Bytes :=
  if value.isFinite then decimal value.bits.toNat ++ [46, 48] else ascii "null"

mutual

/-- The compact text of a tree. -/
def print : RawJson → Bytes
  | .null => ascii "null"
  | .boolean value => if value then ascii "true" else ascii "false"
  | .integer value => printInteger value
  | .float value => printDouble value
  | .string text => quoted text
  | .array [] => ascii "[]"
  | .array (item :: items) => 91 :: (print item ++ printItems items)
  | .object [] => [123, 125]
  | .object (field :: fields) =>
    123 :: (quoted field.1 ++ 58 :: (print field.2 ++ printFields fields))

/-- The items after the first, each behind its comma, and the bracket. -/
def printItems : List RawJson → Bytes
  | [] => [93]
  | item :: items => 44 :: (print item ++ printItems items)

/-- The fields after the first, each behind its comma, and the brace. -/
def printFields : List (Bytes × RawJson) → Bytes
  | [] => [125]
  | field :: fields => 44 :: (quoted field.1 ++ 58 :: (print field.2 ++ printFields fields))

end

/-! ### Reading -/

/-- What is left after the blanks in front of a token. -/
def skipSpace : Bytes → Bytes
  | [] => []
  | byte :: rest => if byte ∈ [32, 9, 10, 13] then skipSpace rest else byte :: rest

/-- Expect a literal. -/
def expect (literal : Bytes) (value : RawJson) (text : Bytes) : Option (RawJson × Bytes) :=
  if text.take literal.length = literal then some (value, text.drop literal.length) else none

def hexValue (byte : UInt8) : Option Nat :=
  if 48 ≤ byte ∧ byte ≤ 57 then some (byte.toNat - 48)
  else if 97 ≤ byte ∧ byte ≤ 102 then some (byte.toNat - 87)
  else if 65 ≤ byte ∧ byte ≤ 70 then some (byte.toNat - 55)
  else none

/-- The UTF-8 form of a code point below `10000` that is not a surrogate. -/
def encodeUtf8 (code : Nat) : Option Bytes :=
  if code < 0x80 then some [UInt8.ofNat code]
  else if code < 0x800 then some [UInt8.ofNat (0xC0 + code / 64), UInt8.ofNat (0x80 + code % 64)]
  else if 0xD800 ≤ code ∧ code < 0xE000 then none
  else some [UInt8.ofNat (0xE0 + code / 4096), UInt8.ofNat (0x80 + code / 64 % 64),
    UInt8.ofNat (0x80 + code % 64)]

/-- The byte a two-character escape stands for. -/
def unescape (code : UInt8) : Option Bytes :=
  if code = 98 then some [8]
  else if code = 116 then some [9]
  else if code = 110 then some [10]
  else if code = 102 then some [12]
  else if code = 114 then some [13]
  else if code = 34 ∨ code = 92 ∨ code = 47 then some [code]
  else none

/-- Put the bytes of one character in front of the string read so far. -/
def prepend (character : Option Bytes) (string : Option (Bytes × Bytes)) :
    Option (Bytes × Bytes) :=
  match character, string with
  | some bytes, some (text, rest) => some (bytes ++ text, rest)
  | _, _ => none

/-- Where a string reader stands: outside an escape, behind a backslash, or with `left + 1` digits
of a `\u` escape to come after those that make `code`. -/
inductive StringState where
  | plain
  | escaped
  | unicode (left code : Nat)

/-- A string, after its opening quote. -/
def readString : StringState → Bytes → Option (Bytes × Bytes)
  | _, [] => none
  | .plain, byte :: rest =>
    if byte = 34 then some ([], rest)
    else if byte = 92 then readString .escaped rest
    else if byte < 32 then none
    else prepend (some [byte]) (readString .plain rest)
  | .escaped, code :: rest =>
    if code = 117 then readString (.unicode 3 0) rest
    else prepend (unescape code) (readString .plain rest)
  | .unicode 0 code, digit :: rest =>
    match hexValue digit with
    | none => none
    | some value => prepend (encodeUtf8 (code * 16 + value)) (readString .plain rest)
  | .unicode (left + 1) code, digit :: rest =>
    match hexValue digit with
    | none => none
    | some value => readString (.unicode left (code * 16 + value)) rest

/-- A key with its colon. -/
def readKey (text : Bytes) : Option (Bytes × Bytes) :=
  match skipSpace text with
  | [] => none
  | byte :: rest =>
    if byte = 34 then
      match readString .plain rest with
      | none => none
      | some (key, rest) =>
        match skipSpace rest with
        | [] => none
        | byte :: rest => if byte = 58 then some (key, rest) else none
    else none

def readNumber (text : Bytes) : Option (RawJson × Bytes) :=
  match text with
  | [] => none
  | byte :: rest =>
    if byte = 45 then
      if (rest.head?.map isDigit).getD false then
        let (number, rest) := readDigits rest 0
        some (.integer (-(number : Int)), rest)
      else none
    else if isDigit byte then
      let (number, rest) := readDigits text 0
      if rest.take 2 = [46, 48] then some (.float ⟨UInt64.ofNat number⟩, rest.drop 2)
      else some (.integer number, rest)
    else none

/-- The map an object text builds, field by field. -/
def ofFields (fields : List (Bytes × RawJson)) : RawJson :=
  .object (fields.foldl (fun built field => insertField field.1 field.2 built) [])

mutual

/-- A value, within `fuel` nested calls. -/
def readValue : Nat → Bytes → Option (RawJson × Bytes)
  | 0, _ => none
  | fuel + 1, text =>
    match skipSpace text with
    | [] => none
    | byte :: rest =>
      if byte = 34 then (readString .plain rest).map fun (text, rest) => (.string text, rest)
      else if byte = 91 then
        match skipSpace rest with
        | [] => none
        | next :: after =>
          if next = 93 then some (.array [], after)
          else (readItems fuel (44 :: rest)).map fun (items, rest) => (.array items, rest)
      else if byte = 123 then
        match skipSpace rest with
        | [] => none
        | next :: after =>
          if next = 125 then some (.object [], after)
          else (readFields fuel (44 :: rest)).map fun (fields, rest) => (ofFields fields, rest)
      else if byte = 110 then expect (ascii "ull") .null rest
      else if byte = 116 then expect (ascii "rue") (.boolean true) rest
      else if byte = 102 then expect (ascii "alse") (.boolean false) rest
      else readNumber (byte :: rest)

/-- Items, each behind its comma, up to the bracket. -/
def readItems : Nat → Bytes → Option (List RawJson × Bytes)
  | 0, _ => none
  | fuel + 1, text =>
    match skipSpace text with
    | [] => none
    | byte :: rest =>
      if byte = 93 then some ([], rest)
      else if byte = 44 then
        match readValue fuel rest with
        | none => none
        | some (item, rest) =>
          (readItems fuel rest).map fun (items, rest) => (item :: items, rest)
      else none

/-- Fields, each behind its comma, up to the brace. -/
def readFields : Nat → Bytes → Option (List (Bytes × RawJson) × Bytes)
  | 0, _ => none
  | fuel + 1, text =>
    match skipSpace text with
    | [] => none
    | byte :: rest =>
      if byte = 125 then some ([], rest)
      else if byte = 44 then
        match readKey rest with
        | none => none
        | some (key, rest) =>
          match readValue fuel rest with
          | none => none
          | some (value, rest) =>
            (readFields fuel rest).map fun (fields, rest) => ((key, value) :: fields, rest)
      else none

end

end RawJson

/-- The printer and the reader as a library. -/
def compact : Nlohmann where
  parse text :=
    match RawJson.readValue (text.length + 1) text with
    | some (raw, rest) =>
      if canonical : raw.canonical = true then
        if raw.validUtf8 ∧ RawJson.skipSpace rest = [] then .ok ⟨raw, canonical⟩
        else .error ⟨ascii "[json.exception.parse_error.101] parse error"⟩
      else .error ⟨ascii "[json.exception.out_of_range.406] number overflow"⟩
    | none => .error ⟨ascii "[json.exception.parse_error.101] parse error"⟩
  dump json :=
    if json.validUtf8 then .ok json.raw.print
    else .error ⟨ascii "[json.exception.type_error.316] invalid UTF-8 byte"⟩

end DemoDaemon
