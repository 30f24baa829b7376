/-
**The JSON library as the program uses it.**

`Nlohmann` is `nlohmann::json::parse` and `dump`, a parameter of every function that reads or
writes text. **`Nlohmann.Documented`** is what the library documents about the pair: `dump` throws
(with an ASCII text) exactly on strings that are not UTF-8, writes one line, writes an object
between braces, and `parse` reads back what was written, an infinity or a NaN as null.

`fieldsUtf8_set`, `finite_set` and `find_nullify` carry these checks through the assignments and
reads of the protocol.
-/

import DemoDaemon.Json.Value

namespace DemoDaemon

open Foundation

namespace Json

/-! ### Checks of texts and numbers -/

/-- Every string and key is well-formed UTF-8. -/
def validUtf8 (json : Json) : Bool := json.raw.validUtf8

/-- No number is an infinity or a NaN. -/
def finite (json : Json) : Bool := json.raw.finite

/-- Every key, and every text under it, is well-formed UTF-8. -/
def fieldsUtf8 (json : Json) : Bool :=
  (json.raw.fields.all fun field => Foundation.validUtf8 field.1)
    && RawJson.everywhereFields RawJson.utf8Node json.raw.fields

@[simp]
theorem fieldsUtf8_null : null.fieldsUtf8 = true := rfl

@[simp]
theorem fieldsUtf8_emptyObject : emptyObject.fieldsUtf8 = true := rfl

theorem validUtf8_of_isObject {json : Json} (object : json.isObject = true) :
    json.validUtf8 = json.fieldsUtf8 := by
  unfold isObject at object
  unfold validUtf8 fieldsUtf8
  cases shape : json.raw with
  | object fields => rfl
  | null => simp [shape] at object
  | boolean _ => simp [shape] at object
  | integer _ => simp [shape] at object
  | float _ => simp [shape] at object
  | string _ => simp [shape] at object
  | array _ => simp [shape] at object

theorem lookup_of_find_none {json : Json} {key : Bytes} (absent : json.find key = none) :
    json.raw.fields.lookup key = none := by
  have raw := json.find_map_raw key
  rw [absent] at raw
  exact raw.symm

private theorem all_insertField (test : Bytes → Bool) {key : Bytes}
    {fields : List (Bytes × RawJson)} (absent : fields.lookup key = none) (value : RawJson) :
    ((RawJson.insertField key value fields).all fun field => test field.1)
      = (test key && fields.all fun field => test field.1) := by
  induction fields with
  | nil => rfl
  | cons field fields ih =>
    rw [List.lookup_cons] at absent
    unfold RawJson.insertField
    split_ifs with less same
    · rfl
    · rw [beq_iff_eq.mpr same] at absent
      cases absent
    · rw [beq_eq_false_iff_ne.mpr same] at absent
      rw [List.all_cons, ih absent, List.all_cons, Bool.and_left_comm]

/-- **A new key adds exactly its value to what must be UTF-8.** -/
theorem fieldsUtf8_set {json : Json} {key : Bytes} (keyValid : Foundation.validUtf8 key = true)
    (absent : json.find key = none) (value : Json) :
    (json.set key value).fieldsUtf8 = (value.validUtf8 && json.fieldsUtf8) := by
  have missing := lookup_of_find_none absent
  show (((RawJson.insertField key value.raw json.raw.fields).all fun field =>
      Foundation.validUtf8 field.1)
    && RawJson.everywhereFields RawJson.utf8Node
      (RawJson.insertField key value.raw json.raw.fields)) = _
  rw [all_insertField Foundation.validUtf8 missing,
    RawJson.everywhereFields_insertField_absent missing, keyValid, Bool.true_and,
    Bool.and_left_comm]
  rfl

theorem fieldsUtf8_setSome {json : Json} {key : Bytes} (keyValid : Foundation.validUtf8 key = true)
    (absent : json.find key = none) (value : Option Json) :
    (json.setSome key value).fieldsUtf8 = (value.all validUtf8 && json.fieldsUtf8) := by
  cases value with
  | none => rfl
  | some value => exact fieldsUtf8_set keyValid absent value

theorem validUtf8_ofArray {values : List Json}
    (valid : ∀ value ∈ values, value.validUtf8 = true) : (ofArray values).validUtf8 = true := by
  show (RawJson.array (values.map raw)).everywhere RawJson.utf8Node = true
  refine RawJson.everywhere_array rfl fun item member => ?_
  obtain ⟨value, listed, rfl⟩ := List.mem_map.mp member
  exact valid value listed

/-! ### Infinities and NaNs -/

theorem finite_set {json value : Json} (finite : json.finite = true)
    (valueFinite : value.finite = true) (key : Bytes) : (json.set key value).finite = true := by
  show (json.raw.set key value.raw).everywhere RawJson.finiteNode = true
  refine RawJson.everywhere_object.mpr ⟨rfl, ?_⟩
  exact RawJson.everywhereFields_insertField valueFinite (RawJson.everywhereFields_fields finite)

theorem finite_ofArray {values : List Json} (finite : ∀ value ∈ values, value.finite = true) :
    (ofArray values).finite = true := by
  show (RawJson.array (values.map raw)).everywhere RawJson.finiteNode = true
  refine RawJson.everywhere_array rfl fun item member => ?_
  obtain ⟨value, listed, rfl⟩ := List.mem_map.mp member
  exact finite value listed

/-- The value with every infinity and NaN replaced by null. -/
def nullify (json : Json) : Json :=
  ⟨json.raw.nullify, RawJson.nullify_canonical json.raw json.canonical⟩

theorem nullify_eq_self_iff (json : Json) : json.nullify = json ↔ json.finite = true := by
  rw [Json.ext_iff]
  exact RawJson.nullify_eq_self_iff json.raw

/-- Reading a field and replacing infinities commute. -/
theorem find_nullify (json : Json) (key : Bytes) :
    json.nullify.find key = (json.find key).map nullify := by
  refine Option.map_injective (fun _ _ => Json.ext) ?_
  rw [find_map_raw, Option.map_map]
  show json.raw.nullify.lookup key = (json.find key).map (RawJson.nullify ∘ raw)
  rw [RawJson.lookup_nullify, ← find_map_raw, Option.map_map]

@[simp]
theorem nullify_ofInt32 (number : Int32) : (ofInt32 number).nullify = ofInt32 number := rfl

@[simp]
theorem nullify_ofString (text : Bytes) : (ofString text).nullify = ofString text := rfl

end Json

/-! ### The library -/

/-- `nlohmann::json::parse` and `nlohmann::json::dump`. -/
structure Nlohmann where
  parse : Bytes → Except Exn Json
  dump : Json → Except Exn Bytes

/-- What the library documents about `dump` and `parse`. -/
structure Nlohmann.Documented (lib : Nlohmann) : Prop where
  /-- A value whose strings are UTF-8 is written. -/
  dump_valid : ∀ json : Json, json.validUtf8 = true → ∃ text, lib.dump json = .ok text
  /-- Any other value makes `dump` throw, with a text of its own in ASCII. -/
  dump_invalid : ∀ json : Json, json.validUtf8 = false →
    ∃ error, lib.dump json = .error error ∧ ∀ byte ∈ error.what, byte < 0x80
  /-- The text is one line. -/
  dump_line : ∀ json text, lib.dump json = .ok text → newline ∉ text
  /-- An object is written between braces. -/
  dump_braces : ∀ json text, json.isObject = true → lib.dump json = .ok text →
    text.head? = some 123 ∧ text.getLast? = some 125
  /-- The text is read back; an infinity or a NaN was written as null. -/
  parse_dump : ∀ json text, lib.dump json = .ok text → lib.parse text = .ok json.nullify

/-- `parse(dump(j)) == j` for a value with finite numbers. -/
theorem Nlohmann.Documented.parse_dump_finite {lib : Nlohmann} (documented : lib.Documented)
    {json : Json} {text : Bytes} (finite : json.finite = true)
    (written : lib.dump json = .ok text) : lib.parse text = .ok json := by
  rw [documented.parse_dump json text written, (json.nullify_eq_self_iff).mpr finite]

end DemoDaemon
