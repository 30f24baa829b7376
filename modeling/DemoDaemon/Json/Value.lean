/-
**`nlohmann::json` values.**

A `Json` is a canonical tree: the invariant of `nlohmann::json` (integers in range, keys of an
object strictly increasing) is a field, so two values are equal exactly when their trees are.

* `find`, `contains`, `set`: `operator[]` and `contains`. `find_set_same` and `find_set_other` are
  all the protocol proofs use of them.
* `getInt64`, `getInt`, `getString`, `value`: the typed readers, with their `type_error`s.
* `ofArray`, `items`, `size`: arrays.
* `setSome`: an assignment that happens only when an optional has a value.
-/

import DemoDaemon.Json.Raw

namespace DemoDaemon

open Foundation

/-- An exception derived from `std::exception`, by its `what()` text. -/
structure Exn where
  what : Bytes
deriving DecidableEq

/-- A value of type `nlohmann::json`. -/
@[ext]
structure Json where
  raw : RawJson
  canonical : raw.canonical = true

namespace Json

/-! ### Building values -/

def null : Json := ⟨.null, rfl⟩

def ofString (text : Bytes) : Json := ⟨.string text, rfl⟩

def ofBool (value : Bool) : Json := ⟨.boolean value, rfl⟩

def emptyObject : Json := ⟨.object [], rfl⟩

theorem canonical_of_mem_map_raw {values : List Json} (item : RawJson)
    (member : item ∈ values.map raw) : item.canonical = true := by
  obtain ⟨value, -, rfl⟩ := List.mem_map.mp member
  exact value.canonical

/-- `json::array()` with values pushed back. -/
def ofArray (values : List Json) : Json :=
  ⟨.array (values.map raw), RawJson.canonical_array canonical_of_mem_map_raw⟩

/-- `json = int64_t`. -/
def ofInt64 (value : Int64) : Json :=
  ⟨.integer value.toInt, by
    have lower := value.le_toInt
    have upper := value.toInt_lt
    show (decide (-2 ^ 63 ≤ value.toInt) && decide (value.toInt < 2 ^ 64)) = true
    rw [Bool.and_eq_true, decide_eq_true_eq, decide_eq_true_eq]
    omega⟩

/-- `json = int32_t`. -/
def ofInt32 (value : Int32) : Json :=
  ⟨.integer value.toInt, by
    have lower := value.le_toInt
    have upper := value.toInt_lt
    show (decide (-2 ^ 63 ≤ value.toInt) && decide (value.toInt < 2 ^ 64)) = true
    rw [Bool.and_eq_true, decide_eq_true_eq, decide_eq_true_eq]
    omega⟩

theorem canonical_integer {value : Int} (lower : -2 ^ 63 ≤ value) (upper : value < 2 ^ 64) :
    (RawJson.integer value).canonical = true := by
  show (decide (-2 ^ 63 ≤ value) && decide (value < 2 ^ 64)) = true
  rw [Bool.and_eq_true, decide_eq_true_eq, decide_eq_true_eq]
  exact ⟨lower, upper⟩

theorem canonical_uint64 (value : UInt64) : (RawJson.integer value.toNat).canonical = true := by
  have upper := value.toNat_lt
  exact canonical_integer (by omega) (by omega)

/-- `json = uint64_t`. -/
def ofUInt64 (value : UInt64) : Json := ⟨.integer value.toNat, canonical_uint64 value⟩

/-! ### Kinds -/

def isNull (json : Json) : Bool :=
  match json.raw with
  | .null => true
  | _ => false

def isObject (json : Json) : Bool :=
  match json.raw with
  | .object _ => true
  | _ => false

def isString (json : Json) : Bool :=
  match json.raw with
  | .string _ => true
  | _ => false

def isArray (json : Json) : Bool :=
  match json.raw with
  | .array _ => true
  | _ => false

/-- True of `number_integer` and of `number_unsigned`. -/
def isNumberInteger (json : Json) : Bool :=
  match json.raw with
  | .integer _ => true
  | _ => false

/-- The name of the kind, as error texts give it. -/
def typeName (json : Json) : Bytes :=
  match json.raw with
  | .null => ascii "null"
  | .boolean _ => ascii "boolean"
  | .integer _ => ascii "number"
  | .float _ => ascii "number"
  | .string _ => ascii "string"
  | .array _ => ascii "array"
  | .object _ => ascii "object"

/-! ### Typed readers -/

/-- `type_error 302`. -/
def typeError302 (wanted : String) (json : Json) : Exn :=
  ⟨ascii "[json.exception.type_error.302] type must be " ++ ascii wanted ++ ascii ", but is "
    ++ json.typeName⟩

/-- `get<int64_t>()`: a `static_cast` of any number. A double out of range is undefined behaviour;
the wrapped value stands for it. -/
def getInt64 (json : Json) : Except Exn Int64 :=
  match json.raw with
  | .integer value => .ok (Int64.ofInt value)
  | .float value => .ok (Int64.ofInt value.truncated)
  | _ => .error (json.typeError302 "number")

/-- `get<int>()`: a `static_cast` of any number or boolean. -/
def getInt (json : Json) : Except Exn Int32 :=
  match json.raw with
  | .integer value => .ok (Int32.ofInt value)
  | .float value => .ok (Int32.ofInt value.truncated)
  | .boolean value => .ok (if value then 1 else 0)
  | _ => .error (json.typeError302 "number")

/-- `get<std::string>()`. -/
def getString (json : Json) : Except Exn Bytes :=
  match json.raw with
  | .string text => .ok text
  | _ => .error (json.typeError302 "string")

/-! ### Fields -/

/-- `operator[](key)` of an object that has the key. -/
def find (json : Json) (key : Bytes) : Option Json :=
  (json.raw.lookup key).pmap Json.mk fun _ found => RawJson.lookup_canonical json.canonical found

def contains (json : Json) (key : Bytes) : Bool := (json.find key).isSome

/-- `operator[](key) = value`. -/
def set (json : Json) (key : Bytes) (value : Json) : Json :=
  ⟨json.raw.set key value.raw, RawJson.set_canonical json.canonical value.canonical key⟩

/-- `if (optional.has_value()) json[key] = optional.value();` -/
def setSome (json : Json) (key : Bytes) : Option Json → Json
  | none => json
  | some value => json.set key value

/-- `value(key, fallback)` for the reader of one type. -/
def value {β : Type} (json : Json) (get : Json → Except Exn β) (key : Bytes) (fallback : β) :
    Except Exn β :=
  if json.isObject then
    match json.find key with
    | some field => get field
    | none => .ok fallback
  else
    .error ⟨ascii "[json.exception.type_error.306] cannot use value() with " ++ json.typeName⟩

/-! ### Arrays -/

/-- The values a loop over an array meets. -/
def items (json : Json) : List Json :=
  json.raw.items.pmap Json.mk (RawJson.items_canonical json.canonical)

def size (json : Json) : Nat := json.raw.size

@[simp]
theorem items_ofArray (values : List Json) : (ofArray values).items = values := by
  refine List.map_injective_iff.mpr (fun _ _ => Json.ext) ?_
  rw [items, List.map_pmap, List.pmap_eq_map, List.map_id']
  rfl

/-! ### Laws of fields -/

/-- `find`, on trees. -/
theorem find_map_raw (json : Json) (key : Bytes) :
    (json.find key).map raw = json.raw.lookup key := by
  rw [find, Option.map_pmap, Option.pmap_eq_map, Option.map_id']

theorem find_eq_of_lookup {first second : Json} {key other : Bytes}
    (same : first.raw.lookup key = second.raw.lookup other) :
    first.find key = second.find other := by
  refine Option.map_injective (fun _ _ => Json.ext) ?_
  rw [find_map_raw, find_map_raw, same]

theorem find_eq_some {json value : Json} {key : Bytes}
    (found : json.raw.lookup key = some value.raw) : json.find key = some value := by
  refine Option.map_injective (fun _ _ => Json.ext) ?_
  rw [find_map_raw, found]
  rfl

@[simp]
theorem find_null (key : Bytes) : null.find key = none := rfl

@[simp]
theorem find_emptyObject (key : Bytes) : emptyObject.find key = none := rfl

@[simp]
theorem find_set_same (json : Json) (key : Bytes) (value : Json) :
    (json.set key value).find key = some value := by
  exact find_eq_some (RawJson.lookup_insertField_same key value.raw json.raw.fields)

/-- Assigning one key leaves the others. -/
theorem find_set_other (json : Json) {key other : Bytes} (different : other ≠ key)
    (value : Json) : (json.set key value).find other = json.find other := by
  exact find_eq_of_lookup
    (RawJson.lookup_insertField_other different value.raw json.raw.fields)

theorem find_setSome_same {json : Json} {key : Bytes} (absent : json.find key = none)
    (value : Option Json) : (json.setSome key value).find key = value := by
  cases value with
  | none => exact absent
  | some value => exact find_set_same json key value

theorem find_setSome_other (json : Json) {key other : Bytes} (different : other ≠ key)
    (value : Option Json) : (json.setSome key value).find other = json.find other := by
  cases value with
  | none => rfl
  | some value => exact find_set_other json different value

@[simp]
theorem isObject_set (json : Json) (key : Bytes) (value : Json) :
    (json.set key value).isObject = true := rfl

/-- Only an object has fields. -/
theorem isObject_of_find {json value : Json} {key : Bytes} (found : json.find key = some value) :
    json.isObject = true := by
  have raw := json.find_map_raw key
  rw [found] at raw
  unfold isObject
  cases shape : json.raw with
  | object fields => rfl
  | null => rw [shape] at raw; cases raw
  | boolean _ => rw [shape] at raw; cases raw
  | integer _ => rw [shape] at raw; cases raw
  | float _ => rw [shape] at raw; cases raw
  | string _ => rw [shape] at raw; cases raw
  | array _ => rw [shape] at raw; cases raw

/-- `value` of a key that is there. -/
theorem value_of_find {β : Type} {json field : Json} {key : Bytes}
    (found : json.find key = some field) (get : Json → Except Exn β) (fallback : β) :
    json.value get key fallback = get field := by
  simp only [value, isObject_of_find found, if_true, found]

/-- `value` of a key that an object does not have. -/
theorem value_of_absent {β : Type} {json : Json} {key : Bytes} (object : json.isObject = true)
    (absent : json.find key = none) (get : Json → Except Exn β) (fallback : β) :
    json.value get key fallback = .ok fallback := by
  simp only [value, object, if_true, absent]

/-! ### What the readers give on built values -/

@[simp]
theorem isNumberInteger_ofInt64 (number : Int64) : (ofInt64 number).isNumberInteger = true := rfl

@[simp]
theorem getInt64_ofInt64 (number : Int64) : (ofInt64 number).getInt64 = .ok number :=
  congrArg Except.ok (Int64.ofInt_toInt number)

@[simp]
theorem getInt_ofInt32 (number : Int32) : (ofInt32 number).getInt = .ok number :=
  congrArg Except.ok (Int32.ofInt_toInt number)

@[simp]
theorem isString_ofString (text : Bytes) : (ofString text).isString = true := rfl

@[simp]
theorem getString_ofString (text : Bytes) : (ofString text).getString = .ok text := rfl

end Json

end DemoDaemon
