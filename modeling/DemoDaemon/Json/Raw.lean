/-
**JSON trees.**

`RawJson` is the tree under an `nlohmann::json` value. Two facts of that type are not in the shape
of a tree and are checked at every node instead: an integer is a `number_integer` or a
`number_unsigned`, so it lies in `[-2^63, 2^64)`; an object is a `std::map`, so its keys are
strictly increasing. `everywhere check` runs a check at every node; `canonical`, `validUtf8` and
`finite` are three instances, and the lemmas about reading and writing a field are proved once,
for every check.

`number_integer` and `number_unsigned` are one constructor: values of the two kinds that denote
the same integer compare equal, print alike and convert alike.
-/

import DemoDaemon.Foundation.Bytes

set_option linter.unusedSectionVars false

namespace DemoDaemon

open Foundation

/-! ### Doubles -/

/-- An IEEE 754 binary64 value, by its bits. -/
structure Double where
  bits : UInt64
deriving DecidableEq

namespace Double

def exponent (value : Double) : Nat := value.bits.toNat / 2 ^ 52 % 2 ^ 11

def mantissa (value : Double) : Nat := value.bits.toNat % 2 ^ 52

def isNegative (value : Double) : Bool := decide (2 ^ 63 ≤ value.bits.toNat)

/-- Neither infinite nor NaN. -/
def isFinite (value : Double) : Bool := value.exponent != 2047

/-- The magnitude of a finite value, rounded toward zero. -/
def truncatedMagnitude (value : Double) : Nat :=
  if value.exponent = 0 then 0
  else if value.exponent < 1075 then
    (2 ^ 52 + value.mantissa) / 2 ^ (1075 - value.exponent)
  else (2 ^ 52 + value.mantissa) * 2 ^ (value.exponent - 1075)

/-- The integer a conversion to an integer type starts from: rounded toward zero. -/
def truncated (value : Double) : Int :=
  if value.isNegative then -(value.truncatedMagnitude : Int) else value.truncatedMagnitude

end Double

/-! ### Trees -/

/-- The tree of a JSON value. -/
inductive RawJson where
  | null
  | boolean (value : Bool)
  | integer (value : Int)
  | float (value : Double)
  | string (text : Bytes)
  | array (items : List RawJson)
  | object (fields : List (Bytes × RawJson))

namespace RawJson

mutual

/-- The check holds at every node of the tree. -/
def everywhere (check : RawJson → Bool) : RawJson → Bool
  | .null => check .null
  | .boolean value => check (.boolean value)
  | .integer value => check (.integer value)
  | .float value => check (.float value)
  | .string text => check (.string text)
  | .array items => check (.array items) && everywhereItems check items
  | .object fields => check (.object fields) && everywhereFields check fields

def everywhereItems (check : RawJson → Bool) : List RawJson → Bool
  | [] => true
  | item :: items => everywhere check item && everywhereItems check items

def everywhereFields (check : RawJson → Bool) : List (Bytes × RawJson) → Bool
  | [] => true
  | field :: fields => everywhere check field.2 && everywhereFields check fields

end

/-- A node as `nlohmann::json` stores it: integers in range, keys strictly increasing. -/
def canonicalNode : RawJson → Bool
  | .integer value => decide (-2 ^ 63 ≤ value) && decide (value < 2 ^ 64)
  | .object fields => decide ((fields.map Prod.fst).Pairwise (· < ·))
  | _ => true

/-- A node whose texts are well-formed UTF-8. -/
def utf8Node : RawJson → Bool
  | .string text => Foundation.validUtf8 text
  | .object fields => fields.all fun field => Foundation.validUtf8 field.1
  | _ => true

/-- A node that is not an infinity or a NaN. -/
def finiteNode : RawJson → Bool
  | .float value => value.isFinite
  | _ => true

def canonical (raw : RawJson) : Bool := raw.everywhere canonicalNode

def validUtf8 (raw : RawJson) : Bool := raw.everywhere utf8Node

def finite (raw : RawJson) : Bool := raw.everywhere finiteNode

mutual

/-- The tree with every infinity and NaN replaced by null, which is how the writer prints them. -/
def nullify : RawJson → RawJson
  | .null => .null
  | .boolean value => .boolean value
  | .integer value => .integer value
  | .float value => if value.isFinite then .float value else .null
  | .string text => .string text
  | .array items => .array (nullifyItems items)
  | .object fields => .object (nullifyFields fields)

def nullifyItems : List RawJson → List RawJson
  | [] => []
  | item :: items => nullify item :: nullifyItems items

def nullifyFields : List (Bytes × RawJson) → List (Bytes × RawJson)
  | [] => []
  | field :: fields => (field.1, nullify field.2) :: nullifyFields fields

end

/-! ### Fields -/

/-- The fields of an object; no other kind of value has any. -/
def fields : RawJson → List (Bytes × RawJson)
  | .object fields => fields
  | _ => []

/-- The value of a key, for an object that has it. -/
def lookup (raw : RawJson) (key : Bytes) : Option RawJson := raw.fields.lookup key

/-- Assign a key of a `std::map`: overwrite it, or insert it at its place. -/
def insertField (key : Bytes) (value : RawJson) :
    List (Bytes × RawJson) → List (Bytes × RawJson)
  | [] => [(key, value)]
  | field :: fields =>
    if key < field.1 then (key, value) :: field :: fields
    else if key = field.1 then (key, value) :: fields
    else field :: insertField key value fields

/-- `operator[](key) = value` on a null or an object. No function of the program assigns a key of
any other kind of value. -/
def set (raw : RawJson) (key : Bytes) (value : RawJson) : RawJson :=
  .object (insertField key value raw.fields)

/-- The values of an array; no other kind of value has any. -/
def items : RawJson → List RawJson
  | .array items => items
  | _ => []

/-- `size()`. -/
def size : RawJson → Nat
  | .null => 0
  | .array items => items.length
  | .object fields => fields.length
  | _ => 1

theorem lookup_insertField_same (key : Bytes) (value : RawJson)
    (fields : List (Bytes × RawJson)) :
    (insertField key value fields).lookup key = some value := by
  induction fields with
  | nil => rw [insertField, List.lookup_cons_self]
  | cons field fields ih =>
    unfold insertField
    split_ifs with less same
    · rw [List.lookup_cons_self]
    · rw [List.lookup_cons_self]
    · rw [List.lookup_cons, beq_eq_false_iff_ne.mpr same]
      exact ih

theorem lookup_insertField_other {key other : Bytes} (different : other ≠ key) (value : RawJson)
    (fields : List (Bytes × RawJson)) :
    (insertField key value fields).lookup other = fields.lookup other := by
  have miss : (other == key) = false := beq_eq_false_iff_ne.mpr different
  induction fields with
  | nil => rw [insertField, List.lookup_cons, miss]
  | cons field fields ih =>
    unfold insertField
    split_ifs with less same
    · rw [List.lookup_cons, miss]
    · rw [List.lookup_cons, miss, List.lookup_cons, ← same, miss]
    · rw [List.lookup_cons, List.lookup_cons, ih]

/-- The keys after an assignment: the assigned one and the old ones. -/
theorem mem_keys_insertField {key other : Bytes} {value : RawJson}
    {fields : List (Bytes × RawJson)}
    (member : other ∈ (insertField key value fields).map Prod.fst) :
    other = key ∨ other ∈ fields.map Prod.fst := by
  induction fields with
  | nil => exact Or.inl (by simpa [insertField] using member)
  | cons field fields ih =>
    unfold insertField at member
    split_ifs at member with less same
    · exact List.mem_cons.mp member
    · rcases List.mem_cons.mp member with here | member
      · exact Or.inl here
      · exact Or.inr (List.mem_cons_of_mem _ member)
    · rcases List.mem_cons.mp member with here | member
      · exact Or.inr (by rw [here]; exact List.mem_cons_self)
      · exact (ih member).imp id (List.mem_cons_of_mem _)

/-- **An assignment keeps the keys strictly increasing.** -/
theorem insertField_sorted {key : Bytes} {value : RawJson} {fields : List (Bytes × RawJson)}
    (sorted : (fields.map Prod.fst).Pairwise (· < ·)) :
    ((insertField key value fields).map Prod.fst).Pairwise (· < ·) := by
  induction fields with
  | nil => simp [insertField]
  | cons field fields ih =>
    rw [List.map_cons, List.pairwise_cons] at sorted
    unfold insertField
    split_ifs with less same
    · rw [List.map_cons, List.pairwise_cons, List.map_cons, List.pairwise_cons]
      refine ⟨fun other member => ?_, sorted⟩
      rcases List.mem_cons.mp member with rfl | member
      · exact less
      · exact List.lt_trans less (sorted.1 other member)
    · subst same
      rw [List.map_cons, List.pairwise_cons]
      exact sorted
    · rw [List.map_cons, List.pairwise_cons]
      refine ⟨fun other member => ?_, ih sorted.2⟩
      rcases mem_keys_insertField member with rfl | member
      · by_contra above
        exact same (List.le_antisymm (List.not_lt.mp above) (List.not_lt.mp less))
      · exact sorted.1 other member

/-! ### Checks along reads and writes -/

section Checks

variable {check : RawJson → Bool}

/-- A check of an object is a check of the node and of every field. -/
theorem everywhere_object {fields : List (Bytes × RawJson)} :
    (RawJson.object fields).everywhere check = true
      ↔ check (.object fields) = true ∧ everywhereFields check fields = true :=
  Bool.and_eq_true_iff

theorem everywhereItems_iff {items : List RawJson} :
    everywhereItems check items = true ↔ ∀ item ∈ items, item.everywhere check = true := by
  induction items with
  | nil => simp [everywhereItems]
  | cons item items ih => rw [everywhereItems, Bool.and_eq_true, ih, List.forall_mem_cons]

/-- A value read out of a checked object is checked. -/
theorem everywhereFields_lookup {fields : List (Bytes × RawJson)}
    (holds : everywhereFields check fields = true) {key : Bytes} {value : RawJson}
    (found : fields.lookup key = some value) : value.everywhere check = true := by
  induction fields with
  | nil => cases found
  | cons field fields ih =>
    rw [everywhereFields, Bool.and_eq_true] at holds
    rw [List.lookup_cons] at found
    split at found
    · cases found
      exact holds.1
    · exact ih holds.2 found

theorem everywhere_array {items : List RawJson} (node : check (.array items) = true)
    (holds : ∀ item ∈ items, item.everywhere check = true) :
    (RawJson.array items).everywhere check = true := by
  rw [everywhere, Bool.and_eq_true]
  exact ⟨node, everywhereItems_iff.mpr holds⟩

/-- The values of a checked array are checked. -/
theorem everywhere_of_mem_items {raw item : RawJson} (holds : raw.everywhere check = true)
    (member : item ∈ raw.items) : item.everywhere check = true := by
  cases raw with
  | array items =>
    rw [everywhere, Bool.and_eq_true] at holds
    exact everywhereItems_iff.mp holds.2 item member
  | object _ => cases member
  | null => cases member
  | boolean _ => cases member
  | integer _ => cases member
  | float _ => cases member
  | string _ => cases member

/-- The fields of a checked value are checked. -/
theorem everywhereFields_fields {raw : RawJson} (holds : raw.everywhere check = true) :
    everywhereFields check raw.fields = true := by
  cases raw with
  | object fields => exact (everywhere_object.mp holds).2
  | null => rfl
  | boolean _ => rfl
  | integer _ => rfl
  | float _ => rfl
  | string _ => rfl
  | array _ => rfl

/-- Assigning a checked value keeps every field checked. -/
theorem everywhereFields_insertField {key : Bytes} {value : RawJson}
    (valueHolds : value.everywhere check = true) {fields : List (Bytes × RawJson)}
    (holds : everywhereFields check fields = true) :
    everywhereFields check (insertField key value fields) = true := by
  induction fields with
  | nil => simp [insertField, everywhereFields, valueHolds]
  | cons field fields ih =>
    have parts := holds
    rw [everywhereFields, Bool.and_eq_true] at parts
    unfold insertField
    split_ifs
    · rw [everywhereFields, valueHolds, holds]
      rfl
    · rw [everywhereFields, valueHolds, parts.2]
      rfl
    · rw [everywhereFields, parts.1, ih parts.2]
      rfl

/-- A key that was absent adds exactly its value to what is checked. -/
theorem everywhereFields_insertField_absent {key : Bytes} {fields : List (Bytes × RawJson)}
    (absent : fields.lookup key = none) (value : RawJson) :
    everywhereFields check (insertField key value fields)
      = (value.everywhere check && everywhereFields check fields) := by
  induction fields with
  | nil => rfl
  | cons field fields ih =>
    rw [List.lookup_cons] at absent
    unfold insertField
    split_ifs with less same
    · rfl
    · rw [beq_iff_eq.mpr same] at absent
      cases absent
    · rw [beq_eq_false_iff_ne.mpr same] at absent
      rw [everywhereFields, ih absent, everywhereFields, Bool.and_left_comm]

/-- The keys of a canonical value are strictly increasing. -/
theorem canonical_fields_sorted {raw : RawJson} (canonical : raw.canonical = true) :
    (raw.fields.map Prod.fst).Pairwise (· < ·) := by
  cases raw with
  | object fields => exact of_decide_eq_true (everywhere_object.mp canonical).1
  | null => exact .nil
  | boolean _ => exact .nil
  | integer _ => exact .nil
  | float _ => exact .nil
  | string _ => exact .nil
  | array _ => exact .nil

theorem canonical_array {items : List RawJson} (canonical : ∀ item ∈ items, item.canonical = true) :
    (RawJson.array items).canonical = true := everywhere_array rfl canonical

theorem items_canonical {raw : RawJson} (canonical : raw.canonical = true) (item : RawJson)
    (member : item ∈ raw.items) : item.canonical = true :=
  everywhere_of_mem_items canonical member

theorem lookup_canonical {raw value : RawJson} (canonical : raw.canonical = true) {key : Bytes}
    (found : raw.lookup key = some value) : value.canonical = true :=
  everywhereFields_lookup (everywhereFields_fields canonical) found

theorem set_canonical {raw value : RawJson} (canonical : raw.canonical = true)
    (valueCanonical : value.canonical = true) (key : Bytes) :
    (raw.set key value).canonical = true := by
  refine everywhere_object.mpr ⟨decide_eq_true ?_, ?_⟩
  · exact insertField_sorted (canonical_fields_sorted canonical)
  · exact everywhereFields_insertField valueCanonical (everywhereFields_fields canonical)

end Checks

/-! ### Infinities and NaNs -/

theorem nullifyFields_keys (fields : List (Bytes × RawJson)) :
    (nullifyFields fields).map Prod.fst = fields.map Prod.fst := by
  induction fields with
  | nil => rfl
  | cons field fields ih => rw [nullifyFields, List.map_cons, List.map_cons, ih]

theorem fields_nullify (raw : RawJson) : raw.nullify.fields = nullifyFields raw.fields := by
  cases raw with
  | float value =>
    unfold nullify
    split <;> rfl
  | object fields => rfl
  | null => rfl
  | boolean _ => rfl
  | integer _ => rfl
  | string _ => rfl
  | array _ => rfl

/-- Reading a field and replacing infinities commute. -/
theorem lookup_nullify (raw : RawJson) (key : Bytes) :
    raw.nullify.lookup key = (raw.lookup key).map nullify := by
  rw [lookup, lookup, fields_nullify]
  induction raw.fields with
  | nil => rfl
  | cons field fields ih =>
    rw [nullifyFields, List.lookup_cons, List.lookup_cons, ih]
    split <;> rfl

section Nullify

/-! A check that no float decides, and of an object only the keys, survives the replacement. -/

variable {check : RawJson → Bool} (null : check .null = true)
  (arrays : ∀ items, check (.array (nullifyItems items)) = check (.array items))
  (objects : ∀ fields, check (.object (nullifyFields fields)) = check (.object fields))
include null arrays objects

mutual

theorem everywhere_nullify : ∀ raw : RawJson,
    raw.everywhere check = true → raw.nullify.everywhere check = true
  | .null, holds => holds
  | .boolean _, holds => holds
  | .integer _, holds => holds
  | .float value, holds => by
      unfold nullify
      split
      · exact holds
      · exact null
  | .string _, holds => holds
  | .array items, holds => by
      rw [everywhere, Bool.and_eq_true] at holds
      rw [nullify, everywhere, Bool.and_eq_true, arrays]
      exact ⟨holds.1, everywhereItems_nullify items holds.2⟩
  | .object fields, holds => by
      rw [everywhere, Bool.and_eq_true] at holds
      rw [nullify, everywhere, Bool.and_eq_true, objects]
      exact ⟨holds.1, everywhereFields_nullify fields holds.2⟩

theorem everywhereItems_nullify : ∀ items : List RawJson,
    everywhereItems check items = true → everywhereItems check (nullifyItems items) = true
  | [], _ => rfl
  | item :: items, holds => by
      rw [everywhereItems, Bool.and_eq_true] at holds
      rw [nullifyItems, everywhereItems, Bool.and_eq_true]
      exact ⟨everywhere_nullify item holds.1, everywhereItems_nullify items holds.2⟩

theorem everywhereFields_nullify : ∀ fields : List (Bytes × RawJson),
    everywhereFields check fields = true → everywhereFields check (nullifyFields fields) = true
  | [], _ => rfl
  | field :: fields, holds => by
      rw [everywhereFields, Bool.and_eq_true] at holds
      rw [nullifyFields, everywhereFields, Bool.and_eq_true]
      exact ⟨everywhere_nullify field.2 holds.1, everywhereFields_nullify fields holds.2⟩

end

end Nullify

theorem nullify_canonical (raw : RawJson) (canonical : raw.canonical = true) :
    raw.nullify.canonical = true := by
  refine everywhere_nullify rfl (fun _ => rfl) (fun fields => ?_) raw canonical
  rw [canonicalNode, canonicalNode, nullifyFields_keys]

theorem nullify_validUtf8 (raw : RawJson) (valid : raw.validUtf8 = true) :
    raw.nullify.validUtf8 = true := by
  refine everywhere_nullify rfl (fun _ => rfl) (fun fields => ?_) raw valid
  have keys : ∀ fields : List (Bytes × RawJson), utf8Node (.object fields)
      = (fields.map Prod.fst).all Foundation.validUtf8 := fun fields => by
    rw [List.all_map]
    rfl
  rw [keys, keys, nullifyFields_keys]

mutual

/-- **Only an infinity or a NaN is lost.** -/
theorem nullify_eq_self_iff : ∀ raw : RawJson, raw.nullify = raw ↔ raw.finite = true
  | .null => ⟨fun _ => rfl, fun _ => rfl⟩
  | .boolean _ => ⟨fun _ => rfl, fun _ => rfl⟩
  | .integer _ => ⟨fun _ => rfl, fun _ => rfl⟩
  | .float value => by
      show (if value.isFinite then RawJson.float value else .null) = .float value
        ↔ value.isFinite = true
      by_cases holds : value.isFinite = true
      · simp [holds]
      · simp [holds]
  | .string _ => ⟨fun _ => rfl, fun _ => rfl⟩
  | .array items => by
      rw [nullify, RawJson.array.injEq, nullifyItems_eq_self_iff items]
      exact Iff.rfl
  | .object fields => by
      rw [nullify, RawJson.object.injEq, nullifyFields_eq_self_iff fields]
      exact Iff.rfl

theorem nullifyItems_eq_self_iff : ∀ items : List RawJson,
    nullifyItems items = items ↔ everywhereItems finiteNode items = true
  | [] => ⟨fun _ => rfl, fun _ => rfl⟩
  | item :: items => by
      rw [nullifyItems, List.cons.injEq, everywhereItems, Bool.and_eq_true,
        nullify_eq_self_iff item, nullifyItems_eq_self_iff items]
      exact Iff.rfl

theorem nullifyFields_eq_self_iff : ∀ fields : List (Bytes × RawJson),
    nullifyFields fields = fields ↔ everywhereFields finiteNode fields = true
  | [] => ⟨fun _ => rfl, fun _ => rfl⟩
  | (key, value) :: fields => by
      rw [nullifyFields, List.cons.injEq, Prod.mk.injEq, everywhereFields, Bool.and_eq_true,
        nullify_eq_self_iff value, nullifyFields_eq_self_iff fields]
      exact ⟨fun both => ⟨both.1.2, both.2⟩, fun both => ⟨⟨rfl, both.1⟩, both.2⟩⟩

end

end RawJson

end DemoDaemon
