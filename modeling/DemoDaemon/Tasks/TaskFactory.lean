/-
**The task factory and the creators of the built-in tasks** (`task_factory.cpp`).

A creator reads its time as an `int` number of seconds, by a conversion that takes any number and
any boolean, and builds a task with as many milliseconds times a thousand.

* `TaskFactory`, `registerTask`, `createTask`; `builtinTaskFactory` is the factory after
  `BuiltinTaskRegistrar`. **`createTask_given`**: what it creates for a built-in type
  and a time that is given.
* `Double.units`: a finite double as a multiple of the smallest one, and **`truncated_of_units`**:
  the conversion is exact where the double is a whole number.
* **`timing_exact_iff`**: the time is taken exactly for the whole numbers that are an `int`, and the
  heartbeat cannot spin only for the positive ones among them.
-/

import DemoDaemon.Tasks.Builtin

/-! ### Doubles that are whole numbers -/

namespace DemoDaemon.Double

/-- The smallest positive double is `2 ^ -1074`. -/
def lowest : Nat := 1074

/-- How often the smallest positive double goes into one. -/
def unitsPerOne : Nat := 2 ^ lowest

theorem unitsPerOne_pos : 0 < unitsPerOne := Nat.two_pow_pos lowest

/-- The magnitude of a finite double, in those units. -/
def magnitude (value : Double) : Nat :=
  if value.exponent = 0 then value.mantissa
  else (2 ^ 52 + value.mantissa) * 2 ^ (value.exponent - 1)

/-- A finite double in those units. -/
def units (value : Double) : Int :=
  if value.isNegative then -(value.magnitude : Int) else value.magnitude

/-- **The conversion drops the fraction** and nothing else. -/
theorem truncatedMagnitude_eq (value : Double) :
    value.truncatedMagnitude = value.magnitude / unitsPerOne := by
  have small : value.mantissa < 2 ^ 52 := Nat.mod_lt _ (by decide)
  have split : ∀ low high, low + high = lowest → unitsPerOne = 2 ^ low * 2 ^ high := by
    intro low high sum
    rw [← Nat.pow_add, sum]
    rfl
  unfold truncatedMagnitude magnitude
  by_cases zero : value.exponent = 0
  · have below : ∀ high, 52 + high = lowest → value.mantissa < unitsPerOne := by
      intro high sum
      rw [split 52 high sum]
      exact Nat.lt_of_lt_of_le small (Nat.le_mul_of_pos_right _ (Nat.two_pow_pos high))
    rw [if_pos zero, if_pos zero, Nat.div_eq_of_lt (below 1022 rfl)]
  · rw [if_neg zero, if_neg zero]
    by_cases fraction : value.exponent < 1075
    · have whole : 1075 - value.exponent + (value.exponent - 1) = lowest := by
        unfold lowest
        omega
      rw [if_pos fraction, split (1075 - value.exponent) (value.exponent - 1) whole,
        Nat.mul_div_mul_right _ _ (Nat.two_pow_pos _)]
    · have scale : 2 ^ (value.exponent - 1) = 2 ^ (value.exponent - 1075) * unitsPerOne := by
        rw [unitsPerOne, ← Nat.pow_add, lowest]
        congr 1
        omega
      rw [if_neg fraction, scale, ← Nat.mul_assoc, Nat.mul_div_cancel _ unitsPerOne_pos]

/-- A whole number is converted exactly. -/
theorem truncated_of_units {value : Double} {number : Int}
    (whole : value.units = number * unitsPerOne) : value.truncated = number := by
  have positive : (unitsPerOne : Int) ≠ 0 := Int.natCast_ne_zero.mpr unitsPerOne_pos.ne'
  unfold units at whole
  unfold truncated
  rw [truncatedMagnitude_eq, Int.natCast_ediv]
  by_cases negative : value.isNegative = true
  · rw [if_pos negative] at whole ⊢
    rw [← Int.neg_eq_comm.mp whole, ← Int.neg_mul, Int.mul_ediv_cancel _ positive, Int.neg_neg]
  · rw [if_neg negative] at whole ⊢
    rw [whole, Int.mul_ediv_cancel _ positive]

end DemoDaemon.Double

namespace DemoDaemon.Tasks

open Foundation

/-! ### The model -/

/-- `CreatorFunc`. The counters behind the ids are the state it shares with the constructors. -/
def Creator := Counters → Json → Except Exn (Option BuiltinTask) × Counters

/-- `creators_`. -/
structure TaskFactory where
  creators : List (Bytes × Creator)

namespace TaskFactory

/-- The first registration of a name stays. -/
def registerTask (factory : TaskFactory) (typeName : Bytes) (creator : Creator) :
    Bool × TaskFactory :=
  if (factory.creators.lookup typeName).isSome then (false, factory)
  else (true, ⟨factory.creators ++ [(typeName, creator)]⟩)

/-- A null pointer for a name that is not registered. -/
def createTask (factory : TaskFactory) (typeName : Bytes) (params : Json) (counters : Counters) :
    Except Exn (Option BuiltinTask) × Counters :=
  match factory.creators.lookup typeName with
  | none => (.ok none, counters)
  | some creator => creator counters params

end TaskFactory

/-- A creator that reads a number of seconds off the parameters. -/
def secondsCreator (name : Bytes) (initial : Int32)
    (construct : Counters → Int → Except Exn (Option BuiltinTask) × Counters) : Creator :=
  fun counters params =>
    match params.find name with
    | none => construct counters (1000 * initial.toInt)
    | some given =>
      match given.getInt with
      | .error error => (.error error, counters)
      | .ok seconds => construct counters (1000 * seconds.toInt)

/-- The creator of `"heartbeat"`. -/
def heartbeatCreator : Creator := secondsCreator (ascii "interval") 5 HeartbeatTask.factory

/-- The creator of `"sleep"`. -/
def sleepCreator : Creator := secondsCreator (ascii "duration") 10 SleepTask.factory

/-- `BuiltinTaskRegistrar`. -/
def builtinTaskFactory : TaskFactory :=
  ((TaskFactory.mk []).registerTask (ascii "heartbeat") heartbeatCreator).2.registerTask
    (ascii "sleep") sleepCreator |>.2

/-- The parameter that gives the time. -/
def Kind.timeParameter : Kind → Bytes
  | .heartbeat => ascii "interval"
  | .sleep => ascii "duration"


/-! ### What is created -/

/-- The counter behind the ids of a kind. -/
def Counters.number (counters : Counters) : Kind → UInt64
  | .heartbeat => counters.heartbeat
  | .sleep => counters.sleep

/-- Both names are registered. -/
theorem lookup_builtin (kind : Kind) :
    builtinTaskFactory.creators.lookup kind.name = some (match kind with
      | .heartbeat => heartbeatCreator
      | .sleep => sleepCreator) := by
  cases kind <;> rfl

/-- **What a creator makes of a time it is given.** -/
theorem createTask_given (kind : Kind) {params given : Json} (counters : Counters)
    (found : params.find kind.timeParameter = some given) :
    (builtinTaskFactory.createTask kind.name params counters).1 =
      given.getInt.map fun seconds =>
        some (.create kind (counters.number kind) (1000 * seconds.toInt)) := by
  have created : ∀ initial construct, (∀ period, (construct counters period).1
        = .ok (some (.create kind (counters.number kind) period))) →
      (secondsCreator kind.timeParameter initial construct counters params).1 =
        given.getInt.map fun seconds =>
          some (.create kind (counters.number kind) (1000 * seconds.toInt)) := by
    intro initial construct makes
    simp only [secondsCreator, found]
    cases given.getInt with
    | error error => rfl
    | ok seconds => exact makes _
  rw [TaskFactory.createTask, lookup_builtin]
  cases kind with
  | heartbeat => exact created 5 HeartbeatTask.factory fun _ => rfl
  | sleep => exact created 10 SleepTask.factory fun _ => rfl

/-! ### Exact times -/

/-- A number of milliseconds is exactly a JSON number of seconds. -/
def IsSeconds (given : Json) (period : Int) : Prop :=
  match given.raw with
  | .integer value => period = 1000 * value
  | .float value => value.isFinite = true ∧ period * Double.unitsPerOne = 1000 * value.units
  | _ => False

/-- The creator fails, or takes the time exactly and leaves no heartbeat to spin. -/
def TakenExactly (kind : Kind) (params given : Json) (counters : Counters) : Prop :=
  (∃ error, (builtinTaskFactory.createTask kind.name params counters).1 = .error error) ∨
  ∃ task, (builtinTaskFactory.createTask kind.name params counters).1 = .ok (some task) ∧
    IsSeconds given task.period ∧ (kind = .heartbeat → 0 < task.period)

/-- A whole number of seconds that is an `int`, positive for a heartbeat; or a value that is no
number and no boolean. -/
def ExactTime (kind : Kind) (given : Json) : Prop :=
  match given.raw with
  | .integer value => -2 ^ 31 ≤ value ∧ value < 2 ^ 31 ∧ (kind = .heartbeat → 0 < value)
  | .float value => value.isFinite = true ∧ ∃ number : Int,
      value.units = number * Double.unitsPerOne ∧ -2 ^ 31 ≤ number ∧ number < 2 ^ 31 ∧
        (kind = .heartbeat → 0 < number)
  | .boolean _ => False
  | _ => True

/-- The period that a conversion leads to. -/
theorem takenExactly_iff_of_ok {kind : Kind} {params given : Json} {counters : Counters}
    {seconds : Int32} (found : params.find kind.timeParameter = some given)
    (read : given.getInt = .ok seconds) :
    TakenExactly kind params given counters ↔
      IsSeconds given (1000 * seconds.toInt) ∧ (kind = .heartbeat → 0 < seconds.toInt) := by
  have created := createTask_given kind counters found
  rw [read] at created
  rw [TakenExactly, created]
  constructor
  · rintro (⟨error, failed⟩ | ⟨task, made, exactly, beats⟩)
    · cases failed
    · cases made
      refine ⟨exactly, fun heartbeat => ?_⟩
      have positive : 0 < 1000 * seconds.toInt := beats heartbeat
      omega
  · rintro ⟨exactly, beats⟩
    refine Or.inr ⟨_, rfl, exactly, fun heartbeat => ?_⟩
    have positive := beats heartbeat
    show 0 < 1000 * seconds.toInt
    omega

/-- **Times are taken exactly** for the whole numbers in range, and only those. -/
theorem timing_exact_iff (kind : Kind) (params given : Json) (counters : Counters)
    (found : params.find kind.timeParameter = some given) :
    TakenExactly kind params given counters ↔ ExactTime kind given := by
  have refused : ∀ error, given.getInt = .error error →
      TakenExactly kind params given counters := by
    intro error failed
    refine Or.inl ⟨error, ?_⟩
    rw [createTask_given kind counters found, failed]
    rfl
  unfold ExactTime
  cases shape : given.raw with
  | null | string text | array items | object fields =>
    refine iff_of_true (refused (given.typeError302 "number") ?_) trivial
    simp only [Json.getInt, shape]
  | boolean value =>
    refine iff_of_false ?_ id
    have read : given.getInt = .ok (if value then 1 else 0) := by simp only [Json.getInt, shape]
    rw [takenExactly_iff_of_ok found read, IsSeconds, shape]
    exact fun taken => taken.1
  | integer value =>
    have read : given.getInt = .ok (Int32.ofInt value) := by simp only [Json.getInt, shape]
    rw [takenExactly_iff_of_ok found read, IsSeconds, shape]
    constructor
    · rintro ⟨exactly, beats⟩
      have same : (Int32.ofInt value).toInt = value := by omega
      have lower := (Int32.ofInt value).le_toInt
      have upper := (Int32.ofInt value).toInt_lt
      rw [same] at lower upper beats
      exact ⟨lower, upper, beats⟩
    · rintro ⟨lower, upper, beats⟩
      rw [Int32.toInt_ofInt_of_le lower upper]
      exact ⟨rfl, beats⟩
  | float value =>
    have read : given.getInt = .ok (Int32.ofInt value.truncated) := by
      simp only [Json.getInt, shape]
    rw [takenExactly_iff_of_ok found read, IsSeconds, shape]
    set seconds := Int32.ofInt value.truncated with converted
    constructor
    · rintro ⟨⟨finite, exactly⟩, beats⟩
      refine ⟨finite, seconds.toInt, ?_, seconds.le_toInt, seconds.toInt_lt, beats⟩
      rw [Int.mul_assoc] at exactly
      exact (Int.eq_of_mul_eq_mul_left (by decide) exactly).symm
    · rintro ⟨finite, number, whole, lower, upper, beats⟩
      have same : seconds.toInt = number := by
        rw [converted, Double.truncated_of_units whole, Int32.toInt_ofInt_of_le lower upper]
      rw [same]
      exact ⟨⟨finite, by rw [whole, Int.mul_assoc]⟩, beats⟩

/-- An interval of 7 s is taken exactly. -/
theorem timing_exact_seven :
    TakenExactly .heartbeat (Json.emptyObject.set (ascii "interval") (Json.ofInt32 7))
      (Json.ofInt32 7) ⟨0, 0⟩ :=
  (timing_exact_iff .heartbeat _ (Json.ofInt32 7) ⟨0, 0⟩ (Json.find_set_same _ _ _)).mpr (by
    show -2 ^ 31 ≤ (7 : Int32).toInt ∧ (7 : Int32).toInt < 2 ^ 31 ∧
      (Kind.heartbeat = .heartbeat → 0 < (7 : Int32).toInt)
    decide)

/-- An interval of `2 ^ 32 + 5` s becomes one of 5 s, and an interval of 0 s is accepted. -/
theorem timing_not_exact :
    (¬ TakenExactly .heartbeat (Json.emptyObject.set (ascii "interval") (Json.ofInt32 0))
      (Json.ofInt32 0) ⟨0, 0⟩) ∧
    ¬ ∀ (kind : Kind) (params given : Json) (counters : Counters),
      params.find kind.timeParameter = some given → TakenExactly kind params given counters := by
  constructor
  · intro taken
    obtain ⟨-, beats⟩ :=
      (takenExactly_iff_of_ok (Json.find_set_same _ _ _) (Json.getInt_ofInt32 0)).mp taken
    exact absurd (beats rfl) (by decide)
  · intro always
    have taken := always .heartbeat
      (Json.emptyObject.set (ascii "interval") (Json.ofUInt64 4294967301))
      (Json.ofUInt64 4294967301) ⟨0, 0⟩ (Json.find_set_same _ _ _)
    have read : (Json.ofUInt64 4294967301).getInt = .ok 5 := rfl
    have exactly : 1000 * (5 : Int32).toInt = 1000 * ((4294967301 : UInt64).toNat : Int) :=
      ((takenExactly_iff_of_ok (Json.find_set_same _ _ _) read).mp taken).1
    exact absurd exactly (by decide)

end DemoDaemon.Tasks
