import Mathlib.Tactic.Ring
import TiberiusBridge.Tds.Values

/-!
# The value libraries

`chrono`, `rust_decimal` and `serde_json`, and with their features `time` and
`jiff`, are not part of the repository. What the bridge calls of them is a
parameter, with the documented behaviour it relies on as fields of the class;
their plain records are written out.
-/
namespace TiberiusBridge

/-- Day 1 is 0001-01-01. `NaiveDate::MIN` is January 1, 262144 BCE. -/
def firstChronoDay : Int := -95746129

/-- `NaiveDate::MAX`, December 31, 262142 CE. -/
def lastChronoDay : Int := 95745399

class Chrono where
  NaiveDate : Type
  NaiveTime : Type
  FixedOffset : Type
  numDaysFromCe : NaiveDate → Int
  fromNumDaysFromCeOpt : Int → Option NaiveDate
  fromYmdOpt : Int → Nat → Nat → Option NaiveDate
  /-- `checked_add_signed(Duration::days(n))`. -/
  checkedAddDays : NaiveDate → Int → Option NaiveDate
  numSecondsFromMidnight : NaiveTime → Nat
  /-- At least 1,000,000,000 within a leap second. -/
  nanosecond : NaiveTime → Nat
  fromNumSecondsFromMidnightOpt : Nat → Nat → Option NaiveTime
  localMinusUtc : FixedOffset → Int
  eastOpt : Int → Option FixedOffset
  defaultDate : NaiveDate
  defaultTime : NaiveTime
  defaultOffset : FixedOffset
  date_eq_iff : ∀ n d, fromNumDaysFromCeOpt n = some d ↔ numDaysFromCe d = n
  date_range : ∀ n, (∃ d, numDaysFromCe d = n) ↔ firstChronoDay ≤ n ∧ n ≤ lastChronoDay
  add_days : ∀ d n, checkedAddDays d n = fromNumDaysFromCeOpt (numDaysFromCe d + n)
  ymd_1900 : (fromYmdOpt 1900 1 1).map numDaysFromCe = some 693596
  /-- The constructor refuses a leap second except in the last second of a minute. -/
  time_eq_iff : ∀ s n t, fromNumSecondsFromMidnightOpt s n = some t ↔
    (numSecondsFromMidnight t = s ∧ nanosecond t = n) ∧ (n < 10 ^ 9 ∨ s % 60 = 59)
  time_range : ∀ s n, (∃ t, numSecondsFromMidnight t = s ∧ nanosecond t = n) ↔
    s < 86400 ∧ n < 2 * 10 ^ 9
  offset_eq_iff : ∀ s o, eastOpt s = some o ↔ localMinusUtc o = s
  offset_range : ∀ s, (∃ o, localMinusUtc o = s) ↔ -86400 < s ∧ s < 86400
  /-- 1970-01-01. -/
  defaultDate_day : numDaysFromCe defaultDate = 719163
  defaultTime_midnight : numSecondsFromMidnight defaultTime = 0 ∧ nanosecond defaultTime = 0
  defaultOffset_utc : localMinusUtc defaultOffset = 0

export Chrono (NaiveDate NaiveTime FixedOffset)

section

variable [Chrono]

structure NaiveDateTime where
  date : NaiveDate
  time : NaiveTime

/-- The offset of `DateTime<Utc>`. -/
inductive Utc
  | utc
  deriving DecidableEq, Repr

/-- `DateTime<Tz>`, an instant in UTC and an offset. -/
structure DateTime (Offset : Type) where
  naiveUtc : NaiveDateTime
  offset : Offset

def NaiveDateTime.default : NaiveDateTime := ⟨Chrono.defaultDate, Chrono.defaultTime⟩

theorem seconds_lt (t : NaiveTime) : Chrono.numSecondsFromMidnight t < 86400 :=
  ((Chrono.time_range _ _).mp ⟨t, rfl, rfl⟩).1

theorem nanosecond_lt (t : NaiveTime) : Chrono.nanosecond t < 2 * 10 ^ 9 :=
  ((Chrono.time_range _ _).mp ⟨t, rfl, rfl⟩).2

theorem day_range (d : NaiveDate) :
    firstChronoDay ≤ Chrono.numDaysFromCe d ∧ Chrono.numDaysFromCe d ≤ lastChronoDay :=
  (Chrono.date_range _).mp ⟨d, rfl⟩

theorem offset_range (o : FixedOffset) :
    -86400 < Chrono.localMinusUtc o ∧ Chrono.localMinusUtc o < 86400 :=
  (Chrono.offset_range _).mp ⟨o, rfl⟩

theorem offset_ext {o o' : FixedOffset}
    (h : Chrono.localMinusUtc o = Chrono.localMinusUtc o') : o = o' := by
  have h₁ : Chrono.eastOpt (Chrono.localMinusUtc o') = some o := (Chrono.offset_eq_iff _ _).mpr h
  have h₂ : Chrono.eastOpt (Chrono.localMinusUtc o') = some o' :=
    (Chrono.offset_eq_iff _ _).mpr rfl
  exact Option.some.inj (h₁.symm.trans h₂)

theorem exists_offset {s : Int} (h : -86400 < s ∧ s < 86400) :
    ∃ o, Chrono.eastOpt s = some o ∧ Chrono.localMinusUtc o = s := by
  obtain ⟨o, ho⟩ := (Chrono.offset_range s).mpr h
  exact ⟨o, (Chrono.offset_eq_iff s o).mpr ho, ho⟩

theorem no_offset {s : Int} (h : s ≤ -86400 ∨ 86400 ≤ s) : Chrono.eastOpt s = none := by
  cases ho : Chrono.eastOpt s with
  | none => rfl
  | some o =>
    have hs := (Chrono.offset_eq_iff s o).mp ho
    have hr := offset_range o
    omega

end

class RustDecimal where
  Decimal : Type
  /-- `Display`. -/
  toString : Decimal → String
  /-- `str::parse`. -/
  parse : String → Option Decimal
  scale : Decimal → Nat
  mantissa : Decimal → Int
  /-- `Decimal::new`. -/
  ofParts : Int → Nat → Decimal
  zero : Decimal
  /-- The mantissa has 96 bits. -/
  mantissa_lt : ∀ d, (mantissa d).natAbs < 2 ^ 96
  scale_le : ∀ d, scale d ≤ 28

export RustDecimal (Decimal)

class JsonNumbers where
  Number : Type
  asI64 : Number → Option Int64
  asF64 : Number → Option F64

inductive JsonValue [JsonNumbers]
  | null
  | bool (v : Bool)
  | number (v : JsonNumbers.Number)
  | string (v : String)
  | array (vs : List JsonValue)
  | object (fields : List (String × JsonValue))

class SerdeJson [JsonNumbers] where
  /-- `Display`. -/
  text : JsonValue → String
  /-- `serde_json::from_str`. -/
  fromStr : String → Option JsonValue

end TiberiusBridge
