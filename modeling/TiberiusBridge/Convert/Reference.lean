import TiberiusBridge.Convert.Libraries
import TiberiusBridge.Tds.Reference

/-!
# A reference instance of the value libraries

Dates by their day number, times by their seconds and nanoseconds, decimals by
mantissa and scale. JSON is read back only where it is a keyword.
-/
namespace TiberiusBridge.Reference

def isLeapYear (year : Int) : Bool :=
  year % 4 = 0 && (year % 100 != 0 || year % 400 = 0)

def monthLength (year : Int) : Nat → Nat
  | 2 => if isLeapYear year then 29 else 28
  | 4 | 6 | 9 | 11 => 30
  | month => if 1 ≤ month && month ≤ 12 then 31 else 0

/-- The proleptic Gregorian day number, 1 on 0001-01-01. -/
def dayNumber (year : Int) (month day : Nat) : Int :=
  let years := year - 1
  let months := (List.range (month - 1)).foldl (fun n i => n + monthLength year (i + 1)) 0
  years * 365 + years / 4 - years / 100 + years / 400 + months + day

def dateOfDayNumber (n : Int) : Option { n : Int // firstChronoDay ≤ n ∧ n ≤ lastChronoDay } :=
  if h : firstChronoDay ≤ n ∧ n ≤ lastChronoDay then some ⟨n, h⟩ else none

theorem dateOfDayNumber_eq_iff (n : Int)
    (d : { n : Int // firstChronoDay ≤ n ∧ n ≤ lastChronoDay }) :
    dateOfDayNumber n = some d ↔ d.val = n := by
  unfold dateOfDayNumber
  constructor
  · intro h
    split at h <;> cases h
    rfl
  · rintro rfl
    exact dif_pos d.property

scoped instance chrono : Chrono where
  NaiveDate := { n : Int // firstChronoDay ≤ n ∧ n ≤ lastChronoDay }
  NaiveTime := { t : Nat × Nat // t.1 < 86400 ∧ t.2 < 2 * 10 ^ 9 }
  FixedOffset := { s : Int // -86400 < s ∧ s < 86400 }
  numDaysFromCe d := d.val
  fromNumDaysFromCeOpt := dateOfDayNumber
  fromYmdOpt year month day :=
    if 1 ≤ day ∧ day ≤ monthLength year month then dateOfDayNumber (dayNumber year month day)
    else none
  checkedAddDays d n := dateOfDayNumber (d.val + n)
  numSecondsFromMidnight t := t.val.1
  nanosecond t := t.val.2
  fromNumSecondsFromMidnightOpt secs nanos :=
    if h : (secs < 86400 ∧ nanos < 2 * 10 ^ 9) ∧ (nanos < 10 ^ 9 ∨ secs % 60 = 59) then
      some ⟨(secs, nanos), h.1⟩
    else none
  localMinusUtc o := o.val
  eastOpt secs := if h : -86400 < secs ∧ secs < 86400 then some ⟨secs, h⟩ else none
  defaultDate := ⟨719163, by decide⟩
  defaultTime := ⟨(0, 0), by decide⟩
  defaultOffset := ⟨0, by decide⟩
  date_eq_iff := dateOfDayNumber_eq_iff
  date_range n := ⟨fun ⟨d, hd⟩ => hd ▸ d.property, fun h => ⟨⟨n, h⟩, rfl⟩⟩
  add_days _ _ := rfl
  ymd_1900 := by decide
  time_eq_iff s n t := by
    constructor
    · intro h
      split at h
      · next hr =>
        cases h
        exact ⟨⟨rfl, rfl⟩, hr.2⟩
      · cases h
    · rintro ⟨⟨rfl, rfl⟩, h⟩
      exact dif_pos ⟨t.property, h⟩
  time_range s n := by
    constructor
    · rintro ⟨t, rfl, rfl⟩
      exact t.property
    · intro h
      exact ⟨⟨(s, n), h⟩, rfl, rfl⟩
  offset_eq_iff s o := by
    constructor
    · intro h
      split at h <;> cases h
      rfl
    · rintro rfl
      exact dif_pos o.property
  offset_range s := ⟨fun ⟨o, ho⟩ => ho ▸ o.property, fun h => ⟨⟨s, h⟩, rfl⟩⟩
  defaultDate_day := rfl
  defaultTime_midnight := ⟨rfl, rfl⟩
  defaultOffset_utc := rfl

abbrev RustDecimalParts := { d : Int × Nat // d.1.natAbs < 2 ^ 96 ∧ d.2 ≤ 28 }

def zeroDecimal : RustDecimalParts := ⟨(0, 0), by decide⟩

def ofMantissa (mantissa : Int) (scale : Nat) : Option RustDecimalParts :=
  if h : mantissa.natAbs < 2 ^ 96 ∧ scale ≤ 28 then some ⟨(mantissa, scale), h⟩ else none

def decimalText (d : RustDecimalParts) : String :=
  let digits := (toString d.val.1.natAbs).toList
  let padded := List.replicate (d.val.2 + 1 - digits.length) '0' ++ digits
  let whole := padded.take (padded.length - d.val.2)
  let fraction := padded.drop (padded.length - d.val.2)
  (if d.val.1 < 0 then "-" else "") ++ String.ofList whole ++
    (if fraction.isEmpty then "" else "." ++ String.ofList fraction)

def parseDecimal (s : String) : Option RustDecimalParts :=
  let negative := s.toList.head? = some '-'
  let unsigned := if negative then s.toList.drop 1 else s.toList
  let whole := unsigned.takeWhile Char.isDigit
  let fraction := unsigned.drop (whole.length + 1)
  match String.toNat? (String.ofList (whole ++ fraction)) with
  | none => none
  | some n => ofMantissa (if negative then -(n : Int) else n) fraction.length

scoped instance rustDecimal : RustDecimal where
  Decimal := RustDecimalParts
  toString := decimalText
  parse := parseDecimal
  scale d := d.val.2
  mantissa d := d.val.1
  ofParts mantissa scale := (ofMantissa mantissa scale).getD zeroDecimal
  zero := zeroDecimal
  mantissa_lt d := d.property.1
  scale_le d := d.property.2

scoped instance jsonNumbers : JsonNumbers where
  Number := Int64 ⊕ F64
  asI64
    | .inl v => some v
    | .inr _ => none
  asF64
    | .inl v => some ⟨(Float.ofInt v.toInt).toBits⟩
    | .inr v => some v

def quote (s : String) : String :=
  let mark := String.singleton (Char.ofNat 34)
  mark ++ s ++ mark

mutual

def jsonText : JsonValue → String
  | .null => "null"
  | .bool v => toString v
  | .number (.inl v) => toString v.toInt
  | .number (.inr v) => toString (Float.ofBits v.bits)
  | .string s => quote s
  | .array vs => "[" ++ ",".intercalate (jsonTexts vs) ++ "]"
  | .object fields =>
    let members := ",".intercalate (jsonMembers fields)
    "\x7b" ++ members ++ "\x7d"

def jsonTexts : List JsonValue → List String
  | [] => []
  | v :: vs => jsonText v :: jsonTexts vs

def jsonMembers : List (String × JsonValue) → List String
  | [] => []
  | (name, v) :: fields => (quote name ++ ":" ++ jsonText v) :: jsonMembers fields

end

scoped instance serdeJson : SerdeJson where
  text := jsonText
  fromStr
    | "null" => some .null
    | "true" => some (.bool true)
    | "false" => some (.bool false)
    | _ => none

end TiberiusBridge.Reference
