import TiberiusBridge.Convert.Compat
import TiberiusBridge.Convert.DecimalText

/-!
# Decimals through text

A `Decimal` is sent, and read back, through the text of a numeral. Sending is
exact. Reading rounds a value that has too many digits for 96 bits and a scale
of 28.
-/
namespace TiberiusBridge

open Lib (Numeral)

section

variable [MssqlTds] [RustDecimal]

/-- The digits that a `Decimal` is stored with at first, a leading zero not counted. -/
def RustDecimal.digits (d : Decimal) : Nat :=
  max (Nat.toDigits 10 (RustDecimal.mantissa d).natAbs).length (RustDecimal.scale d)

theorem ToSql.decimal_eq (d : Decimal) :
    ToSql.decimal d = .ok (ToSql.decimalToSqlType (RustDecimal.toString d)
      (RustDecimal.digits d) (RustDecimal.scale d)) := by
  unfold RustDecimal.digits
  have hdigits := RustDecimal.digits_le d
  have hscale := RustDecimal.scale_le d
  rw [Numeral.length_toDigits] at hdigits ⊢
  have htry := Lib.tryUnsigned_some (w := 8)
    (n := ((Nat.log 10 (RustDecimal.mantissa d).natAbs + 1 : Nat) : Int)) (by omega)
  rw [Int.toNat_natCast] at htry
  simp only [ToSql.decimal, htry, Lib.Compute.expect_some, Lib.Compute.ok_bind,
    Lib.asUnsigned_of_lt (show RustDecimal.scale d < 2 ^ 8 by omega), Lib.Compute.pure_eq]

/-- The precision of whichever attempt succeeds. -/
def ToSql.storedPrecision (decimalStr : String) (precision scale : Nat) : Nat :=
  match MssqlTds.decimalFromString decimalStr precision scale with
  | .ok _ => precision
  | .error _ => 38

omit [RustDecimal] in
theorem ToSql.storedPrecision_cases (decimalStr : String) (precision scale : Nat) :
    storedPrecision decimalStr precision scale = precision ∨
      storedPrecision decimalStr precision scale = 38 := by
  unfold storedPrecision
  split
  · exact Or.inl rfl
  · exact Or.inr rfl

variable [DecimalText]

/-- Whichever attempt succeeds, the numeral is stored exactly, and one of them does. -/
theorem ToSql.decimalToSqlType_numeral {n : Numeral} {scale : Nat} (precision : Nat)
    (hfraction : n.fraction.length ≤ scale) (hwhole : n.whole.length + scale ≤ 38) :
    ∃ p, ToSql.decimalToSqlType n.text precision scale = .numeric (some p) ∧
      DecimalText.value p = n.value ∧ MssqlTds.scale p = scale ∧
      MssqlTds.precision p = ToSql.storedPrecision n.text precision scale := by
  unfold ToSql.decimalToSqlType ToSql.storedPrecision
  cases hfirst : MssqlTds.decimalFromString n.text precision scale with
  | ok p =>
    obtain ⟨hvalue, hprecision, hscale⟩ :=
      DecimalText.fromString_exact n precision scale p hfraction hfirst
    exact ⟨p, rfl, hvalue, hscale, hprecision⟩
  | error e =>
    -- a leading zero may not have fitted; 38 digits always leave room for it
    obtain ⟨p, hretry⟩ := DecimalText.fromString_ok n 38 scale hwhole hfraction le_rfl
    obtain ⟨hvalue, hprecision, hscale⟩ :=
      DecimalText.fromString_exact n 38 scale p hfraction hretry
    rw [hretry]
    exact ⟨p, rfl, hvalue, hscale, hprecision⟩

/-- A `Decimal` is stored as it is, at its own scale. -/
theorem ToSql.decimal_exact (d : Decimal) :
    ∃ p, ToSql.decimal d = .ok (.numeric (some p)) ∧
      DecimalText.value p = RustDecimal.value d ∧
      MssqlTds.scale p = RustDecimal.scale d ∧
      MssqlTds.precision p = ToSql.storedPrecision (RustDecimal.toString d)
        (RustDecimal.digits d) (RustDecimal.scale d) := by
  have hdigits := RustDecimal.digits_le d
  have hscale := RustDecimal.scale_le d
  obtain ⟨negative, htext, hsigned⟩ := DecimalText.decimal_display d
  have hfraction := Numeral.ofScaled_fraction_length negative
    (RustDecimal.mantissa d).natAbs (RustDecimal.scale d)
  have hwhole := Numeral.ofScaled_whole_length negative
    (RustDecimal.mantissa d).natAbs (RustDecimal.scale d)
  obtain ⟨p, hp, hvalue, hscale', hprecision⟩ := ToSql.decimalToSqlType_numeral
    (RustDecimal.digits d) hfraction.le (by omega)
  refine ⟨p, ?_, ?_, hscale', ?_⟩
  · rw [ToSql.decimal_eq, htext, hp]
  · rw [hvalue, Numeral.ofScaled_value, hsigned]
    rfl
  · rw [hprecision, htext]

/-- A `Decimal` of at least one is stored in the digits it has. -/
theorem ToSql.storedPrecision_digits {d : Decimal}
    (h : RustDecimal.scale d < (Nat.toDigits 10 (RustDecimal.mantissa d).natAbs).length) :
    ToSql.storedPrecision (RustDecimal.toString d) (RustDecimal.digits d) (RustDecimal.scale d) =
      RustDecimal.digits d := by
  have hdigits := RustDecimal.digits_le d
  have hscale := RustDecimal.scale_le d
  obtain ⟨negative, htext, -⟩ := DecimalText.decimal_display d
  have hfraction := Numeral.ofScaled_fraction_length negative
    (RustDecimal.mantissa d).natAbs (RustDecimal.scale d)
  have hwhole := Numeral.ofScaled_whole_length negative
    (RustDecimal.mantissa d).natAbs (RustDecimal.scale d)
  unfold RustDecimal.digits
  obtain ⟨p, hp⟩ := DecimalText.fromString_ok
    (Numeral.ofScaled negative (RustDecimal.mantissa d).natAbs (RustDecimal.scale d))
    (max (Nat.toDigits 10 (RustDecimal.mantissa d).natAbs).length (RustDecimal.scale d))
    (RustDecimal.scale d) (by omega) hfraction.le (by omega)
  rw [ToSql.storedPrecision, htext, hp]

/-- The decoding gives the stored value, or nothing where that is no `Decimal`. -/
def ExactOrRefused (stored : ℚ) (decoded : Option Decimal) : Prop :=
  (∀ d, decoded = some d → RustDecimal.value d = stored) ∧
    (¬FitsDecimal stored → decoded = none)

theorem FromSql.decimal_reads (p : DecimalParts) :
    ∃ n : Numeral, n.value = DecimalText.value p ∧
      FromSql.decimal (.decimal p) = .ok (RustDecimal.parse n.text) ∧
      FromSql.decimal (.numeric p) = .ok (RustDecimal.parse n.text) := by
  obtain ⟨n, htext, hvalue⟩ := DecimalText.parts_display p
  refine ⟨n, hvalue, ?_, ?_⟩
  · rw [FromSql.decimal, htext]
  · rw [FromSql.decimal, htext]

/-- A text is read exactly or refused unless its value is rounded: where the value is a
`Decimal`, or too large to be rounded to one. -/
theorem parse_exactOrRefused_iff (n : Numeral) :
    ExactOrRefused n.value (RustDecimal.parse n.text) ↔
      FitsDecimal n.value ∨ OverflowsDecimal n.value := by
  constructor
  · rintro ⟨hexact, hrefused⟩
    cases hparse : RustDecimal.parse n.text with
    | none => exact Or.inr ((DecimalText.parse_none_iff n).mp hparse)
    | some d =>
      have hvalue := hexact d hparse
      rw [← hvalue]
      exact Or.inl (RustDecimal.value_fits d)
  · rintro (hfits | hover)
    · obtain ⟨d, hparse, hvalue⟩ := DecimalText.parse_exact n hfits
      refine ⟨?_, fun hnot => absurd hfits hnot⟩
      intro d' hd'
      cases hparse.symm.trans hd'
      exact hvalue
    · rw [(DecimalText.parse_none_iff n).mpr hover]
      exact ⟨by rintro d ⟨⟩, fun _ => rfl⟩

/-- A `Decimal` is never sent as NULL: what is stored is its value, at its scale and in at
least the digits it has, and is read back as an equal `Decimal`. -/
theorem decimal_round_trip (d : Decimal) :
    ∃ p, ToSql.decimal d = .ok (.numeric (some p)) ∧
      DecimalText.value p = RustDecimal.value d ∧
      MssqlTds.scale p = RustDecimal.scale d ∧
      max (Nat.toDigits 10 (RustDecimal.mantissa d).natAbs).length (RustDecimal.scale d) ≤
        MssqlTds.precision p ∧
      MssqlTds.precision p ≤ 38 ∧
      ∃ d', FromSql.decimal (.numeric p) = .ok (some d') ∧
        RustDecimal.value d' = RustDecimal.value d := by
  obtain ⟨p, hp, hvalue, hscale, hprecision⟩ := ToSql.decimal_exact d
  have hdigits := RustDecimal.digits_le d
  have hscale' := RustDecimal.scale_le d
  have hcases := ToSql.storedPrecision_cases (RustDecimal.toString d) (RustDecimal.digits d)
    (RustDecimal.scale d)
  unfold RustDecimal.digits at hcases hprecision
  obtain ⟨n, hn, -, hread⟩ := FromSql.decimal_reads p
  have hfits : FitsDecimal n.value := by
    rw [hn, hvalue]
    exact RustDecimal.value_fits d
  obtain ⟨d', hparse, hd'⟩ := DecimalText.parse_exact n hfits
  refine ⟨p, hp, hvalue, hscale, by omega, by omega, d', ?_, ?_⟩
  · rw [hread, hparse]
  · rw [hd', hn, hvalue]

/-- The compatibility decoder gives the stored value, or a conversion error. -/
def CompatExactOrRefused (stored : ℚ) (decoded : Result (Option Decimal)) : Prop :=
  (∀ d, decoded = .ok (some d) → RustDecimal.value d = stored) ∧
    (¬FitsDecimal stored → ∃ message, decoded = .error (.conversion message))

omit [DecimalText] in
theorem Compat.decimal_some {p : DecimalParts} {d : Decimal}
    (h : FromSql.decimal (.numeric p) = .ok (some d)) :
    Compat.decimal (.numeric (some p)) = .ok (.ok (some d)) :=
  decodeOwned_some (show (ColumnData.numeric (some p)).intoColumnValue = .ok (.numeric p) from rfl)
    (by rintro ⟨⟩) h

omit [DecimalText] in
theorem Compat.decimal_none {p : DecimalParts}
    (h : FromSql.decimal (.numeric p) = .ok none) :
    Compat.decimal (.numeric (some p)) = .ok (.error (.conversion
      (.cannotInterpretCell (.numeric p) "rust_decimal::decimal::Decimal"))) := by
  show decodeOwned _ FromSql.decimal (.numeric (some p)) = _
  simp only [decodeOwned, ColumnData.intoColumnValue, h, Lib.Compute.ok_bind]
  rfl

theorem compatExactOrRefused_iff {p : DecimalParts} {decoded : Option Decimal}
    {compat : Result (Option Decimal)} (h : FromSql.decimal (.numeric p) = .ok decoded)
    (hcompat : Compat.decimal (.numeric (some p)) = .ok compat) :
    CompatExactOrRefused (DecimalText.value p) compat ↔
      ExactOrRefused (DecimalText.value p) decoded := by
  cases decoded with
  | none =>
    cases (Compat.decimal_none h).symm.trans hcompat
    exact iff_of_true ⟨by rintro d ⟨⟩, fun _ => ⟨_, rfl⟩⟩ ⟨by rintro d ⟨⟩, fun _ => rfl⟩
  | some d =>
    cases (Compat.decimal_some h).symm.trans hcompat
    constructor
    · rintro ⟨hexact, hrefused⟩
      refine ⟨?_, fun hnot => ?_⟩
      · rintro d' ⟨⟩
        exact hexact d rfl
      · obtain ⟨message, hmessage⟩ := hrefused hnot
        cases hmessage
    · rintro ⟨hexact, hrefused⟩
      refine ⟨?_, fun hnot => ?_⟩
      · rintro d' ⟨⟩
        exact hexact d rfl
      · cases hrefused hnot

/-- The stored decimals that are read exactly or refused: those that are a `Decimal`, and those
too large to be rounded to one. Any other is rounded. -/
structure DecimalsExact : Prop where
  native : ∀ p cell, cell = .decimal p ∨ cell = .numeric p →
    ∃ decoded, FromSql.decimal cell = .ok decoded ∧
      (ExactOrRefused (DecimalText.value p) decoded ↔
        FitsDecimal (DecimalText.value p) ∨ OverflowsDecimal (DecimalText.value p))
  compat : ∀ p, ∃ decoded, Compat.decimal (.numeric (some p)) = .ok decoded ∧
    (CompatExactOrRefused (DecimalText.value p) decoded ↔
      FitsDecimal (DecimalText.value p) ∨ OverflowsDecimal (DecimalText.value p))

theorem decimals_exact : DecimalsExact := by
  constructor
  · intro p cell hcell
    obtain ⟨n, hn, hdecimal, hnumeric⟩ := FromSql.decimal_reads p
    refine ⟨RustDecimal.parse n.text, ?_, ?_⟩
    · rcases hcell with rfl | rfl
      · exact hdecimal
      · exact hnumeric
    · rw [← hn]
      exact parse_exactOrRefused_iff n
  · intro p
    obtain ⟨n, hn, -, hnumeric⟩ := FromSql.decimal_reads p
    have hiff := parse_exactOrRefused_iff n
    rw [hn] at hiff
    cases hparse : RustDecimal.parse n.text with
    | none =>
      rw [hparse] at hnumeric hiff
      have hcompat := Compat.decimal_none hnumeric
      exact ⟨_, hcompat, (compatExactOrRefused_iff hnumeric hcompat).trans hiff⟩
    | some d =>
      rw [hparse] at hnumeric hiff
      have hcompat := Compat.decimal_some hnumeric
      exact ⟨_, hcompat, (compatExactOrRefused_iff hnumeric hcompat).trans hiff⟩

end

section

open NumeralReference

/-- 10⁻²⁹ needs a scale of 29. It is read as zero. -/
theorem decimals_exact_tiny :
    ∃ decoded, FromSql.decimal (.numeric ⟨false, 1, 38, 29⟩) = .ok decoded ∧
      ¬ExactOrRefused (DecimalText.value ⟨false, 1, 38, 29⟩) decoded := by
  refine ⟨some ⟨(0, 28), by decide⟩, ?_, ?_⟩
  · show Except.ok ((Numeral.read (Numeral.ofScaled false 1 29).text).bind decimalOfNumeral) = _
    rw [Numeral.read_text, Option.bind_some, decimalOfNumeral, Numeral.ofScaled_unscaled,
      Numeral.ofScaled_fraction_length]
    rfl
  · rintro ⟨hexact, -⟩
    have hvalue : (0 : ℚ) / 10 ^ 28 = (Numeral.ofScaled false 1 29).value := by
      exact_mod_cast hexact _ rfl
    rw [Numeral.ofScaled_value, zero_div] at hvalue
    norm_num [Numeral.signed] at hvalue

end

end TiberiusBridge
