import TiberiusBridge.Convert.Reference
import TiberiusBridge.Lib.Numeral
import Mathlib.Tactic.Linarith
import Mathlib.Tactic.Positivity

/-!
# Decimals as numerals

What `mssql-tds` and `rust_decimal` make of the text of a numeral is the law of
a class. A reference instance, which stores and rounds numerals by their digits,
is in scope only where its namespace is opened.
-/
namespace TiberiusBridge

open Lib (Numeral)

/-- The number of a mantissa and a scale. -/
def RustDecimal.value [RustDecimal] (d : Decimal) : ℚ :=
  RustDecimal.mantissa d / 10 ^ RustDecimal.scale d

/-- The value has a mantissa of 96 bits at a scale of at most 28. -/
def FitsDecimal (q : ℚ) : Prop :=
  ∃ (mantissa : Int) (scale : Nat), mantissa.natAbs < 2 ^ 96 ∧ scale ≤ 28 ∧
    q = mantissa / 10 ^ scale

/-- Rounded to a whole number, the value needs more than 96 bits. -/
def OverflowsDecimal (q : ℚ) : Prop := 2 ^ 96 - 1 / 2 ≤ |q|

/-- What numerals are to `mssql-tds` and to `rust_decimal`. -/
class DecimalText [MssqlTds] [RustDecimal] where
  /-- The number that the driver stores. -/
  value : DecimalParts → ℚ
  /-- The driver prints the exact value. -/
  parts_display : ∀ p, ∃ n : Numeral, MssqlTds.decimalToString p = n.text ∧ n.value = value p
  /-- The digits that suffice for a numeral, a leading zero counted as one. -/
  fromString_ok : ∀ (n : Numeral) precision scale, n.whole.length + scale ≤ precision →
    n.fraction.length ≤ scale → precision ≤ 38 →
      ∃ p, MssqlTds.decimalFromString n.text precision scale = .ok p
  /-- No digit of the fraction is lost where the scale has room for it. -/
  fromString_exact : ∀ (n : Numeral) precision scale p, n.fraction.length ≤ scale →
    MssqlTds.decimalFromString n.text precision scale = .ok p →
      value p = n.value ∧ MssqlTds.precision p = precision ∧ MssqlTds.scale p = scale
  /-- A `Decimal` prints its mantissa, with as many digits after the point as its scale. -/
  decimal_display : ∀ d, ∃ negative,
    RustDecimal.toString d =
      (Numeral.ofScaled negative (RustDecimal.mantissa d).natAbs (RustDecimal.scale d)).text ∧
    Numeral.signed negative (RustDecimal.mantissa d).natAbs = RustDecimal.mantissa d
  parse_exact : ∀ n : Numeral, FitsDecimal n.value →
    ∃ d, RustDecimal.parse n.text = some d ∧ RustDecimal.value d = n.value
  /-- Digits of the fraction are rounded away, so that only the whole part can be too long. -/
  parse_none_iff : ∀ n : Numeral, RustDecimal.parse n.text = none ↔ OverflowsDecimal n.value

section

variable [RustDecimal]

theorem RustDecimal.value_fits (d : Decimal) : FitsDecimal (RustDecimal.value d) :=
  ⟨RustDecimal.mantissa d, RustDecimal.scale d, RustDecimal.mantissa_lt d,
    RustDecimal.scale_le d, rfl⟩

/-- A mantissa of 96 bits has at most 29 digits. -/
theorem RustDecimal.digits_le (d : Decimal) :
    (Nat.toDigits 10 (RustDecimal.mantissa d).natAbs).length ≤ 29 :=
  (Nat.length_toDigits_le_iff (by decide) (by decide)).mpr
    ((RustDecimal.mantissa_lt d).trans (by decide))

end

namespace NumeralReference

open Lib.Numeral (signed ofScaled)

/-- The quotient, rounded half up. -/
def roundDiv (n d : Nat) : Nat := (2 * n + d) / (2 * d)

theorem roundDiv_of_mul {m d : Nat} (hd : 0 < d) : roundDiv (m * d) d = m := by
  unfold roundDiv
  have hrest : d < 2 * d := by omega
  rw [show 2 * (m * d) + d = d + 2 * d * m by ring, Nat.add_mul_div_left _ _ (by omega),
    Nat.div_eq_of_lt hrest, Nat.zero_add]

theorem roundDiv_antitone {n d d' : Nat} (hd : 0 < d) (h : d ≤ d') :
    roundDiv n d' ≤ roundDiv n d := by
  unfold roundDiv
  rw [Nat.le_div_iff_mul_le (by omega)]
  have hle := Nat.div_mul_le_self (2 * n + d') (2 * d')
  cases hq : (2 * n + d') / (2 * d') with
  | zero => omega
  | succ q =>
    rw [hq] at hle
    have hmul : (2 * q + 1) * d ≤ (2 * q + 1) * d' := Nat.mul_le_mul_left _ h
    calc (q + 1) * (2 * d) = (2 * q + 1) * d + d := by ring
      _ ≤ (2 * q + 1) * d' + d := Nat.add_le_add_right hmul d
      _ ≤ 2 * n + d := by
        have hsplit : (q + 1) * (2 * d') = (2 * q + 1) * d' + d' := by ring
        omega

/-- The mantissa at the largest scale, up to the one given, that 96 bits have room for. -/
def fitScale (unscaled places : Nat) : Nat → Option (Nat × Nat)
  | 0 =>
    if roundDiv unscaled (10 ^ places) < 2 ^ 96 then some (roundDiv unscaled (10 ^ places), 0)
    else none
  | scale + 1 =>
    if roundDiv unscaled (10 ^ (places - (scale + 1))) < 2 ^ 96 then
      some (roundDiv unscaled (10 ^ (places - (scale + 1))), scale + 1)
    else fitScale unscaled places scale

theorem fitScale_some {unscaled places scale m k : Nat}
    (h : fitScale unscaled places scale = some (m, k)) :
    k ≤ scale ∧ m < 2 ^ 96 ∧ m = roundDiv unscaled (10 ^ (places - k)) := by
  induction scale with
  | zero =>
    unfold fitScale at h
    split at h
    · cases h
      exact ⟨le_rfl, by assumption, rfl⟩
    · cases h
  | succ scale ih =>
    unfold fitScale at h
    split at h
    · cases h
      exact ⟨le_rfl, by assumption, rfl⟩
    · obtain ⟨hk, hm⟩ := ih h
      exact ⟨Nat.le_succ_of_le hk, hm⟩

/-- Where some scale has room, one at least as large is taken. -/
theorem fitScale_of_room {unscaled places room : Nat} (scale : Nat) (hscale : room ≤ scale)
    (h : roundDiv unscaled (10 ^ (places - room)) < 2 ^ 96) :
    ∃ m k, fitScale unscaled places scale = some (m, k) ∧ room ≤ k := by
  induction scale with
  | zero =>
    obtain rfl : room = 0 := by omega
    exact ⟨_, 0, if_pos h, le_rfl⟩
  | succ scale ih =>
    unfold fitScale
    by_cases hroom : roundDiv unscaled (10 ^ (places - (scale + 1))) < 2 ^ 96
    · exact ⟨_, scale + 1, if_pos hroom, hscale⟩
    · rw [if_neg hroom]
      have hne : room ≠ scale + 1 := by
        rintro rfl
        exact hroom h
      exact ih (by omega)

theorem fitScale_none_iff {unscaled places : Nat} (scale : Nat) :
    fitScale unscaled places scale = none ↔ 2 ^ 96 ≤ roundDiv unscaled (10 ^ places) := by
  constructor
  · intro h
    by_contra hroom
    obtain ⟨m, k, hsome, -⟩ := fitScale_of_room scale (Nat.zero_le scale) (not_le.mp hroom)
    cases h.symm.trans hsome
  · intro h
    cases hfit : fitScale unscaled places scale with
    | none => rfl
    | some fit =>
      obtain ⟨-, hm, hround⟩ := fitScale_some hfit
      have hle := roundDiv_antitone (n := unscaled) (Nat.pow_pos (by decide))
        (Nat.pow_le_pow_right (show 0 < 10 by decide) (Nat.sub_le places fit.2))
      omega

/-- A number that has a mantissa of 96 bits at some scale is not rounded. -/
theorem fitScale_exact {unscaled places m k : Nat} (hm : m < 2 ^ 96) (hk : k ≤ 28)
    (h : unscaled * 10 ^ k = m * 10 ^ places) :
    ∃ m' k', fitScale unscaled places (min 28 places) = some (m', k') ∧
      m' * 10 ^ places = unscaled * 10 ^ k' := by
  have hten : ∀ e, 0 < 10 ^ e := fun e => Nat.pow_pos (by decide)
  -- at the scale `min k places` nothing is left to round
  obtain ⟨c, hc, hsmall⟩ : ∃ c, unscaled = c * 10 ^ (places - min k places) ∧ c < 2 ^ 96 := by
    rcases le_total k places with hle | hle
    · refine ⟨m, ?_, hm⟩
      rw [Nat.min_eq_left hle]
      apply Nat.eq_of_mul_eq_mul_right (hten k)
      rw [h, mul_assoc, ← pow_add, Nat.sub_add_cancel hle]
    · refine ⟨unscaled, ?_, ?_⟩
      · rw [Nat.min_eq_right hle, Nat.sub_self, pow_zero, mul_one]
      · have hdiv : unscaled * 10 ^ (k - places) = m := by
          apply Nat.eq_of_mul_eq_mul_right (hten places)
          rw [mul_assoc, ← pow_add, Nat.sub_add_cancel hle, h]
        exact (Nat.le_mul_of_pos_right _ (hten _)).trans_lt (hdiv.trans_lt hm)
  have hroom : roundDiv unscaled (10 ^ (places - min k places)) < 2 ^ 96 := by
    rw [hc, roundDiv_of_mul (hten _)]
    exact hsmall
  obtain ⟨m', k', hfit, hle⟩ := fitScale_of_room (min 28 places) (by omega) hroom
  obtain ⟨hk', -, hround⟩ := fitScale_some hfit
  refine ⟨m', k', hfit, ?_⟩
  have hsplit : unscaled = c * 10 ^ (k' - min k places) * 10 ^ (places - k') := by
    rw [mul_assoc, ← pow_add, hc]
    congr 2
    omega
  have hplaces : places - k' + k' = places := by omega
  rw [hround, hsplit, roundDiv_of_mul (hten _), mul_assoc _ (10 ^ (places - k')), ← pow_add,
    hplaces]

structure StoredDecimal where
  negative : Bool
  unscaled : Nat
  precision : Nat
  scale : Nat
  deriving DecidableEq, Repr

namespace StoredDecimal

def numeral (p : StoredDecimal) : Numeral := ofScaled p.negative p.unscaled p.scale

/-- A numeral that has too many digits after its leading zeros is refused. -/
def ofNumeral (n : Numeral) (precision scale : Nat) : Except TdsError StoredDecimal :=
  if (n.whole.dropWhile (· == '0')).length + scale ≤ precision ∧ n.fraction.length ≤ scale ∧
      precision ≤ 38 then
    .ok ⟨n.negative, n.unscaled * 10 ^ (scale - n.fraction.length), precision, scale⟩
  else .error (.usageError "decimal out of range")

def fromString (s : String) (precision scale : Nat) : Except TdsError StoredDecimal :=
  match Numeral.read s with
  | some n => ofNumeral n precision scale
  | none => .error (.usageError "invalid decimal")

end StoredDecimal

def displayDecimal (d : Reference.RustDecimalParts) : String :=
  (ofScaled (d.val.1 < 0) d.val.1.natAbs d.val.2).text

def decimalOfNumeral (n : Numeral) : Option Reference.RustDecimalParts :=
  match fitScale n.unscaled n.fraction.length (min 28 n.fraction.length) with
  | some (m, scale) => Reference.ofMantissa (signed n.negative m) scale
  | none => none

scoped instance mssqlTds : MssqlTds :=
  { Reference.mssqlTds with
    DecimalParts := StoredDecimal
    precision := StoredDecimal.precision
    scale := StoredDecimal.scale
    decimalFromString := StoredDecimal.fromString
    decimalToString := fun p => p.numeral.text }

scoped instance rustDecimal : RustDecimal :=
  { Reference.rustDecimal with
    toString := displayDecimal
    parse := fun s => (Numeral.read s).bind decimalOfNumeral }

theorem ofNumeral_exact {n : Numeral} {precision scale : Nat} {p : StoredDecimal}
    (hfraction : n.fraction.length ≤ scale)
    (h : StoredDecimal.ofNumeral n precision scale = .ok p) :
    p.numeral.value = n.value ∧ p.precision = precision ∧ p.scale = scale := by
  unfold StoredDecimal.ofNumeral at h
  split at h
  · cases h
    have hplaces : n.fraction.length + (scale - n.fraction.length) = scale := by omega
    refine ⟨?_, rfl, rfl⟩
    rw [n.value_eq_of_padded (scale - n.fraction.length), hplaces]
    exact Lib.Numeral.ofScaled_value _ _ _
  · cases h

theorem ofNumeral_ok {n : Numeral} {precision scale : Nat}
    (hwhole : n.whole.length + scale ≤ precision) (hfraction : n.fraction.length ≤ scale)
    (hprecision : precision ≤ 38) : ∃ p, StoredDecimal.ofNumeral n precision scale = .ok p := by
  have hdigits := (List.dropWhile_sublist (· == '0') (l := n.whole)).length_le
  exact ⟨_, if_pos ⟨by omega, hfraction, hprecision⟩⟩

theorem fromString_text (n : Numeral) (precision scale : Nat) :
    StoredDecimal.fromString n.text precision scale =
      StoredDecimal.ofNumeral n precision scale := by
  rw [StoredDecimal.fromString, n.read_text]

theorem parse_text (n : Numeral) : RustDecimal.parse n.text = decimalOfNumeral n := by
  show (Numeral.read n.text).bind decimalOfNumeral = _
  rw [n.read_text]
  rfl

theorem decimalOfNumeral_some {n : Numeral} {m k : Nat}
    (h : fitScale n.unscaled n.fraction.length (min 28 n.fraction.length) = some (m, k)) :
    ∃ d, decimalOfNumeral n = some d ∧ RustDecimal.value d = signed n.negative m / 10 ^ k := by
  obtain ⟨hk, hm, -⟩ := fitScale_some h
  have hparts : (signed n.negative m).natAbs < 2 ^ 96 ∧ k ≤ 28 := by
    rw [Numeral.natAbs_signed]
    exact ⟨hm, by omega⟩
  refine ⟨⟨(signed n.negative m, k), hparts⟩, ?_, rfl⟩
  rw [decimalOfNumeral, h]
  exact dif_pos hparts

/-- A numeral that denotes a `Decimal` is read to it. -/
theorem decimalOfNumeral_exact {n : Numeral} (h : FitsDecimal n.value) :
    ∃ d, decimalOfNumeral n = some d ∧ RustDecimal.value d = n.value := by
  obtain ⟨mantissa, k, hmantissa, hk, hvalue⟩ := h
  have hten : ∀ e : Nat, (10 : ℚ) ^ e ≠ 0 := fun e => pow_ne_zero e (by norm_num)
  have habs := n.abs_value
  rw [hvalue, abs_div, abs_of_pos (show (0 : ℚ) < 10 ^ k by positivity), ← Int.cast_abs,
    Int.abs_eq_natAbs, Int.cast_natCast, div_eq_div_iff (hten k) (hten _)] at habs
  obtain ⟨m, k', hfit, hm⟩ := fitScale_exact hmantissa hk (by exact_mod_cast habs.symm)
  obtain ⟨d, hd, hdvalue⟩ := decimalOfNumeral_some hfit
  refine ⟨d, hd, ?_⟩
  have hcast : (m : ℚ) * 10 ^ n.fraction.length = n.unscaled * 10 ^ k' := by exact_mod_cast hm
  rw [hdvalue, Numeral.value, Numeral.signed_cast, Numeral.signed_cast,
    div_eq_div_iff (hten k') (hten _), mul_assoc, hcast, mul_assoc]

theorem decimalOfNumeral_none_iff (n : Numeral) :
    decimalOfNumeral n = none ↔ OverflowsDecimal n.value := by
  have hpos : (0 : ℚ) < 10 ^ n.fraction.length := by positivity
  have hround : 2 ^ 96 ≤ roundDiv n.unscaled (10 ^ n.fraction.length) ↔
      OverflowsDecimal n.value := by
    unfold roundDiv OverflowsDecimal
    rw [Nat.le_div_iff_mul_le (by positivity), n.abs_value, le_div_iff₀ hpos]
    have hcast : 2 ^ 96 * (2 * 10 ^ n.fraction.length) ≤ 2 * n.unscaled + 10 ^ n.fraction.length ↔
        (2 : ℚ) ^ 96 * (2 * 10 ^ n.fraction.length) ≤
          2 * n.unscaled + 10 ^ n.fraction.length := by exact_mod_cast Iff.rfl
    rw [hcast]
    constructor <;> intro h <;> linarith
  rw [← hround, ← fitScale_none_iff (min 28 n.fraction.length)]
  cases hfit : fitScale n.unscaled n.fraction.length (min 28 n.fraction.length) with
  | none =>
    rw [decimalOfNumeral, hfit]
    exact iff_of_true rfl rfl
  | some fit =>
    obtain ⟨d, hd, -⟩ := decimalOfNumeral_some hfit
    rw [hd]
    exact iff_of_false (by rintro ⟨⟩) (by rintro ⟨⟩)

scoped instance decimalText : DecimalText where
  value p := p.numeral.value
  parts_display p := ⟨p.numeral, rfl, rfl⟩
  fromString_ok n precision scale hwhole hfraction hprecision := by
    obtain ⟨p, hp⟩ := ofNumeral_ok hwhole hfraction hprecision
    exact ⟨p, (fromString_text n precision scale).trans hp⟩
  fromString_exact n precision scale p hfraction h :=
    ofNumeral_exact hfraction ((fromString_text n precision scale).symm.trans h)
  decimal_display d := ⟨d.val.1 < 0, rfl, Numeral.signed_natAbs d.val.1⟩
  parse_exact n h := by
    rw [parse_text]
    exact decimalOfNumeral_exact h
  parse_none_iff n := by
    rw [parse_text]
    exact decimalOfNumeral_none_iff n

end NumeralReference

end TiberiusBridge
