import TiberiusBridge.Bulk.Arrow
import TiberiusBridge.Convert.DecimalText

/-!
# Arrow decimals as text

A coefficient and a scale are handed to the driver as a numeral: a negative
scale appends zeros, and a positive one sets the point, after zeros of its own
where the coefficient has too few digits.
-/
namespace TiberiusBridge

open Lib (Numeral)
open Lib.Numeral (padded ofScaled ofShifted)

/-- The numeral of a coefficient and a scale. -/
def decimal128Numeral (raw scale : Int) : Numeral :=
  if scale ≤ 0 then ofShifted (raw < 0) raw.natAbs scale.natAbs
  else ofScaled (raw < 0) raw.natAbs scale.natAbs

/-- The number of a coefficient and a scale. -/
def decimal128Value (raw scale : Int) : ℚ := raw * 10 ^ (-scale)

theorem toString_int (n : Int) :
    toString n = String.ofList ((if n < 0 then ['-'] else []) ++ Nat.toDigits 10 n.natAbs) := by
  rw [Int.toString_eq_repr, Int.repr_eq_if]
  by_cases hneg : n < 0
  · have habs : (-n).toNat = n.natAbs := by omega
    rw [if_neg (by omega), if_pos hneg, habs, String.ofList_append]
    rfl
  · have habs : n.toNat = n.natAbs := by omega
    rw [if_pos (by omega), if_neg hneg, habs]
    rfl

/-- The digits split at the point, with a zero before it where all of them come after it. -/
theorem formatDecimal128_digits (mag scale : Nat) :
    (if (Nat.toDigits 10 mag).length > scale then
        (Nat.toDigits 10 mag).take ((Nat.toDigits 10 mag).length - scale) ++
          '.' :: (Nat.toDigits 10 mag).drop ((Nat.toDigits 10 mag).length - scale)
      else '0' :: '.' ::
        (List.replicate (scale - (Nat.toDigits 10 mag).length) '0' ++ Nat.toDigits 10 mag)) =
      (padded mag (scale + 1)).take ((padded mag (scale + 1)).length - scale) ++
        '.' :: (padded mag (scale + 1)).drop ((padded mag (scale + 1)).length - scale) := by
  have hlength := Lib.Numeral.padded_length mag (scale + 1)
  by_cases hlong : (Nat.toDigits 10 mag).length > scale
  · have hnone : padded mag (scale + 1) = Nat.toDigits 10 mag := by
      rw [padded, Nat.sub_eq_zero_of_le hlong]
      rfl
    rw [if_pos hlong, hnone]
  · have hzeros : padded mag (scale + 1) = '0' ::
        (List.replicate (scale - (Nat.toDigits 10 mag).length) '0' ++ Nat.toDigits 10 mag) := by
      rw [padded, Nat.succ_sub (by omega), List.replicate_succ]
      rfl
    have hone : (padded mag (scale + 1)).length - scale = 1 := by omega
    rw [if_neg hlong, hone, hzeros]
    rfl

theorem formatDecimal128_eq (raw scale : Int) :
    formatDecimal128 raw scale = (decimal128Numeral raw scale).text := by
  unfold formatDecimal128 decimal128Numeral
  by_cases hscale : scale ≤ 0
  · rw [if_pos hscale, if_pos hscale, toString_int, ← String.ofList_append, Numeral.text,
      Numeral.chars, ofShifted]
    simp
  · have hpos : 0 < scale.natAbs := by omega
    have hfraction := Numeral.ofScaled_fraction_length (raw < 0) raw.natAbs scale.natAbs
    have hne : (ofScaled (raw < 0) raw.natAbs scale.natAbs).fraction ≠ [] := by
      rw [← List.length_pos_iff, hfraction]
      exact hpos
    rw [if_neg hscale, if_neg hscale, Numeral.text, Numeral.chars, if_neg hne]
    dsimp only
    rw [Nat.toString_eq_ofList_toDigits, String.toList_ofList, formatDecimal128_digits]
    by_cases hneg : raw < 0 <;> simp [ofScaled, hneg]

/-- A sign where the number is negative, and as many digits after the point as the scale has. -/
structure Rendered (n : Numeral) (raw scale : Int) : Prop where
  negative : n.negative = true ↔ raw < 0
  fraction : n.fraction.length = scale.toNat
  value : n.value = decimal128Value raw scale

theorem decimal128Numeral_rendered (raw scale : Int) :
    Rendered (decimal128Numeral raw scale) raw scale := by
  have hsigned : Numeral.signed (raw < 0) raw.natAbs = raw := Numeral.signed_natAbs raw
  unfold decimal128Numeral
  by_cases hscale : scale ≤ 0
  · have hexp : -scale = (scale.natAbs : Int) := by omega
    rw [if_pos hscale]
    refine ⟨decide_eq_true_iff, ?_, ?_⟩
    · show 0 = scale.toNat
      omega
    · rw [Numeral.ofShifted_value, hsigned, decimal128Value, hexp, zpow_natCast]
  · have hexp : -scale = -(scale.natAbs : Int) := by omega
    rw [if_neg hscale]
    refine ⟨decide_eq_true_iff, ?_, ?_⟩
    · rw [Numeral.ofScaled_fraction_length]
      omega
    · rw [Numeral.ofScaled_value, hsigned, decimal128Value, hexp, zpow_neg, zpow_natCast,
        div_eq_mul_inv]

section

variable [MssqlTds] [RustDecimal] [DecimalText]

theorem decimal128ToColumnValue_exact {precision : Nat} {scale raw : Int} {value : ColumnValues}
    (h : decimal128ToColumnValue precision scale raw = .ok value) :
    0 ≤ scale ∧ ∃ parts, value = .decimal parts ∧
      DecimalText.value parts = decimal128Value raw scale := by
  obtain ⟨hpos, -, parts, hparts, rfl⟩ := decimal128ToColumnValue_ok h
  obtain ⟨-, hfraction, hvalue⟩ := decimal128Numeral_rendered raw scale
  rw [formatDecimal128_eq] at hparts
  have hexact := DecimalText.fromString_exact _ precision _ _ hfraction.le hparts
  exact ⟨hpos, parts, rfl, hexact.1.trans hvalue⟩

/-- Of any coefficient and scale, and of any cell of an array. -/
structure ExactDecimals : Prop where
  rendered : ∀ raw scale, ∃ n : Numeral,
    formatDecimal128 raw scale = n.text ∧ Rendered n raw scale
  converted : ∀ (array : ArrowArray) (idx : Nat) (cell : ArrowCell) precision scale value,
    array.dataType = .decimal128 precision scale → array.cells[idx]? = some (some cell) →
      arrowValueToColumnValue array idx = .ok value → 0 ≤ scale ∧ ∃ raw parts,
        cell = .decimal128 raw ∧ value = .decimal parts ∧
          DecimalText.value parts = decimal128Value raw scale

theorem exact_decimals : ExactDecimals where
  rendered raw scale :=
    ⟨_, formatDecimal128_eq raw scale, decimal128Numeral_rendered raw scale⟩
  converted array idx cell precision scale value htype hcell h := by
    rw [arrowValueToColumnValue, hcell] at h
    dsimp only at h
    rw [htype] at h
    cases cell with
    | decimal128 raw =>
      obtain ⟨hpos, parts, hvalue, hexact⟩ := decimal128ToColumnValue_exact h
      exact ⟨hpos, raw, parts, rfl, hvalue, hexact⟩
    | _ => cases h

end

end TiberiusBridge
