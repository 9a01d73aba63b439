import Mathlib.Algebra.Order.Field.Basic
import Mathlib.Algebra.Order.Field.Rat
import Mathlib.Data.Nat.Log
import Mathlib.Tactic.FieldSimp
import Mathlib.Tactic.Ring

/-!
# Decimal numerals

A sign, at least one digit, and after a point the digits of the fraction. A
numeral denotes a rational number, and is recovered from its text.
-/
namespace TiberiusBridge.Lib

structure Numeral where
  negative : Bool
  whole : List Char
  fraction : List Char
  whole_ne_nil : whole ≠ []
  digits : ∀ c ∈ whole ++ fraction, c.isDigit = true

namespace Numeral

/-- All digits as one number. -/
def unscaled (n : Numeral) : Nat := Nat.ofDigitChars 10 (n.whole ++ n.fraction) 0

def signed (negative : Bool) (n : Nat) : Int := if negative then -n else n

theorem signed_cast (negative : Bool) (n : Nat) :
    (signed negative n : ℚ) = (if negative then -1 else 1) * n := by
  unfold signed
  cases negative <;> simp

theorem natAbs_signed (negative : Bool) (n : Nat) : (signed negative n).natAbs = n := by
  unfold signed
  split <;> omega

theorem signed_natAbs (m : Int) : signed (m < 0) m.natAbs = m := by
  unfold signed
  by_cases hneg : m < 0
  · rw [if_pos (decide_eq_true hneg)]
    omega
  · rw [if_neg (by simpa using hneg)]
    omega

def value (n : Numeral) : ℚ := (signed n.negative n.unscaled : ℚ) / 10 ^ n.fraction.length

def chars (n : Numeral) : List Char :=
  (if n.negative then ['-'] else []) ++ n.whole ++
    (if n.fraction = [] then [] else '.' :: n.fraction)

def text (n : Numeral) : String := String.ofList n.chars

def ofDigits (negative : Bool) (whole fraction : List Char) : Option Numeral :=
  if h : whole ≠ [] ∧ (whole ++ fraction).all Char.isDigit = true then
    some ⟨negative, whole, fraction, h.1, List.all_eq_true.mp h.2⟩
  else none

def readUnsigned (negative : Bool) (chars : List Char) : Option Numeral :=
  match chars.dropWhile Char.isDigit with
  | [] => ofDigits negative (chars.takeWhile Char.isDigit) []
  | '.' :: c :: cs => ofDigits negative (chars.takeWhile Char.isDigit) (c :: cs)
  | _ => none

def readChars : List Char → Option Numeral
  | '-' :: rest => readUnsigned true rest
  | chars => readUnsigned false chars

def read (s : String) : Option Numeral := readChars s.toList

theorem ofDigits_self (n : Numeral) : ofDigits n.negative n.whole n.fraction = some n :=
  dif_pos ⟨n.whole_ne_nil, List.all_eq_true.mpr n.digits⟩

theorem whole_digits (n : Numeral) : ∀ c ∈ n.whole, c.isDigit = true :=
  fun c hc => n.digits c (List.mem_append_left _ hc)

theorem readUnsigned_self (n : Numeral) :
    readUnsigned n.negative
      (n.whole ++ (if n.fraction = [] then [] else '.' :: n.fraction)) = some n := by
  have hself := n.ofDigits_self
  unfold readUnsigned
  rw [List.takeWhile_append_of_pos n.whole_digits, List.dropWhile_append_of_pos n.whole_digits]
  cases hf : n.fraction with
  | nil =>
    rw [hf] at hself
    simpa using hself
  | cons c cs =>
    rw [hf] at hself
    simpa using hself

theorem read_text (n : Numeral) : read n.text = some n := by
  have hself := n.readUnsigned_self
  unfold read text chars
  rw [String.toList_ofList, List.append_assoc]
  cases hn : n.negative with
  | true =>
    rw [hn] at hself
    exact hself
  | false =>
    rw [hn] at hself
    -- a digit is not the sign
    obtain ⟨c, cs, hw⟩ := List.exists_cons_of_ne_nil n.whole_ne_nil
    have hdigit := n.whole_digits c (by rw [hw]; exact List.mem_cons_self)
    have hsign : c ≠ '-' := by
      rintro rfl
      cases hdigit
    rw [hw] at hself ⊢
    show readChars (c :: _) = _
    rw [readChars]
    · exact hself
    · rintro rest ⟨⟩
      exact hsign rfl

/-- The digits of `n`, at least `width` of them. -/
def padded (n width : Nat) : List Char :=
  List.replicate (width - (Nat.toDigits 10 n).length) '0' ++ Nat.toDigits 10 n

theorem padded_length (n width : Nat) :
    (padded n width).length = max width (Nat.toDigits 10 n).length := by
  rw [padded, List.length_append, List.length_replicate]
  omega

theorem padded_digits (n width : Nat) : ∀ c ∈ padded n width, c.isDigit = true := by
  intro c hc
  rcases List.mem_append.mp hc with hzero | hdigit
  · rw [List.eq_of_mem_replicate hzero]
    rfl
  · exact Nat.isDigit_of_mem_toDigits (by decide) (by decide) hdigit

theorem ofDigitChars_padded (n width : Nat) : Nat.ofDigitChars 10 (padded n width) 0 = n := by
  rw [padded, Nat.ofDigitChars_append, Nat.ofDigitChars_replicate_zero, Nat.mul_zero,
    Nat.ofDigitChars_ten_toDigits]

/-- `n` with its last `scale` digits after the point. -/
def ofScaled (negative : Bool) (n scale : Nat) : Numeral where
  negative
  whole := (padded n (scale + 1)).take ((padded n (scale + 1)).length - scale)
  fraction := (padded n (scale + 1)).drop ((padded n (scale + 1)).length - scale)
  whole_ne_nil := by
    have hlength := padded_length n (scale + 1)
    intro h
    have hzero := congrArg List.length h
    rw [List.length_take, List.length_nil] at hzero
    omega
  digits := by
    rw [List.take_append_drop]
    exact padded_digits n (scale + 1)

theorem ofScaled_unscaled (negative : Bool) (n scale : Nat) :
    (ofScaled negative n scale).unscaled = n := by
  show Nat.ofDigitChars 10 (_ ++ _) 0 = n
  rw [ofScaled, List.take_append_drop, ofDigitChars_padded]

theorem ofScaled_fraction_length (negative : Bool) (n scale : Nat) :
    (ofScaled negative n scale).fraction.length = scale := by
  have hlength := padded_length n (scale + 1)
  rw [ofScaled, List.length_drop]
  omega

theorem ofScaled_whole_length (negative : Bool) (n scale : Nat) :
    (ofScaled negative n scale).whole.length + scale =
      max (scale + 1) (Nat.toDigits 10 n).length := by
  have hlength := padded_length n (scale + 1)
  rw [ofScaled, List.length_take]
  omega

theorem ofScaled_value (negative : Bool) (n scale : Nat) :
    (ofScaled negative n scale).value = (signed negative n : ℚ) / 10 ^ scale := by
  rw [value, ofScaled_unscaled, ofScaled_fraction_length]
  rfl

/-- `n` with zeros after its last digit. -/
def ofShifted (negative : Bool) (n zeros : Nat) : Numeral where
  negative
  whole := Nat.toDigits 10 n ++ List.replicate zeros '0'
  fraction := []
  whole_ne_nil := by
    have hpos := Nat.length_toDigits_pos (b := 10) (n := n)
    intro h
    have hzero := congrArg List.length h
    rw [List.length_append, List.length_nil] at hzero
    omega
  digits := by
    rw [List.append_nil]
    intro c hc
    rcases List.mem_append.mp hc with hdigit | hzero
    · exact Nat.isDigit_of_mem_toDigits (by decide) (by decide) hdigit
    · rw [List.eq_of_mem_replicate hzero]
      rfl

theorem ofShifted_unscaled (negative : Bool) (n zeros : Nat) :
    (ofShifted negative n zeros).unscaled = n * 10 ^ zeros := by
  show Nat.ofDigitChars 10 ((_ ++ _) ++ []) 0 = _
  rw [List.append_nil, Nat.ofDigitChars_append, Nat.ofDigitChars_ten_toDigits,
    Nat.ofDigitChars_replicate_zero, Nat.mul_comm]

theorem ofShifted_value (negative : Bool) (n zeros : Nat) :
    (ofShifted negative n zeros).value = (signed negative n : ℚ) * 10 ^ zeros := by
  have hcast : (signed negative (n * 10 ^ zeros) : ℚ) = signed negative n * 10 ^ zeros := by
    rw [signed_cast, signed_cast]
    push_cast
    ring
  rw [value, ofShifted_unscaled, ← hcast]
  exact (congrArg _ (pow_zero _)).trans (div_one _)

/-- Zeros after the last digit change nothing. -/
theorem value_eq_of_padded (n : Numeral) (zeros : Nat) :
    n.value = (signed n.negative (n.unscaled * 10 ^ zeros) : ℚ) /
      10 ^ (n.fraction.length + zeros) := by
  have hten : (10 : ℚ) ^ zeros ≠ 0 := pow_ne_zero _ (by norm_num)
  rw [value, signed_cast, signed_cast, pow_add]
  push_cast
  field_simp

theorem abs_value (n : Numeral) : |n.value| = n.unscaled / 10 ^ n.fraction.length := by
  have hden : (0 : ℚ) < 10 ^ n.fraction.length := pow_pos (by norm_num) _
  rw [value, abs_div, abs_of_pos hden, ← Int.cast_abs, Int.abs_eq_natAbs, natAbs_signed,
    Int.cast_natCast]

/-- The number of decimal digits by the integer logarithm, one for zero. -/
theorem length_toDigits (n : Nat) : (Nat.toDigits 10 n).length = Nat.log 10 n + 1 := by
  apply eq_of_forall_ge_iff
  intro k
  cases k with
  | zero =>
    have hpos := Nat.length_toDigits_pos (b := 10) (n := n)
    omega
  | succ k =>
    rw [Nat.length_toDigits_le_iff (by decide) (Nat.succ_pos k)]
    by_cases hn : n = 0
    · subst hn
      simp
    · rw [← Nat.log_lt_iff_lt_pow (by decide) hn]
      omega

end Numeral

end TiberiusBridge.Lib
