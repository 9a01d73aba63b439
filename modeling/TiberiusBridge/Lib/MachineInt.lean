import Mathlib.Data.Int.Basic
import Mathlib.Tactic.Ring

/-!
# Integer types of a machine

The values of a type are the integers of an interval. The checked conversion
into it takes exactly those integers, and to the value that denotes them.
-/
namespace TiberiusBridge.Lib

class MachineInt (T : Type) where
  min : Int
  max : Int
  toInt : T → Int
  /-- Into the interval, where the integer lies in it. -/
  ofInt : Int → T
  toInt_inj : ∀ a b, toInt a = toInt b → a = b
  range : ∀ a, min ≤ toInt a ∧ toInt a ≤ max
  toInt_ofInt : ∀ n, min ≤ n → n ≤ max → toInt (ofInt n) = n

namespace MachineInt

variable (T : Type) [MachineInt T]

def InRange (n : Int) : Prop := min T ≤ n ∧ n ≤ max T

instance (n : Int) : Decidable (InRange T n) := inferInstanceAs (Decidable (_ ∧ _))

/-- `TryFrom`. -/
def tryFrom (n : Int) : Option T := if InRange T n then some (ofInt n) else none

variable {T} {n : Int}

theorem tryFrom_eq_some_iff {a : T} : tryFrom T n = some a ↔ toInt a = n := by
  unfold tryFrom
  constructor
  · intro h
    split at h <;> cases h
    next hrange => exact toInt_ofInt n hrange.1 hrange.2
  · rintro rfl
    have hrange : InRange T (toInt a) := range a
    rw [if_pos hrange, Option.some.injEq]
    exact toInt_inj _ _ (toInt_ofInt _ hrange.1 hrange.2)

theorem tryFrom_toInt (a : T) : tryFrom T (toInt a) = some a := tryFrom_eq_some_iff.mpr rfl

theorem tryFrom_eq_none (h : ¬InRange T n) : tryFrom T n = none := if_neg h

/-- Every integer of the interval is denoted. -/
theorem exists_toInt (h : InRange T n) : ∃ a : T, toInt a = n :=
  ⟨ofInt n, toInt_ofInt n h.1 h.2⟩

/-- Two's complement in `w + 1` bits. -/
abbrev signed {T : Type} (w : Nat) (toBits : T → BitVec (w + 1)) (ofBits : BitVec (w + 1) → T)
    (inj : ∀ a b, toBits a = toBits b → a = b) (toBits_ofBits : ∀ b, toBits (ofBits b) = b) :
    MachineInt T where
  min := -2 ^ w
  max := 2 ^ w - 1
  toInt a := (toBits a).toInt
  ofInt n := ofBits (BitVec.ofInt _ n)
  toInt_inj a b h := inj a b (BitVec.toInt_inj.mp h)
  range a := by
    have hl : -2 ^ w ≤ (toBits a).toInt := BitVec.le_toInt _
    have hu : (toBits a).toInt < 2 ^ w := BitVec.toInt_lt
    omega
  toInt_ofInt n hl hu := by
    have hpow : ((2 ^ (w + 1) : Nat) : Int) = 2 * 2 ^ w := by
      rw [Nat.pow_succ]
      push_cast
      exact Int.mul_comm _ _
    rw [toBits_ofBits, BitVec.toInt_ofInt]
    apply Int.bmod_eq_of_le_mul_two <;> rw [hpow] <;> omega

abbrev unsigned {T : Type} (w : Nat) (toBits : T → BitVec w) (ofBits : BitVec w → T)
    (inj : ∀ a b, toBits a = toBits b → a = b) (toBits_ofBits : ∀ b, toBits (ofBits b) = b) :
    MachineInt T where
  min := 0
  max := 2 ^ w - 1
  toInt a := (toBits a).toNat
  ofInt n := ofBits (BitVec.ofInt _ n)
  toInt_inj a b h := inj a b (BitVec.toNat_inj.mp (Int.ofNat_inj.mp h))
  range a := by
    have hu : ((toBits a).toNat : Int) < (2 ^ w : Nat) := Int.ofNat_lt.mpr (toBits a).isLt
    push_cast at hu
    omega
  toInt_ofInt n hl hu := by
    have hlt : n < (2 ^ w : Nat) := by
      push_cast
      omega
    rw [toBits_ofBits, BitVec.toNat_ofInt, Int.emod_eq_of_lt hl hlt]
    exact Int.toNat_of_nonneg hl

end MachineInt

/-- `i128`. -/
structure SInt128 where
  bits : BitVec 128
  deriving DecidableEq

/-- `u128`. -/
structure UInt128 where
  bits : BitVec 128
  deriving DecidableEq

instance : MachineInt Int8 := .signed 7 Int8.toBitVec Int8.ofBitVec (fun _ _ => Int8.toBitVec.inj)
  fun _ => rfl

instance : MachineInt Int16 :=
  .signed 15 Int16.toBitVec Int16.ofBitVec (fun _ _ => Int16.toBitVec.inj) fun _ => rfl

instance : MachineInt Int32 :=
  .signed 31 Int32.toBitVec Int32.ofBitVec (fun _ _ => Int32.toBitVec.inj) fun _ => rfl

instance : MachineInt Int64 :=
  .signed 63 Int64.toBitVec Int64.ofBitVec (fun _ _ => Int64.toBitVec.inj) fun _ => rfl

instance : MachineInt SInt128 :=
  .signed 127 SInt128.bits SInt128.mk (fun ⟨_⟩ ⟨_⟩ => congrArg SInt128.mk) fun _ => rfl

instance : MachineInt UInt8 :=
  .unsigned 8 UInt8.toBitVec UInt8.ofBitVec (fun _ _ => UInt8.toBitVec_inj.mp) fun _ => rfl

instance : MachineInt UInt16 :=
  .unsigned 16 UInt16.toBitVec UInt16.ofBitVec (fun _ _ => UInt16.toBitVec_inj.mp) fun _ => rfl

instance : MachineInt UInt32 :=
  .unsigned 32 UInt32.toBitVec UInt32.ofBitVec (fun _ _ => UInt32.toBitVec_inj.mp) fun _ => rfl

instance : MachineInt UInt64 :=
  .unsigned 64 UInt64.toBitVec UInt64.ofBitVec (fun _ _ => UInt64.toBitVec_inj.mp) fun _ => rfl

instance : MachineInt UInt128 :=
  .unsigned 128 UInt128.bits UInt128.mk (fun ⟨_⟩ ⟨_⟩ => congrArg UInt128.mk) fun _ => rfl

end TiberiusBridge.Lib
