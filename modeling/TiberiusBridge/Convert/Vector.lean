import TiberiusBridge.Convert.CivilEncode
import TiberiusBridge.Tds.Reference

/-!
# Vector parameters

The encoder declares the number of dimensions in 16 bits, and where the driver
refuses the vector it sends NULL.
-/
namespace TiberiusBridge

/-- SQL Server's limit for `float32` dimensions. -/
def maxDimensions : Nat := 1998

/-- What a `SqlVector` holds. -/
class VectorData [MssqlTds] [VectorFromF32] where
  /-- `VectorData::Float32`, its only variant. -/
  float32 : SqlVector → List F32
  /-- The data is kept as it was given. -/
  try_from_data : ∀ l sv, VectorFromF32.tryFromF32 l = .ok sv → float32 sv = l
  /-- A number of dimensions that SQL Server does not support is refused. -/
  try_from_supported : ∀ l sv, VectorFromF32.tryFromF32 l = .ok sv → l.length ≤ maxDimensions

section

variable [MssqlTds] [VectorFromF32]

def FromSql.vectorValue [VectorData] : Decoder VectorValue
  | .vector sv => .ok (some ⟨VectorData.float32 sv⟩)
  | _ => .ok none

namespace VectorValue

/-- The parameter holds the vector, and reads back as it. -/
structure Kept [VectorData] (v : VectorValue) : Prop where
  encoded : ∃ sv, ToSql.vectorValue v = .ok (.vector (some sv) v.dimensions.length .float32) ∧
    FromSql.vectorValue (.vector sv) = .ok (some v)
  not_null : ∀ n base, ToSql.vectorValue v ≠ .ok (.vector none n base)

/-- The two parameters declare different numbers of dimensions. -/
def DeclaredApart (v w : VectorValue) : Prop :=
  ∀ sv n base sv' n' base', ToSql.vectorValue v = .ok (.vector sv n base) →
    ToSql.vectorValue w = .ok (.vector sv' n' base') → n ≠ n'

/-- The number of dimensions is declared modulo 2^16, whether the vector is sent or not. -/
theorem toSql_eq (v : VectorValue) : ToSql.vectorValue v =
    .ok (.vector (VectorFromF32.tryFromF32 v.dimensions).toOption
      (v.dimensions.length % 2 ^ 16) .float32) := by
  rw [ToSql.vectorValue]
  cases VectorFromF32.tryFromF32 v.dimensions <;> rfl

theorem declaredApart_iff (v w : VectorValue) :
    DeclaredApart v w ↔ v.dimensions.length % 2 ^ 16 ≠ w.dimensions.length % 2 ^ 16 := by
  constructor
  · intro h
    exact h _ _ _ _ _ _ (toSql_eq v) (toSql_eq w)
  · intro h sv n base sv' n' base' hv hw
    rw [toSql_eq] at hv hw
    cases hv
    cases hw
    exact h

variable [VectorData]

/-- A vector that the driver accepts is short enough for its length to be declared. -/
theorem kept_iff (v : VectorValue) :
    Kept v ↔ ∃ sv, VectorFromF32.tryFromF32 v.dimensions = .ok sv := by
  constructor
  · intro h
    cases hv : VectorFromF32.tryFromF32 v.dimensions with
    | ok sv => exact ⟨sv, rfl⟩
    | error e =>
      have hnull := toSql_eq v
      rw [hv] at hnull
      exact absurd hnull (h.not_null _ _)
  · rintro ⟨sv, hsv⟩
    have hlen : v.dimensions.length < 2 ^ 16 := by
      have hmax := VectorData.try_from_supported _ _ hsv
      unfold maxDimensions at hmax
      omega
    have hencoded : ToSql.vectorValue v =
        .ok (.vector (some sv) v.dimensions.length .float32) := by
      rw [toSql_eq, hsv, Nat.mod_eq_of_lt hlen]
      rfl
    refine ⟨⟨sv, hencoded, ?_⟩, ?_⟩
    · rw [FromSql.vectorValue, VectorData.try_from_data _ _ hsv]
    · intro n base hnull
      cases hencoded.symm.trans hnull

end VectorValue

/-- A vector parameter is kept exactly where the driver accepts it, and two lengths are told apart
exactly where they differ in their low 16 bits. -/
theorem vector_parameter_iff [VectorData] (v w : VectorValue) :
    (v.Kept ↔ ∃ sv, VectorFromF32.tryFromF32 v.dimensions = .ok sv) ∧
      ((v.dimensions.length ≠ w.dimensions.length → v.DeclaredApart w) ↔
        v.dimensions.length = w.dimensions.length ∨
          v.dimensions.length % 2 ^ 16 ≠ w.dimensions.length % 2 ^ 16) := by
  refine ⟨v.kept_iff, ?_⟩
  rw [VectorValue.declaredApart_iff, ← or_iff_not_imp_left]

end

namespace VectorReference

/-- A vector is its dimensions. -/
scoped instance mssqlTds : MssqlTds :=
  { Reference.mssqlTds with
    SqlVector := List F32
    dimensionCount := List.length
    baseType := fun _ => .float32 }

def tryFromF32 (l : List F32) : Except TdsError (List F32) :=
  if l.length ≤ maxDimensions then .ok l else .error (.usageError "too many dimensions")

theorem tryFromF32_ok {l sv : List F32} (h : tryFromF32 l = .ok sv) :
    sv = l ∧ l.length ≤ maxDimensions := by
  unfold tryFromF32 at h
  split at h <;> cases h
  exact ⟨rfl, ‹_›⟩

scoped instance vectorFromF32 : VectorFromF32 where
  tryFromF32 := tryFromF32

scoped instance vectorData : VectorData where
  float32 := id
  try_from_data _ _ h := (tryFromF32_ok h).1
  try_from_supported _ _ h := (tryFromF32_ok h).2

end VectorReference

section

open VectorReference

/-- A vector of zeros. -/
def zeros (n : Nat) : VectorValue := ⟨List.replicate n ⟨0⟩⟩

/-- 1999 dimensions are sent as NULL, and 65537 are declared as 1. -/
theorem zeros_lost : ¬(zeros 1999).Kept ∧
    ¬((zeros 65537).dimensions.length ≠ (zeros 1).dimensions.length →
      (zeros 65537).DeclaredApart (zeros 1)) := by
  constructor
  · intro h
    obtain ⟨sv, hsv⟩ := VectorValue.kept_iff _ |>.mp h
    have hle := VectorData.try_from_supported _ _ hsv
    rw [zeros, List.length_replicate] at hle
    exact absurd hle (by decide)
  · simp only [VectorValue.declaredApart_iff, zeros, List.length_replicate]
    decide

end

end TiberiusBridge
