import TiberiusBridge.Convert.RowReads
import TiberiusBridge.Lib.FirstWins

/-!
# Columns by name

The name index of a schema keeps the first of equal names. The lookup that
ignores case takes an exact match first, wherever it stands.
-/
namespace TiberiusBridge

open Lib (Compute IsFirst)
open Lib.Compute (expect)

namespace RowSchema

theorem lookup_fromMetadata (metadata : List ColumnMetadata) (n : String) :
    (fromMetadata metadata).nameMap.lookup n =
      metadata.findIdx? fun md => decide (md.columnName = n) := by
  have hfold := Lib.lookup_foldl_insertFirst Column.name (metadata.map Column.fromTds) 0 [] n
  have hname : ((fun c => n == Column.name c) ∘ Column.fromTds) =
      fun md => decide (md.columnName = n) := by
    funext md
    exact decide_eq_decide.mpr eq_comm
  simp only [Nat.zero_add, Option.map_id', List.lookup_nil, Option.none_or, List.findIdx?_map,
    hname] at hfold
  exact hfold

/-- The index of a name is the first column of that name. -/
theorem lookup_eq_some_iff {metadata : List ColumnMetadata} {n : String} {i : Nat} :
    (fromMetadata metadata).nameMap.lookup n = some i ↔
      IsFirst (·.columnName = n) metadata i := by
  rw [lookup_fromMetadata]
  exact Lib.findIdx?_eq_some_iff_isFirst

theorem lookup_eq_none_iff {metadata : List ColumnMetadata} {n : String} :
    (fromMetadata metadata).nameMap.lookup n = none ↔ ∀ md ∈ metadata, md.columnName ≠ n := by
  rw [lookup_fromMetadata, List.findIdx?_eq_none_iff]
  simp only [decide_eq_false_iff_not, ne_eq]

end RowSchema

variable [MssqlTds]

namespace Row

def resolveNameCi (r : Row) (name : String) : Result Nat :=
  match r.columnIndex name with
  | some idx => .ok idx
  | none =>
    match r.schema.columns.findIdx? fun c => eqIgnoreAsciiCase c.name name with
    | some idx => .ok idx
    | none => .error (.columnNotFound name)

def tryGetCi {α : Type} (r : Row) (fromSql : RowDecoder α) (name : String) :
    Compute (Result (Option α)) :=
  match r.resolveNameCi name with
  | .error e => return .error e
  | .ok idx => r.tryGetAt fromSql idx

def getCi {α : Type} (r : Row) (fromSql : RowDecoder α) (name : String) : Compute (Option α) := do
  expect "column not found" (← r.tryGetCi fromSql name).toOption

/-- Reading a resolved column never reports a missing name. -/
theorem tryGetAt_ne_notFound {α : Type} (r : Row) (fromSql : RowDecoder α) (i : Nat)
    (name : String) : r.tryGetAt fromSql i ≠ .ok (.error (.columnNotFound name)) := by
  intro h
  unfold tryGetAt at h
  split at h
  · cases h
  · obtain ⟨v, -, hv⟩ := Lib.Compute.bind_ok h
    cases hv

end Row

/-- The name of the column is `n` up to ASCII case. -/
def NamedCi (n : String) (md : ColumnMetadata) : Prop := eqIgnoreAsciiCase md.columnName n = true

instance (n : String) (md : ColumnMetadata) : Decidable (NamedCi n md) :=
  inferInstanceAs (Decidable (_ = true))

/-- What a lookup resolves to, and what a read makes of it. -/
structure Finds {α : Type} (r : Row) (fromSql : RowDecoder α) (n : String)
    (read : Compute (Result (Option α))) (resolved : Option Nat) : Prop where
  found : ∀ i, resolved = some i → read = r.tryGetAt fromSql i
  missing : resolved = none → read = .ok (.error (.columnNotFound n))
  /-- Nothing else is reported as a missing column. -/
  missing_only : ∀ name, read = .ok (.error (.columnNotFound name)) → resolved = none

/-- How a row of these columns looks names up. -/
structure NameLookup (metadata : List ColumnMetadata) (r : Row) (n : String) : Prop where
  /-- `column_index` is the first column of that exact name. -/
  index : ∀ i, r.columnIndex n = some i ↔ IsFirst (·.columnName = n) metadata i
  absent : r.columnIndex n = none ↔ ∀ md ∈ metadata, md.columnName ≠ n
  get : ∀ {α : Type} (fromSql : RowDecoder α),
    Finds r fromSql n (r.tryGet fromSql (.name n)) (r.columnIndex n)
  /-- Without an exact match, the first column of that name in any case. -/
  index_ci : ∀ i, r.resolveNameCi n = .ok i ↔ IsFirst (·.columnName = n) metadata i ∨
    (∀ md ∈ metadata, md.columnName ≠ n) ∧ IsFirst (NamedCi n) metadata i
  absent_ci : r.resolveNameCi n = .error (.columnNotFound n) ↔ ∀ md ∈ metadata, ¬NamedCi n md
  get_ci : ∀ {α : Type} (fromSql : RowDecoder α),
    Finds r fromSql n (r.tryGetCi fromSql n) (r.resolveNameCi n).toOption
  below : ∀ i, r.columnIndex n = some i ∨ r.resolve (.name n) = .ok i ∨
    r.resolveNameCi n = .ok i → i < metadata.length

section

variable {metadata : List ColumnMetadata} {r : Row} {n : String}

theorem Row.finds {α : Type} {r : Row} (fromSql : RowDecoder α) {n : String}
    {read : Compute (Result (Option α))} {resolved : Result Nat}
    (hread : read = match resolved with
      | .error e => return .error e
      | .ok idx => r.tryGetAt fromSql idx)
    (herror : ∀ e, resolved = .error e → e = .columnNotFound n) :
    Finds r fromSql n read resolved.toOption := by
  cases resolved with
  | ok i =>
    refine ⟨?_, ?_, ?_⟩
    · intro j hj
      cases hj
      exact hread
    · intro h
      cases h
    · intro name h
      exact absurd (hread.symm.trans h) (tryGetAt_ne_notFound r fromSql i name)
  | error e =>
    cases herror e rfl
    refine ⟨?_, fun _ => hread, fun _ _ => rfl⟩
    intro i h
    cases h

omit [MssqlTds] in
theorem NamedCi.of_name {md : ColumnMetadata} (h : md.columnName = n) : NamedCi n md := by
  unfold NamedCi
  rw [h]
  exact beq_self_eq_true _

theorem Row.resolve_name (r : Row) (n : String) :
    r.resolve (.name n) = match r.columnIndex n with
      | some i => .ok i
      | none => .error (.columnNotFound n) := rfl

theorem Row.resolve_name_toOption (r : Row) (n : String) :
    (r.resolve (.name n)).toOption = r.columnIndex n := by
  rw [resolve_name]
  cases r.columnIndex n <;> rfl

/-- The second stage searches the columns for the first of that name in any case. -/
theorem Row.resolveNameCi_eq (h : r.schema = .fromMetadata metadata) (n : String) :
    r.resolveNameCi n = match r.columnIndex n with
      | some i => .ok i
      | none =>
        match metadata.findIdx? fun md => decide (NamedCi n md) with
        | some i => .ok i
        | none => .error (.columnNotFound n) := by
  have hcolumns : r.schema.columns.findIdx? (fun c => eqIgnoreAsciiCase c.name n) =
      metadata.findIdx? fun md => decide (NamedCi n md) := by
    rw [h]
    show (metadata.map Column.fromTds).findIdx? _ = _
    rw [List.findIdx?_map]
    congr 1
    funext md
    exact Bool.decide_eq_true.symm
  rw [resolveNameCi, hcolumns]

end

theorem name_lookup (metadata : List ColumnMetadata) (r : Row) (n : String) :
    NameLookup metadata { r with schema := .fromMetadata metadata } n := by
  generalize hr : ({ r with schema := .fromMetadata metadata } : Row) = r'
  have h : r'.schema = .fromMetadata metadata := by rw [← hr]
  clear hr
  have hindex : ∀ i, r'.columnIndex n = some i ↔ IsFirst (·.columnName = n) metadata i := by
    intro i
    rw [Row.columnIndex, h]
    exact RowSchema.lookup_eq_some_iff
  have habsent : r'.columnIndex n = none ↔ ∀ md ∈ metadata, md.columnName ≠ n := by
    rw [Row.columnIndex, h]
    exact RowSchema.lookup_eq_none_iff
  have hci : ∀ i, r'.resolveNameCi n = .ok i ↔ IsFirst (·.columnName = n) metadata i ∨
      (∀ md ∈ metadata, md.columnName ≠ n) ∧ IsFirst (NamedCi n) metadata i := by
    intro i
    rw [Row.resolveNameCi_eq h, ← hindex, ← habsent, ← Lib.findIdx?_eq_some_iff_isFirst]
    cases r'.columnIndex n with
    | some j => simp
    | none => cases metadata.findIdx? fun md => decide (NamedCi n md) <;> simp
  refine
    { index := hindex, absent := habsent, index_ci := hci, get := ?_, absent_ci := ?_,
      get_ci := ?_, below := ?_ }
  · intro α fromSql
    rw [← Row.resolve_name_toOption]
    refine Row.finds fromSql rfl fun e he => ?_
    rw [Row.resolve_name] at he
    cases hi : r'.columnIndex n <;> rw [hi] at he <;> cases he
    rfl
  · rw [Row.resolveNameCi_eq h]
    cases hi : r'.columnIndex n with
    | some i =>
      obtain ⟨md, hmd, hname⟩ := ((hindex i).mp hi).holds
      refine iff_of_false (fun he => nomatch he) fun hno => ?_
      exact hno md (List.mem_of_getElem? hmd) (.of_name hname)
    | none =>
      simp only [← decide_eq_false_iff_not, ← List.findIdx?_eq_none_iff]
      cases metadata.findIdx? fun md => decide (NamedCi n md) <;> simp
  · intro α fromSql
    refine Row.finds fromSql rfl fun e he => ?_
    rw [Row.resolveNameCi_eq h] at he
    cases hi : r'.columnIndex n with
    | some i => rw [hi] at he; cases he
    | none =>
      cases hfold : metadata.findIdx? fun md => decide (NamedCi n md) <;>
        rw [hi, hfold] at he <;> cases he
      rfl
  · intro i hi
    have hfirst : ∀ {p : ColumnMetadata → Prop}, IsFirst p metadata i → i < metadata.length :=
      IsFirst.lt
    rcases hi with hi | hi | hi
    · exact hfirst ((hindex i).mp hi)
    · have hopt := congrArg Except.toOption hi
      rw [Row.resolve_name_toOption] at hopt
      exact hfirst ((hindex i).mp hopt)
    · rcases (hci i).mp hi with hi | ⟨-, hi⟩
      · exact hfirst hi
      · exact hfirst hi

end TiberiusBridge
