import Mathlib.Data.List.Forall2
import TiberiusBridge.Serde.RowMap

/-!
# Structs by name

A derived visitor fills the slots of its fields from the columns of a row, in
whatever order the columns come. What it returns is decided by the cells of
each field's own name.
-/
namespace TiberiusBridge

section

variable [MssqlTds] {α : Type}

/-- How the cells of one name fill the slot of a field. -/
inductive Fills (seed : ValueSeed α) : Option α → List ColumnValueDeserializer → Option α → Prop
  | kept (slot : Option α) : Fills seed slot [] slot
  | taken {cell : ColumnValueDeserializer} {x : α} (h : seed cell = .ok x) :
    Fills seed none [cell] (some x)

namespace Fills

variable {seed : ValueSeed α} {slot slot' : Option α} {cell : ColumnValueDeserializer}
  {cells : List ColumnValueDeserializer} {x : α}

theorem nil_iff : Fills seed slot [] slot' ↔ slot' = slot := by
  constructor
  · intro h
    cases h
    rfl
  · rintro rfl
    exact .kept _

/-- A slot takes one cell, and the cells after it fill what that leaves. -/
theorem cons_iff :
    Fills seed slot (cell :: cells) slot' ↔
      slot = none ∧ ∃ x, seed cell = .ok x ∧ Fills seed (some x) cells slot' := by
  constructor
  · intro h
    cases h with
    | taken hx => exact ⟨rfl, _, hx, .kept _⟩
  · rintro ⟨rfl, x, hx, h⟩
    cases h
    exact .taken hx

end Fills

/-- The slots after a visit, by the field that takes each name. -/
structure Filled (fields : List (StructField α)) (es : List NamedCell) (slots slots' : NameMap α) :
    Prop where
  other : ∀ n, fields.find? (decide <| ·.name = n) = none → slots' n = slots n
  field : ∀ n f, fields.find? (decide <| ·.name = n) = some f →
    Fills f.seed (slots n) (named n es) (slots' n)

section

variable {fields : List (StructField α)} {es : List NamedCell} {slots slots' : NameMap α}
  {key : String} {cell : ColumnValueDeserializer}

theorem filled_nil : Filled fields [] slots slots' ↔ slots' = slots := by
  constructor
  · intro h
    funext n
    cases hn : fields.find? (decide <| ·.name = n) with
    | none => exact h.other n hn
    | some f => exact Fills.nil_iff.mp (h.field n f hn)
  · rintro rfl
    exact ⟨fun _ _ => rfl, fun _ _ _ => .kept _⟩

theorem filled_ignored (hkey : fields.find? (decide <| ·.name = key) = none) :
    Filled fields ((key, cell) :: es) slots slots' ↔ Filled fields es slots slots' := by
  have hnamed : ∀ n f, fields.find? (decide <| ·.name = n) = some f →
      named n ((key, cell) :: es) = named n es := by
    intro n f hn
    apply named_cons_ne
    rintro rfl
    cases hkey.symm.trans hn
  constructor
  · intro h
    refine ⟨h.other, fun n f hn => ?_⟩
    rw [← hnamed n f hn]
    exact h.field n f hn
  · intro h
    refine ⟨h.other, fun n f hn => ?_⟩
    rw [hnamed n f hn]
    exact h.field n f hn

theorem filled_field {f : StructField α} (hkey : fields.find? (decide <| ·.name = key) = some f) :
    Filled fields ((key, cell) :: es) slots slots' ↔
      slots key = none ∧ ∃ x, f.seed cell = .ok x ∧
        Filled fields es (slots.insert key x) slots' := by
  have hself : ∀ x, slots.insert key x key = some x := fun x => if_pos rfl
  have hne : ∀ {n x}, n ≠ key → slots.insert key x n = slots n := fun h => if_neg h
  constructor
  · intro h
    have hat := h.field key f hkey
    rw [named_cons_self, Fills.cons_iff] at hat
    obtain ⟨hempty, x, hx, hrest⟩ := hat
    refine ⟨hempty, x, hx, ?_, ?_⟩
    · intro n hn
      have hnkey : n ≠ key := by
        rintro rfl
        cases hkey.symm.trans hn
      rw [hne hnkey]
      exact h.other n hn
    · intro n g hn
      by_cases hnkey : n = key
      · subst hnkey
        cases hkey.symm.trans hn
        rw [hself]
        exact hrest
      · rw [hne hnkey, ← named_cons_ne (Ne.symm hnkey) cell]
        exact h.field n g hn
  · rintro ⟨hempty, x, hx, h⟩
    refine ⟨?_, ?_⟩
    · intro n hn
      have hnkey : n ≠ key := by
        rintro rfl
        cases hkey.symm.trans hn
      rw [h.other n hn, hne hnkey]
    · intro n g hn
      have hat := h.field n g hn
      by_cases hnkey : n = key
      · subst hnkey
        cases hkey.symm.trans hn
        rw [hself] at hat
        rw [named_cons_self, Fills.cons_iff]
        exact ⟨hempty, x, hx, hat⟩
      · rw [hne hnkey] at hat
        rw [named_cons_ne (Ne.symm hnkey)]
        exact hat

/-- The visit succeeds exactly where every field finds at most one cell, and takes it. -/
theorem foldlM_structKey_ok_iff :
    es.foldlM (visitEntry (structKey fields)) slots = .ok slots' ↔
      Filled fields es slots slots' := by
  induction es generalizing slots with
  | nil =>
    rw [filled_nil, List.foldlM_nil]
    constructor
    · intro h
      cases h
      rfl
    · rintro rfl
      rfl
  | cons e es ih =>
    obtain ⟨key, cell⟩ := e
    rw [List.foldlM_cons]
    cases hkey : fields.find? (decide <| ·.name = key) with
    | none =>
      rw [visitEntry_ignored hkey, filled_ignored hkey, ← ih]
      rfl
    | some f =>
      rw [visitEntry_field hkey, filled_field hkey]
      cases hslot : slots key with
      | some y =>
        constructor
        · intro h
          cases h
        · rintro ⟨h, -⟩
          cases h
      | none =>
        cases hx : f.seed cell with
        | error e =>
          constructor
          · intro h
            cases h
          · rintro ⟨-, x, h, -⟩
            cases h
        | ok x =>
          constructor
          · intro h
            exact ⟨rfl, x, rfl, ih.mp h⟩
          · rintro ⟨-, y, hy, h⟩
            cases hy
            exact ih.mpr h

end

/-- What a field is given by the cells of its name. -/
inductive StructField.Reads (field : StructField α) : List ColumnValueDeserializer → α → Prop
  | missing {x : α} (h : field.missing = .ok x) : Reads field [] x
  | cell {cell : ColumnValueDeserializer} {x : α} (h : field.seed cell = .ok x) :
    Reads field [cell] x

namespace StructField

variable {field : StructField α} {cells : List ColumnValueDeserializer} {x : α}

/-- A field is read from the slot that its cells fill. -/
theorem reads_iff {slot : Option α} (h : Fills field.seed none cells slot) :
    field.Reads cells x ↔ slot.elim field.missing .ok = .ok x := by
  constructor
  · intro hreads
    cases hreads with
    | missing hx =>
      cases h
      exact hx
    | cell hx =>
      cases h with
      | taken hy => exact hy.symm.trans hx
  · intro hx
    cases h with
    | kept => exact .missing hx
    | taken hy =>
      cases hx
      exact .cell hy

theorem Reads.fills (h : field.Reads cells x) : ∃ slot, Fills field.seed none cells slot := by
  cases h with
  | missing => exact ⟨none, .kept none⟩
  | cell hx => exact ⟨some x, .taken hx⟩

/-- A field reads the same from its cells in any order. -/
theorem Reads.perm {cells' : List ColumnValueDeserializer} (h : field.Reads cells x)
    (hperm : cells.Perm cells') : field.Reads cells' x := by
  cases h with
  | missing hx =>
    cases hperm.nil_eq
    exact .missing hx
  | cell hx =>
    cases hperm.singleton_eq
    exact .cell hx

end StructField

/-- The fields of a struct have names of their own. -/
def DistinctFields (fields : List (StructField α)) : Prop := (fields.map (·.name)).Nodup

theorem DistinctFields.find? {fields : List (StructField α)} (h : DistinctFields fields)
    {f : StructField α} (hf : f ∈ fields) :
    fields.find? (decide <| ·.name = f.name) = some f := by
  induction fields with
  | nil => cases hf
  | cons g fields ih =>
    obtain ⟨hg, hrest⟩ := List.nodup_cons.mp h
    rcases List.mem_cons.mp hf with rfl | hf
    · exact List.find?_cons_of_pos (decide_eq_true rfl)
    · rw [List.find?_cons_of_neg]
      · exact ih hrest hf
      · rw [decide_eq_true_eq]
        intro hname
        exact hg (List.mem_map.mpr ⟨f, hf, hname.symm⟩)

/-- What a struct reads of named cells, field by field. -/
def ReadsStruct (fields : List (StructField α)) (es : List NamedCell) : List α → Prop :=
  List.Forall₂ (fun f x => f.Reads (named f.name es) x) fields

section

variable {fields : List (StructField α)} {es : List NamedCell} {slots : NameMap α} {xs : List α}

theorem readsStruct_iff_of_filled (hfields : DistinctFields fields)
    (h : Filled fields es (fun _ => none) slots) :
    ReadsStruct fields es xs ↔
      fields.mapM (fun f => (slots f.name).elim f.missing .ok) = .ok xs := by
  rw [Lib.mapM_ok_iff]
  refine Lib.forall₂_congr fun f hf x => ?_
  exact f.reads_iff (h.field f.name f (hfields.find? hf))

/-- Where every field reads its cells, the visit fills the slots. -/
theorem ReadsStruct.filled (h : ReadsStruct fields es xs) :
    ∃ slots, Filled fields es (fun _ => none) slots := by
  have hslot : ∀ n, ∃ slot : Option α,
      (fields.find? (decide <| ·.name = n) = none → slot = none) ∧
        ∀ f, fields.find? (decide <| ·.name = n) = some f →
          Fills f.seed none (named n es) slot := by
    intro n
    cases hn : fields.find? (decide <| ·.name = n) with
    | none =>
      refine ⟨none, fun _ => rfl, ?_⟩
      intro f hf
      cases hf
    | some f =>
      obtain ⟨x, -, hx⟩ := Lib.forall₂_mem_left h (List.mem_of_find?_eq_some hn)
      have hname := List.find?_some hn
      rw [decide_eq_true_eq] at hname
      rw [hname] at hx
      obtain ⟨slot, hslot⟩ := hx.fills
      refine ⟨slot, ?_, ?_⟩
      · intro hno
        cases hno
      · intro g hg
        cases hg
        exact hslot
  choose slots hother hfield using hslot
  exact ⟨slots, hother, hfield⟩

end

/-- A row becomes a struct exactly where every field reads the cells of its name. -/
theorem Row.toStruct_ok_iff {r : Row} {fields : List (StructField α)} {xs : List α}
    (hfields : DistinctFields fields) :
    r.toStruct fields = .ok xs ↔
      r.values.length ≤ r.columns.length ∧ ReadsStruct fields r.entries xs := by
  rw [toStruct, deserializeMap_eq]
  constructor
  · intro h
    obtain ⟨slots, hslots, hxs⟩ := Lib.Compute.bind_ok h
    obtain ⟨slots', hfold, hle⟩ := Lib.Compute.bind_ok hslots
    split at hle <;> cases hle
    next hle =>
    exact ⟨hle, (readsStruct_iff_of_filled hfields (foldlM_structKey_ok_iff.mp hfold)).mpr hxs⟩
  · rintro ⟨hle, h⟩
    obtain ⟨slots, hslots⟩ := h.filled
    rw [foldlM_structKey_ok_iff.mpr hslots, Lib.Compute.ok_bind, if_pos hle, Lib.Compute.ok_bind]
    exact (readsStruct_iff_of_filled hfields hslots).mp h

/-- The columns that some field is named after. -/
def fieldCells (fields : List (StructField α)) (es : List NamedCell) : List NamedCell :=
  es.filter fun e => fields.any (decide <| ·.name = e.1)

theorem named_fieldCells {fields : List (StructField α)} {f : StructField α} (hf : f ∈ fields)
    (es : List NamedCell) : named f.name (fieldCells fields es) = named f.name es := by
  unfold named fieldCells
  rw [List.filter_filter]
  congr 1
  apply List.filter_congr
  intro e _
  by_cases hname : e.1 = f.name
  · have hany : fields.any (decide <| ·.name = e.1) = true :=
      List.any_eq_true.mpr ⟨f, hf, decide_eq_true hname.symm⟩
    rw [hany, Bool.and_true]
  · rw [decide_eq_false hname, Bool.false_and]

/-- What a struct reads depends on the columns of its fields only, in any order. -/
theorem ReadsStruct.perm {fields : List (StructField α)} {es es' : List NamedCell} {xs : List α}
    (h : ReadsStruct fields es xs) (hperm : (fieldCells fields es).Perm (fieldCells fields es')) :
    ReadsStruct fields es' xs := by
  refine (Lib.forall₂_congr fun f hf x => ?_).mp h
  have hcells : (named f.name es).Perm (named f.name es') := by
    rw [← named_fieldCells hf es, ← named_fieldCells hf es']
    exact (hperm.filter _).map _
  exact ⟨fun hx => hx.perm hcells, fun hx => hx.perm hcells.symm⟩

/-- How a row becomes a struct. -/
structure RowStructs (r : Row) (fields : List (StructField α)) : Prop where
  /-- A field without a column takes its default, one with two columns is refused. -/
  reads : ∀ xs, r.toStruct fields = .ok xs ↔
    r.values.length ≤ r.columns.length ∧ ReadsStruct fields r.entries xs
  /-- The cell of a field is the one that `get` reads. -/
  get : ∀ xs, r.toStruct fields = .ok xs →
    List.Forall₂ (fun f x => (r.readCell f.name).elim f.missing f.seed = .ok x) fields xs
  /-- The order of the columns and those of no field make no difference. -/
  reordered : ∀ (r' : Row) xs, r'.values.length ≤ r'.columns.length →
    (fieldCells fields r.entries).Perm (fieldCells fields r'.entries) →
      r.toStruct fields = .ok xs → r'.toStruct fields = .ok xs

theorem row_structs (metadata : List ColumnMetadata) (r : Row) (fields : List (StructField α))
    (hfields : DistinctFields fields) :
    RowStructs { r with schema := .fromMetadata metadata } fields := by
  refine ⟨fun xs => Row.toStruct_ok_iff hfields, ?_, ?_⟩
  · intro xs hxs
    refine ((Row.toStruct_ok_iff hfields).mp hxs).2.imp fun f x hx => ?_
    rw [Row.readCell_eq_head? rfl]
    generalize named f.name _ = cells at hx
    cases hx with
    | missing hx => exact hx
    | cell hx => exact hx
  · intro r' xs hle hperm hxs
    rw [Row.toStruct_ok_iff hfields] at hxs ⊢
    exact ⟨hle, hxs.2.perm hperm⟩

end

section

open Reference

/-- The cells 1 and 2 below `a` and `b`. -/
def pairRow : Row where
  schema := .fromMetadata [{ columnName := "a", dataType := .int4, length := 4 },
    { columnName := "b", dataType := .int4, length := 4 }]
  values := [.int 1, .int 2]
  resultIndex := 0
  decodedStrings := [none, none]

/-- A required field that takes the cell as it is. -/
def cellField (name : String) : StructField ColumnValues where
  name := name
  seed cell := .ok cell.val
  missing := .error (.conversion (.custom s!"missing field `{name}`"))

theorem row_structs_swapped :
    pairRow.toStruct [cellField "b", cellField "a"] = .ok [.int 2, .int 1] := by
  have hfields : DistinctFields [cellField "b", cellField "a"] := by
    unfold DistinctFields
    decide
  refine ((row_structs _ pairRow _ hfields).reads [.int 2, .int 1]).mpr ⟨by decide, ?_⟩
  exact .cons (.cell rfl) (.cons (.cell rfl) .nil)

end

end TiberiusBridge
