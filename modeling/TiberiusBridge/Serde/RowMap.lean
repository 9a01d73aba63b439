import TiberiusBridge.RowLookup
import TiberiusBridge.Tds.Reference

/-!
# Rows as maps

`serde` is handed the columns of a row in order, each name with its cell. A map
keeps the last cell of a name and a struct refuses a second one, while the
lookup by name keeps the first.
-/
namespace TiberiusBridge

open Lib (IsFirst)

section

variable [MssqlTds]

structure ColumnValueDeserializer where
  val : ColumnValues
  decoded : Option String

/-- What a `DeserializeSeed` makes of a cell. -/
abbrev ValueSeed (α : Type) := ColumnValueDeserializer → Result α

structure RowMapAccess where
  row : Row
  idx : Nat

namespace RowMapAccess

/-- The next column's name, through a seed for the key. -/
def nextKeySeed {κ : Type} (a : RowMapAccess) (seed : String → Result κ) : Result (Option κ) :=
  if a.idx ≥ a.row.values.length then .ok none
  else
    match a.row.columns[a.idx]? with
    | none => .error (.columnIndexOutOfBounds a.idx a.row.columns.length)
    | some column => (seed column.name).map some

/-- The cell of that column. It is passed even where it does not deserialize. -/
def nextValueSeed {α : Type} (a : RowMapAccess) (seed : ValueSeed α) : Result α × RowMapAccess :=
  match a.row.rawValue a.idx with
  | none => (.error (.columnIndexOutOfBounds a.idx a.row.values.length), a)
  | some val =>
    (seed { val, decoded := (a.row.decodedStrings[a.idx]?).join }, { a with idx := a.idx + 1 })

variable {a : RowMapAccess}

theorem nextKeySeed_some {κ : Type} {seed : String → Result κ} {key : κ}
    (h : a.nextKeySeed seed = .ok (some key)) : a.idx < a.row.values.length := by
  unfold nextKeySeed at h
  split at h
  · cases h
  · next hidx => exact Nat.lt_of_not_le hidx

theorem nextValueSeed_ok {α : Type} {seed : ValueSeed α} {x : α} {a' : RowMapAccess}
    (h : a.nextValueSeed seed = (.ok x, a')) : a' = { a with idx := a.idx + 1 } := by
  unfold nextValueSeed at h
  split at h
  · cases h
  · exact (Prod.mk.inj h).2.symm

end RowMapAccess

/-- A visitor's loop over the entries. `onKey` gives the seed for the value of a key. -/
def visitMap {σ : Type} (onKey : String → σ → Result (ValueSeed σ)) (a : RowMapAccess) (st : σ) :
    Result σ :=
  match _hkey : a.nextKeySeed .ok with
  | .error e => .error e
  | .ok none => .ok st
  | .ok (some key) =>
    match onKey key st with
    | .error e => .error e
    | .ok seed =>
      match _hvalue : a.nextValueSeed seed with
      | (.error e, _) => .error e
      | (.ok st, a') => visitMap onKey a' st
termination_by a.row.values.length - a.idx
decreasing_by
  have hlt := RowMapAccess.nextKeySeed_some _hkey
  cases RowMapAccess.nextValueSeed_ok _hvalue
  show a.row.values.length - (a.idx + 1) < a.row.values.length - a.idx
  omega

namespace Row

/-- `RowDeserializer::deserialize_map` and `deserialize_struct`. -/
def deserializeMap {σ : Type} (r : Row) (onKey : String → σ → Result (ValueSeed σ)) (st : σ) :
    Result σ :=
  visitMap onKey { row := r, idx := 0 } st

end Row

/-- A map from names to values. -/
abbrev NameMap (α : Type) := String → Option α

/-- A later value replaces an earlier one. -/
def NameMap.insert {α : Type} (m : NameMap α) (name : String) (v : α) : NameMap α :=
  fun n => if n = name then some v else m n

/-- The standard maps insert every entry. -/
def mapKey {α : Type} (seed : ValueSeed α) (key : String) (m : NameMap α) :
    Result (ValueSeed (NameMap α)) :=
  .ok fun cell => (seed cell).map (m.insert key)

def Row.toHashMap {α : Type} (r : Row) (seed : ValueSeed α) : Result (NameMap α) :=
  r.deserializeMap (mapKey seed) fun _ => none

/-- A field of a struct, and what its absence gives. Field types are one type here. -/
structure StructField (α : Type) where
  name : String
  seed : ValueSeed α
  missing : Result α

/-- The derived visitor. Columns of no field are ignored. -/
def structKey {α : Type} (fields : List (StructField α)) (key : String) (slots : NameMap α) :
    Result (ValueSeed (NameMap α)) :=
  match fields.find? (decide <| ·.name = key) with
  | none => .ok fun _ => .ok slots
  | some field =>
    if (slots key).isSome then .error (.conversion (.custom s!"duplicate field `{key}`"))
    else .ok fun cell => (field.seed cell).map (slots.insert key)

/-- The fields of the struct, in order. -/
def Row.toStruct {α : Type} (r : Row) (fields : List (StructField α)) : Result (List α) := do
  let slots ← r.deserializeMap (structKey fields) fun _ => none
  fields.mapM fun field => (slots field.name).elim field.missing .ok

/-- A column's name with the cell below it. -/
abbrev NamedCell := String × ColumnValueDeserializer

/-- What the visitor's loop does with one entry. -/
def visitEntry {σ : Type} (onKey : String → σ → Result (ValueSeed σ)) (st : σ) (e : NamedCell) :
    Result σ := do
  (← onKey e.1 st) e.2

/-- The cells of the columns called `n`, in order. -/
def named (n : String) (es : List NamedCell) : List ColumnValueDeserializer :=
  (es.filter (·.1 = n)).map Prod.snd

theorem named_cons_self (n : String) (cell : ColumnValueDeserializer) (es : List NamedCell) :
    named n ((n, cell) :: es) = cell :: named n es := by
  simp [named]

theorem named_cons_ne {n key : String} (h : key ≠ n) (cell : ColumnValueDeserializer)
    (es : List NamedCell) : named n ((key, cell) :: es) = named n es := by
  simp [named, h]

theorem mem_named {n : String} {cell : ColumnValueDeserializer} {es : List NamedCell} :
    cell ∈ named n es ↔ (n, cell) ∈ es := by
  simp only [named, List.mem_map, List.mem_filter, decide_eq_true_eq]
  constructor
  · rintro ⟨⟨key, cell⟩, ⟨he, rfl⟩, rfl⟩
    exact he
  · intro he
    exact ⟨(n, cell), ⟨he, rfl⟩, rfl⟩

namespace Row

def cellAt (r : Row) (i : Nat) : Option ColumnValueDeserializer :=
  r.values[i]?.map fun val => { val, decoded := (r.decodedStrings[i]?).join }

def entries (r : Row) : List NamedCell :=
  (r.columns.map Column.name).zip
    (r.values.mapIdx fun i val => { val, decoded := (r.decodedStrings[i]?).join })

theorem getElem?_entries (r : Row) (i : Nat) :
    r.entries[i]? = do return ((← r.columns[i]?).name, ← r.cellAt i) := by
  rw [entries, List.zip_eq_zipWith, List.getElem?_zipWith, List.getElem?_map, List.getElem?_mapIdx,
    cellAt]
  cases r.columns[i]? with
  | none => rfl
  | some column => cases r.values[i]? <;> rfl

theorem entries_length (r : Row) : r.entries.length = min r.columns.length r.values.length := by
  rw [entries, List.length_zip, List.length_map, List.length_mapIdx]

variable {σ : Type} (onKey : String → σ → Result (ValueSeed σ)) {r : Row} {i : Nat} {st : σ}

theorem visitMap_done (hi : r.values.length ≤ i) :
    visitMap onKey { row := r, idx := i } st = .ok st := by
  have hkey : RowMapAccess.nextKeySeed { row := r, idx := i } .ok =
      (.ok none : Result (Option String)) := if_pos hi
  rw [visitMap]
  split <;> rename_i h <;> rw [hkey] at h <;> cases h

theorem visitMap_missing (hi : i < r.values.length) (hcolumn : r.columns[i]? = none) :
    visitMap onKey { row := r, idx := i } st =
      .error (.columnIndexOutOfBounds i r.columns.length) := by
  have hkey : RowMapAccess.nextKeySeed { row := r, idx := i } .ok =
      (.error (.columnIndexOutOfBounds i r.columns.length) : Result (Option String)) := by
    rw [RowMapAccess.nextKeySeed, if_neg (Nat.not_le_of_lt hi)]
    dsimp only
    rw [hcolumn]
  rw [visitMap]
  split <;> rename_i h <;> rw [hkey] at h <;> cases h
  rfl

theorem visitMap_next {column : Column} {cell : ColumnValueDeserializer}
    (hcolumn : r.columns[i]? = some column) (hcell : r.cellAt i = some cell) :
    visitMap onKey { row := r, idx := i } st =
      visitEntry onKey st (column.name, cell) >>= visitMap onKey { row := r, idx := i + 1 } := by
  obtain ⟨val, hval, rfl⟩ := Option.map_eq_some_iff.mp hcell
  have hlt : i < r.values.length := (List.getElem?_eq_some_iff.mp hval).1
  have hkey : RowMapAccess.nextKeySeed { row := r, idx := i } .ok =
      (.ok (some column.name) : Result (Option String)) := by
    rw [RowMapAccess.nextKeySeed, if_neg (Nat.not_le_of_lt hlt)]
    dsimp only
    rw [hcolumn]
    rfl
  have hvalue : ∀ seed : ValueSeed σ, RowMapAccess.nextValueSeed { row := r, idx := i } seed =
      (seed { val, decoded := (r.decodedStrings[i]?).join }, { row := r, idx := i + 1 }) := by
    intro seed
    rw [RowMapAccess.nextValueSeed, rawValue]
    dsimp only
    rw [hval]
  rw [visitMap]
  split <;> rename_i h <;> rw [hkey] at h <;> cases h
  rw [visitEntry]
  cases onKey column.name st with
  | error e => rfl
  | ok seed =>
    dsimp only
    rw [Lib.Compute.ok_bind]
    split <;> rename_i h <;> rw [hvalue] at h <;> obtain ⟨hseed, rfl⟩ := Prod.mk.inj h <;>
      rw [hseed] <;> rfl

/-- The visitor sees the entries in order, and fails past the last column. -/
theorem visitMap_eq (hi : i ≤ r.columns.length) :
    visitMap onKey { row := r, idx := i } st = (do
      let st ← (r.entries.drop i).foldlM (visitEntry onKey) st
      if r.values.length ≤ r.columns.length then .ok st
      else .error (.columnIndexOutOfBounds r.columns.length r.columns.length)) := by
  induction hk : r.values.length - i generalizing i st with
  | zero =>
    have hdrop : r.entries.drop i = [] := by
      rw [List.drop_eq_nil_iff, entries_length]
      omega
    rw [visitMap_done onKey (by omega), hdrop, List.foldlM_nil, pure_bind, if_pos (by omega)]
  | succ k ih =>
    have hlt : i < r.values.length := by omega
    by_cases hcolumns : i = r.columns.length
    · have hdrop : r.entries.drop i = [] := by
        rw [List.drop_eq_nil_iff, entries_length]
        omega
      rw [visitMap_missing onKey hlt (List.getElem?_eq_none (by omega)), hdrop, List.foldlM_nil,
        pure_bind, if_neg (by omega), hcolumns]
    · have hcolumn : r.columns[i]? = some r.columns[i] := List.getElem?_eq_getElem (by omega)
      obtain ⟨cell, hcell⟩ : ∃ cell, r.cellAt i = some cell :=
        ⟨_, congrArg (Option.map _) (List.getElem?_eq_getElem hlt)⟩
      have hentry : r.entries[i]? = some (r.columns[i].name, cell) := by
        rw [getElem?_entries, hcolumn, hcell]
        rfl
      obtain ⟨hi', hget⟩ := List.getElem?_eq_some_iff.mp hentry
      rw [visitMap_next onKey hcolumn hcell, List.drop_eq_getElem_cons hi', hget, List.foldlM_cons,
        bind_assoc]
      exact bind_congr fun st' => ih (by omega) (by omega)

theorem deserializeMap_eq : r.deserializeMap onKey st = (do
    let st ← r.entries.foldlM (visitEntry onKey) st
    if r.values.length ≤ r.columns.length then .ok st
    else .error (.columnIndexOutOfBounds r.columns.length r.columns.length)) :=
  visitMap_eq onKey (Nat.zero_le _)

/-- The cell that `get` reads for a name. -/
def readCell (r : Row) (n : String) : Option ColumnValueDeserializer :=
  (r.resolve (.name n)).toOption.bind r.cellAt

theorem entries_name {metadata : List ColumnMetadata} (h : r.schema = .fromMetadata metadata)
    {j : Nat} {e : NamedCell} (he : r.entries[j]? = some e) :
    ∃ md, metadata[j]? = some md ∧ md.columnName = e.1 := by
  rw [getElem?_entries, columns, h] at he
  obtain ⟨column, hcolumn, he⟩ := Option.bind_eq_some_iff.mp he
  obtain ⟨cell, -, he⟩ := Option.bind_eq_some_iff.mp he
  cases he
  obtain ⟨md, hmd, rfl⟩ := Option.map_eq_some_iff.mp (List.getElem?_map.symm.trans hcolumn)
  exact ⟨md, hmd, rfl⟩

theorem find?_entries_eq_none {n : String}
    (h : ∀ (j : Nat) (e : NamedCell), r.entries[j]? = some e → e.1 ≠ n) :
    r.entries.find? (decide <| ·.1 = n) = none := by
  rw [List.find?_eq_none]
  intro e he
  obtain ⟨j, hj⟩ := List.mem_iff_getElem?.mp he
  rw [decide_eq_true_eq]
  exact h j e hj

/-- `get` reads the first cell of that name. -/
theorem readCell_eq_head? {metadata : List ColumnMetadata} (h : r.schema = .fromMetadata metadata)
    (n : String) : r.readCell n = (named n r.entries).head? := by
  rw [readCell, resolve_name_toOption, columnIndex, h, named, List.head?_map, List.head?_filter]
  cases hlookup : (RowSchema.fromMetadata metadata).nameMap.lookup n with
  | none =>
    rw [find?_entries_eq_none]
    · rfl
    intro j e hj
    obtain ⟨md, hmd, hname⟩ := entries_name h hj
    rw [← hname]
    exact RowSchema.lookup_eq_none_iff.mp hlookup md (List.mem_of_getElem? hmd)
  | some i =>
    have hfirst := RowSchema.lookup_eq_some_iff.mp hlookup
    obtain ⟨md, hmd, hmdn⟩ := hfirst.holds
    have hbefore : ∀ (j : Nat) (e : NamedCell), j < i → r.entries[j]? = some e → e.1 ≠ n := by
      intro j e hj he
      obtain ⟨md', hmd', hname⟩ := entries_name h he
      rw [← hname]
      exact hfirst.before j hj md' hmd'
    rw [Option.bind_some]
    cases hcell : r.cellAt i with
    | none =>
      rw [find?_entries_eq_none]
      · rfl
      intro j e he
      have hlen : r.values.length ≤ i :=
        List.getElem?_eq_none_iff.mp (Option.map_eq_none_iff.mp hcell)
      have hj := (List.getElem?_eq_some_iff.mp he).1
      rw [entries_length] at hj
      exact hbefore j e (by omega) he
    | some cell =>
      have hcolumn : r.columns[i]? = some (.fromTds md) := by
        rw [columns, h]
        exact List.getElem?_map.trans (congrArg _ hmd)
      have hentry : r.entries[i]? = some (md.columnName, cell) := by
        rw [getElem?_entries, hcolumn, hcell]
        rfl
      have hentries : IsFirst (·.1 = n) r.entries i :=
        ⟨⟨_, hentry, hmdn⟩, fun j hj e he => hbefore j e hj he⟩
      rw [hentries.find? hentry]
      rfl

end Row

section

variable {α : Type} {n : String}

/-- A map keeps the last cell of a name. -/
theorem foldlM_mapKey (seed : ValueSeed α) {es : List NamedCell}
    (hes : ∀ e ∈ es, ∃ x, seed e.2 = .ok x) (m : NameMap α) :
    ∃ m', es.foldlM (visitEntry (mapKey seed)) m = .ok m' ∧
      m' n = ((named n es).getLast?.bind fun cell => (seed cell).toOption).or (m n) := by
  induction es generalizing m with
  | nil => exact ⟨m, rfl, rfl⟩
  | cons e es ih =>
    obtain ⟨key, cell⟩ := e
    obtain ⟨x, hx⟩ := hes _ List.mem_cons_self
    obtain ⟨m', hm', hn⟩ := ih (fun e he => hes e (List.mem_cons_of_mem _ he)) (m.insert key x)
    have hstep : visitEntry (mapKey seed) m (key, cell) = .ok (m.insert key x) := by
      show (seed cell).map (m.insert key) = _
      rw [hx]
      rfl
    refine ⟨m', ?_, ?_⟩
    · rw [List.foldlM_cons, hstep]
      exact hm'
    · rw [hn]
      by_cases hkey : key = n
      · subst hkey
        rw [named_cons_self, List.getLast?_cons, NameMap.insert, if_pos rfl]
        cases hlast : (named key es).getLast? with
        | none =>
          rw [Option.getD_none, Option.bind_some, hx]
          rfl
        | some last =>
          have hmem := List.mem_cons_of_mem (key, cell) (mem_named.mp (List.mem_of_getLast? hlast))
          obtain ⟨y, hy⟩ := hes _ hmem
          rw [Option.getD_some, Option.bind_some, hy]
          rfl
      · rw [named_cons_ne hkey, NameMap.insert, if_neg (Ne.symm hkey)]

theorem visitEntry_ignored {fields : List (StructField α)} {key : String}
    (hkey : fields.find? (decide <| ·.name = key) = none) (slots : NameMap α)
    (cell : ColumnValueDeserializer) :
    visitEntry (structKey fields) slots (key, cell) = .ok slots := by
  rw [visitEntry, structKey, hkey]
  rfl

theorem visitEntry_field {fields : List (StructField α)} {field : StructField α} {key : String}
    (hkey : fields.find? (decide <| ·.name = key) = some field) (slots : NameMap α)
    (cell : ColumnValueDeserializer) :
    visitEntry (structKey fields) slots (key, cell) =
      if (slots key).isSome then .error (.conversion (.custom s!"duplicate field `{key}`"))
      else (field.seed cell).map (slots.insert key) := by
  rw [visitEntry, structKey, hkey]
  dsimp only
  split <;> rfl

/-- A struct takes at most one cell for a field. -/
theorem foldlM_structKey_le {fields : List (StructField α)}
    (hn : (fields.find? (decide <| ·.name = n)).isSome) {es : List NamedCell}
    {slots slots' : NameMap α}
    (h : es.foldlM (visitEntry (structKey fields)) slots = .ok slots') :
    (slots n).toList.length + (named n es).length ≤ 1 := by
  induction es generalizing slots with
  | nil => cases slots n <;> simp [named]
  | cons e es ih =>
    obtain ⟨key, cell⟩ := e
    rw [List.foldlM_cons] at h
    obtain ⟨slots₁, hslots, h⟩ := Lib.Compute.bind_ok h
    have hrest := ih h
    cases hfind : fields.find? (decide <| ·.name = key) with
    | none =>
      rw [visitEntry_ignored hfind] at hslots
      cases hslots
      have hkey : key ≠ n := by
        rintro rfl
        rw [hfind] at hn
        cases hn
      rwa [named_cons_ne hkey]
    | some field =>
      rw [visitEntry_field hfind] at hslots
      split at hslots
      · cases hslots
      next hempty =>
      obtain ⟨x, -, rfl⟩ : ∃ x, field.seed cell = .ok x ∧ slots.insert key x = slots₁ := by
        cases hx : field.seed cell <;> rw [hx] at hslots <;> cases hslots
        exact ⟨_, rfl, rfl⟩
      by_cases hkey : key = n
      · subst hkey
        rw [Option.not_isSome_iff_eq_none.mp hempty, named_cons_self]
        rw [NameMap.insert, if_pos rfl] at hrest
        simpa [Nat.add_comm] using hrest
      · rw [named_cons_ne hkey]
        rwa [NameMap.insert, if_neg (Ne.symm hkey)] at hrest

/-- Where no other field matches a column, the slot takes the one cell of that name. -/
theorem foldlM_structKey {fields : List (StructField α)} {field : StructField α}
    {cell : ColumnValueDeserializer} {x : α}
    (hfield : fields.find? (decide <| ·.name = n) = some field) (hx : field.seed cell = .ok x)
    {es : List NamedCell} (hes : ∀ e ∈ es, e.1 ≠ n → ∀ g ∈ fields, g.name ≠ e.1)
    {slots : NameMap α} (hcells : named n es = if (slots n).isSome then [] else [cell]) :
    es.foldlM (visitEntry (structKey fields)) slots =
      .ok (if (slots n).isSome then slots else slots.insert n x) := by
  induction es generalizing slots with
  | nil =>
    split at hcells
    · next hsome =>
      rw [if_pos hsome]
      rfl
    · cases hcells
  | cons e es ih =>
    obtain ⟨key, cell'⟩ := e
    have ih := @ih fun e he => hes e (List.mem_cons_of_mem _ he)
    by_cases hkey : key = n
    · subst hkey
      rw [named_cons_self] at hcells
      split at hcells
      · cases hcells
      next hempty =>
      obtain ⟨rfl, hrest⟩ := List.cons.inj hcells
      have hfilled : ((slots.insert key x) key).isSome := by
        rw [NameMap.insert, if_pos rfl]
        rfl
      rw [List.foldlM_cons, visitEntry_field hfield, if_neg hempty, hx, if_neg hempty]
      refine (ih (hrest.trans (if_pos hfilled).symm)).trans ?_
      rw [if_pos hfilled]
    · have hignored : fields.find? (decide <| ·.name = key) = none := by
        rw [List.find?_eq_none]
        intro g hg
        rw [decide_eq_true_eq]
        exact hes _ List.mem_cons_self hkey g hg
      rw [named_cons_ne hkey] at hcells
      rw [List.foldlM_cons, visitEntry_ignored hignored]
      exact ih hcells

theorem named_length {metadata : List ColumnMetadata} {r : Row}
    (h : r.schema = .fromMetadata metadata) : (named n r.entries).length =
      (metadata.take r.values.length).countP (decide <| ·.columnName = n) := by
  have hnames : r.entries.map Prod.fst = (metadata.take r.values.length).map (·.columnName) := by
    rw [Row.entries, Row.columns, h, List.zip_eq_zip_take_min, List.map_fst_zip (by simp)]
    simp only [RowSchema.fromMetadata, List.map_map, List.length_map, List.length_mapIdx,
      List.map_take, Function.comp_def, Column.fromTds]
    rw [List.take_eq_take_iff, List.length_map]
    omega
  rw [named, List.length_map, ← List.countP_eq_length_filter]
  have hcount := congrArg (List.countP (decide <| · = n)) hnames
  rwa [List.countP_map, List.countP_map] at hcount

end

/-- A name maps to the cell that `get` reads: in a map from names, and in a struct that has a
field for it and none for another column. -/
structure MapsAsGet (r : Row) (n : String) : Prop where
  map : ∀ {α : Type} (seed : ValueSeed α), (∀ e ∈ r.entries, ∃ x, seed e.2 = .ok x) →
    ∃ m, r.toHashMap seed = .ok m ∧ m n = (r.readCell n).bind fun cell => (seed cell).toOption
  struct : ∀ {α : Type} (fields : List (StructField α)) (field : StructField α) cell x,
    fields.find? (decide <| ·.name = n) = some field →
    (∀ g ∈ fields, g.name ≠ n → ∀ column ∈ r.columns, column.name ≠ g.name) →
    r.readCell n = some cell → field.seed cell = .ok x →
    r.toStruct fields = fields.mapM fun g => if g.name = n then .ok x else g.missing

section

variable {metadata : List ColumnMetadata} {r : Row} {n : String}

/-- The iteration over columns ends before the cells do only with an error. -/
theorem MapsAsGet.values_le (hmaps : MapsAsGet r n) : r.values.length ≤ r.columns.length := by
  obtain ⟨m, hm, -⟩ := hmaps.map (fun _ => .ok ()) fun _ _ => ⟨(), rfl⟩
  rw [Row.toHashMap, Row.deserializeMap_eq] at hm
  obtain ⟨m', -, hm⟩ := Lib.Compute.bind_ok hm
  split at hm
  · assumption
  · cases hm

/-- A struct of the one field would refuse a second cell. -/
theorem MapsAsGet.named_le (h : r.schema = .fromMetadata metadata) (hmaps : MapsAsGet r n) :
    (named n r.entries).length ≤ 1 := by
  cases hnamed : named n r.entries with
  | nil => exact Nat.zero_le 1
  | cons cell rest =>
    have hread : r.readCell n = some cell := by
      rw [Row.readCell_eq_head? h, hnamed]
      rfl
    let field : StructField Unit := ⟨n, fun _ => .ok (), .ok ()⟩
    have hfind : [field].find? (decide <| ·.name = n) = some field :=
      List.find?_cons_of_pos (decide_eq_true rfl)
    have hother : ∀ g ∈ [field], g.name ≠ n → ∀ column ∈ r.columns, column.name ≠ g.name := by
      intro g hg hne
      cases List.mem_singleton.mp hg
      exact absurd rfl hne
    have hstruct := hmaps.struct [field] field cell () hfind hother hread rfl
    have hfields : ([field].mapM fun g => if g.name = n then .ok () else g.missing) =
        (.ok [()] : Result (List Unit)) := by
      simp [field]
    rw [hfields, Row.toStruct, Row.deserializeMap_eq] at hstruct
    obtain ⟨slots, hslots, -⟩ := Lib.Compute.bind_ok hstruct
    obtain ⟨slots', hfold, -⟩ := Lib.Compute.bind_ok hslots
    rw [← hnamed]
    have hle := foldlM_structKey_le (by rw [hfind]; rfl) hfold
    exact Nat.le_trans (Nat.le_add_left _ _) hle

variable (h : r.schema = .fromMetadata metadata) (hvalues : r.values.length ≤ r.columns.length)
  (hone : (named n r.entries).length ≤ 1)

include h hvalues hone

theorem toHashMap_reads {α : Type} (seed : ValueSeed α)
    (hseed : ∀ e ∈ r.entries, ∃ x, seed e.2 = .ok x) :
    ∃ m, r.toHashMap seed = .ok m ∧
      m n = (r.readCell n).bind fun cell => (seed cell).toOption := by
  obtain ⟨m, hm, hn⟩ := foldlM_mapKey seed (n := n) hseed fun _ => none
  refine ⟨m, ?_, ?_⟩
  · rw [Row.toHashMap, Row.deserializeMap_eq, hm, Lib.Compute.ok_bind, if_pos hvalues]
  · rw [hn, Row.readCell_eq_head? h, Option.or_none]
    match named n r.entries, hone with
    | [], _ => rfl
    | [cell], _ => rfl

theorem toStruct_reads {α : Type} {fields : List (StructField α)} {field : StructField α}
    {cell : ColumnValueDeserializer} {x : α}
    (hfield : fields.find? (decide <| ·.name = n) = some field)
    (hother : ∀ g ∈ fields, g.name ≠ n → ∀ column ∈ r.columns, column.name ≠ g.name)
    (hcell : r.readCell n = some cell) (hx : field.seed cell = .ok x) :
    r.toStruct fields = fields.mapM fun g => if g.name = n then .ok x else g.missing := by
  have hnamed : named n r.entries = [cell] := by
    rw [Row.readCell_eq_head? h] at hcell
    match hl : named n r.entries, hone, hcell with
    | [_], _, rfl => rfl
  have hes : ∀ e ∈ r.entries, e.1 ≠ n → ∀ g ∈ fields, g.name ≠ e.1 := by
    intro e he hne g hg hname
    obtain ⟨column, hcolumn, hcname⟩ := List.mem_map.mp (List.of_mem_zip he).1
    exact hother g hg (hname ▸ hne) column hcolumn (hcname.trans hname.symm)
  have hfold : r.entries.foldlM (visitEntry (structKey fields)) (fun _ => none) =
      .ok (NameMap.insert (fun _ => none) n x) := foldlM_structKey hfield hx hes hnamed
  rw [Row.toStruct, Row.deserializeMap_eq, hfold, Lib.Compute.ok_bind, if_pos hvalues,
    Lib.Compute.ok_bind]
  congr 1
  funext g
  rw [NameMap.insert]
  split <;> rfl

end

/-- Rows map as `get` reads them exactly where at most one cell has the name. -/
theorem maps_as_get_iff (metadata : List ColumnMetadata) (r : Row) (n : String) :
    MapsAsGet { r with schema := .fromMetadata metadata } n ↔
      r.values.length ≤ metadata.length ∧
        (metadata.take r.values.length).countP (decide <| ·.columnName = n) ≤ 1 := by
  generalize hr : ({ r with schema := .fromMetadata metadata } : Row) = r'
  have h : r'.schema = .fromMetadata metadata := by rw [← hr]
  have hvalues : r.values = r'.values := by rw [← hr]
  have hcolumns : metadata.length = r'.columns.length := by
    rw [Row.columns, h]
    exact (List.length_map _).symm
  rw [hvalues, hcolumns, ← named_length h]
  constructor
  · intro hmaps
    exact ⟨hmaps.values_le, hmaps.named_le h⟩
  · rintro ⟨hle, hone⟩
    constructor
    · intro α seed hseed
      exact toHashMap_reads h hle hone seed hseed
    · intro α fields field cell x hfield hother hcell hx
      exact toStruct_reads h hle hone hfield hother hcell hx

end

section

open Reference

/-- Two columns `id` over the cells 1 and 2. -/
def joinedRow : Row where
  schema := .fromMetadata [{ columnName := "id", dataType := .int4, length := 4 },
    { columnName := "id", dataType := .int4, length := 4 }]
  values := [.int 1, .int 2]
  resultIndex := 0
  decodedStrings := [none, none]

/-- The map has the second cell where `get` reads the first. -/
theorem joinedRow_maps_second : ¬MapsAsGet joinedRow "id" := by
  intro h
  let seed : ValueSeed ColumnValues := fun cell => .ok cell.val
  have hread : joinedRow.readCell "id" = some { val := .int 1, decoded := none } := rfl
  have hmap : joinedRow.toHashMap seed =
      .ok ((NameMap.insert (fun _ => none) "id" (.int 1)).insert "id" (.int 2)) := by
    rw [Row.toHashMap, Row.deserializeMap_eq]
    rfl
  obtain ⟨m, hm, hid⟩ := h.map seed fun e _ => ⟨_, rfl⟩
  cases hmap.symm.trans hm
  rw [hread] at hid
  have hcells : some (ColumnValues.int 2) = some (.int 1) := hid
  simp at hcells

end

end TiberiusBridge
