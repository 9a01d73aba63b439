import TiberiusBridge.Serde.Integers
import TiberiusBridge.Serde.Structs

/-!
# Rows as sequences

A sequence is handed the cells of a row by position, without their names. A
cell that does not deserialize stays where it is.
-/
namespace TiberiusBridge

open Lib (Compute subUnsigned)

section

variable [MssqlTds]

namespace Row

/-- The cells by position. -/
def cellList (r : Row) : List ColumnValueDeserializer :=
  r.values.mapIdx fun i val => { val, decoded := (r.decodedStrings[i]?).join }

theorem getElem?_cellList (r : Row) (i : Nat) : r.cellList[i]? = r.cellAt i := List.getElem?_mapIdx

theorem lt_of_cellAt {r : Row} {i : Nat} {cell : ColumnValueDeserializer}
    (h : r.cellAt i = some cell) : i < r.values.length := by
  obtain ⟨val, hval, -⟩ := Option.map_eq_some_iff.mp h
  exact (List.getElem?_eq_some_iff.mp hval).1

theorem cellList_length (r : Row) : r.cellList.length = r.values.length := List.length_mapIdx

end Row

structure RowSeqAccess where
  row : Row
  idx : Nat

namespace RowSeqAccess

/-- The next cell. Unlike a map's value, it is passed only where it deserializes. -/
def nextElementSeed {α : Type} (a : RowSeqAccess) (seed : ValueSeed α) :
    Result (Option α) × RowSeqAccess :=
  if a.idx ≥ a.row.values.length then (.ok none, a)
  else
    match a.row.rawValue a.idx with
    | none => (.error (.columnIndexOutOfBounds a.idx a.row.values.length), a)
    | some val =>
      match seed { val, decoded := (a.row.decodedStrings[a.idx]?).join } with
      | .error e => (.error e, a)
      | .ok v => (.ok (some v), { a with idx := a.idx + 1 })

def sizeHint (a : RowSeqAccess) : Compute (Option Nat) := do
  return some (← subUnsigned a.row.values.length a.idx)

/-- What a call is answered at the cell, if there is one. -/
def answer {α : Type} (seed : ValueSeed α) : Option ColumnValueDeserializer → Result (Option α)
  | none => .ok none
  | some cell => (seed cell).map some

/-- An answer with an element. -/
def Hands {α : Type} : Result (Option α) → Bool
  | .ok (some _) => true
  | _ => false

section

variable {α : Type} (a : RowSeqAccess) (seed : ValueSeed α)

/-- A call is answered at the position, and moves on by the element it hands out. -/
theorem nextElementSeed_eq :
    a.nextElementSeed seed = (answer seed (a.row.cellAt a.idx),
      { a with idx := a.idx + (Hands (answer seed (a.row.cellAt a.idx))).toNat }) := by
  unfold nextElementSeed Row.rawValue Row.cellAt
  by_cases hidx : a.idx ≥ a.row.values.length
  · rw [if_pos hidx, List.getElem?_eq_none hidx]
    rfl
  · rw [if_neg hidx, List.getElem?_eq_getElem (by omega), Option.map_some]
    dsimp only [answer]
    cases seed _ <;> rfl

variable {a seed} {a' : RowSeqAccess}

theorem nextElementSeed_error {e : Error} (h : a.nextElementSeed seed = (.error e, a')) :
    ∃ cell, a.row.cellAt a.idx = some cell ∧ seed cell = .error e := by
  rw [nextElementSeed_eq] at h
  have hanswer := (Prod.mk.inj h).1
  cases hcell : a.row.cellAt a.idx with
  | none =>
    rw [hcell] at hanswer
    cases hanswer
  | some cell =>
    rw [hcell, answer] at hanswer
    cases hseed : seed cell with
    | ok v =>
      rw [hseed] at hanswer
      cases hanswer
    | error e' =>
      rw [hseed] at hanswer
      cases hanswer
      exact ⟨cell, rfl, hseed⟩

theorem nextElementSeed_none (h : a.nextElementSeed seed = (.ok none, a')) :
    a.row.cellAt a.idx = none := by
  rw [nextElementSeed_eq] at h
  have hanswer := (Prod.mk.inj h).1
  cases hcell : a.row.cellAt a.idx with
  | none => rfl
  | some cell =>
    rw [hcell, answer] at hanswer
    cases hseed : seed cell <;> rw [hseed] at hanswer <;> cases hanswer

theorem nextElementSeed_some {v : α} (h : a.nextElementSeed seed = (.ok (some v), a')) :
    a' = { a with idx := a.idx + 1 } ∧
      ∃ cell, a.row.cellAt a.idx = some cell ∧ seed cell = .ok v := by
  rw [nextElementSeed_eq] at h
  obtain ⟨hanswer, rfl⟩ := Prod.mk.inj h
  rw [hanswer]
  refine ⟨rfl, ?_⟩
  cases hcell : a.row.cellAt a.idx with
  | none =>
    rw [hcell] at hanswer
    cases hanswer
  | some cell =>
    rw [hcell, answer] at hanswer
    cases hseed : seed cell <;> rw [hseed] at hanswer <;> cases hanswer
    exact ⟨cell, rfl, hseed⟩

end

/-- Any sequence of calls, each with a seed of its own. -/
def calls {α : Type} (a : RowSeqAccess) :
    List (ValueSeed α) → List (Result (Option α)) × RowSeqAccess
  | [] => ([], a)
  | seed :: seeds =>
    let (first, a) := a.nextElementSeed seed
    let (rest, a) := a.calls seeds
    (first :: rest, a)

section

variable {α : Type} (a : RowSeqAccess) (seeds : List (ValueSeed α))

theorem calls_row : (a.calls seeds).2.row = a.row := by
  induction seeds generalizing a with
  | nil => rfl
  | cons seed seeds ih =>
    rw [calls, nextElementSeed_eq]
    exact ih _

theorem add_countP_hands (n : Nat) (first : Result (Option α)) (rest : List (Result (Option α))) :
    n + (Hands first).toNat + rest.countP Hands = n + (first :: rest).countP Hands := by
  rw [List.countP_cons]
  cases Hands first with
  | false => rfl
  | true =>
    show n + 1 + rest.countP Hands = n + (rest.countP Hands + 1)
    omega

/-- The position counts the elements handed out. -/
theorem calls_idx : (a.calls seeds).2.idx = a.idx + (a.calls seeds).1.countP Hands := by
  induction seeds generalizing a with
  | nil => rfl
  | cons seed seeds ih =>
    rw [calls, nextElementSeed_eq, ← add_countP_hands]
    exact ih _

theorem calls_answer (k : Nat) :
    (a.calls seeds).1[k]? = seeds[k]?.map fun seed =>
      answer seed (a.row.cellAt (a.idx + ((a.calls seeds).1.take k).countP Hands)) := by
  induction seeds generalizing a k with
  | nil => rfl
  | cons seed seeds ih =>
    rw [calls, nextElementSeed_eq]
    cases k with
    | zero => rfl
    | succ k =>
      rw [List.getElem?_cons_succ, List.getElem?_cons_succ, List.take_succ_cons,
        ← add_countP_hands]
      exact ih _ k

/-- The position stays within the row. -/
theorem calls_le (h : a.idx ≤ a.row.values.length) :
    (a.calls seeds).2.idx ≤ a.row.values.length := by
  induction seeds generalizing a with
  | nil => exact h
  | cons seed seeds ih =>
    rw [calls, nextElementSeed_eq]
    refine ih _ ?_
    dsimp only [Row.cellAt]
    rcases Nat.lt_or_ge a.idx a.row.values.length with hlt | hge
    · have hone := Bool.toNat_le (Hands (answer seed (a.row.cellAt a.idx)))
      exact Nat.le_trans (Nat.add_le_add_left hone _) hlt
    · rw [List.getElem?_eq_none hge]
      exact h

end

end RowSeqAccess

/-- `Vec`: elements until there are none. -/
def visitVec {α : Type} (seed : ValueSeed α) (a : RowSeqAccess) : Result (List α) :=
  match _hnext : a.nextElementSeed seed with
  | (.error e, _) => .error e
  | (.ok none, _) => .ok []
  | (.ok (some v), a') => (visitVec seed a').map (v :: ·)
termination_by a.row.values.length - a.idx
decreasing_by
  obtain ⟨rfl, cell, hcell, -⟩ := RowSeqAccess.nextElementSeed_some _hnext
  have hlt := Row.lt_of_cellAt hcell
  show a.row.values.length - (a.idx + 1) < a.row.values.length - a.idx
  omega

/-- The default `de::Error::invalid_length`. -/
def invalidLength (len : Nat) (expecting : String) : Error :=
  .conversion (.custom s!"invalid length {len}, expected {expecting}")

/-- A tuple: as many elements as it has types. `expecting` is its text in the error. -/
def visitTuple {α : Type} (expecting : String) (a : RowSeqAccess) (len : Nat) :
    List (ValueSeed α) → Result (List α)
  | [] => .ok []
  | seed :: seeds =>
    match a.nextElementSeed seed with
    | (.error e, _) => .error e
    | (.ok none, _) => .error (invalidLength len expecting)
    | (.ok (some v), a) => (visitTuple expecting a (len + 1) seeds).map (v :: ·)

namespace Row

/-- `RowDeserializer::deserialize_seq`. -/
def toVec {α : Type} (r : Row) (seed : ValueSeed α) : Result (List α) :=
  visitVec seed { row := r, idx := 0 }

/-- `RowDeserializer::deserialize_tuple` and `deserialize_tuple_struct`. -/
def toTuple {α : Type} (r : Row) (expecting : String) (seeds : List (ValueSeed α)) :
    Result (List α) :=
  visitTuple expecting { row := r, idx := 0 } 0 seeds

end Row

section

variable {α : Type} {r : Row} {i : Nat}

theorem drop_cellList_of_none (h : r.cellAt i = none) : r.cellList.drop i = [] := by
  rw [← Row.getElem?_cellList, List.getElem?_eq_none_iff] at h
  exact List.drop_eq_nil_iff.mpr h

theorem drop_cellList_of_some {cell : ColumnValueDeserializer} (h : r.cellAt i = some cell) :
    r.cellList.drop i = cell :: r.cellList.drop (i + 1) := by
  rw [← Row.getElem?_cellList] at h
  obtain ⟨hi, rfl⟩ := List.getElem?_eq_some_iff.mp h
  exact List.drop_eq_getElem_cons hi

theorem visitVec_eq (seed : ValueSeed α) (a : RowSeqAccess) :
    visitVec seed a = (a.row.cellList.drop a.idx).mapM seed := by
  fun_induction visitVec seed a with
  | case1 a e a' hnext =>
    obtain ⟨cell, hcell, hseed⟩ := RowSeqAccess.nextElementSeed_error hnext
    rw [drop_cellList_of_some hcell, List.mapM_cons, hseed]
    rfl
  | case2 a a' hnext =>
    rw [drop_cellList_of_none (RowSeqAccess.nextElementSeed_none hnext)]
    rfl
  | case3 a v a' hnext ih =>
    obtain ⟨rfl, cell, hcell, hseed⟩ := RowSeqAccess.nextElementSeed_some hnext
    rw [drop_cellList_of_some hcell, List.mapM_cons, hseed, ih]
    cases List.mapM seed _ <;> rfl

/-- A tuple takes as many cells as it has types, and the first that fails decides. -/
theorem visitTuple_eq (expecting : String) (a : RowSeqAccess) (len : Nat)
    (seeds : List (ValueSeed α)) :
    visitTuple expecting a len seeds = (do
      let xs ← (seeds.zip (a.row.cellList.drop a.idx)).mapM fun p => p.1 p.2
      if seeds.length ≤ (a.row.cellList.drop a.idx).length then .ok xs
      else .error (invalidLength (len + (a.row.cellList.drop a.idx).length) expecting)) := by
  induction seeds generalizing a len with
  | nil =>
    rw [List.zip_nil_left, List.mapM_nil, pure_bind, List.length_nil, if_pos (Nat.zero_le _)]
    rfl
  | cons seed seeds ih =>
    rw [visitTuple]
    split
    · next e a' hnext =>
      obtain ⟨cell, hcell, hseed⟩ := RowSeqAccess.nextElementSeed_error hnext
      rw [drop_cellList_of_some hcell, List.zip_cons_cons, List.mapM_cons]
      dsimp only
      rw [hseed]
      rfl
    · next a' hnext =>
      rw [drop_cellList_of_none (RowSeqAccess.nextElementSeed_none hnext), List.zip_nil_right,
        List.mapM_nil, pure_bind, List.length_cons, List.length_nil,
        if_neg (Nat.not_succ_le_zero _)]
      rfl
    · next v a' hnext =>
      obtain ⟨rfl, cell, hcell, hseed⟩ := RowSeqAccess.nextElementSeed_some hnext
      rw [ih, drop_cellList_of_some hcell, List.zip_cons_cons, List.mapM_cons]
      dsimp only
      rw [hseed, Lib.Compute.ok_bind, bind_assoc, List.length_cons, List.length_cons]
      have hlen : ∀ k, len + 1 + k = len + (k + 1) := by
        intro k
        omega
      rw [hlen]
      simp only [Nat.add_le_add_iff_right, pure_bind]
      cases List.mapM (fun p => p.1 p.2) (seeds.zip (a.row.cellList.drop (a.idx + 1))) with
      | error e => rfl
      | ok xs =>
        rw [Lib.Compute.ok_bind, Lib.Compute.ok_bind]
        split <;> rfl

end

/-- The fields are named after the first columns, and after no others. -/
structure Row.Leads {α : Type} (r : Row) (fields : List (StructField α)) : Prop where
  names : fields.map (·.name) = (r.entries.take fields.length).map Prod.fst
  rest : ∀ e ∈ r.entries.drop fields.length, ∀ f ∈ fields, e.1 ≠ f.name
  distinct : DistinctFields fields
  values_le : r.values.length ≤ r.columns.length

section

variable {α : Type}

theorem named_append (n : String) (es es' : List NamedCell) :
    named n (es ++ es') = named n es ++ named n es' := by
  rw [named, List.filter_append, List.map_append]
  rfl

theorem named_eq_nil {n : String} {es : List NamedCell} (h : ∀ e ∈ es, e.1 ≠ n) :
    named n es = [] := by
  rw [List.eq_nil_iff_forall_not_mem]
  intro cell hcell
  exact h _ (mem_named.mp hcell) rfl

/-- Distinct names find the cell that stands at their own place. -/
theorem named_of_names {fields : List (StructField α)} {es : List NamedCell}
    (hnames : fields.map (·.name) = es.map Prod.fst) (hfields : DistinctFields fields) :
    List.Forall₂ (fun f e => named f.name es = [e.2]) fields es := by
  induction fields generalizing es with
  | nil =>
    rw [List.map_nil, eq_comm, List.map_eq_nil_iff] at hnames
    subst hnames
    exact .nil
  | cons f fields ih =>
    cases es with
    | nil => cases hnames
    | cons e es =>
      obtain ⟨key, cell⟩ := e
      obtain ⟨hname, hnames⟩ := List.cons.inj hnames
      obtain ⟨hf, hrest⟩ := List.nodup_cons.mp hfields
      have hkey : f.name = key := hname
      refine .cons ?_ ?_
      · rw [hkey, named_cons_self, named_eq_nil]
        intro e he heq
        have hmem := List.mem_map_of_mem (f := Prod.fst) he
        rw [← hnames, heq, ← hkey] at hmem
        exact hf hmem
      · refine (Lib.forall₂_congr fun g hg e => ?_).mp (ih hnames hrest)
        have hne : key ≠ g.name := by
          rw [← hkey]
          intro heq
          exact hf (List.mem_map.mpr ⟨g, hg, heq.symm⟩)
        rw [named_cons_ne hne]

theorem reads_iff_of_named {fields : List (StructField α)} {es cells : List NamedCell}
    {xs : List α} (h : List.Forall₂ (fun f e => named f.name es = [e.2]) fields cells) :
    ReadsStruct fields es xs ↔
      ((fields.map (·.seed)).zip (cells.map Prod.snd)).mapM (fun p => p.1 p.2) = .ok xs := by
  rw [Lib.mapM_ok_iff, ReadsStruct]
  induction h generalizing xs with
  | nil => rw [List.forall₂_nil_left_iff, List.map_nil, List.zip_nil_left,
      List.forall₂_nil_left_iff]
  | @cons f e fields cells hcell _ ih =>
    rw [List.map_cons, List.map_cons, List.zip_cons_cons, List.forall₂_cons_left_iff,
      List.forall₂_cons_left_iff]
    have hreads : ∀ x, f.Reads (named f.name es) x ↔ f.seed e.2 = .ok x := by
      intro x
      rw [hcell]
      constructor
      · intro hx
        cases hx with
        | cell hx => exact hx
      · exact .cell
    simp only [hreads, ih]

/-- Where the fields lead the columns, the struct is the tuple. -/
theorem Row.Leads.toStruct_iff {r : Row} {fields : List (StructField α)}
    (h : r.Leads fields) (expecting : String) (xs : List α) :
    r.toStruct fields = .ok xs ↔ r.toTuple expecting (fields.map (·.seed)) = .ok xs := by
  have hcells : r.entries.map Prod.snd = r.cellList := by
    have hle := h.values_le
    rw [entries, List.map_snd_zip]
    · rfl
    · rw [List.length_map, List.length_mapIdx]
      exact hle
  have hlen : fields.length ≤ r.cellList.length := by
    have hnames := congrArg List.length h.names
    rw [List.length_map, List.length_map, List.length_take] at hnames
    rw [← hcells, List.length_map]
    omega
  have hnamed : List.Forall₂ (fun f e => named f.name r.entries = [e.2]) fields
      (r.entries.take fields.length) := by
    refine (Lib.forall₂_congr fun f hf e => ?_).mp (named_of_names h.names h.distinct)
    conv_rhs => rw [← List.take_append_drop fields.length r.entries]
    have hrest : named f.name (r.entries.drop fields.length) = [] :=
      named_eq_nil fun e he => h.rest e he f hf
    rw [named_append, hrest, List.append_nil]
  have hzip : (fields.map (·.seed)).zip ((r.entries.take fields.length).map Prod.snd) =
      (fields.map (·.seed)).zip r.cellList := by
    conv_rhs => rw [List.zip_eq_zip_take_min, List.length_map, Nat.min_eq_left hlen]
    rw [List.map_take, hcells, List.take_of_length_le (List.length_map _).le]
  rw [toStruct_ok_iff h.distinct, reads_iff_of_named hnamed, hzip, toTuple, visitTuple_eq]
  dsimp only
  simp only [List.drop_zero, List.length_map, if_pos hlen]
  constructor
  · rintro ⟨-, hxs⟩
    rw [hxs]
    rfl
  · intro hxs
    obtain ⟨ys, hys, hok⟩ := Lib.Compute.bind_ok hxs
    cases hok
    exact ⟨h.values_le, hys⟩

end

/-- A read by index decodes the cell at the index. -/
theorem Row.tryGet_index {α : Type} {r : Row} {i : Nat} {cell : ColumnValueDeserializer}
    {fromSql : Decoder α} {x : α} (hcell : r.cellAt i = some cell)
    (h : r.tryGet fromSql.withStr (.index i) = .ok (.ok (some x))) :
    fromSql cell.val = .ok (some x) := by
  have hi := r.lt_of_cellAt hcell
  obtain ⟨val, hval, rfl⟩ := Option.map_eq_some_iff.mp hcell
  rw [tryGet, resolve, if_neg (by omega)] at h
  dsimp only at h
  rw [tryGetAt, hval] at h
  obtain ⟨y, hy, h⟩ := Lib.Compute.bind_ok h
  cases h
  exact hy

/-- What the native decoder reads of every cell by index, a vector is read as. -/
def Row.VecReadsAs {α : Type} (r : Row) (fromSql : Decoder α) (seed : ValueSeed α) : Prop :=
  ∀ xs : List α, xs.length = r.cellList.length →
    (∀ i x, xs[i]? = some x → r.tryGet fromSql.withStr (.index i) = .ok (.ok (some x))) →
      r.toVec seed = .ok xs

theorem Row.vecReadsAs_native [DiscriminantText] [SerdeImpls] (r : Row) (t : NativeScalar) :
    r.VecReadsAs t.fromSql t.deserialize := by
  intro xs hlen hreads
  rw [Row.toVec, visitVec_eq, Lib.mapM_ok_iff, List.drop_zero, List.forall₂_iff_get]
  refine ⟨hlen.symm, ?_⟩
  intro i hi hx
  have hread := hreads i (xs.get ⟨i, hx⟩) (List.getElem?_eq_getElem hx)
  have hcell : r.cellAt i = some (r.cellList.get ⟨i, hi⟩) := by
    rw [← Row.getElem?_cellList]
    exact List.getElem?_eq_getElem hi
  exact t.deserialize_eq (Row.tryGet_index hcell hread)

/-- How a row is read by position. -/
structure RowSequences [DiscriminantText] [SerdeImpls] (r : Row) : Prop where
  /-- Whatever its visitor asks for, a call is answered at the first cell not handed out yet. -/
  calls : ∀ {α : Type} (seeds : List (ValueSeed α)) k,
    (RowSeqAccess.calls { row := r, idx := 0 } seeds).1[k]? = seeds[k]?.map fun seed =>
      RowSeqAccess.answer seed r.cellList[((RowSeqAccess.calls { row := r, idx := 0 } seeds).1.take
        k).countP RowSeqAccess.Hands]?
  /-- The hint counts the cells that are left, and does not underflow. -/
  hint : ∀ {α : Type} (seeds : List (ValueSeed α)),
    (RowSeqAccess.calls { row := r, idx := 0 } seeds).2.sizeHint =
      .ok (some (r.cellList.length -
        (RowSeqAccess.calls { row := r, idx := 0 } seeds).1.countP RowSeqAccess.Hands))
  vec : ∀ {α : Type} (seed : ValueSeed α), r.toVec seed = r.cellList.mapM seed
  tuple : ∀ {α : Type} expecting (seeds : List (ValueSeed α)), r.toTuple expecting seeds = (do
    let xs ← (seeds.zip r.cellList).mapM fun p => p.1 p.2
    if seeds.length ≤ r.cellList.length then .ok xs
    else .error (invalidLength r.cellList.length expecting))
  /-- Where the native decoder reads every cell by index, the elements are what it reads. -/
  bool : r.VecReadsAs FromSql.bool Deserialize.bool
  u8 : r.VecReadsAs FromSql.u8 (Deserialize.int .u8)
  i16 : r.VecReadsAs FromSql.i16 (Deserialize.int .i16)
  i32 : r.VecReadsAs FromSql.i32 (Deserialize.int .i32)
  i64 : r.VecReadsAs FromSql.i64 (Deserialize.int .i64)
  struct : ∀ {α : Type} (fields : List (StructField α)) expecting xs, r.Leads fields →
    (r.toStruct fields = .ok xs ↔ r.toTuple expecting (fields.map (·.seed)) = .ok xs)

theorem row_sequences [DiscriminantText] [SerdeImpls] (r : Row) : RowSequences r := by
  refine ⟨?_, ?_, ?_, ?_, r.vecReadsAs_native .bool, r.vecReadsAs_native .u8, r.vecReadsAs_native .i16,
    r.vecReadsAs_native .i32, r.vecReadsAs_native .i64, ?_⟩
  · intro α seeds k
    rw [RowSeqAccess.calls_answer]
    simp only [Nat.zero_add, Row.getElem?_cellList]
  · intro α seeds
    have hle := RowSeqAccess.calls_le { row := r, idx := 0 } seeds (Nat.zero_le _)
    rw [RowSeqAccess.sizeHint, RowSeqAccess.calls_row, Lib.subUnsigned_ok hle,
      RowSeqAccess.calls_idx, Nat.zero_add, Row.cellList_length]
    rfl
  · intro α seed
    exact visitVec_eq seed _
  · intro α expecting seeds
    rw [Row.toTuple, visitTuple_eq, Nat.zero_add]
    rfl
  · intro α fields expecting xs h
    exact h.toStruct_iff expecting xs

end

end TiberiusBridge
