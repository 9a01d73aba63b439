import TiberiusBridge.Compat.ReadChannels
import TiberiusBridge.Lib.Arena
import TiberiusBridge.RowLookup

/-!
# The cache of a row

A row fills its compatibility values at the first read that needs them, and a
clone takes the cache along. Whatever is called on rows and their clones, in
whatever order, shows what rows without a cache would.
-/
namespace TiberiusBridge

open Lib (Compute OnceLock Answer Arena Trace Run ofStep)
open Lib.Compute (expect)

variable [MssqlTds]

/-- A row with its `compat_values`. -/
structure CachedRow where
  row : Row
  compatValues : OnceLock (List ColumnData)

/-- What can be called on a row. -/
inductive RowCall (α : Type)
  | clone
  | drop
  | rawValue (idx : Nat)
  | tryGet (fromSql : RowDecoder α) (col : ColumnIndex)
  | get (fromSql : RowDecoder α) (col : ColumnIndex)
  | tryGetCi (fromSql : RowDecoder α) (name : String)
  | getCi (fromSql : RowDecoder α) (name : String)
  | tryGetCompat (fromSql : CompatDecoder α) (col : ColumnIndex)
  | getCompat (fromSql : CompatDecoder α) (col : ColumnIndex)
  | cells
  | intoIter

/-- What a call shows. -/
inductive RowShown (α : Type)
  | done
  | raw (value : Option ColumnValues)
  | tried (r : Compute (Result (Option α)))
  | got (r : Compute (Option α))
  | cells (cells : List (Column × ColumnData))
  | items (items : List ColumnData)

namespace Row

def getCompat {α : Type} (r : Row) (fromSql : CompatDecoder α) (col : ColumnIndex) :
    Compute (Option α) := do
  expect "column conversion failed" (← r.tryGetCompat fromSql col).toOption

/-- A call on a row that computes its compatibility values each time. -/
def call {α : Type} (r : Row) : RowCall α → Answer Row (RowShown α)
  | .clone => .clones .done r
  | .drop => .consumes .done
  | .rawValue idx => .borrows (.raw (r.rawValue idx)) r
  | .tryGet fromSql col => .borrows (.tried (r.tryGet fromSql col)) r
  | .get fromSql col => .borrows (.got (r.get fromSql col)) r
  | .tryGetCi fromSql name => .borrows (.tried (r.tryGetCi fromSql name)) r
  | .getCi fromSql name => .borrows (.got (r.getCi fromSql name)) r
  | .tryGetCompat fromSql col => .borrows (.tried (r.tryGetCompat fromSql col)) r
  | .getCompat fromSql col => .borrows (.got (r.getCompat fromSql col)) r
  | .cells => .borrows (.cells r.cells) r
  | .intoIter => .consumes (.items r.compatValues)

end Row

namespace CachedRow

/-- `Row::from_parts`. -/
def fromRow (row : Row) : CachedRow := { row, compatValues := .new }

def buildCompatValues (r : CachedRow) : Unit → List ColumnData := fun _ =>
  Row.buildCompatValues r.row.schema r.row.values r.row.decodedStrings

/-- `Row::compat_values`, and the row with its cache filled. -/
def fill (r : CachedRow) : List ColumnData × CachedRow :=
  let (values, compatValues) := r.compatValues.getOrInit r.buildCompatValues
  (values, { r with compatValues })

def cells (r : CachedRow) : List (Column × ColumnData) × CachedRow :=
  let (values, r) := r.fill
  (r.row.schema.columns.zip values, r)

/-- A column that is not found leaves the cache as it is. -/
def tryGetCompat {α : Type} (r : CachedRow) (fromSql : CompatDecoder α) (col : ColumnIndex) :
    Compute (Result (Option α)) × CachedRow :=
  match r.row.resolve col with
  | .error e => (return .error e, r)
  | .ok idx =>
    let (values, r) := r.fill
    match values[idx]? with
    | none => (return .error (.columnIndexOutOfBounds idx values.length), r)
    | some value => (fromSql value, r)

def getCompat {α : Type} (r : CachedRow) (fromSql : CompatDecoder α) (col : ColumnIndex) :
    Compute (Option α) × CachedRow :=
  let (read, r) := r.tryGetCompat fromSql col
  (do expect "column conversion failed" (← read).toOption, r)

/-- `IntoIterator::into_iter`. -/
def intoIter (r : CachedRow) : List ColumnData :=
  r.compatValues.intoInner.getD (r.buildCompatValues ())

/-- A call on a row as the bridge has it. -/
def call {α : Type} (r : CachedRow) : RowCall α → Answer CachedRow (RowShown α)
  | .clone => .clones .done r
  | .drop => .consumes .done
  | .rawValue idx => .borrows (.raw (r.row.rawValue idx)) r
  | .tryGet fromSql col => .borrows (.tried (r.row.tryGet fromSql col)) r
  | .get fromSql col => .borrows (.got (r.row.get fromSql col)) r
  | .tryGetCi fromSql name => .borrows (.tried (r.row.tryGetCi fromSql name)) r
  | .getCi fromSql name => .borrows (.got (r.row.getCi fromSql name)) r
  | .tryGetCompat fromSql col =>
    let (read, r) := r.tryGetCompat fromSql col
    .borrows (.tried read) r
  | .getCompat fromSql col =>
    let (read, r) := r.getCompat fromSql col
    .borrows (.got read) r
  | .cells =>
    let (cells, r) := r.cells
    .borrows (.cells cells) r
  | .intoIter => .consumes (.items r.intoIter)

/-- The cache is empty or holds what the row would compute. -/
def Coherent (r : CachedRow) : Prop := r.compatValues.Caches r.row.compatValues

theorem fromRow_coherent (row : Row) : (fromRow row).Coherent := OnceLock.new_caches _

/-- The row with its cache filled. -/
def filled (r : CachedRow) : CachedRow :=
  { r with compatValues := { value := some r.row.compatValues } }

/-- The row after a compatibility read: filled where the column was found. -/
def afterRead (r : CachedRow) (col : ColumnIndex) : CachedRow :=
  if (r.row.resolve col).toOption.isSome then r.filled else r

theorem filled_coherent (r : CachedRow) : r.filled.Coherent := by
  intro values h
  cases h
  rfl

variable {r : CachedRow} {α : Type}

theorem fill_eq (h : r.Coherent) : r.fill = (r.row.compatValues, r.filled) := by
  obtain ⟨hvalues, hcell⟩ := @OnceLock.getOrInit_caches _ _ r.buildCompatValues h
  unfold fill
  exact Prod.ext hvalues (congrArg (fun v => { r with compatValues := { value := v } }) hcell)

theorem tryGetCompat_eq (h : r.Coherent) (fromSql : CompatDecoder α) (col : ColumnIndex) :
    r.tryGetCompat fromSql col = (r.row.tryGetCompat fromSql col,
      r.afterRead col) := by
  unfold tryGetCompat Row.tryGetCompat afterRead
  cases r.row.resolve col with
  | error e => rfl
  | ok idx =>
    rw [fill_eq h]
    dsimp only
    cases r.row.compatValues[idx]? <;> rfl

theorem getCompat_eq (h : r.Coherent) (fromSql : CompatDecoder α) (col : ColumnIndex) :
    r.getCompat fromSql col = (r.row.getCompat fromSql col,
      r.afterRead col) := by
  unfold getCompat
  rw [tryGetCompat_eq h]
  rfl

theorem cells_eq (h : r.Coherent) : r.cells = (r.row.cells, r.filled) := by
  unfold cells
  rw [fill_eq h]
  rfl

theorem intoIter_eq (h : r.Coherent) : r.intoIter = r.row.compatValues :=
  OnceLock.intoInner_caches h

theorem afterRead_coherent (h : r.Coherent) (col : ColumnIndex) : (r.afterRead col).Coherent := by
  unfold afterRead
  split
  · exact r.filled_coherent
  · exact h

theorem afterRead_row (r : CachedRow) (col : ColumnIndex) : (r.afterRead col).row = r.row := by
  unfold afterRead
  split <;> rfl

theorem call_leaves (h : r.Coherent) (c : RowCall α) : (r.call c).Leaves Coherent := by
  cases c with
  | clone => exact Answer.leaves_clones _ h
  | drop => exact Answer.leaves_consumes _
  | intoIter => exact Answer.leaves_consumes _
  | tryGetCompat fromSql col =>
    rw [call, tryGetCompat_eq h]
    exact Answer.leaves_borrows _ (afterRead_coherent h col)
  | getCompat fromSql col =>
    rw [call, getCompat_eq h]
    exact Answer.leaves_borrows _ (afterRead_coherent h col)
  | cells =>
    rw [call, cells_eq h]
    exact Answer.leaves_borrows _ r.filled_coherent
  | _ => exact Answer.leaves_borrows _ h

/-- A call shows what it shows without the cache. -/
theorem call_row (h : r.Coherent) (c : RowCall α) : r.row.call c = (r.call c).map row := by
  cases c with
  | tryGetCompat fromSql col =>
    rw [call, tryGetCompat_eq h]
    exact congrArg (Answer.borrows _) (r.afterRead_row col).symm
  | getCompat fromSql col =>
    rw [call, getCompat_eq h]
    exact congrArg (Answer.borrows _) (r.afterRead_row col).symm
  | cells =>
    rw [call, cells_eq h]
    rfl
  | intoIter =>
    rw [call, intoIter_eq h]
    rfl
  | _ => rfl

end CachedRow

/-- The calls that need the compatibility values of a row that is kept. -/
def RowCall.ReadsCompat {α : Type} : RowCall α → Prop
  | .tryGetCompat _ _ | .getCompat _ _ | .cells => True
  | _ => False

/-- The steps of rows as the bridge has them, and of rows without a cache. -/
abbrev CachedRow.Step (α : Type) := ofStep (Arena.step (@CachedRow.call _ α))

abbrev Row.Step (α : Type) := ofStep (Arena.step (@Row.call _ α))

/-- The rows as they are built, each behind a handle. -/
def freshRows (rows : List Row) : Arena CachedRow := rows.map fun row => some (.fromRow row)

theorem freshRows_map (rows : List Row) : (freshRows rows).map CachedRow.row = rows.map some := by
  unfold freshRows Arena.map
  rw [List.map_map]
  rfl

theorem freshRows_all {I : CachedRow → Prop} (h : ∀ row, I (.fromRow row)) (rows : List Row) :
    (freshRows rows).All I := by
  intro r hr
  obtain ⟨row, -, hrow⟩ := List.mem_map.mp hr
  cases hrow
  exact h row

theorem CachedRow.call_leaves_empty {α : Type} {r : CachedRow} {c : RowCall α}
    (h : r.compatValues.value = none) (hc : ¬c.ReadsCompat) :
    (r.call c).Leaves fun r' => r'.compatValues.value = none := by
  cases c with
  | clone => exact Answer.leaves_clones _ h
  | drop => exact Answer.leaves_consumes _
  | intoIter => exact Answer.leaves_consumes _
  | tryGetCompat fromSql col => exact (hc trivial).elim
  | getCompat fromSql col => exact (hc trivial).elim
  | cells => exact (hc trivial).elim
  | _ => exact Answer.leaves_borrows _ h

/-- Rows, their clones and what is called on them, in any order. -/
structure RowCaching (α : Type) : Prop where
  /-- With the caches the same runs are possible, and the same is shown. -/
  runs : ∀ (rows : List Row) t b, Run (Row.Step α) (rows.map some) t b ↔
    ∃ arena, Run (CachedRow.Step α) (freshRows rows) t arena ∧ arena.map CachedRow.row = b
  coherent : ∀ (rows : List Row) t arena, Run (CachedRow.Step α) (freshRows rows) t arena →
    arena.All CachedRow.Coherent
  /-- Nothing is computed that is not asked for. -/
  empty : ∀ (rows : List Row) t arena, Run (CachedRow.Step α) (freshRows rows) t arena →
    (∀ l ∈ t, ¬l.1.2.ReadsCompat) → arena.All fun r => r.compatValues.value = none

theorem row_caching (α : Type) : RowCaching α where
  runs rows t b := by
    rw [← freshRows_map]
    exact Arena.run_map (freshRows_all CachedRow.fromRow_coherent rows)
      (fun r c h => CachedRow.call_leaves h c) (fun r c h => CachedRow.call_row h c) b
  coherent rows _ _ h :=
    (freshRows_all CachedRow.fromRow_coherent rows).run
      (fun l _ r hr => CachedRow.call_leaves hr l.1.2) h
  empty rows _ _ h hnative :=
    (freshRows_all (fun _ => rfl) rows).run
      (fun l hl _ hr => CachedRow.call_leaves_empty hr (hnative l hl)) h

end TiberiusBridge
