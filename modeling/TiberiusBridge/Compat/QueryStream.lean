import TiberiusBridge.Row

/-!
# Look-ahead over a stream of metadata and row items

`QueryStream` keeps one peeked item and the columns of the last metadata seen.
Both of its operations read the inner stream through the functions here.
-/
namespace TiberiusBridge

variable [MssqlTds]

structure ResultMetadata where
  schema : RowSchema
  resultIndex : Nat
  deriving DecidableEq

def ResultMetadata.columns (m : ResultMetadata) : List Column := m.schema.columns

inductive QueryItem
  | row (r : Row)
  | metadata (m : ResultMetadata)

structure QueryStream where
  peeked : Option (Result QueryItem) := none
  columns : Option RowSchema := none

namespace QueryStream

/-- The columns a completed look-ahead reports. -/
def columnList (q : QueryStream) : Option (List Column) := q.columns.map RowSchema.columns

/-- `poll_next` on the item it is about to return. -/
def observe (q : QueryStream) : Option (Result QueryItem) → QueryStream
  | some (.ok (.metadata m)) => { q with columns := some m.schema }
  | some (.error _) => { q with columns := none }
  | _ => q

/-- `self.peeked.take()`. -/
def takePeeked (q : QueryStream) : Option (Result QueryItem) × QueryStream :=
  (q.peeked, { q with peeked := none })

/-- `columns` once the inner stream has answered its poll. -/
def lookAhead (q : QueryStream) :
    Option (Result QueryItem) → QueryStream × Result (Option (List Column))
  | some (.ok item) =>
    let q := match item with
      | .metadata m => { q with columns := some m.schema }
      | .row _ => q
    ({ q with peeked := some (.ok item) }, .ok q.columnList)
  | some (.error e) => ({ q with columns := none }, .error e)
  | none => (q, .ok q.columnList)

@[simp] theorem observe_peeked (q : QueryStream) (i : Option (Result QueryItem)) :
    (q.observe i).peeked = q.peeked := by
  unfold observe
  split <;> rfl

end QueryStream

/-- `into_results` on one item: metadata opens a set, a row joins the last one. -/
def collectItem (results : List (List Row)) : QueryItem → List (List Row)
  | .metadata _ => results ++ [[]]
  | .row r =>
    match results.reverse with
    | [] => [[r]]
    | last :: before => before.reverse ++ [last ++ [r]]

end TiberiusBridge
