import TiberiusBridge.Client.Frame

/-!
# Response scripts

What the server answers to one query is a script: statements without rows and
result sets in order, possibly cut short by an error. The driver is a cursor
over it. It may answer any call with `Pending` first, and it is not dead before
it has returned an error.
-/
namespace TiberiusBridge

variable [MssqlTds]

inductive Response
  | done
  | fail (e : TdsError)
  | noRows (rest : Response)
  | set (metadata : List ColumnMetadata) (rows : List (List ColumnValues)) (rest : Response)
  /-- A set whose rows are followed by an error. -/
  | brokenSet (metadata : List ColumnMetadata) (rows : List (List ColumnValues)) (e : TdsError)

/-- `drain` and `execute` are the errors of the outstanding query's drain and of the request. -/
structure Script where
  drain : Option TdsError := none
  execute : Option TdsError := none
  response : Response

/-- The set a cursor stands on: the rows not read yet, and what follows them. -/
structure ResultSet where
  metadata : List ColumnMetadata
  rows : List (List ColumnValues)
  after : Except TdsError Response

/-- Where `advance_to_rows` stops. -/
def Response.advance : Response → Except TdsError (Option ResultSet)
  | done => .ok none
  | fail e => .error e
  | noRows rest => rest.advance
  | set metadata rows rest => .ok (some ⟨metadata, rows, .ok rest⟩)
  | brokenSet metadata rows e => .ok (some ⟨metadata, rows, .error e⟩)

inductive Cursor
  | start (s : Script)
  | drained (s : Script)
  | between (r : Response)
  | onSet (set : ResultSet)
  | exhausted

def Call.isRequest : Call → Bool
  | .execute _ | .executeSpExecutesql _ _ | .executeStoredProcedure _ _ _ => true
  | _ => false

/-- The answers to one poll of a call. -/
inductive Cursor.Answers : Cursor → Call → Reply → Cursor → Prop
  | pending {cur : Cursor} {call : Call} {r : Reply} (ho : r.outcome = .pending)
      (hk : r.kills = false) : Answers cur call r cur
  | drain {s : Script} {r : Reply} (hd : s.drain = none) (ho : r.outcome = .ready (.ok .unit))
      (hk : r.kills = false) : Answers (.start s) .closeQuery r (.drained s)
  | drainError {s : Script} {e : TdsError} {r : Reply} (hd : s.drain = some e)
      (ho : r.outcome = .ready (.error e)) : Answers (.start s) .closeQuery r .exhausted
  | request {s : Script} {call : Call} {r : Reply} {result : StatementResult}
      (hc : call.isRequest = true) (he : s.execute = none)
      (ho : r.outcome = .ready (.ok (.statement result))) (hk : r.kills = false)
      (hr : r.onRows = false) : Answers (.drained s) call r (.between s.response)
  /-- The request stops on the first result set. -/
  | requestOnRows {s : Script} {call : Call} {r : Reply} {result : StatementResult}
      {set : ResultSet} (hc : call.isRequest = true) (he : s.execute = none)
      (ho : r.outcome = .ready (.ok (.statement result))) (hk : r.kills = false)
      (ha : s.response.advance = .ok (some set)) (hr : r.onRows = true)
      (hm : r.metadata = set.metadata) : Answers (.drained s) call r (.onSet set)
  | requestError {s : Script} {call : Call} {e : TdsError} {r : Reply}
      (hc : call.isRequest = true) (he : s.execute = some e)
      (ho : r.outcome = .ready (.error e)) : Answers (.drained s) call r .exhausted
  | advanceEnd {resp : Response} {r : Reply} (ha : resp.advance = .ok none)
      (ho : r.outcome = .ready (.ok (.flag false))) (hk : r.kills = false) :
      Answers (.between resp) .advanceToRows r .exhausted
  | advanceSet {resp : Response} {set : ResultSet} {r : Reply}
      (ha : resp.advance = .ok (some set)) (ho : r.outcome = .ready (.ok (.flag true)))
      (hk : r.kills = false) (hr : r.onRows = true) (hm : r.metadata = set.metadata) :
      Answers (.between resp) .advanceToRows r (.onSet set)
  | advanceError {resp : Response} {e : TdsError} {r : Reply} (ha : resp.advance = .error e)
      (ho : r.outcome = .ready (.error e)) : Answers (.between resp) .advanceToRows r .exhausted
  | row {metadata : List ColumnMetadata} {cells : List ColumnValues}
      {rows : List (List ColumnValues)} {after : Except TdsError Response} {r : Reply}
      (ho : r.outcome = .ready (.ok (.row cells true))) (hk : r.kills = false) :
      Answers (.onSet ⟨metadata, cells :: rows, after⟩) .nextRowInto r
        (.onSet ⟨metadata, rows, after⟩)
  | rowEnd {metadata : List ColumnMetadata} {rest : Response} {r : Reply}
      (ho : r.outcome = .ready (.ok (.row [] false))) (hk : r.kills = false) :
      Answers (.onSet ⟨metadata, [], .ok rest⟩) .nextRowInto r (.between rest)
  | rowError {metadata : List ColumnMetadata} {e : TdsError} {r : Reply}
      (ho : r.outcome = .ready (.error e)) :
      Answers (.onSet ⟨metadata, [], .error e⟩) .nextRowInto r .exhausted

def rowsOf (metadata : List ColumnMetadata) (index : Nat) (rows : List (List ColumnValues)) :
    List Row := rows.map (rowOf (.fromMetadata metadata) index)

def setItems (metadata : List ColumnMetadata) (index : Nat) (rows : List (List ColumnValues)) :
    List (Result QueryItem) :=
  .ok (.metadata { schema := .fromMetadata metadata, resultIndex := index }) ::
    (rowsOf metadata index rows).map fun row => .ok (.row row)

namespace Response

/-- The items of the sets from number `index` on: of each its metadata, then its rows. -/
def items (index : Nat) : Response → List (Result QueryItem)
  | done => []
  | fail e => [.error (.tds e)]
  | noRows rest => rest.items index
  | set metadata rows rest => setItems metadata index rows ++ rest.items (index + 1)
  | brokenSet metadata rows e => setItems metadata index rows ++ [.error (.tds e)]

/-- The sets from number `index` on, or the error. -/
def sets (index : Nat) : Response → Result (List (List Row))
  | done => .ok []
  | fail e => .error (.tds e)
  | noRows rest => rest.sets index
  | set metadata rows rest => (rest.sets (index + 1)).map (rowsOf metadata index rows :: ·)
  | brokenSet _ _ e => .error (.tds e)

def itemsAfter (index : Nat) : Except TdsError Response → List (Result QueryItem)
  | .ok rest => rest.items index
  | .error e => [.error (.tds e)]

def setsAfter (index : Nat) : Except TdsError Response → Result (List (List Row))
  | .ok rest => rest.sets index
  | .error e => .error (.tds e)

theorem items_of_end {index : Nat} {r : Response} (h : r.advance = .ok none) :
    r.items index = [] := by
  induction r with
  | done => rfl
  | noRows rest ih => exact ih h
  | fail | set | brokenSet => cases h

theorem items_of_set {index : Nat} {r : Response} {s : ResultSet}
    (h : r.advance = .ok (some s)) :
    r.items index = setItems s.metadata index s.rows ++ itemsAfter (index + 1) s.after := by
  induction r with
  | noRows rest ih => exact ih h
  | set | brokenSet => cases h; rfl
  | done | fail => cases h

theorem items_of_error {index : Nat} {r : Response} {e : TdsError} (h : r.advance = .error e) :
    r.items index = [.error (.tds e)] := by
  induction r with
  | fail => cases h; rfl
  | noRows rest ih => exact ih h
  | done | set | brokenSet => cases h

theorem sets_of_end {index : Nat} {r : Response} (h : r.advance = .ok none) :
    r.sets index = .ok [] := by
  induction r with
  | done => rfl
  | noRows rest ih => exact ih h
  | fail | set | brokenSet => cases h

theorem sets_of_set {index : Nat} {r : Response} {s : ResultSet}
    (h : r.advance = .ok (some s)) :
    r.sets index =
      (setsAfter (index + 1) s.after).map (rowsOf s.metadata index s.rows :: ·) := by
  induction r with
  | noRows rest ih => exact ih h
  | set | brokenSet => cases h; rfl
  | done | fail => cases h

theorem sets_of_error {index : Nat} {r : Response} {e : TdsError} (h : r.advance = .error e) :
    r.sets index = .error (.tds e) := by
  induction r with
  | fail => cases h; rfl
  | noRows rest ih => exact ih h
  | done | set | brokenSet => cases h

end Response

namespace Script

def itemsSent (s : Script) : List (Result QueryItem) :=
  match s.execute with
  | some e => [.error (.tds e)]
  | none => s.response.items 0

def setsSent (s : Script) : Result (List (List Row)) :=
  match s.execute with
  | some e => .error (.tds e)
  | none => s.response.sets 0

/-- The items of a query whose client is `dead` or not when it is first polled. -/
def items (s : Script) (dead : Bool) : List (Result QueryItem) :=
  if dead then [.error connectionClosed]
  else match s.drain with
    | some e => [.error (.tds e)]
    | none => s.itemsSent

def sets (s : Script) (dead : Bool) : Result (List (List Row)) :=
  if dead then .error connectionClosed
  else match s.drain with
    | some e => .error (.tds e)
    | none => s.setsSent

end Script

namespace Script

variable {s : Script} {e : TdsError}

theorem items_drained (h : s.drain = none) : s.items false = s.itemsSent := by
  unfold items
  rw [h]
  rfl

theorem items_drainError (h : s.drain = some e) : s.items false = [.error (.tds e)] := by
  unfold items
  rw [h]
  rfl

theorem itemsSent_ok (h : s.execute = none) : s.itemsSent = s.response.items 0 := by
  rw [itemsSent, h]

theorem itemsSent_error (h : s.execute = some e) : s.itemsSent = [.error (.tds e)] := by
  rw [itemsSent, h]

theorem sets_drained (h : s.drain = none) : s.sets false = s.setsSent := by
  unfold sets
  rw [h]
  rfl

theorem sets_drainError (h : s.drain = some e) : s.sets false = .error (.tds e) := by
  unfold sets
  rw [h]
  rfl

theorem setsSent_ok (h : s.execute = none) : s.setsSent = s.response.sets 0 := by
  rw [setsSent, h]

theorem setsSent_error (h : s.execute = some e) : s.setsSent = .error (.tds e) := by
  rw [setsSent, h]

end Script

/-- Collect items into sets, up to the first error. -/
def collectItems (sets : List (List Row)) : List (Result QueryItem) → Result (List (List Row))
  | [] => .ok sets
  | .ok i :: rest => collectItems (collectItem sets i) rest
  | .error e :: _ => .error e

/-- The rows among items, and their errors. -/
def rowItems (items : List (Result QueryItem)) : List (Result Row) :=
  items.filterMap fun
    | .ok (.row r) => some (.ok r)
    | .ok (.metadata _) => none
    | .error e => some (.error e)

@[simp] theorem rowItems_nil : rowItems [] = [] := rfl

@[simp] theorem rowItems_append (l l' : List (Result QueryItem)) :
    rowItems (l ++ l') = rowItems l ++ rowItems l' := List.filterMap_append

@[simp] theorem rowItems_row (r : Row) (l : List (Result QueryItem)) :
    rowItems (.ok (.row r) :: l) = .ok r :: rowItems l := rfl

@[simp] theorem rowItems_metadata (m : ResultMetadata) (l : List (Result QueryItem)) :
    rowItems (.ok (.metadata m) :: l) = rowItems l := rfl

@[simp] theorem rowItems_error (e : Error) (l : List (Result QueryItem)) :
    rowItems (.error e :: l) = .error e :: rowItems l := rfl

theorem collectItems_append {l l' : List (Result QueryItem)} {sets sets' : List (List Row)}
    (h : collectItems sets l = .ok sets') :
    collectItems sets (l ++ l') = collectItems sets' l' := by
  induction l generalizing sets with
  | nil => cases h; rfl
  | cons i l ih =>
    cases i with
    | ok i => exact ih h
    | error e => cases h

theorem ok_of_collectItems {l : List (Result QueryItem)} {sets sets' : List (List Row)}
    (h : collectItems sets l = .ok sets') : ∃ is : List QueryItem, l = is.map .ok := by
  induction l generalizing sets with
  | nil => exact ⟨[], rfl⟩
  | cons i l ih =>
    cases i with
    | ok i =>
      obtain ⟨is, rfl⟩ := ih h
      exact ⟨i :: is, rfl⟩
    | error e => cases h

theorem collectItem_row (sets : List (List Row)) (rows : List Row) (r : Row) :
    collectItem (sets ++ [rows]) (.row r) = sets ++ [rows ++ [r]] := by
  simp [collectItem]

/-- The items of a set, collected, are that set. -/
theorem collectItems_set (sets : List (List Row)) (metadata : List ColumnMetadata) (index : Nat)
    (rows : List (List ColumnValues)) :
    collectItems sets (setItems metadata index rows) = .ok (sets ++ [rowsOf metadata index rows]) := by
  have collectRows : ∀ (rows : List Row) (before : List Row),
      collectItems (sets ++ [before]) (rows.map fun row => .ok (.row row)) =
        .ok (sets ++ [before ++ rows]) := by
    intro rows
    induction rows with
    | nil => intro before; simp [collectItems]
    | cons r rows ih =>
      intro before
      simp only [List.map_cons, collectItems, collectItem_row]
      rw [ih, List.append_assoc]
      rfl
  exact collectRows _ []

namespace Response

/-- Collecting the items of a response gives its sets, empty ones included. -/
theorem collectItems_items (r : Response) (index : Nat) (sets : List (List Row)) :
    collectItems sets (r.items index) = (r.sets index).map (sets ++ ·) := by
  induction r generalizing index sets with
  | done => simp [items, Response.sets, collectItems, Except.map]
  | fail e => rfl
  | noRows rest ih => exact ih index sets
  | set metadata rows rest ih =>
    rw [items, collectItems_append (collectItems_set sets metadata index rows), ih, Response.sets]
    cases rest.sets (index + 1) <;> simp [Except.map]
  | brokenSet metadata rows e =>
    rw [items, collectItems_append (collectItems_set sets metadata index rows)]
    rfl

/-- The rows of a response without error are its sets, concatenated. -/
theorem rowItems_items {r : Response} {index : Nat} {sets : List (List Row)}
    (h : r.sets index = .ok sets) : rowItems (r.items index) = sets.flatten.map .ok := by
  have rowsOnly : ∀ metadata index rows,
      rowItems (setItems metadata index rows) = (rowsOf metadata index rows).map .ok := by
    intro metadata index rows
    simp only [setItems, rowItems_metadata]
    induction rowsOf metadata index rows with
    | nil => rfl
    | cons r rs ih => simp [ih]
  induction r generalizing index sets with
  | done => cases h; rfl
  | fail e => cases h
  | noRows rest ih => exact ih h
  | set metadata rows rest ih =>
    cases hr : rest.sets (index + 1) with
    | error e => rw [Response.sets, hr] at h; cases h
    | ok tail =>
      rw [Response.sets, hr] at h
      cases h
      rw [items, rowItems_append, rowsOnly, ih hr]
      simp
  | brokenSet metadata rows e => cases h

theorem setItems_ok (metadata : List ColumnMetadata) (index : Nat)
    (rows : List (List ColumnValues)) :
    ∃ is : List QueryItem, setItems metadata index rows = is.map .ok :=
  ⟨.metadata { schema := .fromMetadata metadata, resultIndex := index } ::
    (rowsOf metadata index rows).map .row, by simp [setItems]⟩

/-- An error of a response is its last item. -/
theorem items_error {r : Response} {index : Nat} {e : Error} (h : r.sets index = .error e) :
    ∃ is : List QueryItem, r.items index = is.map .ok ++ [.error e] := by
  induction r generalizing index with
  | done => cases h
  | fail e => cases h; exact ⟨[], rfl⟩
  | noRows rest ih => exact ih h
  | set metadata rows rest ih =>
    cases hr : rest.sets (index + 1) with
    | ok tail => rw [Response.sets, hr] at h; cases h
    | error e =>
      rw [Response.sets, hr] at h
      cases h
      obtain ⟨is, his⟩ := setItems_ok metadata index rows
      obtain ⟨js, hjs⟩ := ih hr
      exact ⟨is ++ js, by rw [items, his, hjs, List.map_append, List.append_assoc]⟩
  | brokenSet metadata rows e =>
    cases h
    obtain ⟨is, his⟩ := setItems_ok metadata index rows
    exact ⟨is, by rw [items, his]⟩

end Response

namespace Script

theorem collectItems_items (s : Script) (dead : Bool) :
    collectItems [] (s.items dead) = s.sets dead := by
  unfold items sets
  split
  · rfl
  · split
    · rfl
    · unfold itemsSent setsSent
      split
      · rfl
      · rw [Response.collectItems_items]
        cases s.response.sets 0 <;> rfl

/-- A script without an error shows what its response does. -/
theorem sets_ok {s : Script} {dead : Bool} {sets : List (List Row)} (h : s.sets dead = .ok sets) :
    s.items dead = s.response.items 0 ∧ s.response.sets 0 = .ok sets := by
  unfold Script.sets at h
  unfold items
  split at h
  · cases h
  · next hd =>
    rw [if_neg hd]
    split at h
    · cases h
    · unfold setsSent at h
      unfold itemsSent
      split at h
      · cases h
      · exact ⟨rfl, h⟩

theorem rowItems_items {s : Script} {dead : Bool} {sets : List (List Row)}
    (h : s.sets dead = .ok sets) : rowItems (s.items dead) = sets.flatten.map .ok := by
  obtain ⟨hitems, hsets⟩ := sets_ok h
  rw [hitems]
  exact Response.rowItems_items hsets

/-- Items that collect without an error hold none. -/
theorem items_ok {s : Script} {dead : Bool} {sets : List (List Row)}
    (h : s.sets dead = .ok sets) : ∃ is : List QueryItem, s.items dead = is.map .ok := by
  rw [← collectItems_items] at h
  exact ok_of_collectItems h

theorem items_error {s : Script} {dead : Bool} {e : Error} (h : s.sets dead = .error e) :
    ∃ is : List QueryItem, s.items dead = is.map .ok ++ [.error e] := by
  unfold Script.sets at h
  unfold items
  split at h
  · next hd => rw [if_pos hd]; cases h; exact ⟨[], rfl⟩
  · next hd =>
    rw [if_neg hd]
    split at h
    · cases h; exact ⟨[], rfl⟩
    · unfold setsSent at h
      unfold itemsSent
      split at h
      · cases h; exact ⟨[], rfl⟩
      · exact Response.items_error h

end Script

end TiberiusBridge
