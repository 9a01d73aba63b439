import Mathlib.Data.List.Induction
import TiberiusBridge.Compat.QueryStream
import TiberiusBridge.Lib.Runs
import TiberiusBridge.Tds.Reference

/-!
# Look-ahead over an arbitrary inner stream

The inner stream is a tape: `none` answers one poll with `Pending`, `some` with
an item, and past its end every poll answers that the stream has ended. One poll
of a `columns` future leaves nothing behind but the queue, so dropping it while
pending, and polling it or another one later, come to the same.
-/
namespace TiberiusBridge

open Lib (Run Trace ofStep)

section

variable [MssqlTds]

abbrev Item := Result QueryItem

abbrev Tape := List (Option Item)

/-- One poll of the inner stream. -/
def Tape.poll : Tape → Option (Option Item) × Tape
  | [] => (some none, [])
  | none :: rest => (none, rest)
  | some i :: rest => (some (some i), rest)

def Tape.items (tape : Tape) : List Item := tape.filterMap id

structure LookAhead where
  queue : QueryStream := {}
  inner : Tape

inductive Poll
  | next
  | columns
  deriving DecidableEq, Repr

inductive Polled
  | pending
  | item (i : Option Item)
  | columns (r : Result (Option (List Column)))

namespace LookAhead

def pollNext (s : LookAhead) : LookAhead × Polled :=
  match s.queue.takePeeked with
  | (some i, queue) => ({ s with queue := queue.observe (some i) }, .item (some i))
  | (none, queue) =>
    match s.inner.poll with
    | (none, inner) => (⟨queue, inner⟩, .pending)
    | (some i, inner) => (⟨queue.observe i, inner⟩, .item i)

def pollColumns (s : LookAhead) : LookAhead × Polled :=
  match s.queue.peeked with
  | some _ => (s, .columns (.ok s.queue.columnList))
  | none =>
    match s.inner.poll with
    | (none, inner) => ({ s with inner }, .pending)
    | (some i, inner) =>
      let (queue, r) := s.queue.lookAhead i
      (⟨queue, inner⟩, .columns r)

def poll (s : LookAhead) : Poll → LookAhead × Polled
  | .next => s.pollNext
  | .columns => s.pollColumns

def step (s : LookAhead) (p : Poll) : Option (LookAhead × List Polled) :=
  some ((s.poll p).1, [(s.poll p).2])

abbrev Runs (s : LookAhead) (t : Trace Poll Polled) (s' : LookAhead) : Prop :=
  Run (ofStep step) s t s'

end LookAhead

namespace Polled

/-- The inner item an answer hands over: one returned by `poll_next`, or an error of `columns`. -/
def delivered : Polled → Option Item
  | item i => i
  | columns (.error e) => some (.error e)
  | _ => none

/-- The item `poll_next` returns. -/
def returned : Polled → Option Item
  | item i => i
  | _ => none

end Polled

/-- What is known of the columns after an item, given what was known before it. -/
def describe (known : Option RowSchema) : Item → Option RowSchema
  | .ok (.metadata m) => some m.schema
  | .ok (.row _) => known
  | .error _ => none

def described (items : List Item) : Option RowSchema := items.foldl describe none

def Item.metadata : Item → Option ResultMetadata
  | .ok (.metadata m) => some m
  | _ => none

/-- The metadata of the result set that the last item belongs to. -/
def resultSet (items : List Item) : Option ResultMetadata := (items.filterMap Item.metadata).getLast?

def QueryItem.schema : QueryItem → RowSchema
  | .row r => r.schema
  | .metadata m => m.schema

/-- Each row carries the schema of the last metadata before it. -/
def CarriesSchema (items : List Item) : Prop :=
  ∀ before r after, items = before ++ .ok (.row r) :: after →
    ∃ m, resultSet before = some m ∧ r.schema = m.schema

theorem described_snoc (items : List Item) (i : Item) :
    described (items ++ [i]) = describe (described items) i := by simp [described]

theorem resultSet_snoc (items : List Item) (i : Item) :
    resultSet (items ++ [i]) = (i.metadata).or (resultSet items) := by
  unfold resultSet
  rw [List.filterMap_append]
  cases h : i.metadata with
  | none => simp [h]
  | some m => simp [h]

/-- Known columns are those of the result set of the last item, with no error since. -/
theorem described_some {items : List Item} {schema : RowSchema}
    (h : described items = some schema) :
    ∃ before m after, items = before ++ .ok (.metadata m) :: after ∧ m.schema = schema ∧
      resultSet items = some m ∧ ∀ e, .error e ∉ after := by
  induction items using List.reverseRecOn with
  | nil => cases h
  | append_singleton items i ih =>
    rw [described_snoc] at h
    rw [resultSet_snoc]
    cases i with
    | error e => cases h
    | ok item =>
      cases item with
      | metadata m => cases h; exact ⟨items, m, [], rfl, rfl, rfl, by simp⟩
      | row r =>
        obtain ⟨before, m, after, rfl, hs, hr, he⟩ := ih h
        exact ⟨before, m, after ++ [.ok (.row r)], by simp, hs, hr, by simpa using he⟩

namespace LookAhead

/-- The items handed over in a run, in order. -/
def delivered (t : Trace Poll Polled) : List Item := t.observed.filterMap Polled.delivered

/-- The items `poll_next` returned in a run. -/
def returned (t : Trace Poll Polled) : List Item := t.observed.filterMap Polled.returned

/-- The inner items taken so far: those handed over, then the one held back. -/
def taken (t : Trace Poll Polled) (s : LookAhead) : List Item := delivered t ++ s.queue.peeked.toList

variable {tape : Tape} {t t' : Trace Poll Polled} {s s' : LookAhead} {p : Poll}

/-- Nothing is lost or duplicated, no error is held back, and the queue knows the columns of what
it has taken. -/
structure Inv (tape : Tape) (t : Trace Poll Polled) (s : LookAhead) : Prop where
  items : taken t s ++ s.inner.items = tape.items
  peeked : ∀ e, s.queue.peeked ≠ some (.error e)
  columns : s.queue.columns = described (taken t s)

theorem delivered_snoc (t : Trace Poll Polled) (p : Poll) (o : Polled) :
    delivered (t ++ [(p, [o])]) = delivered t ++ o.delivered.toList := by
  simp only [delivered, Trace.observed_append, List.filterMap_append]
  cases h : o.delivered <;> simp [Trace.observed, h]

theorem observe_columns (q : QueryStream) (i : Item) :
    (q.observe (some i)).columns = describe q.columns i := by
  cases i with
  | error e => rfl
  | ok item => cases item <;> rfl

theorem inv_init (tape : Tape) : Inv tape [] ⟨{}, tape⟩ := ⟨rfl, fun _ h => (nomatch h), rfl⟩

theorem describe_describe (known : Option RowSchema) (i : Item) :
    describe (describe known i) i = describe known i := by
  cases i with
  | error e => rfl
  | ok item => cases item <;> rfl

/-- An answer that hands over `o` and leaves the tape at `inner` keeps the invariant if the queue
accounts for what was taken. -/
theorem inv_answer {o : Polled} {queue : QueryStream} {inner : Tape}
    (hitems : delivered t ++ o.delivered.toList ++ queue.peeked.toList ++ inner.items = tape.items)
    (hpeek : ∀ e, queue.peeked ≠ some (.error e))
    (hcol : queue.columns = described (delivered t ++ o.delivered.toList ++ queue.peeked.toList)) :
    Inv tape (t ++ [(p, [o])]) ⟨queue, inner⟩ :=
  ⟨by rw [taken, delivered_snoc]; exact hitems, hpeek,
    by rw [taken, delivered_snoc]; exact hcol⟩

theorem pollNext_held (columns : Option RowSchema) (i : Item) (inner : Tape) :
    pollNext ⟨⟨some i, columns⟩, inner⟩ =
      (⟨(⟨none, columns⟩ : QueryStream).observe (some i), inner⟩, .item (some i)) := rfl

theorem pollNext_ended (columns : Option RowSchema) :
    pollNext ⟨⟨none, columns⟩, []⟩ = (⟨⟨none, columns⟩, []⟩, .item none) := rfl

theorem pollNext_pending (columns : Option RowSchema) (rest : Tape) :
    pollNext ⟨⟨none, columns⟩, none :: rest⟩ = (⟨⟨none, columns⟩, rest⟩, .pending) := rfl

theorem pollNext_ready (columns : Option RowSchema) (i : Item) (rest : Tape) :
    pollNext ⟨⟨none, columns⟩, some i :: rest⟩ =
      (⟨(⟨none, columns⟩ : QueryStream).observe (some i), rest⟩, .item (some i)) := rfl

theorem pollColumns_held (columns : Option RowSchema) (i : Item) (inner : Tape) :
    pollColumns ⟨⟨some i, columns⟩, inner⟩ =
      (⟨⟨some i, columns⟩, inner⟩, .columns (.ok (columns.map RowSchema.columns))) := rfl

theorem pollColumns_ended (columns : Option RowSchema) :
    pollColumns ⟨⟨none, columns⟩, []⟩ =
      (⟨⟨none, columns⟩, []⟩, .columns (.ok (columns.map RowSchema.columns))) := rfl

theorem pollColumns_pending (columns : Option RowSchema) (rest : Tape) :
    pollColumns ⟨⟨none, columns⟩, none :: rest⟩ = (⟨⟨none, columns⟩, rest⟩, .pending) := rfl

theorem pollColumns_error (columns : Option RowSchema) (e : Error) (rest : Tape) :
    pollColumns ⟨⟨none, columns⟩, some (.error e) :: rest⟩ =
      (⟨⟨none, none⟩, rest⟩, .columns (.error e)) := rfl

theorem pollColumns_ready (columns : Option RowSchema) (item : QueryItem) (rest : Tape) :
    pollColumns ⟨⟨none, columns⟩, some (.ok item) :: rest⟩ =
      (⟨⟨some (.ok item), describe columns (.ok item)⟩, rest⟩,
        .columns (.ok ((describe columns (.ok item)).map RowSchema.columns))) := by
  cases item <;> rfl

theorem inv_next (hi : Inv tape t s) : Inv tape (t ++ [(p, [s.pollNext.2])]) s.pollNext.1 := by
  obtain ⟨⟨peeked, columns⟩, inner⟩ := s
  obtain ⟨hitems, hpeek, hcol⟩ := hi
  simp only [taken] at hitems hpeek hcol
  cases peeked with
  | some i =>
    rw [pollNext_held]
    refine inv_answer (by simpa [Polled.delivered] using hitems) (by simp) ?_
    -- the item held back was described when it was taken
    rw [observe_columns, QueryStream.observe_peeked]
    simp only [Polled.delivered, Option.toList_some, Option.toList_none, List.append_nil] at hcol ⊢
    rw [hcol, described_snoc, describe_describe]
  | none =>
    rw [Option.toList_none, List.append_nil] at hitems hcol
    cases inner with
    | nil =>
      rw [pollNext_ended]
      exact inv_answer (by simpa [Polled.delivered] using hitems) hpeek
        (by simpa [Polled.delivered] using hcol)
    | cons x rest =>
      cases x with
      | none =>
        rw [pollNext_pending]
        exact inv_answer (by simpa [Polled.delivered, Tape.items] using hitems) hpeek
          (by simpa [Polled.delivered] using hcol)
      | some i =>
        rw [pollNext_ready]
        refine inv_answer (by simpa [Polled.delivered, Tape.items] using hitems) (by simp) ?_
        rw [observe_columns, QueryStream.observe_peeked]
        simp only [Polled.delivered, Option.toList_some, Option.toList_none, List.append_nil]
        rw [described_snoc, hcol]

theorem inv_columns (hi : Inv tape t s) :
    Inv tape (t ++ [(p, [s.pollColumns.2])]) s.pollColumns.1 := by
  obtain ⟨⟨peeked, columns⟩, inner⟩ := s
  obtain ⟨hitems, hpeek, hcol⟩ := hi
  simp only [taken] at hitems hpeek hcol
  cases peeked with
  | some i =>
    rw [pollColumns_held]
    exact inv_answer (by simpa [Polled.delivered] using hitems) hpeek
      (by simpa [Polled.delivered] using hcol)
  | none =>
    rw [Option.toList_none, List.append_nil] at hitems hcol
    cases inner with
    | nil =>
      rw [pollColumns_ended]
      exact inv_answer (by simpa [Polled.delivered] using hitems) hpeek
        (by simpa [Polled.delivered] using hcol)
    | cons x rest =>
      cases x with
      | none =>
        rw [pollColumns_pending]
        exact inv_answer (by simpa [Polled.delivered, Tape.items] using hitems) hpeek
          (by simpa [Polled.delivered] using hcol)
      | some i =>
        cases i with
        | error e =>
          rw [pollColumns_error]
          refine inv_answer (by simpa [Polled.delivered, Tape.items] using hitems) hpeek ?_
          simp only [Polled.delivered, Option.toList_some, Option.toList_none, List.append_nil]
          rw [described_snoc]
          rfl
        | ok item =>
          rw [pollColumns_ready]
          refine inv_answer (by simpa [Polled.delivered, Tape.items] using hitems) (by simp) ?_
          simp only [Polled.delivered, Option.toList_some, Option.toList_none, List.append_nil]
          rw [described_snoc, ← hcol]

theorem runs_inv (h : Runs ⟨{}, tape⟩ t s) : Inv tape t s := by
  refine h.history (I := Inv tape) ?_ (inv_init tape)
  intro t s p os s' hi hs
  cases hs
  cases p with
  | next => exact inv_next hi
  | columns => exact inv_columns hi

/-- While an item is held back, only a `poll_next` moves the queue, and it returns that item. -/
theorem runs_peeked {i : Item} (h : Runs s t s') (hp : s.queue.peeked = some i) :
    returned t = [] ∨ ∃ rest, returned t = i :: rest := by
  induction h with
  | nil => exact .inl rfl
  | @cons s m s' p os t hs hr ih =>
    cases hs
    obtain ⟨⟨peeked, columns⟩, inner⟩ := s
    cases hp
    cases p with
    | columns => exact ih rfl
    | next => exact .inr ⟨returned t, rfl⟩

/-- Once the inner stream has ended, so has the queue. -/
theorem runs_ended (h : Runs s t s') (hp : s.queue.peeked = none) (hi : s.inner = []) :
    returned t = [] := by
  induction h with
  | nil => rfl
  | @cons s m s' p os t hs hr ih =>
    cases hs
    obtain ⟨⟨peeked, columns⟩, inner⟩ := s
    cases hp
    cases hi
    cases p with
    | columns => exact ih rfl rfl
    | next => exact ih rfl rfl

/-- What `columns` reports is what the queue knows; after it an item is held back, unless the
stream is at its end. -/
theorem pollColumns_ok {c : List Column} (h : s.pollColumns.2 = .columns (.ok (some c))) :
    s.pollColumns.1.queue.columnList = some c ∧
      ((∃ i, s.pollColumns.1.queue.peeked = some i) ∨
        s.pollColumns.1.queue.peeked = none ∧ s.pollColumns.1.inner = []) := by
  obtain ⟨⟨peeked, columns⟩, inner⟩ := s
  cases peeked with
  | some i =>
    rw [pollColumns_held] at h ⊢
    exact ⟨Except.ok.inj (Polled.columns.inj h), .inl ⟨i, rfl⟩⟩
  | none =>
    cases inner with
    | nil =>
      rw [pollColumns_ended] at h ⊢
      exact ⟨Except.ok.inj (Polled.columns.inj h), .inr ⟨rfl, rfl⟩⟩
    | cons x rest =>
      cases x with
      | none => cases h
      | some i =>
        cases i with
        | error e => cases h
        | ok item =>
          rw [pollColumns_ready] at h ⊢
          exact ⟨Except.ok.inj (Polled.columns.inj h), .inl ⟨_, rfl⟩⟩

/-- A poll of `columns` that reports columns hands nothing over. -/
theorem delivered_columns {c : List Column} (h : s.pollColumns.2 = .columns (.ok (some c))) :
    delivered (t ++ [(p, [s.pollColumns.2])]) = delivered t := by
  rw [delivered_snoc, h]
  simp [Polled.delivered]

/-- The metadata that columns just reported come from. -/
theorem columns_from {c : List Column} (hi : Inv tape t s)
    (h : s.pollColumns.2 = .columns (.ok (some c))) :
    ∃ before m after, taken t s.pollColumns.1 = before ++ .ok (.metadata m) :: after ∧
      m.columns = c ∧ resultSet (taken t s.pollColumns.1) = some m ∧ ∀ e, .error e ∉ after := by
  have hcols : s.pollColumns.1.queue.columns = described (taken t s.pollColumns.1) := by
    have := (inv_columns (p := .columns) hi).columns
    rwa [taken, delivered_columns h] at this
  obtain ⟨hc, -⟩ := pollColumns_ok h
  unfold QueryStream.columnList at hc
  rw [hcols] at hc
  obtain ⟨schema, hd, hs⟩ := Option.map_eq_some_iff.mp hc
  obtain ⟨before, m, after, ht, rfl, hr, he⟩ := described_some hd
  exact ⟨before, m, after, ht, hs, hr, he⟩

/-- In a sequence whose rows carry their set's schema, so does the last item taken. -/
theorem carries_last {items rest : List Item} {item : QueryItem} {m : ResultMetadata}
    (hs : CarriesSchema (items ++ .ok item :: rest))
    (hm : resultSet (items ++ [.ok item]) = some m) : item.schema = m.schema := by
  rw [resultSet_snoc] at hm
  cases item with
  | metadata m' => cases hm; rfl
  | row r =>
    obtain ⟨m', hm', hr⟩ := hs items r rest rfl
    rw [show Item.metadata (.ok (.row r)) = none from rfl, Option.none_or, hm'] at hm
    cases hm
    exact hr

end LookAhead

/-- What holds of a queue `s` that a run with trace `t` reaches over the inner stream `tape`. -/
structure LooksAhead (tape : Tape) (t : Trace Poll Polled) (s : LookAhead) : Prop where
  /-- The items handed over, the at most one held back, and the rest of the tape are the inner
  sequence. -/
  items : LookAhead.delivered t ++ s.queue.peeked.toList ++ s.inner.items = tape.items
  /-- Columns reported now are those of the set of the next item `poll_next` returns. -/
  next : ∀ c, s.pollColumns.2 = .columns (.ok (some c)) →
    ∀ t' s' i rest, s.pollColumns.1.Runs t' s' → LookAhead.returned t' = i :: rest →
      ∃ item m, i = .ok item ∧ item.schema.columns = c ∧
        resultSet (LookAhead.delivered t ++ [i]) = some m ∧ m.columns = c
  /-- They come from a metadata item with no error after it. -/
  since_error : ∀ c, s.pollColumns.2 = .columns (.ok (some c)) →
    ∃ before m after, LookAhead.taken t s.pollColumns.1 = before ++ .ok (.metadata m) :: after ∧
      m.columns = c ∧ ∀ e, .error e ∉ after

/-- The look-ahead of a `QueryStream` over any inner stream and any interleaving of `columns` and
`poll_next`. -/
theorem look_ahead {tape : Tape} (hs : CarriesSchema tape.items) {t : Trace Poll Polled}
    {s : LookAhead} (h : LookAhead.Runs ⟨{}, tape⟩ t s) : LooksAhead tape t s := by
  have hi := LookAhead.runs_inv h
  refine ⟨hi.items, ?_, ?_⟩
  · intro c hc t' s' i rest hr ht
    have hcols := LookAhead.inv_columns (p := .columns) hi
    obtain ⟨before, m, after, -, hmc, hset, -⟩ := LookAhead.columns_from hi hc
    obtain ⟨-, ⟨j, hp⟩ | ⟨hp, hend⟩⟩ := LookAhead.pollColumns_ok hc
    · rcases LookAhead.runs_peeked hr hp with h' | ⟨rest', h'⟩
      · rw [h'] at ht; cases ht
      · rw [h'] at ht
        cases ht
        rw [LookAhead.taken, hp] at hset
        cases i with
        | error e => exact absurd hp (hcols.peeked e)
        | ok item =>
          have hitems := hcols.items
          rw [LookAhead.taken, LookAhead.delivered_columns hc, hp, Option.toList_some,
            List.append_assoc] at hitems
          refine ⟨item, m, rfl, ?_, hset, hmc⟩
          rw [LookAhead.carries_last (hitems.symm ▸ hs) hset]
          exact hmc
    · rw [LookAhead.runs_ended hr hp hend] at ht
      cases ht
  · intro c hc
    obtain ⟨before, m, after, ht, hmc, -, he⟩ := LookAhead.columns_from hi hc
    exact ⟨before, m, after, ht, hmc, he⟩

end

section

open Reference

/-- A set of one row, whose metadata comes after one pending poll. -/
def oneRow : Tape :=
  let schema := RowSchema.fromMetadata [{ columnName := "n", dataType := .int4, length := 4 }]
  [none, some (.ok (.metadata { schema, resultIndex := 0 })),
    some (.ok (.row (rowOf schema 0 [.int 1])))]

/-- Two polls of `columns`, the first pending, over one row. -/
theorem look_ahead_one_row :
    ∃ t s, LookAhead.Runs ⟨{}, oneRow⟩ t s ∧ LooksAhead oneRow t s ∧
      (s.queue.columnList.map List.length) = some 1 := by
  have hs : CarriesSchema oneRow.items := by
    intro before r after h
    rcases before with _ | ⟨a, _ | ⟨b, before⟩⟩
    · cases h
    · cases h; exact ⟨_, rfl, rfl⟩
    · simp [oneRow, Tape.items] at h
  have h : LookAhead.Runs ⟨{}, oneRow⟩ _ _ :=
    .cons (e := .columns) rfl (.cons (e := .columns) rfl (.nil _))
  exact ⟨_, _, h, look_ahead hs h, rfl⟩

end

end TiberiusBridge
