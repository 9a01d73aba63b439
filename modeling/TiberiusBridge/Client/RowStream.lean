import TiberiusBridge.Lib.Compute
import TiberiusBridge.Lib.Pulls
import TiberiusBridge.Row

/-!
# Row streams over buffered results

`into_row_stream` hands the buffered result sets out row by row. It counts the
rows still to come apart from the iterators that hold them.
-/
namespace TiberiusBridge

open Lib (Compute Streams subUnsigned pulls)

variable [MssqlTds]

/-- `std::task::Poll`. -/
inductive TaskPoll (α : Type)
  | ready (v : α)
  | pending

structure QueryResult where
  resultSets : List (List Row)

/-- The iterators are what they have left. The rows are all in memory, so that their number fits
`usize`. -/
structure RowStream where
  sets : List (List Row)
  current : List Row
  remaining : Nat

def QueryResult.intoRowStream (r : QueryResult) : RowStream where
  sets := r.resultSets.tail
  current := r.resultSets.head?.getD []
  remaining := (r.resultSets.map List.length).sum

namespace RowStream

/-- One turn of the loop is one call. Each turn but the last takes a set. -/
def pollNext (s : RowStream) : Compute (TaskPoll (Option (Result Row)) × RowStream) :=
  match s with
  | { sets, current := row :: current, remaining } => do
    let remaining ← subUnsigned remaining 1
    return (.ready (some (.ok row)), { sets, current, remaining })
  | { sets := nextSet :: sets, current := [], remaining } =>
    pollNext { sets, current := nextSet, remaining }
  | { sets := [], current := [], remaining } =>
    return (.ready none, { sets := [], current := [], remaining })
termination_by s.sets.length

def sizeHint (s : RowStream) : Nat × Option Nat := (s.remaining, some s.remaining)

/-- The rows of the current set and of those after it, and as many are counted. -/
structure Holds (s : RowStream) (rows : List Row) : Prop where
  rows_eq : s.current ++ s.sets.flatten = rows
  remaining_eq : s.remaining = rows.length

theorem intoRowStream_holds (r : QueryResult) :
    Holds r.intoRowStream r.resultSets.flatten := by
  obtain ⟨sets⟩ := r
  constructor
  · cases sets with
    | nil => rfl
    | cons set sets => rfl
  · exact List.length_flatten.symm

/-- The current set has a row, so that the count is not zero. -/
theorem pollNext_current {sets : List (List Row)} {row' row : Row} {current rows : List Row}
    {remaining : Nat} (h : Holds ⟨sets, row' :: current, remaining⟩ (row :: rows)) :
    ∃ s', pollNext ⟨sets, row' :: current, remaining⟩ = .ok (.ready (some (.ok row)), s') ∧
      s'.Holds rows := by
  obtain ⟨hrows, hremaining⟩ := h
  have hremaining : remaining = rows.length + 1 := hremaining
  have hpos : 0 < remaining := by omega
  obtain ⟨rfl, hrest⟩ := List.cons.inj hrows
  refine ⟨⟨sets, current, remaining - 1⟩, ?_, hrest, ?_⟩
  · rw [pollNext, Lib.subUnsigned_ok hpos]
    rfl
  · exact Nat.sub_eq_of_eq_add hremaining

/-- The next row, however many empty sets come before it. -/
theorem pollNext_cons {s : RowStream} {row : Row} {rows : List Row} (h : s.Holds (row :: rows)) :
    ∃ s', s.pollNext = .ok (.ready (some (.ok row)), s') ∧ s'.Holds rows := by
  obtain ⟨sets, current, remaining⟩ := s
  -- on the sets: each turn of the loop that finds no row takes one
  induction sets generalizing current with
  | nil =>
    cases current with
    | nil => cases h.rows_eq
    | cons row' current => exact pollNext_current h
  | cons nextSet sets ih =>
    cases current with
    | nil =>
      obtain ⟨s', hpoll, hs'⟩ := ih nextSet ⟨h.rows_eq, h.remaining_eq⟩
      exact ⟨s', by rw [pollNext, hpoll], hs'⟩
    | cons row' current => exact pollNext_current h

theorem pollNext_nil {s : RowStream} (h : s.Holds []) :
    ∃ s', s.pollNext = .ok (.ready none, s') ∧ s'.Holds [] := by
  obtain ⟨sets, current, remaining⟩ := s
  obtain ⟨hrows, hremaining⟩ := h
  induction sets generalizing current with
  | nil =>
    obtain ⟨rfl, -⟩ := List.append_eq_nil_iff.mp hrows
    exact ⟨⟨[], [], remaining⟩, by rw [pollNext]; rfl, rfl, hremaining⟩
  | cons nextSet sets ih =>
    obtain ⟨rfl, hrest⟩ := List.append_eq_nil_iff.mp hrows
    obtain ⟨s', hpoll, hs'⟩ := ih nextSet hrest hremaining
    exact ⟨s', by rw [pollNext, hpoll], hs'⟩

theorem streams : Streams pollNext (fun row => .ready (some (.ok row))) (.ready none) Holds where
  pull_cons _ _ _ := pollNext_cons
  pull_nil _ := pollNext_nil

end RowStream

def QueryResult.rows (r : QueryResult) : List Row := r.resultSets.flatten

/-- The rows of all sets in order, and then the end for as long as it is asked. -/
def QueryResult.answers (r : QueryResult) (k : Nat) : List (TaskPoll (Option (Result Row))) :=
  (r.rows.take k).map (fun row => .ready (some (.ok row))) ++
    List.replicate (k - r.rows.length) (.ready none)

theorem QueryResult.pulls_eq (r : QueryResult) (k : Nat) :
    ∃ s, pulls RowStream.pollNext k r.intoRowStream = .ok (r.answers k, s) ∧
      s.Holds (r.rows.drop k) :=
  RowStream.streams.pulls k (RowStream.intoRowStream_holds r)

/-- Every poll is ready, and what is still to come is known at any time. -/
theorem row_stream (result : QueryResult) (k : Nat) :
    ∃ s, pulls RowStream.pollNext k result.intoRowStream = .ok (result.answers k, s) ∧
      s.sizeHint = (result.rows.length - min k result.rows.length,
        some (result.rows.length - min k result.rows.length)) := by
  obtain ⟨s, hpulls, hs⟩ := result.pulls_eq k
  have hremaining : s.remaining = result.rows.length - min k result.rows.length := by
    rw [hs.remaining_eq, List.length_drop]
    omega
  exact ⟨s, hpulls, by rw [RowStream.sizeHint, hremaining]⟩

end TiberiusBridge
