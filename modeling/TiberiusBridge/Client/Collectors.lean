import TiberiusBridge.Client.RowStream
import TiberiusBridge.Client.StreamEquivalence

/-!
# Collecting what is left of a stream

`into_results`, `into_first_result` and `into_row` take a stream wherever it
stands. They return the rows still to come of the set that was begun, if any,
and then the sets after it.
-/
namespace TiberiusBridge

open Lib (Run Trace)

variable [MssqlTds]

/-- `QueryStream::into_first_result` on the outcome of `into_results`. -/
def QueryStream.intoFirstResult (results : Result (List (List Row))) : Result (List Row) :=
  results.map fun sets => sets.head?.getD []

/-- `QueryStream::into_row`. -/
def QueryStream.intoRow (results : Result (List (List Row))) : Result (Option Row) :=
  (intoFirstResult results).map List.head?

/-- `QueryResult::into_first_result`, which removes the set at 0. -/
def QueryResult.intoFirstResult (r : QueryResult) : List Row :=
  match r.resultSets with
  | [] => []
  | rows :: _ => rows

/-- What is left of some sets once `begun` of them were announced and the rows `read`. -/
inductive SetsLeft : Nat → List (List Row) → List Row → List (List Row) → Prop
  | untouched (all : List (List Row)) : SetsLeft 0 all [] all
  | within (before : List (List Row)) (read rows : List Row) (after : List (List Row))
      (h : rows ≠ []) : SetsLeft (before.length + 1) (before ++ (read ++ rows) :: after)
        (before.flatten ++ read) (rows :: after)
  /-- A set that was read to its end leaves nothing behind. -/
  | between (before : List (List Row)) (read : List Row) (after : List (List Row)) :
      SetsLeft (before.length + 1) (before ++ read :: after) (before.flatten ++ read) after

def isMetadata : Result QueryItem → Bool
  | .ok (.metadata _) => true
  | _ => false

/-- The sets that some items announce. -/
def setsBegun (items : List (Result QueryItem)) : Nat := items.countP isMetadata

/-- Items continue the set that is open, and then open others, whatever came before them. -/
theorem collectItems_continues (items : List QueryItem) : ∃ rows after,
    (∀ before read, collectItems (before ++ [read]) (items.map .ok) =
      .ok (before ++ (read ++ rows) :: after)) ∧
    collectItems [] (items.map .ok) = .ok (if rows.isEmpty then after else rows :: after) := by
  induction items with
  | nil =>
    refine ⟨[], [], fun before read => ?_, rfl⟩
    rw [List.append_nil]
    rfl
  | cons item items ih =>
    obtain ⟨rows, after, hopen, -⟩ := ih
    cases item with
    | metadata m =>
      refine ⟨[], rows :: after, fun before read => ?_, ?_⟩
      · refine (hopen (before ++ [read]) []).trans ?_
        rw [List.append_nil, List.append_assoc]
        rfl
      · exact hopen [] []
    | row r =>
      refine ⟨r :: rows, after, fun before read => ?_, ?_⟩
      · have h := hopen before (read ++ [r])
        rw [← collectItem_row, List.append_assoc] at h
        exact h
      · exact hopen [] [r]

/-- Collecting keeps the rows, in order. -/
theorem collectItems_rows {items : List (Result QueryItem)} {sets sets' : List (List Row)}
    (h : collectItems sets items = .ok sets') :
    sets'.flatten.map .ok = sets.flatten.map .ok ++ rowItems items := by
  induction items generalizing sets with
  | nil =>
    cases h
    rw [rowItems_nil, List.append_nil]
  | cons item items ih =>
    cases item with
    | error e => cases h
    | ok item =>
      have hrest := ih h
      cases item with
      | metadata m =>
        rw [rowItems_metadata, hrest]
        simp [collectItem]
      | row r =>
        rw [rowItems_row, hrest]
        rcases List.eq_nil_or_concat sets with rfl | ⟨before, read, rfl⟩
        · rfl
        · rw [List.concat_eq_append, collectItem_row]
          simp

/-- After a first set, each set collected is one announced. -/
theorem collectItems_length {items : List (Result QueryItem)} {sets sets' : List (List Row)}
    (hne : sets ≠ []) (h : collectItems sets items = .ok sets') :
    sets'.length = sets.length + setsBegun items := by
  induction items generalizing sets with
  | nil =>
    cases h
    rfl
  | cons item items ih =>
    cases item with
    | error e => cases h
    | ok item =>
      cases item with
      | metadata m =>
        rw [ih (by simp [collectItem]) h, collectItem, List.length_append, List.length_singleton,
          setsBegun, setsBegun, List.countP_cons_of_pos rfl, Nat.add_assoc, Nat.add_comm 1]
      | row r =>
        obtain ⟨before, read, rfl⟩ := (List.eq_nil_or_concat sets).resolve_left hne
        rw [List.concat_eq_append] at h ⊢
        have hrest : collectItems (before ++ [read ++ [r]]) items = .ok sets' := by
          rw [← collectItem_row]
          exact h
        rw [ih (by simp) hrest, setsBegun, setsBegun, List.countP_cons_of_neg (by simp [isMetadata]),
          List.length_append, List.length_append, List.length_singleton, List.length_singleton]

/-- The items of a set that was begun come after some that opened it. -/
theorem collectItems_left {given left : List (Result QueryItem)} {all : List (List Row)}
    (hgiven : given = [] ∨ ∃ m rest, given = .ok (.metadata m) :: rest)
    (h : collectItems [] (given ++ left) = .ok all) :
    ∃ read sets, rowItems given = read.map .ok ∧ SetsLeft (setsBegun given) all read sets ∧
      collectItems [] left = .ok sets := by
  obtain ⟨items, hitems⟩ := ok_of_collectItems h
  obtain ⟨given', left', rfl, rfl, rfl⟩ := List.map_eq_append_iff.mp hitems.symm
  rcases hgiven with hnil | ⟨m, rest, hcons⟩
  · obtain rfl := List.map_eq_nil_iff.mp hnil
    exact ⟨[], all, rfl, .untouched all, h⟩
  · cases given' with
    | nil => cases hcons
    | cons first given' =>
      cases hcons
      obtain ⟨rows, after, hopen, -⟩ := collectItems_continues given'
      have hsets : collectItems [] (.ok (.metadata m) :: given'.map .ok) = .ok (rows :: after) :=
        hopen [] []
      have hrows := collectItems_rows hsets
      have hcount : (rows :: after).length = 1 + setsBegun (given'.map .ok) :=
        collectItems_length (List.cons_ne_nil [] []) hsets
      have hcollect := (collectItems_append hsets).symm.trans h
      rcases List.eq_nil_or_concat (rows :: after) with hnil | ⟨before, read, hlast⟩
      · cases hnil
      rw [List.concat_eq_append] at hlast
      rw [hlast] at hrows hcollect hcount
      have hbegun : setsBegun (.ok (.metadata m) :: given'.map .ok) = before.length + 1 := by
        rw [setsBegun, List.countP_cons_of_pos rfl]
        rw [setsBegun, List.length_append, List.length_singleton] at hcount
        omega
      obtain ⟨rows', after', hopen', hleft⟩ := collectItems_continues left'
      cases hcollect.symm.trans (hopen' before read)
      have hread : rowItems (.ok (.metadata m) :: given'.map .ok) =
          (before.flatten ++ read).map .ok := by
        refine hrows.symm.trans ?_
        rw [List.flatten_append, List.flatten_singleton]
      refine ⟨before.flatten ++ read, _, hread, ?_, hleft⟩
      rw [List.map_cons, hbegun]
      cases rows' with
      | nil =>
        rw [List.append_nil]
        exact .between before read after'
      | cons row rows' => exact .within before read (row :: rows') after' (List.cons_ne_nil _ _)

/-- The items of a script without error begin with metadata. -/
theorem Response.items_head {r : Response} {index : Nat} {sets : List (List Row)}
    (h : r.sets index = .ok sets) :
    r.items index = [] ∨ ∃ m rest, r.items index = .ok (.metadata m) :: rest := by
  induction r with
  | done => exact .inl rfl
  | fail e => cases h
  | noRows rest ih => exact ih h
  | set metadata rows rest ih => exact .inr ⟨_, _, rfl⟩
  | brokenSet metadata rows e => cases h

theorem Script.items_head {s : Script} {dead : Bool} {sets : List (List Row)}
    (h : s.sets dead = .ok sets) :
    s.items dead = [] ∨ ∃ m rest, s.items dead = .ok (.metadata m) :: rest := by
  obtain ⟨hitems, hsets⟩ := Script.sets_ok h
  rw [hitems]
  exact Response.items_head hsets

/-- The rows read and the rows left are all the rows. -/
theorem SetsLeft.rows {begun : Nat} {all sets : List (List Row)} {read : List Row}
    (h : SetsLeft begun all read sets) :
    all.flatten = read ++ sets.flatten := by
  cases h with
  | untouched => rfl
  | within before cur rows after => simp
  | between before cur after => simp

/-- `into_row` returns the next row of a set that was begun and has one, and looks no further than
the first set that is left. -/
theorem SetsLeft.intoRow {begun : Nat} {all sets : List (List Row)} {read : List Row} {row : Row}
    (h : SetsLeft begun all read sets) (hrow : QueryStream.intoRow (.ok sets) = .ok (some row)) :
    all.flatten[read.length]? = some row := by
  have hnext : sets.flatten.head? = some row := by
    cases sets with
    | nil => cases hrow
    | cons rows sets =>
      have hhead : rows.head? = some row := Except.ok.inj hrow
      rw [List.flatten_cons, List.head?_append, hhead]
      rfl
  rw [h.rows, List.getElem?_append_right le_rfl, Nat.sub_self, ← List.head?_eq_getElem?]
  exact hnext

/-- Of any run on a script. -/
structure CollectsRest (client : Client) (script : Script) : Prop where
  /-- `into_results` returns what is left after the sets that were announced and the rows that
  were handed over. -/
  rest : ∀ e s t p v all, e.streams = true → client.start e = some s →
    Run Plays (s, .start script) t p → .returned v ∈ t.observed →
      script.sets client.inner.dead = .ok all → ∃ read sets,
        rowItems (handed t) = read.map .ok ∧ SetsLeft (setsBegun (handed t)) all read sets ∧
          v = .ok (.results sets) ∧ all.flatten = read ++ sets.flatten
  /-- With an error or without, that is what the items that were not handed over collect to. -/
  unread : ∀ e s t p v, e.streams = true → client.start e = some s →
    Run Plays (s, .start script) t p → .returned v ∈ t.observed →
      ∃ left, script.items client.inner.dead = handed t ++ left ∧
        v = (collectItems [] left).map .results
  /-- `into_results` can be called between any two polls of the stream, and from wherever it has
  come to it can be taken to its return. -/
  returns : ∀ e s t p st, e.streams = true → client.start e = some s →
    Run Plays (s, .start script) t p → p.1.task = .stream st none → st.mode = .compat →
      ∃ s', Plays p .intoResults [] (s', p.2) ∧ AlwaysReturns (s', p.2)
  /-- So `into_row` returns the row that comes next, if any. -/
  next : ∀ e s t p sets all row, e.streams = true → client.start e = some s →
    Run Plays (s, .start script) t p → .returned (.ok (.results sets)) ∈ t.observed →
      script.sets client.inner.dead = .ok all → QueryStream.intoRow (.ok sets) = .ok (some row) →
        all.flatten[(rowItems (handed t)).length]? = some row
  /-- An error comes to light once: nothing is left after it was handed over. -/
  error : ∀ e s t p v err, e.streams = true → client.start e = some s →
    Run Plays (s, .start script) t p → .returned v ∈ t.observed →
      script.sets client.inner.dead = .error err →
        handed t = script.items client.inner.dead ∧ v = .ok (.results []) ∨
          .error err ∉ handed t ∧ v = .error err
  /-- From the start, the first set is that of a buffered query. -/
  first : ∀ e s t p v e' s' t' p' v', e.streams = true → client.start e = some s →
    Run Plays (s, .start script) t p → handed t = [] → .returned v ∈ t.observed →
    e'.collects = true → client.start e' = some s' → Run Plays (s', .start script) t' p' →
    .returned v' ∈ t'.observed → ∃ results, v = results.map .results ∧ v' = results.map .results ∧
      QueryStream.intoFirstResult results =
        results.map fun sets => QueryResult.intoFirstResult ⟨sets⟩

/-- What a stream returned is collected from the items that were not handed over. -/
theorem returned_left {client : Client} {script : Script} {e : Entry} {s : Session}
    {t : Trace Event Obs} {p : Playback} {v : Result Value} (he : e.streams = true)
    (hs : client.start e = some s) (hr : Run Plays (s, .start script) t p)
    (hv : .returned v ∈ t.observed) : ∃ left, script.items client.inner.dead = handed t ++ left ∧
      v = (collectItems [] left).map .results := by
  have hon := hr.history (fun _ _ _ _ _ hi h => plays_streams hi h) (start_streamsOn script he hs)
  exact (hon.returned v hv).2

/-- `into_results` is awaited. -/
def Collecting : Task → Prop
  | .stream s polling => s.mode.wrapper = .results ∧ polling ≠ some .columns
  | _ => False

/-- `into_results` goes on, or returns. -/
def Collected (r : Stepped) : Prop :=
  Collecting r.1.task ∨ r.1.task = .idle ∧ ∃ v, .returned v ∈ r.2

namespace StreamTask

variable {s : StreamTask} {client : Client} {r : Stepped}

theorem deliverLast_collected (hm : s.mode.wrapper = .results) (client : Client)
    (e : Option Error) : Collected (s.deliverLast client .next e) := by
  obtain ⟨mode, queue, gen⟩ := s
  cases mode with
  | compat | rows => cases hm
  | results sets => exact .inr ⟨rfl, _, List.mem_singleton.mpr rfl⟩

theorem proceed_collected (hm : s.mode.wrapper = .results)
    (h : s.proceed client .next = some r) : Collected r := by
  unfold proceed at h
  split at h <;> cases h
  · exact .inl ⟨hm, by simp⟩
  · exact deliverLast_collected (s := { s with gen := .yielded .error }) hm client _
  · exact deliverLast_collected (s := { s with gen := .finished }) hm client _

theorem deliverItem_collected {i : QueryItem} (hm : s.mode.wrapper = .results)
    (h : s.deliverItem client .next i = some r) : Collected r := by
  obtain ⟨mode, queue, gen⟩ := s
  cases mode with
  | compat | rows => cases hm
  | results sets => exact proceed_collected rfl h

theorem settle_collected {x : StreamResumed} (hm : s.mode.wrapper = .results)
    (h : s.settle client .next x = some r) : Collected r := by
  cases x with
  | await guard a =>
    cases h
    exact .inl ⟨hm, by simp⟩
  | item i y => exact deliverItem_collected (s := { s with gen := .yielded y }) hm h
  | error e =>
    cases h
    exact deliverLast_collected (s := { s with gen := .yielded .error }) hm client _
  | finished =>
    cases h
    exact deliverLast_collected (s := { s with gen := .finished }) hm client _

theorem pollNext_collected (hm : s.mode.wrapper = .results)
    (h : s.pollNext client = some r) : Collected r := by
  obtain ⟨mode, ⟨peeked, columns⟩, gen⟩ := s
  cases mode with
  | compat | rows => cases hm
  | results sets =>
    cases peeked with
    | some i =>
      cases i with
      | ok i => exact deliverItem_collected (s := ⟨.results sets, _, gen⟩) rfl h
      | error e =>
        cases h
        exact deliverLast_collected (s := ⟨.results sets, _, gen⟩) rfl client _
    | none =>
      cases hg : gen.isSuspended with
      | true =>
        obtain ⟨guard, a, rfl⟩ := StreamState.eq_suspended hg
        cases h
        exact .inl ⟨rfl, by simp⟩
      | false =>
        have hpoll : (StreamTask.mk (.results sets) ⟨none, columns⟩ gen).pollNext client =
            (StreamTask.mk (.results sets) ⟨none, columns⟩ gen).settle client .next
              (gen.poll client.inner) := by
          cases gen with
          | suspended => cases hg
          | unpolled | yielded | finished => rfl
        rw [hpoll] at h
        exact settle_collected rfl h

end StreamTask

/-- Once called, `into_results` goes on, is dropped or returns. -/
theorem Collecting.step {s s' : Session} {ev : Event} {os : List Obs} (hc : Collecting s.task)
    (h : s.step ev = some (s', os)) :
    Collecting s'.task ∨ s'.task = .idle ∧ (ev.drops = true ∨ ∃ v, .returned v ∈ os) := by
  have moved : ∀ {r : Stepped}, Collected r → r = (s', os) →
      Collecting s'.task ∨ s'.task = .idle ∧ (ev.drops = true ∨ ∃ v, .returned v ∈ os) := by
    rintro r hr rfl
    exact hr.imp_right (And.imp_right .inr)
  obtain ⟨client, task⟩ := s
  cases task with
  | idle | unpolled | operation | reset => exact hc.elim
  | stream st polling =>
    obtain ⟨hm, hp⟩ := hc
    obtain ⟨mode, queue, gen⟩ := st
    cases mode with
    | compat | rows => cases hm
    | results sets =>
      cases polling with
      | none =>
        cases ev with
        | poll =>
          exact moved (StreamTask.pollNext_collected (s := ⟨.results sets, queue, gen⟩) rfl h) rfl
        | drop =>
          cases h
          exact .inr ⟨rfl, .inl rfl⟩
        | start | columns | intoRowStream | intoResults | reply => cases h
      | some consumer =>
        cases ev with
        | reply rp =>
          cases consumer with
          | columns => exact absurd rfl hp
          | next =>
            simp only [Session.step, Session.reply] at h
            split at h
            · cases h
              exact .inl ⟨rfl, by simp⟩
            · unfold StreamTask.resume at h
              split at h
              · cases h
              · exact moved (StreamTask.settle_collected rfl h) rfl
            · cases h
        | start | poll | columns | intoRowStream | intoResults | drop => cases h

theorem Plays.not_idle {p p' : Playback} {ev : Event} {os : List Obs} (h : Plays p ev os p') :
    p.1.task ≠ .idle := by
  intro hidle
  cases h with
  | @user s s' cur ev os hn hr h =>
    obtain ⟨client, task⟩ := s
    cases hidle
    cases ev with
    | start => cases hn
    | poll | columns | intoRowStream | intoResults | reply | drop => cases h
  | @driver s s' cur cur' call r os hc ha h =>
    obtain ⟨client, task⟩ := s
    cases hidle
    cases hc

theorem collecting_runs {p p' : Playback} {u : Trace Event Obs} (hc : Collecting p.1.task)
    (h : Run Plays p u p') : Collecting p'.1.task ∨ p'.1.task = .idle ∧ Concluded u p' := by
  refine h.history (I := fun u p => Collecting p.1.task ∨ p.1.task = .idle ∧ Concluded u p) ?_
    (.inl hc)
  intro u p ev os p' hi hs
  rcases hi with hc | ⟨hidle, -⟩
  · refine (hc.step hs.session.1).imp_right fun ⟨hidle, hend⟩ => ⟨hidle, fun _ => ?_⟩
    rcases hend with hd | ⟨v, hv⟩
    · exact .inl (by simp [dropped, hd])
    · exact .inr ⟨v, by simp [hv]⟩
  · exact absurd hidle hs.not_idle

/-- Called between two polls, `into_results` never gets where it cannot return from. -/
theorem intoResults_returns {client : Client} {script : Script} {e : Entry} {s : Session}
    {t : Trace Event Obs} {p : Playback} {st : StreamTask} (he : e.streams = true)
    (hs : client.start e = some s) (hr : Run Plays (s, .start script) t p)
    (ht : p.1.task = .stream st none) (hm : st.mode = .compat) :
    ∃ s', Plays p .intoResults [] (s', p.2) ∧ AlwaysReturns (s', p.2) := by
  obtain ⟨⟨client', task⟩, cur⟩ := p
  obtain ⟨mode, queue, gen⟩ := st
  cases ht
  cases hm
  have hinto : Plays (⟨client', .stream ⟨.compat, queue, gen⟩ none⟩, cur) .intoResults []
      (⟨client', .stream ⟨.results [], queue, gen⟩ none⟩, cur) :=
    .user rfl rfl (Session.intoResults_step client' queue gen)
  refine ⟨_, hinto, fun u p' hu => ?_⟩
  rcases collecting_runs (p := (⟨client', .stream ⟨.results [], queue, gen⟩ none⟩, cur))
    ⟨rfl, by simp⟩ hu with hc | ⟨hidle, hend⟩
  · have hon := (hr.append (.cons hinto hu)).history
      (fun _ _ _ _ _ hi h => plays_streams hi h) (start_streamsOn script he hs)
    obtain ⟨⟨client'', task⟩, cur'⟩ := p'
    cases task with
    | idle | unpolled | operation | reset => exact hc.elim
    | stream st' polling =>
      obtain ⟨t', p'', hrun, hdone, -⟩ := hon.finishes
      rw [hc.1] at hdone
      obtain ⟨v, hv⟩ := hdone
      exact .inr ⟨t', p'', v, hrun, by simp [hv]⟩
  · refine (hend hidle).imp_right fun ⟨v, hv⟩ => ⟨[], p', v, .nil _, by simpa using hv⟩

theorem collects_rest (client : Client) (script : Script) : CollectsRest client script := by
  have rest : ∀ e s t p v all, e.streams = true → client.start e = some s →
      Run Plays (s, .start script) t p → .returned v ∈ t.observed →
        script.sets client.inner.dead = .ok all → ∃ read sets,
          rowItems (handed t) = read.map .ok ∧ SetsLeft (setsBegun (handed t)) all read sets ∧
            v = .ok (.results sets) ∧ all.flatten = read ++ sets.flatten := by
    intro e s t p v all he hs hr hv hall
    obtain ⟨left, hitems, hv⟩ := returned_left he hs hr hv
    have hhead : handed t = [] ∨ ∃ m rest, handed t = .ok (.metadata m) :: rest := by
      cases hgiven : handed t with
      | nil => exact .inl rfl
      | cons item given =>
        rw [hgiven] at hitems
        rcases Script.items_head hall with hnil | ⟨m, rest, hcons⟩
        · cases hnil.symm.trans hitems
        · cases hcons.symm.trans hitems
          exact .inr ⟨m, given, rfl⟩
    have hcollect : collectItems [] (handed t ++ left) = .ok all := by
      rw [← hitems, Script.collectItems_items, hall]
    obtain ⟨read, sets, hread, hleft, hsets⟩ := collectItems_left hhead hcollect
    rw [hsets] at hv
    exact ⟨read, sets, hread, hleft, hv, hleft.rows⟩
  refine ⟨rest, fun e s t p v he hs hr hv => returned_left he hs hr hv,
    fun e s t p st he hs hr ht hm => intoResults_returns he hs hr ht hm, ?_, ?_, ?_⟩
  · intro e s t p sets all row he hs hr hv hall hrow
    obtain ⟨read, sets', hread, hleft, hv', -⟩ := rest e s t p _ all he hs hr hv hall
    cases hv'
    rw [hread, List.length_map]
    exact hleft.intoRow hrow
  · intro e s t p v err he hs hr hv herr
    obtain ⟨left, hitems, hv⟩ := returned_left he hs hr hv
    obtain ⟨items, hbefore⟩ := Script.items_error herr
    rcases List.eq_nil_or_concat left with rfl | ⟨left', last, rfl⟩
    · rw [List.append_nil] at hitems
      exact .inl ⟨hitems.symm, hv⟩
    · rw [List.concat_eq_append, ← List.append_assoc, hbefore] at hitems
      obtain ⟨hgiven, hlast⟩ := List.append_inj' hitems rfl
      cases hlast
      obtain ⟨given, left'', rfl, hgiven', hleft'⟩ := List.map_eq_append_iff.mp hgiven
      refine .inr ⟨?_, ?_⟩
      · rw [← hgiven']
        intro hmem
        obtain ⟨item, -, hitem⟩ := List.mem_map.mp hmem
        cases hitem
      · rw [hv, List.concat_eq_append, ← hleft']
        obtain ⟨rows, after, -, hcollect⟩ := collectItems_continues left''
        rw [collectItems_append hcollect]
        rfl
  · intro e s t p v e' s' t' p' v' he hs hr hh hv he' hs' hr' hv'
    obtain ⟨left, hitems, hv⟩ := returned_left he hs hr hv
    rw [hh, List.nil_append] at hitems
    have hb := hr'.history (fun _ _ _ _ _ hi h => plays_buffering hi h) (start_buffering he' hs')
    refine ⟨script.sets client.inner.dead, ?_, hb.returned v' hv', ?_⟩
    · rw [hv, ← hitems, Script.collectItems_items]
    · unfold QueryStream.intoFirstResult
      congr 1
      funext sets
      cases sets <;> rfl

end TiberiusBridge
