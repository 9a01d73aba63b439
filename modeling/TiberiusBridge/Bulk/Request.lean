import TiberiusBridge.Bulk.ArrowNull
import TiberiusBridge.Client.Cancellation

/-!
# The incremental bulk request

Rows are retained until `finalize`, which sends them in one bulk copy. The first
row sets the width of the request; a row of another width is refused.
-/
namespace TiberiusBridge

open Lib (Run Trace ofStep)

section

variable [MssqlTds]

structure BulkInsert where
  tableName : String
  options : BulkCopyOptions
  timeout : Option Nat
  columnMappings : List ColumnMapping

/-- The copy that `BulkInsert::send` asks of the driver. -/
def BulkInsert.copy (b : BulkInsert) (rows : List BulkRow) : BulkCopy where
  tableName := b.tableName
  options := b.options
  timeout := b.timeout
  columnMappings := b.columnMappings
  rows

structure TokenRow where
  data : List ColumnData

namespace TokenRow

def len (row : TokenRow) : Nat := row.data.length

/-- The values up to the first that has no native form. -/
def writeValues [ErrorTexts] : List ColumnData → BulkRow
  | [] => { cells := [], failure := none }
  | value :: rest =>
    match value.intoColumnValue with
    | .error e => { cells := [], failure := some (.usageError e.toText) }
    | .ok value => { writeValues rest with cells := value :: (writeValues rest).cells }

def writeToPacket [ErrorTexts] (row : TokenRow) : BulkRow := writeValues row.data

end TokenRow

structure BulkLoadRequest where
  bulk : BulkInsert
  rows : List TokenRow
  rowWidth : Option Nat

/-- The result, and what `expected` holds afterwards. -/
def validateRowWidth (expected : Option Nat) (actual : Nat) : Result Unit × Option Nat :=
  match expected with
  | some width =>
    if actual ≠ width then
      (.error (.bulkInput s!"Expecting {width} columns but {actual} were given"), expected)
    else (.ok (), expected)
  | none => (.ok (), some actual)

namespace BulkLoadRequest

def send (r : BulkLoadRequest) (row : TokenRow) : Result Unit × BulkLoadRequest :=
  match validateRowWidth r.rowWidth row.len with
  | (.error e, rowWidth) => (.error e, { r with rowWidth })
  | (.ok (), rowWidth) => (.ok (), { r with rowWidth, rows := r.rows ++ [row] })

/-- The future of `finalize` before its first poll. -/
def finalize [ErrorTexts] (r : BulkLoadRequest) : Entry :=
  .bulkSend (r.bulk.copy (r.rows.map TokenRow.writeToPacket))

end BulkLoadRequest

def isBulkInputMessage (message : String) : Bool :=
  ["Row ", "Column index ", "Binary data length ", "String length ", "SQL_VARIANT data size ",
    "SQL_VARIANT total size ", "Cannot serialize NULL ", "Unsupported TDS type ",
    "Invalid UTF-16 data: ", "Conversion error: "].any (message.startsWith ·)

def mapCompatBulkError : Error → Error
  | .tds (.usageError message) =>
    if isBulkInputMessage message then .bulkInput message else .tds (.usageError message)
  | e => e

/-- What `finalize` makes of the result of the send. -/
def finalizeResult : Result Value → Result Value
  | .ok (.bulkCopy n) => .ok (.counts [n])
  | .ok v => .ok v
  | .error e => .error (mapCompatBulkError e)

inductive BulkTask
  /-- The builder, before it is awaited. -/
  | insert (bulk : BulkInsert)
  | request (r : BulkLoadRequest)
  | finalizing (task : Task)
  /-- Refused or dropped. -/
  | finished

/-- A client and the bulk insert it is lent to. -/
structure BulkSession where
  client : Client
  task : BulkTask

inductive BulkEvent
  | intoFuture
  | send (row : TokenRow)
  | finalize
  | poll (alloc : Token)
  | reply (r : Reply)
  | drop

inductive BulkObs
  | opened (r : Result Unit)
  | sent (r : Result Unit)
  | future (o : Obs)

namespace BulkSession

def finalizeObs : Obs → BulkObs
  | .returned r => .future (.returned (finalizeResult r))
  | o => .future o

/-- A step of the future of `finalize`. -/
def future (client : Client) (task : Task) (ev : Event) :
    Option (BulkSession × List BulkObs) :=
  (Session.step ⟨client, task⟩ ev).map fun (s, os) =>
    (⟨s.client, .finalizing s.task⟩, os.map finalizeObs)

def step [ErrorTexts] (s : BulkSession) : BulkEvent → Option (BulkSession × List BulkObs)
  | .intoFuture =>
    match s.task with
    | .insert bulk =>
      match ensureUsable s.client.inner with
      | .error e => some (⟨s.client, .finished⟩, [.opened (.error e)])
      | .ok () =>
        some (⟨s.client, .request { bulk, rows := [], rowWidth := none }⟩, [.opened (.ok ())])
    | _ => none
  | .send row =>
    match s.task with
    | .request r => some (⟨s.client, .request (r.send row).2⟩, [.sent (r.send row).1])
    | _ => none
  | .finalize =>
    match s.task with
    | .request r => some (⟨s.client, .finalizing (.unpolled r.finalize)⟩, [])
    | _ => none
  | .poll alloc =>
    match s.task with
    | .finalizing task => future s.client task (.poll alloc)
    | _ => none
  | .reply r =>
    match s.task with
    | .finalizing task => future s.client task (.reply r)
    | _ => none
  | .drop =>
    match s.task with
    | .finalizing task => future s.client task .drop
    | .finished => none
    | _ => some (⟨s.client, .finished⟩, [])

end BulkSession

/-- A first row, or one of the width so far, is kept. Another changes nothing. -/
theorem BulkLoadRequest.send_cases (r : BulkLoadRequest) (row : TokenRow) :
    (r.rowWidth = none ∨ r.rowWidth = some row.len) ∧
        r.send row = (.ok (), { r with rowWidth := some row.len, rows := r.rows ++ [row] }) ∨
      ∃ width, r.rowWidth = some width ∧ row.len ≠ width ∧
        r.send row =
          (.error (.bulkInput s!"Expecting {width} columns but {row.len} were given"), r) := by
  unfold send validateRowWidth
  cases hwidth : r.rowWidth with
  | none => exact .inl ⟨.inl rfl, rfl⟩
  | some width =>
    by_cases hne : row.len = width
    · subst hne
      simp only [ne_eq, not_true_eq_false, if_false]
      exact .inl ⟨.inr trivial, trivial⟩
    · right
      refine ⟨width, rfl, hne, ?_⟩
      simp only [ne_eq, hne, not_false_eq_true, if_true]
      rw [← hwidth]

abbrev BulkTrace := Trace BulkEvent BulkObs

namespace BulkTrace

def acceptedRow : BulkEvent × List BulkObs → Option TokenRow
  | (.send row, [.sent (.ok ())]) => some row
  | _ => none

/-- The rows whose `send` returned `Ok`, in order. -/
def accepted (t : BulkTrace) : List TokenRow := t.filterMap acceptedRow

def issued : BulkObs → Option Call
  | .future (.issued c) => some c
  | _ => none

/-- The driver calls of a run. -/
def calls (t : BulkTrace) : List Call := t.observed.filterMap issued

def isPoll : BulkEvent → Bool
  | .poll _ => true
  | _ => false

/-- The future of `finalize` was polled. -/
def polled (t : BulkTrace) : Bool := t.any (isPoll ·.1)

/-- The width that the accepted rows set. -/
def width (t : BulkTrace) : Option Nat := (accepted t).head?.map TokenRow.len

variable (t : BulkTrace) (l : BulkEvent × List BulkObs)

theorem accepted_snoc : accepted (t ++ [l]) = accepted t ++ (acceptedRow l).toList := by
  unfold accepted
  rw [List.filterMap_append]
  cases h : acceptedRow l <;> simp [h]

theorem calls_snoc : calls (t ++ [l]) = calls t ++ l.2.filterMap issued := by
  unfold calls
  rw [Trace.observed_append, List.filterMap_append, Trace.observed_cons, Trace.observed_nil,
    List.append_nil]

theorem polled_snoc : polled (t ++ [l]) = (polled t || isPoll l.1) := by
  simp [polled]

end BulkTrace

open BulkTrace

/-- Nothing was asked of the driver. -/
structure Quiet (t : BulkTrace) : Prop where
  calls : calls t = []
  polled : polled t = false

/-- The copy that the accepted rows make. -/
def acceptedCopy [ErrorTexts] (bulk : BulkInsert) (t : BulkTrace) : BulkCopy :=
  bulk.copy ((accepted t).map TokenRow.writeToPacket)

/-- Where a run from the builder stands, and what it has done so far. -/
inductive BulkPhase [ErrorTexts] (client : Client) (bulk : BulkInsert) (t : BulkTrace) :
    BulkSession → Prop
  | insert (hq : Quiet t) (hnone : accepted t = []) : BulkPhase client bulk t ⟨client, .insert bulk⟩
  | request (hq : Quiet t) (hlive : client.inner.dead = false) :
      BulkPhase client bulk t ⟨client, .request ⟨bulk, accepted t, width t⟩⟩
  | unpolled (hq : Quiet t) (hlive : client.inner.dead = false) :
      BulkPhase client bulk t
        ⟨client, .finalizing (.unpolled (.bulkSend (acceptedCopy bulk t)))⟩
  | abandoned (task : BulkTask) (htask : task = .finished ∨ task = .finalizing .idle)
      (hq : Quiet t) : BulkPhase client bulk t ⟨client, task⟩
  | sent (lent : Client) (task : Task)
      (htask : task = .idle ∨
        ∃ guard parked, task = .operation guard (.bulk (acceptedCopy bulk t)) parked)
      (hcalls : calls t = [.writeToServerZerocopy (acceptedCopy bulk t)])
      (hpolled : polled t = true) : BulkPhase client bulk t ⟨lent, .finalizing task⟩

section

variable {client : Client} {bulk : BulkInsert} {t : BulkTrace} {s s' : BulkSession}
  {ev : BulkEvent} {os : List BulkObs}

theorem Quiet.snoc (h : Quiet t) (hcalls : os.filterMap issued = []) (hpoll : isPoll ev = false) :
    Quiet (t ++ [(ev, os)]) where
  calls := by rw [calls_snoc, h.calls, hcalls]; rfl
  polled := by rw [polled_snoc, h.polled, hpoll]; rfl

theorem accepted_other (h : acceptedRow (ev, os) = none) :
    accepted (t ++ [(ev, os)]) = accepted t := by
  rw [accepted_snoc, h, Option.toList_none, List.append_nil]

theorem width_accepted {row : TokenRow} (h : width t = none ∨ width t = some row.len) :
    width (t ++ [(.send row, [.sent (.ok ())])]) = some row.len := by
  unfold width at h ⊢
  rw [accepted_snoc]
  cases haccepted : accepted t with
  | nil => rfl
  | cons first rest =>
    rw [haccepted] at h
    exact h.resolve_left (fun hnone => nomatch hnone)

/-- The future of `finalize` while it waits for the driver: it issues no other call. -/
theorem step_bulk {guard : Operation} {copy : BulkCopy} {parked : Bool} {ev : Event} {r : Stepped}
    (h : Session.step ⟨client, .operation guard (.bulk copy) parked⟩ ev = some r) :
    (r.1.task = .idle ∨ ∃ guard parked, r.1.task = .operation guard (.bulk copy) parked) ∧
      (r.2.map BulkSession.finalizeObs).filterMap issued = [] := by
  cases ev with
  | start | columns | intoRowStream | intoResults => cases h
  | poll alloc =>
    cases parked <;> cases h
    exact ⟨.inr ⟨_, _, rfl⟩, rfl⟩
  | drop =>
    cases parked <;> cases h
    exact ⟨.inl rfl, rfl⟩
  | reply rp =>
    cases parked with
    | true => cases h
    | false =>
      simp only [Session.step, Session.reply] at h
      cases hout : rp.outcome with
      | pending =>
        rw [hout] at h
        cases h
        exact ⟨.inr ⟨_, _, rfl⟩, rfl⟩
      | ready out =>
        rw [hout] at h
        cases out with
        | error e =>
          cases h
          exact ⟨.inl rfl, rfl⟩
        | ok answer =>
          cases answer <;> cases h
          exact ⟨.inl rfl, rfl⟩

variable [ErrorTexts]

theorem acceptedCopy_other (h : acceptedRow (ev, os) = none) :
    acceptedCopy bulk (t ++ [(ev, os)]) = acceptedCopy bulk t := by
  rw [acceptedCopy, accepted_other h]
  rfl

theorem step_insert (hq : Quiet t) (hnone : accepted t = [])
    (h : BulkSession.step ⟨client, .insert bulk⟩ ev = some (s', os)) :
    BulkPhase client bulk (t ++ [(ev, os)]) s' := by
  cases ev with
  | send | finalize | poll | reply => cases h
  | drop =>
    cases h
    exact .abandoned _ (.inl rfl) (hq.snoc rfl rfl)
  | intoFuture =>
    cases hdead : client.inner.dead with
    | true =>
      simp only [BulkSession.step, ensureUsable_dead hdead] at h
      cases h
      exact .abandoned _ (.inl rfl) (hq.snoc rfl rfl)
    | false =>
      simp only [BulkSession.step, ensureUsable_usable hdead] at h
      cases h
      have hq' : Quiet (t ++ [(.intoFuture, [.opened (.ok ())])]) := hq.snoc rfl rfl
      have hopen : BulkPhase client bulk _ _ := .request hq' hdead
      rwa [width, accepted_other rfl, hnone] at hopen

theorem step_send (client : Client) (r : BulkLoadRequest) (row : TokenRow) :
    BulkSession.step ⟨client, .request r⟩ (.send row) =
      some (⟨client, .request (r.send row).2⟩, [.sent (r.send row).1]) := rfl

theorem step_request (hq : Quiet t) (hlive : client.inner.dead = false)
    (h : BulkSession.step ⟨client, .request ⟨bulk, accepted t, width t⟩⟩ ev = some (s', os)) :
    BulkPhase client bulk (t ++ [(ev, os)]) s' := by
  cases ev with
  | intoFuture | poll | reply => cases h
  | drop =>
    cases h
    exact .abandoned _ (.inl rfl) (hq.snoc rfl rfl)
  | finalize =>
    cases h
    have hq' : Quiet (t ++ [(.finalize, [])]) := hq.snoc rfl rfl
    have hfuture : BulkPhase client bulk _ _ := .unpolled hq' hlive
    rwa [acceptedCopy_other rfl] at hfuture
  | send row =>
    rw [step_send] at h
    rcases BulkLoadRequest.send_cases ⟨bulk, accepted t, width t⟩ row with
      ⟨hwidth, hsend⟩ | ⟨w, -, -, hsend⟩ <;> rw [hsend] at h <;> cases h
    · have hq' : Quiet (t ++ [(.send row, [.sent (.ok ())])]) := hq.snoc rfl rfl
      have hkept : BulkPhase client bulk _ _ := .request hq' hlive
      rwa [width_accepted hwidth, accepted_snoc] at hkept
    · have hq' : Quiet (t ++ [(.send row,
          [.sent (.error (.bulkInput s!"Expecting {w} columns but {row.len} were given"))])]) :=
        hq.snoc rfl rfl
      have hkept : BulkPhase client bulk _ _ := .request hq' hlive
      rwa [width, accepted_other rfl] at hkept

/-- The first poll of `finalize` issues the copy. -/
theorem step_unpolled (hq : Quiet t) (hlive : client.inner.dead = false)
    (h : BulkSession.step ⟨client, .finalizing (.unpolled (.bulkSend (acceptedCopy bulk t)))⟩ ev =
      some (s', os)) : BulkPhase client bulk (t ++ [(ev, os)]) s' := by
  cases ev with
  | intoFuture | send | finalize | reply => cases h
  | drop =>
    cases h
    exact .abandoned _ (.inr rfl) (hq.snoc rfl rfl)
  | poll alloc =>
    have hpoll : Session.step ⟨client, .unpolled (.bulkSend (acceptedCopy bulk t))⟩ (.poll alloc) =
        some (⟨client, .operation { armed := true } (.bulk (acceptedCopy bulk t)) false⟩,
          [.issued (.writeToServerZerocopy (acceptedCopy bulk t))]) := by
      show some (client.beginOperation _) = _
      rw [Client.beginOperation, Operation.new_usable hlive]
      rfl
    simp only [BulkSession.step, BulkSession.future, hpoll] at h
    cases h
    refine .sent _ _ (.inr ⟨_, _, by rw [acceptedCopy_other rfl]⟩) ?_ ?_
    · rw [calls_snoc, hq.calls, acceptedCopy_other rfl]
      rfl
    · rw [polled_snoc]
      exact Bool.or_true _

/-- Only the future of `finalize` steps once it exists. -/
theorem step_finalizing {lent : Client} {task : Task}
    (h : BulkSession.step ⟨lent, .finalizing task⟩ ev = some (s', os)) :
    ∃ e r, Session.step ⟨lent, task⟩ e = some r ∧ e.starts = false ∧
      s' = ⟨r.1.client, .finalizing r.1.task⟩ ∧ os = r.2.map BulkSession.finalizeObs ∧
      acceptedRow (ev, os) = none := by
  have hfuture : ∃ e, BulkSession.future lent task e = some (s', os) ∧ e.starts = false ∧
      acceptedRow (ev, os) = none := by
    cases ev with
    | intoFuture | send | finalize => cases h
    | poll alloc => exact ⟨_, h, rfl, rfl⟩
    | reply r => exact ⟨_, h, rfl, rfl⟩
    | drop => exact ⟨_, h, rfl, rfl⟩
  obtain ⟨e, he, hstarts, hother⟩ := hfuture
  obtain ⟨r, hr, heq⟩ := Option.map_eq_some_iff.mp he
  cases heq
  exact ⟨e, r, hr, hstarts, rfl, rfl, hother⟩

theorem step_sent {lent : Client} {task : Task}
    (htask : task = .idle ∨
      ∃ guard parked, task = .operation guard (.bulk (acceptedCopy bulk t)) parked)
    (hcalls : calls t = [.writeToServerZerocopy (acceptedCopy bulk t)])
    (hpolled : polled t = true)
    (h : BulkSession.step ⟨lent, .finalizing task⟩ ev = some (s', os)) :
    BulkPhase client bulk (t ++ [(ev, os)]) s' := by
  obtain ⟨e, r, hr, hstarts, rfl, rfl, hother⟩ := step_finalizing h
  rcases htask with rfl | ⟨guard, parked, rfl⟩
  · rw [Session.step_idle lent hstarts] at hr
    cases hr
  · obtain ⟨htask, hquiet⟩ := step_bulk hr
    refine .sent _ _ ?_ ?_ ?_
    · rwa [acceptedCopy_other hother]
    · rw [calls_snoc, hcalls, hquiet, acceptedCopy_other hother]
      rfl
    · rw [polled_snoc, hpolled]
      rfl

theorem BulkPhase.step (hp : BulkPhase client bulk t s) (h : s.step ev = some (s', os)) :
    BulkPhase client bulk (t ++ [(ev, os)]) s' := by
  cases hp with
  | insert hq hnone => exact step_insert hq hnone h
  | request hq hlive => exact step_request hq hlive h
  | unpolled hq hlive => exact step_unpolled hq hlive h
  | abandoned task htask hq =>
    rcases htask with rfl | rfl <;> cases ev <;> cases h
  | sent lent task htask hcalls hpolled => exact step_sent htask hcalls hpolled h

/-- A row is accepted where no row was before it, or one of its width. -/
theorem BulkPhase.accepts (hp : BulkPhase client bulk t s) (h : s.step ev = some (s', os))
    {row : TokenRow} (hrow : acceptedRow (ev, os) = some row) :
    ev = .send row ∧ os = [.sent (.ok ())] ∧ (width t = none ∨ width t = some row.len) := by
  cases ev with
  | intoFuture | finalize | poll | reply | drop => cases hrow
  | send row' =>
    cases hp with
    | insert | unpolled | sent => cases h
    | abandoned task htask => rcases htask with rfl | rfl <;> cases h
    | request hq hlive =>
      rw [step_send] at h
      rcases BulkLoadRequest.send_cases ⟨bulk, accepted t, width t⟩ row' with
        ⟨hwidth, hsend⟩ | ⟨w, -, -, hsend⟩ <;> rw [hsend] at h <;> cases h <;> cases hrow
      exact ⟨rfl, rfl, hwidth⟩

theorem accepted_width_step (hp : BulkPhase client bulk t s) (h : s.step ev = some (s', os))
    (ht : ∀ row ∈ accepted t, width t = some row.len) :
    ∀ row ∈ accepted (t ++ [(ev, os)]), width (t ++ [(ev, os)]) = some row.len := by
  cases hrow : acceptedRow (ev, os) with
  | none =>
    unfold width
    rw [accepted_other hrow]
    exact ht
  | some row =>
    obtain ⟨rfl, rfl, hwidth⟩ := hp.accepts h hrow
    rw [width_accepted hwidth, accepted_snoc]
    intro row' hmem
    rcases List.mem_append.mp hmem with hmem | hmem
    · have hrow' := ht row' hmem
      rcases hwidth with hnone | hsome
      · cases hnone.symm.trans hrow'
      · exact hsome.symm.trans hrow'
    · cases List.mem_singleton.mp hmem
      rfl

/-- A refused row leaves the request as it was. -/
theorem step_refused {row : TokenRow} {e : Error}
    (h : BulkSession.step s (.send row) = some (s', [.sent (.error e)])) :
    s' = s ∧ ∃ message, e = .bulkInput message := by
  obtain ⟨client, task⟩ := s
  cases task with
  | insert | finalizing | finished => cases h
  | request r =>
    rw [step_send] at h
    rcases r.send_cases row with ⟨-, hsend⟩ | ⟨w, -, -, hsend⟩ <;> rw [hsend] at h <;> cases h
    exact ⟨rfl, _, rfl⟩

end

/-- A run of the bulk API from the builder. -/
structure BulkRun [ErrorTexts] (client : Client) (bulk : BulkInsert) where
  trace : BulkTrace
  final : BulkSession
  run : Run (ofStep BulkSession.step) ⟨client, .insert bulk⟩ trace final

/-- The request keeps the accepted rows, and sends them once. -/
structure KeepsAccepted [ErrorTexts] {client : Client} {bulk : BulkInsert}
    (r : BulkRun client bulk) : Prop where
  retained : ∀ request, r.final.task = .request request →
    request = ⟨bulk, accepted r.trace, width r.trace⟩
  /-- All of them have the width of the first. -/
  same_width : ∀ row ∈ accepted r.trace, width r.trace = some row.len
  /-- The run goes on from a refused row as if it had not been sent. -/
  refused : ∀ p row e q, r.trace = p ++ (.send row, [.sent (.error e)]) :: q →
    (∃ message, e = .bulkInput message) ∧
      ∃ m, Run (ofStep BulkSession.step) ⟨client, .insert bulk⟩ p m ∧
        m.step (.send row) = some (m, [.sent (.error e)]) ∧
        Run (ofStep BulkSession.step) m q r.final
  sent_once : calls r.trace =
    if polled r.trace then [.writeToServerZerocopy (acceptedCopy bulk r.trace)] else []
  /-- Up to the first poll of `finalize` nothing reaches the connection. -/
  unpolled : polled r.trace = false → r.final.client = client
  dropped : r.final.task = .finished → polled r.trace = false

theorem bulk_request [ErrorTexts] (client : Client) (bulk : BulkInsert)
    (r : BulkRun client bulk) : KeepsAccepted r := by
  obtain ⟨trace, final, run⟩ := r
  obtain ⟨hphase, hwidth⟩ : BulkPhase client bulk trace final ∧
      ∀ row ∈ accepted trace, width trace = some row.len :=
    run.history
      (I := fun t s => BulkPhase client bulk t s ∧ ∀ row ∈ accepted t, width t = some row.len)
      (fun t s ev os s' hI hs => ⟨hI.1.step hs, accepted_width_step hI.1 hs hI.2⟩)
      ⟨.insert ⟨rfl, rfl⟩ rfl, fun row hrow => absurd hrow List.not_mem_nil⟩
  refine { same_width := hwidth, retained := ?_, refused := ?_, sent_once := ?_, unpolled := ?_,
           dropped := ?_ }
  · intro request hrequest
    cases hphase with
    | request => cases hrequest; rfl
    | insert | unpolled | sent => cases hrequest
    | abandoned _ htask => rcases htask with rfl | rfl <;> cases hrequest
  · rintro p row e q rfl
    obtain ⟨m, hp, hq⟩ := run.split
    cases hq with
    | cons hstep hq =>
      obtain ⟨rfl, hmessage⟩ := step_refused hstep
      exact ⟨hmessage, _, hp, hstep, hq⟩
  · cases hphase with
    | insert hq | request hq | unpolled hq | abandoned _ _ hq => rw [hq.calls, hq.polled]; rfl
    | sent _ _ _ hcalls hpolled => rw [hcalls, hpolled]; rfl
  · intro hquiet
    cases hphase with
    | insert | request | unpolled | abandoned => rfl
    | sent _ _ _ _ hpolled => rw [hpolled] at hquiet; cases hquiet
  · intro hfinished
    cases hphase with
    | abandoned _ _ hq => exact hq.polled
    | insert | request | unpolled | sent => cases hfinished

end

/-- A driver whose errors have no text. -/
scoped instance Reference.errorTexts : ErrorTexts where
  tds _ := ""
  conversion _ := ""

section

open Reference BulkTrace

def peopleInsert : BulkInsert where
  tableName := "people"
  options := {}
  timeout := none
  columnMappings := []

def oneColumn : TokenRow := ⟨[.i32 (some 1)]⟩

def twoColumns : TokenRow := ⟨[.i32 (some 1), .bit none]⟩

def copied : BulkCopy := peopleInsert.copy [oneColumn.writeToPacket]

/-- A row is accepted and a wider one refused, and the request is finalized. -/
def refusedBetween : BulkTrace :=
  [(.intoFuture, [.opened (.ok ())]), (.send oneColumn, [.sent (.ok ())]),
    (.send twoColumns,
      [.sent (.error (.bulkInput s!"Expecting {1} columns but {2} were given"))]),
    (.finalize, []), (.poll 1, [.future (.issued (.writeToServerZerocopy copied))]),
    (.reply { outcome := .ready (.ok (.bulkCopy 1)) },
      [.future (.returned (.ok (.counts [1])))])]

/-- The accepted row alone is sent, once. -/
theorem bulk_request_refused : ∃ r : BulkRun client peopleInsert, r.trace = refusedBetween ∧
    KeepsAccepted r ∧ calls r.trace = [.writeToServerZerocopy copied] := by
  have hrun : ∃ final, Run (ofStep BulkSession.step) ⟨client, .insert peopleInsert⟩
      refusedBetween final :=
    ⟨_, .cons rfl (.cons rfl (.cons rfl (.cons rfl (.cons rfl (.cons rfl (.nil _))))))⟩
  obtain ⟨final, hrun⟩ := hrun
  have hkept := bulk_request client peopleInsert ⟨refusedBetween, final, hrun⟩
  exact ⟨⟨refusedBetween, final, hrun⟩, rfl, hkept, hkept.sent_once⟩

end

end TiberiusBridge
