import TiberiusBridge.Client.Cancellation
import TiberiusBridge.PreparedBinding
import TiberiusBridge.Convert.Native

/-!
# Panicking parameters

The conversion of a parameter may panic. Unwinding drops what the entry point
holds by then: an armed guard marks the connection dead.
-/
namespace TiberiusBridge

open Lib (Run Trace ofStep errorOf)

section

variable [MssqlTds]

/-- Sending the command, once the outstanding query is drained, converts its parameters. -/
def Command.panics (client : Client) : Command → Bool
  | .execute _ params =>
    !params.isEmpty &&
      (errorOf (buildParamsWithStringEncoding params client.sendStringParametersAsUnicode)).isSome
  | .prepare _ params =>
    (errorOf (parameterDeclaration params client.sendStringParametersAsUnicode)).isSome
  | _ => false

namespace Client

/-- Binding the parameters of an entry point unwinds where there is no guard yet. -/
def bindUnwinds (client : Client) (params : List Param) : Option Client :=
  match rpcParams params client.sendStringParametersAsUnicode with
  | .error _ => some client
  | .ok _ => none

/-- Calling the entry point unwinds. -/
def startUnwinds (client : Client) : Entry → Option Client
  | .queryCompat _ params | .queryStreamed _ params => client.bindUnwinds params
  | _ => none

/-- Its first poll unwinds. -/
def pollUnwinds (client : Client) : Entry → Option Client
  | .query _ params => client.bindUnwinds params
  | .queryPrepared stmt params | .executePrepared stmt params =>
    match client.checkPrepared stmt with
    | .ok () => client.bindUnwinds params
    | .error _ => none
  | _ => none

end Client

/-- The client after an event at which a conversion panics. -/
def Session.unwind (s : Session) : Event → Option Client
  | .start e =>
    match s.task with
    | .idle => s.client.startUnwinds e
    | _ => none
  | .poll _ =>
    match s.task with
    | .unpolled e => s.client.pollUnwinds e
    | _ => none
  | .reply r =>
    match s.task, r.outcome with
    | .operation guard (.drain command) false, .ready (.ok .unit) =>
      let client := s.client.withInner (s.client.inner.after r)
      if command.panics client then some (client.withInner (guard.drop client.inner)) else none
    | _, _ => none
  | _ => none

namespace Client

variable {client : Client} {params : List Param}

theorem bindUnwinds_iff : client.bindUnwinds params = some client ↔
    ∃ p, rpcParams params client.sendStringParametersAsUnicode = .error p := by
  rw [bindUnwinds]
  cases rpcParams params client.sendStringParametersAsUnicode <;> simp

theorem bindUnwinds_some {c : Client} (h : client.bindUnwinds params = some c) : c = client := by
  unfold bindUnwinds at h
  split at h <;> cases h
  rfl

theorem start_eq_none_iff {e : Entry} :
    client.start e = none ↔ client.startUnwinds e = some client := by
  cases e with
  | queryCompat sql params | queryStreamed sql params =>
    rw [start, start.openStream, startUnwinds, bindUnwinds]
    cases rpcParams params client.sendStringParametersAsUnicode <;> simp
  | _ => simp [start, startUnwinds]

theorem beginPrepared_eq_none_iff {stmt : PreparedStatement}
    {command : Option (List RpcParameter) → Command} :
    client.beginPrepared stmt params command = none ↔
      client.checkPrepared stmt = .ok () ∧ client.bindUnwinds params = some client := by
  rw [beginPrepared, bindUnwinds]
  cases client.checkPrepared stmt with
  | error e => simp
  | ok u => cases rpcParams params client.sendStringParametersAsUnicode <;> simp

/-- A future's first poll panics where it unwinds. -/
theorem firstPoll_eq_none_iff {alloc : Token} {e : Entry}
    (h : client.start e = some ⟨client, .unpolled e⟩) :
    client.firstPoll alloc e = none ↔ client.pollUnwinds e = some client := by
  cases e with
  | queryCompat sql params | queryStreamed sql params =>
    rw [start, start.openStream] at h
    split at h <;> cases h
  | query sql params =>
    rw [firstPoll, pollUnwinds, bindUnwinds, rpcParams]
    cases params.isEmpty with
    | true => simp
    | false =>
      cases buildParamsWithStringEncoding params client.sendStringParametersAsUnicode with
      | error p => exact iff_of_true rfl rfl
      | ok rpc => simp
  | queryPrepared stmt params | executePrepared stmt params =>
    rw [firstPoll, beginPrepared_eq_none_iff, pollUnwinds]
    cases client.checkPrepared stmt <;> simp
  | unprepare stmt =>
    have hquiet : client.bindUnwinds [] = none := rfl
    rw [firstPoll, beginPrepared_eq_none_iff, hquiet]
    exact iff_of_false (fun h => Option.some_ne_none _ h.2.symm) (Option.some_ne_none _).symm
  | _ => exact iff_of_false (Option.some_ne_none _) (Option.some_ne_none _).symm

theorem startUnwinds_some {e : Entry} {c : Client} (h : client.startUnwinds e = some c) :
    c = client := by
  unfold startUnwinds at h
  split at h
  · exact bindUnwinds_some h
  · exact bindUnwinds_some h
  · cases h

theorem pollUnwinds_some {e : Entry} {c : Client} (h : client.pollUnwinds e = some c) :
    c = client ∧ client.start e = some ⟨client, .unpolled e⟩ := by
  unfold pollUnwinds at h
  split at h
  · exact ⟨bindUnwinds_some h, rfl⟩
  · split at h
    · exact ⟨bindUnwinds_some h, rfl⟩
    · cases h
  · split at h
    · exact ⟨bindUnwinds_some h, rfl⟩
    · cases h
  · cases h

end Client

namespace Session

theorem unwind_poll (client : Client) (e : Entry) (alloc : Token) :
    unwind ⟨client, .unpolled e⟩ (.poll alloc) = client.pollUnwinds e := rfl

end Session

/-- A call of which some parameter's conversion panics. -/
structure BadCall where
  entry : Entry
  panics : ∃ p ∈ entry.params, ∃ panic, p = .error panic

theorem rpcParams_panics {params : List Param} (h : ∃ p ∈ params, ∃ panic, p = .error panic)
    (unicode : Bool) : ∃ p, rpcParams params unicode = .error p := by
  obtain ⟨p, hp, panic, rfl⟩ := h
  rw [rpcParams, if_neg (by rw [List.isEmpty_iff]; exact List.ne_nil_of_mem hp)]
  cases hbuild : buildParamsWithStringEncoding params unicode with
  | error panic => exact ⟨panic, rfl⟩
  | ok rpc =>
    obtain ⟨vs, rfl, -⟩ := buildParamsFrom_ok_iff.mp hbuild
    obtain ⟨v, -, hv⟩ := List.mem_map.mp hp
    cases hv

def issuedCall : Obs → Option Call
  | .issued c => some c
  | _ => none

/-- The driver calls of a run. -/
def issuedCalls (t : Trace Event Obs) : List Call := t.observed.filterMap issuedCall

/-- The call unwinds before it is suspended anywhere: when it is made, or at its first poll. -/
inductive UnwindsAtOnce (client : Client) (e : Entry) (after : Client) : Prop
  | called (h : (Session.connected client).unwind (.start e) = some after)
  | polled {s : Session} (hs : (Session.connected client).step (.start e) = some (s, []))
      (h : ∀ alloc, s.unwind (.poll alloc) = some after)

/-- The call unwinds, with no driver call and the dead flag as it was. -/
def UnwindsClean (client : Client) (e : Entry) : Prop :=
  ∃ after, UnwindsAtOnce client e after ∧ after.inner.dead = client.inner.dead

/-- Whatever becomes of the call, it issues no driver call, and where it unwinds the dead flag is
as it was. -/
structure Harmless (client : Client) (e : Entry) : Prop where
  called : ∀ after, (Session.connected client).unwind (.start e) = some after →
    after.inner.dead = client.inner.dead
  later : ∀ os t s, Session.Runs (Session.connected client) ((.start e, os) :: t) s →
    (∀ l ∈ t, l.1.starts = false) → issuedCalls t = [] ∧
      ∀ ev after, ev.starts = false → s.unwind ev = some after →
        after.inner.dead = client.inner.dead

/-- The parameters are bound before the guard is armed, and no check comes in between. -/
def BindsFirst (client : Client) : Entry → Prop
  | .query .. | .queryCompat .. | .queryStreamed .. => True
  | .queryPrepared stmt _ | .executePrepared stmt _ => client.checkPrepared stmt = .ok ()
  | _ => False

/-- The parameters are bound under the guard, after the drain. -/
def Entry.BindsUnderGuard : Entry → Prop
  | .execute .. | .prepare .. => True
  | _ => False

section

variable {client : Client} {e : Entry}

theorem bad_bindUnwinds {params : List Param} (h : ∃ p ∈ params, ∃ panic, p = .error panic) :
    client.bindUnwinds params = some client :=
  Client.bindUnwinds_iff.mpr (rpcParams_panics h _)

theorem connected_start {s : Session} {os : List Obs}
    (h : (Session.connected client).step (.start e) = some (s, os)) :
    client.start e = some s ∧ os = [] := by
  obtain ⟨s', hs', heq⟩ := Option.map_eq_some_iff.mp h
  cases heq
  exact ⟨hs', rfl⟩

/-- A stream whose parameters panic is never built, so what is built is a future. -/
theorem bad_start (bad : BadCall) {s : Session} (h : client.start bad.entry = some s) :
    s = ⟨client, .unpolled bad.entry⟩ := by
  obtain ⟨e, hbad⟩ := bad
  have hnone : client.startUnwinds e ≠ some client := fun hunwinds => by
    cases (Client.start_eq_none_iff.mpr hunwinds).symm.trans h
  cases e with
  | queryCompat | queryStreamed => exact absurd (bad_bindUnwinds hbad) hnone
  | _ => cases h; rfl

theorem runs_idle {t : Trace Event Obs} {s : Session} (h : Session.Runs ⟨client, .idle⟩ t s)
    (hn : ∀ l ∈ t, l.1.starts = false) : t = [] ∧ s = ⟨client, .idle⟩ := by
  cases h with
  | nil => exact ⟨rfl, rfl⟩
  | cons hs _ =>
    have hnone := Session.step_idle client (hn _ List.mem_cons_self)
    cases hnone.symm.trans hs

/-- A future of which the first poll is the last and asks nothing of the driver. -/
theorem runs_unpolled {t : Trace Event Obs} {s : Session}
    (hquiet : ∀ alloc r, client.firstPoll alloc e = some r →
      r.1 = ⟨client, .idle⟩ ∧ r.2.filterMap issuedCall = [])
    (h : Session.Runs ⟨client, .unpolled e⟩ t s) (hn : ∀ l ∈ t, l.1.starts = false) :
    issuedCalls t = [] ∧ (s = ⟨client, .unpolled e⟩ ∨ s = ⟨client, .idle⟩) := by
  cases h with
  | nil => exact ⟨rfl, .inl rfl⟩
  | @cons _ m _ ev os t hs hrest =>
    have hn' : ∀ l ∈ t, l.1.starts = false := fun l hl => hn l (List.mem_cons_of_mem _ hl)
    obtain ⟨rfl, hos⟩ : m = ⟨client, .idle⟩ ∧ os.filterMap issuedCall = [] := by
      cases ev with
      | start => cases hn _ List.mem_cons_self
      | poll alloc => exact hquiet alloc _ hs
      | drop => cases hs; exact ⟨rfl, rfl⟩
      | columns | intoRowStream | intoResults | reply => cases hs
    obtain ⟨rfl, rfl⟩ := runs_idle hrest hn'
    refine ⟨?_, .inr rfl⟩
    rw [issuedCalls, Trace.observed_cons, Trace.observed_nil, List.append_nil]
    exact hos

theorem harmless_of_quiet (hstart : ∀ s, client.start e = some s → s = ⟨client, .unpolled e⟩)
    (hquiet : ∀ alloc r, client.firstPoll alloc e = some r →
      r.1 = ⟨client, .idle⟩ ∧ r.2.filterMap issuedCall = []) : Harmless client e where
  called after h := by rw [Client.startUnwinds_some h]; rfl
  later os t s h hn := by
    cases h with
    | cons hs hrest =>
      obtain ⟨hs', rfl⟩ := connected_start hs
      cases hstart _ hs'
      obtain ⟨hcalls, hstate⟩ := runs_unpolled hquiet hrest hn
      refine ⟨hcalls, fun ev after hev hafter => ?_⟩
      rcases hstate with rfl | rfl
      · cases ev with
        | start => cases hev
        | poll alloc => rw [(Client.pollUnwinds_some hafter).1]
        | columns | intoRowStream | intoResults | reply | drop => cases hafter
      · cases ev with
        | start => cases hev
        | poll | columns | intoRowStream | intoResults | reply | drop => cases hafter

end

theorem unwinds_clean_iff (client : Client) (bad : BadCall) :
    UnwindsClean client bad.entry ↔ BindsFirst client bad.entry := by
  constructor
  · rintro ⟨after, hunwinds, -⟩
    have hpoll : client.startUnwinds bad.entry = some after ∨
        client.pollUnwinds bad.entry = some after := by
      cases hunwinds with
      | called h => exact .inl h
      | polled hs h =>
        cases bad_start bad (connected_start hs).1
        exact .inr (h 0)
    clear hunwinds
    generalize bad.entry = e at hpoll ⊢
    cases e with
    | query | queryCompat | queryStreamed => trivial
    | queryPrepared stmt params | executePrepared stmt params =>
      rcases hpoll with h | h
      · cases h
      · rw [Client.pollUnwinds] at h
        cases hcheck : client.checkPrepared stmt with
        | ok u => exact hcheck
        | error e =>
          rw [hcheck] at h
          cases h
    | _ => rcases hpoll with h | h <;> cases h
  · intro h
    refine ⟨client, ?_, rfl⟩
    obtain ⟨e, hbad⟩ := bad
    cases e with
    | query sql params => exact .polled rfl fun _ => bad_bindUnwinds hbad
    | queryCompat sql params | queryStreamed sql params => exact .called (bad_bindUnwinds hbad)
    | queryPrepared stmt params | executePrepared stmt params =>
      have hcheck : client.checkPrepared stmt = .ok () := h
      refine .polled rfl fun alloc => (Session.unwind_poll client _ alloc).trans ?_
      rw [Client.pollUnwinds, hcheck]
      exact bad_bindUnwinds hbad
    | _ => exact h.elim

/-- On a live connection, what binds under the guard has drained by then. -/
theorem firstPoll_under_guard {client : Client} {e : Entry} (hlive : client.inner.dead = false)
    (he : e.BindsUnderGuard) (alloc : Token) :
    client.start e = some ⟨client, .unpolled e⟩ ∧
      ∃ s, client.firstPoll alloc e = some (s, [.issued .closeQuery]) := by
  have hbegin : ∀ command, client.beginOperation (.drain command) =
      (⟨client, .operation { armed := true } (.drain command) false⟩, [.issued .closeQuery]) := by
    intro command
    rw [Client.beginOperation, Operation.new_usable hlive]
    rfl
  cases e with
  | execute sql params => exact ⟨rfl, _, congrArg some (hbegin (.execute sql params))⟩
  | prepare sql params => exact ⟨rfl, _, congrArg some (hbegin (.prepare sql params))⟩
  | _ => exact he.elim

/-- The other entry points ask nothing of the driver before they bind. -/
theorem firstPoll_quiet {client : Client} (bad : BadCall)
    (h : client.inner.dead = true ∨ ¬bad.entry.BindsUnderGuard) {alloc : Token} {r : Stepped}
    (hr : client.firstPoll alloc bad.entry = some r) :
    r.1 = ⟨client, .idle⟩ ∧ r.2.filterMap issuedCall = [] := by
  by_cases hdead : client.inner.dead = true
  · obtain ⟨hidle, o, ho, hclosed⟩ := Client.firstPoll_dead hdead hr
    refine ⟨hidle, ?_⟩
    rw [ho]
    cases o <;> first | rfl | exact hclosed.elim
  · have hguard := h.resolve_left hdead
    obtain ⟨e, hbad⟩ := bad
    have hbind : ∀ {params : List Param}, (∃ p ∈ params, ∃ panic, p = .error panic) →
        client.pollUnwinds e ≠ client.bindUnwinds params := by
      intro params hparams hpoll
      rw [bad_bindUnwinds hparams] at hpoll
      have hstart := (Client.pollUnwinds_some hpoll).2
      cases ((Client.firstPoll_eq_none_iff hstart).mpr hpoll).symm.trans hr
    cases e with
    | query sql params => exact absurd rfl (hbind hbad)
    | execute | prepare => exact absurd trivial hguard
    | queryCompat | queryStreamed => cases hr
    | queryPrepared stmt params | executePrepared stmt params =>
      cases hcheck : client.checkPrepared stmt with
      | ok u =>
        refine absurd ?_ (hbind hbad)
        rw [Client.pollUnwinds, hcheck]
        rfl
      | error e =>
        rw [Client.firstPoll, Client.beginPrepared, hcheck] at hr
        cases hr
        exact ⟨rfl, rfl⟩
    | _ =>
      obtain ⟨p, hp, -⟩ := hbad
      cases hp

theorem harmless_iff (client : Client) (bad : BadCall) :
    Harmless client bad.entry ↔ client.inner.dead = true ∨ ¬bad.entry.BindsUnderGuard := by
  constructor
  · intro h
    by_cases hdead : client.inner.dead = true
    · exact .inl hdead
    · refine .inr fun hguard => ?_
      obtain ⟨hstart, s, hpoll⟩ := firstPoll_under_guard (Bool.eq_false_iff.mpr hdead) hguard 0
      have hrun : Session.Runs (Session.connected client)
          [(.start bad.entry, []), (.poll 0, [.issued .closeQuery])] s :=
        .cons (congrArg (Option.map (·, [])) hstart) (.single hpoll)
      obtain ⟨hcalls, -⟩ := h.later _ _ _ hrun (by simp [Event.starts])
      cases hcalls
  · intro h
    apply harmless_of_quiet (fun s hs => bad_start bad hs)
    exact fun alloc r hr => firstPoll_quiet bad h hr

/-- A panicking parameter unwinds cleanly exactly where it is bound before any guard, and is harmless
exactly where the guard is not armed around it. -/
theorem panicking_parameter (client : Client) (bad : BadCall) :
    (UnwindsClean client bad.entry ↔ BindsFirst client bad.entry) ∧
      (Harmless client bad.entry ↔ client.inner.dead = true ∨ ¬bad.entry.BindsUnderGuard) :=
  ⟨unwinds_clean_iff client bad, harmless_iff client bad⟩

end

section

open Reference

/-- `execute` with a date that cannot be encoded. -/
def badExecute : BadCall where
  entry := .execute "UPDATE t SET d = @P1" [.error (.expect dateOutOfRange)]
  panics := ⟨_, List.mem_cons_self, _, rfl⟩

/-- It drains the connection, then unwinds and leaves it dead. -/
theorem badExecute_kills : ¬UnwindsClean client badExecute.entry ∧
    ∃ t s after, Session.Runs (Session.connected client) t s ∧
      t.observed = [.issued .closeQuery] ∧
      s.unwind (.reply { outcome := .ready (.ok .unit) }) = some after ∧
      client.inner.dead = false ∧ after.inner.dead = true := by
  constructor
  · rintro ⟨after, hunwinds, -⟩
    cases hunwinds with
    | called h => cases h
    | polled hs h =>
      cases hs
      cases h 0
  · exact ⟨[(.start badExecute.entry, []), (.poll 0, [.issued .closeQuery])], _, _,
      .cons rfl (.single rfl), rfl, rfl, rfl, rfl⟩

end

end TiberiusBridge
