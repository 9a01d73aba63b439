import TiberiusBridge.Client.Cancellation

/-!
# Pool recycling

The pool calls `TdsManager::recycle` on a connection in whatever state its last
borrower left it. The milestones of one recycle are the driver's answers and
what the recycle showed, in order; polls that find the driver pending are no
milestone.
-/
namespace TiberiusBridge

open Lib (Run Trace ofStep)

section

variable [MssqlTds]

inductive Milestone
  | answered (r : Except TdsError Answer)
  | shown (o : Obs)

def milestone : Event × List Obs → List Milestone
  | (.reply ⟨.ready r, _, _, _, _⟩, os) => .answered r :: os.map .shown
  | (_, os) => os.map .shown

def milestones (t : Trace Event Obs) : List Milestone := t.flatMap milestone

/-- What `reset_session` has been through at each of its suspension points. -/
def ResetAwait.Reached : ResetAwait → List Milestone → Prop
  | drain, ms => ms = [.shown (.issued .closeQuery)]
  | batch, ms =>
    ms = [.shown (.issued .closeQuery), .answered (.ok .unit), .shown (.armReset false),
      .shown (.issued ResetAwait.batch.call)]
  | drainAgain, ms => ∃ r,
    ms = [.shown (.issued .closeQuery), .answered (.ok .unit), .shown (.armReset false),
      .shown (.issued ResetAwait.batch.call), .answered (.ok (.statement r)),
      .shown (.issued .closeQuery)]

/-- A recycle that went through every step of the reset: the outstanding query drained, the flag
armed, the isolation batch run and drained. -/
def FullReset (ms : List Milestone) : Prop := ∃ r,
  ms = [.shown (.issued .closeQuery), .answered (.ok .unit), .shown (.armReset false),
    .shown (.issued (.execute "SET TRANSACTION ISOLATION LEVEL READ COMMITTED")),
    .answered (.ok (.statement r)), .shown (.issued .closeQuery), .answered (.ok .unit),
    .shown (.recycled (.ok ()))]

/-- How far a recycle by reset has come, or how it ended. -/
def RecycleProgress (ms : List Milestone) (s : Session) : Prop :=
  match s.task with
  | .unpolled (.recycle .reset) => ms = []
  | .reset true guard a _ => guard.complete = false ∧ a.Reached ms
  | .idle => ms = [] ∨ FullReset ms ∨ s.dead = true ∧ .shown (.recycled (.ok ())) ∉ ms
  | _ => False

namespace Session

variable {s s' : Session} {os : List Obs} {t : Trace Event Obs} {ev : Event}

theorem mem_milestones {o : Obs} (h : o ∈ t.observed) : Milestone.shown o ∈ milestones t := by
  obtain ⟨⟨ev, os⟩, hl, ho⟩ := List.mem_flatMap.mp h
  refine List.mem_flatMap.mpr ⟨_, hl, ?_⟩
  unfold milestone
  split <;> cases ‹_ = _› <;> simpa using ho

theorem milestones_snoc (t : Trace Event Obs) (l : Event × List Obs) :
    milestones (t ++ [l]) = milestones t ++ milestone l := by simp [milestones]

/-- The three suspension points show no result. -/
theorem reached_no_result {a : ResetAwait} {ms : List Milestone} (h : a.Reached ms)
    (r : Result Unit) : Milestone.shown (.recycled r) ∉ ms := by
  cases a with
  | drain => rw [h]; simp
  | batch => rw [h]; simp
  | drainAgain => obtain ⟨r', h⟩ := h; rw [h]; simp

/-- The first poll of a recycle by reset. -/
theorem progress_poll {client : Client} {alloc : Token} {r : Stepped}
    (h : client.firstPoll alloc (.recycle .reset) = some r) :
    RecycleProgress (r.2.map .shown) r.1 := by
  simp only [Client.firstPoll, Option.some.injEq] at h
  subst h
  cases hd : client.inner.dead with
  | true =>
    rw [Client.beginRecycle_dead hd]
    exact .inr (.inr ⟨hd, by simp [connectionClosed]⟩)
  | false =>
    simp only [Client.beginRecycle, ensureUsable_usable hd, Client.beginReset]
    exact ⟨rfl, rfl⟩

/-- An answer moves the reset to its next suspension point, or ends it. -/
theorem progress_resume {client : Client} {guard : SessionReset} {a : ResetAwait}
    {out : Except TdsError Answer} {r : Stepped} {ms : List Milestone}
    (hg : guard.complete = false) (hm : a.Reached ms)
    (h : client.resumeReset true guard a out = some r) :
    RecycleProgress (ms ++ .answered out :: r.2.map .shown) r.1 := by
  have hno := reached_no_result hm (.ok ())
  unfold Client.resumeReset at h
  split at h <;> cases h
  · refine .inr (.inr ⟨?_, by simpa [Client.resetResult] using hno⟩)
    simp [dead, SessionReset.drop_incomplete hg]
  · exact ⟨hg, by rw [hm]; rfl⟩
  · exact ⟨hg, ⟨_, by rw [hm]; rfl⟩⟩
  · obtain ⟨r, hm⟩ := hm
    exact .inr (.inl ⟨r, by rw [hm]; rfl⟩)

/-- One step of a recycle by reset. -/
theorem step_progress (hp : RecycleProgress (milestones t) s) (hn : ev.starts = false)
    (h : s.step ev = some (s', os)) : RecycleProgress (milestones (t ++ [(ev, os)])) s' := by
  rw [milestones_snoc]
  obtain ⟨client, task⟩ := s
  unfold RecycleProgress at hp
  split at hp
  · next ht =>
    cases ht
    rw [hp, List.nil_append]
    cases ev with
    | start => cases hn
    | poll alloc => exact progress_poll h
    | drop => cases h; exact .inl rfl
    | columns | intoRowStream | intoResults | reply => cases h
  · next guard a parked ht =>
    cases ht
    obtain ⟨hg, hm⟩ := hp
    cases ev with
    | start => cases hn
    | columns | intoRowStream | intoResults => cases h
    | poll alloc =>
      cases parked <;> cases h
      exact ⟨hg, by simpa [milestone] using hm⟩
    | drop =>
      cases parked <;> cases h
      refine .inr (.inr ⟨?_, by simpa [milestone] using reached_no_result hm _⟩)
      simp [dead, SessionReset.drop_incomplete hg]
    | reply r =>
      cases parked with
      | true => cases h
      | false =>
        obtain ⟨out, kills, onRows, metadata, returnValues⟩ := r
        cases out with
        | pending => cases h; exact ⟨hg, by simpa [milestone] using hm⟩
        | ready out => exact progress_resume hg hm h
  · next ht =>
    cases ht
    rw [step_idle client hn] at h
    cases h
  · exact hp.elim

theorem runs_progress {client : Client} (h : Runs ⟨client, .unpolled (.recycle .reset)⟩ t s)
    (hn : ∀ l ∈ t, l.1.starts = false) : RecycleProgress (milestones t) s := by
  let I : Trace Event Obs → Session → Prop := fun t s =>
    (∀ l ∈ t, l.1.starts = false) → RecycleProgress (milestones t) s
  refine h.history (I := I) ?_ (fun _ => rfl) hn
  intro t s ev os s' ih hs hn
  have hp := ih fun l hl => hn l (List.mem_append_left _ hl)
  exact step_progress hp (hn _ (List.mem_append_right _ List.mem_cons_self)) hs

/-- A recycle that succeeds has been through the full reset. -/
theorem progress_ok {ms : List Milestone} (hp : RecycleProgress ms s)
    (ho : .shown (.recycled (.ok ())) ∈ ms) : FullReset ms := by
  unfold RecycleProgress at hp
  split at hp
  · rw [hp] at ho; cases ho
  · exact absurd ho (reached_no_result hp.2 _)
  · rcases hp with rfl | hp | ⟨-, hp⟩
    · cases ho
    · exact hp
    · exact absurd ho hp
  · exact hp.elim

/-- A recycle that has issued a call and then failed, or been dropped, leaves a dead client. -/
theorem progress_failed {ms : List Milestone} {c : Call} (hp : RecycleProgress ms s)
    (hc : .shown (.issued c) ∈ ms)
    (he : (∃ e, .shown (.recycled (.error e)) ∈ ms) ∨
      s.task = .idle ∧ ∀ r, .shown (.recycled r) ∉ ms) : s.dead = true := by
  unfold RecycleProgress at hp
  split at hp
  · rw [hp] at hc; cases hc
  · next ht =>
    rcases he with ⟨e, he⟩ | ⟨hi, -⟩
    · exact absurd he (reached_no_result hp.2 _)
    · rw [hi] at ht; cases ht
  · rcases hp with rfl | ⟨r, rfl⟩ | ⟨hd, -⟩
    · cases hc
    · rcases he with ⟨e, he⟩ | ⟨-, he⟩
      · simp at he
      · exact absurd (by simp) (he (.ok ()))
    · exact hd
  · exact hp.elim

/-- A future that its first poll completes shows that poll's result and nothing else. -/
theorem runs_one_poll {client client' : Client} {e : Entry} {r : Obs}
    (hp : ∀ alloc, client.firstPoll alloc e = some (⟨client', .idle⟩, [r]))
    (h : Runs ⟨client, .unpolled e⟩ t s) (hn : ∀ l ∈ t, l.1.starts = false) :
    (t.observed = [] ∧ (∀ l ∈ t, l.1.asks = false) ∧ s.client = client) ∨
      (t.observed = [r] ∧ s.client = client') := by
  cases h with
  | nil => exact .inl ⟨rfl, by simp, rfl⟩
  | @cons _ m _ ev os t hs hr =>
    have hend : m.task = .idle → t = [] ∧ s = m := by
      intro hi
      cases hr with
      | nil => exact ⟨rfl, rfl⟩
      | @cons _ _ _ ev' _ _ hs' _ =>
        obtain ⟨c, task⟩ := m
        cases hi
        have hev : ev'.starts = false := hn _ (List.mem_cons_of_mem _ List.mem_cons_self)
        cases (step_idle c hev).symm.trans hs'
    cases ev with
    | start => cases hn _ List.mem_cons_self
    | columns | intoRowStream | intoResults | reply => cases hs
    | drop =>
      cases hs
      obtain ⟨rfl, rfl⟩ := hend rfl
      exact .inl ⟨rfl, by simp [Event.asks], rfl⟩
    | poll alloc =>
      cases (hp alloc).symm.trans hs
      obtain ⟨rfl, rfl⟩ := hend rfl
      exact .inr ⟨rfl, rfl⟩

/-- From here on, every recycle fails at once, without driver I/O. -/
def RefusesRecycle (s : Session) : Prop :=
  ∀ p m, Runs s p m → m.task = .idle → ∀ method os (t : Trace Event Obs) s',
    Runs m ((.start (.recycle method), os) :: t) s' → (∀ l ∈ t, l.1.starts = false) →
    (t.observed = [] ∧ ∀ l ∈ t, l.1.asks = false) ∨
      t.observed = [.recycled (.error connectionClosed)]

theorem start_recycle {client : Client} {method : RecyclingMethod}
    (h : step ⟨client, .idle⟩ (.start (.recycle method)) = some (s, os)) :
    s = ⟨client, .unpolled (.recycle method)⟩ ∧ os = [] := by cases h; exact ⟨rfl, rfl⟩

theorem dead_refusesRecycle (hg : s.task.Guarded) (hd : s.dead = true) : s.RefusesRecycle := by
  intro p m hr hi method os t s' h hn
  have hm : m.dead = true := (runs_dead hr hg).mpr (.inl hd)
  obtain ⟨client, task⟩ := m
  cases hi
  cases h with
  | cons hs hr =>
    obtain ⟨rfl, -⟩ := start_recycle hs
    have hp : ∀ alloc, client.firstPoll alloc (.recycle method) =
        some (⟨client, .idle⟩, [.recycled (.error connectionClosed)]) := by
      intro alloc
      rw [Client.firstPoll, Client.beginRecycle_dead hm]
    rcases runs_one_poll hp hr hn with ⟨ho, ha, -⟩ | ⟨ho, -⟩
    · exact .inl ⟨ho, ha⟩
    · exact .inr ho

end Session

/-- What recycling does from an idle session `s`. -/
structure PoolRecyclable (s : Session) : Prop where
  /-- A reset succeeds only after each of its steps did, in order, within that recycle. -/
  reset_ok : ∀ os (t : Trace Event Obs) s', s.Runs ((.start (.recycle .reset), os) :: t) s' →
    (∀ l ∈ t, l.1.starts = false) → .recycled (.ok ()) ∈ t.observed → FullReset (milestones t)
  /-- After driver I/O, a failed or dropped reset leaves a dead client that no recycle accepts. -/
  reset_failed : ∀ os (t : Trace Event Obs) s', s.Runs ((.start (.recycle .reset), os) :: t) s' →
    (∀ l ∈ t, l.1.starts = false) → (∃ c, .issued c ∈ t.observed) →
    (∃ e, .recycled (.error e) ∈ t.observed) ∨
      (s'.task = .idle ∧ ∀ r, .recycled r ∉ t.observed) →
    s'.dead = true ∧ s'.RefusesRecycle
  /-- A ping issues no call, changes nothing, and reports the flag. -/
  ping : ∀ os (t : Trace Event Obs) s', s.Runs ((.start (.recycle .ping), os) :: t) s' →
    (∀ l ∈ t, l.1.starts = false) → s'.client = s.client ∧
      ((t.observed = [] ∧ ∀ l ∈ t, l.1.asks = false) ∨
        ∃ r, t.observed = [.recycled r] ∧ (r = .ok () ↔ s.dead = false))

namespace Session

variable {s s' : Session} {os : List Obs} {t : Trace Event Obs}

theorem shown_mem_milestones {o : Obs} (h : Milestone.shown o ∈ milestones t) :
    o ∈ t.observed := by
  obtain ⟨⟨ev, os⟩, hl, ho⟩ := List.mem_flatMap.mp h
  refine List.mem_flatMap.mpr ⟨_, hl, ?_⟩
  unfold milestone at ho
  split at ho <;> cases ‹_ = _› <;> simpa using ho

theorem recycle_ping {client : Client} (h : Runs ⟨client, .unpolled (.recycle .ping)⟩ t s)
    (hn : ∀ l ∈ t, l.1.starts = false) :
    s.client = client ∧ ((t.observed = [] ∧ ∀ l ∈ t, l.1.asks = false) ∨
      ∃ r, t.observed = [.recycled r] ∧ (r = .ok () ↔ client.inner.dead = false)) := by
  have hp : ∀ alloc, client.firstPoll alloc (.recycle .ping) =
      some (⟨client, .idle⟩, [.recycled (ensureUsable client.inner)]) := by
    intro alloc
    simp only [Client.firstPoll, Client.beginRecycle]
    split
    · next e he => rw [he]
    · rfl
  rcases runs_one_poll hp h hn with ⟨ho, ha, hc⟩ | ⟨ho, hc⟩
  · exact ⟨hc, .inl ⟨ho, ha⟩⟩
  · refine ⟨hc, .inr ⟨_, ho, ?_⟩⟩
    cases hd : client.inner.dead with
    | true => simp [ensureUsable_dead hd]
    | false => simp [ensureUsable_usable hd]

end Session

/-- Whatever the borrowers of a connection did, recycling never hands out a half-reset or
poisoned one. -/
theorem pool_recycling {client : Client} {t : Trace Event Obs} {s : Session}
    (h : (Session.connected client).Runs t s) (hi : s.task = .idle) : PoolRecyclable s := by
  have hg : s.task.Guarded := Session.runs_guarded h trivial
  obtain ⟨c, task⟩ := s
  cases hi
  refine ⟨?_, ?_, ?_⟩
  · intro os t' s' hr hn ho
    cases hr with
    | cons hs hr =>
      obtain ⟨rfl, -⟩ := Session.start_recycle hs
      exact Session.progress_ok (Session.runs_progress hr hn) (Session.mem_milestones ho)
  · rintro os t' s' hr hn ⟨call, hc⟩ he
    have hg' : s'.task.Guarded := Session.runs_guarded hr hg
    cases hr with
    | cons hs hr =>
      obtain ⟨rfl, -⟩ := Session.start_recycle hs
      have hd : s'.dead = true := by
        refine Session.progress_failed (Session.runs_progress hr hn) (Session.mem_milestones hc) ?_
        rcases he with ⟨e, he⟩ | ⟨hi, he⟩
        · exact .inl ⟨e, Session.mem_milestones he⟩
        · exact .inr ⟨hi, fun r hm => he r (Session.shown_mem_milestones hm)⟩
      exact ⟨hd, Session.dead_refusesRecycle hg' hd⟩
  · intro os t' s' hr hn
    cases hr with
    | cons hs hr =>
      obtain ⟨rfl, -⟩ := Session.start_recycle hs
      exact Session.recycle_ping hr hn

end

section

open Reference

/-- A recycle by reset that every driver call of answers at once. -/
def fullReset : Trace Event Obs :=
  [(.poll 1, [.issued .closeQuery]),
    (.reply { outcome := .ready (.ok .unit) },
      [.armReset false, .issued ResetAwait.batch.call]),
    (.reply { outcome := .ready (.ok (.statement .finished)) }, [.issued .closeQuery]),
    (.reply { outcome := .ready (.ok .unit) }, [.recycled (.ok ())])]

/-- A borrower's ping, after which the connection is recycled. -/
theorem pool_recycling_after_ping :
    ∃ s, (Session.connected client).Runs
        [(.start .ping, []), (.poll 1, [.returned (.ok .unit)])] s ∧
      PoolRecyclable s ∧ FullReset (milestones fullReset) := by
  have h : (Session.connected client).Runs
      [(.start .ping, []), (.poll 1, [.returned (.ok .unit)])] _ := .cons rfl (.cons rfl (.nil _))
  have hp := pool_recycling h rfl
  have hr : (Session.connected client).Runs ((.start (.recycle .reset), []) :: fullReset) _ :=
    .cons rfl (.cons rfl (.cons rfl (.cons rfl (.cons rfl (.nil _)))))
  exact ⟨_, h, hp, hp.reset_ok _ _ _ hr (by simp [fullReset, Event.starts])
    (by simp [fullReset])⟩

end

end TiberiusBridge
