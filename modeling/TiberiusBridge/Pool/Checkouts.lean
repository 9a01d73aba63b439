import TiberiusBridge.Pool

/-!
# What a checkout can rely on

Over any run of the pool: a connection is handed out only once its recycle went
through, a prepared handle does not outlive the checkout it was made in, and a
connection known to be dead is closed before its place is used again.
-/
namespace TiberiusBridge

open Lib (Run Trace)

section

variable [MssqlTds] {ι π : Type} [DecidableEq ι] {client : Client} {i : ι} {ev : Event}
  {os : List Obs}

theorem Session.firstPoll_not_recycled {s : Session}
    (h : Session.step ⟨client, .unpolled (.recycle .reset)⟩ ev = some (s, os)) :
    .recycled (.ok ()) ∉ os := by
  cases ev with
  | start | columns | intoRowStream | intoResults | reply => cases h
  | drop => cases h; simp
  | poll alloc =>
    cases hd : client.inner.dead with
    | true =>
      simp only [Session.step, Client.firstPoll, Client.beginRecycle_dead hd] at h
      cases h
      simp [connectionClosed]
    | false =>
      simp only [Session.step, Client.firstPoll, Client.beginRecycle, Client.beginReset,
        ensureUsable_usable hd] at h
      cases h
      simp

namespace Pool

variable {mgr : TdsManager π} {p p' : Pool ι} {t : Trace (PoolEvent ι) Obs}

/-- What the recycle that step `ev` ends has been through, from the place `q₀` to the place `q`. -/
structure HandedOut (mgr : TdsManager π) (p' : Pool ι) (i : ι) (q₀ q : Place ι)
    (r : Trace Event Obs) : Prop where
  place : p'.world.places i = some q
  alive : q₀.session.dead = false
  /-- Every step of a full reset, and no statement of an earlier borrower is of this session. -/
  reset : mgr.recyclingMethod = .reset → FullReset (milestones r) ∧ p'.world.Stale i
  /-- The session is just as its last borrower left it. -/
  ping : mgr.recyclingMethod = .ping → q.session.client = q₀.session.client

/-- A connection given back is handed out again only by a recycle that went through. -/
theorem pool_handout (h : Runs mgr empty t p) {ev : Event} {os : List Obs}
    (hs : Step mgr p (.resume i ev) os p') (ho : .recycled (.ok ()) ∈ os) :
    ∃ q₀ q r, RecycledFrom mgr t i q₀ r ∧ HandedOut mgr p' i q₀ q (r ++ [(ev, os)]) := by
  have hi := runs_inv h
  have key : ∀ {r w}, p.lease i = .recycling r → p.world.Step (.act i ev) os w →
      p'.world = w → ∃ q₀ q r, RecycledFrom mgr t i q₀ r ∧
        HandedOut mgr p' i q₀ q (r ++ [(ev, os)]) := by
    rintro r w hl hs rfl
    obtain ⟨q₀, q, hfrom, hrec, hne⟩ := runs_recyclesOk h i r hl
    obtain ⟨q', hrec', hstep, hstale⟩ := hrec.act hi hs
    have hshown : .recycled (.ok ()) ∈ Trace.observed (r ++ [(ev, os)]) := by simp [ho]
    have halive := Session.runs_recycle_alive hrec'.runs hrec'.starts hshown
    refine ⟨q₀, q', r, hfrom, hrec'.place, halive, fun hm => ?_, fun hm => ?_⟩
    · have hruns := hrec'.runs
      rw [hm] at hruns
      have hfull := Session.progress_ok (Session.runs_progress hruns hrec'.starts)
        (Session.mem_milestones hshown)
      refine ⟨hfull, hstale ?_⟩
      rcases Session.runs_recycle_task hrec.runs hrec.starts with ht | ht | ht
      · obtain ⟨⟨c, task⟩, lent, began⟩ := q
        cases ht
        rw [hm] at hstep
        exact absurd ho (Session.firstPoll_not_recycled hstep)
      · exact ht
      · exact absurd ht hne
    · have hruns := hrec'.runs
      rw [hm] at hruns
      exact (Session.recycle_ping hruns hrec'.starts).1
  cases hs with
  | resume hl hs _ => exact key hl hs rfl
  | handOut hl hs _ => exact key hl hs rfl
  | refuse hl hs _ _ => exact key hl hs rfl

variable {ev : PoolEvent ι} {os : List Obs}

theorem checkout_stale (h : Runs mgr empty t p) (hm : mgr.recyclingMethod = .reset)
    (hs : Step mgr p ev os p') (hc : ev.ChecksOut i os) : p'.world.Stale i := by
  cases ev with
  | create j client =>
    obtain rfl : j = i := hc
    cases hs with
    | create _ hs =>
      refine World.step_stale (runs_inv h) hs (.inr ?_) fun a _ he => nomatch he
      cases hs with
      | connect => simp
  | resume j a =>
    obtain ⟨rfl, ho⟩ := hc
    obtain ⟨_, _, _, -, hout⟩ := pool_handout h hs ho
    exact (hout.reset hm).2
  | recycle | user | giveBack | close | discard => exact hc.elim

/-- What a step of the pool does to the connections, and who acts on one. -/
theorem step_world (hs : Step mgr p ev os p') :
    p'.world = p.world ∧ os = [] ∨ ∃ wev, p.world.Step wev os p'.world ∧
      ∀ i a, wev = .act i a → ev = .user i (.act i a) ∨ ∃ r, p.lease i = .recycling r := by
  cases hs with
  | create _ hs | recycle _ hs | close hs | discard hs =>
    exact .inr ⟨_, hs, fun _ _ he => nomatch he⟩
  | resume hl hs _ | handOut hl hs _ | refuse hl hs _ _ =>
    exact .inr ⟨_, hs, fun _ _ he => by cases he; exact .inr ⟨_, hl⟩⟩
  | user hl hb hs => exact .inr ⟨_, hs, fun _ _ he => by subst he; cases hb; exact .inl rfl⟩
  | giveBack => exact .inl ⟨rfl, rfl⟩

theorem step_number (hs : Step mgr p ev os p') (i : ι) :
    p.world.number i ≤ p'.world.number i := by
  rcases step_world hs with ⟨hw, -⟩ | ⟨wev, hw, -⟩
  · rw [hw]
  · exact World.step_number hw i

/-- Only a borrower brings a statement to life. -/
theorem step_live {k : Held ι} (h : Runs mgr empty t p) (hs : Step mgr p ev os p')
    (hk : p'.world.Live k) :
    p.world.Live k ∨ ∃ a, ev = .user k.owner (.act k.owner a) ∧
      .returned (.ok (.statement k.stmt)) ∈ os := by
  rcases step_world hs with ⟨hw, -⟩ | ⟨wev, hw, hev⟩
  · rw [hw] at hk
    exact .inl hk
  · rcases World.step_live hw hk with hk | ⟨a, rfl, hm⟩
    · exact .inl hk
    · rcases hev _ _ rfl with he | ⟨r, hl⟩
      · exact .inr ⟨a, he, hm⟩
      · obtain ⟨_, _, -, hrec, -⟩ := runs_recyclesOk h _ r hl
        exact absurd hm (hrec.no_statement (runs_inv h) hw _)

/-- From a checkout on, a live statement of the connection is of an earlier session, or it was
returned to the borrower since. -/
theorem after_checkout {m : Pool ι} {after : Trace (PoolEvent ι) Obs} (h : Runs mgr empty t m)
    (hst : m.world.Stale i) (hr : Runs mgr m after p) :
    m.world.number i ≤ p.world.number i ∧ ∀ k, p.world.Live k → k.owner = i →
      k.number < m.world.number i ∨ ∃ a os, (.user i (.act i a), os) ∈ after ∧
        .returned (.ok (.statement k.stmt)) ∈ os := by
  let I : Trace (PoolEvent ι) Obs → Pool ι → Prop := fun after p =>
    Runs mgr empty (t ++ after) p ∧ m.world.number i ≤ p.world.number i ∧
      ∀ k, p.world.Live k → k.owner = i → k.number < m.world.number i ∨
        ∃ a os, (.user i (.act i a), os) ∈ after ∧ .returned (.ok (.statement k.stmt)) ∈ os
  refine (hr.history (I := I) ?_ ⟨by rwa [List.append_nil], le_rfl, ?_⟩).2
  · rintro after p ev os p' ⟨hrun, hle, hlive⟩ hs
    refine ⟨by rw [← List.append_assoc]; exact hrun.snoc hs, hle.trans (step_number hs i), ?_⟩
    intro k hk ho
    rcases step_live hrun hs hk with hk | ⟨a, rfl, hm⟩
    · rcases hlive k hk ho with hlt | ⟨a, os', ha, hm⟩
      · exact .inl hlt
      · exact .inr ⟨a, os', List.mem_append_left _ ha, hm⟩
    · subst ho
      exact .inr ⟨a, os, List.mem_append_right _ List.mem_cons_self, hm⟩
  · exact fun k hk ho => .inl (hst k hk ho)

/-- Call `c` goes out for a borrower, with a statement that was prepared on this connection since
its last checkout. -/
def OfCheckout (t : Trace (PoolEvent ι) Obs) (ev : PoolEvent ι) (c : Call) : Prop :=
  ∃ i a stmt, ev = .user i (.act i a) ∧ c.Uses stmt ∧
    ∀ before ev₀ os₀ after, t = before ++ (ev₀, os₀) :: after → ev₀.ChecksOut i os₀ →
      ∃ a' os', (.user i (.act i a'), os') ∈ after ∧ .returned (.ok (.statement stmt)) ∈ os'

/-- Under reset recycling, no handle outlives the checkout that it was prepared in. -/
theorem pool_handles_of_checkout (hm : mgr.recyclingMethod = .reset) (h : Runs mgr empty t p)
    (hs : Step mgr p ev os p') {c : Call} (hc : .issued c ∈ os) (hu : c.usesHandle = true) :
    OfCheckout t ev c := by
  have hi := runs_inv h
  rcases step_world hs with ⟨-, rfl⟩ | ⟨wev, hw, hev⟩
  · cases hc
  · obtain ⟨i, a, q, k, rfl, hq, hst, hlive, hcur, huse⟩ := World.issued_current hi hw hc hu
    refine ⟨i, a, k.stmt, ?_, huse, ?_⟩
    · rcases hev i a rfl with he | ⟨r, hl⟩
      · exact he
      · -- a recycle is called with no statement
        obtain ⟨_, q', -, hrec, hne⟩ := runs_recyclesOk h i r hl
        obtain rfl : q' = q := Option.some.inj (hrec.place.symm.trans hq)
        rcases Session.runs_recycle_task hrec.runs hrec.starts with ht | ht | ht
        · rw [ht] at hst
          cases hst
        · cases htask : q'.session.task <;> rw [htask] at hst ht <;> cases ht
          cases hst
        · exact absurd ht hne
    · rintro before ev₀ os₀ after rfl hout
      obtain ⟨m, hbefore, hrest⟩ := Run.split h
      cases hrest with
      | @cons _ m' _ _ _ _ hs₀ hafter =>
        have hstale := checkout_stale hbefore hm hs₀ hout
        obtain ⟨hle, hall⟩ := after_checkout (hbefore.snoc hs₀) hstale hafter
        rcases hall k hlive hcur.1 with hlt | hret
        · rw [hcur.2] at hlt
          exact absurd hlt (not_lt.mpr hle)
        · exact hret

/-- Connection `i` is dead, and no recycle of it has found out yet that may still succeed. -/
def Dead (mgr : TdsManager π) (p : Pool ι) (i : ι) : Prop :=
  ∃ q, p.world.places i = some q ∧ q.session.dead = true ∧
    ∀ r, p.lease i = .recycling r → q.session.task = .unpolled (.recycle mgr.recyclingMethod)

theorem Dead.elsewhere {wev : WorldEvent ι} {w' : World ι} {lease : ι → Lease}
    (hd : Dead mgr p i) (hs : p.world.Step wev os w') (hp : wev.place ≠ some i)
    (hl : lease i = p.lease i) : Dead mgr ⟨w', lease⟩ i := by
  obtain ⟨q, hq, hdead, htask⟩ := hd
  exact ⟨q, (World.step_elsewhere hs hp).1.trans hq, hdead, fun r hr => htask r (hl.symm.trans hr)⟩

/-- The recycle of a dead connection only ends, and does not succeed. -/
theorem Dead.act {a : Event} {w' : World ι} {r : Trace Event Obs} (hd : Dead mgr p i)
    (hl : p.lease i = .recycling r) (hs : p.world.Step (.act i a) os w') :
    (∃ q, w'.places i = some q ∧ q.session.task = .idle) ∧ .recycled (.ok ()) ∉ os := by
  obtain ⟨q, hq, hdead, htask⟩ := hd
  cases hs with
  | @act _ p _ s _ hp hn hf hs =>
    obtain rfl : p = q := Option.some.inj (hp.symm.trans hq)
    obtain ⟨⟨c, task⟩, lent, began⟩ := p
    obtain rfl : task = _ := htask r hl
    obtain ⟨hidle, hno⟩ := Session.step_recycle_dead hdead hs
    exact ⟨⟨_, Function.update_self _ _ _, hidle⟩, hno⟩

theorem step_dead (h : Runs mgr empty t p) (hd : Dead mgr p i) (hs : Step mgr p ev os p')
    (hc : ev ≠ .close i) : Dead mgr p' i ∧ ¬ev.ChecksOut i os := by
  have hi := runs_inv h
  have other : ∀ {j : ι}, j ≠ i → some j ≠ some i := fun hj h => hj (Option.some.inj h)
  have keep : ∀ {j : ι} {l : Lease}, j ≠ i → Function.update p.lease j l i = p.lease i :=
    fun hj => Function.update_of_ne (Ne.symm hj) _ _
  -- a step of the connection itself that leaves it with no recycle
  have own : ∀ {wev : WorldEvent ι} {w' : World ι} {lease : ι → Lease},
      p.world.Step wev os w' → wev ≠ .close i → (∀ r, lease i ≠ .recycling r) →
        Dead mgr ⟨w', lease⟩ i := by
    intro wev w' lease hs hne hl
    obtain ⟨q, hq, hdead, -⟩ := hd
    obtain ⟨q', hq', hdead'⟩ := World.step_dead hi hq hdead hs hne
    exact ⟨q', hq', hdead', fun r hr => absurd hr (hl r)⟩
  cases hs with
  | @create j _ _ _ _ hs =>
    have hj : j ≠ i := by
      rintro rfl
      obtain ⟨q, hq, -⟩ := hd
      cases hs with
      | connect hn => rw [hq] at hn; cases hn
    exact ⟨hd.elsewhere hs (other hj) (keep hj), hj⟩
  | @recycle j _ _ _ hs =>
    refine ⟨?_, fun h => h⟩
    by_cases hj : j = i
    · subst hj
      obtain ⟨rfl, q₀, q, hq₀, -, hrec, -⟩ := Recycles.start hs
      obtain ⟨q', hq', hdead, -⟩ := hd
      obtain rfl : q' = q₀ := Option.some.inj (hq'.symm.trans hq₀)
      have hruns := hrec.runs
      cases hrun : q.session
      rw [hrun] at hruns
      cases hruns
      exact ⟨q, hrec.place, by rw [hrun]; exact hdead, fun _ _ => by rw [hrun]⟩
    · exact hd.elsewhere hs (other hj) (keep hj)
  | @resume j r _ _ _ hl hs hne =>
    by_cases hj : j = i
    · subst hj
      obtain ⟨⟨q, hq, hidle⟩, -⟩ := hd.act hl hs
      exact absurd hidle (hne q hq)
    · exact ⟨hd.elsewhere hs (other hj) (keep hj), fun h => hj h.1⟩
  | @handOut j r _ _ _ hl hs ho =>
    by_cases hj : j = i
    · subst hj
      exact absurd ho (hd.act hl hs).2
    · exact ⟨hd.elsewhere hs (other hj) (keep hj), fun h => hj h.1⟩
  | @refuse j r _ _ _ hl hs hidle ho =>
    refine ⟨?_, fun h => ho h.2⟩
    by_cases hj : j = i
    · subst hj
      refine own hs (fun h => nomatch h) fun r hr => ?_
      rw [Function.update_self] at hr
      cases hr
    · exact hd.elsewhere hs (other hj) (keep hj)
  | @user j wev _ _ hl hb hs =>
    refine ⟨?_, fun h => h⟩
    by_cases hj : j = i
    · subst hj
      refine own hs ?_ fun r hr => ?_
      · rintro rfl
        exact hb
      · rw [hl] at hr
        cases hr
    · refine hd.elsewhere hs ?_ rfl
      cases wev with
      | connect | close | discard => exact hb.elim
      | call | use | act => cases hb; exact other hj
  | @giveBack j _ hl hp hidle =>
    refine ⟨?_, fun h => h⟩
    obtain ⟨q, hq, hdead, htask⟩ := hd
    refine ⟨q, hq, hdead, fun r hr => ?_⟩
    by_cases hj : j = i
    · subst hj
      have hr : Function.update p.lease j .idle j = .recycling r := hr
      rw [Function.update_self] at hr
      cases hr
    · exact htask r ((keep hj).symm.trans hr)
  | @close j _ _ hs =>
    have hj : j ≠ i := fun h => hc (by rw [h])
    exact ⟨hd.elsewhere hs (other hj) rfl, fun h => h⟩
  | discard hs => exact ⟨hd.elsewhere hs (fun h => nomatch h) rfl, fun h => h⟩

/-- A connection that a borrower's step finds or leaves dead is not handed out again before it
has been closed, whatever the pool and the other borrowers do. -/
theorem pool_drops_dead (h : Runs mgr empty t p) {q : Place ι} {a : Event}
    (hq : p.world.places i = some q) (hs : Step mgr p (.user i (.act i a)) os p')
    (hk : q.session.dead = true ∨ q.session.Killed a) {after : Trace (PoolEvent ι) Obs} {m : Pool ι}
    (hr : Runs mgr p' after m) {before rest : Trace (PoolEvent ι) Obs} {l : PoolEvent ι × List Obs}
    (hl : after = before ++ l :: rest) (hout : l.1.ChecksOut i l.2) :
    ∃ os, (.close i, os) ∈ before := by
  have hdead : Dead mgr p' i := by
    cases hs with
    | user hlease hb hw =>
      cases hw with
      | @act _ q' _ s _ hq' hn hf hstep =>
        obtain rfl : q' = q := Option.some.inj (hq'.symm.trans hq)
        have hg := ((runs_inv h).place i q' hq).guarded
        refine ⟨_, Function.update_self _ _ _, (Session.step_dead hg hstep).mpr hk, ?_⟩
        intro r hr
        rw [hlease] at hr
        cases hr
  by_contra hclose
  subst hl
  obtain ⟨m', hbefore, hrest⟩ := Run.split hr
  let I : Trace (PoolEvent ι) Obs → Pool ι → Prop := fun tr p =>
    Runs mgr empty ((t ++ [(.user i (.act i a), os)]) ++ tr) p ∧
      ((∀ os, (.close i, os) ∉ tr) → Dead mgr p i)
  have hI : I before m' := by
    refine hbefore.history (I := I) ?_ ⟨by rw [List.append_nil]; exact h.snoc hs, fun _ => hdead⟩
    rintro tr p ev os p' ⟨hrun, hd⟩ hs
    refine ⟨by rw [← List.append_assoc]; exact hrun.snoc hs, fun hno => ?_⟩
    have hne : ev ≠ .close i := by
      rintro rfl
      exact hno os (List.mem_append_right _ List.mem_cons_self)
    exact (step_dead hrun (hd fun os hm => hno os (List.mem_append_left _ hm)) hs hne).1
  cases hrest with
  | cons hs₀ _ =>
    have hd := hI.2 fun os hm => hclose ⟨os, hm⟩
    refine (step_dead hI.1 hd hs₀ ?_).2 hout
    rintro rfl
    exact hout

end Pool

end

section

open Reference

/-- The pool of one connection, over the default settings. -/
def manager : TdsManager Unit := { config := .new }

theorem manager_creates : manager.Creates client :=
  ⟨⟨"", "", "", .password, none, ⟨.on, false, none, none⟩, "", "", "", ⟨0, 0, 0⟩, .readWrite, none,
    none, ⟨"", ""⟩⟩, ⟨0, 0, 0⟩, fun _ _ => .ok client.inner, 0, rfl⟩

/-- A fresh connection given back, and recycled up to its last answer. -/
def lastAnswerPending : Trace (PoolEvent Unit) Obs :=
  [(.create () client, []), (.giveBack (), []), (.recycle (), []),
    (.resume () (.poll 1), [.issued .closeQuery]),
    (.resume () (.reply { outcome := .ready (.ok .unit) }),
      [.armReset false, .issued ResetAwait.batch.call]),
    (.resume () (.reply { outcome := .ready (.ok (.statement .finished)) }),
      [.issued .closeQuery])]

theorem pool_handout_reset : ∃ p p' q₀ q r,
    Pool.Runs manager .empty lastAnswerPending p ∧
      Pool.Step manager p (.resume () (.reply { outcome := .ready (.ok .unit) }))
        [.recycled (.ok ())] p' ∧
      Pool.RecycledFrom manager lastAnswerPending () q₀ r ∧
      Pool.HandedOut manager p' () q₀ q
        (r ++ [(.reply { outcome := .ready (.ok .unit) }, [.recycled (.ok ())])]) := by
  have h : ∃ p p', Pool.Runs manager .empty lastAnswerPending p ∧
      Pool.Step manager p (.resume () (.reply { outcome := .ready (.ok .unit) }))
        [.recycled (.ok ())] p' := by
    refine ⟨_, _, .cons (.create manager_creates (.connect rfl ⟨?_, ?_⟩))
      (.cons (.giveBack rfl rfl rfl) (.cons (.recycle rfl (.call rfl rfl rfl))
        (.cons (.resume rfl (.act rfl rfl ?_ rfl) ?_) (.cons (.resume rfl (.act rfl rfl ?_ rfl) ?_)
          (.cons (.resume rfl (.act rfl rfl ?_ rfl) ?_) (.nil _)))))),
      .handOut rfl (.act rfl rfl ?_ rfl) (List.mem_singleton.mpr rfl)⟩
    case refine_1 => rintro i p ⟨⟩
    case refine_2 =>
      rintro k (hk | ⟨i, p, hp, -⟩)
      · cases hk
      · cases hp
    case refine_3 =>
      rintro token ⟨⟩
      refine ⟨?_, ?_⟩
      · rintro i p ⟨⟩
        decide
      · rintro k (hk | ⟨i, p, hp, hl⟩)
        · cases hk
        · cases hp
          cases hl
    case refine_4 => rintro q ⟨⟩; exact fun h => nomatch h
    case refine_5 => rintro token ⟨⟩
    case refine_6 => rintro q ⟨⟩; exact fun h => nomatch h
    case refine_7 => rintro token ⟨⟩
    case refine_8 => rintro q ⟨⟩; exact fun h => nomatch h
    case refine_9 => rintro token ⟨⟩
  obtain ⟨p, p', hr, hs⟩ := h
  obtain ⟨q₀, q, r, hfrom, hout⟩ := Pool.pool_handout hr hs (List.mem_singleton.mpr rfl)
  exact ⟨p, p', q₀, q, r, hr, hs, hfrom, hout⟩

/-- A borrower prepares a statement and calls it. -/
def preparedCalled : Trace (PoolEvent Unit) Obs :=
  [(.create () client, []), (.user () (.call () (.prepare "SELECT 1" [])), []),
    (.user () (.act () (.poll 1)), [.issued .closeQuery]),
    (.user () (.act () (.reply { outcome := .ready (.ok .unit) })),
      [.issued (PreparedStatement.prepareCall "SELECT 1" "")]),
    (.user () (.act () (.reply { outcome := .ready (.ok (.statement .finished)) })),
      [.issued .advanceToRows]),
    (.user () (.act () (.reply
      { outcome := .ready (.ok (.flag false)), returnValues := [.int 7] })),
      [.returned (.ok (.statement ⟨7, "SELECT 1", 0⟩))]),
    (.user () (.use () ⟨⟨7, "SELECT 1", 0⟩, (), 1⟩ (.unprepare ⟨7, "SELECT 1", 0⟩)), []),
    (.user () (.act () (.poll 2)), [.issued .closeQuery])]

theorem pool_handles_of_checkout_unprepare : ∃ p p',
    Pool.Runs manager .empty preparedCalled p ∧
      Pool.Step manager p (.user () (.act () (.reply { outcome := .ready (.ok .unit) })))
        [.issued (PreparedStatement.unprepareCall ⟨7, "SELECT 1", 0⟩)] p' ∧
      Pool.OfCheckout preparedCalled (.user () (.act () (.reply { outcome := .ready (.ok .unit) })))
        (PreparedStatement.unprepareCall ⟨7, "SELECT 1", 0⟩) := by
  have h : ∃ p p', Pool.Runs manager .empty preparedCalled p ∧
      Pool.Step manager p (.user () (.act () (.reply { outcome := .ready (.ok .unit) })))
        [.issued (PreparedStatement.unprepareCall ⟨7, "SELECT 1", 0⟩)] p' := by
    refine ⟨_, _, .cons (.create manager_creates (.connect rfl ⟨?_, ?_⟩))
      (.cons (.user rfl rfl (.call rfl rfl rfl)) (.cons (.user rfl rfl (.act rfl rfl ?_ rfl))
        (.cons (.user rfl rfl (.act rfl rfl ?_ rfl)) (.cons (.user rfl rfl (.act rfl rfl ?_ rfl))
          (.cons (.user rfl rfl (.act rfl rfl ?_ rfl))
            (.cons (.user rfl rfl (.use rfl rfl (show _ = [] ++ _ :: [] from rfl) rfl))
              (.cons (.user rfl rfl (.act rfl rfl ?_ rfl)) (.nil _)))))))),
      .user rfl rfl (.act rfl rfl ?_ rfl)⟩
    · rintro i p ⟨⟩
    · rintro k (hk | ⟨i, p, hp, -⟩)
      · cases hk
      · cases hp
    all_goals rintro token ⟨⟩
  obtain ⟨p, p', hr, hs⟩ := h
  exact ⟨p, p', hr, hs, Pool.pool_handles_of_checkout rfl hr hs (List.mem_singleton.mpr rfl) rfl⟩

/-- A borrower drops a query that waits for the driver. -/
def cancelled : Trace (PoolEvent Unit) Obs :=
  [(.create () client, []), (.user () (.call () (.simpleQuery "SELECT 1")), []),
    (.user () (.act () (.poll 1)), [.issued .closeQuery]),
    (.user () (.act () (.reply { outcome := .pending })), [])]

theorem pool_drops_dead_cancelled :
    ∃ p q p' m, Pool.Runs manager .empty cancelled p ∧ p.world.places () = some q ∧
      Pool.Step manager p (.user () (.act () .drop)) [] p' ∧ q.session.Killed .drop ∧
      Pool.Runs manager p' ([(.close (), [])] ++ (.create () client, []) :: []) m ∧
      ∃ os, (PoolEvent.close (), os) ∈ [((.close (), []) : PoolEvent Unit × List Obs)] := by
  have h : ∃ p q p' m, Pool.Runs manager .empty cancelled p ∧ p.world.places () = some q ∧
      Pool.Step manager p (.user () (.act () .drop)) [] p' ∧ q.session.Killed .drop ∧
      Pool.Runs manager p' ([(.close (), [])] ++ (.create () client, []) :: []) m := by
    refine ⟨_, _, _, _, .cons (.create manager_creates (.connect rfl ⟨?_, ?_⟩))
      (.cons (.user rfl rfl (.call rfl rfl rfl)) (.cons (.user rfl rfl (.act rfl rfl ?_ rfl))
        (.cons (.user rfl rfl (.act rfl rfl ?_ rfl)) (.nil _)))), rfl,
      .user rfl rfl (.act rfl rfl ?_ rfl), rfl,
      .cons (.close (.close rfl rfl)) (.cons (.create manager_creates (.connect rfl ⟨?_, ?_⟩))
        (.nil _))⟩
    · rintro i p ⟨⟩
    · rintro k (hk | ⟨i, p, hp, -⟩)
      · cases hk
      · cases hp
    · rintro token ⟨⟩
    · rintro token ⟨⟩
    · rintro token ⟨⟩
    · rintro i p ⟨⟩
    · rintro k (hk | ⟨i, p, hp, -⟩)
      · cases hk
      · cases hp
  obtain ⟨p, q, p', m, hr, hq, hs, hk, hafter⟩ := h
  exact ⟨p, q, p', m, hr, hq, hs, hk, hafter,
    Pool.pool_drops_dead hr hq hs (.inr hk) hafter rfl rfl⟩

end

end TiberiusBridge
