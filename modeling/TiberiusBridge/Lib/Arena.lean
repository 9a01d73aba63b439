import TiberiusBridge.Lib.Runs

/-!
# Values behind handles

Values that are borrowed, cloned and consumed by the handle that owns them, and
cells that are filled once. What the values show is not changed by what they
keep for themselves, over any run of calls.
-/
namespace TiberiusBridge.Lib

universe u v w

/-- `OnceLock`. -/
structure OnceLock (β : Type u) where
  value : Option β

namespace OnceLock

variable {β : Type u} {cell : OnceLock β} {init : Unit → β}

def new : OnceLock β := { value := none }

def getOrInit (cell : OnceLock β) (init : Unit → β) : β × OnceLock β :=
  match cell.value with
  | some b => (b, cell)
  | none =>
    let b := init ()
    (b, { value := some b })

def intoInner (cell : OnceLock β) : Option β := cell.value

/-- Nothing else than `b` is in the cell. -/
def Caches (cell : OnceLock β) (b : β) : Prop := ∀ b', cell.value = some b' → b' = b

theorem new_caches (b : β) : (new : OnceLock β).Caches b := by
  intro b' h
  cases h

theorem getOrInit_caches (h : cell.Caches (init ())) :
    (cell.getOrInit init).1 = init () ∧ (cell.getOrInit init).2.value = some (init ()) := by
  unfold getOrInit
  cases hc : cell.value with
  | none => exact ⟨rfl, rfl⟩
  | some b =>
    have hb := h b hc
    exact ⟨hb, hc.trans (congrArg some hb)⟩

theorem intoInner_caches {b : β} (h : cell.Caches b) : cell.intoInner.getD b = b := by
  unfold intoInner
  cases hc : cell.value with
  | none => rfl
  | some b' => exact h b' hc

end OnceLock

/-- What a call shows, what it leaves behind its handle, and what it gives a new handle to. -/
structure Answer (ρ : Type u) (ο : Type w) where
  shown : ο
  kept : Option ρ
  made : Option ρ

variable {ρ : Type u} {ρ' : Type u} {κ : Type v} {ο : Type w}

namespace Answer

/-- The value was borrowed, and is left as `r`. -/
def borrows (shown : ο) (r : ρ) : Answer ρ ο := { shown, kept := some r, made := none }

def clones (shown : ο) (r : ρ) : Answer ρ ο := { shown, kept := some r, made := some r }

def consumes (shown : ο) : Answer ρ ο := { shown, kept := none, made := none }

def map (f : ρ → ρ') (a : Answer ρ ο) : Answer ρ' ο :=
  { shown := a.shown, kept := a.kept.map f, made := a.made.map f }

/-- What is left and what is made has `I`. -/
structure Leaves (I : ρ → Prop) (a : Answer ρ ο) : Prop where
  kept : ∀ r, a.kept = some r → I r
  made : ∀ r, a.made = some r → I r

variable {I : ρ → Prop} {r : ρ}

theorem leaves_borrows (shown : ο) (h : I r) : (borrows shown r).Leaves I := by
  constructor <;> intro r' hr' <;> cases hr'
  exact h

theorem leaves_clones (shown : ο) (h : I r) : (clones shown r).Leaves I := by
  constructor <;> intro r' hr' <;> cases hr' <;> exact h

theorem leaves_consumes (shown : ο) : (consumes shown).Leaves I := by
  constructor <;> intro r' hr' <;> cases hr'

end Answer

/-- The value of each handle, none where it was consumed. -/
abbrev Arena (ρ : Type u) := List (Option ρ)

namespace Arena

def map (f : ρ → ρ') (arena : Arena ρ) : Arena ρ' := List.map (Option.map f) arena

/-- A call needs a handle that still owns its value. -/
def step (call : ρ → κ → Answer ρ ο) (arena : Arena ρ) (e : Nat × κ) : Option (Arena ρ × List ο) :=
  match arena[e.1]? with
  | some (some r) =>
    let answer := call r e.2
    some (arena.set e.1 answer.kept ++ (answer.made.map some).toList, [answer.shown])
  | _ => none

def All (I : ρ → Prop) (arena : Arena ρ) : Prop := ∀ r, some r ∈ arena → I r

variable {call : ρ → κ → Answer ρ ο} {call' : ρ' → κ → Answer ρ' ο} {f : ρ → ρ'} {I : ρ → Prop}
  {arena arena' : Arena ρ} {e : Nat × κ} {os : List ο} {t : Trace (Nat × κ) ο}

theorem step_eq_some_iff {r : Arena ρ × List ο} : step call arena e = some r ↔
    ∃ v, arena[e.1]? = some (some v) ∧
      r = (arena.set e.1 (call v e.2).kept ++ ((call v e.2).made.map some).toList,
        [(call v e.2).shown]) := by
  unfold step
  constructor
  · intro h
    split at h
    · next v hv =>
      cases h
      exact ⟨v, hv, rfl⟩
    · cases h
  · rintro ⟨v, hv, rfl⟩
    rw [hv]

/-- What a call keeps and makes of a value with `I` has `I`. -/
theorem All.step (h : arena.All I)
    (hcall : ∀ r, I r → (call r e.2).Leaves I)
    (hs : ofStep (Arena.step call) arena e os arena') : arena'.All I := by
  obtain ⟨v, hv, heq⟩ := step_eq_some_iff.mp hs
  cases heq
  obtain ⟨hkept, hmade⟩ := hcall v (h v (List.mem_of_getElem? hv))
  intro r hr
  rcases List.mem_append.mp hr with hr | hr
  · rcases List.mem_or_eq_of_mem_set hr with hr | hr
    · exact h r hr
    · exact hkept r hr.symm
  · obtain ⟨r', hr', hsome⟩ := Option.map_eq_some_iff.mp (Option.mem_toList.mp hr)
    cases hsome
    exact hmade r hr'

theorem All.run (h : arena.All I)
    (hcall : ∀ l ∈ t, ∀ r, I r → (call r l.1.2).Leaves I)
    (hr : Run (ofStep (Arena.step call)) arena t arena') : arena'.All I := by
  induction hr with
  | nil => exact h
  | cons hs _ ih =>
    have hm := h.step (hcall _ List.mem_cons_self) hs
    exact ih hm fun l hl => hcall l (List.mem_cons_of_mem _ hl)

/-- A step of the values is a step of what they are mapped to, and shows the same. -/
theorem step_map (h : arena.All I)
    (hcall : ∀ r k, I r → call' (f r) k = (call r k).map f) :
    Arena.step call' (arena.map f) e =
      (Arena.step call arena e).map fun (arena', os) => (arena'.map f, os) := by
  unfold step map
  rw [List.getElem?_map]
  cases hv : arena[e.1]? with
  | none => rfl
  | some v =>
    cases v with
    | none => rfl
    | some v =>
      have hmap := hcall v e.2 (h v (List.mem_of_getElem? hv))
      simp only [Option.map_some, hmap, Answer.map]
      cases hmade : (call v e.2).made <;> simp [List.map_append, List.map_set]

/-- Runs of the values are the runs of what they are mapped to. -/
theorem run_map (h : arena.All I)
    (hleaves : ∀ r k, I r → (call r k).Leaves I)
    (hcall : ∀ r k, I r → call' (f r) k = (call r k).map f) (b : Arena ρ') :
    Run (ofStep (Arena.step call')) (arena.map f) t b ↔
      ∃ arena', Run (ofStep (Arena.step call)) arena t arena' ∧ arena'.map f = b := by
  induction t generalizing arena with
  | nil =>
    constructor
    · intro hr
      cases hr
      exact ⟨arena, .nil _, rfl⟩
    · rintro ⟨arena', hr, rfl⟩
      cases hr
      exact .nil _
  | cons l t ih =>
    have hmap := @step_map _ _ _ _ _ _ _ _ _ l.1 h hcall
    constructor
    · intro hr
      cases hr with
      | cons hs hr =>
        obtain ⟨⟨m, os⟩, hm, heq⟩ := Option.map_eq_some_iff.mp (hmap.symm.trans hs)
        cases heq
        obtain ⟨arena', hr', hb⟩ := (ih (h.step (fun r => hleaves r _) hm)).mp hr
        exact ⟨arena', .cons hm hr', hb⟩
    · rintro ⟨arena', hr, rfl⟩
      cases hr with
      | cons hs hr =>
        refine .cons ?_ ((ih (h.step (fun r => hleaves r _) hs)).mpr ⟨arena', hr, rfl⟩)
        exact hmap.trans (congrArg _ hs)

end Arena

end TiberiusBridge.Lib
