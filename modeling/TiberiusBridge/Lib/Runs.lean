import Mathlib.Logic.Basic

/-!
# Runs of a labelled transition system

A step consumes an event and shows a list of observations. A run records both,
step by step, so that what happened between two states can be read off its
trace.
-/
namespace TiberiusBridge.Lib

universe u v w

variable {σ : Type u} {ε : Type v} {ω : Type w}

/-- The events of a run, each with what its step showed. -/
abbrev Trace (ε : Type v) (ω : Type w) := List (ε × List ω)

def Trace.observed (t : Trace ε ω) : List ω := t.flatMap Prod.snd

/-- The transitions of a partial step function. -/
def ofStep (step : σ → ε → Option (σ × List ω)) (s : σ) (e : ε) (os : List ω) (s' : σ) : Prop :=
  step s e = some (s', os)

inductive Run (T : σ → ε → List ω → σ → Prop) : σ → Trace ε ω → σ → Prop
  | nil (s : σ) : Run T s [] s
  | cons {s s' s'' : σ} {e : ε} {os : List ω} {t : Trace ε ω} :
      T s e os s' → Run T s' t s'' → Run T s ((e, os) :: t) s''

variable {T : σ → ε → List ω → σ → Prop} {s s' s'' : σ} {e : ε} {os : List ω} {t t' : Trace ε ω}

@[simp] theorem Trace.observed_nil : Trace.observed ([] : Trace ε ω) = [] := rfl

@[simp] theorem Trace.observed_cons (l : ε × List ω) (t : Trace ε ω) :
    Trace.observed (l :: t) = l.2 ++ t.observed := rfl

@[simp] theorem Trace.observed_append (t t' : Trace ε ω) :
    Trace.observed (t ++ t') = t.observed ++ t'.observed := List.flatMap_append

namespace Run

theorem single (h : T s e os s') : Run T s [(e, os)] s' := .cons h (.nil _)

theorem append (h : Run T s t s') (h' : Run T s' t' s'') : Run T s (t ++ t') s'' := by
  induction h with
  | nil => exact h'
  | cons hs _ ih => exact .cons hs (ih h')

theorem snoc (h : Run T s t s') (hs : T s' e os s'') : Run T s (t ++ [(e, os)]) s'' :=
  h.append (.single hs)

/-- A run passes through a state between two parts of its trace. -/
theorem split (h : Run T s (t ++ t') s') : ∃ m, Run T s t m ∧ Run T m t' s' := by
  induction t generalizing s with
  | nil => exact ⟨s, .nil s, h⟩
  | cons l t ih =>
    cases h with
    | cons hs h =>
      obtain ⟨m, hm, hm'⟩ := ih h
      exact ⟨m, .cons hs hm, hm'⟩

/-- What every step preserves holds at the end of a run. -/
theorem invariant {I : σ → Prop} (hstep : ∀ s e os s', I s → T s e os s' → I s')
    (h : Run T s t s') (hi : I s) : I s' := by
  induction h with
  | nil => exact hi
  | cons hs _ ih => exact ih (hstep _ _ _ _ hi hs)

/-- An invariant that relates the state to the trace that led to it. -/
theorem history {I : Trace ε ω → σ → Prop}
    (hstep : ∀ t s e os s', I t s → T s e os s' → I (t ++ [(e, os)]) s')
    (h : Run T s t s') (hi : I [] s) : I t s' := by
  suffices ∀ p, I p s → I (p ++ t) s' from this [] hi
  clear hi
  induction h with
  | nil => intro p hp; rwa [List.append_nil]
  | cons hs _ ih =>
    intro p hp
    have := ih _ (hstep _ _ _ _ _ hp hs)
    rwa [List.append_assoc] at this

/-- A property that a step sets exactly when it has a cause is set at the end of a run exactly
when it was set at the start or some step of the run had a cause. -/
theorem latch {I F : σ → Prop} {cause : σ → ε → Prop}
    (hstep : ∀ s e os s', I s → T s e os s' → I s' ∧ (F s' ↔ F s ∨ cause s e))
    (h : Run T s t s') (hi : I s) :
    F s' ↔ F s ∨
      ∃ p e os q m, t = p ++ (e, os) :: q ∧ Run T s p m ∧ Run T m ((e, os) :: q) s' ∧ cause m e := by
  have persists : ∀ {s t s'}, Run T s t s' → I s → F s → F s' := fun h hi hf =>
    (h.invariant (I := fun s => I s ∧ F s)
      (fun s e os s' ⟨hi, hf⟩ hs =>
        ⟨(hstep s e os s' hi hs).1, (hstep s e os s' hi hs).2.mpr (.inl hf)⟩) ⟨hi, hf⟩).2
  constructor
  · intro hf
    induction h with
    | nil => exact .inl hf
    | @cons s m s' e os t hs hr ih =>
      obtain ⟨hi', hm⟩ := hstep _ _ _ _ hi hs
      rcases ih hi' hf with hf | ⟨p, e', os', q, m', rfl, hp, hq, hc⟩
      · rcases hm.mp hf with hf | hc
        · exact .inl hf
        · exact .inr ⟨[], e, os, t, s, rfl, .nil s, .cons hs hr, hc⟩
      · exact .inr ⟨(e, os) :: p, e', os', q, m', rfl, .cons hs hp, hq, hc⟩
  · rintro (hf | ⟨p, e, os, q, m, rfl, hp, hq, hc⟩)
    · exact persists h hi hf
    · have him : I m := hp.invariant (fun s e os s' hi hs => (hstep s e os s' hi hs).1) hi
      cases hq with
      | cons hs hq =>
        obtain ⟨hi', hm⟩ := hstep _ _ _ _ him hs
        exact persists hq hi' (hm.mpr (.inr hc))

end Run

end TiberiusBridge.Lib
