import TiberiusBridge.Lib.Runs

/-!
# Simulation

A transition system simulates another one when every step of the other, from
related states, is matched by a run of its own. Whole runs are then matched, and
what holds of the runs of the one holds of those of the other.
-/
namespace TiberiusBridge.Lib

universe u v w u' v' w'

variable {σ : Type u} {ε : Type v} {ω : Type w} {τ : Type u'} {δ : Type v'} {ο : Type w'}

/-- Each step of `T` is matched, from the states that `R` relates, by a run of `U` whose trace
`f` reads off the step. -/
def Simulates (T : σ → ε → List ω → σ → Prop) (U : τ → δ → List ο → τ → Prop) (R : σ → τ → Prop)
    (f : ε × List ω → Trace δ ο) : Prop :=
  ∀ s e os s' a, R s a → T s e os s' → ∃ a', Run U a (f (e, os)) a' ∧ R s' a'

variable {T : σ → ε → List ω → σ → Prop} {U : τ → δ → List ο → τ → Prop} {R : σ → τ → Prop}
  {f : ε × List ω → Trace δ ο} {s s' : σ} {a : τ} {t : Trace ε ω}

/-- Whole runs are matched. -/
theorem Simulates.run (h : Simulates T U R f) (hr : Run T s t s') (ha : R s a) :
    ∃ a', Run U a (t.flatMap f) a' ∧ R s' a' := by
  induction hr generalizing a with
  | nil s => exact ⟨a, .nil a, ha⟩
  | cons hs _ ih =>
    obtain ⟨m, hm, hrm⟩ := h _ _ _ _ _ ha hs
    obtain ⟨a', ha', hr'⟩ := ih hrm
    exact ⟨a', hm.append ha', hr'⟩

end TiberiusBridge.Lib
