import Mathlib.Data.List.Basic

/-!
# Iterators that are pulled one item at a time

An iterator is its `next`, which may fail. It streams a list if every pull takes
the head of what is left, and past the end nothing but the end is answered.
-/
namespace TiberiusBridge.Lib

variable {ε σ ω α : Type}

/-- `k` pulls in a row. -/
def pulls (next : σ → Except ε (ω × σ)) : Nat → σ → Except ε (List ω × σ)
  | 0, s => .ok ([], s)
  | k + 1, s =>
    match next s with
    | .error e => .error e
    | .ok (o, s) => (pulls next k s).map fun (os, s) => (o :: os, s)

theorem pulls_succ {next : σ → Except ε (ω × σ)} {k : Nat} {s s' s'' : σ} {o : ω} {os : List ω}
    (h : next s = .ok (o, s')) (hs : pulls next k s' = .ok (os, s'')) :
    pulls next (k + 1) s = .ok (o :: os, s'') := by
  rw [pulls, h]
  dsimp only
  rw [hs]
  rfl

/-- Where `Rest s l`, the items of `l` are left in the state `s`. -/
structure Streams (next : σ → Except ε (ω × σ)) (item : α → ω) (finished : ω)
    (Rest : σ → List α → Prop) : Prop where
  pull_cons : ∀ s a l, Rest s (a :: l) → ∃ s', next s = .ok (item a, s') ∧ Rest s' l
  pull_nil : ∀ s, Rest s [] → ∃ s', next s = .ok (finished, s') ∧ Rest s' []

/-- The items in order, each once, and then the end for as long as it is asked. -/
theorem Streams.pulls {next : σ → Except ε (ω × σ)} {item : α → ω} {finished : ω}
    {Rest : σ → List α → Prop} (h : Streams next item finished Rest) (k : Nat) {s : σ}
    {l : List α} (hs : Rest s l) :
    ∃ s', pulls next k s =
        .ok ((l.take k).map item ++ List.replicate (k - l.length) finished, s') ∧
      Rest s' (l.drop k) := by
  induction k generalizing s l with
  | zero => exact ⟨s, by simp [Lib.pulls], hs⟩
  | succ k ih =>
    cases l with
    | cons a l =>
      obtain ⟨m, hnext, hm⟩ := h.pull_cons s a l hs
      obtain ⟨s', hpulls, hs'⟩ := ih hm
      refine ⟨s', ?_, hs'⟩
      rw [pulls_succ hnext hpulls, List.take_succ_cons, List.map_cons, List.length_cons,
        Nat.add_sub_add_right, List.cons_append]
    | nil =>
      obtain ⟨m, hnext, hm⟩ := h.pull_nil s hs
      obtain ⟨s', hpulls, hs'⟩ := ih hm
      refine ⟨s', ?_, by rwa [List.drop_nil] at hs' ⊢⟩
      rw [pulls_succ hnext hpulls, List.take_nil, List.take_nil]
      rfl

end TiberiusBridge.Lib
