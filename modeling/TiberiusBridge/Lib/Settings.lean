import Mathlib.Data.List.Induction

/-!
# Settings

A builder is told its settings one call at a time, in any order and any number
of times. A setting keeps the last call about it or takes every one into
account, and calls about different settings do not see each other. Then only
what each setting was told matters.
-/
namespace TiberiusBridge.Lib

/-- Calls `γ` on a builder of type `σ`, each about one of the settings `κ`. -/
structure Settings (σ γ κ : Type) where
  apply : γ → σ → σ
  setting : γ → κ
  /-- The settings that take every call into account. -/
  accumulates : κ → Bool
  commutes : ∀ {c c' : γ} (s : σ), setting c ≠ setting c' →
    apply c (apply c' s) = apply c' (apply c s)
  overwrites : ∀ {c c' : γ} (s : σ), setting c = setting c' →
    accumulates (setting c) = false → apply c (apply c' s) = apply c s

namespace Settings

variable {σ γ κ : Type} (S : Settings σ γ κ)

def run (s : σ) (calls : List γ) : σ := calls.foldl (fun s c => S.apply c s) s

variable {S}

theorem run_append (s : σ) (calls calls' : List γ) :
    S.run s (calls ++ calls') = S.run (S.run s calls) calls' :=
  List.foldl_append

theorem run_snoc (s : σ) (calls : List γ) (c : γ) :
    S.run s (calls ++ [c]) = S.apply c (S.run s calls) :=
  S.run_append s calls [c]

/-- A call goes past the calls about other settings. -/
theorem apply_run {c : γ} {calls : List γ} (h : ∀ c' ∈ calls, S.setting c' ≠ S.setting c)
    (s : σ) : S.apply c (S.run s calls) = S.run (S.apply c s) calls := by
  induction calls generalizing s with
  | nil => rfl
  | cons c' calls ih =>
    have hcomm := S.commutes s (h c' List.mem_cons_self)
    calc S.apply c (S.run (S.apply c' s) calls)
        = S.run (S.apply c (S.apply c' s)) calls :=
          ih (fun c'' hc => h c'' (List.mem_cons_of_mem c' hc)) _
      _ = S.run (S.apply c' (S.apply c s)) calls := by rw [hcomm]

theorem run_move {c : γ} {before after : List γ}
    (h : ∀ c' ∈ after, S.setting c' ≠ S.setting c) (s : σ) :
    S.run s (before ++ c :: after) = S.apply c (S.run s (before ++ after)) := by
  rw [run_append, run_append, apply_run h]
  rfl

variable [DecidableEq κ]

/-- The calls about other settings. -/
def others (S : Settings σ γ κ) (k : κ) (calls : List γ) : List γ :=
  calls.filter fun c => S.setting c ≠ k

/-- What the calls tell a setting. -/
def told (S : Settings σ γ κ) (k : κ) (calls : List γ) : List γ :=
  let own := calls.filter fun c => S.setting c = k
  if S.accumulates k then own else own.getLast?.toList

/-- Of the calls that a last one overwrites, nothing is left. -/
theorem apply_others {c : γ} (h : S.accumulates (S.setting c) = false) (calls : List γ) (s : σ) :
    S.apply c (S.run s calls) = S.apply c (S.run s (S.others (S.setting c) calls)) := by
  induction calls using List.reverseRecOn with
  | nil => rfl
  | append_singleton calls c' ih =>
    rw [run_snoc, others, List.filter_append]
    by_cases hc : S.setting c = S.setting c'
    · rw [S.overwrites _ hc h, ih, List.filter_cons_of_neg (by simp [hc]), List.filter_nil,
        List.append_nil]
      rfl
    · rw [S.commutes _ hc, ih, ← S.commutes _ hc,
        List.filter_cons_of_pos (by simpa using Ne.symm hc), List.filter_nil, run_snoc]
      rfl

section told

variable {k : κ} {c : γ} {calls calls' : List γ}

theorem told_append_others (h : ∀ c ∈ calls', S.setting c ≠ k) :
    S.told k (calls ++ calls') = S.told k calls := by
  have hnone : calls'.filter (fun c => S.setting c = k) = [] :=
    List.filter_eq_nil_iff.mpr fun c hc => by simpa using h c hc
  rw [told, told, List.filter_append, hnone, List.append_nil]

theorem told_snoc_ne (h : S.setting c ≠ k) : S.told k (calls ++ [c]) = S.told k calls :=
  told_append_others fun c' hc => by rwa [List.mem_singleton.mp hc]

theorem told_insert_ne (h : S.setting c ≠ k) :
    S.told k (calls ++ c :: calls') = S.told k (calls ++ calls') := by
  rw [told, told, List.filter_append, List.filter_append,
    List.filter_cons_of_neg (by simpa using h)]

theorem told_snoc_self (c : γ) (calls : List γ) : S.told (S.setting c) (calls ++ [c]) =
    if S.accumulates (S.setting c) then S.told (S.setting c) calls ++ [c] else [c] := by
  rw [told, List.filter_append, List.filter_cons_of_pos (by simp), List.filter_nil]
  split
  · next h => rw [told, if_pos h]
  · rw [List.getLast?_concat]
    rfl

theorem told_others_self (S : Settings σ γ κ) (k : κ) (calls : List γ) :
    S.told k (S.others k calls) = [] := by
  have hnone : (S.others k calls).filter (fun c => S.setting c = k) = [] :=
    List.filter_eq_nil_iff.mpr fun c hc => by simpa [others] using (List.mem_filter.mp hc).2
  rw [told, hnone]
  cases S.accumulates k <;> rfl

theorem told_others_ne {k' : κ} (h : k' ≠ k) (calls : List γ) :
    S.told k' (S.others k calls) = S.told k' calls := by
  have hsame : (S.others k calls).filter (fun c => S.setting c = k') =
      calls.filter fun c => S.setting c = k' := by
    rw [others, List.filter_filter]
    refine List.filter_congr fun c _ => ?_
    by_cases hc : S.setting c = k'
    · simp [hc, h]
    · simp [hc]
  rw [told, told, hsame]

/-- Where the last call about a setting stands. -/
theorem told_split (h : c ∈ (S.told k calls).getLast?) : ∃ before after,
    calls = before ++ c :: after ∧ S.setting c = k ∧ (∀ c' ∈ after, S.setting c' ≠ k) ∧
      (S.accumulates k → S.told k calls = S.told k before ++ [c]) := by
  have hlast : c ∈ (calls.filter fun c => S.setting c = k).getLast? := by
    rw [told] at h
    split at h
    · exact h
    · cases hown : (calls.filter fun c => S.setting c = k).getLast? with
      | none => rw [hown] at h; cases h
      | some c' => rw [hown] at h; exact h
  obtain ⟨own, hown⟩ := List.getLast?_eq_some_iff.mp hlast
  obtain ⟨first, second, rfl, hfirst, hsecond⟩ := List.filter_eq_append_iff.mp hown
  obtain ⟨between, after, rfl, hbetween, hc, hafter⟩ := List.filter_eq_cons_iff.mp hsecond
  have hk : S.setting c = k := by simpa using hc
  refine ⟨first ++ between, after, by simp, hk, ?_, ?_⟩
  · intro c' hc'
    simpa using List.filter_eq_nil_iff.mp hafter c' hc'
  · intro hacc
    have hnone : between.filter (fun c => S.setting c = k) = [] :=
      List.filter_eq_nil_iff.mpr fun c' hc' => by simpa using hbetween c' hc'
    rw [told, told, if_pos hacc, if_pos hacc, hown, List.filter_append, hfirst, hnone,
      List.append_nil]

theorem told_nonempty (h : c ∈ calls) : S.told (S.setting c) calls ≠ [] := by
  have hown : calls.filter (fun c' => S.setting c' = S.setting c) ≠ [] :=
    List.ne_nil_of_mem (List.mem_filter.mpr ⟨h, by simp⟩)
  rw [told]
  split
  · exact hown
  · rw [List.getLast?_eq_some_getLast hown]
    exact List.cons_ne_nil _ _

end told

/-- Calls that tell every setting the same build the same. -/
theorem run_told {calls calls' : List γ} (h : ∀ k, S.told k calls = S.told k calls') (s : σ) :
    S.run s calls = S.run s calls' := by
  -- the last call goes, and with it its setting's other calls where it overwrites them
  induction hn : calls.length using Nat.strongRecOn generalizing calls calls' with
  | _ n ih =>
    rcases List.eq_nil_or_concat calls with rfl | ⟨init, c, rfl⟩
    · cases calls' with
      | nil => rfl
      | cons c' calls' =>
        have hnil : S.told (S.setting c') [] = [] := S.told_others_self (S.setting c') []
        exact absurd ((h _).symm.trans hnil) (told_nonempty List.mem_cons_self)
    · rw [List.concat_eq_append] at h hn ⊢
      rw [List.length_append, List.length_singleton] at hn
      have hself := told_snoc_self (S := S) c init
      have hlast : c ∈ (S.told (S.setting c) calls').getLast? := by
        rw [← h, hself]
        split
        · exact List.getLast?_concat
        · rfl
      obtain ⟨before, after, rfl, -, hafter, hacc⟩ := told_split hlast
      have hother : ∀ k, k ≠ S.setting c → S.told k init = S.told k (before ++ after) := by
        intro k hk
        have hk' := h k
        rwa [told_snoc_ne hk.symm, told_insert_ne hk.symm] at hk'
      rw [run_snoc, run_move hafter]
      by_cases hc : S.accumulates (S.setting c)
      · refine congrArg _ (ih init.length (by omega) (fun k => ?_) rfl)
        by_cases hk : k = S.setting c
        · have hsame := hself.symm.trans ((h _).trans (hacc hc))
          rw [if_pos hc] at hsame
          rw [hk, List.append_cancel_right hsame, told_append_others hafter]
        · exact hother k hk
      · rw [Bool.not_eq_true] at hc
        rw [apply_others hc init, apply_others hc (before ++ after)]
        have hshort : (S.others (S.setting c) init).length ≤ init.length :=
          List.length_filter_le _ _
        refine congrArg _ (ih _ (by omega) (fun k => ?_) rfl)
        by_cases hk : k = S.setting c
        · rw [hk, told_others_self, told_others_self]
        · rw [told_others_ne hk, told_others_ne hk, hother k hk]

end Settings

end TiberiusBridge.Lib
