/-!
# The first of equal keys

The first position of a list at which a property holds, and an index built by a
loop that keeps the entry a key already has: it holds for each key the first
position of that key.
-/
namespace TiberiusBridge.Lib

universe u v

variable {α : Type u} {κ : Type v}

/-- `i` is the first position at which `p` holds. -/
structure IsFirst (p : α → Prop) (l : List α) (i : Nat) : Prop where
  holds : ∃ a, l[i]? = some a ∧ p a
  before : ∀ j < i, ∀ a, l[j]? = some a → ¬p a

theorem IsFirst.lt {p : α → Prop} {l : List α} {i : Nat} (h : IsFirst p l i) : i < l.length := by
  obtain ⟨a, ha, -⟩ := h.holds
  exact (List.getElem?_eq_some_iff.mp ha).1

theorem findIdx?_eq_some_iff_isFirst {p : α → Prop} [DecidablePred p] {l : List α} {i : Nat} :
    l.findIdx? (decide <| p ·) = some i ↔ IsFirst p l i := by
  rw [List.findIdx?_eq_some_iff_getElem]
  constructor
  · intro h
    obtain ⟨hlt, hp, hbefore⟩ := h
    refine ⟨⟨l[i], List.getElem?_eq_getElem hlt, of_decide_eq_true hp⟩, ?_⟩
    intro j hj a ha hpa
    obtain ⟨hjl, rfl⟩ := List.getElem?_eq_some_iff.mp ha
    exact hbefore j hj (decide_eq_true hpa)
  · intro h
    obtain ⟨a, ha, hpa⟩ := h.holds
    obtain ⟨hlt, rfl⟩ := List.getElem?_eq_some_iff.mp ha
    refine ⟨hlt, decide_eq_true hpa, ?_⟩
    intro j hj hpj
    have hjl : j < l.length := Nat.lt_trans hj hlt
    exact h.before j hj _ (List.getElem?_eq_getElem hjl) (of_decide_eq_true hpj)

theorem IsFirst.find? {p : α → Prop} [DecidablePred p] {l : List α} {i : Nat} {a : α}
    (h : IsFirst p l i) (ha : l[i]? = some a) : l.find? (decide <| p ·) = some a := by
  obtain ⟨a', ha', hp⟩ := h.holds
  cases ha.symm.trans ha'
  obtain ⟨hlt, hget⟩ := List.getElem?_eq_some_iff.mp ha
  rw [List.find?_eq_some_iff_getElem]
  refine ⟨decide_eq_true hp, i, hlt, hget, ?_⟩
  intro j hj
  rw [Bool.not_eq_true', decide_eq_false_iff_not]
  exact h.before j hj _ (List.getElem?_eq_getElem (Nat.lt_trans hj hlt))

section

variable [BEq κ]

/-- Add an entry for a key, unless it has one. -/
def insertFirst (m : List (κ × Nat)) (key : κ) (i : Nat) : List (κ × Nat) :=
  if (m.lookup key).isSome then m else m ++ [(key, i)]

variable [LawfulBEq κ]

theorem lookup_insertFirst (m : List (κ × Nat)) (key key' : κ) (i : Nat) :
    (insertFirst m key i).lookup key' =
      (m.lookup key').or (if key' == key then some i else none) := by
  unfold insertFirst
  cases h : m.lookup key with
  | some j =>
    rw [Option.isSome_some, if_pos rfl]
    by_cases heq : key' = key
    · rw [heq, h]
      rfl
    · rw [beq_false_of_ne heq]
      cases m.lookup key' <;> rfl
  | none =>
    rw [Option.isSome_none, if_neg Bool.false_ne_true, List.lookup_append, List.lookup_cons]
    cases key' == key <;> rfl

/-- The loop adds the keys of a list in order, each at its position. -/
theorem lookup_foldl_insertFirst (f : α → κ) (l : List α) (start : Nat) (m : List (κ × Nat))
    (key : κ) :
    ((l.zipIdx start).foldl (fun m (a, i) => insertFirst m (f a) i) m).lookup key =
      (m.lookup key).or ((l.findIdx? (key == f ·)).map (start + ·)) := by
  induction l generalizing start m with
  | nil => cases h : m.lookup key <;> simp [h]
  | cons a l ih =>
    rw [List.zipIdx_cons, List.foldl_cons, ih, lookup_insertFirst, List.findIdx?_cons]
    cases m.lookup key with
    | some j => rfl
    | none =>
      cases key == f a with
      | true => rfl
      | false =>
        have hshift : (fun i => start + 1 + i) = fun i => start + (i + 1) := by
          funext i
          omega
        simp only [Option.none_or, Bool.false_eq_true, if_false, Option.map_map, hshift]
        rfl

end

end TiberiusBridge.Lib
