import Mathlib.Data.Int.Basic
import Mathlib.Data.List.Forall2
import Mathlib.Tactic.Ring

/-!
# Computations on machine integers that may panic

A computation either returns or panics: on an overflowing operation, or at an
`expect`. Truncating casts never panic; they reduce modulo the width.
-/
namespace TiberiusBridge.Lib

inductive Panic
  | overflow
  | expect (message : String)
  deriving DecidableEq, Repr

abbrev Compute (α : Type) := Except Panic α

namespace Compute

/-- The computation returns a value of which `P` holds. -/
def Returns {α : Type} (c : Compute α) (P : α → Prop) : Prop := ∃ a, c = .ok a ∧ P a

theorem bind_ok {ε α β : Type} {c : Except ε α} {f : α → Except ε β} {b : β}
    (h : c >>= f = .ok b) : ∃ a, c = .ok a ∧ f a = .ok b := by
  cases c with
  | error p => cases h
  | ok a => exact ⟨a, rfl, h⟩

-- in parentheses, so that a rewrite by it is not checked by evaluating the whole computation
@[simp] theorem ok_bind {ε α β : Type} (a : α) (f : α → Except ε β) :
    ((Except.ok a : Except ε α) >>= f) = f a := (rfl)

@[simp] theorem error_bind {α β : Type} (p : Panic) (f : α → Compute β) :
    ((Except.error p : Compute α) >>= f) = .error p := rfl

@[simp] theorem pure_eq {α : Type} (a : α) : (pure a : Compute α) = .ok a := rfl

/-- The computation panics as given, or else returns a value of which `P` holds. -/
def Settles {α : Type} (c : Compute α) (panics : Option Panic) (P : α → Prop) : Prop :=
  match panics with
  | some p => c = .error p
  | none => c.Returns P

theorem Settles.imp {α : Type} {c : Compute α} {panics : Option Panic} {P Q : α → Prop}
    (h : c.Settles panics P) (himp : ∀ a, P a → Q a) : c.Settles panics Q := by
  cases panics with
  | some p => exact h
  | none =>
    obtain ⟨a, hc, ha⟩ := h
    exact ⟨a, hc, himp a ha⟩

/-- What is done with the value does not panic. -/
theorem Settles.bind {α β : Type} {c : Compute α} {panics : Option Panic} {P : α → Prop}
    {Q : β → Prop} {f : α → Compute β} (h : c.Settles panics P)
    (hf : ∀ a, P a → (f a).Returns Q) : (c >>= f).Settles panics Q := by
  cases panics with
  | some p =>
    rw [show c = .error p from h]
    exact error_bind p f
  | none =>
    obtain ⟨a, rfl, ha⟩ := h
    rw [ok_bind]
    exact hf a ha

/-- `Option::expect`. -/
def expect {α : Type} (message : String) : Option α → Compute α
  | some a => .ok a
  | none => .error (.expect message)

@[simp] theorem expect_some {α : Type} (message : String) (a : α) :
    expect message (some a) = .ok a := rfl

end Compute

/-- Unsigned multiplication in `w` bits, checked as in a debug build. -/
def mulUnsigned (w a b : Nat) : Compute Nat :=
  if a * b < 2 ^ w then .ok (a * b) else .error .overflow

/-- Signed addition in `w` bits, checked as in a debug build. -/
def addSigned (w : Nat) (a b : Int) : Compute Int :=
  if -2 ^ (w - 1) ≤ a + b ∧ a + b < 2 ^ (w - 1) then .ok (a + b) else .error .overflow

def addUnsigned (w a b : Nat) : Compute Nat :=
  if a + b < 2 ^ w then .ok (a + b) else .error .overflow

def subUnsigned (a b : Nat) : Compute Nat :=
  if b ≤ a then .ok (a - b) else .error .overflow

def subSigned (w : Nat) (a b : Int) : Compute Int := addSigned w a (-b)

def mulSigned (w : Nat) (a b : Int) : Compute Int :=
  if -2 ^ (w - 1) ≤ a * b ∧ a * b < 2 ^ (w - 1) then .ok (a * b) else .error .overflow

def saturatingMulSigned (w : Nat) (a b : Int) : Int :=
  max (-2 ^ (w - 1)) (min (2 ^ (w - 1) - 1) (a * b))

def checkedAddSigned (w : Nat) (a b : Int) : Option Int := (addSigned w a b).toOption

def checkedMulUnsigned (w a b : Nat) : Option Nat := (mulUnsigned w a b).toOption

/-- `try_from` into an unsigned type of `w` bits. -/
def tryUnsigned (w : Nat) (n : Int) : Option Nat :=
  if 0 ≤ n ∧ n < 2 ^ w then some n.toNat else none

/-- `as` into an unsigned type of `w` bits. -/
def asUnsigned (w n : Nat) : Nat := n % 2 ^ w

/-- `as` into a signed type of `w` bits. -/
def asSigned (w : Nat) (n : Int) : Int := n.bmod (2 ^ w)

theorem mulUnsigned_ok {w a b : Nat} (h : a * b < 2 ^ w) : mulUnsigned w a b = .ok (a * b) :=
  if_pos h

theorem addSigned_ok {w : Nat} {a b : Int}
    (h : -2 ^ (w - 1) ≤ a + b ∧ a + b < 2 ^ (w - 1)) : addSigned w a b = .ok (a + b) :=
  if_pos h

theorem addUnsigned_ok {w a b : Nat} (h : a + b < 2 ^ w) : addUnsigned w a b = .ok (a + b) :=
  if_pos h

theorem subUnsigned_ok {a b : Nat} (h : b ≤ a) : subUnsigned a b = .ok (a - b) := if_pos h

theorem subSigned_ok {w : Nat} {a b : Int}
    (h : -2 ^ (w - 1) ≤ a - b ∧ a - b < 2 ^ (w - 1)) : subSigned w a b = .ok (a - b) :=
  addSigned_ok h

theorem mulSigned_ok {w : Nat} {a b : Int}
    (h : -2 ^ (w - 1) ≤ a * b ∧ a * b < 2 ^ (w - 1)) : mulSigned w a b = .ok (a * b) :=
  if_pos h

theorem saturatingMulSigned_eq {w : Nat} {a b : Int}
    (h : -2 ^ (w - 1) ≤ a * b ∧ a * b < 2 ^ (w - 1)) : saturatingMulSigned w a b = a * b := by
  unfold saturatingMulSigned
  omega

/-- Division is monotone, so it commutes with the saturation. -/
theorem saturatingMulSigned_ediv {w : Nat} {a b d : Int} (hd : 0 < d) :
    saturatingMulSigned w a b / d =
      max (-2 ^ (w - 1) / d) (min ((2 ^ (w - 1) - 1) / d) (a * b / d)) := by
  have hmono : Monotone fun n : Int => n / d := fun _ _ h => Int.ediv_le_ediv hd h
  calc saturatingMulSigned w a b / d
      = max (-2 ^ (w - 1) / d) (min (2 ^ (w - 1) - 1) (a * b) / d) := hmono.map_max
    _ = _ := by rw [show min (2 ^ (w - 1) - 1) (a * b) / d = _ from hmono.map_min]

theorem saturatingMulSigned_eq_iff {w : Nat} {a b c d : Int} :
    saturatingMulSigned w a b = saturatingMulSigned w c d ↔
      a * b = c * d ∨ (2 ^ (w - 1) - 1 ≤ a * b ∧ 2 ^ (w - 1) - 1 ≤ c * d) ∨
        (a * b ≤ -2 ^ (w - 1) ∧ c * d ≤ -2 ^ (w - 1)) := by
  have hpos : (0 : Int) < 2 ^ (w - 1) := Int.pow_pos (by decide)
  unfold saturatingMulSigned
  omega

theorem tryUnsigned_some {w : Nat} {n : Int} (h : 0 ≤ n ∧ n < 2 ^ w) :
    tryUnsigned w n = some n.toNat := if_pos h

theorem tryUnsigned_eq_some {w m : Nat} {n : Int} (h : tryUnsigned w n = some m) :
    0 ≤ n ∧ n < 2 ^ w ∧ n = m := by
  unfold tryUnsigned at h
  split at h
  · cases h
    omega
  · cases h

theorem checkedAddSigned_some {w : Nat} {a b : Int}
    (h : -2 ^ (w - 1) ≤ a + b ∧ a + b < 2 ^ (w - 1)) :
    checkedAddSigned w a b = some (a + b) := by
  rw [checkedAddSigned, addSigned_ok h]
  rfl

theorem checkedAddSigned_eq_some {w : Nat} {a b c : Int} (h : checkedAddSigned w a b = some c) :
    c = a + b := by
  unfold checkedAddSigned addSigned at h
  split at h <;> cases h
  rfl

theorem checkedMulUnsigned_some {w a b : Nat} (h : a * b < 2 ^ w) :
    checkedMulUnsigned w a b = some (a * b) := by
  rw [checkedMulUnsigned, mulUnsigned_ok h]
  rfl

theorem checkedMulUnsigned_eq_some {w a b c : Nat} (h : checkedMulUnsigned w a b = some c) :
    c = a * b := by
  unfold checkedMulUnsigned mulUnsigned at h
  split at h <;> cases h
  rfl

theorem asUnsigned_of_lt {w n : Nat} (h : n < 2 ^ w) : asUnsigned w n = n :=
  Nat.mod_eq_of_lt h

theorem asSigned_of_range {w : Nat} {n : Int} (hl : -2 ^ w ≤ n) (hu : n < 2 ^ w) :
    asSigned (w + 1) n = n := by
  have hp : ((2 ^ (w + 1) : Nat) : Int) = 2 * 2 ^ w := by push_cast; ring
  apply Int.bmod_eq_of_le_mul_two <;> rw [hp] <;> omega

theorem asSigned_range (w : Nat) (n : Int) :
    -2 ^ w ≤ asSigned (w + 1) n ∧ asSigned (w + 1) n < 2 ^ w := by
  have hp : ((2 ^ (w + 1) : Nat) : Int) = 2 * 2 ^ w := by push_cast; ring
  have hl := Int.le_bmod (x := n) (m := 2 ^ (w + 1)) (Nat.two_pow_pos _)
  have hu := Int.bmod_lt (x := n) (m := 2 ^ (w + 1)) (Nat.two_pow_pos _)
  rw [hp] at hl hu
  unfold asSigned
  omega

/-- A list mapped from position `i` on. -/
theorem mapIdx_from_cons {α β : Type} (f : Nat → α → β) (i : Nat) (x : α) (xs : List α) :
    (x :: xs).mapIdx (fun j y => f (i + j) y) = f i x :: xs.mapIdx fun j y => f (i + 1 + j) y := by
  have hshift : (fun j y => f (i + (j + 1)) y) = fun j y => f (i + 1 + j) y := by
    funext j y
    rw [Nat.add_right_comm, Nat.add_assoc]
  rw [List.mapIdx_cons, hshift]
  rfl

section

variable {ε α β : Type}

/-- The error of a computation that failed. -/
def errorOf : Except ε α → Option ε
  | .ok _ => none
  | .error e => some e

/-- A traversal fails with its first failure. -/
theorem mapM_error_iff {f : α → Except ε β} {xs : List α} {e : ε} :
    xs.mapM f = .error e ↔ xs.findSome? (fun x => errorOf (f x)) = some e := by
  induction xs with
  | nil => exact ⟨fun h => (by cases h), fun h => (by cases h)⟩
  | cons x xs ih =>
    rw [List.mapM_cons, List.findSome?_cons]
    cases hx : f x with
    | error e' =>
      show Except.error e' = Except.error e ↔ some e' = some e
      rw [Except.error.injEq, Option.some.injEq]
    | ok b =>
      refine Iff.trans ?_ ih
      show (xs.mapM f >>= fun bs => pure (b :: bs)) = Except.error e ↔ _
      cases xs.mapM f with
      | error e' => rfl
      | ok bs => exact ⟨fun h => (by cases h), fun h => (by cases h)⟩

theorem Compute.Settles.errorOf {α : Type} {c : Compute α} {panics : Option Panic} {P : α → Prop}
    (h : c.Settles panics P) : errorOf c = panics := by
  cases panics with
  | some p => rw [show c = .error p from h, Lib.errorOf]
  | none =>
    obtain ⟨a, rfl, -⟩ := h
    rfl

theorem errorOf_map (h : α → β) (c : Except ε α) : errorOf (c.map h) = errorOf c := by
  cases c <;> rfl

/-- The results are mapped after the traversal or within it. -/
theorem mapM_map_result {γ : Type} {f : α → Except ε β} (h : β → γ) (xs : List α) :
    (xs.mapM fun x => (f x).map h) = (xs.mapM f).map (List.map h) := by
  induction xs with
  | nil => rfl
  | cons x xs ih =>
    rw [List.mapM_cons, List.mapM_cons, ih]
    cases f x with
    | error e => rfl
    | ok b => cases xs.mapM f <;> rfl

theorem mapM_congr {f g : α → Except ε β} {xs : List α} (h : ∀ x ∈ xs, f x = g x) :
    xs.mapM f = xs.mapM g := by
  induction xs with
  | nil => rfl
  | cons x xs ih =>
    rw [List.mapM_cons, List.mapM_cons, h x List.mem_cons_self,
      ih fun y hy => h y (List.mem_cons_of_mem _ hy)]

/-- Traversals with one result agree on every element. -/
theorem eq_of_mapM_ok {f g : α → Except ε β} {xs : List α} {bs : List β}
    (hf : xs.mapM f = .ok bs) (hg : xs.mapM g = .ok bs) : ∀ x ∈ xs, f x = g x := by
  induction xs generalizing bs with
  | nil => exact fun x hx => absurd hx List.not_mem_nil
  | cons x xs ih =>
    rw [List.mapM_cons] at hf hg
    obtain ⟨b, hfx, hf⟩ := Compute.bind_ok hf
    obtain ⟨bs', hfs, hf⟩ := Compute.bind_ok hf
    obtain ⟨b', hgx, hg⟩ := Compute.bind_ok hg
    obtain ⟨bs'', hgs, hg⟩ := Compute.bind_ok hg
    cases hf
    cases hg
    intro y hy
    rcases List.mem_cons.mp hy with rfl | hy
    · rw [hfx, hgx]
    · exact ih hfs hgs y hy

theorem mapM_ok_length {f : α → Except ε β} {xs : List α} {bs : List β}
    (h : xs.mapM f = .ok bs) : bs.length = xs.length := by
  induction xs generalizing bs with
  | nil =>
    cases h
    rfl
  | cons x xs ih =>
    rw [List.mapM_cons] at h
    obtain ⟨b, -, h⟩ := Compute.bind_ok h
    obtain ⟨bs', hbs, h⟩ := Compute.bind_ok h
    cases h
    rw [List.length_cons, List.length_cons, ih hbs]

theorem mapM_ok_mem {f : α → Except ε β} {xs : List α} {bs : List β}
    (h : xs.mapM f = .ok bs) : ∀ b ∈ bs, ∃ x ∈ xs, f x = .ok b := by
  induction xs generalizing bs with
  | nil =>
    cases h
    exact fun b hb => absurd hb List.not_mem_nil
  | cons x xs ih =>
    rw [List.mapM_cons] at h
    obtain ⟨b, hb, h⟩ := Compute.bind_ok h
    obtain ⟨bs', hbs, h⟩ := Compute.bind_ok h
    cases h
    intro c hc
    rcases List.mem_cons.mp hc with rfl | hc
    · exact ⟨x, List.mem_cons_self, hb⟩
    · obtain ⟨y, hy, hfy⟩ := ih hbs c hc
      exact ⟨y, List.mem_cons_of_mem _ hy, hfy⟩

/-- Two traversals of a list agree where they fail first at the same error, or neither fails and
they agree on every element. -/
theorem mapM_eq_iff {f g : α → Except ε β} {xs : List α} :
    xs.mapM f = xs.mapM g ↔
      xs.findSome? (fun x => errorOf (f x)) = xs.findSome? (fun x => errorOf (g x)) ∧
        (xs.findSome? (fun x => errorOf (f x)) = none → ∀ x ∈ xs, f x = g x) := by
  constructor
  · intro h
    constructor
    · apply Option.ext
      intro e
      rw [← mapM_error_iff, ← mapM_error_iff, h]
    · intro hnone
      cases hf : xs.mapM f with
      | error e => exact absurd (hnone.symm.trans (mapM_error_iff.mp hf)) (by rintro ⟨⟩)
      | ok bs => exact eq_of_mapM_ok hf (h ▸ hf)
  · rintro ⟨herror, hagree⟩
    cases hnone : xs.findSome? (fun x => errorOf (f x)) with
    | some e => rw [mapM_error_iff.mpr hnone, mapM_error_iff.mpr (herror.symm.trans hnone)]
    | none => exact mapM_congr (hagree hnone)

/-- A traversal succeeds with the results of the elements, one by one. -/
theorem mapM_ok_iff {f : α → Except ε β} {xs : List α} {bs : List β} :
    xs.mapM f = .ok bs ↔ List.Forall₂ (fun x b => f x = .ok b) xs bs := by
  induction xs generalizing bs with
  | nil =>
    rw [List.forall₂_nil_left_iff, List.mapM_nil]
    constructor
    · intro h
      cases h
      rfl
    · rintro rfl
      rfl
  | cons x xs ih =>
    rw [List.forall₂_cons_left_iff, List.mapM_cons]
    constructor
    · intro h
      obtain ⟨b, hb, h⟩ := Compute.bind_ok h
      obtain ⟨bs', hbs, h⟩ := Compute.bind_ok h
      cases h
      exact ⟨b, bs', hb, ih.mp hbs, rfl⟩
    · rintro ⟨b, bs', hb, hbs, rfl⟩
      rw [hb, ih.mpr hbs]
      rfl

end

section

variable {α β : Type} {R S : α → β → Prop} {xs : List α} {ys : List β}

theorem forall₂_congr (h : ∀ x ∈ xs, ∀ y, R x y ↔ S x y) :
    List.Forall₂ R xs ys ↔ List.Forall₂ S xs ys := by
  induction xs generalizing ys with
  | nil => rw [List.forall₂_nil_left_iff, List.forall₂_nil_left_iff]
  | cons x xs ih =>
    have hrest : ∀ ys, List.Forall₂ R xs ys ↔ List.Forall₂ S xs ys :=
      fun ys => ih fun x hx => h x (List.mem_cons_of_mem _ hx)
    simp only [List.forall₂_cons_left_iff, h x List.mem_cons_self, hrest]

theorem forall₂_mem_left (h : List.Forall₂ R xs ys) {x : α} (hx : x ∈ xs) :
    ∃ y ∈ ys, R x y := by
  induction h with
  | nil => cases hx
  | @cons a b _ _ hab _ ih =>
    rcases List.mem_cons.mp hx with rfl | hx
    · exact ⟨b, List.mem_cons_self, hab⟩
    · obtain ⟨y, hy, hxy⟩ := ih hx
      exact ⟨y, List.mem_cons_of_mem _ hy, hxy⟩

end

end TiberiusBridge.Lib
