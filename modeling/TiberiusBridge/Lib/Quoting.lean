import Mathlib.Data.List.Basic

/-!
# Text that reads back

Replacing every occurrence of a character, and texts whose parts are determined
by the whole: a word before a character it does not contain, a decimal number
before a character that is no digit, and a quoted name, its closing mark doubled
inside, before anything but that mark.
-/
namespace TiberiusBridge.Lib

section

open String.Slice (Pos)
open String.Slice.Pattern (SearchStep)
open String.Slice.Pattern.Model (IsValidSearchFrom LawfulToForwardSearcherModel MatchesAt)
open String.Slice.Pattern.Model.ForwardStringSearcher (lawfulToForwardSearcherModel
  isLongestMatchAt_iff_splits matchesAt_iff_splits)

/-- One step of `String.replace`. -/
def replaceStep {s : String.Slice} (r : String) (sofar : String) : SearchStep s → String
  | .matched .. => sofar ++ r.toSlice
  | .rejected start stop => sofar ++ s.slice! start stop

def replaceChar (c : Char) (r : String) (cs : List Char) : List Char :=
  cs.flatMap fun d => if d = c then r.toList else [d]

theorem replaceChar_append (c : Char) (r : String) (cs ds : List Char) :
    replaceChar c r (cs ++ ds) = replaceChar c r cs ++ replaceChar c r ds :=
  List.flatMap_append

theorem replaceChar_of_not_mem {c : Char} {r : String} {cs : List Char} (h : c ∉ cs) :
    replaceChar c r cs = cs := by
  induction cs with
  | nil => rfl
  | cons d ds ih =>
    have hd : d ≠ c := fun hd => h (by rw [hd]; exact List.mem_cons_self)
    have hds := ih fun hmem => h (List.mem_cons_of_mem _ hmem)
    show (if d = c then r.toList else [d]) ++ replaceChar c r ds = _
    rw [if_neg hd, hds]
    rfl

/-- Between two positions without a match the character does not occur. -/
theorem not_mem_of_no_match {s : String.Slice} {c : Char} {start stop : s.Pos}
    {before mid after : String} (hstart : start.Splits before (mid ++ after))
    (hstop : stop.Splits (before ++ mid) after)
    (h : ∀ pos, start ≤ pos → pos < stop → ¬MatchesAt (String.singleton c) pos) :
    c ∉ mid.toList := by
  intro hc
  obtain ⟨as, bs, hmid⟩ := List.append_of_mem hc
  have hmid' : mid = String.ofList as ++ (String.singleton c ++ String.ofList bs) := by
    apply String.toList_inj.mp
    simpa using hmid
  have hcopy : s.copy = (before ++ String.ofList as) ++
      (String.singleton c ++ (String.ofList bs ++ after)) := by
    rw [hstart.eq_append, hmid']
    simp only [String.append_assoc]
  have hsplit := String.Slice.Pos.splits_ofEqAppend hcopy
  refine h _ ?_ ?_ (matchesAt_iff_splits.mpr ⟨_, _, hsplit⟩)
  · rw [hstart.le_iff_exists_eq_append hsplit]
    refine ⟨String.ofList as, rfl, ?_⟩
    rw [hmid']
    simp only [String.append_assoc]
  · rw [hsplit.lt_iff_exists_eq_append hstop]
    refine ⟨String.singleton c ++ String.ofList bs, ?_, ?_, ?_⟩
    · intro hempty
      have hlist := congrArg String.toList hempty
      simp at hlist
    · rw [hmid']
      simp only [String.append_assoc]
    · simp only [String.append_assoc]

theorem foldl_replaceStep {s : String.Slice} {c : Char} {r : String} {pos : s.Pos}
    {steps : List (SearchStep s)} (h : IsValidSearchFrom (String.singleton c) pos steps) :
    ∀ (sofar : String) {before after : String}, pos.Splits before after →
      (steps.foldl (replaceStep r) sofar).toList =
        sofar.toList ++ replaceChar c r after.toList := by
  induction h with
  | endPos =>
    intro sofar before after hsplit
    obtain rfl : after = "" := hsplit.eq_endPos_iff.mp rfl
    simp [replaceChar]
  | matched hmatch hrest ih =>
    intro sofar before after hsplit
    obtain ⟨t₁, t₂, hstart, hstop⟩ := isLongestMatchAt_iff_splits.mp hmatch
    obtain ⟨rfl, rfl⟩ := hsplit.eq hstart
    rw [List.foldl_cons, ih _ hstop]
    simp [replaceStep, replaceChar]
  | @mismatched steps start stop hlt hno hrest ih =>
    intro sofar before after hsplit
    have hle : start ≤ stop := Std.le_of_lt hlt
    obtain ⟨t₁, t₂, hstart, hstop⟩ :=
      String.Slice.copy_slice_eq_iff_splits.mp ⟨hle, rfl⟩
    obtain ⟨rfl, rfl⟩ := hsplit.eq hstart
    have hmid := not_mem_of_no_match hstart hstop hno
    have hslice : s.slice! start stop = s.slice start stop hle := dif_pos hle
    rw [List.foldl_cons, ih _ hstop, replaceStep, hslice, String.toList_append,
      replaceChar_append, replaceChar_of_not_mem hmid]
    simp

theorem toList_replace (s : String) (c : Char) (r : String) :
    (s.replace (String.singleton c) r).toList = replaceChar c r s.toList := by
  have hne : String.singleton c ≠ "" := by
    intro hempty
    have hlist := congrArg String.toList hempty
    simp at hlist
  have hvalid := (lawfulToForwardSearcherModel hne).isValidSearchFrom_toList s.toSlice
  have hfold := foldl_replaceStep (r := r) hvalid ""
    (String.Slice.splits_startPos s.toSlice)
  rw [Std.Iter.foldl_toList] at hfold
  have hreplace : s.replace (String.singleton c) r =
      (String.Slice.Pattern.ToForwardSearcher.toSearcher (String.singleton c) s.toSlice).fold
        (replaceStep r) "" := by
    unfold String.replace String.Slice.replace
    congr 1
    funext sofar step
    cases step <;> rfl
  rw [hreplace, hfold]
  simp

end

/-- The first text, then a separator before each of the others. -/
theorem intercalate_toList (sep first : String) (rest : List String) :
    (sep.intercalate (first :: rest)).toList =
      first.toList ++ rest.flatMap fun s => sep.toList ++ s.toList := by
  induction rest generalizing first with
  | nil => rw [String.intercalate_singleton, List.flatMap_nil, List.append_nil]
  | cons s rest ih =>
    rw [String.intercalate_cons_cons, String.toList_append, String.toList_append, ih,
      List.flatMap_cons]
    simp only [List.append_assoc]

/-- Words over the characters `p`, each before something else. -/
theorem word_inj {α : Type} {p : α → Bool} {xs ys rest rest' : List α}
    (hxs : ∀ a ∈ xs, p a) (hys : ∀ a ∈ ys, p a) (hrest : ∀ a ∈ rest.head?, ¬p a)
    (hrest' : ∀ a ∈ rest'.head?, ¬p a) (h : xs ++ rest = ys ++ rest') :
    xs = ys ∧ rest = rest' := by
  have hstop : ∀ {zs : List α}, (∀ a ∈ zs.head?, ¬p a) → zs.takeWhile p = [] := by
    intro zs hzs
    cases zs with
    | nil => rfl
    | cons a as => exact List.takeWhile_cons_of_neg (hzs a rfl)
  have htake := congrArg (List.takeWhile p) h
  rw [List.takeWhile_append_of_pos hxs, List.takeWhile_append_of_pos hys, hstop hrest,
    hstop hrest', List.append_nil, List.append_nil] at htake
  subst htake
  exact ⟨rfl, List.append_cancel_left h⟩

/-- The same words after something else. -/
theorem suffix_inj {α : Type} {p : α → Bool} {xs ys rest rest' : List α}
    (hxs : ∀ a ∈ xs, p a) (hys : ∀ a ∈ ys, p a) (hrest : ∀ a ∈ rest.getLast?, ¬p a)
    (hrest' : ∀ a ∈ rest'.getLast?, ¬p a) (h : rest ++ xs = rest' ++ ys) :
    rest = rest' ∧ xs = ys := by
  have hrev := congrArg List.reverse h
  rw [List.reverse_append, List.reverse_append] at hrev
  obtain ⟨hword, htail⟩ := word_inj (fun a ha => hxs a (List.mem_reverse.mp ha))
    (fun a ha => hys a (List.mem_reverse.mp ha)) (by rwa [List.head?_reverse])
    (by rwa [List.head?_reverse]) hrev
  exact ⟨List.reverse_injective htail, List.reverse_injective hword⟩

theorem toDigits_inj {m n : Nat} (h : Nat.toDigits 10 m = Nat.toDigits 10 n) : m = n := by
  have hvalue := congrArg (Nat.ofDigitChars 10 · 0) h
  simpa only [Nat.ofDigitChars_ten_toDigits] using hvalue

/-- Decimal numbers, each before something that is no digit. -/
theorem number_inj {m n : Nat} {rest rest' : List Char}
    (hrest : ∀ c ∈ rest.head?, ¬c.isDigit) (hrest' : ∀ c ∈ rest'.head?, ¬c.isDigit)
    (h : Nat.toDigits 10 m ++ rest = Nat.toDigits 10 n ++ rest') : m = n ∧ rest = rest' := by
  have hdigits : ∀ k, ∀ c ∈ Nat.toDigits 10 k, c.isDigit := fun k c hc =>
    Nat.isDigit_of_mem_toDigits (by decide) (by decide) hc
  obtain ⟨hnumber, htail⟩ := word_inj (hdigits m) (hdigits n) hrest hrest' h
  exact ⟨toDigits_inj hnumber, htail⟩

/-- A number starts with a digit. -/
theorem head_number (n : Nat) (rest : List Char) :
    ∀ c ∈ (Nat.toDigits 10 n ++ rest).head?, c.isDigit := by
  intro c hc
  cases hdigits : Nat.toDigits 10 n with
  | nil => exact absurd hdigits Nat.toDigits_ne_nil
  | cons d ds =>
    rw [hdigits] at hc
    cases hc
    apply Nat.isDigit_of_mem_toDigits (b := 10) (n := n) (by decide) (by decide)
    rw [hdigits]
    exact List.mem_cons_self

/-- The closing mark ends a name where no second one follows. -/
theorem quoted_inj {mark : Char} {r : String} (hr : r.toList = [mark, mark])
    {xs ys rest rest' : List Char} (hrest : ∀ c ∈ rest.head?, c ≠ mark)
    (hrest' : ∀ c ∈ rest'.head?, c ≠ mark)
    (h : replaceChar mark r xs ++ mark :: rest = replaceChar mark r ys ++ mark :: rest') :
    xs = ys ∧ rest = rest' := by
  have hcons : ∀ c cs, replaceChar mark r (c :: cs) =
      (if c = mark then [mark, mark] else [c]) ++ replaceChar mark r cs := by
    intro c cs
    rw [← hr]
    rfl
  -- a name that ends where the other goes on would be followed by the mark
  have hends : ∀ {c cs rest rest'}, (∀ d ∈ rest.head?, d ≠ mark) →
      mark :: rest ≠ replaceChar mark r (c :: cs) ++ mark :: rest' := by
    intro c cs rest rest' hrest heq
    rw [hcons] at heq
    by_cases hc : c = mark
    · rw [if_pos hc] at heq
      injection heq with _ htail
      exact hrest mark (by rw [htail]; rfl) rfl
    · rw [if_neg hc] at heq
      injection heq with hhead
      exact hc hhead.symm
  induction xs generalizing ys with
  | nil =>
    cases ys with
    | nil =>
      injection h with _ htail
      exact ⟨rfl, htail⟩
    | cons d ds => exact absurd h (hends hrest)
  | cons c cs ih =>
    cases ys with
    | nil => exact absurd h.symm (hends hrest')
    | cons d ds =>
      rw [hcons, hcons] at h
      by_cases hc : c = mark <;> by_cases hd : d = mark
      · rw [if_pos hc, if_pos hd, List.append_assoc, List.append_assoc] at h
        obtain ⟨htail, hrests⟩ := ih (List.append_cancel_left h)
        exact ⟨by rw [hc, hd, htail], hrests⟩
      · rw [if_pos hc, if_neg hd] at h
        injection h with hhead
        exact absurd hhead.symm hd
      · rw [if_neg hc, if_pos hd] at h
        injection h with hhead
        exact absurd hhead hc
      · rw [if_neg hc, if_neg hd] at h
        injection h with hhead hrest
        obtain ⟨htail, hrests⟩ := ih hrest
        exact ⟨by rw [hhead, htail], hrests⟩

/-- The text of a name between marks, where the mark itself is written twice. -/
inductive Doubled (mark : Char) : List Char → List Char → Prop
  | nil : Doubled mark [] []
  | mark {name text : List Char} (h : Doubled mark name text) :
      Doubled mark (mark :: name) (mark :: mark :: text)
  | char {c : Char} {name text : List Char} (hc : c ≠ mark) (h : Doubled mark name text) :
      Doubled mark (c :: name) (c :: text)

theorem replaceChar_cons (mark : Char) (r : String) (c : Char) (cs : List Char) :
    replaceChar mark r (c :: cs) = (if c = mark then r.toList else [c]) ++ replaceChar mark r cs :=
  List.flatMap_cons

theorem doubled_iff {mark : Char} {r : String} (hr : r.toList = [mark, mark])
    {name text : List Char} : Doubled mark name text ↔ text = replaceChar mark r name := by
  constructor
  · intro h
    induction h with
    | nil => rfl
    | mark _ ih => rw [replaceChar_cons, if_pos rfl, hr, ih]; rfl
    | char hc _ ih => rw [replaceChar_cons, if_neg hc, ih]; rfl
  · rintro rfl
    induction name with
    | nil => exact .nil
    | cons c name ih =>
      rw [replaceChar_cons]
      by_cases hc : c = mark
      · subst hc
        rw [if_pos rfl, hr]
        exact .mark ih
      · rw [if_neg hc]
        exact .char hc ih

end TiberiusBridge.Lib
