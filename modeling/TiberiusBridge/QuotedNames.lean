import TiberiusBridge.Declaration

/-!
# Names cannot escape their quoting

The texts a server reads as a type and as a list of parameters, as a grammar: a
name in brackets writes `]` twice, a multi-part name has a point before each part
after the first, and a part in the middle may be omitted. A text has at most one
reading, and a declaration has the reading it was built from.
-/
namespace TiberiusBridge

open Lib (Doubled)

/-- A type as it is read: a word with an optional size, or a multi-part name. -/
inductive TypeReading
  | builtIn (word : String) (size : Option String)
  | quoted (first : String) (after : List (Option String)) (readonly : Bool)
  deriving DecidableEq, Repr

inductive Bracketed : String → List Char → Prop
  | intro {name : String} {text : List Char} (h : Doubled ']' name.toList text) :
      Bracketed name ('[' :: (text ++ [']']))

/-- The parts of a name after the first, a point before each. The last is never omitted. -/
inductive PartsAfter : List (Option String) → List Char → Prop
  | nil : PartsAfter [] []
  | part {name : String} {after : List (Option String)} {text rest : List Char}
      (h : Bracketed name text) (hrest : PartsAfter after rest) :
      PartsAfter (some name :: after) ('.' :: (text ++ rest))
  | omitted {part : Option String} {after : List (Option String)} {rest : List Char}
      (hrest : PartsAfter (part :: after) rest) :
      PartsAfter (none :: part :: after) ('.' :: rest)

inductive MultiPart : String → List (Option String) → List Char → Prop
  | intro {first : String} {after : List (Option String)} {text rest : List Char}
      (h : Bracketed first text) (hafter : PartsAfter after rest) :
      MultiPart first after (text ++ rest)

/-- A built-in type's name has no parenthesis, comma or bracket. -/
def TypeWord (word : String) : Prop := ∀ c ∈ word.toList, c ≠ '(' ∧ c ≠ ',' ∧ c ≠ '['

inductive ReadsType : TypeReading → List Char → Prop
  | word {word : String} (h : TypeWord word) : ReadsType (.builtIn word none) word.toList
  | sized {word size : String} (h : TypeWord word) (hsize : ∀ c ∈ size.toList, c ≠ ')') :
      ReadsType (.builtIn word (some size)) (word.toList ++ '(' :: (size.toList ++ [')']))
  | quoted {first : String} {after : List (Option String)} {text : List Char}
      (h : MultiPart first after text) : ReadsType (.quoted first after false) text
  | readonly {first : String} {after : List (Option String)} {text : List Char}
      (h : MultiPart first after text) :
      ReadsType (.quoted first after true) (text ++ " READONLY".toList)

/-- A parameter's name after the `@`, and its type. -/
structure ParameterReading where
  name : String
  type : TypeReading
  deriving DecidableEq, Repr

inductive ReadsParameter : ParameterReading → List Char → Prop
  | intro {name : String} {type : TypeReading} {text : List Char}
      (hname : ∀ c ∈ name.toList, c ≠ ' ') (htype : ReadsType type text) :
      ReadsParameter ⟨name, type⟩ ('@' :: (name.toList ++ ' ' :: text))

/-- Parameters with `, ` between them. -/
inductive ReadsParameters : List ParameterReading → List Char → Prop
  | nil : ReadsParameters [] []
  | single {p : ParameterReading} {text : List Char} (h : ReadsParameter p text) :
      ReadsParameters [p] text
  | cons {p q : ParameterReading} {ps : List ParameterReading} {text rest : List Char}
      (h : ReadsParameter p text) (hrest : ReadsParameters (q :: ps) rest) :
      ReadsParameters (p :: q :: ps) (text ++ ',' :: ' ' :: rest)

theorem bracketed_iff {name : String} {text : List Char} :
    Bracketed name text ↔ text = (quoteIdentifier name).toList := by
  have hmark : "]]".toList = [']', ']'] := rfl
  rw [quoteIdentifier_toList]
  constructor
  · intro h
    cases h with
    | intro h => rw [(Lib.doubled_iff hmark).mp h]
  · rintro rfl
    exact .intro ((Lib.doubled_iff hmark).mpr rfl)

theorem PartsAfter.text_eq {after : List (Option String)} {text : List Char}
    (h : PartsAfter after text) : text = (partsText after).toList := by
  induction h with
  | nil => rfl
  | part h _ ih => rw [partsText_cons, bracketed_iff.mp h, ih]; rfl
  | omitted _ ih => rw [partsText_cons, ih]; rfl

theorem MultiPart.text_eq {first : String} {after : List (Option String)} {text : List Char}
    (h : MultiPart first after text) :
    text = (quoteIdentifier first).toList ++ (partsText after).toList := by
  cases h with
  | intro h hafter => rw [bracketed_iff.mp h, hafter.text_eq]

namespace TypeReading

/-- The text of a reading. -/
def text : TypeReading → List Char
  | builtIn word size => word.toList ++ DeclaredType.inParens size
  | quoted first after readonly => (DeclaredType.quoted first after readonly).text.toList

end TypeReading

theorem ReadsType.text_eq {type : TypeReading} {text : List Char} (h : ReadsType type text) :
    text = type.text := by
  cases h with
  | word h => exact (List.append_nil _).symm
  | sized h hsize => rfl
  | quoted h =>
    rw [h.text_eq, TypeReading.text, DeclaredType.text, String.toList_append,
      String.toList_append]
    exact (List.append_nil _).symm
  | readonly h =>
    rw [h.text_eq, TypeReading.text, DeclaredType.text, String.toList_append,
      String.toList_append]
    rfl

section

variable {rest rest' : List Char}

theorem size_unique {size size' : Option String} (hrest : Ends rest) (hrest' : Ends rest')
    (hsize : ∀ s ∈ size, ∀ c ∈ s.toList, c ≠ ')') (hsize' : ∀ s ∈ size', ∀ c ∈ s.toList, c ≠ ')')
    (h : DeclaredType.inParens size ++ rest = DeclaredType.inParens size' ++ rest') :
    size = size' ∧ rest = rest' := by
  rcases DeclaredType.inParens_cases hrest hrest' h with
    ⟨rfl, rfl, hrests⟩ | ⟨s, s', rfl, rfl, htail⟩
  · exact ⟨rfl, hrests⟩
  · have hclosed : ∀ {s : String}, (∀ c ∈ s.toList, c ≠ ')') → ∀ c ∈ s.toList, (c != ')') = true :=
      fun hs c hc => bne_iff_ne.mpr (hs c hc)
    have hparen : ∀ {rest : List Char}, ∀ c ∈ ([')'] ++ rest).head?, ¬(c != ')') = true := by
      intro rest c hc
      cases hc
      decide
    obtain ⟨hname, hafter⟩ := Lib.word_inj (p := (· != ')')) (hclosed (hsize s rfl))
      (hclosed (hsize' s' rfl)) hparen hparen htail
    exact ⟨congrArg some (String.toList_inj.mp hname), List.append_cancel_left hafter⟩

/-- A word never starts as a quoted name does. -/
theorem word_ne_quoted {word first : String} {size : Option String}
    {after : List (Option String)} {readonly : Bool} (hword : TypeWord word) (hrest : Ends rest) :
    (TypeReading.builtIn word size).text ++ rest ≠
      (TypeReading.quoted first after readonly).text ++ rest' := by
  intro h
  have hhead := (congrArg List.head? h).trans (DeclaredType.quoted_head first after readonly)
  rw [TypeReading.text, List.append_assoc] at hhead
  exact DeclaredType.head_ne_bracket size (fun c hc => (hword c hc).2.2) hrest hhead

theorem ReadsType.builtIn_inv {word : String} {size : Option String} {text : List Char}
    (h : ReadsType (.builtIn word size) text) :
    TypeWord word ∧ ∀ s ∈ size, ∀ c ∈ s.toList, c ≠ ')' := by
  cases h with
  | word h => exact ⟨h, fun s hs => nomatch hs⟩
  | sized h hsize =>
    refine ⟨h, fun s hs => ?_⟩
    cases hs
    exact hsize

theorem TypeWord.isWord {word : String} (h : TypeWord word) :
    ∀ c ∈ word.toList, DeclaredType.isWord c :=
  DeclaredType.name_word (show (DeclaredType.builtIn word none).Plain from h)

/-- A type before a comma or the end is read in one way. -/
theorem ReadsType.unique {type type' : TypeReading} {text text' : List Char}
    (hread : ReadsType type text) (hread' : ReadsType type' text') (hrest : Ends rest)
    (hrest' : Ends rest') (h : text ++ rest = text' ++ rest') : type = type' ∧ rest = rest' := by
  rw [hread.text_eq, hread'.text_eq] at h
  cases type with
  | builtIn word size =>
    obtain ⟨hword, hsize⟩ := hread.builtIn_inv
    cases type' with
    | builtIn word' size' =>
      obtain ⟨hword', hsize'⟩ := hread'.builtIn_inv
      rw [TypeReading.text, TypeReading.text, List.append_assoc, List.append_assoc] at h
      obtain ⟨hname, hafter⟩ := Lib.word_inj hword.isWord hword'.isWord
        (DeclaredType.inParens_stops size hrest) (DeclaredType.inParens_stops size' hrest') h
      obtain ⟨hsizes, hrests⟩ := size_unique hrest hrest' hsize hsize' hafter
      exact ⟨by rw [String.toList_inj.mp hname, hsizes], hrests⟩
    | quoted => exact absurd h (word_ne_quoted hword hrest)
  | quoted first after readonly =>
    cases type' with
    | builtIn word' size' => exact absurd h.symm (word_ne_quoted hread'.builtIn_inv.1 hrest')
    | quoted first' after' readonly' =>
      obtain ⟨heq, hrests⟩ := DeclaredType.text_inj (a := .quoted first after readonly)
        (b := .quoted first' after' readonly') trivial trivial hrest hrest' h
      cases heq
      exact ⟨rfl, hrests⟩

/-- A parameter before a comma or the end is read in one way. -/
theorem ReadsParameter.unique {p p' : ParameterReading} {text text' : List Char}
    (hread : ReadsParameter p text) (hread' : ReadsParameter p' text') (hrest : Ends rest)
    (hrest' : Ends rest') (h : text ++ rest = text' ++ rest') : p = p' ∧ rest = rest' := by
  cases hread with
  | intro hname htype =>
    cases hread' with
    | intro hname' htype' =>
      have hword : ∀ {name : String}, (∀ c ∈ name.toList, c ≠ ' ') →
          ∀ c ∈ name.toList, (c != ' ') = true := fun hs c hc => bne_iff_ne.mpr (hs c hc)
      have hspace : ∀ {rest : List Char}, ∀ c ∈ (' ' :: rest).head?, ¬(c != ' ') = true := by
        intro rest c hc
        cases hc
        decide
      rw [List.cons_append, List.cons_append, List.append_assoc, List.append_assoc] at h
      obtain ⟨hnames, hafter⟩ := Lib.word_inj (p := (· != ' ')) (hword hname) (hword hname')
        hspace hspace (List.cons.inj h).2
      obtain ⟨rfl, hrests⟩ := htype.unique htype' hrest hrest' (List.cons.inj hafter).2
      exact ⟨by rw [String.toList_inj.mp hnames], hrests⟩

/-- The text of the parameters after the first. -/
inductive ReadsLater : List ParameterReading → List Char → Prop
  | nil : ReadsLater [] []
  | cons {ps : List ParameterReading} {text : List Char} (hne : ps ≠ [])
      (h : ReadsParameters ps text) : ReadsLater ps (',' :: ' ' :: text)

theorem ReadsLater.ends {ps : List ParameterReading} (h : ReadsLater ps rest) : Ends rest := by
  intro c hc
  cases h <;> cases hc
  rfl

theorem ReadsParameters.cons_inv {p : ParameterReading} {ps : List ParameterReading}
    {text : List Char} (h : ReadsParameters (p :: ps) text) :
    ∃ first later, ReadsParameter p first ∧ ReadsLater ps later ∧ text = first ++ later := by
  cases h with
  | single h => exact ⟨text, [], h, .nil, (List.append_nil _).symm⟩
  | cons h hrest => exact ⟨_, _, h, .cons (List.cons_ne_nil _ _) hrest, rfl⟩

theorem ReadsParameters.ne_nil {p : ParameterReading} {ps : List ParameterReading}
    (h : ReadsParameters (p :: ps) []) : False := by
  obtain ⟨first, later, hfirst, -, htext⟩ := h.cons_inv
  cases hfirst
  cases htext

/-- A list of parameters is read in one way. -/
theorem ReadsParameters.unique {ps ps' : List ParameterReading} {text : List Char}
    (h : ReadsParameters ps text) (h' : ReadsParameters ps' text) : ps = ps' := by
  induction ps generalizing ps' text with
  | nil =>
    cases h
    cases ps' with
    | nil => rfl
    | cons p' ps' => exact h'.ne_nil.elim
  | cons p ps ih =>
    cases ps' with
    | nil =>
      cases h'
      exact h.ne_nil.elim
    | cons p' ps' =>
      obtain ⟨first, later, hfirst, hlater, rfl⟩ := h.cons_inv
      obtain ⟨first', later', hfirst', hlater', htext⟩ := h'.cons_inv
      obtain ⟨rfl, rfl⟩ := hfirst.unique hfirst' hlater.ends hlater'.ends htext
      cases hlater with
      | nil =>
        cases hlater'
        rfl
      | cons _ hrest =>
        cases hlater' with
        | cons _ hrest' => rw [ih hrest hrest']

end

theorem readsType_iff {type : TypeReading} {text : List Char} (h : ReadsType type text)
    (type' : TypeReading) : ReadsType type' text ↔ type' = type := by
  constructor
  · intro h'
    have hends : Ends [] := fun c hc => nomatch hc
    exact (h'.unique h hends hends rfl).1
  · rintro rfl
    exact h

def DeclaredType.reading : DeclaredType → TypeReading
  | builtIn name size => .builtIn name (size.map DeclaredSize.text)
  | quoted first parts readonly => .quoted first parts readonly

theorem PartsAfter.part_text {name : String} {after : List (Option String)}
    (h : PartsAfter after (partsText after).toList) :
    PartsAfter (some name :: after) (partsText (some name :: after)).toList := by
  rw [partsText_cons]
  exact .part (bracketed_iff.mpr rfl) h

theorem PartsAfter.omitted_text {part : Option String} {after : List (Option String)}
    (h : PartsAfter (part :: after) (partsText (part :: after)).toList) :
    PartsAfter (none :: part :: after) (partsText (none :: part :: after)).toList := by
  rw [partsText_cons]
  exact .omitted h

theorem quoted_reads {first : String} {after : List (Option String)}
    (h : PartsAfter after (partsText after).toList) (readonly : Bool) :
    ReadsType (.quoted first after readonly)
      (DeclaredType.quoted first after readonly).text.toList := by
  have hmulti : MultiPart first after
      ((quoteIdentifier first).toList ++ (partsText after).toList) :=
    .intro (bracketed_iff.mpr rfl) h
  rw [DeclaredType.text, String.toList_append, String.toList_append]
  cases readonly with
  | false =>
    rw [if_neg Bool.false_ne_true, String.toList_empty, List.append_nil]
    exact .quoted hmulti
  | true => exact .readonly hmulti

/-- The parts that are given, with the middle one omitted where only the first is. -/
theorem UdtTypeName.reads (name : UdtTypeName) :
    ReadsType name.declaredType.reading name.declaredType.text.toList := by
  unfold declaredType
  cases nonEmptyPart name.dbName with
  | none =>
    cases nonEmptyPart name.schemaName with
    | none => exact quoted_reads .nil false
    | some schema => exact quoted_reads (.part_text .nil) false
  | some db =>
    cases nonEmptyPart name.schemaName with
    | none => exact quoted_reads (.omitted_text (.part_text .nil)) false
    | some schema => exact quoted_reads (.part_text (.part_text .nil)) false

theorem TvpTypeName.reads (name : TvpTypeName) :
    ReadsType name.declaredType.reading name.declaredType.text.toList :=
  quoted_reads (.part_text .nil) true

/-- No size closes its parenthesis early. -/
theorem DeclaredSize.ne_paren (size : DeclaredSize) : ∀ c ∈ size.text.toList, c ≠ ')' := by
  have hdigits : ∀ n : Nat, ∀ c ∈ Nat.toDigits 10 n, c ≠ ')' := by
    rintro n c hc rfl
    exact absurd (Nat.isDigit_of_mem_toDigits (by decide) (by decide) hc) (by decide)
  by_cases h : size = max
  · subst h
    have hall : max.text.toList.all (fun c => c != ')') = true := by decide
    exact fun c hc => bne_iff_ne.mp (List.all_eq_true.mp hall c hc)
  · intro c hc
    rw [text_toList h] at hc
    rcases List.mem_append.mp hc with hc | hc
    · exact hdigits _ c hc
    · cases size with
      | max => exact absurd rfl h
      | count n => cases hc
      | decimal p scale =>
        rcases List.mem_cons.mp hc with rfl | hc
        · decide
        · exact hdigits _ c hc
      | float16 n =>
        rintro rfl
        rw [tail] at hc
        exact absurd hc (by decide)

theorem builtIn_reads {name : String} {size : Option DeclaredSize}
    (h : (DeclaredType.builtIn name size).Plain) :
    ReadsType (DeclaredType.builtIn name size).reading
      (DeclaredType.builtIn name size).text.toList := by
  rw [DeclaredType.builtIn_toList]
  cases size with
  | none =>
    rw [DeclaredType.sizeText, List.append_nil]
    exact .word h
  | some size => exact .sized h size.ne_paren

section

variable [MssqlTds] [TypeNames]

theorem SqlType.declaredType_reads {v : SqlType} {d : DeclaredType} (h : v.declaredType = .ok d) :
    ReadsType d.reading d.text.toList := by
  have hplain := SqlType.declaredType_plain h
  unfold declaredType at h
  split at h
  · next name _ =>
    cases h
    exact name.reads
  · next name _ =>
    cases h
    exact name.reads
  · split at h <;> cases h
    exact builtIn_reads hplain

theorem declaredAs_reads {unicode : Bool} {p : Param} {d : DeclaredType}
    (h : declaredAs unicode p = .ok d) : ReadsType d.reading d.text.toList := by
  obtain ⟨v, -, hd⟩ := declaredAs_ok h
  exact SqlType.declaredType_reads hd

end

/-- The parameter declared at position `i`. -/
def parameterReading (i : Nat) (d : DeclaredType) : ParameterReading := ⟨s!"P{i + 1}", d.reading⟩

def readingsFrom (i : Nat) (ds : List DeclaredType) : List ParameterReading :=
  ds.mapIdx fun j d => parameterReading (i + j) d

theorem readingsFrom_cons (i : Nat) (d : DeclaredType) (ds : List DeclaredType) :
    readingsFrom i (d :: ds) = parameterReading i d :: readingsFrom (i + 1) ds :=
  Lib.mapIdx_from_cons parameterReading i d ds

theorem parameter_reads {d : DeclaredType} (h : ReadsType d.reading d.text.toList) (i : Nat) :
    ReadsParameter (parameterReading i d) (s!"@P{i + 1} {d.text}").toList := by
  have hname : (s!"P{i + 1}").toList = 'P' :: Nat.toDigits 10 (i + 1) := by
    show ("P" ++ toString (i + 1)).toList = _
    rw [String.toList_append, toString_toList]
    rfl
  have htext : (s!"@P{i + 1} {d.text}").toList =
      '@' :: ((s!"P{i + 1}").toList ++ ' ' :: d.text.toList) := by
    show ("@P" ++ toString (i + 1) ++ " " ++ d.text).toList = _
    rw [hname, String.toList_append, String.toList_append, String.toList_append, toString_toList,
      List.append_assoc, List.append_assoc]
    rfl
  rw [htext]
  refine .intro ?_ h
  rw [hname]
  rintro c hc rfl
  rcases List.mem_cons.mp hc with hc | hc
  · exact absurd hc (by decide)
  · exact absurd (Nat.isDigit_of_mem_toDigits (by decide) (by decide) hc) (by decide)

theorem parameters_read {ds : List DeclaredType}
    (hds : ∀ d ∈ ds, ReadsType d.reading d.text.toList) (i : Nat) :
    ReadsParameters (readingsFrom i ds) (", ".intercalate (declarationTexts i ds)).toList := by
  induction ds generalizing i with
  | nil => exact .nil
  | cons d ds ih =>
    have hfirst := parameter_reads (hds d List.mem_cons_self) i
    have hrest := ih (fun d hd => hds d (List.mem_cons_of_mem _ hd)) (i + 1)
    rw [readingsFrom_cons, declarationTexts]
    cases ds with
    | nil =>
      rw [declarationTexts, String.intercalate_singleton]
      exact .single hfirst
    | cons d' ds =>
      rw [readingsFrom_cons, declarationTexts] at hrest ⊢
      rw [String.intercalate_cons_cons, String.toList_append, String.toList_append,
        List.append_assoc]
      exact .cons hfirst hrest

section

variable [MssqlTds] [TypeNames]

/-- However names are chosen, a declaration is read as its own parts, and a list of them as its own
parameters. -/
structure QuotedNames : Prop where
  udt : ∀ name bytes, ∃ text, sqlDeclaration (.udt name bytes) = .ok text ∧
    ∀ type, ReadsType type text.toList ↔ type = name.declaredType.reading
  table : ∀ name rows, ∃ text, sqlDeclaration (.table name rows) = .ok text ∧
    ∀ type, ReadsType type text.toList ↔
      type = .quoted (name.schemaName.getD "dbo") [some name.typeName] true
  parameters : ∀ params unicode text, parameterDeclaration params unicode = .ok (.ok text) →
    ∃ ds, params.mapM (declaredAs unicode) = .ok ds ∧ ds.length = params.length ∧
      ∀ ps, ReadsParameters ps text.toList ↔
        ps = ds.mapIdx parameterReading

theorem quoted_names : QuotedNames where
  udt name bytes :=
    ⟨_, sqlDeclaration_eq (.udt name bytes), readsType_iff name.reads⟩
  table name rows :=
    ⟨_, sqlDeclaration_eq (.table name rows), readsType_iff name.reads⟩
  parameters params unicode text h := by
    rw [parameterDeclaration_eq] at h
    cases hds : params.mapM (declaredAs unicode) with
    | error e =>
      rw [hds] at h
      cases e <;> cases h
    | ok ds =>
      rw [hds] at h
      cases h
      have hreads : ReadsParameters (readingsFrom 0 ds)
          (", ".intercalate (declarationTexts 0 ds)).toList := by
        refine parameters_read (fun d hd => ?_) 0
        obtain ⟨p, -, hp⟩ := Lib.mapM_ok_mem hds d hd
        exact declaredAs_reads hp
      have hreadings : readingsFrom 0 ds = ds.mapIdx parameterReading := by
        simp only [readingsFrom, Nat.zero_add]
      rw [hreadings] at hreads
      refine ⟨ds, rfl, Lib.mapM_ok_length hds, fun ps => ?_⟩
      constructor
      · intro hps
        exact hps.unique hreads
      · rintro rfl
        exact hreads

end

end TiberiusBridge
