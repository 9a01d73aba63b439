import TiberiusBridge.Lib.Quoting
import TiberiusBridge.Params

/-!
# Declared types

What a prepared declaration says of each parameter, as a value. The text of a
list of declarations determines the declared types.
-/
namespace TiberiusBridge

open Lib (Compute errorOf)

/-- What stands in the parentheses. -/
inductive DeclaredSize
  | max
  | count (n : Nat)
  | decimal (precision scale : Nat)
  | float16 (dimensions : Nat)
  deriving DecidableEq, Repr

def DeclaredSize.text : DeclaredSize → String
  | max => "MAX"
  | count n => toString n
  | decimal precision scale => s!"{precision},{scale}"
  | float16 dimensions => s!"{dimensions}, float16"

/-- A type by its name, or by the parts of a quoted one. -/
inductive DeclaredType
  | builtIn (name : String) (size : Option DeclaredSize)
  | quoted (first : String) (parts : List (Option String)) (readonly : Bool)
  deriving DecidableEq, Repr

/-- The parts after the first, a point before each. An absent one is empty. -/
def partsText : List (Option String) → String
  | [] => ""
  | part :: parts => "." ++ part.elim "" quoteIdentifier ++ partsText parts

def DeclaredType.text : DeclaredType → String
  | builtIn name none => name
  | builtIn name (some size) => s!"{name}({size.text})"
  | quoted first parts readonly =>
    quoteIdentifier first ++ partsText parts ++ (if readonly then " READONLY" else "")

def UdtTypeName.declaredType (name : UdtTypeName) : DeclaredType :=
  match nonEmptyPart name.dbName, nonEmptyPart name.schemaName with
  | none, none => .quoted name.typeName [] false
  | none, some schema => .quoted schema [some name.typeName] false
  | some db, schema => .quoted db [schema, some name.typeName] false

def TvpTypeName.declaredType (name : TvpTypeName) : DeclaredType :=
  .quoted (name.schemaName.getD "dbo") [some name.typeName] true

theorem udtDeclaration_eq (name : UdtTypeName) :
    udtDeclaration name = name.declaredType.text := by
  unfold udtDeclaration UdtTypeName.declaredType
  cases nonEmptyPart name.dbName with
  | none =>
    cases nonEmptyPart name.schemaName with
    | none => simp [DeclaredType.text, partsText]
    | some schema => simp [DeclaredType.text, partsText, String.append_assoc]
  | some db =>
    cases nonEmptyPart name.schemaName with
    | none => simp [DeclaredType.text, partsText, String.append_assoc]
    | some schema => simp [DeclaredType.text, partsText, String.append_assoc]

theorem tableDeclaration_eq (name : TvpTypeName) :
    tableDeclaration name = name.declaredType.text := by
  show quoteIdentifier (name.schemaName.getD "dbo") ++ "." ++ quoteIdentifier name.typeName ++
    " READONLY" = _
  simp [TvpTypeName.declaredType, DeclaredType.text, partsText, String.append_assoc]

/-- A declaration is followed by a comma or by nothing. -/
def Ends (rest : List Char) : Prop := ∀ c ∈ rest.head?, c = ','

theorem quoteIdentifier_toList (s : String) :
    (quoteIdentifier s).toList = '[' :: (Lib.replaceChar ']' "]]" s.toList ++ [']']) := by
  have hreplace := Lib.toList_replace s ']' "]]"
  rw [show String.singleton ']' = "]" by rfl] at hreplace
  rw [quoteIdentifier, String.toList_append, String.toList_append, hreplace]
  rfl

theorem quoteIdentifier_inj {s s' : String} {rest rest' : List Char}
    (hrest : ∀ c ∈ rest.head?, c ≠ ']') (hrest' : ∀ c ∈ rest'.head?, c ≠ ']')
    (h : (quoteIdentifier s).toList ++ rest = (quoteIdentifier s').toList ++ rest') :
    s = s' ∧ rest = rest' := by
  rw [quoteIdentifier_toList, quoteIdentifier_toList] at h
  simp only [List.cons_append, List.append_assoc, List.nil_append] at h
  injection h with _ h
  obtain ⟨hname, htail⟩ := Lib.quoted_inj rfl hrest hrest' h
  exact ⟨String.toList_inj.mp hname, htail⟩

theorem toString_toList (n : Nat) : (toString n).toList = Nat.toDigits 10 n := Nat.toList_repr

namespace DeclaredSize

/-- The number a size starts with. -/
def lead : DeclaredSize → Nat
  | max => 0
  | count n | decimal n _ | float16 n => n

/-- What follows that number. -/
def tail : DeclaredSize → List Char
  | max | count _ => []
  | decimal _ scale => ',' :: Nat.toDigits 10 scale
  | float16 _ => [',', ' ', 'f', 'l', 'o', 'a', 't', '1', '6']

theorem text_toList {a : DeclaredSize} (h : a ≠ max) :
    a.text.toList = Nat.toDigits 10 a.lead ++ a.tail := by
  cases a with
  | max => exact absurd rfl h
  | count n => rw [text, toString_toList, lead, tail, List.append_nil]
  | decimal precision scale =>
    have htext : (decimal precision scale).text =
        toString precision ++ "," ++ toString scale := rfl
    rw [htext, String.toList_append, String.toList_append, toString_toList, toString_toList,
      List.append_assoc, lead, tail]
    rfl
  | float16 dimensions =>
    have htext : (float16 dimensions).text = toString dimensions ++ ", float16" := rfl
    rw [htext, String.toList_append, toString_toList, lead, tail]
    rfl

theorem paren_stops (rest : List Char) : ∀ c ∈ (')' :: rest).head?, ¬c.isDigit := by
  intro c hc
  cases hc
  decide

theorem tail_stops (a : DeclaredSize) (rest : List Char) :
    ∀ c ∈ (a.tail ++ ')' :: rest).head?, ¬c.isDigit := by
  intro c hc
  cases a <;> cases hc <;> decide

theorem max_ne {b : DeclaredSize} (hb : b ≠ max) (rest rest' : List Char) :
    max.text.toList ++ rest ≠ b.text.toList ++ rest' := by
  intro h
  rw [text_toList hb, List.append_assoc] at h
  have hhead := Lib.head_number b.lead (b.tail ++ rest')
  rw [← h] at hhead
  exact absurd (hhead 'M' rfl) (by decide)

theorem text_inj {a b : DeclaredSize} {rest rest' : List Char}
    (h : a.text.toList ++ ')' :: rest = b.text.toList ++ ')' :: rest') :
    a = b ∧ rest = rest' := by
  by_cases ha : a = max
  · by_cases hb : b = max
    · subst ha hb
      exact ⟨rfl, (List.cons.inj (List.append_cancel_left h)).2⟩
    · subst ha
      exact absurd h (max_ne hb _ _)
  by_cases hb : b = max
  · subst hb
    exact absurd h.symm (max_ne ha _ _)
  rw [text_toList ha, text_toList hb, List.append_assoc, List.append_assoc] at h
  obtain ⟨hlead, htail⟩ := Lib.number_inj (tail_stops a rest) (tail_stops b rest') h
  cases a with
  | max => exact absurd rfl ha
  | count n =>
    cases b with
    | max => exact absurd rfl hb
    | count m => exact ⟨congrArg count hlead, (List.cons.inj htail).2⟩
    | decimal p s => exact absurd (List.cons.inj htail).1 (by decide)
    | float16 m => exact absurd (List.cons.inj htail).1 (by decide)
  | decimal p s =>
    have hdigit := Lib.head_number s (')' :: rest)
    cases b with
    | max => exact absurd rfl hb
    | count m => exact absurd (List.cons.inj htail).1 (by decide)
    | decimal p' s' =>
      obtain ⟨hscale, hrest⟩ :=
        Lib.number_inj (paren_stops rest) (paren_stops rest') (List.cons.inj htail).2
      exact ⟨congrArg₂ decimal hlead hscale, (List.cons.inj hrest).2⟩
    | float16 m =>
      rw [show Nat.toDigits 10 s ++ ')' :: rest = _ from (List.cons.inj htail).2] at hdigit
      exact absurd (hdigit ' ' rfl) (by decide)
  | float16 n =>
    cases b with
    | max => exact absurd rfl hb
    | count m => exact absurd (List.cons.inj htail).1 (by decide)
    | decimal p s =>
      have hdigit := Lib.head_number s (')' :: rest')
      rw [show Nat.toDigits 10 s ++ ')' :: rest' = _ from (List.cons.inj htail).2.symm] at hdigit
      exact absurd (hdigit ' ' rfl) (by decide)
    | float16 m => exact ⟨congrArg float16 hlead, (List.cons.inj (List.append_cancel_left htail)).2⟩

end DeclaredSize

/-- A quoted name is followed by a space, a comma or nothing. -/
def NameEnds (rest : List Char) : Prop := ∀ c ∈ rest.head?, c = ' ' ∨ c = ','

theorem partsText_cons (part : Option String) (parts : List (Option String)) :
    (partsText (part :: parts)).toList =
      '.' :: ((part.elim "" quoteIdentifier).toList ++ (partsText parts).toList) := by
  rw [partsText, String.toList_append, String.toList_append]
  rfl

section

variable {parts parts' : List (Option String)} {rest rest' : List Char}

/-- Whatever parts remain, a point or the rest comes next. -/
theorem partsText_next (hrest : NameEnds rest) :
    ∀ c ∈ ((partsText parts).toList ++ rest).head?, c = '.' ∨ c = ' ' ∨ c = ',' := by
  intro c hc
  cases parts with
  | nil => exact Or.inr (hrest c hc)
  | cons part parts =>
    rw [partsText_cons] at hc
    cases hc
    exact Or.inl rfl

theorem partsText_ne_bracket (hrest : NameEnds rest) :
    ∀ c ∈ ((partsText parts).toList ++ rest).head?, c ≠ ']' := by
  intro c hc
  rcases partsText_next hrest c hc with rfl | rfl | rfl <;> decide

theorem partsText_ne_quoted (hrest : NameEnds rest) (s : String) :
    (partsText parts).toList ++ rest ≠ (quoteIdentifier s).toList ++ rest' := by
  intro heq
  have hhead := partsText_next hrest '[' (by rw [heq, quoteIdentifier_toList]; rfl)
  exact absurd hhead (by decide)

theorem ne_partsText_cons (hrest : NameEnds rest) (part : Option String) :
    rest ≠ (partsText (part :: parts)).toList ++ rest' := by
  intro heq
  rw [partsText_cons] at heq
  have hhead := hrest '.' (by rw [heq]; rfl)
  exact absurd hhead (by decide)

theorem partsText_inj (hrest : NameEnds rest) (hrest' : NameEnds rest')
    (h : (partsText parts).toList ++ rest = (partsText parts').toList ++ rest') :
    parts = parts' ∧ rest = rest' := by
  induction parts generalizing parts' with
  | nil =>
    cases parts' with
    | nil => exact ⟨rfl, h⟩
    | cons part parts => exact absurd h (ne_partsText_cons hrest part)
  | cons part parts ih =>
    cases parts' with
    | nil => exact absurd h.symm (ne_partsText_cons hrest' part)
    | cons part' parts' =>
      rw [partsText_cons, partsText_cons, List.cons_append, List.cons_append, List.append_assoc,
        List.append_assoc] at h
      have htail := (List.cons.inj h).2
      cases part with
      | none =>
        cases part' with
        | none =>
          obtain ⟨hparts, hrests⟩ := ih htail
          exact ⟨by rw [hparts], hrests⟩
        | some s => exact absurd htail (partsText_ne_quoted hrest s)
      | some s =>
        cases part' with
        | none => exact absurd htail.symm (partsText_ne_quoted hrest' s)
        | some s' =>
          obtain ⟨hs, hafter⟩ := quoteIdentifier_inj (partsText_ne_bracket hrest)
            (partsText_ne_bracket hrest') htail
          obtain ⟨hparts, hrests⟩ := ih hafter
          exact ⟨by rw [hs, hparts], hrests⟩

end

namespace DeclaredType

/-- The name of a built-in type has no parenthesis, comma or bracket. -/
def Plain : DeclaredType → Prop
  | builtIn name _ => ∀ c ∈ name.toList, c ≠ '(' ∧ c ≠ ',' ∧ c ≠ '['
  | quoted _ _ _ => True

/-- What follows the name of a built-in type. -/
def sizeText : Option DeclaredSize → List Char
  | none => []
  | some size => '(' :: (size.text.toList ++ [')'])

theorem builtIn_toList (name : String) (size : Option DeclaredSize) :
    (builtIn name size).text.toList = name.toList ++ sizeText size := by
  cases size with
  | none => rw [text, sizeText, List.append_nil]
  | some size =>
    have htext : (builtIn name (some size)).text = name ++ "(" ++ size.text ++ ")" := rfl
    rw [htext, String.toList_append, String.toList_append, String.toList_append,
      List.append_assoc, List.append_assoc, sizeText]
    rfl

/-- The characters of a name. -/
def isWord (c : Char) : Bool := c != '(' && c != ','

theorem name_word {name : String} {size : Option DeclaredSize} (h : (builtIn name size).Plain) :
    ∀ c ∈ name.toList, isWord c := by
  intro c hc
  obtain ⟨hopen, hcomma, -⟩ := h c hc
  simp [isWord, hopen, hcomma]

/-- A size in parentheses, if there is one. -/
def inParens : Option String → List Char
  | none => []
  | some size => '(' :: (size.toList ++ [')'])

theorem sizeText_eq (size : Option DeclaredSize) :
    sizeText size = inParens (size.map DeclaredSize.text) := by
  cases size <;> rfl

section

variable {rest rest' : List Char}

theorem inParens_stops (size : Option String) (hrest : Ends rest) :
    ∀ c ∈ (inParens size ++ rest).head?, ¬isWord c := by
  intro c hc
  cases size with
  | none =>
    rw [hrest c hc]
    decide
  | some size =>
    cases hc
    decide

theorem size_stops {size : Option DeclaredSize} (hrest : Ends rest) :
    ∀ c ∈ (sizeText size ++ rest).head?, ¬isWord c := by
  rw [sizeText_eq]
  exact inParens_stops _ hrest

/-- Equal texts have a size both or neither. -/
theorem inParens_cases {size size' : Option String} (hrest : Ends rest) (hrest' : Ends rest')
    (h : inParens size ++ rest = inParens size' ++ rest') :
    (size = none ∧ size' = none ∧ rest = rest') ∨
      ∃ s s', size = some s ∧ size' = some s' ∧
        s.toList ++ ([')'] ++ rest) = s'.toList ++ ([')'] ++ rest') := by
  have hopen : ∀ {size : String} {rest rest' : List Char}, Ends rest →
      rest ≠ inParens (some size) ++ rest' := by
    intro size rest rest' hrest heq
    have hhead := hrest '(' (by rw [heq]; rfl)
    exact absurd hhead (by decide)
  cases size with
  | none =>
    cases size' with
    | none => exact .inl ⟨rfl, rfl, h⟩
    | some size' => exact absurd h (hopen hrest)
  | some size =>
    cases size' with
    | none => exact absurd h.symm (hopen hrest')
    | some size' =>
      rw [inParens, inParens, List.cons_append, List.cons_append, List.append_assoc,
        List.append_assoc] at h
      exact .inr ⟨size, size', rfl, rfl, (List.cons.inj h).2⟩

theorem sizeText_inj {size size' : Option DeclaredSize} (hrest : Ends rest) (hrest' : Ends rest')
    (h : sizeText size ++ rest = sizeText size' ++ rest') : size = size' ∧ rest = rest' := by
  rw [sizeText_eq, sizeText_eq] at h
  rcases inParens_cases hrest hrest' h with ⟨hnone, hnone', hrests⟩ | ⟨s, s', hs, hs', htail⟩
  · rw [Option.map_eq_none_iff] at hnone hnone'
    exact ⟨hnone.trans hnone'.symm, hrests⟩
  · obtain ⟨size, rfl, rfl⟩ := Option.map_eq_some_iff.mp hs
    obtain ⟨size', rfl, rfl⟩ := Option.map_eq_some_iff.mp hs'
    obtain ⟨hsize, hrests⟩ := DeclaredSize.text_inj htail
    exact ⟨by rw [hsize], hrests⟩

/-- A name without a bracket, and its size, do not start with one. -/
theorem head_ne_bracket {name : String} (size : Option String)
    (hname : ∀ c ∈ name.toList, c ≠ '[') (hrest : Ends rest) :
    (name.toList ++ (inParens size ++ rest)).head? ≠ some '[' := by
  intro hhead
  cases hlist : name.toList with
  | cons c cs =>
    rw [hlist] at hhead
    cases hhead
    exact hname '[' (by rw [hlist]; exact List.mem_cons_self) rfl
  | nil =>
    rw [hlist] at hhead
    exact inParens_stops size hrest '[' hhead (by decide)

theorem quoted_head (first : String) (parts : List (Option String)) (readonly : Bool) :
    ((quoted first parts readonly).text.toList ++ rest).head? = some '[' := by
  rw [text, String.toList_append, String.toList_append, quoteIdentifier_toList]
  rfl

/-- A built-in type does not start with a bracket. -/
theorem builtIn_ne_quoted {name first : String} {size : Option DeclaredSize}
    {parts : List (Option String)} {readonly : Bool} (hname : (builtIn name size).Plain)
    (hrest : Ends rest) :
    (builtIn name size).text.toList ++ rest ≠
      (quoted first parts readonly).text.toList ++ rest' := by
  intro h
  have hhead := (congrArg List.head? h).trans (quoted_head first parts readonly)
  rw [builtIn_toList, sizeText_eq, List.append_assoc] at hhead
  exact head_ne_bracket _ (fun c hc => (hname c hc).2.2) hrest hhead

end

/-- The mark of a table type. -/
theorem readonly_inj {readonly readonly' : Bool} {rest rest' : List Char} (hleft : Ends rest)
    (hright : Ends rest')
    (h : (if readonly then " READONLY" else "").toList ++ rest =
      (if readonly' then " READONLY" else "").toList ++ rest') :
    readonly = readonly' ∧ rest = rest' := by
  cases readonly with
  | false =>
    cases readonly' with
    | false => exact ⟨rfl, h⟩
    | true => exact absurd (hleft ' ' (by rw [show rest = _ from h]; rfl)) (by decide)
  | true =>
    cases readonly' with
    | false => exact absurd (hright ' ' (by rw [show rest' = _ from h.symm]; rfl)) (by decide)
    | true => exact ⟨rfl, List.append_cancel_left h⟩

theorem readonly_ends (readonly : Bool) {rest : List Char} (hrest : Ends rest) :
    NameEnds ((if readonly then " READONLY" else "").toList ++ rest) := by
  intro c hc
  cases readonly with
  | false => exact Or.inr (hrest c hc)
  | true =>
    cases hc
    exact Or.inl rfl

theorem text_inj {a b : DeclaredType} {rest rest' : List Char} (ha : a.Plain) (hb : b.Plain)
    (hrest : Ends rest) (hrest' : Ends rest')
    (h : a.text.toList ++ rest = b.text.toList ++ rest') : a = b ∧ rest = rest' := by
  cases a with
  | builtIn name size =>
    cases b with
    | builtIn name' size' =>
      rw [builtIn_toList, builtIn_toList, List.append_assoc, List.append_assoc] at h
      obtain ⟨hname, hafter⟩ := Lib.word_inj (name_word ha) (name_word hb)
        (size_stops hrest) (size_stops hrest') h
      obtain ⟨hsize, hrests⟩ := sizeText_inj hrest hrest' hafter
      exact ⟨by rw [String.toList_inj.mp hname, hsize], hrests⟩
    | quoted first parts readonly => exact absurd h (builtIn_ne_quoted ha hrest)
  | quoted first parts readonly =>
    cases b with
    | builtIn name size => exact absurd h.symm (builtIn_ne_quoted hb hrest')
    | quoted first' parts' readonly' =>
      simp only [text, String.toList_append, List.append_assoc] at h
      have hends := readonly_ends readonly hrest
      have hends' := readonly_ends readonly' hrest'
      obtain ⟨hfirst, hafter⟩ := quoteIdentifier_inj (partsText_ne_bracket hends)
        (partsText_ne_bracket hends') h
      obtain ⟨hparts, hmark⟩ := partsText_inj hends hends' hafter
      obtain ⟨hreadonly, hrests⟩ := readonly_inj hrest hrest' hmark
      exact ⟨by rw [hfirst, hparts, hreadonly], hrests⟩

end DeclaredType

section

variable [MssqlTds]

def SqlType.declaredSize : SqlType → Option DeclaredSize
  | .nVarcharMax _ | .varcharMax _ | .varBinaryMax _ => some .max
  | .nVarchar _ len => some (if len > 4000 then .max else .count len)
  | .varchar _ len | .varBinary _ len => some (if len > 8000 then .max else .count len)
  | .binary _ len | .char _ len | .nChar _ len => some (.count len)
  | .decimal parts | .numeric parts =>
    some (parts.elim (.decimal 18 10) fun p => .decimal (MssqlTds.precision p) (MssqlTds.scale p))
  | .time v => some (.count (v.elim defaultVartimeScale SqlTime.scale))
  | .dateTime2 v => some (.count (v.elim defaultVartimeScale (·.time.scale)))
  | .dateTimeOffset v => some (.count (v.elim defaultVartimeScale (·.datetime2.time.scale)))
  | .vector _ dimensions .float32 => some (.count dimensions)
  | .vector _ dimensions .float16 => some (.float16 dimensions)
  | _ => none

def SqlType.declaredType : SqlType → Result DeclaredType
  | .table name _ => .ok name.declaredType
  | .udt name _ => .ok name.declaredType
  | value =>
    match MssqlTds.metaTypeName value.kind with
    | .error e => .error (.tds e)
    | .ok name => .ok (.builtIn name value.declaredSize)

theorem declarationSuffix_eq (v : SqlType) :
    declarationSuffix v = v.declaredSize.map DeclaredSize.text := by
  cases v with
  | nVarchar v len =>
    simp only [declarationSuffix, SqlType.declaredSize, Option.map_some]
    split <;> rfl
  | varchar v len | varBinary v len =>
    simp only [declarationSuffix, SqlType.declaredSize, Option.map_some]
    split <;> rfl
  | decimal parts | numeric parts => cases parts <;> rfl
  | vector v dimensions baseType => cases baseType <;> rfl
  | _ => rfl

theorem SqlType.declaredType_builtIn {v : SqlType} (htable : ∀ name rows, v ≠ .table name rows)
    (hudt : ∀ name bytes, v ≠ .udt name bytes) :
    v.declaredType =
      match MssqlTds.metaTypeName v.kind with
      | .error e => .error (.tds e)
      | .ok name => .ok (.builtIn name v.declaredSize) := by
  cases v with
  | table name rows => exact absurd rfl (htable name rows)
  | udt name bytes => exact absurd rfl (hudt name bytes)
  | _ => rfl

/-- Every type but a table or a UDT goes by the driver's name for it. -/
theorem builtIn_eq (value : SqlType) (looked : Except TdsError String) :
    (match looked with
      | .error e => .error (.tds e)
      | .ok name =>
        match declarationSuffix value with
        | some suffix => .ok s!"{name}({suffix})"
        | none => .ok name : Result String) =
      Except.map DeclaredType.text
        (match looked with
          | .error e => .error (.tds e)
          | .ok name => .ok (.builtIn name value.declaredSize)) := by
  cases looked with
  | error e => rfl
  | ok name =>
    rw [declarationSuffix_eq]
    cases value.declaredSize with
    | none => rfl
    | some size => rfl

theorem sqlDeclaration_eq (v : SqlType) :
    sqlDeclaration v = v.declaredType.map DeclaredType.text := by
  unfold sqlDeclaration
  split
  · next name _ => exact congrArg Except.ok (tableDeclaration_eq name)
  · next name _ => exact congrArg Except.ok (udtDeclaration_eq name)
  · next htable hudt =>
    rw [SqlType.declaredType_builtIn htable hudt]
    exact builtIn_eq _ _

/-- Why a parameter has no declaration. -/
inductive Refusal
  | panic (p : Lib.Panic)
  | failed (e : Error)

/-- The declared type of a parameter. -/
def declaredAs (unicode : Bool) (p : Param) : Except Refusal DeclaredType :=
  match p with
  | .error panic => .error (.panic panic)
  | .ok v => ((encodeStringParameters v unicode).declaredType).mapError .failed

/-- What a caller sees. -/
def settle {α : Type} : Except Refusal α → Compute (Result α)
  | .ok a => .ok (.ok a)
  | .error (.panic p) => .error p
  | .error (.failed e) => .ok (.error e)

theorem settle_inj {α : Type} {r r' : Except Refusal α} (h : settle r = settle r') : r = r' := by
  cases r with
  | ok a =>
    cases r' with
    | ok a' =>
      cases h
      rfl
    | error e => cases e <;> cases h
  | error e =>
    cases r' with
    | ok a' => cases e <;> cases h
    | error e' => cases e <;> cases e' <;> cases h <;> rfl

def declarationTexts : Nat → List DeclaredType → List String
  | _, [] => []
  | i, d :: ds => s!"@P{i + 1} {d.text}" :: declarationTexts (i + 1) ds

/-- The text of a declaration is sent in the encoding of the parameters. -/
theorem encodeString_eq (v : SqlType) (unicode : Bool) :
    (match v, unicode with
      | .nVarchar v len, false => .varchar v len
      | .nVarcharMax v, false => .varcharMax v
      | value, _ => value) = encodeStringParameters v unicode := by
  cases unicode with
  | true => cases v <;> rfl
  | false => cases v <;> rfl

theorem declarationsFrom_cons (unicode : Bool) (i : Nat) (v : SqlType) (ps : List Param) :
    declarationsFrom unicode i (.ok v :: ps) =
      match sqlDeclaration (encodeStringParameters v unicode) with
      | .error e => .ok (.error e)
      | .ok declaration => do
        match ← declarationsFrom unicode (i + 1) ps with
        | .error e => return .error e
        | .ok rest => return .ok (s!"@P{i + 1} {declaration}" :: rest) := by
  rw [← encodeString_eq]
  rfl

theorem declarationsFrom_eq (unicode : Bool) (i : Nat) (params : List Param) :
    declarationsFrom unicode i params =
      settle ((params.mapM (declaredAs unicode)).map (declarationTexts i)) := by
  induction params generalizing i with
  | nil => rfl
  | cons p ps ih =>
    rw [List.mapM_cons]
    cases p with
    | error panic => rfl
    | ok v =>
      rw [declarationsFrom_cons, sqlDeclaration_eq]
      show _ = settle
        ((((encodeStringParameters v unicode).declaredType.mapError Refusal.failed) >>= fun d =>
          ps.mapM (declaredAs unicode) >>= fun ds => pure (d :: ds)).map (declarationTexts i))
      cases (encodeStringParameters v unicode).declaredType with
      | error e => rfl
      | ok d =>
        simp only [ih]
        cases ps.mapM (declaredAs unicode) with
        | error e => cases e <;> rfl
        | ok ds => rfl

theorem parameterDeclaration_eq (params : List Param) (unicode : Bool) :
    parameterDeclaration params unicode =
      settle ((params.mapM (declaredAs unicode)).map fun ds =>
        ", ".intercalate (declarationTexts 0 ds)) := by
  rw [parameterDeclaration, declarationsFrom_eq]
  cases params.mapM (declaredAs unicode) with
  | error e => cases e <;> rfl
  | ok ds => rfl

end

/-- The declarations after the first, a comma before each. -/
def laterTexts (i : Nat) (ds : List DeclaredType) : List Char :=
  (declarationTexts i ds).flatMap fun text => ", ".toList ++ text.toList

theorem declarationText_toList (i : Nat) (d : DeclaredType) :
    (s!"@P{i + 1} {d.text}").toList = (s!"@P{i + 1} ").toList ++ d.text.toList := by
  show ((toString "@P" ++ toString (i + 1) ++ " ") ++ d.text).toList = _
  rw [String.toList_append]
  rfl

theorem laterTexts_cons (i : Nat) (d : DeclaredType) (ds : List DeclaredType) :
    laterTexts i (d :: ds) = ", ".toList ++ ((s!"@P{i + 1} ").toList ++
      (d.text.toList ++ laterTexts (i + 1) ds)) := by
  rw [laterTexts, declarationTexts, List.flatMap_cons, declarationText_toList, laterTexts]
  simp only [List.append_assoc]

theorem laterTexts_ends (i : Nat) (ds : List DeclaredType) : Ends (laterTexts i ds) := by
  intro c hc
  cases ds with
  | nil => cases hc
  | cons d ds =>
    rw [laterTexts_cons] at hc
    cases hc
    rfl

theorem laterTexts_inj {i : Nat} {ds ds' : List DeclaredType} (hlength : ds.length = ds'.length)
    (hds : ∀ d ∈ ds, d.Plain) (hds' : ∀ d ∈ ds', d.Plain)
    (h : laterTexts i ds = laterTexts i ds') : ds = ds' := by
  induction ds generalizing ds' i with
  | nil => exact (List.length_eq_zero_iff.mp hlength.symm).symm
  | cons d ds ih =>
    cases ds' with
    | nil => cases hlength
    | cons d' ds' =>
      rw [laterTexts_cons, laterTexts_cons] at h
      obtain ⟨rfl, hlater⟩ := DeclaredType.text_inj (hds d List.mem_cons_self)
        (hds' d' List.mem_cons_self) (laterTexts_ends _ ds) (laterTexts_ends _ ds')
        (List.append_cancel_left (List.append_cancel_left h))
      rw [ih (Nat.succ.inj hlength) (fun e he => hds e (List.mem_cons_of_mem _ he))
        (fun e he => hds' e (List.mem_cons_of_mem _ he)) hlater]

/-- The text of a list of declarations determines the declared types. -/
theorem declarations_inj {ds ds' : List DeclaredType} (hlength : ds.length = ds'.length)
    (hds : ∀ d ∈ ds, d.Plain) (hds' : ∀ d ∈ ds', d.Plain)
    (h : ", ".intercalate (declarationTexts 0 ds) = ", ".intercalate (declarationTexts 0 ds')) :
    ds = ds' := by
  cases ds with
  | nil => exact (List.length_eq_zero_iff.mp hlength.symm).symm
  | cons d ds =>
    cases ds' with
    | nil => cases hlength
    | cons d' ds' =>
      apply laterTexts_inj hlength hds hds' (i := 0)
      have hlist := congrArg String.toList h
      rw [declarationTexts, declarationTexts, Lib.intercalate_toList,
        Lib.intercalate_toList] at hlist
      rw [laterTexts, laterTexts, declarationTexts, declarationTexts, List.flatMap_cons,
        List.flatMap_cons, List.append_assoc, List.append_assoc, hlist]

/-- What the driver calls the types. -/
class TypeNames [MssqlTds] where
  name : SqlTypeKind → String
  /-- Tables and UDTs are declared by their own names. What a `sql_variant` is called, if
  anything, is left open. -/
  metaTypeName_eq : ∀ kind, kind ≠ .variant → kind ≠ .table → kind ≠ .udt →
    MssqlTds.metaTypeName kind = .ok (name kind)
  /-- A name is made of words. -/
  plain : ∀ kind text, MssqlTds.metaTypeName kind = .ok text →
    ∀ c ∈ text.toList, c ≠ '(' ∧ c ≠ ',' ∧ c ≠ '['
  bit_ne_bigInt : name .bit ≠ name .bigInt
  bit_ne_float : name .bit ≠ name .float
  bigInt_ne_float : name .bigInt ≠ name .float

section

variable [MssqlTds] [TypeNames]

theorem SqlType.declaredType_plain {v : SqlType} {d : DeclaredType} (h : v.declaredType = .ok d) :
    d.Plain := by
  unfold declaredType at h
  split at h
  · next name _ =>
    cases h
    exact trivial
  · next name _ =>
    cases h
    unfold UdtTypeName.declaredType
    split <;> exact trivial
  · split at h
    · cases h
    · next text htext =>
      cases h
      exact TypeNames.plain _ _ htext

omit [TypeNames] in
/-- A declared type is that of a value, as it is sent. -/
theorem declaredAs_ok {unicode : Bool} {p : Param} {d : DeclaredType}
    (h : declaredAs unicode p = .ok d) :
    ∃ v, p = .ok v ∧ (encodeStringParameters v unicode).declaredType = .ok d := by
  cases p with
  | error panic => cases h
  | ok v =>
    cases hd : (encodeStringParameters v unicode).declaredType with
    | error e =>
      rw [declaredAs, hd] at h
      cases h
    | ok d' =>
      rw [declaredAs, hd] at h
      cases h
      exact ⟨v, rfl, hd⟩

theorem declaredAs_plain {unicode : Bool} {p : Param} {d : DeclaredType}
    (h : declaredAs unicode p = .ok d) : d.Plain := by
  obtain ⟨v, -, hd⟩ := declaredAs_ok h
  exact SqlType.declaredType_plain hd

/-- Parameters one by one: a declaration says no less than their declared types. -/
theorem parameterDeclaration_eq_iff {α : Type} {f g : α → Param} {xs : List α} {unicode : Bool} :
    parameterDeclaration (xs.map f) unicode = parameterDeclaration (xs.map g) unicode ↔
      xs.findSome? (fun x => errorOf (declaredAs unicode (f x))) =
          xs.findSome? (fun x => errorOf (declaredAs unicode (g x))) ∧
        (xs.findSome? (fun x => errorOf (declaredAs unicode (f x))) = none →
          ∀ x ∈ xs, declaredAs unicode (f x) = declaredAs unicode (g x)) := by
  rw [← Lib.mapM_eq_iff, parameterDeclaration_eq, parameterDeclaration_eq, List.mapM_map,
    List.mapM_map]
  constructor
  · intro h
    have htexts := settle_inj h
    change (xs.mapM fun x => declaredAs unicode (f x)).map _ =
      (xs.mapM fun x => declaredAs unicode (g x)).map _ at htexts
    cases hf : xs.mapM fun x => declaredAs unicode (f x) with
    | error e =>
      rw [hf] at htexts
      cases hg : xs.mapM fun x => declaredAs unicode (g x) with
      | error e' =>
        rw [hg] at htexts
        cases htexts
        rfl
      | ok ds =>
        rw [hg] at htexts
        cases htexts
    | ok ds =>
      rw [hf] at htexts
      cases hg : xs.mapM fun x => declaredAs unicode (g x) with
      | error e =>
        rw [hg] at htexts
        cases htexts
      | ok ds' =>
        rw [hg] at htexts
        have hlength : ds.length = ds'.length :=
          (Lib.mapM_ok_length hf).trans (Lib.mapM_ok_length hg).symm
        have hds : ∀ d ∈ ds, d.Plain := by
          intro d hd
          obtain ⟨x, -, hx⟩ := Lib.mapM_ok_mem hf d hd
          exact declaredAs_plain hx
        have hds' : ∀ d ∈ ds', d.Plain := by
          intro d hd
          obtain ⟨x, -, hx⟩ := Lib.mapM_ok_mem hg d hd
          exact declaredAs_plain hx
        rw [declarations_inj hlength hds hds' (Except.ok.inj htexts)]
  · intro h
    rw [show xs.mapM (declaredAs unicode ∘ f) = _ from h]
    rfl

end

end TiberiusBridge
