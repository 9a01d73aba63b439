import TiberiusBridge.Compat.Binding

/-!
# Text and JSON parameters

A native encoder declares every text as `NVARCHAR(4000)`; only the
compatibility value looks at the length. A JSON value is sent by its kind, and
of the kinds only arrays and objects are read back as JSON.
-/
namespace TiberiusBridge

open Lib (Compute)

section

variable [MssqlTds] [JsonNumbers] [SerdeJson]

/-- A text as it reaches an encoder. -/
inductive TextSource
  | str (s : String)
  | string (s : String)
  | json (v : JsonValue)
  | columnData (s : String)

namespace TextSource

def text : TextSource → Option String
  | str s | string s | columnData s => some s
  | json v => v.sqlText

def toSql : TextSource → Compute SqlType
  | str s => ToSql.str s
  | string s => ToSql.string s
  | json v => ToSql.jsonValue v
  | columnData s => .ok (ColumnData.string (some s)).toSql

/-- The source that looks at the length. -/
def Measured : TextSource → Prop
  | columnData _ => True
  | _ => False

end TextSource

/-- `sql_declaration` gives the type's name with this suffix. -/
def DeclaredAs (p : SqlType) (suffix : String) : Prop :=
  ∀ name, MssqlTds.metaTypeName p.kind = .ok name → sqlDeclaration p = .ok s!"{name}({suffix})"

/-- Of a type, and declared as one, that has room for the text. -/
def WideEnough (p : SqlType) (s : String) : Prop :=
  (∃ v, p = .nVarcharMax (some v) ∧ DeclaredAs p "MAX") ∨
    ∃ v n, p = .nVarchar (some v) n ∧ utf16Count s ≤ n ∧ DeclaredAs p (toString n)

omit [JsonNumbers] [SerdeJson] in
theorem declaredAs_nVarcharMax (v : Option SqlString) : DeclaredAs (.nVarcharMax v) "MAX" := by
  intro name hname
  simp only [sqlDeclaration, hname, declarationSuffix]

omit [JsonNumbers] [SerdeJson] in
theorem declaredAs_nVarchar (v : Option SqlString) :
    DeclaredAs (.nVarchar v 4000) (toString 4000) := by
  intro name hname
  simp only [sqlDeclaration, hname, declarationSuffix, gt_iff_lt, Nat.lt_irrefl, if_false]

omit [JsonNumbers] [SerdeJson] in
/-- A text of fixed declared width fits where it is short. -/
theorem wideEnough_nVarchar_iff {v : SqlString} {s : String} :
    WideEnough (.nVarchar (some v) 4000) s ↔ utf16Count s ≤ 4000 := by
  constructor
  · rintro (⟨v', h, -⟩ | ⟨v', n, h, hle, -⟩)
    · cases h
    · cases h
      exact hle
  · intro h
    exact .inr ⟨v, 4000, rfl, h, declaredAs_nVarchar _⟩

theorem JsonValue.toSql_text {v : JsonValue} {s : String} (h : v.sqlText = some s) :
    ToSql.jsonValue v = .ok (.nVarchar (some (MssqlTds.fromUtf8String s)) 4000) := by
  cases v with
  | string | array | object => cases h; rfl
  | _ => cases h

omit [JsonNumbers] [SerdeJson] in
theorem wideEnough_columnData (s : String) :
    WideEnough (ColumnData.string (some s)).toSql s := by
  by_cases h : utf16Count s ≤ 4000
  · rw [(string_same s).1 h]
    exact wideEnough_nVarchar_iff.mpr h
  · have hmax : (ColumnData.string (some s)).toSql =
        .nVarcharMax (some (MssqlTds.fromUtf8String s)) := if_pos (by omega)
    rw [hmax]
    exact .inl ⟨_, rfl, declaredAs_nVarcharMax _⟩

theorem TextSource.wideEnough_iff {x : TextSource} {s : String} (h : x.text = some s) :
    (∃ p, x.toSql = .ok p ∧ WideEnough p s) ↔ utf16Count s ≤ 4000 ∨ x.Measured := by
  have fixed : x.toSql = .ok (.nVarchar (some (MssqlTds.fromUtf8String s)) 4000) →
      ¬ x.Measured → ((∃ p, x.toSql = .ok p ∧ WideEnough p s) ↔
        utf16Count s ≤ 4000 ∨ x.Measured) := by
    intro hp hm
    rw [or_iff_left hm, ← wideEnough_nVarchar_iff (v := MssqlTds.fromUtf8String s)]
    constructor
    · rintro ⟨p, hp', hw⟩
      cases hp.symm.trans hp'
      exact hw
    · exact fun hw => ⟨_, hp, hw⟩
  cases x with
  | str s' => cases h; exact fixed rfl id
  | string s' => cases h; exact fixed rfl id
  | json v => exact fixed (JsonValue.toSql_text h) id
  | columnData s' =>
    cases h
    exact iff_of_true ⟨_, rfl, wideEnough_columnData s⟩ (.inr trivial)

/-- A text is declared wide enough exactly where it is short or measured. -/
structure TextWidths : Prop where
  wide : ∀ (x : TextSource) (s : String), x.text = some s →
    ((∃ p, x.toSql = .ok p ∧ WideEnough p s) ↔ utf16Count s ≤ 4000 ∨ x.Measured)

theorem text_widths : TextWidths := ⟨fun _ _ => TextSource.wideEnough_iff⟩

def JsonValue.IsContainer : JsonValue → Prop
  | .array _ | .object _ => True
  | _ => False

/-- What a JSON value is read back as through `IntoSql` and `FromSqlOwned`. -/
def JsonDecodes (j x : JsonValue) : Prop :=
  ∃ c, IntoSql.native ToSql.jsonValue j = .ok c ∧ Compat.jsonValue c = .ok (.ok (some x))

/-- Read back as itself, in either channel. -/
structure JsonRoundTrip (j : JsonValue) : Prop where
  compat : JsonDecodes j j
  native : ∀ s n, ToSql.jsonValue j = .ok (.nVarchar (some s) n) →
    FromSql.jsonValue (.string s) = .ok (some j)

theorem native_text {j : JsonValue} {s : String} (h : j.sqlText = some s) :
    IntoSql.native ToSql.jsonValue j = .ok (.string (some s)) := by
  rw [IntoSql.native, JsonValue.toSql_text h, Lib.Compute.ok_bind, fromNative_text]
  rfl

/-- A JSON value that is sent as text is read back as what the text means. -/
theorem jsonDecodes_text_iff {j x : JsonValue} {s : String} (h : j.sqlText = some s) :
    JsonDecodes j x ↔ SerdeJson.fromStr s = some x := by
  have hdec : Compat.jsonValue (.string (some s)) = match SerdeJson.fromStr s with
      | some v => .ok (.ok (some v))
      | none => .ok (.error (.conversion (.cannotInterpretCell
        (.string (MssqlTds.fromUtf8String s)) "serde_json::value::Value"))) := by
    have hcell : FromSql.jsonValue (.string (MssqlTds.fromUtf8String s)) =
        .ok (SerdeJson.fromStr s) := by rw [FromSql.jsonValue, MssqlTds.string_text]
    show decodeOwned _ FromSql.jsonValue (.string (some s)) = _
    simp only [decodeOwned, ColumnData.intoColumnValue, hcell, Lib.Compute.ok_bind]
    cases SerdeJson.fromStr s <;> rfl
  constructor
  · rintro ⟨c, hc, hx⟩
    cases (native_text h).symm.trans hc
    rw [hdec] at hx
    cases hs : SerdeJson.fromStr s with
    | none => rw [hs] at hx; cases hx
    | some v => rw [hs] at hx; cases hx; rfl
  · intro hx
    exact ⟨_, native_text h, by rw [hdec, hx]⟩

/-- Booleans, numbers and null are sent as SQL values, which are no JSON text. -/
theorem not_jsonDecodes {j : JsonValue} (h : j.sqlText = none) (x : JsonValue) :
    ¬ JsonDecodes j x := by
  rintro ⟨c, hc, hx⟩
  cases j with
  | null => cases hc; cases hx
  | bool b => cases hc; cases hx
  | number n =>
    obtain ⟨s, hs, hc⟩ := Lib.Compute.bind_ok hc
    simp only [ToSql.jsonValue] at hs
    split at hs <;> cases hs <;> cases hc <;> cases hx
  | string | array | object => cases h

omit [MssqlTds] in
theorem JsonValue.IsContainer.sqlText {j : JsonValue} (h : j.IsContainer) :
    j.sqlText = some (SerdeJson.text j) := by
  cases j with
  | array | object => rfl
  | _ => exact h.elim

/-- Exactly arrays and objects are read back as themselves, and two of them only as one where they
are the same; a text in quotes is never the text between them. -/
theorem json_round_trip (j : JsonValue) (hserde : SerdeJson.fromStr (SerdeJson.text j) = some j)
    (hquoted : ∀ s t, SerdeJson.fromStr s = some (.string t) → t.length < s.length) :
    (JsonRoundTrip j ↔ j.IsContainer) ∧
      ∀ j' x, SerdeJson.fromStr (SerdeJson.text j') = some j' → j.IsContainer → j'.IsContainer →
        JsonDecodes j x → JsonDecodes j' x → j = j' := by
  refine ⟨⟨?_, ?_⟩, ?_⟩
  · intro h
    cases hs : j.sqlText with
    | none => exact absurd h.compat (not_jsonDecodes hs j)
    | some s =>
      have hparse := (jsonDecodes_text_iff hs).mp h.compat
      cases j with
      | string t =>
        cases hs
        exact absurd (hquoted _ _ hparse) (Nat.lt_irrefl _)
      | array | object => trivial
      | _ => cases hs
  · intro h
    refine ⟨(jsonDecodes_text_iff h.sqlText).mpr hserde, fun s n hs => ?_⟩
    cases (JsonValue.toSql_text h.sqlText).symm.trans hs
    rw [FromSql.jsonValue, MssqlTds.string_text, hserde]
  · intro j' x hserde' h h' hx hx'
    rw [jsonDecodes_text_iff h.sqlText, hserde] at hx
    rw [jsonDecodes_text_iff h'.sqlText, hserde'] at hx'
    cases hx
    cases hx'
    rfl

end

section

open scoped Reference

/-- A `String` of 4001 characters is declared as `NVARCHAR(4000)`. -/
theorem long_text_narrow :
    (TextSource.string longText).toSql =
      .ok (.nVarchar (some (MssqlTds.fromUtf8String longText)) 4000) ∧
    utf16Count longText = 4001 ∧
    ¬ ∃ p, (TextSource.string longText).toSql = .ok p ∧ WideEnough p longText := by
  have hcount : utf16Count longText = 4001 := utf16Count_replicate 4001 'a' (by decide)
  refine ⟨rfl, hcount, fun h => ?_⟩
  rcases (TextSource.wideEnough_iff rfl).mp h with hle | hm
  · omega
  · exact hm

namespace PlainJson

/-- A text up to its closing quote, and what follows. -/
def quoted (cs : List Char) : Option (String × List Char) :=
  match cs.dropWhile (· != '\x22') with
  | [] => none
  | _ :: rest => some (String.ofList (cs.takeWhile (· != '\x22')), rest)

mutual

/-- A value without blanks, escapes and numbers, and what follows it. -/
def value : Nat → List Char → Option (JsonValue × List Char)
  | 0, _ => none
  | _ + 1, 'n' :: 'u' :: 'l' :: 'l' :: cs => some (.null, cs)
  | _ + 1, 't' :: 'r' :: 'u' :: 'e' :: cs => some (.bool true, cs)
  | _ + 1, 'f' :: 'a' :: 'l' :: 's' :: 'e' :: cs => some (.bool false, cs)
  | _ + 1, '\x22' :: cs => (quoted cs).map fun read => (.string read.1, read.2)
  | _ + 1, '[' :: ']' :: cs => some (.array [], cs)
  | n + 1, '[' :: cs => (items n cs).map fun read => (.array read.1, read.2)
  | _ + 1, '\x7b' :: '\x7d' :: cs => some (.object [], cs)
  | n + 1, '\x7b' :: cs => (members n cs).map fun read => (.object read.1, read.2)
  | _ + 1, _ => none

def items : Nat → List Char → Option (List JsonValue × List Char)
  | 0, _ => none
  | n + 1, cs => do
    let item ← value n cs
    match item.2 with
    | ']' :: rest => return ([item.1], rest)
    | ',' :: rest => (items n rest).map fun read => (item.1 :: read.1, read.2)
    | _ => none

def members : Nat → List Char → Option (List (String × JsonValue) × List Char)
  | 0, _ => none
  | n + 1, '\x22' :: cs => do
    let name ← quoted cs
    match name.2 with
    | ':' :: rest =>
      let member ← value n rest
      match member.2 with
      | '\x7d' :: rest => return ([(name.1, member.1)], rest)
      | ',' :: rest => (members n rest).map fun read => ((name.1, member.1) :: read.1, read.2)
      | _ => none
    | _ => none
  | _ + 1, _ => none

end

def fromStr (s : String) : Option JsonValue := do
  let read ← value s.toList.length s.toList
  if read.2.isEmpty then return read.1 else none

@[reducible] def serdeJson : SerdeJson where
  text := Reference.jsonText
  fromStr := fromStr

theorem quoted_length {cs rest : List Char} {t : String} (h : quoted cs = some (t, rest)) :
    t.length ≤ cs.length := by
  unfold quoted at h
  split at h <;> cases h
  rw [String.length_ofList]
  exact (List.takeWhile_sublist _).length_le

/-- Only what starts with a quote is read as a text. -/
theorem value_string {n : Nat} {cs rest : List Char} {t : String}
    (h : value n cs = some (.string t, rest)) :
    ∃ cs', cs = '\x22' :: cs' ∧ quoted cs' = some (t, rest) := by
  unfold value at h
  split at h
  case h_5 cs' =>
    obtain ⟨read, hread, heq⟩ := Option.map_eq_some_iff.mp h
    cases heq
    exact ⟨cs', rfl, hread⟩
  case h_7 | h_9 =>
    obtain ⟨read, -, heq⟩ := Option.map_eq_some_iff.mp h
    cases heq
  all_goals cases h

/-- The quotes of a text are not part of it. -/
theorem fromStr_string {s t : String} (h : fromStr s = some (.string t)) : t.length < s.length := by
  obtain ⟨read, hvalue, hread⟩ := Option.bind_eq_some_iff.mp h
  split at hread
  · obtain ⟨j, rest⟩ := read
    cases hread
    obtain ⟨cs, hcs, hquoted⟩ := value_string hvalue
    have hle := quoted_length hquoted
    rw [← String.length_toList (s := s), hcs, List.length_cons]
    omega
  · cases hread

end PlainJson

/-- A text, a keyword and nested containers. -/
def nestedJson : JsonValue :=
  .object [("a", .array [.null, .object [("b", .bool true)]]), ("c", .string "x")]

theorem nestedJson_text : (Reference.jsonText nestedJson).toList =
    ['\x7b', '\x22', 'a', '\x22', ':',
      '[', 'n', 'u', 'l', 'l', ',',
        '\x7b', '\x22', 'b', '\x22', ':', 't', 'r', 'u', 'e', '\x7d', ']', ',',
      '\x22', 'c', '\x22', ':', '\x22', 'x', '\x22', '\x7d'] := by
  simp [nestedJson, Reference.jsonText, Reference.jsonTexts, Reference.jsonMembers, Reference.quote]
  rfl

theorem nestedJson_read : PlainJson.fromStr (Reference.jsonText nestedJson) = some nestedJson := by
  rw [PlainJson.fromStr, nestedJson_text]
  rfl

theorem quotedJson_read :
    PlainJson.fromStr (Reference.jsonText (.string "x")) = some (.string "x") := by
  have htext : (Reference.jsonText (.string "x")).toList = ['\x22', 'x', '\x22'] := by
    simp [Reference.jsonText, Reference.quote]
  rw [PlainJson.fromStr, htext]
  rfl

/-- An object with an array in it is read back, and so is not the text `x`. -/
theorem json_round_trip_nested :
    @JsonRoundTrip _ _ PlainJson.serdeJson nestedJson ∧
      ¬@JsonRoundTrip _ _ PlainJson.serdeJson (.string "x") :=
  ⟨(@json_round_trip _ _ PlainJson.serdeJson nestedJson nestedJson_read
      fun _ _ => PlainJson.fromStr_string).1.mpr trivial,
    fun h => (@json_round_trip _ _ PlainJson.serdeJson (.string "x") quotedJson_read
      fun _ _ => PlainJson.fromStr_string).1.mp h⟩

/-- The text `yes` is sent as it is and is no JSON; `true` is sent as a bit. -/
theorem json_scalars_refused :
    IntoSql.native ToSql.jsonValue (.string "yes") = .ok (.string (some "yes")) ∧
    Compat.jsonValue (.string (some "yes")) = .ok (.error (.conversion (.cannotInterpretCell
      (.string "yes") "serde_json::value::Value"))) ∧
    IntoSql.native ToSql.jsonValue (.bool true) = .ok (.bit (some true)) ∧
    Compat.jsonValue (.bit (some true)) = .ok (.error (.conversion (.cannotInterpret
      (.bit (some true)) "serde_json::value::Value"))) :=
  ⟨rfl, rfl, rfl, rfl⟩

end

end TiberiusBridge
