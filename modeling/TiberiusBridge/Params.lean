import TiberiusBridge.Lib.Compute
import TiberiusBridge.Compat.ColumnData

/-!
# Parameter lists and prepared declarations

A parameter is what its `to_sql` does: it returns a `SqlType`, or panics on a
date outside SQL Server's range.
-/
namespace TiberiusBridge

open Lib (Compute)

variable [MssqlTds]

/-- `&dyn ToSql`. -/
abbrev Param := Compute SqlType

def encodeStringParameters (sqlType : SqlType) (unicode : Bool) : SqlType :=
  if unicode then sqlType
  else
    match sqlType with
    | .nVarchar v len => .varchar v len
    | .nVarcharMax v => .varcharMax v
    | other => other

/-- The parameters from position `i` on. -/
def buildParamsFrom (unicode : Bool) : Nat → List Param → Compute (List RpcParameter)
  | _, [] => .ok []
  | i, p :: ps => do
    let value ← p
    let rest ← buildParamsFrom unicode (i + 1) ps
    return { name := some s!"@P{i + 1}", status := .none
             value := encodeStringParameters value unicode } :: rest

def buildParamsWithStringEncoding (params : List Param) (unicode : Bool) :
    Compute (List RpcParameter) :=
  buildParamsFrom unicode 0 params

/-- `None` for an empty slice, as the entry points pass it to the driver. -/
def rpcParams (params : List Param) (unicode : Bool) : Compute (Option (List RpcParameter)) :=
  if params.isEmpty then .ok none
  else do return some (← buildParamsWithStringEncoding params unicode)

theorem rpcParams_ok {params : List Param} {unicode : Bool} {rpc : List RpcParameter}
    (h : buildParamsWithStringEncoding params unicode = .ok rpc) :
    ∃ r, rpcParams params unicode = .ok r := by
  unfold rpcParams
  split
  · exact ⟨none, rfl⟩
  · rw [h]; exact ⟨some rpc, rfl⟩

/-- The parameter bound for a value at position `i`. -/
def boundParameter (unicode : Bool) (i : Nat) (v : SqlType) : RpcParameter where
  name := some s!"@P{i + 1}"
  status := .none
  value := encodeStringParameters v unicode

/-- The parameters bound for values from position `i` on. -/
def boundFrom (unicode : Bool) (i : Nat) (vs : List SqlType) : List RpcParameter :=
  vs.mapIdx fun j v => boundParameter unicode (i + j) v

section

variable {unicode : Bool} {i : Nat}

theorem boundFrom_cons (v : SqlType) (vs : List SqlType) :
    boundFrom unicode i (v :: vs) =
      boundParameter unicode i v :: boundFrom unicode (i + 1) vs :=
  Lib.mapIdx_from_cons (boundParameter unicode) i v vs

theorem buildParamsFrom_cons (v : SqlType) (ps : List Param) :
    buildParamsFrom unicode i (.ok v :: ps) = do
      return boundParameter unicode i v :: (← buildParamsFrom unicode (i + 1) ps) := rfl

/-- Every value is bound by its position, once all are converted. -/
theorem buildParamsFrom_ok_iff {params : List Param} {rpc : List RpcParameter} :
    buildParamsFrom unicode i params = .ok rpc ↔
      ∃ vs : List SqlType, params = vs.map .ok ∧ rpc = boundFrom unicode i vs := by
  constructor
  · intro h
    induction params generalizing i rpc with
    | nil =>
      cases h
      exact ⟨[], rfl, rfl⟩
    | cons p ps ih =>
      cases p with
      | error panic => cases h
      | ok v =>
        rw [buildParamsFrom_cons] at h
        obtain ⟨rest, hrest, h⟩ := Lib.Compute.bind_ok h
        cases h
        obtain ⟨vs, rfl, rfl⟩ := ih hrest
        exact ⟨v :: vs, rfl, (boundFrom_cons v vs).symm⟩
  · rintro ⟨vs, rfl, rfl⟩
    induction vs generalizing i with
    | nil => rfl
    | cons v vs ih =>
      rw [List.map_cons, buildParamsFrom_cons, ih, boundFrom_cons]
      rfl

/-- The values are converted in order, and then numbered. -/
theorem buildParamsFrom_eq (params : List Param) :
    buildParamsFrom unicode i params = (params.mapM id).map (boundFrom unicode i) := by
  induction params generalizing i with
  | nil => rfl
  | cons p ps ih =>
    rw [List.mapM_cons]
    cases p with
    | error panic => rfl
    | ok v =>
      rw [buildParamsFrom_cons, ih, id, Lib.Compute.ok_bind]
      cases ps.mapM id with
      | error panic => rfl
      | ok vs => exact congrArg Except.ok (boundFrom_cons v vs).symm

/-- The parameters say no more of the values than how they are encoded. -/
theorem boundFrom_eq_iff {vs ws : List SqlType} :
    boundFrom unicode i vs = boundFrom unicode i ws ↔
      vs.map (encodeStringParameters · unicode) = ws.map (encodeStringParameters · unicode) := by
  induction vs generalizing i ws with
  | nil => cases ws <;> simp [boundFrom]
  | cons v vs ih =>
    cases ws with
    | nil => simp [boundFrom]
    | cons w ws =>
      rw [boundFrom_cons, boundFrom_cons, List.cons.injEq, ih, List.map_cons, List.map_cons,
        List.cons.injEq, boundParameter, boundParameter, RpcParameter.mk.injEq]
      simp only [true_and]

/-- Two lists build the same parameters where they panic first at the same value, or else every
value is encoded alike. -/
theorem buildParams_eq_iff {α : Type} {f g : α → Param} {xs : List α} :
    buildParamsWithStringEncoding (xs.map f) unicode =
        buildParamsWithStringEncoding (xs.map g) unicode ↔
      xs.findSome? (fun x => Lib.errorOf (f x)) = xs.findSome? (fun x => Lib.errorOf (g x)) ∧
        (xs.findSome? (fun x => Lib.errorOf (f x)) = none → ∀ x ∈ xs,
          (f x).map (encodeStringParameters · unicode) =
            (g x).map (encodeStringParameters · unicode)) := by
  have herror : ∀ f : α → Param, (fun x => Lib.errorOf (f x)) =
      fun x => Lib.errorOf ((f x).map (encodeStringParameters · unicode)) :=
    fun f => funext fun x => (Lib.errorOf_map _ (f x)).symm
  rw [herror f, herror g, ← Lib.mapM_eq_iff, Lib.mapM_map_result, Lib.mapM_map_result,
    buildParamsWithStringEncoding, buildParamsWithStringEncoding, buildParamsFrom_eq,
    buildParamsFrom_eq, List.mapM_map, List.mapM_map]
  change (xs.mapM f).map _ = (xs.mapM g).map _ ↔ _
  cases xs.mapM f with
  | error p =>
    cases xs.mapM g with
    | error q =>
      show Except.error p = Except.error q ↔ Except.error p = Except.error q
      rw [Except.error.injEq, Except.error.injEq]
    | ok ws => exact iff_of_false (by rintro ⟨⟩) (by rintro ⟨⟩)
  | ok vs =>
    cases xs.mapM g with
    | error q => exact iff_of_false (by rintro ⟨⟩) (by rintro ⟨⟩)
    | ok ws =>
      show Except.ok (boundFrom unicode 0 vs) = Except.ok (boundFrom unicode 0 ws) ↔
        Except.ok (vs.map _) = Except.ok (ws.map _)
      rw [Except.ok.injEq, Except.ok.injEq, boundFrom_eq_iff]

end

def quoteIdentifier (identifier : String) : String :=
  "[" ++ identifier.replace "]" "]]" ++ "]"

/-- The part, unless it is absent or empty. -/
def nonEmptyPart (part : Option String) : Option String := part.filter (!·.isEmpty)

def udtDeclaration (name : UdtTypeName) : String :=
  let dbName := nonEmptyPart name.dbName
  let parts := (dbName.map quoteIdentifier).toList ++
    (match nonEmptyPart name.schemaName with
      | some schemaName => [quoteIdentifier schemaName]
      | none => if dbName.isSome then [""] else []) ++
    [quoteIdentifier name.typeName]
  ".".intercalate parts

def tableDeclaration (name : TvpTypeName) : String :=
  let schema := quoteIdentifier (name.schemaName.getD "dbo")
  s!"{schema}.{quoteIdentifier name.typeName} READONLY"

/-- The parenthesised suffix of a declaration, where the type has one. -/
def declarationSuffix : SqlType → Option String
  | .nVarcharMax _ | .varcharMax _ | .varBinaryMax _ => some "MAX"
  | .nVarchar _ len => some (if len > 4000 then "MAX" else toString len)
  | .varchar _ len | .varBinary _ len => some (if len > 8000 then "MAX" else toString len)
  | .binary _ len | .char _ len | .nChar _ len => some (toString len)
  | .decimal parts | .numeric parts =>
    some (parts.elim "18,10" fun p => s!"{MssqlTds.precision p},{MssqlTds.scale p}")
  | .time v => some (toString (v.elim defaultVartimeScale SqlTime.scale))
  | .dateTime2 v => some (toString (v.elim defaultVartimeScale (·.time.scale)))
  | .dateTimeOffset v => some (toString (v.elim defaultVartimeScale (·.datetime2.time.scale)))
  | .vector _ dimensions .float32 => some (toString dimensions)
  | .vector _ dimensions .float16 => some s!"{dimensions}, float16"
  | _ => none

def sqlDeclaration : SqlType → Result String
  | .table name _ => .ok (tableDeclaration name)
  | .udt name _ => .ok (udtDeclaration name)
  | value =>
    match MssqlTds.metaTypeName value.kind with
    | .error e => .error (.tds e)
    | .ok name =>
      match declarationSuffix value with
      | some suffix => .ok s!"{name}({suffix})"
      | none => .ok name

/-- The declarations from position `i` on. Conversion stops at the first failing one. -/
def declarationsFrom (unicode : Bool) : Nat → List Param → Compute (Result (List String))
  | _, [] => .ok (.ok [])
  | i, p :: ps => do
    let value := match (← p), unicode with
      | .nVarchar v len, false => .varchar v len
      | .nVarcharMax v, false => .varcharMax v
      | value, _ => value
    match sqlDeclaration value with
    | .error e => return .error e
    | .ok declaration =>
      match ← declarationsFrom unicode (i + 1) ps with
      | .error e => return .error e
      | .ok rest => return .ok (s!"@P{i + 1} {declaration}" :: rest)

def parameterDeclaration (params : List Param) (unicode : Bool) : Compute (Result String) := do
  match ← declarationsFrom unicode 0 params with
  | .error e => return .error e
  | .ok declarations => return .ok (", ".intercalate declarations)

end TiberiusBridge
