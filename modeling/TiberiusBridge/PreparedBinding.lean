import TiberiusBridge.Declaration

/-!
# What `prepare` declares and what execution binds

The declarations and the parameters are built by separate code from the same
list: both name by position and both switch text to the client's encoding.
-/
namespace TiberiusBridge

open Lib (Compute)

variable [MssqlTds]

/-- A bound parameter as `sp_prepare` would declare it. -/
def RpcParameter.declaration (p : RpcParameter) : Result String :=
  let name := p.name.getD ""
  (sqlDeclaration p.value).map fun declaration => s!"{name} {declaration}"

section

variable {unicode : Bool} {i : Nat}

theorem declaration_boundParameter (v : SqlType) :
    (boundParameter unicode i v).declaration =
      (sqlDeclaration (encodeStringParameters v unicode)).map (s!"@P{i + 1} {·}") := rfl

/-- The declarations of a list are those of the parameters bound for it. -/
theorem declarationsFrom_bound (vs : List SqlType) :
    declarationsFrom unicode i (vs.map .ok) =
      .ok ((boundFrom unicode i vs).mapM RpcParameter.declaration) := by
  induction vs generalizing i with
  | nil => rfl
  | cons v vs ih =>
    rw [List.map_cons, declarationsFrom_cons, boundFrom_cons, List.mapM_cons,
      declaration_boundParameter, ih]
    cases sqlDeclaration (encodeStringParameters v unicode) with
    | error e => rfl
    | ok declaration =>
      cases (boundFrom unicode (i + 1) vs).mapM RpcParameter.declaration <;> rfl

theorem parameterDeclaration_bound (vs : List SqlType) :
    parameterDeclaration (vs.map .ok) unicode =
      .ok (((boundFrom unicode 0 vs).mapM RpcParameter.declaration).map (", ".intercalate ·)) := by
  rw [parameterDeclaration, declarationsFrom_bound]
  cases (boundFrom unicode 0 vs).mapM RpcParameter.declaration <;> rfl

theorem declarationsFrom_returns {params : List Param} {texts : List String}
    (h : declarationsFrom unicode i params = .ok (.ok texts)) :
    ∃ vs : List SqlType, params = vs.map .ok := by
  induction params generalizing i texts with
  | nil => exact ⟨[], rfl⟩
  | cons p ps ih =>
    cases p with
    | error panic => cases h
    | ok v =>
      rw [declarationsFrom_cons] at h
      split at h
      · cases h
      obtain ⟨rest, hrest, h⟩ := Lib.Compute.bind_ok h
      cases rest with
      | error e => cases h
      | ok texts =>
        obtain ⟨vs, rfl⟩ := ih hrest
        exact ⟨v :: vs, rfl⟩

/-- A list that is declared is also bound. -/
theorem parameterDeclaration_returns {params : List Param} {text : String}
    (h : parameterDeclaration params unicode = .ok (.ok text)) :
    ∃ rpc, buildParamsWithStringEncoding params unicode = .ok rpc := by
  obtain ⟨texts, htexts, h⟩ := Lib.Compute.bind_ok h
  cases texts with
  | error e => cases h
  | ok texts =>
    obtain ⟨vs, hvs⟩ := declarationsFrom_returns htexts
    exact ⟨_, buildParamsFrom_ok_iff.mpr ⟨vs, hvs, rfl⟩⟩

theorem mapM_declaration_fails_iff {rpc : List RpcParameter} :
    (∃ e, rpc.mapM RpcParameter.declaration = .error e) ↔
      ∃ p ∈ rpc, ∃ e, sqlDeclaration p.value = .error e := by
  have herror : ∀ p : RpcParameter,
      Lib.errorOf p.declaration = Lib.errorOf (sqlDeclaration p.value) := by
    intro p
    rw [RpcParameter.declaration]
    cases sqlDeclaration p.value <;> rfl
  simp only [Lib.mapM_error_iff, herror, ← Option.isSome_iff_exists, List.findSome?_isSome_iff]
  refine exists_congr fun p => and_congr_right fun _ => ?_
  cases sqlDeclaration p.value <;> simp [Lib.errorOf]

end

/-- The declarations of a list against the parameters that execution binds for it. -/
structure BindsAsDeclared (params : List Param) (unicode : Bool) : Prop where
  /-- One parameter a value, named `@P1` to `@Pn`, in the declared encoding. -/
  bound : ∀ rpc, buildParamsWithStringEncoding params unicode = .ok rpc →
    ∃ vs : List SqlType, params = vs.map .ok ∧ rpc = vs.mapIdx (boundParameter unicode)
  declared : ∀ rpc, buildParamsWithStringEncoding params unicode = .ok rpc →
    parameterDeclaration params unicode =
      .ok ((rpc.mapM RpcParameter.declaration).map (", ".intercalate ·))
  fails : ∀ rpc, buildParamsWithStringEncoding params unicode = .ok rpc →
    ((∃ e, parameterDeclaration params unicode = .ok (.error e)) ↔
      ∃ p ∈ rpc, ∃ e, sqlDeclaration p.value = .error e)
  /-- Where a conversion panics, nothing is declared. -/
  panics : (∃ p, buildParamsWithStringEncoding params unicode = .error p) →
    ∀ text, parameterDeclaration params unicode ≠ .ok (.ok text)

theorem binds_as_declared (params : List Param) (unicode : Bool) :
    BindsAsDeclared params unicode := by
  have hbound : ∀ rpc, buildParamsWithStringEncoding params unicode = .ok rpc →
      ∃ vs : List SqlType, params = vs.map .ok ∧ rpc = boundFrom unicode 0 vs :=
    fun rpc h => buildParamsFrom_ok_iff.mp h
  have hdeclared : ∀ rpc, buildParamsWithStringEncoding params unicode = .ok rpc →
      parameterDeclaration params unicode =
        .ok ((rpc.mapM RpcParameter.declaration).map (", ".intercalate ·)) := by
    intro rpc h
    obtain ⟨vs, rfl, rfl⟩ := hbound rpc h
    exact parameterDeclaration_bound vs
  refine { bound := ?_, declared := hdeclared, fails := ?_, panics := ?_ }
  · intro rpc h
    obtain ⟨vs, hvs, hrpc⟩ := hbound rpc h
    refine ⟨vs, hvs, hrpc.trans ?_⟩
    simp only [boundFrom, Nat.zero_add]
  · intro rpc h
    rw [hdeclared rpc h, ← mapM_declaration_fails_iff]
    cases rpc.mapM RpcParameter.declaration with
    | error e => simp [Except.map]
    | ok texts => simp [Except.map]
  · rintro ⟨p, hp⟩ text h
    obtain ⟨rpc, hrpc⟩ := parameterDeclaration_returns h
    cases hp.symm.trans hrpc

end TiberiusBridge
