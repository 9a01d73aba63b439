import TiberiusBridge.Lib.Settings
import TiberiusBridge.Pool

/-!
# The configuration builder

Every setter writes one setting, and the three that choose a transport write the
same one. So a configuration is what each setting was told last. What the driver
is given of it loses nothing but the difference between the two ways to ask for
no encryption, and between a name that is left out and the driver's own.
-/
namespace TiberiusBridge

open Lib (Settings)

/-- The setters of `Config`. -/
inductive ConfigCall (π : Type)
  | host (host : String)
  | port (port : UInt16)
  | database (database : String)
  | authentication (auth : AuthMethod)
  | trustCert
  | trustCertCa (path : String)
  | hostNameInCertificate (name : String)
  | clientName (name : String)
  | sendStringParametersAsUnicode (enabled : Bool)
  | readonly (readonly : Bool)
  | encryption (level : EncryptionLevel)
  | multiSubnetFailover (enabled : Bool)
  | securityContextProvider (provider : π)
  | namedPipe (pipe : Option String)
  | sharedMemory
  | transport (transport : Transport)
  | applicationName (name : String)
  | instanceName (name : String)

inductive ConfigSetting
  | host
  | port
  | database
  | auth
  | trustCert
  | serverCertificate
  | hostNameInCertificate
  | readonly
  | encryption
  | applicationName
  | instanceName
  | clientName
  | sendStringParametersAsUnicode
  | multiSubnetFailover
  | transport
  | securityContextProvider
  deriving DecidableEq, Repr

namespace ConfigCall

variable {π : Type}

def apply : ConfigCall π → Config π → Config π
  | .host name, c => { c with host := name }
  | .port number, c => { c with port := number }
  | .database name, c => { c with database := name }
  | .authentication auth, c => { c with auth }
  | .trustCert, c => { c with trustCert := true }
  | .trustCertCa path, c => { c with serverCertificate := some path }
  | .hostNameInCertificate name, c => { c with hostNameInCertificate := some name }
  | .clientName name, c => { c with clientName := some name }
  | .sendStringParametersAsUnicode enabled, c => { c with sendStringParametersAsUnicode := enabled }
  | .readonly enabled, c => { c with readonly := enabled }
  | .encryption level, c => { c with encryption := level }
  | .multiSubnetFailover enabled, c => { c with multiSubnetFailover := enabled }
  | .securityContextProvider provider, c => { c with securityContextProvider := some provider }
  | .namedPipe pipe, c => { c with transport := .namedPipe pipe }
  | .sharedMemory, c => { c with transport := .sharedMemory }
  | .transport t, c => { c with transport := t }
  | .applicationName name, c => { c with applicationName := some name }
  | .instanceName name, c => { c with instanceName := some name }

/-- The field a setter writes. -/
def setting : ConfigCall π → ConfigSetting
  | host _ => .host
  | port _ => .port
  | database _ => .database
  | authentication _ => .auth
  | trustCert => .trustCert
  | trustCertCa _ => .serverCertificate
  | hostNameInCertificate _ => .hostNameInCertificate
  | clientName _ => .clientName
  | sendStringParametersAsUnicode _ => .sendStringParametersAsUnicode
  | readonly _ => .readonly
  | encryption _ => .encryption
  | multiSubnetFailover _ => .multiSubnetFailover
  | securityContextProvider _ => .securityContextProvider
  | namedPipe _ | sharedMemory | transport _ => .transport
  | applicationName _ => .applicationName
  | instanceName _ => .instanceName

theorem apply_comm {c c' : ConfigCall π} (config : Config π) (h : c.setting ≠ c'.setting) :
    c.apply (c'.apply config) = c'.apply (c.apply config) := by
  cases c <;> cases c' <;> first | rfl | exact absurd rfl h

theorem apply_apply {c c' : ConfigCall π} (config : Config π) (h : c.setting = c'.setting) :
    c.apply (c'.apply config) = c.apply config := by
  cases c <;> cases c' <;> first | rfl | cases h

end ConfigCall

/-- Every setting of a configuration keeps the last call. -/
def configSettings (π : Type) : Settings (Config π) (ConfigCall π) ConfigSetting where
  apply := ConfigCall.apply
  setting := ConfigCall.setting
  accumulates _ := false
  commutes := ConfigCall.apply_comm
  overwrites config h _ := ConfigCall.apply_apply config h

/-- `ClientContext::default()`, which authenticates by password, and
`DriverVersion::from_cargo_version()`. -/
structure DriverDefaults (π : Type) where
  context : ClientContext π
  driverVersion : DriverVersion
  method : context.tdsAuthenticationMethod = .password

namespace Config

variable {π : Type} {c c' : Config π} {d : DriverDefaults π}

/-- The settings lead to the same context, datasource and string encoding. -/
structure Alike (d : DriverDefaults π) (c c' : Config π) : Prop where
  datasource : c.datasourceString = c'.datasourceString
  database : c.database = c'.database
  auth : c.auth = c'.auth
  trustCert : c.trustCert = c'.trustCert
  serverCertificate : c.serverCertificate = c'.serverCertificate
  hostNameInCertificate : c.hostNameInCertificate = c'.hostNameInCertificate
  encryption : c.encryption = c'.encryption ∨
    c.encryption ∈ [.off, .notSupported] ∧ c'.encryption ∈ [.off, .notSupported]
  applicationName : c.applicationName.getD d.context.applicationName =
    c'.applicationName.getD d.context.applicationName
  clientName : c.clientName.getD d.context.workstationId =
    c'.clientName.getD d.context.workstationId
  readonly : c.readonly = c'.readonly
  multiSubnetFailover : c.multiSubnetFailover = c'.multiSubnetFailover
  securityContextProvider : c.securityContextProvider = c'.securityContextProvider
  sendStringParametersAsUnicode :
    c.sendStringParametersAsUnicode = c'.sendStringParametersAsUnicode

theorem encryptionSetting_eq_iff {level level' : EncryptionLevel} :
    encryptionSetting level = encryptionSetting level' ↔
      level = level' ∨ level ∈ [.off, .notSupported] ∧ level' ∈ [.off, .notSupported] := by
  cases level <;> cases level' <;> decide

theorem applicationIntent_inj {b b' : Bool}
    (h : (if b then ApplicationIntent.readOnly else .readWrite) =
      if b' then .readOnly else .readWrite) :
    b = b' := by
  cases b <;> cases b' <;> first | rfl | cases h

theorem withAuth_database (ctx : ClientContext π) (auth : AuthMethod) :
    (withAuth ctx auth).database = ctx.database := by
  cases auth <;> rfl

/-- The credentials in the context tell how to authenticate. -/
theorem withAuth_inj {ctx ctx' : ClientContext π} {auth auth' : AuthMethod}
    (hm : ctx.tdsAuthenticationMethod = .password) (hm' : ctx'.tdsAuthenticationMethod = .password)
    (hmethod : (withAuth ctx auth).tdsAuthenticationMethod =
      (withAuth ctx' auth').tdsAuthenticationMethod)
    (huser : (withAuth ctx auth).userName = (withAuth ctx' auth').userName)
    (hpassword : (withAuth ctx auth).password = (withAuth ctx' auth').password)
    (htoken : (withAuth ctx auth).accessToken = (withAuth ctx' auth').accessToken) :
    auth = auth' := by
  cases auth with
  | sqlServer user password =>
    cases auth' with
    | sqlServer user' password' => exact congrArg₂ _ huser hpassword
    | integrated => cases hm.symm.trans hmethod
    | aadToken => cases hm.symm.trans hmethod
  | integrated =>
    cases auth' with
    | sqlServer => cases hmethod.trans hm'
    | integrated => rfl
    | aadToken => cases hmethod
  | aadToken token =>
    cases auth' with
    | sqlServer => cases hmethod.trans hm'
    | integrated => cases hmethod
    | aadToken token' => exact congrArg _ (Option.some.inj htoken)

theorem toClientContext_alike (h : c.Alike d c') : c.toClientContext d.context d.driverVersion =
    c'.toClientContext d.context d.driverVersion := by
  unfold toClientContext
  rw [h.database, h.auth, h.trustCert, h.serverCertificate, h.hostNameInCertificate,
    encryptionSetting_eq_iff.mpr h.encryption, h.applicationName, h.clientName, h.readonly,
    h.multiSubnetFailover, h.securityContextProvider]

/-- Nothing of a setting is lost on the way to the driver. -/
theorem alike_of_handed
    (hcontext : c.toClientContext d.context d.driverVersion =
      c'.toClientContext d.context d.driverVersion)
    (hsource : c.datasourceString = c'.datasourceString)
    (hunicode : c.sendStringParametersAsUnicode = c'.sendStringParametersAsUnicode) :
    c.Alike d c' := by
  have field {β : Type} (f : ClientContext π → β) :
      f (c.toClientContext d.context d.driverVersion) =
        f (c'.toClientContext d.context d.driverVersion) := congrArg f hcontext
  have options {β : Type} (f : EncryptionOptions → β) := field fun ctx => f ctx.encryptionOptions
  let ctx (c : Config π) : ClientContext π := { d.context with database := c.database }
  have hmethod (c : Config π) : (ctx c).tdsAuthenticationMethod = .password := d.method
  refine {
    datasource := hsource
    database := ?_
    auth := ?_
    trustCert := options EncryptionOptions.trustServerCertificate
    serverCertificate := options EncryptionOptions.serverCertificate
    hostNameInCertificate := options EncryptionOptions.hostNameInCert
    encryption := encryptionSetting_eq_iff.mp (options EncryptionOptions.mode)
    applicationName := field ClientContext.applicationName
    clientName := field ClientContext.workstationId
    readonly := applicationIntent_inj (field ClientContext.applicationIntent)
    multiSubnetFailover := Option.some.inj (field ClientContext.multiSubnetFailover)
    securityContextProvider := field ClientContext.securityContextProvider
    sendStringParametersAsUnicode := hunicode }
  · have h : (withAuth (ctx c) c.auth).database = (withAuth (ctx c') c'.auth).database :=
      field ClientContext.database
    rwa [withAuth_database, withAuth_database] at h
  · exact withAuth_inj (hmethod c) (hmethod c') (field ClientContext.tdsAuthenticationMethod)
      (field ClientContext.userName) (field ClientContext.password)
      (field ClientContext.accessToken)

/-- Configurations that are alike are those that no driver can tell apart. -/
theorem connect_alike_iff [MssqlTds] : (∀ createClient alloc,
    Client.connect c d.context d.driverVersion createClient alloc =
      Client.connect c' d.context d.driverVersion createClient alloc) ↔ c.Alike d c' := by
  classical
  constructor
  · intro h
    -- a driver that accepts what the first configuration gives it, and nothing else
    let createClient (ctx : ClientContext π) (datasource : String) : Except TdsError TdsClient :=
      if ctx = c.toClientContext d.context d.driverVersion ∧ datasource = c.datasourceString then
        .ok {}
      else .error (.usageError "")
    have hc := h createClient 0
    unfold Client.connect at hc
    rw [show createClient _ c.datasourceString = .ok {} from if_pos ⟨rfl, rfl⟩] at hc
    by_cases hsame : c'.toClientContext d.context d.driverVersion =
      c.toClientContext d.context d.driverVersion ∧ c'.datasourceString = c.datasourceString
    · rw [show createClient _ c'.datasourceString = .ok {} from if_pos hsame] at hc
      have hunicode := congrArg Client.sendStringParametersAsUnicode (Except.ok.inj hc)
      exact alike_of_handed hsame.1.symm hsame.2.symm hunicode
    · rw [show createClient _ c'.datasourceString = .error (.usageError "") from
        if_neg hsame] at hc
      cases hc
  · intro h createClient alloc
    unfold Client.connect
    rw [toClientContext_alike h, h.datasource, h.sendStringParametersAsUnicode]

end Config

/-- What a sequence of setter calls comes to, in whatever order they are made. -/
structure ConfigBuilt {π : Type} (d : DriverDefaults π) : Prop where
  /-- Only the last call of each setting matters. -/
  order : ∀ calls calls',
    (∀ k, (configSettings π).told k calls = (configSettings π).told k calls') →
      (configSettings π).run .new calls = (configSettings π).run .new calls'
  /-- No driver tells two configurations apart that are alike, and some driver all others. -/
  connect : ∀ [MssqlTds] (c c' : Config π), (∀ createClient alloc,
    Client.connect c d.context d.driverVersion createClient alloc =
      Client.connect c' d.context d.driverVersion createClient alloc) ↔ c.Alike d c'

theorem config_built {π : Type} (d : DriverDefaults π) : ConfigBuilt d where
  order _ _ h := Lib.Settings.run_told h .new
  connect _ _ := Config.connect_alike_iff

namespace Reference

/-- A driver that authenticates by password unless it is told otherwise. -/
def driverDefaults : DriverDefaults Unit where
  context := {
    database := ""
    userName := ""
    password := ""
    tdsAuthenticationMethod := .password
    accessToken := none
    encryptionOptions := {
      mode := .strict, trustServerCertificate := false, serverCertificate := none,
      hostNameInCert := none }
    applicationName := "client"
    workstationId := "localhost"
    libraryName := "driver"
    driverVersion := { major := 1, minor := 0, build := 0 }
    applicationIntent := .readWrite
    multiSubnetFailover := none
    securityContextProvider := none
    userAgent := { libraryName := "driver", driverVersion := "1.0.0" } }
  driverVersion := { major := 0, minor := 3, build := 0 }
  method := rfl

end Reference

section

open Reference

/-- The setters in another order, after an encryption level that is told again; the two levels
without encryption; and two databases. -/
theorem config_built_alike :
    (configSettings Unit).run .new [.host "db", .trustCert, .encryption .off] =
      (configSettings Unit).run .new
        [.encryption .strict, .trustCert, .encryption .off, .host "db"] ∧
    (∀ createClient alloc,
      Client.connect { encryption := .off } driverDefaults.context driverDefaults.driverVersion
          createClient alloc =
        Client.connect { encryption := .notSupported, clientName := some "localhost" }
          driverDefaults.context driverDefaults.driverVersion createClient alloc) ∧
    ¬∀ createClient alloc,
      Client.connect { database := "a" } driverDefaults.context driverDefaults.driverVersion
          createClient alloc =
        Client.connect { database := "b" } driverDefaults.context driverDefaults.driverVersion
          createClient alloc := by
  have hbuilt := config_built driverDefaults
  refine ⟨hbuilt.order _ _ fun k => ?_, (hbuilt.connect _ _).mpr ?_, fun h => ?_⟩
  · cases k <;> rfl
  · exact {
      datasource := rfl, database := rfl, auth := rfl, trustCert := rfl, serverCertificate := rfl
      hostNameInCertificate := rfl, encryption := .inr (by decide), applicationName := rfl
      clientName := rfl, readonly := rfl, multiSubnetFailover := rfl
      securityContextProvider := rfl, sendStringParametersAsUnicode := rfl }
  · have hdatabase := ((hbuilt.connect _ _).mp h).database
    revert hdatabase
    decide

end

end TiberiusBridge
