import TiberiusBridge.Client.Buffered
import TiberiusBridge.Lib.Quoting

/-!
# Connection settings

`Config` is what the builder has been told, `ClientContext` and the datasource
string are what `Client::connect` makes of it for the driver. The datasource is
free text: that it names the endpoint it was built for, and no other, is shown
by taking it apart again.
-/
namespace TiberiusBridge

open Lib (suffix_inj toDigits_inj word_inj)

inductive EncryptionLevel
  | off
  | on
  | notSupported
  | required
  | strict
  deriving DecidableEq, Repr

inductive Transport
  | tcp
  | namedPipe (pipe : Option String)
  | sharedMemory
  deriving DecidableEq, Repr

inductive AuthMethod
  | sqlServer (user password : String)
  | integrated
  | aadToken (token : String)
  deriving DecidableEq, Repr

/-- The settings of a connection; a `SecurityContextProvider` is any `π`. -/
structure Config (π : Type) where
  host : String := "localhost"
  port : UInt16 := 1433
  database : String := "master"
  auth : AuthMethod := .sqlServer "" ""
  trustCert : Bool := false
  serverCertificate : Option String := none
  hostNameInCertificate : Option String := none
  readonly : Bool := false
  encryption : EncryptionLevel := .on
  applicationName : Option String := none
  instanceName : Option String := none
  clientName : Option String := none
  sendStringParametersAsUnicode : Bool := true
  multiSubnetFailover : Bool := false
  transport : Transport := .tcp
  securityContextProvider : Option π := none

inductive EncryptionSetting
  | preferOff
  | on
  | required
  | strict
  deriving DecidableEq, Repr

inductive TdsAuthenticationMethod
  | password
  | sspi
  | accessToken
  deriving DecidableEq, Repr

inductive ApplicationIntent
  | readOnly
  | readWrite
  deriving DecidableEq, Repr

structure EncryptionOptions where
  mode : EncryptionSetting
  trustServerCertificate : Bool
  serverCertificate : Option String
  hostNameInCert : Option String

structure UserAgent where
  libraryName : String
  driverVersion : String

structure DriverVersion where
  major : Nat
  minor : Nat
  build : Nat

structure ClientContext (π : Type) where
  database : String
  userName : String
  password : String
  tdsAuthenticationMethod : TdsAuthenticationMethod
  accessToken : Option String
  encryptionOptions : EncryptionOptions
  applicationName : String
  workstationId : String
  libraryName : String
  driverVersion : DriverVersion
  applicationIntent : ApplicationIntent
  multiSubnetFailover : Option Bool
  securityContextProvider : Option π
  userAgent : UserAgent

namespace Config

def driverName : String := "MS-TIB-BRID"

/-- `CARGO_PKG_VERSION`. -/
def cargoVersion : String := "0.3.0"

variable {π : Type}

def new : Config π := {}

/-- How an authentication method changes the driver's context. -/
def withAuth (ctx : ClientContext π) : AuthMethod → ClientContext π
  | .sqlServer userName password => { ctx with userName, password }
  | .integrated => { ctx with tdsAuthenticationMethod := .sspi }
  | .aadToken token =>
    { ctx with tdsAuthenticationMethod := .accessToken, accessToken := some token }

def encryptionSetting : EncryptionLevel → EncryptionSetting
  | .off | .notSupported => .preferOff
  | .on => .on
  | .required => .required
  | .strict => .strict

/-- `to_client_context`, given `ClientContext::default()` and what
`DriverVersion::from_cargo_version()` returns. -/
def toClientContext (c : Config π) (default : ClientContext π) (driverVersion : DriverVersion) :
    ClientContext π :=
  { withAuth { default with database := c.database } c.auth with
    encryptionOptions :=
      { mode := encryptionSetting c.encryption
        trustServerCertificate := c.trustCert
        serverCertificate := c.serverCertificate
        hostNameInCert := c.hostNameInCertificate }
    applicationName := c.applicationName.getD default.applicationName
    workstationId := c.clientName.getD default.workstationId
    libraryName := driverName
    driverVersion
    applicationIntent := if c.readonly then .readOnly else .readWrite
    multiSubnetFailover := some c.multiSubnetFailover
    securityContextProvider := c.securityContextProvider
    userAgent := { libraryName := driverName, driverVersion := cargoVersion } }

def getAddr (c : Config π) : String := s!"{c.host}:{c.port.toNat}"

/-- The machine a pipe without a path is on. -/
def pipeHost (c : Config π) : String :=
  if c.host = "." ∨ c.host = "localhost" then "." else c.host

/-- The path of the pipe of an instance. -/
def pipePath (host : String) : Option String → String
  | some inst => "\\\\" ++ host ++ "\\pipe\\MSSQL$" ++ inst ++ "\\sql\\query"
  | none => "\\\\" ++ host ++ "\\pipe\\sql\\query"

def datasourceString (c : Config π) : String :=
  match c.transport with
  | .tcp =>
    match c.instanceName with
    | some inst => "tcp:" ++ c.host ++ "\\" ++ inst
    | none => "tcp:" ++ c.host ++ "," ++ toString c.port.toNat
  | .namedPipe (some path) => "np:" ++ path
  | .namedPipe none => "np:" ++ pipePath c.pipeHost c.instanceName
  | .sharedMemory =>
    match c.instanceName with
    | some inst => "lpc:" ++ c.host ++ "\\" ++ inst
    | none => "lpc:" ++ c.host

end Config

inductive Endpoint
  | port (host : String) (number : UInt16)
  /-- An instance whose port the server's browser service knows. -/
  | browsed (host inst : String)
  | pipe (path : String)
  | sharedMemory (host : String) (inst : Option String)
  deriving DecidableEq, Repr

namespace Endpoint

/-- The protocol a datasource starts with. -/
def scheme : Endpoint → List Char
  | port _ _ | browsed _ _ => ['t', 'c', 'p', ':']
  | pipe _ => ['n', 'p', ':']
  | sharedMemory _ _ => ['l', 'p', 'c', ':']

def address : Endpoint → List Char
  | port host number => host.toList ++ ',' :: Nat.toDigits 10 number.toNat
  | browsed host inst | sharedMemory host (some inst) => host.toList ++ '\\' :: inst.toList
  | pipe path => path.toList
  | sharedMemory host none => host.toList

/-- The host, where the datasource has a part for it. -/
def host? : Endpoint → Option String
  | port host _ | browsed host _ | sharedMemory host _ => some host
  | pipe _ => none

variable {e e' : Endpoint}

/-- Before the backslash comes a text that has none. -/
theorem split_backslash {host host' rest rest' : List Char} (hh : '\\' ∉ host)
    (hh' : '\\' ∉ host') (h : host ++ '\\' :: rest = host' ++ '\\' :: rest') :
    host = host' ∧ rest = rest' := by
  have plain : ∀ {cs : List Char}, '\\' ∉ cs → ∀ c ∈ cs, (c != '\\') = true := by
    intro cs hcs c hc
    rw [bne_iff_ne]
    rintro rfl
    exact hcs hc
  obtain ⟨hhost, hrest⟩ := word_inj (p := (· != '\\')) (plain hh) (plain hh') (by simp) (by simp) h
  exact ⟨hhost, List.tail_eq_of_cons_eq hrest⟩

/-- After the last comma comes the port. -/
theorem split_port {host host' : List Char} {port port' : Nat}
    (h : host ++ ',' :: Nat.toDigits 10 port = host' ++ ',' :: Nat.toDigits 10 port') :
    host = host' ∧ port = port' := by
  have digits : ∀ n, ∀ c ∈ Nat.toDigits 10 n, c.isDigit = true := fun n c hc =>
    Nat.isDigit_of_mem_toDigits (by decide) (by decide) hc
  have h' : (host ++ [',']) ++ Nat.toDigits 10 port =
      (host' ++ [',']) ++ Nat.toDigits 10 port' := by
    simpa using h
  obtain ⟨hhost, hport⟩ := suffix_inj (digits port) (digits port') (by simp) (by simp) h'
  exact ⟨List.append_cancel_right hhost, toDigits_inj hport⟩

theorem backslash_not_mem_port {host : List Char} (hh : '\\' ∉ host) (port : Nat) :
    '\\' ∉ host ++ ',' :: Nat.toDigits 10 port := by
  have hdigits : '\\' ∉ Nat.toDigits 10 port := fun h => by
    have := Nat.isDigit_of_mem_toDigits (b := 10) (by decide) (by decide) h
    simp at this
  simp [hh, hdigits]

theorem ne_of_no_backslash {cs host rest : List Char} (h : '\\' ∉ cs) :
    cs ≠ host ++ '\\' :: rest := by
  rintro rfl
  simp at h

/-- Scheme and address are told apart by the whole. -/
theorem scheme_address (h : e.scheme ++ e.address = e'.scheme ++ e'.address) :
    e.scheme = e'.scheme ∧ e.address = e'.address := by
  cases e <;> cases e' <;> first | exact ⟨rfl, List.append_cancel_left h⟩ | cases h

theorem eq_of_chars (hh : ∀ host ∈ e.host?, '\\' ∉ host.toList)
    (hh' : ∀ host ∈ e'.host?, '\\' ∉ host.toList)
    (h : e.scheme ++ e.address = e'.scheme ++ e'.address) : e = e' := by
  obtain ⟨hs, ha⟩ := scheme_address h
  cases e with
  | port host p =>
    cases e' with
    | port host' p' =>
      obtain ⟨hhost, hport⟩ := split_port ha
      rw [String.toList_inj.mp hhost, UInt16.toNat_inj.mp hport]
    | browsed host' inst' =>
      exact absurd ha (ne_of_no_backslash (backslash_not_mem_port (hh host rfl) p.toNat))
    | pipe | sharedMemory => cases hs
  | browsed host inst =>
    cases e' with
    | port host' p' =>
      have hno := backslash_not_mem_port (hh' host' rfl) p'.toNat
      exact absurd ha.symm (ne_of_no_backslash hno)
    | browsed host' inst' =>
      obtain ⟨hhost, hinst⟩ := split_backslash (hh host rfl) (hh' host' rfl) ha
      rw [String.toList_inj.mp hhost, String.toList_inj.mp hinst]
    | pipe | sharedMemory => cases hs
  | pipe path =>
    cases e' with
    | pipe path' => rw [String.toList_inj.mp ha]
    | port | browsed | sharedMemory => cases hs
  | sharedMemory host inst =>
    cases e' with
    | sharedMemory host' inst' =>
      have hno := hh host rfl
      have hno' := hh' host' rfl
      cases inst with
      | none =>
        cases inst' with
        | none => rw [String.toList_inj.mp ha]
        | some inst' => exact absurd ha (ne_of_no_backslash hno)
      | some inst =>
        cases inst' with
        | none => exact absurd ha.symm (ne_of_no_backslash hno')
        | some inst' =>
          obtain ⟨hhost, hinst⟩ := split_backslash hno hno' ha
          rw [String.toList_inj.mp hhost, String.toList_inj.mp hinst]
    | port | browsed | pipe => cases hs

end Endpoint

namespace Config

variable {π : Type} {c c' : Config π}

/-- The endpoint asked for: an instance name makes the port irrelevant, and a pipe's path both. -/
def endpoint (c : Config π) : Endpoint :=
  match c.transport with
  | .tcp =>
    match c.instanceName with
    | some inst => .browsed c.host inst
    | none => .port c.host c.port
  | .namedPipe (some path) => .pipe path
  | .namedPipe none => .pipe (pipePath c.pipeHost c.instanceName)
  | .sharedMemory => .sharedMemory c.host c.instanceName

theorem datasourceString_toList (c : Config π) :
    c.datasourceString.toList = c.endpoint.scheme ++ c.endpoint.address := by
  unfold datasourceString endpoint
  cases c.transport with
  | tcp =>
    cases c.instanceName <;>
      simp [Endpoint.scheme, Endpoint.address, Nat.toString_eq_repr, Nat.repr]
  | namedPipe pipe => cases pipe <;> simp [Endpoint.scheme, Endpoint.address]
  | sharedMemory => cases c.instanceName <;> simp [Endpoint.scheme, Endpoint.address]

theorem endpoint_host (c : Config π) : ∀ host ∈ c.endpoint.host?, host = c.host := by
  unfold endpoint
  cases c.transport with
  | tcp => cases c.instanceName <;> simp [Endpoint.host?]
  | namedPipe pipe => cases pipe <;> simp [Endpoint.host?]
  | sharedMemory => simp [Endpoint.host?]

theorem pipeHost_no_backslash (h : '\\' ∉ c.host.toList) : '\\' ∉ c.pipeHost.toList := by
  unfold pipeHost
  split
  · decide
  · exact h

/-- A pipe's path after its host. -/
def pipeTail : Option String → List Char
  | some inst => ['p', 'i', 'p', 'e', '\\', 'M', 'S', 'S', 'Q', 'L', '$'] ++ inst.toList ++
    ['\\', 's', 'q', 'l', '\\', 'q', 'u', 'e', 'r', 'y']
  | none => ['p', 'i', 'p', 'e', '\\', 's', 'q', 'l', '\\', 'q', 'u', 'e', 'r', 'y']

theorem pipePath_toList (host : String) (inst : Option String) :
    (pipePath host inst).toList = '\\' :: '\\' :: (host.toList ++ '\\' :: pipeTail inst) := by
  cases inst <;> simp [pipePath, pipeTail]

theorem pipeTail_inj {inst inst' : Option String} (h : pipeTail inst = pipeTail inst') :
    inst = inst' := by
  cases inst with
  | none =>
    cases inst' with
    | none => rfl
    | some inst' => simp [pipeTail] at h
  | some inst =>
    cases inst' with
    | none => simp [pipeTail] at h
    | some inst' =>
      have hinst := List.append_cancel_left (List.append_cancel_right h)
      rw [String.toList_inj.mp hinst]

theorem pipePath_inj {host host' : String} {inst inst' : Option String}
    (hh : '\\' ∉ host.toList) (hh' : '\\' ∉ host'.toList)
    (h : pipePath host inst = pipePath host' inst') : host = host' ∧ inst = inst' := by
  have hchars := congrArg String.toList h
  rw [pipePath_toList, pipePath_toList] at hchars
  injection hchars with _ hchars
  injection hchars with _ hchars
  obtain ⟨hhost, htail⟩ := Endpoint.split_backslash hh hh' hchars
  exact ⟨String.toList_inj.mp hhost, pipeTail_inj htail⟩

end Config

/-- Where two configurations lead to. -/
structure DatasourceNames {π : Type} (c c' : Config π) : Prop where
  /-- The datasource names the endpoint, and nothing else. -/
  endpoint_iff : c.datasourceString = c'.datasourceString ↔ c.endpoint = c'.endpoint
  /-- Paths made from host and instance are the same for the same machine and instance only. -/
  pipe_iff :
    Config.pipePath c.pipeHost c.instanceName = Config.pipePath c'.pipeHost c'.instanceName ↔
      c.pipeHost = c'.pipeHost ∧ c.instanceName = c'.instanceName

/-- A host name has no backslash. Without that, a host and port read as a host and instance. -/
theorem datasource_names_endpoint {π : Type} (c c' : Config π) (h : '\\' ∉ c.host.toList)
    (h' : '\\' ∉ c'.host.toList) : DatasourceNames c c' := by
  refine ⟨⟨fun hs => ?_, fun he => ?_⟩, ⟨fun hp => ?_, ?_⟩⟩
  · have hchars := congrArg String.toList hs
    rw [c.datasourceString_toList, c'.datasourceString_toList] at hchars
    refine Endpoint.eq_of_chars (fun host hh => ?_) (fun host hh => ?_) hchars
    · rw [c.endpoint_host host hh]
      exact h
    · rw [c'.endpoint_host host hh]
      exact h'
  · apply String.toList_inj.mp
    rw [c.datasourceString_toList, c'.datasourceString_toList, he]
  · exact Config.pipePath_inj (Config.pipeHost_no_backslash h) (Config.pipeHost_no_backslash h') hp
  · rintro ⟨hh, hi⟩
    rw [hh, hi]

/-- A port and an instance on the same host. -/
theorem datasource_names_endpoint_default :
    DatasourceNames (Config.new : Config Unit) { instanceName := some "SQLEXPRESS" } ∧
      (Config.new : Config Unit).datasourceString = "tcp:localhost,1433" :=
  ⟨datasource_names_endpoint _ _ (by decide) (by decide), by decide⟩

end TiberiusBridge
