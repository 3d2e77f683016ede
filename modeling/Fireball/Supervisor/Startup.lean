import Fireball.Foundation.Lists
import Fireball.Session.Types
import Fireball.Supervisor.Ice
import Fireball.Tabs.Admission
import Fireball.Tabs.CommandLine
import Fireball.Tabs.Protocol

/-!
# The start of a session container

`parseConfiguration` and `main` of `session/supervisor.mjs`, up to the `READY` line of the
native runtime.

* `configuration_ok`: what an environment says that is accepted;
* `starts_only`, `starts_when`: when the native runtime accepts the arguments;
* `parseReady_uuid`: its first line, as the driver reads it;
* `session_starts`: an accepted environment, in the native runtime.
-/

namespace Fireball.Supervisor

open Foundation
open Session (isCredential)
open Tabs (NativeConfiguration NativeTabDriver GUri Serializes ParsesUris Permitted StartUrl encodeUrl
  parseArguments normalizeTabUrl validateStartUrl validateStartUrl_ok validUuid validUrl wellEscaped)

abbrev Environment := JsMap String String

def profileConfiguration : List (String × Profile) := [
  ("1080p30", ⟨1920, 1080, 30, 6000000⟩),
  ("720p15", ⟨1280, 720, 15, 3000000⟩),
  ("480p10", ⟨854, 480, 10, 1200000⟩)]

/-- The properties that every object inherits. -/
def inheritedProperties : List String := [
  "constructor", "__defineGetter__", "__defineSetter__", "hasOwnProperty", "__lookupGetter__",
  "__lookupSetter__", "isPrototypeOf", "propertyIsEnumerable", "toString", "valueOf", "__proto__",
  "toLocaleString"]

/-- `PROFILE_CONFIGURATION[profileName]`. What is inherited has none of the fields. -/
inductive ProfileValue
  | own (profile : Profile)
  | inherited
  deriving DecidableEq, Repr

def profileOf (profileName : String) : Option ProfileValue :=
  match profileConfiguration.lookup profileName with
  | some profile => some (.own profile)
  | none => if profileName ∈ inheritedProperties then some .inherited else none

def iceConfigurationPath : String := "/run/fireball-secrets/ice-servers.json"

/-- What `fstat` says of the file. -/
structure IceFileMetadata where
  isFile : Bool
  size : Nat
  uid : Nat
  gid : Nat
  mode : Nat
  deriving DecidableEq, Repr

def maximumIceConfigurationBytes : Nat := 16 * 1024

def validateIceServerFileMetadata (metadata : IceFileMetadata) : Except String Unit := do
  check metadata.isFile "ICE server configuration must be a regular file"
  check (2 ≤ metadata.size && metadata.size ≤ maximumIceConfigurationBytes)
    "ICE server configuration has an unsafe size"
  check (metadata.uid = 0 && metadata.gid = 10001 && metadata.mode &&& 0o777 = 0o440)
    "ICE server configuration must be owned by root:10001 with mode 0440"

/-- What Node has for `parseConfiguration`: `new URL`, and `openSync` with what the descriptor
then has. -/
structure StartNode extends IceNode where
  parseUrl : String → Option Url
  openFile : String → Except String (IceFileMetadata × String)

def loadIceServerConfiguration (node : StartNode) (filePath : String) : Except String IceConfiguration := do
  let (metadata, source) ← node.openFile filePath
  validateIceServerFileMetadata metadata
  parseIceServerConfiguration node.toIceNode source

def validateIceConfigurationPath (value : String) : Except String String := do
  check (value = iceConfigurationPath) ("FIREBALL_ICE_SERVERS_FILE must be " ++ iceConfigurationPath)
  .ok value

structure StartConfiguration where
  secret : String
  profileName : String
  profile : ProfileValue
  startUrl : String
  ice : IceConfiguration
  deriving DecidableEq, Repr

def parseSecret : Option String → Except String String
  | some secret =>
    if isCredential secret then .ok secret
    else .error "FIREBALL_INTERNAL_SIGNALING_SECRET must contain 256 bits in base64url form"
  | none => .error "FIREBALL_INTERNAL_SIGNALING_SECRET must contain 256 bits in base64url form"

def parseProfile (profileName : String) : Except String ProfileValue :=
  match profileOf profileName with
  | some profile => .ok profile
  | none => .error "FIREBALL_STREAM_PROFILE is unsupported"

def parseIce (node : StartNode) : Option String → Except String IceConfiguration
  | none => .ok ⟨"", [], "all"⟩
  | some file => do
    let path ← validateIceConfigurationPath file
    loadIceServerConfiguration node path

def parseConfiguration (node : StartNode) (environment : Environment) : Except String StartConfiguration := do
  let secret ← parseSecret (environment.get "FIREBALL_INTERNAL_SIGNALING_SECRET")
  let profileName := (environment.get "FIREBALL_STREAM_PROFILE").getD "720p15"
  let profile ← parseProfile profileName
  let startUrl ← validateStartUrl node.parseUrl ((environment.get "FIREBALL_START_URL").getD Tabs.internalHome)
  let ice ← parseIce node (environment.get "FIREBALL_ICE_SERVERS_FILE")
  .ok ⟨secret, profileName, profile, startUrl, ice⟩

/-- `String(width)` and the others. -/
def ProfileValue.text (field : Profile → Nat) : ProfileValue → String
  | .own profile => toString (field profile)
  | .inherited => "undefined"

/-- `runtimeArguments`, of a profile that may be inherited. -/
def startArguments (parseUrl : String → Option Url) (configuration : StartConfiguration) (initialTabId : String) :
    Except Tabs.TabControlError (List String) := do
  let initialUrl ← encodeUrl parseUrl configuration.startUrl
  .ok [
    "--width", configuration.profile.text (·.width),
    "--height", configuration.profile.text (·.height),
    "--fps", configuration.profile.text (·.fps),
    "--bitrate", configuration.profile.text (·.bitrate),
    "--initial-tab-id", initialTabId,
    "--initial-url-hex", initialUrl,
    "--stun-server", configuration.ice.stunServer,
    "--turn-servers", turnServersArgument configuration.ice,
    "--ice-policy", configuration.ice.iceTransportPolicy,
    "--control-output-fd", "3"]

def runtimePath : String := "/usr/bin/fireball-session-runtime"

/-- The arguments of the child. -/
def argvOf (arguments : List String) : List Bytes := (runtimePath :: arguments).map utf8

/-- With a profile of the three, the arguments are those of `runtimeArguments`. -/
theorem startArguments_own {parseUrl : String → Option Url} {configuration : StartConfiguration}
    {initialTabId : String} {profile : Profile} (own : configuration.profile = .own profile) :
    startArguments parseUrl configuration initialTabId =
      runtimeArguments parseUrl ⟨profile, configuration.startUrl, configuration.ice⟩ initialTabId := by
  rw [startArguments, own]
  rfl

/-! ## What is accepted -/

/-- What an accepted environment says. -/
structure Configured (node : StartNode) (environment : Environment) (configuration : StartConfiguration) :
    Prop where
  secret : environment.get "FIREBALL_INTERNAL_SIGNALING_SECRET" = some configuration.secret ∧
    isCredential configuration.secret = true
  profileName : configuration.profileName = (environment.get "FIREBALL_STREAM_PROFILE").getD "720p15"
  profile : profileOf configuration.profileName = some configuration.profile
  startUrl : StartUrl node.parseUrl ((environment.get "FIREBALL_START_URL").getD Tabs.internalHome)
    configuration.startUrl
  policy : configuration.ice.iceTransportPolicy ∈ ["all", "relay"]

theorem iceTransportPolicy_ok {node : IceNode} {source : String} {ice : IceConfiguration}
    (h : parseIceServerConfiguration node source = .ok ice) : ice.iceTransportPolicy ∈ ["all", "relay"] := by
  simp only [parseIceServerConfiguration, bind_ok, check_ok, validatePolicy_ok, Except.ok.injEq] at h
  obtain ⟨_, -, _, -, _, -, _, -, _, -, _, -, _, -, policy, ⟨-, known⟩, rfl⟩ := h
  exact known

theorem parseSecret_ok {value : Option String} {secret : String} (h : parseSecret value = .ok secret) :
    value = some secret ∧ isCredential secret = true := by
  cases value with
  | none => cases h
  | some text =>
    by_cases credential : isCredential text = true
    · rw [parseSecret, if_pos credential] at h
      cases h
      exact ⟨rfl, credential⟩
    · rw [parseSecret, if_neg credential] at h
      cases h

theorem parseIce_policy {node : StartNode} {value : Option String} {ice : IceConfiguration}
    (h : parseIce node value = .ok ice) : ice.iceTransportPolicy ∈ ["all", "relay"] := by
  cases value with
  | none =>
    cases h
    exact List.mem_cons_self
  | some file =>
    obtain ⟨path, -, loaded⟩ := bind_ok.mp h
    obtain ⟨⟨metadata, source⟩, -, loaded⟩ := bind_ok.mp loaded
    obtain ⟨_, -, parsed⟩ := bind_ok.mp loaded
    exact iceTransportPolicy_ok parsed

theorem configuration_ok {node : StartNode} {environment : Environment} {configuration : StartConfiguration}
    (h : parseConfiguration node environment = .ok configuration) :
    Configured node environment configuration := by
  unfold parseConfiguration at h
  obtain ⟨secret, given, h⟩ := bind_ok.mp h
  obtain ⟨profile, supported, h⟩ := bind_ok.mp h
  obtain ⟨startUrl, valid, h⟩ := bind_ok.mp h
  obtain ⟨ice, loaded, h⟩ := bind_ok.mp h
  cases h
  refine ⟨parseSecret_ok given, rfl, ?_, validateStartUrl_ok valid, parseIce_policy loaded⟩
  unfold parseProfile at supported
  split at supported
  · rename_i found
    cases supported
    exact found
  · cases supported

/-! ## The URL, in both languages -/

/-- A start URL that the native runtime takes. -/
def Fits (parseUrl : String → Option Url) (startUrl : String) : Prop :=
  startUrl = Tabs.internalHome ∨ ∃ url, parseUrl startUrl = some url ∧ url.hostname ≠ "" ∧
    (utf8 startUrl).length ≤ Tabs.maximumUrlBytes ∧ wellEscaped (utf8 startUrl) = true

section
variable {parseUrl : String → Option Url} {parseUri : Bytes → Option GUri} {value startUrl : String}

theorem fits_accepted (std : Serializes parseUrl) (glib : ParsesUris parseUrl parseUri)
    (start : StartUrl parseUrl value startUrl) (fits : Fits parseUrl startUrl) :
    Tabs.AcceptedOn parseUrl parseUri startUrl := by
  obtain ⟨url, parsed, username, password, rfl, scheme⟩ := start.parsed
  rcases fits with home | ⟨again, found, host, short, escaped⟩
  · rw [home]
    exact Tabs.encode_home
  · cases (std.stable value url parsed).symm.trans found
    rcases scheme with home | scheme
    · rw [home]
      exact Tabs.encode_home
    · have permitted : Permitted url := ⟨scheme, username, password, host⟩
      exact (Tabs.accepted_iff std glib parsed permitted).mpr ⟨short, escaped⟩

/-- What the runtime decodes is the start URL, and it fits. -/
theorem accepted_fits (std : Serializes parseUrl) (glib : ParsesUris parseUrl parseUri)
    (start : StartUrl parseUrl value startUrl) {text : String} {decoded : Bytes}
    (encoded : encodeUrl parseUrl startUrl = .ok text) (read : Tabs.decodeHex (utf8 text) = some decoded)
    (valid : validUrl parseUri decoded = true) : decoded = utf8 startUrl ∧ Fits parseUrl startUrl := by
  obtain ⟨url, parsed, username, password, rfl, scheme⟩ := start.parsed
  by_cases home : url.href = Tabs.internalHome
  · have packaged : Tabs.AcceptedOn parseUrl parseUri Tabs.internalHome := Tabs.encode_home
    obtain ⟨⟨again, same, back⟩, -⟩ := packaged
    rw [home] at encoded ⊢
    cases encoded.symm.trans same
    exact ⟨Option.some.inj (read.symm.trans back), .inl rfl⟩
  · have away := scheme.resolve_left home
    rw [encodeUrl] at encoded
    cases normal : normalizeTabUrl parseUrl (.text url.href) with
    | error e =>
      rw [normal] at encoded
      cases encoded
    | ok normalized =>
      rw [normal] at encoded
      cases encoded
      have scheme : ∀ home : String, home.toList.head? ≠ some 'h' → url.href ≠ home := by
        rintro home other rfl
        obtain ⟨rest, eq⟩ := std.scheme value url parsed
        rw [eq, String.toList_append] at other
        rcases List.mem_pair.mp away with http | http
        · rw [http] at other
          exact other rfl
        · rw [http] at other
          exact other rfl
      rcases Tabs.normalize_iff.mp normal with ⟨elsewhere, -⟩ | ⟨-, short, again, found, permitted, rfl⟩
      · exfalso
        rcases elsewhere with same | same
        · exact scheme _ (by decide) same
        · exact scheme _ (by decide) same
      · cases (std.stable value url parsed).symm.trans found
        have read : Tabs.decodeHex (utf8 (hex (utf8 url.href))) = some decoded := read
        have nonempty : utf8 url.href ≠ [] := by
          intro empty
          rw [empty] at read
          cases read
        have back := Tabs.decodeHex_hex (Tabs.printable_plain (std.printable value url parsed permitted)) nonempty short
        have same : decoded = utf8 url.href := Option.some.inj (read.symm.trans back)
        rw [same] at valid
        have whole : encodeUrl parseUrl url.href = .ok (hex (utf8 url.href)) := by
          rw [encodeUrl, normal]
          rfl
        obtain ⟨fits, escaped⟩ :=
          (Tabs.accepted_iff std glib parsed permitted).mp ⟨⟨_, whole, back⟩, valid⟩
        exact ⟨same, .inr ⟨url, found, permitted.hostname, fits, escaped⟩⟩

end

/-! ## The arguments -/

/-- Names and values as text. -/
def namedArguments (configuration : StartConfiguration) (initialTabId initialUrl : String) :
    List (String × String) := [
  ("--width", configuration.profile.text (·.width)),
  ("--height", configuration.profile.text (·.height)),
  ("--fps", configuration.profile.text (·.fps)),
  ("--bitrate", configuration.profile.text (·.bitrate)),
  ("--initial-tab-id", initialTabId),
  ("--initial-url-hex", initialUrl),
  ("--stun-server", configuration.ice.stunServer),
  ("--turn-servers", turnServersArgument configuration.ice),
  ("--ice-policy", configuration.ice.iceTransportPolicy),
  ("--control-output-fd", "3")]

def encoded (pairs : List (String × String)) : List (Bytes × Bytes) := pairs.map fun p => (utf8 p.1, utf8 p.2)

theorem lookup_encoded (pairs : List (String × String)) (key : String) :
    lookupEntry (utf8 key) (encoded pairs) = (lookupEntry key pairs).map utf8 := by
  induction pairs with
  | nil => rfl
  | cons p pairs ih =>
    rw [encoded] at ih ⊢
    rw [List.map_cons, lookupEntry, lookupEntry, ih]
    by_cases same : p.1 = key
    · rw [if_pos (utf8_inj.mpr same), if_pos same]
      rfl
    · rw [if_neg (fun bytes => same (utf8_inj.mp bytes)), if_neg same]

theorem valueOf_encoded {pairs : List (String × String)} {key value : String}
    (found : lookupEntry key pairs = some value) : Tabs.valueOf (encoded pairs) key = utf8 value := by
  rw [Tabs.valueOf, lookup_encoded, found]
  rfl

section
variable {parseUri : Bytes → Option GUri} {configuration : StartConfiguration} {initialTabId initialUrl : String}
  {started : NativeConfiguration}

theorem argvOf_named : argvOf ((namedArguments configuration initialTabId initialUrl).flatMap fun p => [p.1, p.2]) =
    utf8 runtimePath :: Tabs.written (encoded (namedArguments configuration initialTabId initialUrl)) := rfl

/-- The arguments are in the order of the names that are asked for. -/
theorem parse_named : parseArguments parseUri
      (utf8 runtimePath :: Tabs.written (encoded (namedArguments configuration initialTabId initialUrl))) =
        some started ↔
    Tabs.Denotes parseUri (Tabs.valueOf (encoded (namedArguments configuration initialTabId initialUrl))) started := by
  rw [Tabs.parseArguments_iff]
  constructor
  · rintro ⟨program, pairs, same, -, denotes⟩
    injection same with _ rest
    rw [Tabs.written_inj rest]
    exact denotes
  · intro denotes
    exact ⟨_, _, rfl, List.Perm.refl _, denotes⟩

theorem profile_bounds : ∀ p ∈ profileConfiguration, (1 ≤ p.2.width ∧ p.2.width ≤ 4096) ∧
    (1 ≤ p.2.height ∧ p.2.height ≤ 2160) ∧ (1 ≤ p.2.fps ∧ p.2.fps ≤ 60) ∧
    (1 ≤ p.2.bitrate ∧ p.2.bitrate ≤ 50000000) := by decide

theorem undefined_no_number (maximum n : Nat) : ¬ Tabs.IsNumber maximum (utf8 "undefined") n := by
  intro number
  have digits := List.all_eq_true.mpr number.digits
  exact absurd digits (by decide)

/-- A profile is one of the three, or is inherited. -/
theorem profileOf_own {profileName : String} {value : ProfileValue} {profile : Profile}
    (found : profileOf profileName = some value) :
    value = .own profile ↔ profileConfiguration.lookup profileName = some profile := by
  unfold profileOf at found
  split at found
  · rename_i own there
    cases found
    rw [there]
    simp
  · rename_i none
    rw [none]
    split at found
    · cases found
      simp
    · cases found

/-- What each of the names has for a value. -/
structure NamedValues (configuration : StartConfiguration) (initialTabId initialUrl : String)
    (value : String → Bytes) : Prop where
  width : value "--width" = utf8 (configuration.profile.text (·.width))
  height : value "--height" = utf8 (configuration.profile.text (·.height))
  fps : value "--fps" = utf8 (configuration.profile.text (·.fps))
  bitrate : value "--bitrate" = utf8 (configuration.profile.text (·.bitrate))
  initialTabId : value "--initial-tab-id" = utf8 initialTabId
  initialUrl : value "--initial-url-hex" = utf8 initialUrl
  stunServer : value "--stun-server" = utf8 configuration.ice.stunServer
  turnServers : value "--turn-servers" = utf8 (turnServersArgument configuration.ice)
  icePolicy : value "--ice-policy" = utf8 configuration.ice.iceTransportPolicy
  controlOutputFd : value "--control-output-fd" = utf8 "3"

theorem named_values (configuration : StartConfiguration) (initialTabId initialUrl : String) :
    NamedValues configuration initialTabId initialUrl
      (Tabs.valueOf (encoded (namedArguments configuration initialTabId initialUrl))) := by
  constructor <;> apply valueOf_encoded <;> simp [namedArguments, lookupEntry]

/-- The configuration of the native runtime, from the one of the supervisor. -/
def nativeConfiguration (configuration : StartConfiguration) (profile : Profile) (initialTabId : String) :
    NativeConfiguration where
  width := profile.width
  height := profile.height
  fps := profile.fps
  bitrate := profile.bitrate
  initialTabId := utf8 initialTabId
  initialUrl := utf8 configuration.startUrl
  stunServer := utf8 configuration.ice.stunServer
  turnServers := utf8 (turnServersArgument configuration.ice)
  icePolicy := utf8 configuration.ice.iceTransportPolicy
  controlOutputFd := 3

/-- A number of a profile is read as it is. -/
theorem number_same {maximum n m : Nat} (bounds : 1 ≤ n ∧ n ≤ maximum) (small : maximum < 10 ^ 10)
    (number : Tabs.IsNumber maximum (utf8 (toString n)) m) : m = n := by
  have read := Tabs.parsePositiveInteger_toString bounds.1 bounds.2 small
  exact Option.some.inj ((Tabs.parsePositiveInteger_iff.mpr number).symm.trans read)

theorem number_read {maximum n : Nat} (bounds : 1 ≤ n ∧ n ≤ maximum) (small : maximum < 10 ^ 10) :
    Tabs.IsNumber maximum (utf8 (toString n)) n :=
  Tabs.parsePositiveInteger_iff.mp (Tabs.parsePositiveInteger_toString bounds.1 bounds.2 small)

end

/-- The native runtime accepts what the supervisor starts it with. -/
def Starts (parseUrl : String → Option Url) (parseUri : Bytes → Option GUri) (configuration : StartConfiguration)
    (initialTabId : String) (started : NativeConfiguration) : Prop :=
  ∃ arguments, startArguments parseUrl configuration initialTabId = .ok arguments ∧
    parseArguments parseUri (argvOf arguments) = some started

section
variable {node : StartNode} {parseUri : Bytes → Option GUri} {environment : Environment}
  {configuration : StartConfiguration} {initialTabId : String} {started : NativeConfiguration}

theorem startArguments_ok {parseUrl : String → Option Url} {arguments : List String} :
    startArguments parseUrl configuration initialTabId = .ok arguments ↔
      ∃ initialUrl, encodeUrl parseUrl configuration.startUrl = .ok initialUrl ∧
        (namedArguments configuration initialTabId initialUrl).flatMap (fun p => [p.1, p.2]) = arguments := by
  unfold startArguments
  rw [bind_ok]
  simp only [Except.ok.injEq]
  exact Iff.rfl

theorem starts_only (std : Serializes node.parseUrl) (glib : ParsesUris node.parseUrl parseUri)
    (configured : Configured node environment configuration)
    (starts : Starts node.parseUrl parseUri configuration initialTabId started) :
    ∃ profile, configuration.profile = .own profile ∧ Fits node.parseUrl configuration.startUrl ∧
      started = nativeConfiguration configuration profile initialTabId := by
  obtain ⟨arguments, written, parsed⟩ := starts
  obtain ⟨initialUrl, encodes, rfl⟩ := startArguments_ok.mp written
  rw [argvOf_named, parse_named] at parsed
  have values := named_values configuration initialTabId initialUrl
  have width := parsed.width
  have height := parsed.height
  have fps := parsed.fps
  have bitrate := parsed.bitrate
  obtain ⟨id, -⟩ := parsed.initialTabId
  obtain ⟨decodes, valid⟩ := parsed.initialUrl
  have stun := parsed.stunServer
  have turn := parsed.turnServers
  obtain ⟨policy, -⟩ := parsed.icePolicy
  obtain ⟨-, fd⟩ := parsed.controlOutputFd
  rw [values.width] at width
  rw [values.height] at height
  rw [values.fps] at fps
  rw [values.bitrate] at bitrate
  rw [values.initialTabId] at id
  rw [values.initialUrl] at decodes
  rw [values.stunServer] at stun
  rw [values.turnServers] at turn
  rw [values.icePolicy] at policy
  obtain ⟨url, fits⟩ := accepted_fits std glib configured.startUrl encodes decodes valid
  cases own : configuration.profile with
  | inherited =>
    rw [own] at width
    exact absurd width (undefined_no_number 4096 started.width)
  | own profile =>
    have found := (profileOf_own configured.profile).mp own
    obtain ⟨widths, heights, rates, bits⟩ := profile_bounds _ (mem_of_lookup found)
    rw [own] at width height fps bitrate
    have sameWidth := number_same widths (by decide) width
    have sameHeight := number_same heights (by decide) height
    have sameFps := number_same rates (by decide) fps
    have sameBitrate := number_same bits (by decide) bitrate
    refine ⟨profile, rfl, fits, ?_⟩
    cases started
    dsimp only at *
    rw [nativeConfiguration, sameWidth, sameHeight, sameFps, sameBitrate, id, ← url, stun, turn, policy, fd]

theorem starts_when (std : Serializes node.parseUrl) (glib : ParsesUris node.parseUrl parseUri)
    (configured : Configured node environment configuration) (uuid : validUuid (utf8 initialTabId) = true)
    {profile : Profile} (own : configuration.profile = .own profile) (fits : Fits node.parseUrl configuration.startUrl) :
    Starts node.parseUrl parseUri configuration initialTabId
      (nativeConfiguration configuration profile initialTabId) := by
  obtain ⟨⟨initialUrl, encodes, decodes⟩, valid⟩ := fits_accepted std glib configured.startUrl fits
  refine ⟨_, startArguments_ok.mpr ⟨initialUrl, encodes, rfl⟩, ?_⟩
  rw [argvOf_named, parse_named]
  have values := named_values configuration initialTabId initialUrl
  have found := (profileOf_own configured.profile).mp own
  obtain ⟨widths, heights, rates, bits⟩ := profile_bounds _ (mem_of_lookup found)
  have policy : utf8 configuration.ice.iceTransportPolicy = utf8 "all" ∨
      utf8 configuration.ice.iceTransportPolicy = utf8 "relay" := by
    rcases List.mem_pair.mp configured.policy with all | relay
    · exact .inl (congrArg utf8 all)
    · exact .inr (congrArg utf8 relay)
  constructor
  · rw [values.width, own]
    exact number_read widths (by decide)
  · rw [values.height, own]
    exact number_read heights (by decide)
  · rw [values.fps, own]
    exact number_read rates (by decide)
  · rw [values.bitrate, own]
    exact number_read bits (by decide)
  · exact ⟨values.initialTabId, uuid⟩
  · rw [values.initialUrl]
    exact ⟨decodes, valid⟩
  · exact values.stunServer
  · exact values.turnServers
  · exact ⟨values.icePolicy, policy⟩
  · exact ⟨values.controlOutputFd, rfl⟩

/-! ## The first line -/

theorem lower_hex {b : UInt8} (digit : 48 ≤ b ∧ b ≤ 57 ∨ 97 ≤ b ∧ b ≤ 102) :
    b.toNat < 128 ∧ ((Char.ofNat b.toNat).isDigit || ('a' ≤ Char.ofNat b.toNat && Char.ofNat b.toNat ≤ 'f') ||
      decide (Char.ofNat b.toNat = '-')) = true := by
  have small : b.toNat < 103 := by
    rcases digit with ⟨-, high⟩ | ⟨-, high⟩
    · have high := UInt8.le_iff_toNat_le.mp high
      have value : (57 : UInt8).toNat = 57 := rfl
      omega
    · have high := UInt8.le_iff_toNat_le.mp high
      have value : (102 : UInt8).toNat = 102 := rfl
      omega
  have range : 48 ≤ b.toNat ∧ b.toNat ≤ 57 ∨ 97 ≤ b.toNat ∧ b.toNat ≤ 102 := by
    rcases digit with ⟨low, high⟩ | ⟨low, high⟩
    · exact .inl ⟨UInt8.le_iff_toNat_le.mp low, UInt8.le_iff_toNat_le.mp high⟩
    · exact .inr ⟨UInt8.le_iff_toNat_le.mp low, UInt8.le_iff_toNat_le.mp high⟩
  have all : ∀ n < 103, (48 ≤ n ∧ n ≤ 57 ∨ 97 ≤ n ∧ n ≤ 102) →
      ((Char.ofNat n).isDigit || ('a' ≤ Char.ofNat n && Char.ofNat n ≤ 'f') ||
        decide (Char.ofNat n = '-')) = true := by decide
  exact ⟨by omega, all b.toNat small range⟩

/-- A byte of a UUID is a dash or a digit. -/
theorem uuid_byte {value : Bytes} (uuid : Tabs.LowerUuid value) :
    ∀ b ∈ value, b.toNat < 128 ∧ ((Char.ofNat b.toNat).isDigit ||
      ('a' ≤ Char.ofNat b.toNat && Char.ofNat b.toNat ≤ 'f') || decide (Char.ofNat b.toNat = '-')) = true := by
  intro b mem
  obtain ⟨i, there⟩ := List.mem_iff_getElem?.mp mem
  by_cases dash : i ∈ [8, 13, 18, 23]
  · have same := uuid.dashes i dash
    rw [there] at same
    cases same
    decide
  · exact lower_hex (uuid.digits i b there dash)

theorem parseReady_uuid {id : String} (uuid : validUuid (utf8 id) = true) :
    Tabs.parseReady ("READY " ++ id) = some id := by
  have lower := Tabs.lowerUuid_of_valid uuid
  have bytes := uuid_byte lower
  have chars := toList_ascii fun b mem => (bytes b mem).1
  have each : ∀ c ∈ id.toList, (c.isDigit || ('a' ≤ c && c ≤ 'f') || decide (c = '-')) = true := by
    intro c mem
    rw [chars] at mem
    obtain ⟨b, there, rfl⟩ := List.mem_map.mp mem
    exact (bytes b there).2
  have blank : ' ' ∉ id.toList := by
    intro mem
    exact absurd (each ' ' mem) (by decide)
  have length : id.toList.length = 36 := by
    rw [chars, List.length_map]
    exact lower.length
  have split : ("READY " ++ id).toList.splitOn ' ' = ["READY".toList, id.toList] := by
    have lead : "READY ".toList = "READY".toList ++ [' '] := by decide
    rw [String.toList_append, lead, List.append_assoc, List.singleton_append,
      splitOn_sep (by decide), splitOn_one blank]
  unfold Tabs.parseReady
  rw [split]
  dsimp only
  rw [if_pos ⟨rfl, length, List.all_eq_true.mpr each⟩, String.ofList_toList]

end

/-- **A session starts.** Of an environment that the supervisor accepts, the native runtime
accepts the arguments exactly when the profile is one of the three, and no inherited
property, and the start URL fits; it then has the profile, the URL and the servers of the
environment. Once it is set up, its first tab is there, and the line that it writes first is
the one that the driver waits for. -/
theorem session_starts {node : StartNode} {parseUri : Bytes → Option GUri} {environment : Environment}
    {configuration : StartConfiguration} {initialTabId : String} (std : Serializes node.parseUrl)
    (glib : ParsesUris node.parseUrl parseUri) (accepted : parseConfiguration node environment = .ok configuration)
    (uuid : validUuid (utf8 initialTabId) = true) :
    (∀ started, Starts node.parseUrl parseUri configuration initialTabId started ↔
      ∃ profile, profileConfiguration.lookup configuration.profileName = some profile ∧
        Fits node.parseUrl configuration.startUrl ∧
        started = nativeConfiguration configuration profile initialTabId) ∧
    ∀ started o setUp play r, Starts node.parseUrl parseUri configuration initialTabId started →
      Tabs.Runtime.initializeRuntime parseUri o setUp play started.initialTabId started.initialUrl = .ok r →
      r.tabs = JsMap.empty.set (utf8 initialTabId) ⟨utf8 initialTabId, utf8 configuration.startUrl⟩ ∧
      r.activeTabId = utf8 initialTabId ∧
      ∀ o', o'.write = true → ∃ line, r.run o' started.initialTabId = (r, [utf8 line]) ∧
        ((NativeTabDriver.new initialTabId).handleLine line).1.ready = some (.ok ()) := by
  have configured := configuration_ok accepted
  constructor
  · intro started
    constructor
    · intro starts
      obtain ⟨profile, own, fits, same⟩ := starts_only std glib configured starts
      exact ⟨profile, (profileOf_own configured.profile).mp own, fits, same⟩
    · rintro ⟨profile, found, fits, rfl⟩
      exact starts_when std glib configured uuid ((profileOf_own configured.profile).mpr found) fits
  · intro started o setUp play r starts initialized
    obtain ⟨profile, -, -, rfl⟩ := starts_only std glib configured starts
    obtain ⟨-, -, tabs, active⟩ := Tabs.initialize_spec initialized
    refine ⟨tabs, active, ?_⟩
    intro o' written
    refine ⟨"READY " ++ initialTabId, ?_, ?_⟩
    · rw [Tabs.Runtime.run, Tabs.Runtime.writeControlLine, if_pos written, utf8_append]
      rfl
    · have known : initialTabId = (NativeTabDriver.new initialTabId).expectedInitialTabId := rfl
      rw [Tabs.handleLine_ready (parseReady_uuid uuid), if_pos known]
      rfl

/-- An environment with a start URL and a profile. -/
def sampleEnvironment (profileName : String) : Environment :=
  ((JsMap.empty.set "FIREBALL_INTERNAL_SIGNALING_SECRET" "AAAAAAAAAAAAAAAAAAAAAAAAAAAAAAAAAAAAAAAAAAA").set
    "FIREBALL_STREAM_PROFILE" profileName).set "FIREBALL_START_URL" Tabs.sampleOrigin

def sampleStartNode : StartNode where
  parseJson _ := none
  isIP _ := 0
  toLowerCase host := host
  parseUrl := Tabs.sampleUrls
  openFile _ := .error "ENOENT"

def startConfigurationOf (profileName : String) (profile : ProfileValue) : StartConfiguration :=
  ⟨"AAAAAAAAAAAAAAAAAAAAAAAAAAAAAAAAAAAAAAAAAAA", profileName, profile, Tabs.sampleOrigin, ⟨"", [], "all"⟩⟩

def sampleTabId : String := "00000000-0000-4000-8000-000000000001"

/-- The runtime with the first tab. -/
def startedRuntime : Tabs.Runtime where
  tabs := JsMap.empty.set (utf8 sampleTabId) ⟨utf8 sampleTabId, utf8 Tabs.sampleOrigin⟩
  activeTabId := utf8 sampleTabId
  nextElementId := 2
  running := true
  exitCode := 0
  quit := false

/-- One of the three profiles, up to its READY line, and an inherited one. -/
theorem session_starts_profiles :
    Starts Tabs.sampleUrls Tabs.sampleUris (startConfigurationOf "480p10" (.own ⟨854, 480, 10, 1200000⟩)) sampleTabId
      (nativeConfiguration (startConfigurationOf "480p10" (.own ⟨854, 480, 10, 1200000⟩)) ⟨854, 480, 10, 1200000⟩
        sampleTabId) ∧
    (∃ line, startedRuntime.run Tabs.willing (utf8 sampleTabId) = (startedRuntime, [utf8 line]) ∧
      ((NativeTabDriver.new sampleTabId).handleLine line).1.ready = some (.ok ())) ∧
    ¬ ∃ started, Starts Tabs.sampleUrls Tabs.sampleUris (startConfigurationOf "constructor" .inherited) sampleTabId
      started := by
  have uuid : validUuid (utf8 sampleTabId) = true := by decide
  have accepted : parseConfiguration sampleStartNode (sampleEnvironment "480p10") =
      .ok (startConfigurationOf "480p10" (.own ⟨854, 480, 10, 1200000⟩)) := by rfl
  have accepted' : parseConfiguration sampleStartNode (sampleEnvironment "constructor") =
      .ok (startConfigurationOf "constructor" .inherited) := by rfl
  have fits : Fits Tabs.sampleUrls Tabs.sampleOrigin :=
    .inr ⟨_, rfl, by decide, by decide, by decide⟩
  have std : Serializes sampleStartNode.parseUrl := Tabs.sampleUrls_serializes
  have glib : ParsesUris sampleStartNode.parseUrl Tabs.sampleUris := Tabs.sampleUris_parses
  have starts : Starts Tabs.sampleUrls Tabs.sampleUris
      (startConfigurationOf "480p10" (.own ⟨854, 480, 10, 1200000⟩)) sampleTabId _ :=
    ((session_starts std glib accepted uuid).1 _).mpr ⟨_, rfl, fits, rfl⟩
  have initialized : Tabs.Runtime.initializeRuntime Tabs.sampleUris Tabs.willing (.ok ()) (.ok ())
      (utf8 sampleTabId) (utf8 Tabs.sampleOrigin) = .ok startedRuntime := by decide
  refine ⟨starts, ?_, ?_⟩
  · exact ((session_starts std glib accepted uuid).2 _ _ _ _ _ starts initialized).2.2 Tabs.willing rfl
  · rintro ⟨started, starts⟩
    obtain ⟨profile, own, -⟩ := ((session_starts std glib accepted' uuid).1 started).mp starts
    cases own

end Fireball.Supervisor
