import Fireball.Foundation.Ascii
import Fireball.Foundation.Failing
import Fireball.Foundation.Json
import Fireball.Foundation.Url
import Fireball.Tabs.Controller

/-!
# ICE servers

`parseIceServerConfiguration` and `runtimeArguments` of `session/supervisor.mjs`. What
Node has is a parameter. A failing validator is known by the text of its error.

* `validateTurnServer_ok`: what a TURN server says that is accepted;
* `parseIce_ok`: what a configuration says that is accepted.
-/

namespace Fireball.Supervisor

open Foundation

structure IceNode where
  /-- `JSON.parse`, or nothing when it throws. -/
  parseJson : String → Option Json
  /-- `net.isIP`: 4, 6, or 0. -/
  isIP : String → Nat
  /-- `value.toLowerCase()`. -/
  toLowerCase : String → String

structure IceConfiguration where
  stunServer : String
  turnServers : List String
  iceTransportPolicy : String
  deriving DecidableEq, Repr

/-! ## Fields -/

/-- `[a-z0-9]`. -/
def isLabelEnd (c : Char) : Bool := c.isDigit || c.isLower

/-- `[a-z0-9](?:[a-z0-9-]{0,61}[a-z0-9])?`. -/
def isLabel (label : List Char) : Bool :=
  0 < label.length && label.length ≤ 63 && label.all (fun c => isLabelEnd c || c = '-') &&
    label.head?.any isLabelEnd && label.getLast?.any isLabelEnd

/-- `/^(?=.{1,253}$)label(?:\.label)*$/`. -/
def isHostName (text : List Char) : Bool :=
  0 < text.length && text.length ≤ 253 && (text.splitOn '.').all isLabel

def assertObjectWithExactKeys (value : Json) (keys : List String) (label : String) :
    Except String (List (String × Json)) := do
  let fields ← match value with
    | .object fields => .ok fields
    | _ => .error (label ++ " must contain only " ++ ", ".intercalate keys)
  check (Json.sortedKeys fields = ",".intercalate (keys.insertionSort (· ≤ ·)))
    (label ++ " must contain only " ++ ", ".intercalate keys)
  .ok fields

def validateIceHost (node : IceNode) (value : Option Json) : Except String String :=
  match value with
  | some (.string host) => do
    check (1 ≤ units host.toList && units host.toList ≤ 253) "ICE server host is invalid"
    if node.isIP host = 4 ∨ node.isIP host = 6 then
      check (host = node.toLowerCase host) "ICE server host is invalid"
      .ok host
    else
      check (host = node.toLowerCase host && isHostName host.toList) "ICE server host is invalid"
      .ok host
  | _ => .error "ICE server host is invalid"

def validateIcePort (value : Option Json) : Except String Nat :=
  match value with
  | some (.number port) => do
    check (port.den = 1 && 1 ≤ port.num && port.num ≤ 65535) "ICE server port must be between 1 and 65535"
    .ok port.num.toNat
  | _ => .error "ICE server port must be between 1 and 65535"

/-- The characters that `encodeURIComponent` leaves and that are escaped after it. -/
def escapeCharacter (character : Char) : List Char :=
  if character ∈ "!'()*".toList then '%' :: (Nat.toDigits 16 character.toNat).map Char.toUpper
  else [character]

/-- What `encodeIceCredential` returns. -/
def encodedCredential (value : String) : String :=
  String.ofList ((encodeURIComponent value).toList.flatMap escapeCharacter)

def encodeIceCredential (value : Option Json) (label : String) (maximumLength : Nat) : Except String String :=
  match value with
  | some (.string text) => do
    check (1 ≤ units text.toList && units text.toList ≤ maximumLength && text.toList.all isPrintable)
      ("TURN server " ++ label ++ " must contain printable ASCII without spaces")
    .ok (encodedCredential text)
  | _ => .error ("TURN server " ++ label ++ " must contain printable ASCII without spaces")

def serializeIceHost (node : IceNode) (host : String) : String :=
  if node.isIP host = 6 then "[" ++ host ++ "]" else host

/-! ## Servers -/

def validateStunServer (node : IceNode) (value : Json) : Except String String := do
  let fields ← assertObjectWithExactKeys value ["host", "port"] "STUN server"
  let host ← validateIceHost node (Json.field fields "host")
  let port ← validateIcePort (Json.field fields "port")
  .ok ("stun://" ++ serializeIceHost node host ++ ":" ++ toString port)

def validateScheme (value : Option Json) : Except String String :=
  match value with
  | some (.string scheme) => do
    check (["turn", "turns"].contains scheme) "TURN server scheme must be turn or turns"
    .ok scheme
  | _ => .error "TURN server scheme must be turn or turns"

def validateTurnServer (node : IceNode) (value : Json) : Except String String := do
  let fields ← assertObjectWithExactKeys value ["host", "password", "port", "scheme", "username"] "TURN server"
  let scheme ← validateScheme (Json.field fields "scheme")
  let host ← validateIceHost node (Json.field fields "host")
  let port ← validateIcePort (Json.field fields "port")
  let username ← encodeIceCredential (Json.field fields "username") "username" 128
  let password ← encodeIceCredential (Json.field fields "password") "password" 256
  .ok (scheme ++ "://" ++ username ++ ":" ++ password ++ "@" ++ serializeIceHost node host ++ ":" ++ toString port)

/-! ## The configuration -/

def expectedIceKeys (fields : List (String × Json)) : List String :=
  match Json.field fields "stun_server" with
  | none => ["ice_transport_policy", "schema_version", "turn_servers"]
  | some _ => ["ice_transport_policy", "schema_version", "stun_server", "turn_servers"]

def turnServerElements (value : Option Json) : Except String (List Json) :=
  match value with
  | some (.array elements) => do
    check (1 ≤ elements.length && elements.length ≤ 4)
      "ICE server configuration must contain one to four TURN servers"
    .ok elements
  | _ => .error "ICE server configuration must contain one to four TURN servers"

def validatePolicy (value : Option Json) : Except String String :=
  match value with
  | some (.string policy) => do
    check (["all", "relay"].contains policy) "ICE transport policy must be all or relay"
    .ok policy
  | _ => .error "ICE transport policy must be all or relay"

def parseIceObject (node : IceNode) (source : String) : Except String (List (String × Json)) :=
  match node.parseJson source with
  | none => .error "ICE server configuration must be valid JSON"
  | some (.object fields) => .ok fields
  | some _ => .error "ICE server configuration must be an object"

/-- `parsed.stun_server === undefined ? "" : validateStunServer(parsed.stun_server)`. -/
def parseStunServer (node : IceNode) : Option Json → Except String String
  | none => .ok ""
  | some value => validateStunServer node value

def parseIceServerConfiguration (node : IceNode) (source : String) : Except String IceConfiguration := do
  let fields ← parseIceObject node source
  check (Json.sortedKeys fields = ",".intercalate (expectedIceKeys fields))
    "ICE server configuration contains unsupported fields"
  check (isInteger (Json.field fields "schema_version") 1) "ICE server configuration schema_version must be 1"
  let elements ← turnServerElements (Json.field fields "turn_servers")
  let turnServers ← elements.mapM (validateTurnServer node)
  check (decide turnServers.Nodup) "ICE server configuration TURN servers must be unique"
  let stunServer ← parseStunServer node (Json.field fields "stun_server")
  let iceTransportPolicy ← validatePolicy (Json.field fields "ice_transport_policy")
  .ok ⟨stunServer, turnServers, iceTransportPolicy⟩

structure Profile where
  width : Nat
  height : Nat
  fps : Nat
  bitrate : Nat
  deriving DecidableEq, Repr

structure Configuration where
  profile : Profile
  startUrl : String
  ice : IceConfiguration
  deriving DecidableEq, Repr

def turnServersArgument (ice : IceConfiguration) : String :=
  if ice.turnServers.length = 0 then ""
  else "<" ++ ",".intercalate (ice.turnServers.map fun server => "\"" ++ server ++ "\"") ++ ">"

def runtimeArguments (parseUrl : String → Option Url) (configuration : Configuration) (initialTabId : String) :
    Except Tabs.TabControlError (List String) := do
  let initialUrl ← Tabs.encodeUrl parseUrl configuration.startUrl
  .ok [
    "--width", toString configuration.profile.width,
    "--height", toString configuration.profile.height,
    "--fps", toString configuration.profile.fps,
    "--bitrate", toString configuration.profile.bitrate,
    "--initial-tab-id", initialTabId,
    "--initial-url-hex", initialUrl,
    "--stun-server", configuration.ice.stunServer,
    "--turn-servers", turnServersArgument configuration.ice,
    "--ice-policy", configuration.ice.iceTransportPolicy,
    "--control-output-fd", "3"]

/-! ## What is accepted -/

section
variable {node : IceNode}

theorem assertObject_ok {value : Json} {keys : List String} {label : String} {fields : List (String × Json)} :
    assertObjectWithExactKeys value keys label = .ok fields ↔
      value = .object fields ∧ Json.sortedKeys fields = ",".intercalate (keys.insertionSort (· ≤ ·)) := by
  unfold assertObjectWithExactKeys
  split
  · rename_i own
    simp only [bind_ok, check_ok, decide_eq_true_eq, Except.ok.injEq, Json.object.injEq]
    constructor
    · rintro ⟨_, rfl, _, exact, rfl⟩
      exact ⟨rfl, exact⟩
    · rintro ⟨rfl, exact⟩
      exact ⟨_, rfl, (), exact, rfl⟩
  · rename_i other
    simp only [bind_ok, reduceCtorEq, false_and, exists_false, false_iff, not_and]
    exact fun object => absurd object (other fields)

/-- A host that `validateIceHost` returns. -/
structure IceHost (node : IceNode) (host : String) : Prop where
  sized : 1 ≤ units host.toList ∧ units host.toList ≤ 253
  lower : host = node.toLowerCase host
  form : node.isIP host = 4 ∨ node.isIP host = 6 ∨ isHostName host.toList = true

theorem validateIceHost_ok {value : Option Json} {host : String} :
    validateIceHost node value = .ok host ↔ value = some (.string host) ∧ IceHost node host := by
  unfold validateIceHost
  split
  · rename_i text
    simp only [bind_ok, check_ok, Bool.and_eq_true, decide_eq_true_eq, Option.some.injEq, Json.string.injEq]
    constructor
    · rintro ⟨_, sized, h⟩
      split at h
      · rename_i address
        obtain ⟨_, lower, same⟩ := bind_ok.mp h
        cases same
        refine ⟨rfl, sized, by simpa [check_ok] using lower, ?_⟩
        exact address.elim .inl (fun six => .inr (.inl six))
      · obtain ⟨_, checked, same⟩ := bind_ok.mp h
        cases same
        simp only [check_ok, Bool.and_eq_true, decide_eq_true_eq] at checked
        exact ⟨rfl, sized, checked.1, .inr (.inr checked.2)⟩
    · rintro ⟨rfl, sized, lower, form⟩
      refine ⟨(), sized, ?_⟩
      split
      · exact bind_ok.mpr ⟨(), check_ok.mpr (by simpa using lower), rfl⟩
      · rename_i name
        refine bind_ok.mpr ⟨(), check_ok.mpr ?_, rfl⟩
        simp only [Bool.and_eq_true, decide_eq_true_eq]
        refine ⟨lower, ?_⟩
        rcases form with four | six | hostName
        · exact absurd (.inl four) name
        · exact absurd (.inr six) name
        · exact hostName
  · rename_i other
    simp only [reduceCtorEq, false_iff, not_and]
    exact fun string => absurd string (other host)

theorem validateIcePort_ok {value : Option Json} {port : Nat} :
    validateIcePort value = .ok port ↔ value = some (.number port) ∧ 1 ≤ port ∧ port ≤ 65535 := by
  unfold validateIcePort
  split
  · rename_i q
    simp only [bind_ok, check_ok, Except.ok.injEq, Option.some.injEq, Json.number.injEq, Bool.and_eq_true,
      decide_eq_true_eq]
    constructor
    · rintro ⟨_, ⟨⟨whole, positive⟩, low⟩, rfl⟩
      have size : (q.num.toNat : Int) = q.num := Int.toNat_of_nonneg (by omega)
      refine ⟨Rat.ext ?_ ?_, by omega, by omega⟩
      · rw [Rat.num_natCast, size]
      · rw [Rat.den_natCast, whole]
    · rintro ⟨rfl, positive, low⟩
      refine ⟨(), ⟨⟨?_, ?_⟩, ?_⟩, ?_⟩ <;> simp <;> omega
  · rename_i other
    simp only [reduceCtorEq, false_iff, not_and]
    exact fun number => absurd number (other _)

/-- A credential that `encodeIceCredential` encodes. -/
structure IceCredential (maximumLength : Nat) (text : String) : Prop where
  sized : 1 ≤ units text.toList ∧ units text.toList ≤ maximumLength
  printable : ∀ c ∈ text.toList, isPrintable c = true

theorem encodeIceCredential_ok {value : Option Json} {label result : String} {maximumLength : Nat} :
    encodeIceCredential value label maximumLength = .ok result ↔
      ∃ text, value = some (.string text) ∧ IceCredential maximumLength text ∧ result = encodedCredential text := by
  unfold encodeIceCredential
  split
  · rename_i text
    simp only [bind_ok, check_ok, Except.ok.injEq, Option.some.injEq, Json.string.injEq, Bool.and_eq_true,
      decide_eq_true_eq, List.all_eq_true]
    constructor
    · rintro ⟨_, ⟨sized, printable⟩, rfl⟩
      exact ⟨text, rfl, ⟨sized, printable⟩, rfl⟩
    · rintro ⟨_, rfl, ⟨sized, printable⟩, rfl⟩
      exact ⟨(), ⟨sized, printable⟩, rfl⟩
  · rename_i other
    simp only [reduceCtorEq, false_iff, not_exists, not_and]
    exact fun text string => absurd string (other text)

/-- What a TURN server of a document says. -/
structure TurnServer where
  scheme : String
  username : String
  password : String
  host : String
  port : Nat
  deriving DecidableEq, Repr

/-- The fields of an element of `turn_servers`. -/
structure Describes (fields : List (String × Json)) (server : TurnServer) : Prop where
  scheme : Json.field fields "scheme" = some (.string server.scheme)
  username : Json.field fields "username" = some (.string server.username)
  password : Json.field fields "password" = some (.string server.password)
  host : Json.field fields "host" = some (.string server.host)
  port : Json.field fields "port" = some (.number server.port)

namespace TurnServer

structure Accepted (node : IceNode) (server : TurnServer) : Prop where
  scheme : server.scheme ∈ ["turn", "turns"]
  username : IceCredential 128 server.username
  password : IceCredential 256 server.password
  host : IceHost node server.host
  port : 1 ≤ server.port ∧ server.port ≤ 65535

/-- The text that `validateTurnServer` returns. -/
def uri (node : IceNode) (server : TurnServer) : String :=
  server.scheme ++ "://" ++ encodedCredential server.username ++ ":" ++ encodedCredential server.password ++
    "@" ++ serializeIceHost node server.host ++ ":" ++ toString server.port

/-- An element of `turn_servers` with its keys. -/
def Element (value : Json) (server : TurnServer) : Prop :=
  ∃ fields, value = .object fields ∧ Json.sortedKeys fields = "host,password,port,scheme,username" ∧
    Describes fields server

end TurnServer

theorem validateScheme_ok {value : Option Json} {scheme : String} :
    validateScheme value = .ok scheme ↔ value = some (.string scheme) ∧ scheme ∈ ["turn", "turns"] := by
  unfold validateScheme
  split
  · rename_i text
    simp only [bind_ok, check_ok, Except.ok.injEq, Option.some.injEq, Json.string.injEq, List.contains_iff_mem]
    constructor
    · rintro ⟨_, known, rfl⟩
      exact ⟨rfl, known⟩
    · rintro ⟨rfl, known⟩
      exact ⟨(), known, rfl⟩
  · rename_i other
    simp only [reduceCtorEq, false_iff, not_and]
    exact fun string => absurd string (other scheme)

theorem validateTurnServer_ok {value : Json} {text : String} :
    validateTurnServer node value = .ok text ↔
      ∃ server : TurnServer, server.Element value ∧ server.Accepted node ∧ text = server.uri node := by
  have keys : ",".intercalate (["host", "password", "port", "scheme", "username"].insertionSort (· ≤ ·)) =
      "host,password,port,scheme,username" := by decide
  simp only [validateTurnServer, bind_ok, assertObject_ok, keys, validateScheme_ok, validateIceHost_ok,
    validateIcePort_ok, encodeIceCredential_ok, Except.ok.injEq]
  constructor
  · rintro ⟨fields, ⟨rfl, exact⟩, scheme, ⟨schemeField, known⟩, host, ⟨hostField, hosted⟩, port,
      ⟨portField, ported⟩, _, ⟨username, usernameField, named, rfl⟩, _, ⟨password, passwordField, secret, rfl⟩, rfl⟩
    exact ⟨⟨scheme, username, password, host, port⟩,
      ⟨fields, rfl, exact, schemeField, usernameField, passwordField, hostField, portField⟩,
      ⟨known, named, secret, hosted, ported⟩, rfl⟩
  · rintro ⟨server, ⟨fields, rfl, exact, described⟩, accepted, rfl⟩
    exact ⟨fields, ⟨rfl, exact⟩, _, ⟨described.scheme, accepted.scheme⟩, _, ⟨described.host, accepted.host⟩, _,
      ⟨described.port, accepted.port⟩, _, ⟨_, described.username, accepted.username, rfl⟩, _,
      ⟨_, described.password, accepted.password, rfl⟩, rfl⟩

/-- A `stun_server` that is accepted. -/
structure StunServer (node : IceNode) (fields : List (String × Json)) (host : String) (port : Nat) : Prop where
  keys : Json.sortedKeys fields = "host,port"
  hostField : Json.field fields "host" = some (.string host)
  host : IceHost node host
  portField : Json.field fields "port" = some (.number port)
  port : 1 ≤ port ∧ port ≤ 65535

theorem validateStunServer_ok {value : Json} {text : String} :
    validateStunServer node value = .ok text ↔ ∃ fields host port, value = .object fields ∧
      StunServer node fields host port ∧ text = "stun://" ++ serializeIceHost node host ++ ":" ++ toString port := by
  have keys : ",".intercalate (["host", "port"].insertionSort (· ≤ ·)) = "host,port" := by decide
  simp only [validateStunServer, bind_ok, assertObject_ok, keys, validateIceHost_ok, validateIcePort_ok,
    Except.ok.injEq]
  constructor
  · rintro ⟨fields, ⟨rfl, exact⟩, host, ⟨hostField, hosted⟩, port, ⟨portField, ported⟩, rfl⟩
    exact ⟨fields, host, port, rfl, ⟨exact, hostField, hosted, portField, ported⟩, rfl⟩
  · rintro ⟨fields, host, port, rfl, ⟨exact, hostField, hosted, portField, ported⟩, rfl⟩
    exact ⟨fields, ⟨rfl, exact⟩, host, ⟨hostField, hosted⟩, port, ⟨portField, ported⟩, rfl⟩

theorem parseIceObject_ok {source : String} {fields : List (String × Json)} :
    parseIceObject node source = .ok fields ↔ node.parseJson source = some (.object fields) := by
  unfold parseIceObject
  split <;> simp_all

theorem parseStunServer_ok {value : Option Json} :
    (∃ text, parseStunServer node value = .ok text) ↔
      ∀ stun, value = some stun → ∃ fields host port, stun = .object fields ∧ StunServer node fields host port := by
  cases value with
  | none => simp [parseStunServer]
  | some stun =>
    simp only [parseStunServer, validateStunServer_ok, Option.some.injEq]
    constructor
    · rintro ⟨text, fields, host, port, rfl, server, -⟩ _ rfl
      exact ⟨fields, host, port, rfl, server⟩
    · intro h
      obtain ⟨fields, host, port, rfl, server⟩ := h stun rfl
      exact ⟨_, fields, host, port, rfl, server, rfl⟩

theorem turnServerElements_ok {value : Option Json} {elements : List Json} :
    turnServerElements value = .ok elements ↔
      value = some (.array elements) ∧ 1 ≤ elements.length ∧ elements.length ≤ 4 := by
  unfold turnServerElements
  split
  · rename_i own
    simp only [bind_ok, check_ok, Except.ok.injEq, Option.some.injEq, Json.array.injEq, Bool.and_eq_true,
      decide_eq_true_eq]
    constructor
    · rintro ⟨_, count, rfl⟩
      exact ⟨rfl, count⟩
    · rintro ⟨rfl, count⟩
      exact ⟨(), count, rfl⟩
  · rename_i other
    simp only [reduceCtorEq, false_iff, not_and]
    exact fun array => absurd array (other elements)

theorem validatePolicy_ok {value : Option Json} {policy : String} :
    validatePolicy value = .ok policy ↔ value = some (.string policy) ∧ policy ∈ ["all", "relay"] := by
  unfold validatePolicy
  split
  · simp only [bind_ok, check_ok, Except.ok.injEq, Option.some.injEq, Json.string.injEq, List.contains_iff_mem]
    constructor
    · rintro ⟨_, known, rfl⟩
      exact ⟨rfl, known⟩
    · rintro ⟨rfl, known⟩
      exact ⟨(), known, rfl⟩
  · rename_i other
    simp only [reduceCtorEq, false_iff, not_and]
    exact fun string => absurd string (other policy)

/-- The fields of a configuration that is accepted, with the servers they describe. -/
structure IceDocument (node : IceNode) (fields : List (String × Json)) (elements : List Json)
    (servers : List TurnServer) (policy : String) : Prop where
  keys : Json.sortedKeys fields = ",".intercalate (expectedIceKeys fields)
  version : Json.field fields "schema_version" = some (.number 1)
  turnServers : Json.field fields "turn_servers" = some (.array elements)
  count : 1 ≤ elements.length ∧ elements.length ≤ 4
  described : List.Forall₂ (fun element server => server.Element element ∧ server.Accepted node) elements servers
  distinct : (servers.map (·.uri node)).Nodup
  stun : ∀ value, Json.field fields "stun_server" = some value →
    ∃ own host port, value = .object own ∧ StunServer node own host port
  policyField : Json.field fields "ice_transport_policy" = some (.string policy)
  policy : policy ∈ ["all", "relay"]

theorem forall₂_uris {elements : List Json} {texts : List String} :
    List.Forall₂ (fun element text => validateTurnServer node element = .ok text) elements texts ↔
      ∃ servers : List TurnServer, texts = servers.map (·.uri node) ∧
        List.Forall₂ (fun element server => server.Element element ∧ server.Accepted node) elements servers := by
  constructor
  · intro h
    induction h with
    | nil => exact ⟨[], rfl, .nil⟩
    | cons first rest ih =>
      obtain ⟨server, element, accepted, rfl⟩ := validateTurnServer_ok.mp first
      obtain ⟨servers, rfl, all⟩ := ih
      exact ⟨server :: servers, rfl, .cons ⟨element, accepted⟩ all⟩
  · rintro ⟨servers, rfl, all⟩
    rw [List.forall₂_map_right_iff]
    exact all.imp fun element server both => validateTurnServer_ok.mpr ⟨server, both.1, both.2, rfl⟩

theorem parseIce_ok {source : String} {ice : IceConfiguration}
    (h : parseIceServerConfiguration node source = .ok ice) :
    ∃ fields elements servers policy, node.parseJson source = some (.object fields) ∧
      IceDocument node fields elements servers policy ∧ ice.turnServers = servers.map (·.uri node) := by
  simp only [parseIceServerConfiguration, bind_ok, parseIceObject_ok, check_ok, decide_eq_true_eq, isInteger_iff,
    turnServerElements_ok, mapM_ok, forall₂_uris, validatePolicy_ok, Except.ok.injEq] at h
  obtain ⟨fields, parsed, _, keys, _, version, elements, ⟨turnServers, count⟩, _, ⟨servers, rfl, described⟩, _,
    distinct, stun, stunOk, policy, ⟨policyField, known⟩, rfl⟩ := h
  exact ⟨fields, elements, servers, policy, parsed, ⟨keys, version, turnServers, count, described, distinct,
    parseStunServer_ok.mp ⟨stun, stunOk⟩, policyField, known⟩, rfl⟩

theorem parseIce_accepts {source : String} {fields : List (String × Json)} {elements : List Json}
    {servers : List TurnServer} {policy : String} (parsed : node.parseJson source = some (.object fields))
    (document : IceDocument node fields elements servers policy) :
    ∃ ice, parseIceServerConfiguration node source = .ok ice := by
  obtain ⟨stun, stunOk⟩ := parseStunServer_ok.mpr document.stun
  refine ⟨⟨stun, servers.map (·.uri node), policy⟩, ?_⟩
  simp only [parseIceServerConfiguration, bind_ok, parseIceObject_ok, check_ok, decide_eq_true_eq, isInteger_iff,
    turnServerElements_ok, mapM_ok, forall₂_uris, validatePolicy_ok, Except.ok.injEq]
  exact ⟨fields, parsed, (), document.keys, (), document.version, elements, ⟨document.turnServers, document.count⟩,
    _, ⟨servers, rfl, document.described⟩, (), document.distinct, stun, stunOk, policy,
    ⟨document.policyField, document.policy⟩, rfl⟩

end

end Fireball.Supervisor
