import Fireball.Foundation.JsonSchema
import Fireball.Foundation.Lists
import Fireball.Supervisor.TurnArguments

/-!
# The published form of an ICE configuration

`deploy/turn/ice-servers.schema.json`, beside `parseIceServerConfiguration`.

* `iceHost_iff`: the hosts that the parser accepts are those of the schema and IPv6
  addresses with a zone;
* `parse_iff`: the documents that it accepts;
* `schema_agrees_iff`: exactly when the two agree.
-/

namespace Fireball.Supervisor

open Foundation

/-! ## The schema -/

/-- The formats `ipv4` and `ipv6` of the schema validator. -/
structure Formats where
  ipv4 : String → Bool
  ipv6 : String → Bool

/-- `^[a-z0-9.:-]+$`. -/
def isHostText (text : String) : Bool :=
  0 < text.toList.length && text.toList.all fun c => isLabelEnd c || c ∈ ".:-".toList

/-- `^[!-~]+$`. -/
def isPrintableText (text : String) : Bool := 0 < text.toList.length && text.toList.all isPrintable

def hostSchema (formats : Formats) : Schema :=
  .allOf [.isString, .minLength 1, .maxLength 253, .pattern isHostText,
    .anyOf [.pattern formats.ipv4, .pattern formats.ipv6, .pattern fun text => isHostName text.toList]]

def portSchema : Schema := .allOf [.isInteger, .minimum 1, .maximum 65535]

def credentialSchema : Schema := .allOf [.isString, .minLength 1, .pattern isPrintableText]

def stunServerSchema (host : Schema) : Schema :=
  .allOf [.isObject, .required ["host", "port"], .properties [("host", host), ("port", portSchema)]]

def turnServerSchema (host : Schema) : Schema :=
  .allOf [.isObject, .required ["scheme", "host", "port", "username", "password"], .properties [
    ("scheme", .enum (["turn", "turns"].map Json.string)),
    ("host", host),
    ("port", portSchema),
    ("username", .allOf [credentialSchema, .isString, .maxLength 128]),
    ("password", .allOf [credentialSchema, .isString, .maxLength 256])]]

def turnServersSchema (host : Schema) : Schema :=
  .allOf [.isArray, .minItems 1, .maxItems 4, .uniqueItems, .items (turnServerSchema host)]

/-- The schema, for a form of hosts. -/
def iceSchema (host : Schema) : Schema :=
  .allOf [.isObject, .required ["schema_version", "turn_servers", "ice_transport_policy"], .properties [
    ("schema_version", .const (.number 1)),
    ("stun_server", stunServerSchema host),
    ("turn_servers", turnServersSchema host),
    ("ice_transport_policy", .enum (["all", "relay"].map Json.string))]]

/-- The published schema. -/
def iceServersSchema (formats : Formats) : Schema := iceSchema (hostSchema formats)

/-! ## Addresses with a zone -/

/-- An IPv6 address, `%` and a zone, in lower case. -/
def isZonedAddress (formats : Formats) (text : String) : Bool :=
  match text.toList.dropWhile (· ≠ '%') with
  | _ :: zone => formats.ipv6 (String.ofList (text.toList.takeWhile (· ≠ '%'))) &&
      0 < zone.length && zone.all isZoneCharacter && text.toList.all (!Char.isUpper ·)
  | [] => false

def zonedHostSchema (formats : Formats) : Schema :=
  .allOf [.isString, .maxLength 253, .pattern (isZonedAddress formats)]

/-- The hosts that the parser accepts. -/
def parsedHostSchema (formats : Formats) : Schema := .anyOf [hostSchema formats, zonedHostSchema formats]

/-- The hosts that a document names. -/
def NamesHost (document : Json) (host : String) : Prop :=
  ∃ fields own, document = .object fields ∧ Json.field own "host" = some (.string host) ∧
    (Json.field fields "stun_server" = some (.object own) ∨
      ∃ elements, Json.field fields "turn_servers" = some (.array elements) ∧ .object own ∈ elements)

/-- What `net.isIP` and `toLowerCase` do, beside the formats of the validator. -/
structure Agrees (node : IceNode) (formats : Formats) : Prop where
  grammar : AddressGrammar node.isIP
  four : ∀ host, '%' ∉ host.toList → (node.isIP host = 4 ↔ formats.ipv4 host = true)
  six : ∀ host, '%' ∉ host.toList → (node.isIP host = 6 ↔ formats.ipv6 host = true)
  zoned : ∀ address zone, '%' ∉ address → (node.isIP (String.ofList (address ++ '%' :: zone)) = 6 ↔
    node.isIP (String.ofList address) = 6 ∧ 0 < zone.length ∧ ∀ c ∈ zone, isZoneCharacter c = true)
  lower : ∀ text, (∀ c ∈ text.toList, c.toNat < 128) →
    (text = node.toLowerCase text ↔ ∀ c ∈ text.toList, c.isUpper = false)

/-! ## Hosts -/

theorem Marked.ascii {marks : String} {text : List Char} (h : Marked marks text)
    (small : ∀ c ∈ marks.toList, c.toNat < 128) : ∀ c ∈ text, c.toNat < 128 := by
  intro c mem
  rcases h c mem with letter | mark
  · have plain := alphanum_plain letter
    simp only [isPlain, isPrintable, Bool.and_eq_true, decide_eq_true_eq] at plain
    omega
  · exact small c mark

section
variable {node : IceNode} {formats : Formats}

/-- An address character in lower case. -/
theorem address_hostText {c : Char} (h : isAddressCharacter c = true) (low : c.isUpper = false) :
    isLabelEnd c = true ∨ c ∈ ".:-".toList := by
  simp only [isAddressCharacter, Bool.or_eq_true, Bool.and_eq_true, decide_eq_true_eq] at h
  rcases h with (((digit | lower) | upper) | rfl) | rfl
  · exact .inl (by simp [isLabelEnd, digit])
  · have letter : c ≤ 'z' := Char.le_trans lower.2 (by decide)
    exact .inl (by simp [isLabelEnd, ascii_lower.mpr ⟨lower.1, letter⟩])
  · have letter : c ≤ 'Z' := Char.le_trans upper.2 (by decide)
    rw [ascii_upper.mpr ⟨upper.1, letter⟩] at low
    cases low
  · exact .inr (by decide)
  · exact .inr (by decide)

theorem hostName_hostText {text : List Char} (h : isHostName text = true) :
    ∀ c ∈ text, isLabelEnd c = true ∨ c ∈ ".:-".toList := by
  simp only [isHostName, Bool.and_eq_true, List.all_eq_true] at h
  intro c mem
  rcases mem_splitOn '.' mem with rfl | ⟨label, listed, mem⟩
  · exact .inr (by decide)
  · have labelled := h.2 label listed
    simp only [isLabel, Bool.and_eq_true, List.all_eq_true, Bool.or_eq_true, decide_eq_true_eq] at labelled
    rcases labelled.1.1.2 c mem with letter | rfl
    · exact .inl letter
    · exact .inr (by decide)

theorem labelEnd_marked {c : Char} (h : isLabelEnd c = true ∨ c ∈ ".:-".toList) :
    c.isAlphanum = true ∨ c ∈ ":.%-".toList := by
  have marks : ∀ d ∈ ".:-".toList, d ∈ ":.%-".toList := forall_mem_chars (by decide)
  refine h.imp (fun letter => ?_) (marks c)
  simp only [isLabelEnd, Bool.or_eq_true] at letter
  rcases letter with digit | lower
  · exact alphanum_of_digit digit
  · exact alphanum_of_lower lower

/-- Neither end of a label nor its punctuation is in upper case. -/
theorem labelEnd_lower {c : Char} (h : isLabelEnd c = true ∨ c ∈ ".:-".toList) : c.isUpper = false := by
  have marks : ∀ d ∈ ".:-".toList, d.isUpper = false := forall_mem_chars (by decide)
  rcases h with letter | mark
  · rw [isLabelEnd, Bool.or_eq_true, ascii_digit, ascii_lower] at letter
    rw [Bool.eq_false_iff, ne_eq, ascii_upper]
    omega
  · exact marks c mark

theorem hostSchema_iff {host : String} : hostSchema formats (.string host) ↔
    (1 ≤ host.toList.length ∧ host.toList.length ≤ 253) ∧
      (∀ c ∈ host.toList, isLabelEnd c = true ∨ c ∈ ".:-".toList) ∧
      (formats.ipv4 host = true ∨ formats.ipv6 host = true ∨ isHostName host.toList = true) := by
  simp only [hostSchema, Schema.allOf_cons, Schema.allOf_nil, Schema.anyOf_cons, Schema.anyOf_nil, Schema.isString,
    Schema.minLength, Schema.maxLength, Schema.pattern, isHostText, Json.string.injEq, forall_eq', exists_eq',
    true_and, and_true, or_false, Bool.and_eq_true, decide_eq_true_eq, List.all_eq_true, Bool.or_eq_true]
  constructor
  · rintro ⟨low, high, ⟨-, characters⟩, form⟩
    exact ⟨⟨low, high⟩, characters, form⟩
  · rintro ⟨⟨low, high⟩, characters, form⟩
    exact ⟨low, high, ⟨low, characters⟩, form⟩

theorem zonedHostSchema_iff {host : String} : zonedHostSchema formats (.string host) ↔
    host.toList.length ≤ 253 ∧ isZonedAddress formats host = true := by
  simp only [zonedHostSchema, Schema.allOf_cons, Schema.allOf_nil, Schema.isString, Schema.maxLength, Schema.pattern,
    Json.string.injEq, forall_eq', exists_eq', true_and, and_true]

/-- A host without a zone. -/
theorem iceHost_plain (agrees : Agrees node formats) {host : String} (plain : '%' ∉ host.toList) :
    IceHost node host ↔ hostSchema formats (.string host) := by
  rw [hostSchema_iff]
  constructor
  · intro accepted
    have ascii := (host_marked agrees.grammar accepted).ascii (forall_mem_chars (by decide))
    have low := (agrees.lower host ascii).mp accepted.lower
    have sized := accepted.sized
    rw [units_ascii ascii] at sized
    refine ⟨sized, ?_, accepted.form.imp (agrees.four host plain).mp (Or.imp_left (agrees.six host plain).mp)⟩
    rcases accepted.form with four | six | name
    · exact fun c mem => address_hostText (agrees.grammar.four host four c mem) (low c mem)
    · obtain ⟨address, zone, parts, characters, rfl | ⟨rest, rfl, -⟩⟩ := agrees.grammar.six host six
      · rw [List.append_nil] at parts
        exact fun c mem => address_hostText (characters c (parts ▸ mem)) (low c mem)
      · exact absurd (parts ▸ List.mem_append_right _ List.mem_cons_self) plain
    · exact hostName_hostText name
  · rintro ⟨sized, characters, form⟩
    have marked : Marked ":.%-" host.toList := fun c mem => labelEnd_marked (characters c mem)
    have ascii := marked.ascii (forall_mem_chars (by decide))
    exact ⟨by rwa [units_ascii ascii],
      (agrees.lower host ascii).mpr fun c mem => labelEnd_lower (characters c mem),
      form.imp (agrees.four host plain).mpr (Or.imp_left (agrees.six host plain).mpr)⟩

theorem isZonedAddress_iff {host : String} {address zone : List Char} (parts : host.toList = address ++ '%' :: zone)
    (first : '%' ∉ address) : isZonedAddress formats host = true ↔
      formats.ipv6 (String.ofList address) = true ∧ 0 < zone.length ∧ (∀ c ∈ zone, isZoneCharacter c = true) ∧
        ∀ c ∈ host.toList, c.isUpper = false := by
  have before : ∀ c ∈ address, decide (c ≠ '%') = true := by
    intro c mem
    simpa using fun same : c = '%' => first (same ▸ mem)
  have drop : host.toList.dropWhile (fun c => decide (c ≠ '%')) = '%' :: zone := by
    rw [parts, List.dropWhile_append_of_pos before]
    simp
  have take : host.toList.takeWhile (fun c => decide (c ≠ '%')) = address := by
    rw [parts, List.takeWhile_append_of_pos before]
    simp
  simp only [isZonedAddress, drop, take, Bool.and_eq_true, decide_eq_true_eq, List.all_eq_true, Bool.not_eq_true',
    and_assoc]

/-- A host with a zone. -/
theorem iceHost_zoned (agrees : Agrees node formats) {host : String} (zoned : '%' ∈ host.toList) :
    IceHost node host ↔ zonedHostSchema formats (.string host) := by
  obtain ⟨address, zone, parts, first⟩ := List.eq_append_cons_of_mem zoned
  have text : host = String.ofList (address ++ '%' :: zone) := by rw [← parts, String.ofList_toList]
  have apart : '%' ∉ (String.ofList address).toList := by rwa [String.toList_ofList]
  rw [zonedHostSchema_iff, isZonedAddress_iff parts first]
  constructor
  · intro accepted
    have ascii := (host_marked agrees.grammar accepted).ascii (forall_mem_chars (by decide))
    have six : node.isIP host = 6 := by
      rcases accepted.form with four | six | name
      · exact absurd (agrees.grammar.four host four '%' zoned) (by decide)
      · exact six
      · exact absurd (hostName_hostText name '%' zoned) (by decide)
    obtain ⟨six, nonempty, characters⟩ := (agrees.zoned address zone first).mp (text ▸ six)
    exact ⟨by rw [← units_ascii ascii]; exact accepted.sized.2, (agrees.six _ apart).mp six, nonempty, characters,
      (agrees.lower host ascii).mp accepted.lower⟩
  · rintro ⟨short, six, nonempty, characters, low⟩
    have whole : node.isIP host = 6 := by
      rw [text]
      exact (agrees.zoned address zone first).mpr ⟨(agrees.six _ apart).mpr six, nonempty, characters⟩
    have ascii := (six_marked agrees.grammar whole).ascii (forall_mem_chars (by decide))
    refine ⟨?_, (agrees.lower host ascii).mpr low, .inr (.inl whole)⟩
    rw [units_ascii ascii]
    exact ⟨List.length_pos_of_mem zoned, short⟩

theorem iceHost_iff (agrees : Agrees node formats) {host : String} :
    IceHost node host ↔ parsedHostSchema formats (.string host) := by
  have split : parsedHostSchema formats (.string host) ↔
      hostSchema formats (.string host) ∨ zonedHostSchema formats (.string host) := by
    simp only [parsedHostSchema, Schema.anyOf_cons, Schema.anyOf_nil, or_false]
  rw [split]
  by_cases zoned : '%' ∈ host.toList
  · have none : ¬ hostSchema formats (.string host) := by
      rw [hostSchema_iff]
      rintro ⟨-, characters, -⟩
      exact absurd (characters '%' zoned) (by decide)
    rw [iceHost_zoned agrees zoned, or_iff_right none]
  · have none : ¬ zonedHostSchema formats (.string host) := by
      rw [zonedHostSchema_iff]
      rintro ⟨-, address⟩
      have all : ∀ c ∈ host.toList, decide (c ≠ '%') = true := by
        intro c mem
        simpa using fun same : c = '%' => zoned (same ▸ mem)
      have whole : host.toList.dropWhile (fun c => decide (c ≠ '%')) = [] := List.dropWhile_eq_nil_iff.mpr all
      rw [isZonedAddress, whole] at address
      cases address
    rw [iceHost_plain agrees zoned, or_iff_left none]

/-! ## Servers -/

/-- A credential of a document that is valid under its schema. -/
theorem credential_iff {n : Nat} {text : String} :
    Schema.allOf [credentialSchema, .isString, .maxLength n] (.string text) ↔ IceCredential n text := by
  simp only [credentialSchema, Schema.allOf_cons, Schema.allOf_nil, Schema.isString, Schema.minLength,
    Schema.maxLength, Schema.pattern, isPrintableText, Json.string.injEq, forall_eq', exists_eq', true_and, and_true,
    Bool.and_eq_true, decide_eq_true_eq, List.all_eq_true]
  have ascii : (∀ c ∈ text.toList, isPrintable c = true) → units text.toList = text.toList.length := by
    intro printable
    refine units_ascii fun c mem => ?_
    have range := printable c mem
    simp only [isPrintable, Bool.and_eq_true, decide_eq_true_eq] at range
    omega
  constructor
  · rintro ⟨⟨low, -, printable⟩, high⟩
    exact ⟨by rw [ascii printable]; exact ⟨low, high⟩, printable⟩
  · rintro ⟨sized, printable⟩
    rw [ascii printable] at sized
    exact ⟨⟨sized.1, sized.1, printable⟩, sized.2⟩

theorem credential_string {n : Nat} {value : Json}
    (h : Schema.allOf [credentialSchema, .isString, .maxLength n] value) : ∃ text, value = .string text := by
  simp only [Schema.allOf_cons] at h
  exact h.2.1

/-- The own keys of an object are among those given. -/
def OnlyKeys (fields : List (String × Json)) (keys : List String) : Prop :=
  ∀ key, (Json.field fields key).isSome = true → key ∈ keys

theorem stunServerSchema_iff {host : Schema} (texts : ∀ value, host value → ∃ text, value = .string text)
    {value : Json} : stunServerSchema host value ↔ ∃ fields text port, value = .object fields ∧
      OnlyKeys fields ["host", "port"] ∧ Json.field fields "host" = some (.string text) ∧ host (.string text) ∧
      Json.field fields "port" = some (.number (port : Nat)) ∧ 1 ≤ port ∧ port ≤ 65535 := by
  have names : ([("host", host), ("port", portSchema)].map Prod.fst).Nodup := by simp
  simp only [stunServerSchema, Schema.object_iff, Schema.properties_iff names, List.forall_mem_cons,
    List.not_mem_nil, false_imp_iff, implies_true, and_true, List.map_cons, List.map_nil]
  constructor
  · rintro ⟨fields, rfl, ⟨hasHost, hasPort⟩, only, hostValid, portValid⟩
    obtain ⟨_, hostField⟩ := Option.isSome_iff_exists.mp hasHost
    obtain ⟨_, portField⟩ := Option.isSome_iff_exists.mp hasPort
    obtain ⟨text, rfl⟩ := texts _ (hostValid _ hostField)
    obtain ⟨port, rfl, low, high⟩ := Schema.integer_iff.mp (portValid _ portField)
    exact ⟨fields, text, port, rfl, only, hostField, hostValid _ hostField, portField, low, high⟩
  · rintro ⟨fields, text, port, rfl, only, hostField, hostValid, portField, low, high⟩
    refine ⟨fields, rfl, ⟨hostField ▸ rfl, portField ▸ rfl⟩, only, fun own found => ?_, fun own found => ?_⟩
    · cases hostField.symm.trans found
      exact hostValid
    · cases portField.symm.trans found
      exact Schema.integer_iff.mpr ⟨port, rfl, low, high⟩

theorem turnServerSchema_iff {host : Schema} (texts : ∀ value, host value → ∃ text, value = .string text)
    {value : Json} : turnServerSchema host value ↔ ∃ fields, ∃ server : TurnServer, value = .object fields ∧
      OnlyKeys fields ["scheme", "host", "port", "username", "password"] ∧ Describes fields server ∧
      server.scheme ∈ ["turn", "turns"] ∧ host (.string server.host) ∧ 1 ≤ server.port ∧ server.port ≤ 65535 ∧
      IceCredential 128 server.username ∧ IceCredential 256 server.password := by
  have names : ([("scheme", Schema.enum (["turn", "turns"].map Json.string)), ("host", host), ("port", portSchema),
      ("username", .allOf [credentialSchema, .isString, .maxLength 128]),
      ("password", .allOf [credentialSchema, .isString, .maxLength 256])].map Prod.fst).Nodup := by simp
  simp only [turnServerSchema, Schema.object_iff, Schema.properties_iff names, List.forall_mem_cons,
    List.not_mem_nil, false_imp_iff, implies_true, and_true]
  constructor
  · rintro ⟨fields, rfl, ⟨hasScheme, hasHost, hasPort, hasUsername, hasPassword⟩, only, schemeValid, hostValid,
      portValid, usernameValid, passwordValid⟩
    obtain ⟨_, schemeField⟩ := Option.isSome_iff_exists.mp hasScheme
    obtain ⟨_, hostField⟩ := Option.isSome_iff_exists.mp hasHost
    obtain ⟨_, portField⟩ := Option.isSome_iff_exists.mp hasPort
    obtain ⟨_, usernameField⟩ := Option.isSome_iff_exists.mp hasUsername
    obtain ⟨_, passwordField⟩ := Option.isSome_iff_exists.mp hasPassword
    obtain ⟨scheme, known, rfl⟩ := Schema.enum_strings.mp (schemeValid _ schemeField)
    obtain ⟨text, rfl⟩ := texts _ (hostValid _ hostField)
    obtain ⟨port, rfl, low, high⟩ := Schema.integer_iff.mp (portValid _ portField)
    have username := usernameValid _ usernameField
    have password := passwordValid _ passwordField
    obtain ⟨username', rfl⟩ := credential_string username
    obtain ⟨password', rfl⟩ := credential_string password
    exact ⟨fields, ⟨scheme, username', password', text, port⟩, rfl, only,
      ⟨schemeField, usernameField, passwordField, hostField, portField⟩, known, hostValid _ hostField, low, high,
      credential_iff.mp username, credential_iff.mp password⟩
  · rintro ⟨fields, server, rfl, only, described, scheme, hostValid, low, high, username, password⟩
    refine ⟨fields, rfl, ⟨described.scheme ▸ rfl, described.host ▸ rfl, described.port ▸ rfl,
      described.username ▸ rfl, described.password ▸ rfl⟩, only, fun own found => ?_, fun own found => ?_,
      fun own found => ?_, fun own found => ?_, fun own found => ?_⟩
    · cases described.scheme.symm.trans found
      exact Schema.enum_strings.mpr ⟨_, scheme, rfl⟩
    · cases described.host.symm.trans found
      exact hostValid
    · cases described.port.symm.trans found
      exact Schema.integer_iff.mpr ⟨server.port, rfl, low, high⟩
    · cases described.username.symm.trans found
      exact credential_iff.mpr username
    · cases described.password.symm.trans found
      exact credential_iff.mpr password

/-! ## Documents -/

/-- A document that is valid under the schema, for a form of hosts. -/
structure ValidIce (host : Schema) (fields : List (String × Json)) (elements : List Json) (policy : String) : Prop where
  only : OnlyKeys fields ["schema_version", "stun_server", "turn_servers", "ice_transport_policy"]
  version : Json.field fields "schema_version" = some (.number 1)
  turnServers : Json.field fields "turn_servers" = some (.array elements)
  count : 1 ≤ elements.length ∧ elements.length ≤ 4
  unique : elements.Pairwise fun first second => ¬ Json.DeepEqual first second
  each : ∀ element ∈ elements, turnServerSchema host element
  stun : ∀ value, Json.field fields "stun_server" = some value → stunServerSchema host value
  policyField : Json.field fields "ice_transport_policy" = some (.string policy)
  policy : policy ∈ ["all", "relay"]

theorem turnServersSchema_iff {host : Schema} {value : Json} : turnServersSchema host value ↔
    ∃ elements, value = .array elements ∧ (1 ≤ elements.length ∧ elements.length ≤ 4) ∧
      (elements.Pairwise fun first second => ¬ Json.DeepEqual first second) ∧
      ∀ element ∈ elements, turnServerSchema host element := by
  simp only [turnServersSchema, Schema.allOf_cons, Schema.allOf_nil, and_true, Schema.isArray, Schema.minItems,
    Schema.maxItems, Schema.uniqueItems, Schema.items]
  constructor
  · rintro ⟨⟨elements, rfl⟩, low, high, unique, each⟩
    exact ⟨elements, rfl, ⟨low _ rfl, high _ rfl⟩, unique _ rfl, each _ rfl⟩
  · rintro ⟨elements, rfl, ⟨low, high⟩, unique, each⟩
    refine ⟨⟨elements, rfl⟩, ?_, ?_, ?_, ?_⟩ <;> rintro _ ⟨⟩
    · exact low
    · exact high
    · exact unique
    · exact each

theorem iceSchema_iff {host : Schema} {document : Json} : iceSchema host document ↔
    ∃ fields elements policy, document = .object fields ∧ ValidIce host fields elements policy := by
  have names : ([("schema_version", Schema.const (.number 1)), ("stun_server", stunServerSchema host),
      ("turn_servers", turnServersSchema host),
      ("ice_transport_policy", .enum (["all", "relay"].map Json.string))].map Prod.fst).Nodup := by simp
  simp only [iceSchema, Schema.object_iff, Schema.properties_iff names, List.forall_mem_cons,
    List.not_mem_nil, false_imp_iff, implies_true, and_true]
  constructor
  · rintro ⟨fields, rfl, ⟨hasVersion, hasTurn, hasPolicy⟩, only, version, stun, turn, policy⟩
    obtain ⟨_, versionField⟩ := Option.isSome_iff_exists.mp hasVersion
    obtain ⟨_, turnField⟩ := Option.isSome_iff_exists.mp hasTurn
    obtain ⟨_, policyField⟩ := Option.isSome_iff_exists.mp hasPolicy
    cases Json.deepEqual_number.mp (version _ versionField)
    obtain ⟨elements, rfl, count, unique, each⟩ := turnServersSchema_iff.mp (turn _ turnField)
    obtain ⟨text, known, rfl⟩ := Schema.enum_strings.mp (policy _ policyField)
    exact ⟨fields, elements, text, rfl, only, versionField, turnField, count, unique, each, stun, policyField, known⟩
  · rintro ⟨fields, elements, policy, rfl, valid⟩
    refine ⟨fields, rfl, ⟨valid.version ▸ rfl, valid.turnServers ▸ rfl, valid.policyField ▸ rfl⟩, valid.only,
      fun own found => ?_, valid.stun, fun own found => ?_, fun own found => ?_⟩
    · cases valid.version.symm.trans found
      exact Json.deepEqual_number.mpr rfl
    · cases valid.turnServers.symm.trans found
      exact turnServersSchema_iff.mpr ⟨elements, rfl, valid.count, valid.unique, valid.each⟩
    · cases valid.policyField.symm.trans found
      exact Schema.enum_strings.mpr ⟨policy, valid.policy, rfl⟩

/-- One form of hosts, of those that the document names, for another. -/
theorem iceSchema_hosts {host host' : Schema} (texts : ∀ value, host value → ∃ text, value = .string text)
    (texts' : ∀ value, host' value → ∃ text, value = .string text) {document : Json}
    (valid : iceSchema host document)
    (named : ∀ text, NamesHost document text → host (.string text) → host' (.string text)) :
    iceSchema host' document := by
  obtain ⟨fields, elements, policy, rfl, parts⟩ := iceSchema_iff.mp valid
  refine iceSchema_iff.mpr ⟨fields, elements, policy, rfl, { parts with each := ?_, stun := ?_ }⟩
  · intro element mem
    obtain ⟨own, server, rfl, only, described, scheme, hosted, rest⟩ :=
      (turnServerSchema_iff texts).mp (parts.each element mem)
    exact (turnServerSchema_iff texts').mpr ⟨own, server, rfl, only, described, scheme,
      named _ ⟨fields, own, rfl, described.host, .inr ⟨elements, parts.turnServers, mem⟩⟩ hosted, rest⟩
  · intro value found
    obtain ⟨own, text, port, rfl, only, hostField, hosted, rest⟩ := (stunServerSchema_iff texts).mp (parts.stun value found)
    exact (stunServerSchema_iff texts').mpr ⟨own, text, port, rfl, only, hostField,
      named _ ⟨fields, own, rfl, hostField, .inl found⟩ hosted, rest⟩

theorem hosts_of_valid {host : Schema} (texts : ∀ value, host value → ∃ text, value = .string text) {document : Json}
    (valid : iceSchema host document) {text : String} (named : NamesHost document text) : host (.string text) := by
  obtain ⟨fields, elements, policy, rfl, parts⟩ := iceSchema_iff.mp valid
  obtain ⟨_, own, ⟨⟩, hostField, stun | ⟨elements', listed, mem⟩⟩ := named
  · obtain ⟨_, text', _, ⟨⟩, -, hostField', hosted, -⟩ := (stunServerSchema_iff texts).mp (parts.stun _ stun)
    cases hostField.symm.trans hostField'
    exact hosted
  · cases parts.turnServers.symm.trans listed
    obtain ⟨_, server, ⟨⟩, -, described, -, hosted, -⟩ := (turnServerSchema_iff texts).mp (parts.each _ mem)
    cases hostField.symm.trans described.host
    exact hosted

/-! ## The parser -/

theorem parsedHost_text : ∀ value, parsedHostSchema formats value → ∃ text, value = .string text := by
  intro value h
  simp only [parsedHostSchema, hostSchema, zonedHostSchema, Schema.anyOf_cons, Schema.anyOf_nil, Schema.allOf_cons,
    or_false] at h
  exact h.elim And.left And.left

theorem hostSchema_text : ∀ value, hostSchema formats value → ∃ text, value = .string text := by
  intro value h
  simp only [hostSchema, Schema.allOf_cons] at h
  exact h.1

/-- The keys of a TURN server, joined, and one by one. -/
theorem turnKeys_iff {fields : List (String × Json)} (distinct : (fields.map Prod.fst).Nodup) {server : TurnServer}
    (described : Describes fields server) : Json.sortedKeys fields = "host,password,port,scheme,username" ↔
      OnlyKeys fields ["scheme", "host", "port", "username", "password"] := by
  have joined : ",".intercalate (["scheme", "host", "port", "username", "password"].insertionSort (· ≤ ·)) =
      "host,password,port,scheme,username" := by decide
  rw [← joined]
  refine sortedKeys_exact distinct (by simp) (by simp) ?_
  simp only [List.forall_mem_cons, List.not_mem_nil, false_imp_iff, implies_true, and_true]
  exact ⟨described.scheme ▸ rfl, described.host ▸ rfl, described.port ▸ rfl, described.username ▸ rfl,
    described.password ▸ rfl⟩

theorem stunKeys_iff {fields : List (String × Json)} (distinct : (fields.map Prod.fst).Nodup) {host port : Json}
    (hostField : Json.field fields "host" = some host) (portField : Json.field fields "port" = some port) :
    Json.sortedKeys fields = "host,port" ↔ OnlyKeys fields ["host", "port"] := by
  have joined : ",".intercalate (["host", "port"].insertionSort (· ≤ ·)) = "host,port" := by decide
  rw [← joined]
  refine sortedKeys_exact distinct (by simp) (by simp) ?_
  simp only [List.forall_mem_cons, List.not_mem_nil, false_imp_iff, implies_true, and_true]
  exact ⟨hostField ▸ rfl, portField ▸ rfl⟩

theorem turnServer_valid (agrees : Agrees node formats) {element : Json} (formed : element.WellFormed) :
    turnServerSchema (parsedHostSchema formats) element ↔
      ∃ server : TurnServer, server.Element element ∧ server.Accepted node := by
  rw [turnServerSchema_iff parsedHost_text]
  constructor
  · rintro ⟨fields, server, rfl, only, described, scheme, host, low, high, username, password⟩
    exact ⟨server, ⟨fields, rfl, (turnKeys_iff formed.distinct described).mpr only, described⟩,
      ⟨scheme, username, password, (iceHost_iff agrees).mpr host, low, high⟩⟩
  · rintro ⟨server, ⟨fields, rfl, keys, described⟩, accepted⟩
    exact ⟨fields, server, rfl, (turnKeys_iff formed.distinct described).mp keys, described, accepted.scheme,
      (iceHost_iff agrees).mp accepted.host, accepted.port.1, accepted.port.2, accepted.username, accepted.password⟩

theorem stunServer_valid (agrees : Agrees node formats) {value : Json} (formed : value.WellFormed) :
    stunServerSchema (parsedHostSchema formats) value ↔
      ∃ fields host port, value = .object fields ∧ StunServer node fields host port := by
  rw [stunServerSchema_iff parsedHost_text]
  constructor
  · rintro ⟨fields, host, port, rfl, only, hostField, hosted, portField, ported⟩
    exact ⟨fields, host, port, rfl, (stunKeys_iff formed.distinct hostField portField).mpr only, hostField,
      (iceHost_iff agrees).mpr hosted, portField, ported⟩
  · rintro ⟨fields, host, port, rfl, server⟩
    exact ⟨fields, host, port, rfl, (stunKeys_iff formed.distinct server.hostField server.portField).mp server.keys,
      server.hostField, (iceHost_iff agrees).mp server.host, server.portField, server.port.1, server.port.2⟩

/-- Two TURN servers of a document are equal as values when they say the same. -/
theorem deepEqual_iff {first second : Json} {server server' : TurnServer} (formed : first.WellFormed)
    (formed' : second.WellFormed) (h : server.Element first) (h' : server'.Element second) :
    Json.DeepEqual first second ↔ server = server' := by
  obtain ⟨fields, rfl, keys, described⟩ := h
  obtain ⟨fields', rfl, keys', described'⟩ := h'
  constructor
  · intro equal
    cases equal with
    | object _ each =>
      have scheme := Json.deepEqual_string.mp (each "scheme" _ _ described.scheme described'.scheme)
      have username := Json.deepEqual_string.mp (each "username" _ _ described.username described'.username)
      have password := Json.deepEqual_string.mp (each "password" _ _ described.password described'.password)
      have host := Json.deepEqual_string.mp (each "host" _ _ described.host described'.host)
      have port := Json.deepEqual_number.mp (each "port" _ _ described.port described'.port)
      cases server
      cases server'
      simp_all
  · rintro rfl
    have same : ∀ key, Json.field fields key = Json.field fields' key := by
      intro key
      by_cases listed : key ∈ ["scheme", "host", "port", "username", "password"]
      · simp only [List.mem_cons, List.not_mem_nil, or_false] at listed
        rcases listed with rfl | rfl | rfl | rfl | rfl
        · rw [described.scheme, described'.scheme]
        · rw [described.host, described'.host]
        · rw [described.port, described'.port]
        · rw [described.username, described'.username]
        · rw [described.password, described'.password]
      · have absent : Json.field fields key = none := by
          by_contra own
          exact listed ((turnKeys_iff formed.distinct described).mp keys key (Option.isSome_iff_ne_none.mpr own))
        have absent' : Json.field fields' key = none := by
          by_contra own
          exact listed ((turnKeys_iff formed'.distinct described').mp keys' key (Option.isSome_iff_ne_none.mpr own))
        rw [absent, absent']
    have simple : ∀ key value, Json.field fields key = some value → Json.DeepEqual value value := by
      intro key value found
      have listed := (turnKeys_iff formed.distinct described).mp keys key (found ▸ rfl)
      simp only [List.mem_cons, List.not_mem_nil, or_false] at listed
      rcases listed with rfl | rfl | rfl | rfl | rfl
      · cases described.scheme.symm.trans found
        exact .string _
      · cases described.host.symm.trans found
        exact .string _
      · cases described.port.symm.trans found
        exact .number _
      · cases described.username.symm.trans found
        exact .string _
      · cases described.password.symm.trans found
        exact .string _
    refine .object (fun key => congrArg Option.isSome (same key)) fun key x y found found' => ?_
    cases (found.symm.trans (same key)).trans found'
    exact simple key x found

/-- The URIs differ when the elements do. -/
theorem unique_iff (agrees : Agrees node formats) {elements : List Json} {servers : List TurnServer}
    (formed : ∀ element ∈ elements, element.WellFormed)
    (described : List.Forall₂ (fun element server => server.Element element ∧ server.Accepted node) elements servers) :
    (elements.Pairwise fun first second => ¬ Json.DeepEqual first second) ↔ (servers.map (·.uri node)).Nodup := by
  have injective : ∀ server server' : TurnServer, server.Accepted node → server'.Accepted node →
      server.uri node = server'.uri node → server = server' := by
    intro server server' accepted accepted' same
    have read := readServer_uri agrees.grammar accepted
    rw [same, readServer_uri agrees.grammar accepted'] at read
    exact (Option.some.inj read).symm
  rw [List.Nodup, List.pairwise_map]
  refine pairwise_forall₂ ((List.forall₂_and_left _ _).mpr ⟨formed, described⟩) ?_
  rintro first server second server' ⟨formed, element, accepted⟩ ⟨formed', element', accepted'⟩
  rw [deepEqual_iff formed formed' element element']
  refine not_congr ⟨fun same => same ▸ rfl, injective server server' accepted accepted'⟩

/-- The keys of a configuration, joined, and one by one. -/
theorem iceKeys_iff {fields : List (String × Json)} (distinct : (fields.map Prod.fst).Nodup) {version servers policy : Json}
    (versionField : Json.field fields "schema_version" = some version)
    (serversField : Json.field fields "turn_servers" = some servers)
    (policyField : Json.field fields "ice_transport_policy" = some policy) :
    Json.sortedKeys fields = ",".intercalate (expectedIceKeys fields) ↔
      OnlyKeys fields ["schema_version", "stun_server", "turn_servers", "ice_transport_policy"] := by
  unfold expectedIceKeys
  cases stun : Json.field fields "stun_server" with
  | none =>
    have sorted : ["ice_transport_policy", "schema_version", "turn_servers"].insertionSort (· ≤ ·) =
        ["ice_transport_policy", "schema_version", "turn_servers"] := by decide
    have exact := sortedKeys_exact distinct (by simp) (by simp)
      (by simp [versionField, serversField, policyField] :
        ∀ key ∈ ["ice_transport_policy", "schema_version", "turn_servers"], (Json.field fields key).isSome = true)
    rw [sorted] at exact
    rw [exact]
    refine forall₂_congr fun key own => ?_
    have other : key ≠ "stun_server" := by
      rintro rfl
      rw [stun] at own
      cases own
    simp only [List.mem_cons, List.not_mem_nil, or_false, other, false_or]
    tauto
  | some value =>
    have sorted : ["ice_transport_policy", "schema_version", "stun_server", "turn_servers"].insertionSort (· ≤ ·) =
        ["ice_transport_policy", "schema_version", "stun_server", "turn_servers"] := by decide
    have exact := sortedKeys_exact distinct (by simp) (by simp)
      (by simp [versionField, serversField, policyField, stun] :
        ∀ key ∈ ["ice_transport_policy", "schema_version", "stun_server", "turn_servers"],
          (Json.field fields key).isSome = true)
    rw [sorted] at exact
    rw [exact]
    refine forall₂_congr fun key own => ?_
    simp only [List.mem_cons, List.not_mem_nil, or_false]
    tauto

/-- The documents that the parser accepts. -/
theorem parse_iff (agrees : Agrees node formats) {source : String} {document : Json} (formed : document.WellFormed)
    (parsed : node.parseJson source = some document) :
    (∃ ice, parseIceServerConfiguration node source = .ok ice) ↔ iceSchema (parsedHostSchema formats) document := by
  rw [iceSchema_iff]
  constructor
  · rintro ⟨ice, accepted⟩
    obtain ⟨fields, elements, servers, policy, parsed', valid, -⟩ := parseIce_ok accepted
    cases parsed.symm.trans parsed'
    have elementsFormed : ∀ element ∈ elements, element.WellFormed := fun element mem =>
      (formed.field valid.turnServers).element mem
    refine ⟨fields, elements, policy, rfl, ?_, valid.version, valid.turnServers, valid.count,
      (unique_iff agrees elementsFormed valid.described).mpr valid.distinct, ?_, ?_, valid.policyField, valid.policy⟩
    · exact (iceKeys_iff formed.distinct valid.version valid.turnServers valid.policyField).mp valid.keys
    · intro element mem
      obtain ⟨i, inside, rfl⟩ := List.getElem_of_mem mem
      have paired := valid.described.get inside (valid.described.length_eq ▸ inside)
      exact (turnServer_valid agrees (elementsFormed _ mem)).mpr ⟨_, paired⟩
    · intro value found
      exact (stunServer_valid agrees (formed.field found)).mpr (valid.stun value found)
  · rintro ⟨fields, elements, policy, rfl, valid⟩
    have elementsFormed : ∀ element ∈ elements, element.WellFormed := fun element mem =>
      (formed.field valid.turnServers).element mem
    obtain ⟨servers, described⟩ := forall₂_exists fun element mem =>
      (turnServer_valid agrees (elementsFormed element mem)).mp (valid.each element mem)
    exact parseIce_accepts parsed {
      keys := (iceKeys_iff formed.distinct valid.version valid.turnServers valid.policyField).mpr valid.only
      version := valid.version
      turnServers := valid.turnServers
      count := valid.count
      described
      distinct := (unique_iff agrees elementsFormed described).mp valid.unique
      stun := fun value found => (stunServer_valid agrees (formed.field found)).mp (valid.stun value found)
      policyField := valid.policyField
      policy := valid.policy }

/-- **The schema and the parser** agree on a document exactly when it is not one that would be
valid if hosts could have zones, with a zone in one of its hosts. -/
theorem schema_agrees_iff (agrees : Agrees node formats) {source : String} {document : Json}
    (formed : document.WellFormed) (parsed : node.parseJson source = some document) :
    ((∃ ice, parseIceServerConfiguration node source = .ok ice) ↔ iceServersSchema formats document) ↔
      ¬ (iceSchema (parsedHostSchema formats) document ∧
        ∃ host, NamesHost document host ∧ '%' ∈ host.toList) := by
  have plain : ∀ host : String, hostSchema formats (.string host) → '%' ∉ host.toList := by
    intro host valid zoned
    exact absurd ((hostSchema_iff.mp valid).2.1 '%' zoned) (by decide)
  have weaker : iceServersSchema formats document → iceSchema (parsedHostSchema formats) document := fun valid =>
    iceSchema_hosts hostSchema_text parsedHost_text valid fun host _ hosted => by
      simp only [parsedHostSchema, Schema.anyOf_cons]
      exact .inl hosted
  rw [parse_iff agrees formed parsed]
  constructor
  · rintro same ⟨valid, host, named, zoned⟩
    exact plain host (hosts_of_valid hostSchema_text (same.mp valid) named) zoned
  · intro other
    refine ⟨fun valid => ?_, weaker⟩
    refine iceSchema_hosts parsedHost_text hostSchema_text valid fun host named hosted => ?_
    have unzoned : '%' ∉ host.toList := fun zoned => other ⟨valid, host, named, zoned⟩
    exact (iceHost_plain agrees unzoned).mp ((iceHost_iff agrees).mpr hosted)

end

/-! ## One document -/

/-- A configuration with one TURN server. -/
def oneServer (host : String) : Json :=
  .object [("schema_version", .number 1),
    ("turn_servers", .array [sampleServer "turn" host "tenant" "credential" 3478]),
    ("ice_transport_policy", .string "all")]

theorem oneServer_formed (host : String) : (oneServer host).WellFormed := by
  have server : (sampleServer "turn" host "tenant" "credential" 3478).WellFormed := by
    refine .object (by simp) fun key value mem => ?_
    simp only [List.mem_cons, Prod.mk.injEq, List.not_mem_nil, or_false] at mem
    rcases mem with ⟨-, rfl⟩ | ⟨-, rfl⟩ | ⟨-, rfl⟩ | ⟨-, rfl⟩ | ⟨-, rfl⟩
    · exact .string _
    · exact .string _
    · exact .number _
    · exact .string _
    · exact .string _
  refine .object (by simp) fun key value mem => ?_
  simp only [List.mem_cons, Prod.mk.injEq, List.not_mem_nil, or_false] at mem
  rcases mem with ⟨-, rfl⟩ | ⟨-, rfl⟩ | ⟨-, rfl⟩
  · exact .number _
  · exact .array fun element mem => List.mem_singleton.mp mem ▸ server
  · exact .string _

theorem namesHost_oneServer {host text : String} : NamesHost (oneServer host) text ↔ text = host := by
  constructor
  · rintro ⟨_, own, ⟨⟩, hostField, stun | ⟨elements, listed, mem⟩⟩
    · cases stun
    · cases listed
      cases List.mem_singleton.mp mem
      cases hostField
      rfl
  · rintro rfl
    exact ⟨_, _, rfl, rfl, .inr ⟨_, rfl, List.mem_singleton.mpr rfl⟩⟩

/-- One address, with a zone or without. -/
def linkLocal (host : String) : Bool :=
  let zone := host.toList.dropWhile (· ≠ '%')
  host.toList.takeWhile (· ≠ '%') = "fe80::1".toList &&
    (zone = [] || (1 < zone.length && zone.tail.all isZoneCharacter))

def linkLocalNode (document : Json) : IceNode where
  parseJson _ := some document
  isIP host := if linkLocal host then 6 else 0
  toLowerCase text := String.ofList (text.toList.map Char.toLower)

def linkLocalFormats : Formats where
  ipv4 _ := false
  ipv6 text := text = "fe80::1"

theorem linkLocal_plain {host : String} (plain : '%' ∉ host.toList) : linkLocal host = true ↔ host = "fe80::1" := by
  have before : ∀ c ∈ host.toList, decide (c ≠ '%') = true := by
    intro c mem
    simpa using fun same : c = '%' => plain (same ▸ mem)
  have take : host.toList.takeWhile (fun c => decide (c ≠ '%')) = host.toList := List.takeWhile_eq_self_iff.mpr before
  have drop : host.toList.dropWhile (fun c => decide (c ≠ '%')) = [] := List.dropWhile_eq_nil_iff.mpr before
  simp only [linkLocal, take, drop, decide_true, Bool.true_or, Bool.and_true, decide_eq_true_eq, String.toList_inj]

theorem linkLocal_zoned {host : String} {address zone : List Char} (parts : host.toList = address ++ '%' :: zone)
    (first : '%' ∉ address) : linkLocal host = true ↔
      address = "fe80::1".toList ∧ 0 < zone.length ∧ ∀ c ∈ zone, isZoneCharacter c = true := by
  have before : ∀ c ∈ address, decide (c ≠ '%') = true := by
    intro c mem
    simpa using fun same : c = '%' => first (same ▸ mem)
  have take : host.toList.takeWhile (fun c => decide (c ≠ '%')) = address := by
    rw [parts, List.takeWhile_append_of_pos before]
    simp
  have drop : host.toList.dropWhile (fun c => decide (c ≠ '%')) = '%' :: zone := by
    rw [parts, List.dropWhile_append_of_pos before]
    simp
  simp only [linkLocal, take, drop, Bool.and_eq_true, Bool.or_eq_true, decide_eq_true_eq, List.length_cons,
    List.tail_cons, List.all_eq_true, reduceCtorEq, false_or]
  constructor
  · rintro ⟨same, long, characters⟩
    exact ⟨same, by omega, characters⟩
  · rintro ⟨same, long, characters⟩
    exact ⟨same, by omega, characters⟩

theorem linkLocal_six {document : Json} {host : String} :
    (linkLocalNode document).isIP host = 6 ↔ linkLocal host = true := by
  change (if linkLocal host then 6 else 0) = 6 ↔ _
  split <;> simp_all

theorem linkLocal_agrees (document : Json) : Agrees (linkLocalNode document) linkLocalFormats where
  grammar := by
    constructor
    · intro host four
      change (if linkLocal host then 6 else 0) = 4 at four
      split at four <;> cases four
    · intro host six
      have six := linkLocal_six.mp six
      have digits : ∀ c ∈ "fe80::1".toList, isAddressCharacter c = true := forall_mem_chars (by decide)
      by_cases zoned : '%' ∈ host.toList
      · obtain ⟨address, zone, parts, first⟩ := List.eq_append_cons_of_mem zoned
        obtain ⟨rfl, -, characters⟩ := (linkLocal_zoned parts first).mp six
        exact ⟨_, _, parts, digits, .inr ⟨zone, rfl, characters⟩⟩
      · cases (linkLocal_plain zoned).mp six
        exact ⟨_, [], (List.append_nil _).symm, digits, .inl rfl⟩
  four host _ := by
    change (if linkLocal host then 6 else 0) = 4 ↔ false = true
    split <;> simp
  six host plain := by
    rw [linkLocal_six, linkLocal_plain plain]
    exact decide_eq_true_iff.symm
  zoned address zone first := by
    have plain : '%' ∉ (String.ofList address).toList := by rwa [String.toList_ofList]
    have text : String.ofList address = "fe80::1" ↔ address = "fe80::1".toList := by
      rw [← String.toList_inj, String.toList_ofList]
    rw [linkLocal_six, linkLocal_six, linkLocal_plain plain, linkLocal_zoned String.toList_ofList first, text]
  lower text _ := by
    change text = String.ofList (text.toList.map Char.toLower) ↔ _
    rw [← String.toList_inj, String.toList_ofList, eq_comm]
    constructor
    · intro same c mem
      obtain ⟨i, inside, rfl⟩ := List.getElem_of_mem mem
      have each := congrArg (·[i]?) same
      simp only [List.getElem?_map, List.getElem?_eq_getElem inside, Option.map_some, Option.some.injEq] at each
      exact toLower_eq.mp each
    · intro low
      rw [List.map_congr_left fun c mem => toLower_eq.mpr (low c mem), List.map_id']

theorem zoned_host_accepted : Agrees (linkLocalNode (oneServer "fe80::1%eth0")) linkLocalFormats ∧
    (oneServer "fe80::1%eth0").WellFormed ∧
    (∃ ice, parseIceServerConfiguration (linkLocalNode (oneServer "fe80::1%eth0")) "source" = .ok ice) ∧
    ¬ iceServersSchema linkLocalFormats (oneServer "fe80::1%eth0") := by
  refine ⟨linkLocal_agrees _, oneServer_formed _,
    ⟨⟨"", ["turn://tenant:credential@[fe80::1%eth0]:3478"], "all"⟩, by decide +kernel⟩, fun valid => ?_⟩
  have hosted := hosts_of_valid hostSchema_text valid (namesHost_oneServer.mpr rfl)
  exact absurd ((hostSchema_iff.mp hosted).2.1 '%' (by decide)) (by decide)

theorem schema_agrees_plain :
    (∃ ice, parseIceServerConfiguration (linkLocalNode (oneServer "turn.example.com")) "source" = .ok ice) ↔
      iceServersSchema linkLocalFormats (oneServer "turn.example.com") := by
  refine (schema_agrees_iff (linkLocal_agrees _) (oneServer_formed _) rfl).mpr ?_
  rintro ⟨-, host, named, zoned⟩
  cases namesHost_oneServer.mp named
  exact absurd zoned (by decide)

end Fireball.Supervisor
