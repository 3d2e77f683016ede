import Fireball.Docker.Rollback
import Fireball.Foundation.Base64
import Fireball.Foundation.Decimal
import Fireball.Signaling.Connector
import Fireball.Tabs.Requests

/-!
# The endpoints that `create` returns

`validateTabControlResource` of `src/runtime/docker-engine-runtime.ts` and the connector's
`validateTarget`, on the endpoints that `create` writes.

* `published_ok`: the text of a published port;
* `validateTab_endpoints`: the endpoint that the tab validator refuses;
* `create_usable`: exactly when both validators accept them.
-/

namespace Fireball.Docker

open Foundation Session Signaling
open Tabs (invalidTabRuntimeResponse)

/-- A `URL` with its `port`. -/
structure EndpointUrl extends Url where
  port : String
  deriving DecidableEq, Repr

def validateTabControlResource (newUrl : String → Option EndpointUrl) (resource : RuntimeResource) :
    Except Thrown EndpointUrl :=
  match newUrl resource.tabControlEndpoint, newUrl resource.signalingEndpoint with
  | some endpoint, some signaling =>
    if endpoint.protocol ≠ "http:" ∨ endpoint.hostname ≠ "127.0.0.1" ∨ endpoint.username ≠ "" ∨
        endpoint.password ≠ "" ∨ endpoint.pathname ≠ "/internal/v1/tabs" ∨ endpoint.search ≠ "" ∨
        endpoint.hash ≠ "" ∨ isPort endpoint.port.toList = false ∨ Nat.ofDigitChars 10 endpoint.port.toList 0 > 65535 ∨
        signaling.protocol ≠ "ws:" ∨ signaling.hostname ≠ endpoint.hostname ∨ signaling.port ≠ endpoint.port ∨
        signaling.username ≠ "" ∨ signaling.password ≠ "" ∨ signaling.pathname ≠ "/internal/v1/signaling" ∨
        signaling.search ≠ "" ∨ signaling.hash ≠ "" ∨ isCredential resource.signalingSecret = false then
      .error (.orchestrator invalidTabRuntimeResponse)
    else .ok endpoint
  | _, _ => .error (.orchestrator invalidTabRuntimeResponse)

/-- The port that a connection to the URL goes to. Both schemes have the same default. -/
def EndpointUrl.connects (url : EndpointUrl) : Nat :=
  if url.port = "" then 80 else Nat.ofDigitChars 10 url.port.toList 0

/-- `bindings?.[0]`. -/
def DockerContainerInspectResponse.binding (inspect : DockerContainerInspectResponse) : Option PortBinding :=
  let bindings := do (← (← inspect.networkSettings).ports).lookup "8444/tcp"
  bindings.join.bind List.head?

/-- Both validators accept the resource, and its endpoints are the published port. -/
structure Usable (cfg : ConnectorConfig) (newUrl : String → Option EndpointUrl) (port : Nat)
    (resource : RuntimeResource) : Prop where
  tabs : ∃ endpoint, validateTabControlResource newUrl resource = .ok endpoint
  signaling : validateTarget { cfg with parseUrl := fun text => (newUrl text).map (·.toUrl) } resource = .ok ()
  endpoints : ∃ endpoint signaling, newUrl resource.tabControlEndpoint = some endpoint ∧
    newUrl resource.signalingEndpoint = some signaling ∧
    endpoint.hostname = "127.0.0.1" ∧ signaling.hostname = "127.0.0.1" ∧
    endpoint.connects = port ∧ signaling.connects = port

/-- What `new URL` makes of an endpoint: a default port is reported as the empty string. -/
structure ReadsEndpoints (newUrl : String → Option EndpointUrl) : Prop where
  read : ∀ scheme ∈ ["http", "ws"], ∀ path ∈ ["/internal/v1/signaling", "/internal/v1/tabs"],
    ∀ port, 1 ≤ port → port ≤ 65535 → ∃ href,
      newUrl (scheme ++ "://127.0.0.1:" ++ toString port ++ path) = some {
        href, protocol := scheme ++ ":", username := "", password := "", hostname := "127.0.0.1"
        pathname := path, search := "", hash := "", port := if port = 80 then "" else toString port }

/-! ## The port -/

/-- A published port is the number of its text, which has no other text. -/
theorem published_ok {inspect : DockerContainerInspectResponse} {port : Nat}
    (h : publishedSignalingPort inspect = .ok port) :
    1 ≤ port ∧ port ≤ 65535 ∧ inspect.binding = some ⟨some "127.0.0.1", some (toString port)⟩ := by
  unfold publishedSignalingPort at h
  dsimp only at h
  split at h
  · rename_i hostIp raw bound
    split at h
    · cases h
    · rename_i named
      split at h
      · cases h
      · rename_i low
        cases h
        simp only [Bool.or_eq_true, Bool.not_eq_true', decide_eq_true_eq, not_or, Bool.not_eq_false, ne_eq,
          not_not] at named
        have decimal := decimal_isPort named.2
        have back : toString (Nat.ofDigitChars 10 raw.toList 0) = raw := by
          rw [← String.toList_inj, toList_toString]
          exact toDigits_ofDigitChars decimal
        refine ⟨ofDigitChars_pos decimal, by omega, ?_⟩
        rw [back, ← named.1]
        exact bound
  · cases h

/-! ## The endpoints -/

theorem credential_base64Url {random : Bytes} (generated : random.length = 32) :
    isCredential (base64Url random) = true := by
  have alphabet : ∀ c ∈ base64Alphabet, isBase64Url c = true := List.all_eq_true.mp (by decide)
  simp only [isCredential, Bool.and_eq_true, decide_eq_true_eq, List.all_eq_true]
  refine ⟨?_, fun c mem => alphabet c (base64Url_digits random c mem)⟩
  rw [length_base64Url, generated]

section
variable {options : DockerEngineOptions} {input : CreateRuntimeRequest} {signalingSecret : String}
  {calls : Calls} {engine : Engine} {resource : RuntimeResource}

/-- A resource that is returned has the port of the response that reports the container healthy. -/
theorem create_published (h : (create options input signalingSecret calls engine).2 = .ok resource) :
    ∃ inspect port, Polled calls.inspect 1 options.startupHealthAttempts inspect ∧
      publishedSignalingPort inspect = .ok port ∧ resource.signalingSecret = signalingSecret ∧
      resource.signalingEndpoint = "ws" ++ "://127.0.0.1:" ++ toString port ++ "/internal/v1/signaling" ∧
      resource.tabControlEndpoint = "http" ++ "://127.0.0.1:" ++ toString port ++ "/internal/v1/tabs" := by
  unfold create at h
  cases reported : calls.createNetwork.report with
  | error e =>
    rw [reported] at h
    cases h
  | ok response =>
    rw [reported] at h
    dsimp only at h
    split at h
    · rename_i left progress launched ended
      cases h
      have ended := congrArg (·.2.2) ended
      cases named : calls.reportedId with
      | none => exact absurd ended (launch_none named)
      | some id =>
        rw [launch_some named] at ended
        obtain ⟨_, started, ended⟩ := bind_ok.mp ended
        obtain ⟨inspect, polled, ended⟩ := bind_ok.mp ended
        obtain ⟨port, published, ended⟩ := bind_ok.mp ended
        cases ended
        exact ⟨inspect, port, waitForHealthy_ok.mp polled, published, rfl, rfl, rfl⟩
    · cases h

/-- The tab validator refuses exactly the endpoints at the default port. -/
theorem validateTab_endpoints {newUrl : String → Option EndpointUrl} (reads : ReadsEndpoints newUrl) {port : Nat}
    (positive : 1 ≤ port) (low : port ≤ 65535) (secret : isCredential resource.signalingSecret = true)
    (signaling : resource.signalingEndpoint = "ws" ++ "://127.0.0.1:" ++ toString port ++ "/internal/v1/signaling")
    (tabs : resource.tabControlEndpoint = "http" ++ "://127.0.0.1:" ++ toString port ++ "/internal/v1/tabs") :
    (∃ endpoint, validateTabControlResource newUrl resource = .ok endpoint) ↔ port ≠ 80 := by
  obtain ⟨_, signalingRead⟩ := reads.read "ws" (by simp) "/internal/v1/signaling" (by simp) port positive low
  obtain ⟨_, tabsRead⟩ := reads.read "http" (by simp) "/internal/v1/tabs" (by simp) port positive low
  have empty : isPort [] = false := rfl
  simp only [validateTabControlResource, tabs, signaling, tabsRead, signalingRead, secret]
  by_cases default : port = 80
  · simp [default, empty]
  · simp [default, isPort_toDigits positive low, Nat.ofDigitChars_ten_toDigits, Nat.not_lt.mpr low]

/-- Both validators accept what `create` returns exactly when the container is not published at
the default port of their schemes. -/
theorem create_usable {newUrl : String → Option EndpointUrl} (reads : ReadsEndpoints newUrl)
    (cfg : ConnectorConfig) {random : Bytes} (generated : random.length = 32)
    (h : (create options input (base64Url random) calls engine).2 = .ok resource) :
    ∃ inspect port, Polled calls.inspect 1 options.startupHealthAttempts inspect ∧
      publishedSignalingPort inspect = .ok port ∧
      (Usable cfg newUrl port resource ↔ inspect.binding.bind (·.hostPort) ≠ some "80") := by
  obtain ⟨inspect, port, polled, published, secret, signaling, tabs⟩ := create_published h
  obtain ⟨positive, low, bound⟩ := published_ok published
  have credential : isCredential resource.signalingSecret = true := secret ▸ credential_base64Url generated
  have text : inspect.binding.bind (·.hostPort) ≠ some "80" ↔ port ≠ 80 := by
    have eighty : "80" = toString 80 := by decide
    simp only [bound, Option.bind_some, ne_eq, Option.some.injEq]
    rw [eighty, toString_inj]
  refine ⟨inspect, port, polled, published, ?_⟩
  rw [text, ← validateTab_endpoints reads positive low credential signaling tabs]
  constructor
  · exact Usable.tabs
  · intro accepted
    obtain ⟨_, signalingRead⟩ := reads.read "ws" (by simp) "/internal/v1/signaling" (by simp) port positive low
    obtain ⟨_, tabsRead⟩ := reads.read "http" (by simp) "/internal/v1/tabs" (by simp) port positive low
    have nonempty : port.repr ≠ "" := fun empty => toString_ne_nil port (congrArg utf8 empty)
    refine ⟨accepted, ?_, _, _, tabs ▸ tabsRead, signaling ▸ signalingRead, rfl, rfl, ?_, ?_⟩
    · simp only [validateTarget, signaling, signalingRead, credential]
      simp
    · by_cases default : port = 80 <;> simp [EndpointUrl.connects, default, nonempty, Nat.ofDigitChars_ten_toDigits]
    · by_cases default : port = 80 <;> simp [EndpointUrl.connects, default, nonempty, Nat.ofDigitChars_ten_toDigits]

end

/-! ## Witnesses -/

/-- `new URL` on `scheme://host:port/path`. -/
def sampleNewUrl (text : String) : Option EndpointUrl :=
  match text.toList.splitOn ':' with
  | [scheme, host, rest] =>
    let port := String.ofList (rest.takeWhile Char.isDigit)
    some {
      href := text, protocol := String.ofList (scheme ++ [':']), username := "", password := ""
      hostname := String.ofList (host.drop 2), pathname := String.ofList (rest.dropWhile Char.isDigit)
      search := "", hash := "", port := if port = "80" then "" else port }
  | _ => none

theorem sampleNewUrl_reads : ReadsEndpoints sampleNewUrl where
  read scheme listed path listed' port positive low := by
    refine ⟨scheme ++ "://127.0.0.1:" ++ toString port ++ path, ?_⟩
    have head : ':' ∉ scheme.toList := by
      rcases List.mem_pair.mp listed with rfl | rfl <;> decide
    have digits : ∀ c ∈ (toString port).toList, c.isDigit = true := by
      rw [toList_toString]
      exact (decimal_toDigits positive).digits
    have slash : ∃ rest, path.toList = '/' :: rest ∧ ':' ∉ '/' :: rest := by
      rcases List.mem_pair.mp listed' with rfl | rfl
      · exact ⟨"internal/v1/signaling".toList, by decide, by decide⟩
      · exact ⟨"internal/v1/tabs".toList, by decide, by decide⟩
    obtain ⟨rest, path', noColon⟩ := slash
    have tail : ':' ∉ (toString port).toList ++ '/' :: rest := by
      intro mem
      rcases List.mem_append.mp mem with digit | later
      · exact absurd (digits _ digit) (by decide)
      · exact noColon later
    have parts : (scheme ++ "://127.0.0.1:" ++ toString port ++ path).toList.splitOn ':' =
        [scheme.toList, "//127.0.0.1".toList, (toString port).toList ++ '/' :: rest] := by
      have literal : "://127.0.0.1:".toList = ':' :: ("//127.0.0.1".toList ++ [':']) := by decide
      simp only [String.toList_append, literal, path', List.append_assoc, List.cons_append, List.nil_append]
      rw [splitOn_sep head, splitOn_sep (by decide), splitOn_one tail]
    have taken : ((toString port).toList ++ '/' :: rest).takeWhile Char.isDigit = (toString port).toList := by
      rw [List.takeWhile_append_of_pos digits]
      simp
    have dropped : ((toString port).toList ++ '/' :: rest).dropWhile Char.isDigit = '/' :: rest := by
      rw [List.dropWhile_append_of_pos digits]
      simp
    have eighty : toString port = "80" ↔ port = 80 := by
      have literal : "80" = toString 80 := by decide
      rw [literal, toString_inj]
    have pathText : String.ofList ('/' :: rest) = path := by rw [← path', String.ofList_toList]
    simp only [sampleNewUrl, parts, taken, dropped, String.ofList_toList, eighty, pathText]
    rcases List.mem_pair.mp listed with rfl | rfl <;> rfl

def sampleRandom : Bytes := List.replicate 32 0

/-- `smooth`, with the signaling port published at `hostPort`. -/
def publishedAt (hostPort : String) : Calls :=
  { smooth with
    inspect := fun _ => .ok ⟨some ⟨some ⟨some "healthy"⟩⟩,
      some ⟨some [("8444/tcp", some [⟨some "127.0.0.1", some hostPort⟩])]⟩⟩ }

/-- The resource that `create` returns for `publishedAt`. -/
def publishedResource (hostPort : String) : RuntimeResource where
  containerId := "container-1"
  containerName := containerName sampleRequest
  networkNamespace := networkNamespace sampleRequest
  storageNamespace := "/run/fireball-session:container-1"
  signalingEndpoint := "ws://127.0.0.1:" ++ toString (Nat.ofDigitChars 10 hostPort.toList 0) ++ "/internal/v1/signaling"
  signalingSecret := base64Url sampleRandom
  tabControlEndpoint := "http://127.0.0.1:" ++ toString (Nat.ofDigitChars 10 hostPort.toList 0) ++ "/internal/v1/tabs"

def sampleConnector : ConnectorConfig := ⟨1024, fun _ => none, fun _ => none⟩

theorem create_usable_high :
    ∃ inspect port, Polled (publishedAt "49152").inspect 1 60 inspect ∧
      publishedSignalingPort inspect = .ok port ∧
      (Usable sampleConnector sampleNewUrl port (publishedResource "49152") ↔
        inspect.binding.bind (·.hostPort) ≠ some "80") := by
  have created : (create ⟨"test-instance", 60⟩ sampleRequest (base64Url sampleRandom) (publishedAt "49152")
      ⟨[], []⟩).2 = .ok (publishedResource "49152") := rfl
  exact create_usable sampleNewUrl_reads sampleConnector (by decide) created

/-- Port 80 is published and returned, and no tab request can be sent to it. -/
theorem default_port_unusable :
    ReadsEndpoints sampleNewUrl ∧
      (create ⟨"test-instance", 60⟩ sampleRequest (base64Url sampleRandom) (publishedAt "80") ⟨[], []⟩).2 =
        .ok (publishedResource "80") ∧
      ¬ Usable sampleConnector sampleNewUrl 80 (publishedResource "80") := by
  refine ⟨sampleNewUrl_reads, rfl, fun usable => ?_⟩
  obtain ⟨endpoint, accepted⟩ := usable.tabs
  have refused : validateTabControlResource sampleNewUrl (publishedResource "80") =
      .error (.orchestrator invalidTabRuntimeResponse) := rfl
  rw [refused] at accepted
  cases accepted

end Fireball.Docker
