import Fireball.Foundation.Ascii
import Fireball.Foundation.Failing
import Fireball.Foundation.Json

/-!
# Evidence documents

The validators of `session-candidate-evidence.mjs`: platform manifests, SBOMs, the
OCI index, platform records, and the candidate evidence. A record or an evidence that
passes is returned with the values of its fields; the validators allow no other fields.
-/

namespace Fireball.Evidence

open Foundation

/-- What a validator throws: an `AssertionError` with the text of the script or with one
that Node writes, a `RangeError`, or an error from reading and parsing a file. -/
inductive Refusal
  | assertion (message : String)
  | generated
  | rangeError
  | system
  | syntaxError
  deriving DecidableEq, Repr

/-! ## Patterns -/

def isLowerHex (c : Char) : Bool := c.isDigit || ('a' ≤ c && c ≤ 'f')

/-- `[a-z0-9]`. -/
def isLowerAlphanumeric (c : Char) : Bool := c.isDigit || c.isLower

/-- `[a-z0-9_.-]`. -/
def isNameCharacter (c : Char) : Bool :=
  isLowerAlphanumeric c || c = '_' || c = '.' || c = '-'

/-- What a text has after `start`. -/
def afterStart (start text : List Char) : Option (List Char) :=
  if start.isPrefixOf text then some (text.drop start.length) else none

/-- `/^sha256:[0-9a-f]{64}$/u`. -/
def isSha256 (text : List Char) : Bool :=
  match afterStart "sha256:".toList text with
  | some digits => digits.length = 64 && digits.all isLowerHex
  | none => false

/-- `/^[0-9a-f]{40}$/u`. -/
def isCommit (text : List Char) : Bool := text.length = 40 && text.all isLowerHex

/-- `/^[A-Za-z0-9_.-]+\/[A-Za-z0-9_.-]+$/u`. -/
def isRepository (text : List Char) : Bool :=
  match text.splitOn '/' with
  | [owner, name] => [owner, name].all fun part =>
      !part.isEmpty && part.all fun c => isNameCharacter c || c.isUpper
  | _ => false

/-- `IMAGE_PATTERN`: `ghcr.io/`, then `[a-z0-9_.-]+`, a slash, and a name in which slashes
are allowed too. -/
def isImage (text : List Char) : Bool :=
  match afterStart "ghcr.io/".toList text with
  | some rest =>
    match rest.span isNameCharacter with
    | (owner, '/' :: name) =>
      !owner.isEmpty && !name.isEmpty && name.all fun c => isNameCharacter c || c = '/'
    | _ => false
  | none => false

/-- `/^[a-z0-9][a-z0-9_.-]{0,127}$/u`. -/
def isSafeFile (text : List Char) : Bool :=
  match text with
  | first :: rest => isLowerAlphanumeric first && rest.length ≤ 127 && rest.all isNameCharacter
  | [] => false

/-- `/^SPDX-2\.[0-9]+$/u`. -/
def isSpdxVersion (text : List Char) : Bool :=
  match afterStart "SPDX-2.".toList text with
  | some digits => !digits.isEmpty && digits.all Char.isDigit
  | none => false

def platformOrder : List String := ["linux/amd64", "linux/arm64"]

def indexMediaTypes : List String :=
  ["application/vnd.oci.image.index.v1+json",
    "application/vnd.docker.distribution.manifest.list.v2+json"]

def manifestMediaTypes : List String :=
  ["application/vnd.oci.image.manifest.v1+json",
    "application/vnd.docker.distribution.manifest.v2+json"]

/-! ## Fields -/

def exactKeys (value : Option Json) (expected : List String) (label : String) :
    Except Refusal (List (String × Json)) :=
  match value with
  | some (.object fields) => do
    check ((fields.map Prod.fst).insertionSort (· ≤ ·) = expected.insertionSort (· ≤ ·))
      (Refusal.assertion (label ++ " has unexpected fields"))
    .ok fields
  | _ => .error (.assertion (label ++ " must be an object"))

/-- `value.trim() === value`. -/
def isTrimmed (text : List Char) : Bool := !text.head?.any isBlank && !text.getLast?.any isBlank

/-- `value.length > 0 && value.length <= max && value.trim() === value`. -/
def isSized (text : List Char) (max : Nat) : Bool :=
  0 < units text && units text ≤ max && isTrimmed text

/-- `[\u0000-\u001f\u007f]`. -/
def isControl (c : Char) : Bool := c.toNat ≤ 0x1F || c.toNat = 0x7F

def nonEmptyString (value : Option Json) (label : String) (max : Nat) : Except Refusal String :=
  match value with
  | some (.string text) => do
    check (isSized text.toList max) (Refusal.assertion (label ++ " is invalid"))
    check (!text.toList.any isControl)
      (Refusal.assertion (label ++ " contains control characters"))
    .ok text
  | _ => .error (.assertion (label ++ " must be a string"))

/-- `Number.MAX_SAFE_INTEGER`. -/
def maximumSafeInteger : Nat := 2 ^ 53 - 1

def positiveInteger (value : Option Json) (label : String) : Except Refusal Nat :=
  match value with
  | some (.number q) => do
    check (q.den = 1 && 0 < q.num && q.num ≤ maximumSafeInteger)
      (Refusal.assertion (label ++ " must be a positive integer"))
    .ok q.num.toNat
  | _ => .error (.assertion (label ++ " must be a positive integer"))

def digest (value : Option Json) (label : String) : Except Refusal String := do
  let text ← nonEmptyString value label 71
  check (isSha256 text.toList) (Refusal.assertion (label ++ " must be a canonical SHA-256 digest"))
  .ok text

/-- `platformParts`, which returns the platform here: its parts are not used. -/
def platformParts (value : Option Json) : Except Refusal String :=
  match value with
  | some (.string platform) => do
    check (platformOrder.contains platform) (Refusal.assertion "unsupported platform")
    .ok platform
  | _ => .error (.assertion "unsupported platform")

/-- `Array.isArray(value) && value.length > 0`. -/
def nonEmptyArray (value : Option Json) (message : String) : Except Refusal (List Json) :=
  match value with
  | some (.array (first :: rest)) => .ok (first :: rest)
  | _ => .error (.assertion message)

/-- `Array.isArray(value) && value.length === 2`. -/
def exactlyTwo (value : Option Json) (message : String) : Except Refusal (List Json) :=
  match value with
  | some (.array [first, second]) => .ok [first, second]
  | _ => .error (.assertion message)

/-! ## Documents of the registry -/

def validateSpdxDocument (document : Json) : Except Refusal Unit := do
  let fields ← match document with
    | .object fields => .ok fields
    | _ => .error (Refusal.assertion "SBOM must be an object")
  let version ← nonEmptyString (Json.field fields "spdxVersion") "SBOM spdxVersion" 32
  check (isSpdxVersion version.toList) Refusal.generated
  check (isText (Json.field fields "dataLicense") "CC0-1.0")
    (Refusal.assertion "SBOM dataLicense must be CC0-1.0")
  check (isText (Json.field fields "SPDXID") "SPDXRef-DOCUMENT")
    (Refusal.assertion "SBOM SPDXID is invalid")
  let _ ← nonEmptyString (Json.field fields "name") "SBOM name" 512
  let _ ← nonEmptyArray (Json.field fields "packages") "SBOM must contain packages"
  .ok ()

/-- `{ mediaType, digest, size }`, the form of a config and of a layer. -/
def validateBlob (value : Option Json) (label : String) : Except Refusal Unit := do
  let blob ← exactKeys value ["mediaType", "digest", "size"] label
  let _ ← digest (Json.field blob "digest") (label ++ " digest")
  let _ ← positiveInteger (Json.field blob "size") (label ++ " size")
  .ok ()

def validatePlatformManifest (document : Json) (expectedPlatform : String) :
    Except Refusal Unit := do
  let manifest ← exactKeys (some document) ["schemaVersion", "mediaType", "config", "layers"]
    "platform manifest"
  check (isInteger (Json.field manifest "schemaVersion") 2)
    (Refusal.assertion "platform manifest schemaVersion must be 2")
  check (manifestMediaTypes.any (isText (Json.field manifest "mediaType")))
    (Refusal.assertion "unsupported platform manifest mediaType")
  validateBlob (Json.field manifest "config") "platform manifest config"
  let layers ← nonEmptyArray (Json.field manifest "layers") "platform manifest must contain layers"
  layers.forM fun layer => validateBlob (some layer) "platform manifest layer"
  let _ ← platformParts (some (.string expectedPlatform))
  .ok ()

/-! ## Records -/

structure FileIdentity where
  file : String
  sha256 : String
  size : Nat
  deriving DecidableEq, Repr

structure PlatformRecord where
  image : String
  sourceCommit : String
  platform : String
  digest : String
  manifest : FileIdentity
  sbom : FileIdentity
  deriving DecidableEq, Repr

def FileIdentity.toJson (identity : FileIdentity) : Json :=
  .object [("file", .string identity.file), ("sha256", .string identity.sha256),
    ("size", .number identity.size)]

def PlatformRecord.toJson (record : PlatformRecord) : Json :=
  .object [("schema_version", .number 1), ("image", .string record.image),
    ("source_commit", .string record.sourceCommit), ("platform", .string record.platform),
    ("digest", .string record.digest), ("manifest", record.manifest.toJson),
    ("sbom", record.sbom.toJson)]

def validatePlatformRecord (document : Json) : Except Refusal PlatformRecord := do
  let record ← exactKeys (some document)
    ["schema_version", "image", "source_commit", "platform", "digest", "manifest", "sbom"]
    "platform record"
  check (isInteger (Json.field record "schema_version") 1) Refusal.generated
  let image ← nonEmptyString (Json.field record "image") "image" 512
  check (isImage image.toList) (Refusal.assertion "image must be a canonical lowercase GHCR name")
  let sourceCommit ← nonEmptyString (Json.field record "source_commit") "source_commit" 40
  check (isCommit sourceCommit.toList) Refusal.generated
  let platform ← platformParts (Json.field record "platform")
  let digest ← Evidence.digest (Json.field record "digest") "platform digest"
  let manifest ← exactKeys (Json.field record "manifest") ["file", "sha256", "size"]
    "manifest identity"
  let manifestFile ← nonEmptyString (Json.field manifest "file") "manifest file" 128
  check (isSafeFile manifestFile.toList) Refusal.generated
  check (isText (Json.field manifest "sha256") digest)
    (Refusal.assertion "manifest checksum must equal platform digest")
  let manifestSize ← positiveInteger (Json.field manifest "size") "manifest size"
  let sbom ← exactKeys (Json.field record "sbom") ["file", "sha256", "size"] "SBOM identity"
  let sbomFile ← nonEmptyString (Json.field sbom "file") "SBOM file" 128
  check (isSafeFile sbomFile.toList) Refusal.generated
  let sbomSha256 ← Evidence.digest (Json.field sbom "sha256") "SBOM checksum"
  let sbomSize ← positiveInteger (Json.field sbom "size") "SBOM size"
  .ok {
    image, sourceCommit, platform, digest
    manifest := ⟨manifestFile, digest, manifestSize⟩
    sbom := ⟨sbomFile, sbomSha256, sbomSize⟩ }

/-! ## The index -/

/-- `String(value)` of a parsed value. The text of a number is a parameter. -/
def templateText (numberText : Rat → String) : Json → String
  | .null => "null"
  | .boolean value => toString value
  | .number value => numberText value
  | .string value => value
  | .array elements => ",".intercalate (texts elements)
  | .object _ => "[object Object]"
where
  /-- `join` writes nothing for null. -/
  texts : List Json → List String
    | [] => []
    | .null :: rest => "" :: texts rest
    | element :: rest => templateText numberText element :: texts rest

/-- One turn of the loop over the descriptors, with the platforms seen before it. -/
def validateDescriptor (numberText : Rat → String) (platformRecords : List PlatformRecord)
    (seen : List String) (value : Json) : Except Refusal (List String) := do
  let descriptor ← exactKeys (some value) ["mediaType", "digest", "size", "platform"]
    "OCI index descriptor"
  check (manifestMediaTypes.any (isText (Json.field descriptor "mediaType")))
    (Refusal.assertion "unsupported OCI descriptor mediaType")
  let descriptorDigest ← digest (Json.field descriptor "digest") "OCI descriptor digest"
  let _ ← positiveInteger (Json.field descriptor "size") "OCI descriptor size"
  let fields ← exactKeys (Json.field descriptor "platform") ["architecture", "os"]
    "OCI descriptor platform"
  let text key := ((Json.field fields key).map (templateText numberText)).getD "undefined"
  let platform ← platformParts (some (.string (text "os" ++ "/" ++ text "architecture")))
  check (!seen.contains platform) (Refusal.assertion ("duplicate OCI platform " ++ platform))
  match platformRecords.find? fun candidate => candidate.platform = platform with
  | none => .error (Refusal.assertion ("missing platform record for " ++ platform))
  | some record => do
    check (descriptorDigest = record.digest)
      (Refusal.assertion ("OCI descriptor digest mismatch for " ++ platform))
    .ok (seen ++ [platform])

def validateIndex (numberText : Rat → String) (document : Json)
    (platformRecords : List PlatformRecord) : Except Refusal Unit := do
  let index ← exactKeys (some document) ["schemaVersion", "mediaType", "manifests"] "OCI index"
  check (isInteger (Json.field index "schemaVersion") 2)
    (Refusal.assertion "OCI index schemaVersion must be 2")
  check (indexMediaTypes.any (isText (Json.field index "mediaType")))
    (Refusal.assertion "unsupported OCI index mediaType")
  let manifests ← match Json.field index "manifests" with
    | some (.array manifests) => .ok manifests
    | _ => .error (Refusal.assertion "OCI index manifests must be an array")
  check (manifests.length = platformOrder.length)
    (Refusal.assertion "OCI index must contain exactly two platform manifests")
  let seen ← manifests.foldlM (validateDescriptor numberText platformRecords) []
  check (seen.insertionSort (· ≤ ·) = platformOrder.insertionSort (· ≤ ·)) Refusal.generated

/-! ## Candidate evidence -/

structure Workflow where
  runId : Nat
  runAttempt : Nat
  url : String
  deriving DecidableEq, Repr

structure CandidateImage where
  name : String
  candidateTag : String
  indexDigest : String
  index : FileIdentity
  platforms : List PlatformRecord
  deriving DecidableEq, Repr

structure CandidateEvidence where
  repository : String
  sourceCommit : String
  createdAt : String
  workflow : Workflow
  image : CandidateImage
  deriving DecidableEq, Repr

def workflowUrl (repository runId runAttempt : String) : String :=
  "https://github.com/" ++ repository ++ "/actions/runs/" ++ runId ++ "/attempts/" ++ runAttempt

def Workflow.toJson (workflow : Workflow) : Json :=
  .object [("name", .string "session-candidate"), ("run_id", .number workflow.runId),
    ("run_attempt", .number workflow.runAttempt), ("url", .string workflow.url)]

def CandidateImage.toJson (image : CandidateImage) : Json :=
  .object [("name", .string image.name), ("candidate_tag", .string image.candidateTag),
    ("index_digest", .string image.indexDigest), ("index", image.index.toJson),
    ("platforms", .array (image.platforms.map PlatformRecord.toJson))]

def CandidateEvidence.toJson (evidence : CandidateEvidence) : Json :=
  .object [("schema_version", .number 1), ("release_status", .string "candidate"),
    ("repository", .string evidence.repository), ("source_commit", .string evidence.sourceCommit),
    ("created_at", .string evidence.createdAt), ("workflow", evidence.workflow.toJson),
    ("image", evidence.image.toJson)]

def validateWorkflow (value : Option Json) (repository sourceCommit : String) :
    Except Refusal Workflow := do
  let workflow ← exactKeys value ["name", "run_id", "run_attempt", "url"] "workflow"
  check (isText (Json.field workflow "name") "session-candidate") Refusal.generated
  let runId ← positiveInteger (Json.field workflow "run_id") "workflow run_id"
  let runAttempt ← positiveInteger (Json.field workflow "run_attempt") "workflow run_attempt"
  let expected := workflowUrl repository (toString runId) (toString runAttempt)
  check (isText (Json.field workflow "url") expected)
    (Refusal.assertion "workflow URL is not bound to the repository and run identity")
  check (isCommit sourceCommit.toList) Refusal.generated
  .ok ⟨runId, runAttempt, expected⟩

/-- The `image` of the evidence. -/
def validateCandidateImage (value : Option Json) (sourceCommit : String) :
    Except Refusal CandidateImage := do
  let image ← exactKeys value ["name", "candidate_tag", "index_digest", "index", "platforms"]
    "candidate image"
  let name ← nonEmptyString (Json.field image "name") "image name" 512
  check (isImage name.toList) Refusal.generated
  check (isText (Json.field image "candidate_tag") ("candidate-" ++ sourceCommit))
    (Refusal.assertion "candidate tag must be source-bound")
  let indexDigest ← digest (Json.field image "index_digest") "index digest"
  let index ← exactKeys (Json.field image "index") ["file", "sha256", "size"] "index identity"
  let indexFile ← nonEmptyString (Json.field index "file") "index file" 128
  check (isSafeFile indexFile.toList) Refusal.generated
  check (isText (Json.field index "sha256") indexDigest)
    (Refusal.assertion "index checksum must equal index digest")
  let indexSize ← positiveInteger (Json.field index "size") "index size"
  let documents ← exactlyTwo (Json.field image "platforms")
    "exactly two platform records are required"
  let platforms ← documents.mapM validatePlatformRecord
  check (platforms.map PlatformRecord.platform = platformOrder)
    (Refusal.assertion "platform records must use canonical order")
  platforms.forM fun record => do
    check (record.image = name) Refusal.generated
    check (record.sourceCommit = sourceCommit) Refusal.generated
  check (platforms.map PlatformRecord.digest).Nodup
    (Refusal.assertion "platform digests must differ")
  .ok ⟨name, "candidate-" ++ sourceCommit, indexDigest, ⟨indexFile, indexDigest, indexSize⟩, platforms⟩

/-- `new Date(text).toISOString() === text`, of a text that `Date` can read. -/
def isCanonical (toISOString : String → Option String) (text : String) : Bool := toISOString text = some text

/-- The check of `created_at`. A date that is invalid has no ISO string. -/
def checkCreatedAt (toISOString : String → Option String) (createdAt : String) : Except Refusal Unit :=
  match toISOString createdAt with
  | none => .error .rangeError
  | some text => check (text = createdAt) (Refusal.assertion "created_at must be canonical ISO-8601 UTC")

/-- `toISOString` is `new Date(text).toISOString()`, or nothing when it throws. -/
def validateCandidateEvidence (toISOString : String → Option String) (document : Json) :
    Except Refusal CandidateEvidence := do
  let evidence ← exactKeys (some document) ["schema_version", "release_status", "repository",
    "source_commit", "created_at", "workflow", "image"] "candidate evidence"
  check (isInteger (Json.field evidence "schema_version") 1) Refusal.generated
  check (isText (Json.field evidence "release_status") "candidate") Refusal.generated
  let repository ← nonEmptyString (Json.field evidence "repository") "repository" 512
  check (isRepository repository.toList) Refusal.generated
  let sourceCommit ← nonEmptyString (Json.field evidence "source_commit") "source_commit" 40
  check (isCommit sourceCommit.toList) Refusal.generated
  let createdAt ← nonEmptyString (Json.field evidence "created_at") "created_at" 32
  checkCreatedAt toISOString createdAt
  let workflow ← validateWorkflow (Json.field evidence "workflow") repository sourceCommit
  let image ← validateCandidateImage (Json.field evidence "image") sourceCommit
  .ok ⟨repository, sourceCommit, createdAt, workflow, image⟩

end Fireball.Evidence
