import Fireball.Evidence.Records
import Fireball.Foundation.Bytes

/-!
# Evidence files

`createPlatformRecord`, `createCandidateEvidence` and `validateEvidenceFiles` of
`session-candidate-evidence.mjs`, over the files that they read. No file changes during a
call, so the checks that a file was stable while it was read do not fail.
-/

namespace Fireball.Evidence

open Foundation

/-- What the script has of Node. -/
structure Node where
  /-- `process.cwd()`, as the names on its path. -/
  cwd : List String
  /-- `JSON.parse` of the bytes as UTF-8 text, or nothing when it throws. -/
  parseJson : Bytes → Option Json
  /-- `createHash("sha256")`. -/
  createHash : Bytes → Bytes
  /-- `new Date(text).toISOString()`, or nothing when it throws. -/
  toISOString : String → Option String
  /-- `Number(text)`, or nothing for NaN. -/
  parseNumber : String → Option Rat
  /-- `String(value)` of a number that is no integer below `10 ** 21`. -/
  numberText : Rat → String
  /-- `new Date().toISOString()`. -/
  now : String

/-- A path, split at its slashes: `/a/b` is `["", "a", "b"]`. -/
abbrev Path := List String

inductive Entry
  | regular (bytes : Bytes)
  | other

/-- What `openSync` with `O_NOFOLLOW` opens, by the names on the path. -/
abbrev FileSystem := List String → Option Entry

/-! ## Paths -/

def normalize (directory : List String) (parts : List String) : List String :=
  parts.foldl (fun names part =>
    if part = "" ∨ part = "." then names
    else if part = ".." then names.dropLast
    else names ++ [part]) directory

/-- The names on the absolute path. -/
def resolve (cwd : List String) (path : Path) : List String :=
  match path with
  | "" :: _ :: _ => normalize [] path
  | _ => normalize cwd path

def basename (path : Path) : String := ((path.filter (· ≠ "")).getLast?).getD ""

def absolute (names : List String) : Path := if names = [] then ["", ""] else "" :: names

/-- `join(directory, file)` for an absolute directory. -/
def join (directory : List String) (file : String) : Path :=
  absolute (normalize directory ((file.toList.splitOn '/').map String.ofList))

section
variable (node : Node)

/-! ## Reading -/

def stableRead (files : FileSystem) (path : Path) (maximumBytes : Nat) : Except Refusal Bytes :=
  let resolved := resolve node.cwd path
  let text := "/" ++ "/".intercalate resolved
  match files resolved with
  | none => .error .system
  | some .other => .error (.assertion (text ++ " must be a regular file"))
  | some (.regular bytes) => do
    check (0 < bytes.length && bytes.length ≤ maximumBytes)
      (Refusal.assertion (text ++ " has an invalid size"))
    .ok bytes

def parse (bytes : Bytes) : Except Refusal Json :=
  match node.parseJson bytes with
  | some document => .ok document
  | none => .error .syntaxError

def parseJsonFile (files : FileSystem) (path : Path) (maximumBytes : Nat) :
    Except Refusal (Bytes × Json) := do
  let bytes ← stableRead node files path maximumBytes
  let document ← parse node bytes
  .ok (bytes, document)

def sha256 (bytes : Bytes) : String := "sha256:" ++ hex (node.createHash bytes)

def maximumManifestBytes : Nat := 8 * 1024 * 1024
def maximumSbomBytes : Nat := 16 * 1024 * 1024
def maximumIndexBytes : Nat := 8 * 1024 * 1024
def maximumRecordBytes : Nat := 64 * 1024
def maximumEvidenceBytes : Nat := 256 * 1024

/-- `String(value)` of a number. -/
def textOfNumber (value : Rat) : String :=
  if value.den = 1 ∧ value.num.natAbs < 10 ^ 21 then toString value.num else node.numberText value

/-! ## Creation -/

structure PlatformArguments where
  image : String
  sourceCommit : String
  platform : String
  manifestPath : Path
  sbomPath : Path
  expectedDigest : String

def createPlatformRecord (files : FileSystem) (arguments : PlatformArguments) :
    Except Refusal PlatformRecord := do
  let image ← nonEmptyString (some (.string arguments.image)) "image" 512
  check (isImage image.toList) Refusal.generated
  let sourceCommit ← nonEmptyString (some (.string arguments.sourceCommit)) "source commit" 40
  check (isCommit sourceCommit.toList) Refusal.generated
  let expectedDigest ← digest (some (.string arguments.expectedDigest)) "expected digest"
  let (manifest, manifestDocument) ←
    parseJsonFile node files arguments.manifestPath maximumManifestBytes
  validatePlatformManifest manifestDocument arguments.platform
  check (sha256 node manifest = expectedDigest)
    (Refusal.assertion "registry manifest bytes do not match the expected digest")
  let (sbom, sbomDocument) ← parseJsonFile node files arguments.sbomPath maximumSbomBytes
  validateSpdxDocument sbomDocument
  validatePlatformRecord (PlatformRecord.toJson {
    image, sourceCommit
    platform := arguments.platform
    digest := expectedDigest
    manifest := ⟨basename arguments.manifestPath, expectedDigest, manifest.length⟩
    sbom := ⟨basename arguments.sbomPath, sha256 node sbom, sbom.length⟩ })

/-- An argument that the command line gives as text and a caller may give as a number. -/
inductive Numeric
  | text (value : String)
  | number (value : Rat)

/-- `Number(value)`, or nothing for NaN. -/
def toNumber : Numeric → Option Rat
  | .text value => node.parseNumber value
  | .number value => some value

structure CandidateArguments where
  repository : String
  sourceCommit : String
  runId : Numeric
  runAttempt : Numeric
  image : String
  indexPath : Path
  platformRecordPaths : List Path
  createdAt : Option String

/-- A number in the document. NaN is as little a positive integer as null is. -/
def numberField (value : Option Rat) : Json := (value.map Json.number).getD .null

def numberInUrl (value : Option Rat) : String := (value.map (textOfNumber node)).getD "NaN"

def readRecord (files : FileSystem) (path : Path) : Except Refusal PlatformRecord := do
  let (_, document) ← parseJsonFile node files path maximumRecordBytes
  validatePlatformRecord document

def createCandidateEvidence (files : FileSystem) (arguments : CandidateArguments) :
    Except Refusal CandidateEvidence := do
  check (arguments.platformRecordPaths.length = 2)
    (Refusal.assertion "exactly two platform record paths are required")
  let records ← arguments.platformRecordPaths.mapM (readRecord node files)
  let records := records.insertionSort fun left right =>
    platformOrder.idxOf left.platform ≤ platformOrder.idxOf right.platform
  let (index, indexDocument) ← parseJsonFile node files arguments.indexPath maximumIndexBytes
  validateIndex (textOfNumber node) indexDocument records
  let indexDigest := sha256 node index
  let runId := toNumber node arguments.runId
  let runAttempt := toNumber node arguments.runAttempt
  validateCandidateEvidence node.toISOString (.object [
    ("schema_version", .number 1),
    ("release_status", .string "candidate"),
    ("repository", .string arguments.repository),
    ("source_commit", .string arguments.sourceCommit),
    ("created_at", .string (arguments.createdAt.getD node.now)),
    ("workflow", .object [
      ("name", .string "session-candidate"),
      ("run_id", numberField runId),
      ("run_attempt", numberField runAttempt),
      ("url", .string (workflowUrl arguments.repository (numberInUrl node runId)
        (numberInUrl node runAttempt)))]),
    ("image", .object [
      ("name", .string arguments.image),
      ("candidate_tag", .string ("candidate-" ++ arguments.sourceCommit)),
      ("index_digest", .string indexDigest),
      ("index", (FileIdentity.mk (basename arguments.indexPath) indexDigest index.length).toJson),
      ("platforms", .array (records.map PlatformRecord.toJson))])])

/-! ## Validation -/

/-- `join(resolve(artifactDirectory), record.platform.slice("linux/".length))`. -/
def platformDirectory (artifactDirectory : Path) (record : PlatformRecord) : List String :=
  normalize (resolve node.cwd artifactDirectory)
    (((record.platform.toList.drop "linux/".length).splitOn '/').map String.ofList)

def validateArtifact (files : FileSystem) (directory : List String) (identity : FileIdentity)
    (maximumBytes : Nat) : Except Refusal Unit := do
  let path := join directory identity.file
  check ((resolve node.cwd path).dropLast = directory)
    (Refusal.assertion "artifact path escapes its platform directory")
  let bytes ← stableRead node files path maximumBytes
  check (bytes.length = identity.size)
    (Refusal.assertion ("artifact size mismatch for " ++ identity.file))
  check (sha256 node bytes = identity.sha256)
    (Refusal.assertion ("artifact checksum mismatch for " ++ identity.file))

def validateEvidenceFiles (files : FileSystem) (evidencePath indexPath artifactDirectory : Path) :
    Except Refusal CandidateEvidence := do
  let (_, document) ← parseJsonFile node files evidencePath maximumEvidenceBytes
  let evidence ← validateCandidateEvidence node.toISOString document
  let index ← stableRead node files indexPath maximumIndexBytes
  check (sha256 node index = evidence.image.indexDigest)
    (Refusal.assertion "evidence does not match OCI index bytes")
  let indexDocument ← parse node index
  validateIndex (textOfNumber node) indexDocument evidence.image.platforms
  evidence.image.platforms.forM fun record => do
    let directory := platformDirectory node artifactDirectory record
    validateArtifact node files directory record.manifest maximumManifestBytes
    validateArtifact node files directory record.sbom maximumSbomBytes
  .ok evidence

end

end Fireball.Evidence
