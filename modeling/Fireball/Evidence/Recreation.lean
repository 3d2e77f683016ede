import Fireball.Evidence.Files
import Fireball.Foundation.Lists
import Mathlib.Data.List.Permutation

/-!
# Evidence created again

Validation repeats the checks of creation on the documents it keeps, but reads a
platform's artifacts only for their sizes and checksums, and does not compare the
recorded size of the index.

* `validateEvidenceFiles_ok`: what an accepted bundle is known to hold;
* `platform_again`, `candidate_again`: when the two creations succeed on it;
* `recreates_iff`: the bundles for which both do, and give the same evidence.
-/

namespace Fireball.Evidence

open Foundation

variable {node : Node} {files : FileSystem}

/-! ## Paths -/

theorem nameCharacter_slash {file : String} (safe : isSafeFile file.toList = true) :
    '/' ∉ file.toList ∧ file ≠ "" ∧ file ≠ "." ∧ file ≠ ".." := by
  unfold isSafeFile at safe
  split at safe
  · next first rest chars =>
    simp only [Bool.and_eq_true, List.all_eq_true] at safe
    obtain ⟨⟨head, -⟩, tail⟩ := safe
    refine ⟨?_, ?_, ?_, ?_⟩
    · rw [chars]
      intro mem
      rcases List.mem_cons.mp mem with rfl | mem
      · exact absurd head (by decide)
      · exact absurd (tail _ mem) (by decide)
    · rintro rfl
      cases chars
    · rintro rfl
      cases chars
      exact absurd head (by decide)
    · rintro rfl
      cases chars
      exact absurd head (by decide)
  · cases safe

theorem basename_join {directory : List String} {file : String}
    (safe : isSafeFile file.toList = true) : basename (join directory file) = file := by
  obtain ⟨apart, nonempty, here, up⟩ := nameCharacter_slash safe
  have names : normalize directory ((file.toList.splitOn '/').map String.ofList) =
      directory ++ [file] := by
    rw [List.splitOn_eq_singleton apart]
    simp [normalize, nonempty, here, up]
  have some : directory ++ [file] ≠ [] := by simp
  rw [join, names, absolute, if_neg some, basename]
  simp [nonempty]

/-! ## What validation has seen -/

/-- A file that the script reads and parses. -/
def Holds (node : Node) (files : FileSystem) (path : Path) (maximumBytes : Nat) (bytes : Bytes)
    (document : Json) : Prop :=
  stableRead node files path maximumBytes = .ok bytes ∧ node.parseJson bytes = some document

theorem parse_ok {bytes : Bytes} {document : Json} :
    parse node bytes = .ok document ↔ node.parseJson bytes = some document := by
  unfold parse
  cases node.parseJson bytes <;> simp

theorem parseJsonFile_ok {path : Path} {maximumBytes : Nat} {bytes : Bytes} {document : Json} :
    parseJsonFile node files path maximumBytes = .ok (bytes, document) ↔
      Holds node files path maximumBytes bytes document := by
  simp only [parseJsonFile, bind_ok, parse_ok, Except.ok.injEq, Prod.mk.injEq, Holds]
  constructor
  · rintro ⟨_, read, _, parsed, rfl, rfl⟩
    exact ⟨read, parsed⟩
  · rintro ⟨read, parsed⟩
    exact ⟨bytes, read, document, parsed, rfl, rfl⟩

/-- The bytes of an artifact are those that its identity records. -/
def Matches (node : Node) (files : FileSystem) (path : Path) (maximumBytes : Nat)
    (identity : FileIdentity) (bytes : Bytes) : Prop :=
  stableRead node files path maximumBytes = .ok bytes ∧ bytes.length = identity.size ∧
    sha256 node bytes = identity.sha256

theorem validateArtifact_ok {directory : List String} {identity : FileIdentity}
    {maximumBytes : Nat} {u : Unit}
    (ok : validateArtifact node files directory identity maximumBytes = .ok u) :
    ∃ bytes, Matches node files (join directory identity.file) maximumBytes identity bytes := by
  simp only [validateArtifact, bind_ok, check_ok, decide_eq_true_eq] at ok
  obtain ⟨-, -, bytes, read, -, size, sum⟩ := ok
  exact ⟨bytes, read, size, sum⟩

/-- Where a record's artifacts are. -/
def manifestPath (node : Node) (artifactDirectory : Path) (record : PlatformRecord) : Path :=
  join (platformDirectory node artifactDirectory record) record.manifest.file

def sbomPath (node : Node) (artifactDirectory : Path) (record : PlatformRecord) : Path :=
  join (platformDirectory node artifactDirectory record) record.sbom.file

/-- What an accepted bundle is known to hold. -/
structure Bundle (node : Node) (files : FileSystem) (indexPath artifactDirectory : Path)
    (evidence : CandidateEvidence) (index : Bytes) (indexDocument : Json) : Prop where
  valid : evidence.Valid node.toISOString
  held : Holds node files indexPath maximumIndexBytes index indexDocument
  digest : sha256 node index = evidence.image.indexDigest
  indexed : validateIndex (textOfNumber node) indexDocument evidence.image.platforms = .ok ()
  artifacts : ∀ record ∈ evidence.image.platforms,
    (∃ bytes, Matches node files (manifestPath node artifactDirectory record)
      maximumManifestBytes record.manifest bytes) ∧
    ∃ bytes, Matches node files (sbomPath node artifactDirectory record)
      maximumSbomBytes record.sbom bytes

theorem validateEvidenceFiles_ok {evidencePath indexPath artifactDirectory : Path}
    {evidence : CandidateEvidence}
    (ok : validateEvidenceFiles node files evidencePath indexPath artifactDirectory =
      .ok evidence) :
    ∃ index indexDocument,
      Bundle node files indexPath artifactDirectory evidence index indexDocument := by
  simp only [validateEvidenceFiles, bind_ok, check_ok, parse_ok, forM_ok, decide_eq_true_eq,
    Except.ok.injEq] at ok
  obtain ⟨⟨_, document⟩, _, read, validated, index, found, _, digest, indexDocument, parsed, _,
    indexed, _, artifacts, rfl⟩ := ok
  refine ⟨index, indexDocument, validateCandidateEvidence_ok validated, ⟨found, parsed⟩, digest,
    indexed, fun record mem => ?_⟩
  obtain ⟨_, manifest, sbom⟩ := artifacts record mem
  exact ⟨validateArtifact_ok manifest, validateArtifact_ok sbom⟩

theorem stableRead_ok {path : Path} {maximumBytes : Nat} {bytes : Bytes}
    (found : files (resolve node.cwd path) = some (.regular bytes))
    (sized : 0 < bytes.length ∧ bytes.length ≤ maximumBytes) :
    stableRead node files path maximumBytes = .ok bytes := by
  simp only [stableRead, found, bind_ok, check_ok, Bool.and_eq_true, decide_eq_true_eq]
  exact ⟨(), sized, trivial⟩

theorem validateArtifact_accepts {directory : List String} {identity : FileIdentity}
    {maximumBytes : Nat} {bytes : Bytes}
    (inside : (resolve node.cwd (join directory identity.file)).dropLast = directory)
    (matching : Matches node files (join directory identity.file) maximumBytes identity bytes) :
    validateArtifact node files directory identity maximumBytes = .ok () := by
  obtain ⟨read, size, sum⟩ := matching
  simp only [validateArtifact, bind_ok, check_ok, decide_eq_true_eq]
  exact ⟨(), inside, bytes, read, (), size, sum⟩

theorem validateEvidenceFiles_accepts {evidencePath indexPath artifactDirectory : Path}
    {evidence : CandidateEvidence} {bytes index : Bytes} {indexDocument : Json}
    (held : Holds node files evidencePath maximumEvidenceBytes bytes evidence.toJson)
    (bundle : Bundle node files indexPath artifactDirectory evidence index indexDocument)
    (inside : ∀ record ∈ evidence.image.platforms, ∀ identity ∈ [record.manifest, record.sbom],
      (resolve node.cwd (join (platformDirectory node artifactDirectory record)
        identity.file)).dropLast = platformDirectory node artifactDirectory record) :
    validateEvidenceFiles node files evidencePath indexPath artifactDirectory = .ok evidence := by
  simp only [validateEvidenceFiles, bind_ok, check_ok, parse_ok, forM_ok, decide_eq_true_eq,
    Except.ok.injEq]
  refine ⟨(bytes, evidence.toJson), parseJsonFile_ok.mpr held, evidence,
    validateCandidateEvidence_toJson bundle.valid, index, bundle.held.1, (), bundle.digest,
    indexDocument, bundle.held.2, (), bundle.indexed, (), ?_, rfl⟩
  intro record mem
  obtain ⟨⟨manifest, manifests⟩, ⟨sbom, sboms⟩⟩ := bundle.artifacts record mem
  exact ⟨(), validateArtifact_accepts (inside record mem _ List.mem_cons_self) manifests,
    validateArtifact_accepts (inside record mem _ (List.mem_cons_of_mem _ List.mem_cons_self)) sboms⟩

/-! ## Creating the records again -/

/-- The arguments with which a record was created. -/
def recordArguments (node : Node) (artifactDirectory : Path) (record : PlatformRecord) :
    PlatformArguments where
  image := record.image
  sourceCommit := record.sourceCommit
  platform := record.platform
  manifestPath := manifestPath node artifactDirectory record
  sbomPath := sbomPath node artifactDirectory record
  expectedDigest := record.digest

/-- The artifacts of a record are documents of the right form. -/
structure Documents (node : Node) (files : FileSystem) (artifactDirectory : Path)
    (record : PlatformRecord) : Prop where
  manifest : ∃ bytes document,
    Holds node files (manifestPath node artifactDirectory record) maximumManifestBytes bytes
      document ∧ validatePlatformManifest document record.platform = .ok ()
  sbom : ∃ bytes document,
    Holds node files (sbomPath node artifactDirectory record) maximumSbomBytes bytes document ∧
      validateSpdxDocument document = .ok ()

theorem created_documents {artifactDirectory : Path} {record again : PlatformRecord}
    (ok : createPlatformRecord node files (recordArguments node artifactDirectory record) =
      .ok again) : Documents node files artifactDirectory record := by
  simp only [createPlatformRecord, bind_ok, recordArguments, Prod.exists, parseJsonFile_ok] at ok
  obtain ⟨_, _, _, _, _, _, _, _, _, _, manifest, document, held, _, shaped, _, _, sbom,
    sbom_document, sbom_held, _, sbom_shaped, _⟩ := ok
  exact ⟨⟨manifest, document, held, shaped⟩, ⟨sbom, sbom_document, sbom_held, sbom_shaped⟩⟩

theorem platform_again {artifactDirectory : Path} {record : PlatformRecord}
    {manifest sbom : Bytes} (valid : record.Valid)
    (manifests : Matches node files (manifestPath node artifactDirectory record)
      maximumManifestBytes record.manifest manifest)
    (sboms : Matches node files (sbomPath node artifactDirectory record) maximumSbomBytes
      record.sbom sbom) :
    createPlatformRecord node files (recordArguments node artifactDirectory record) = .ok record ↔
      Documents node files artifactDirectory record := by
  obtain ⟨manifest_read, manifest_size, manifest_sum⟩ := manifests
  obtain ⟨sbom_read, sbom_size, sbom_sum⟩ := sboms
  constructor
  · exact created_documents
  · rintro ⟨⟨bytes, document, held, shaped⟩, ⟨sbom_bytes, sbom_document, sbom_held, sbom_shaped⟩⟩
    have same : bytes = manifest := Except.ok.inj (held.1.symm.trans manifest_read)
    have sbom_same : sbom_bytes = sbom := Except.ok.inj (sbom_held.1.symm.trans sbom_read)
    subst same sbom_same
    have written : (⟨basename (manifestPath node artifactDirectory record), record.digest,
        bytes.length⟩ : FileIdentity) = record.manifest := by
      rw [manifestPath, basename_join valid.manifest.file.2, manifest_size, ← valid.bound]
    have sbom_written : (⟨basename (sbomPath node artifactDirectory record), sha256 node sbom_bytes,
        sbom_bytes.length⟩ : FileIdentity) = record.sbom := by
      rw [sbomPath, basename_join valid.sbom.file.2, sbom_size, sbom_sum]
    simp only [createPlatformRecord, bind_ok, recordArguments, Prod.exists, parseJsonFile_ok,
      nonEmptyString_ok, digest_ok, check_ok, decide_eq_true_eq]
    refine ⟨record.image, ⟨rfl, valid.image.1⟩, (), valid.image.2, record.sourceCommit,
      ⟨rfl, valid.sourceCommit.1⟩, (), valid.sourceCommit.2, record.digest, ⟨rfl, valid.digest⟩,
      bytes, document, held, (), shaped, (), manifest_sum.trans valid.bound, sbom_bytes,
      sbom_document, sbom_held, (), sbom_shaped, ?_⟩
    rw [written, sbom_written]
    exact validatePlatformRecord_toJson valid

/-! ## Creating the evidence again -/

/-- The arguments with which an evidence was created from record files. -/
def candidateArguments (evidence : CandidateEvidence) (indexPath : Path)
    (platformRecordPaths : List Path) : CandidateArguments where
  repository := evidence.repository
  sourceCommit := evidence.sourceCommit
  runId := .number evidence.workflow.runId
  runAttempt := .number evidence.workflow.runAttempt
  image := evidence.image.name
  indexPath := indexPath
  platformRecordPaths := platformRecordPaths
  createdAt := some evidence.createdAt

/-- The same evidence with another identity of the index. -/
def CandidateEvidence.withIndex (evidence : CandidateEvidence) (index : FileIdentity) :
    CandidateEvidence :=
  { evidence with image := { evidence.image with index } }

/-- The same evidence with another recorded file name of the index. -/
def CandidateEvidence.withIndexFile (evidence : CandidateEvidence) (file : String) :
    CandidateEvidence :=
  evidence.withIndex { evidence.image.index with file }

/-- The files after the two records were written next to the ones there were. -/
structure RecordFiles (node : Node) (files later : FileSystem) (paths : List Path)
    (records : List PlatformRecord) : Prop where
  kept : ∀ names entry, files names = some entry → later names = some entry
  stored : ∃ order, order.Perm records ∧ List.Forall₂ (fun record path =>
    ∃ bytes, Holds node later path maximumRecordBytes bytes record.toJson) order paths

theorem Holds.kept {later : FileSystem} {path : Path} {maximumBytes : Nat} {bytes : Bytes}
    {document : Json} (h : Holds node files path maximumBytes bytes document)
    (kept : ∀ names entry, files names = some entry → later names = some entry) :
    Holds node later path maximumBytes bytes document := by
  refine ⟨?_, h.2⟩
  have read := h.1
  unfold stableRead at read ⊢
  dsimp only at read ⊢
  cases found : files (resolve node.cwd path) with
  | none => rw [found] at read; cases read
  | some entry =>
      rw [found] at read
      rw [kept _ _ found]
      exact read

/-- Two records in either order are sorted into the order of the evidence. -/
theorem sorted_records {order records : List PlatformRecord} (same : order.Perm records)
    (canonical : records.map PlatformRecord.platform = platformOrder) :
    order.insertionSort (fun left right =>
      platformOrder.idxOf left.platform ≤ platformOrder.idxOf right.platform) = records := by
  obtain ⟨first, second, rfl⟩ : ∃ first second, records = [first, second] := by
    have two := congrArg List.length canonical
    rw [List.length_map] at two
    exact List.length_eq_two.mp two
  simp only [List.map_cons, List.map_nil, platformOrder, List.cons.injEq, and_true] at canonical
  obtain ⟨amd64, arm64⟩ := canonical
  have low : platformOrder.idxOf "linux/amd64" = 0 := by decide
  have high : platformOrder.idxOf "linux/arm64" = 1 := by decide
  rcases List.perm_pair.mp same with rfl | rfl <;> simp [amd64, arm64, low, high]

theorem textOfNumber_positive {n : Nat} (h : IsPositive n) :
    textOfNumber node n = toString n := by
  have small : n < 10 ^ 21 := Nat.lt_of_le_of_lt h.2 (by decide)
  have both : (n : Rat).den = 1 ∧ (n : Rat).num.natAbs < 10 ^ 21 := by simpa using small
  rw [textOfNumber, if_pos both, Rat.num_natCast]
  rfl

theorem create_validates {later : FileSystem} {indexPath artifactDirectory : Path}
    {paths : List Path} {evidence : CandidateEvidence} {index : Bytes} {indexDocument : Json}
    (bundle : Bundle node files indexPath artifactDirectory evidence index indexDocument)
    (written : RecordFiles node files later paths evidence.image.platforms) :
    createCandidateEvidence node later (candidateArguments evidence indexPath paths) =
      validateCandidateEvidence node.toISOString (evidence.withIndex
        ⟨basename indexPath, evidence.image.indexDigest, index.length⟩).toJson := by
  obtain ⟨order, perm, stored⟩ := written.stored
  have image := bundle.valid.image
  have workflow := bundle.valid.workflow
  have sorted := sorted_records perm image.order
  have two : paths.length = 2 := by
    have lengths := congrArg List.length image.order
    rw [← stored.length_eq, perm.length_eq]
    simpa [platformOrder] using lengths
  have read : paths.mapM (readRecord node later) = .ok order := by
    rw [mapM_ok]
    have valid : ∀ record ∈ order, record.Valid :=
      fun record mem => image.platforms record (perm.mem_iff.mp mem)
    refine (List.Forall₂.imp ?_ ((List.forall₂_and_left _ _).mpr ⟨valid, stored⟩)).flip
    rintro record path ⟨valid, bytes, held⟩
    exact bind_ok.mpr ⟨(bytes, record.toJson), parseJsonFile_ok.mpr held,
      validatePlatformRecord_toJson valid⟩
  have indexed := parseJsonFile_ok.mpr (bundle.held.kept written.kept)
  have url : workflowUrl evidence.repository (numberInUrl node (some evidence.workflow.runId))
      (numberInUrl node (some evidence.workflow.runAttempt)) = evidence.workflow.url := by
    simp only [numberInUrl, Option.map_some, Option.getD_some,
      textOfNumber_positive workflow.runId, textOfNumber_positive workflow.runAttempt, workflow.url]
  simp only [createCandidateEvidence, candidateArguments, two, decide_true, check, if_true, read,
    sorted, indexed, bundle.indexed, bundle.digest, bind, Except.bind, toNumber, url,
    Option.getD_some, numberField, Option.map_some, ← image.candidateTag]
  rfl

theorem candidate_again {later : FileSystem} {indexPath artifactDirectory : Path}
    {paths : List Path} {evidence : CandidateEvidence} {index : Bytes} {indexDocument : Json}
    (bundle : Bundle node files indexPath artifactDirectory evidence index indexDocument)
    (written : RecordFiles node files later paths evidence.image.platforms) :
    createCandidateEvidence node later (candidateArguments evidence indexPath paths) =
        .ok (evidence.withIndexFile (basename indexPath)) ↔
      IsSafeName (basename indexPath) ∧ index.length = evidence.image.index.size := by
  rw [create_validates bundle written]
  have valid := bundle.valid
  constructor
  · intro ok
    have safe := (validateCandidateEvidence_ok ok).image.file
    have size := validateCandidateEvidence_size ok
    have recorded : (index.length : Rat) = evidence.image.index.size :=
      Json.number.inj (Option.some.inj size)
    exact ⟨safe, by exact_mod_cast recorded⟩
  · rintro ⟨safe, size⟩
    have same : evidence.withIndex
        ⟨basename indexPath, evidence.image.indexDigest, index.length⟩ =
        evidence.withIndexFile (basename indexPath) := by
      rw [CandidateEvidence.withIndexFile, size, ← valid.image.sha256]
    rw [same]
    exact validateCandidateEvidence_toJson { valid with image := { valid.image with file := safe } }

/-! ## The evidence of an accepted bundle -/

/-- The two creations succeed on the bundle, and give the evidence up to the recorded file
name of the index. -/
structure Recreates (node : Node) (files later : FileSystem) (evidence : CandidateEvidence)
    (indexPath artifactDirectory : Path) (paths : List Path) : Prop where
  platforms : ∀ record ∈ evidence.image.platforms,
    createPlatformRecord node files (recordArguments node artifactDirectory record) = .ok record
  candidate : createCandidateEvidence node later (candidateArguments evidence indexPath paths) =
    .ok (evidence.withIndexFile (basename indexPath))

/-- What creation asks of a bundle and validation does not. -/
structure Recreatable (node : Node) (files : FileSystem) (evidence : CandidateEvidence)
    (indexPath artifactDirectory : Path) : Prop where
  documents : ∀ record ∈ evidence.image.platforms, Documents node files artifactDirectory record
  file : IsSafeName (basename indexPath)
  size : ∀ index, stableRead node files indexPath maximumIndexBytes = .ok index →
    index.length = evidence.image.index.size

/-- An accepted bundle is what creation produces exactly when its artifacts are manifests and
SPDX documents and the recorded size of the index is its size. -/
theorem recreates_iff {later : FileSystem} {evidencePath indexPath artifactDirectory : Path}
    {paths : List Path} {evidence : CandidateEvidence}
    (accepted : validateEvidenceFiles node files evidencePath indexPath artifactDirectory =
      .ok evidence)
    (written : RecordFiles node files later paths evidence.image.platforms) :
    Recreates node files later evidence indexPath artifactDirectory paths ↔
      Recreatable node files evidence indexPath artifactDirectory := by
  obtain ⟨index, indexDocument, bundle⟩ := validateEvidenceFiles_ok accepted
  have again : ∀ record ∈ evidence.image.platforms,
      createPlatformRecord node files (recordArguments node artifactDirectory record) = .ok record ↔
        Documents node files artifactDirectory record := by
    intro record mem
    obtain ⟨⟨manifest, manifests⟩, ⟨sbom, sboms⟩⟩ := bundle.artifacts record mem
    exact platform_again (bundle.valid.image.platforms record mem) manifests sboms
  have candidate := candidate_again bundle written
  constructor
  · intro recreates
    obtain ⟨safe, size⟩ := candidate.mp recreates.candidate
    refine ⟨fun record mem => (again record mem).mp (recreates.platforms record mem), safe, ?_⟩
    intro bytes read
    rwa [Except.ok.inj (read.symm.trans bundle.held.1)]
  · intro recreatable
    exact ⟨fun record mem => (again record mem).mpr (recreatable.documents record mem),
      candidate.mpr ⟨recreatable.file, recreatable.size index bundle.held.1⟩⟩

/-! ## Two bundles -/

mutual

/-- `JSON.stringify`, for documents whose numbers are integers and whose texts need no escapes. -/
def jsonBytes : Json → Bytes
  | .null => utf8 "null"
  | .boolean value => utf8 (toString value)
  | .number value => utf8 (toString value.num)
  | .string value => 34 :: utf8 value ++ [34]
  | .array elements => 91 :: elementsBytes elements ++ [93]
  | .object fields => 123 :: fieldsBytes fields ++ [125]

def elementsBytes : List Json → Bytes
  | [] => []
  | [element] => jsonBytes element
  | element :: rest => jsonBytes element ++ 44 :: elementsBytes rest

def fieldsBytes : List (String × Json) → Bytes
  | [] => []
  | [(key, value)] => 34 :: utf8 key ++ 34 :: 58 :: jsonBytes value
  | (key, value) :: rest =>
    34 :: utf8 key ++ 34 :: 58 :: jsonBytes value ++ 44 :: fieldsBytes rest

end

/-- A document as a line of text. -/
def fileOf (document : Json) : Bytes := jsonBytes document ++ [10]

def manifestOf (config layer : Char) : Json :=
  let blob mediaType seed size : Json := .object [("mediaType", .string mediaType),
    ("digest", .string ("sha256:" ++ String.ofList (List.replicate 64 seed))), ("size", .number size)]
  .object [("schemaVersion", .number 2),
    ("mediaType", .string "application/vnd.oci.image.manifest.v1+json"),
    ("config", blob "application/vnd.oci.image.config.v1+json" config 512),
    ("layers", .array [blob "application/vnd.oci.image.layer.v1.tar+gzip" layer 4096])]

def amd64Manifest : Json := manifestOf '1' '3'
def arm64Manifest : Json := manifestOf '2' '4'

def spdxDocument : Json :=
  .object [("spdxVersion", .string "SPDX-2.3"), ("dataLicense", .string "CC0-1.0"),
    ("SPDXID", .string "SPDXRef-DOCUMENT"), ("name", .string "fireball-session"),
    ("packages", .array [.object [("name", .string "fireball-session"),
      ("SPDXID", .string "SPDXRef-Package-fireball-session")]])]

def amd64Digest : String := "sha256:b828ad3a80660c69de519a91e3981aad8ba69840fde77a0bad5faffde7246961"
def arm64Digest : String := "sha256:5d9a51ba0eaab78c753f92c85b4f76cabea7c17597f6ebe23d9408c9fd128999"
def spdxSum : String := "sha256:5297ebfa7cd0d999eea5c77e6316bf270ef1210b6a036e56967c2c2584e288c2"
def emptySum : String := "sha256:ca3d163bab055381827226140568f3bef7eaac187cebd76878e0b63e9e442356"
def indexSum : String := "sha256:f31b9d9eb6f42977aff586d1d592f55b1c958b9a979b7db3c3ec772a728de299"

def indexDocument : Json :=
  let descriptor digest architecture : Json := .object [
    ("mediaType", .string "application/vnd.oci.image.manifest.v1+json"),
    ("digest", .string digest), ("size", .number 403),
    ("platform", .object [("architecture", .string architecture), ("os", .string "linux")])]
  .object [("schemaVersion", .number 2),
    ("mediaType", .string "application/vnd.oci.image.index.v1+json"),
    ("manifests", .array [descriptor amd64Digest "amd64", descriptor arm64Digest "arm64"])]

def commit : String := String.ofList (List.replicate 40 'a')

def bundleRecord (platform digest : String) (sbom : FileIdentity) : PlatformRecord where
  image := "ghcr.io/lamppkk/fireball-session"
  sourceCommit := commit
  platform := platform
  digest := digest
  manifest := ⟨"manifest.json", digest, 403⟩
  sbom := sbom

/-- The evidence of the two manifests, with this SBOM and this size of the index. -/
def bundleEvidence (sbom : FileIdentity) (indexSize : Nat) : CandidateEvidence where
  repository := "LamPPKK/fireball-docker"
  sourceCommit := commit
  createdAt := "2026-08-21T08:00:00.000Z"
  workflow := ⟨1234, 2, "https://github.com/LamPPKK/fireball-docker/actions/runs/1234/attempts/2"⟩
  image := {
    name := "ghcr.io/lamppkk/fireball-session"
    candidateTag := "candidate-" ++ commit
    indexDigest := indexSum
    index := ⟨"index.json", indexSum, indexSize⟩
    platforms := [bundleRecord "linux/amd64" amd64Digest sbom,
      bundleRecord "linux/arm64" arm64Digest sbom] }

/-- A bundle as the workflow makes it. -/
def soundEvidence : CandidateEvidence := bundleEvidence ⟨"sbom.json", spdxSum, 190⟩ 492

/-- The SBOMs are empty objects, and the size of the index is wrong. -/
def forgedEvidence : CandidateEvidence := bundleEvidence ⟨"sbom.json", emptySum, 3⟩ 1

def documents : List Json :=
  [spdxDocument, .object [], amd64Manifest, arm64Manifest, indexDocument, soundEvidence.toJson,
    forgedEvidence.toJson] ++ soundEvidence.image.platforms.map PlatformRecord.toJson

def bundleFiles (sbom : Json) (evidence : CandidateEvidence) : List (List String × Json) :=
  [(["w", "evidence.json"], evidence.toJson), (["w", "index.json"], indexDocument),
    (["w", "amd64", "manifest.json"], amd64Manifest), (["w", "amd64", "sbom.json"], sbom),
    (["w", "arm64", "manifest.json"], arm64Manifest), (["w", "arm64", "sbom.json"], sbom)]

def recordFiles : List (List String × Json) :=
  [(["w", "amd64", "record.json"],
      (bundleRecord "linux/amd64" amd64Digest ⟨"sbom.json", spdxSum, 190⟩).toJson),
    (["w", "arm64", "record.json"],
      (bundleRecord "linux/arm64" arm64Digest ⟨"sbom.json", spdxSum, 190⟩).toJson)]

def filesOf (files : List (List String × Json)) : FileSystem := fun names =>
  (lookupEntry names files).map fun document => .regular (fileOf document)

def hexValue (c : Char) : Nat := if c.isDigit then c.toNat - 48 else c.toNat - 87

def unhex : List Char → Bytes
  | high :: low :: rest => UInt8.ofNat (16 * hexValue high + hexValue low) :: unhex rest
  | _ => []

def sums : List (Json × String) :=
  [(spdxDocument, spdxSum), (.object [], emptySum), (amd64Manifest, amd64Digest),
    (arm64Manifest, arm64Digest), (indexDocument, indexSum)]

/-- Node, as far as these files need it. -/
def bundleNode : Node where
  cwd := []
  parseJson bytes := documents.find? fun document => fileOf document = bytes
  createHash bytes := ((sums.find? fun sum => fileOf sum.1 = bytes).map fun sum =>
    unhex (sum.2.toList.drop 7)).getD []
  toISOString text := if text = "2026-08-21T08:00:00.000Z" then some text else none
  parseNumber _ := none
  numberText _ := ""
  now := "2026-08-21T08:00:00.000Z"

theorem documents_distinct : (documents.map fileOf).Nodup := by decide +kernel

theorem parse_document (document : Json) (mem : document ∈ documents) :
    bundleNode.parseJson (fileOf document) = some document :=
  find_key fileOf documents_distinct mem

theorem sums_distinct : (sums.map fun sum => fileOf sum.1).Nodup :=
  documents_distinct.sublist (List.take_sublist 5 (documents.map fileOf))

theorem sum_of {document : Json} {text : List Char} (mem : (document, String.ofList text) ∈ sums)
    (digits : "sha256:".toList ++ (unhex (text.drop 7)).flatMap (fun x =>
      [hexDigit (x.toNat / 16), hexDigit (x.toNat % 16)]) = text) :
    sha256 bundleNode (fileOf document) = String.ofList text := by
  have found : sums.find? (fun sum => fileOf sum.1 = fileOf document) =
      some (document, String.ofList text) :=
    find_key (fun sum => fileOf sum.1) sums_distinct mem
  have hashed : bundleNode.createHash (fileOf document) = unhex (text.drop 7) := by
    simp only [bundleNode, found, Option.map_some, Option.getD_some, String.toList_ofList]
  have written : (hex (unhex (text.drop 7))).toList = (unhex (text.drop 7)).flatMap (fun x =>
      [hexDigit (x.toNat / 16), hexDigit (x.toNat % 16)]) := String.toList_ofList
  rw [sha256, hashed, ← String.toList_inj, String.toList_append, written, digits]
  exact String.toList_ofList.symm

theorem bundle_sums :
    sha256 bundleNode (fileOf spdxDocument) = spdxSum ∧
    sha256 bundleNode (fileOf (.object [])) = emptySum ∧
    sha256 bundleNode (fileOf amd64Manifest) = amd64Digest ∧
    sha256 bundleNode (fileOf arm64Manifest) = arm64Digest ∧
    sha256 bundleNode (fileOf indexDocument) = indexSum :=
  ⟨sum_of (List.mem_of_getElem? (i := 0) rfl) (by decide),
    sum_of (List.mem_of_getElem? (i := 1) rfl) (by decide),
    sum_of (List.mem_of_getElem? (i := 2) rfl) (by decide),
    sum_of (List.mem_of_getElem? (i := 3) rfl) (by decide),
    sum_of (List.mem_of_getElem? (i := 4) rfl) (by decide)⟩

theorem sizes : (fileOf spdxDocument).length = 190 ∧ (fileOf (.object [])).length = 3 ∧
    (fileOf amd64Manifest).length = 403 ∧ (fileOf arm64Manifest).length = 403 ∧
    (fileOf indexDocument).length = 492 := by
  decide +kernel

/-- The texts of a bundle pass the checks of their fields. -/
structure Texts : Prop where
  digests : ∀ digest ∈ [amd64Digest, arm64Digest, spdxSum, emptySum, indexSum], IsDigest digest
  commit : IsCommitName commit
  image : IsImageName "ghcr.io/lamppkk/fireball-session"
  files : ∀ file ∈ ["manifest.json", "sbom.json", "index.json"], IsSafeName file
  repository : IsText 512 isRepository "LamPPKK/fireball-docker".toList
  time : IsText 32 (fun _ => true) "2026-08-21T08:00:00.000Z".toList
  canonical : isCanonical bundleNode.toISOString "2026-08-21T08:00:00.000Z" = true

theorem texts : Texts where
  digests := by
    simp only [List.forall_mem_cons]
    exact ⟨IsText.ofList (by decide), IsText.ofList (by decide),
      IsText.ofList (by decide), IsText.ofList (by decide),
      IsText.ofList (by decide), fun _ mem => nomatch mem⟩
  commit := IsText.ofList (by decide)
  image := IsText.ofList (by decide)
  files := by
    simp only [List.forall_mem_cons]
    exact ⟨IsText.ofList (by decide), IsText.ofList (by decide),
      IsText.ofList (by decide), fun _ mem => nomatch mem⟩
  repository := IsText.ofList (by decide)
  time := IsText.ofList (by decide)
  canonical := by decide

theorem record_valid {platform digest : String} {sbom : FileIdentity}
    (known : platform ∈ platformOrder) (sum : IsDigest digest) (valid : sbom.Valid) :
    (bundleRecord platform digest sbom).Valid where
  image := texts.image
  sourceCommit := texts.commit
  platform := known
  digest := sum
  manifest := ⟨texts.files _ List.mem_cons_self, sum, (by decide : IsPositive 403)⟩
  bound := rfl
  sbom := valid

theorem workflow_valid : Workflow.Valid
    ⟨1234, 2, "https://github.com/LamPPKK/fireball-docker/actions/runs/1234/attempts/2"⟩
    "LamPPKK/fireball-docker" :=
  ⟨by decide, by decide, by decide⟩

theorem evidence_valid {sbom : FileIdentity} {indexSize : Nat} (valid : sbom.Valid)
    (positive : IsPositive indexSize) :
    (bundleEvidence sbom indexSize).Valid bundleNode.toISOString where
  repository := texts.repository
  sourceCommit := texts.commit
  createdAt := ⟨texts.time.1, texts.canonical⟩
  workflow := workflow_valid
  image := {
    name := texts.image
    candidateTag := rfl
    indexDigest := texts.digests _ (by simp [bundleEvidence])
    file := texts.files _ (by simp [bundleEvidence])
    sha256 := rfl
    size := positive
    platforms := by
      rintro record (_ | ⟨_, _ | ⟨_, ⟨⟩⟩⟩)
      · exact record_valid (by decide) (texts.digests _ List.mem_cons_self) valid
      · exact record_valid (by decide) (texts.digests _ (List.mem_cons_of_mem _ List.mem_cons_self)) valid
    order := rfl
    bound := by
      rintro record (_ | ⟨_, _ | ⟨_, ⟨⟩⟩⟩) <;> exact ⟨rfl, rfl⟩
    distinct := by
      have apart : amd64Digest ≠ arm64Digest := by decide
      simpa [bundleEvidence, bundleRecord] using apart }

theorem held_document {files : List (List String × Json)} {path : Path} {document : Json}
    {maximumBytes : Nat} (listed : document ∈ documents)
    (found : lookupEntry (resolve bundleNode.cwd path) files = some document)
    (sized : 0 < (fileOf document).length ∧ (fileOf document).length ≤ maximumBytes) :
    Holds bundleNode (filesOf files) path maximumBytes (fileOf document) document :=
  ⟨stableRead_ok (by rw [filesOf, found]; rfl) sized, parse_document _ listed⟩

theorem index_validates (sbom : FileIdentity) :
    validateIndex (textOfNumber bundleNode) indexDocument
      [bundleRecord "linux/amd64" amd64Digest sbom, bundleRecord "linux/arm64" arm64Digest sbom] =
        .ok () := by
  rfl

theorem evidence_sizes :
    (0 < (fileOf soundEvidence.toJson).length ∧
      (fileOf soundEvidence.toJson).length ≤ maximumEvidenceBytes) ∧
    (0 < (fileOf forgedEvidence.toJson).length ∧
      (fileOf forgedEvidence.toJson).length ≤ maximumEvidenceBytes) ∧
    ∀ record ∈ soundEvidence.image.platforms, 0 < (fileOf record.toJson).length ∧
      (fileOf record.toJson).length ≤ maximumRecordBytes := by
  decide +kernel

/-- The artifacts of a bundle lie in `/w/amd64` and `/w/arm64`. -/
theorem bundle_paths {record : PlatformRecord} {architecture file : String}
    (known : architecture ∈ ["amd64", "arm64"]) (platform : record.platform = "linux/" ++ architecture)
    (named : file ∈ ["manifest.json", "sbom.json"]) :
    platformDirectory bundleNode ["", "w"] record = ["w", architecture] ∧
      resolve bundleNode.cwd (join ["w", architecture] file) = ["w", architecture, file] := by
  have names : ∀ architecture ∈ ["amd64", "arm64"], ∀ file ∈ ["manifest.json", "sbom.json"],
      normalize (resolve bundleNode.cwd ["", "w"])
        (((("linux/" ++ architecture).toList.drop "linux/".length).splitOn '/').map String.ofList) =
          ["w", architecture] ∧
      resolve bundleNode.cwd (join ["w", architecture] file) = ["w", architecture, file] := by
    decide
  rw [platformDirectory, platform]
  exact names architecture known file named

theorem artifact_matches {files : List (List String × Json)} {record : PlatformRecord}
    {architecture : String} {document : Json} {maximumBytes : Nat} {identity : FileIdentity}
    (known : architecture ∈ ["amd64", "arm64"]) (platform : record.platform = "linux/" ++ architecture)
    (named : identity.file ∈ ["manifest.json", "sbom.json"]) (listed : document ∈ documents)
    (found : lookupEntry ["w", architecture, identity.file] files = some document)
    (size : (fileOf document).length = identity.size)
    (sized : 0 < identity.size ∧ identity.size ≤ maximumBytes)
    (sum : sha256 bundleNode (fileOf document) = identity.sha256) :
    Matches bundleNode (filesOf files)
      (join (platformDirectory bundleNode ["", "w"] record) identity.file) maximumBytes identity
      (fileOf document) := by
  obtain ⟨directory, resolved⟩ := bundle_paths known platform named
  rw [← resolved] at found
  rw [directory]
  exact ⟨(held_document listed found (by rwa [size])).1, size, sum⟩

section
variable {sbom : Json} {identity : FileIdentity} {indexSize : Nat} (listed : sbom ∈ documents)
  (file : identity.file = "sbom.json") (valid : identity.Valid) (positive : IsPositive indexSize)
  (size : (fileOf sbom).length = identity.size) (small : identity.size ≤ maximumSbomBytes)
  (sum : sha256 bundleNode (fileOf sbom) = identity.sha256)
include listed file valid size small sum

theorem bundle_artifacts : ∀ record ∈ (bundleEvidence identity indexSize).image.platforms,
    (∃ bytes, Matches bundleNode (filesOf (bundleFiles sbom (bundleEvidence identity indexSize)))
      (manifestPath bundleNode ["", "w"] record) maximumManifestBytes record.manifest bytes) ∧
    Matches bundleNode (filesOf (bundleFiles sbom (bundleEvidence identity indexSize)))
      (sbomPath bundleNode ["", "w"] record) maximumSbomBytes record.sbom (fileOf sbom) := by
  obtain ⟨name, checksum, length⟩ := identity
  dsimp only at file
  subst file
  have sized : 0 < length ∧ length ≤ maximumSbomBytes := ⟨valid.size.1, small⟩
  have platforms : ("linux/amd64" : String) = "linux/" ++ "amd64" ∧
      ("linux/arm64" : String) = "linux/" ++ "arm64" := by decide
  have manifest : 0 < 403 ∧ 403 ≤ maximumManifestBytes := by decide
  have lookup : ∀ architecture ∈ ["amd64", "arm64"],
      lookupEntry ["w", architecture, "sbom.json"] (bundleFiles sbom
        (bundleEvidence ⟨"sbom.json", checksum, length⟩ indexSize)) = some sbom := by
    simp [bundleFiles, lookupEntry]
  have second : "sbom.json" ∈ ["manifest.json", "sbom.json"] := by decide
  rintro record (_ | ⟨_, _ | ⟨_, ⟨⟩⟩⟩)
  · exact ⟨⟨_, artifact_matches (by decide) platforms.1 List.mem_cons_self (by simp [documents])
        (by simp [bundleFiles, lookupEntry, bundleRecord]) sizes.2.2.1 manifest
        bundle_sums.2.2.1⟩,
      artifact_matches (by decide) platforms.1 second listed (lookup _ (by decide)) size sized sum⟩
  · exact ⟨⟨_, artifact_matches (by decide) platforms.2 List.mem_cons_self (by simp [documents])
        (by simp [bundleFiles, lookupEntry, bundleRecord]) sizes.2.2.2.1 manifest
        bundle_sums.2.2.2.1⟩,
      artifact_matches (by decide) platforms.2 second listed (lookup _ (by decide)) size sized sum⟩

include positive

theorem bundle_holds :
    Bundle bundleNode (filesOf (bundleFiles sbom (bundleEvidence identity indexSize)))
      ["", "w", "index.json"] ["", "w"] (bundleEvidence identity indexSize) (fileOf indexDocument)
      indexDocument where
  valid := evidence_valid valid positive
  held := held_document (by simp [documents]) rfl (by rw [sizes.2.2.2.2]; decide)
  digest := bundle_sums.2.2.2.2
  indexed := index_validates identity
  artifacts record mem := by
    obtain ⟨manifest, sboms⟩ := bundle_artifacts listed file valid size small sum record mem
    exact ⟨manifest, _, sboms⟩

theorem bundle_accepted
    (known : (bundleEvidence identity indexSize).toJson ∈ documents)
    (sized : 0 < (fileOf (bundleEvidence identity indexSize).toJson).length ∧
      (fileOf (bundleEvidence identity indexSize).toJson).length ≤ maximumEvidenceBytes) :
    validateEvidenceFiles bundleNode
      (filesOf (bundleFiles sbom (bundleEvidence identity indexSize)))
      ["", "w", "evidence.json"] ["", "w", "index.json"] ["", "w"] =
        .ok (bundleEvidence identity indexSize) := by
  refine validateEvidenceFiles_accepts (held_document known rfl sized)
    (bundle_holds listed file valid positive size small sum) ?_
  have platforms : ("linux/amd64" : String) = "linux/" ++ "amd64" ∧
      ("linux/arm64" : String) = "linux/" ++ "arm64" := by decide
  have files : ∀ name ∈ ["manifest.json", identity.file], name ∈ ["manifest.json", "sbom.json"] := by
    rw [file]
    exact fun name => id
  have inside : ∀ record : PlatformRecord, ∀ architecture ∈ ["amd64", "arm64"],
      record.platform = "linux/" ++ architecture → ∀ name ∈ ["manifest.json", "sbom.json"],
      (resolve bundleNode.cwd (join (platformDirectory bundleNode ["", "w"] record) name)).dropLast =
        platformDirectory bundleNode ["", "w"] record := by
    intro record architecture known platform name named
    obtain ⟨directory, resolved⟩ := bundle_paths known platform named
    rw [directory, resolved]
    rfl
  rintro record (_ | ⟨_, _ | ⟨_, ⟨⟩⟩⟩) artifact mem
  · refine inside _ "amd64" (by decide) platforms.1 _ (files _ ?_)
    simpa [bundleRecord] using List.mem_map_of_mem (f := FileIdentity.file) mem
  · refine inside _ "arm64" (by decide) platforms.2 _ (files _ ?_)
    simpa [bundleRecord] using List.mem_map_of_mem (f := FileIdentity.file) mem

end

theorem sound_accepted :
    validateEvidenceFiles bundleNode (filesOf (bundleFiles spdxDocument soundEvidence))
      ["", "w", "evidence.json"] ["", "w", "index.json"] ["", "w"] = .ok soundEvidence :=
  bundle_accepted (by simp [documents]) rfl
    ⟨texts.files _ (by simp), texts.digests _ (by simp), by decide⟩ (by decide) sizes.1 (by decide)
    bundle_sums.1 (by simp [documents, soundEvidence]) evidence_sizes.1

theorem sound_records :
    RecordFiles bundleNode (filesOf (bundleFiles spdxDocument soundEvidence))
      (filesOf (bundleFiles spdxDocument soundEvidence ++ recordFiles))
      [["", "w", "amd64", "record.json"], ["", "w", "arm64", "record.json"]]
      soundEvidence.image.platforms where
  kept names entry found := by
    obtain ⟨document, listed, rfl⟩ := Option.map_eq_some_iff.mp found
    rw [filesOf, lookupEntry_append listed]
    rfl
  stored := by
    have listed : ∀ record ∈ soundEvidence.image.platforms, record.toJson ∈ documents :=
      fun record mem => List.mem_append_right _ (List.mem_map_of_mem mem)
    have sizes := evidence_sizes.2.2
    have first := List.mem_cons_self (a := bundleRecord "linux/amd64" amd64Digest
      ⟨"sbom.json", spdxSum, 190⟩) (l := soundEvidence.image.platforms.tail)
    have second := List.mem_cons_of_mem (bundleRecord "linux/amd64" amd64Digest
      ⟨"sbom.json", spdxSum, 190⟩) (List.mem_cons_self (a := bundleRecord "linux/arm64" arm64Digest
        ⟨"sbom.json", spdxSum, 190⟩) (l := []))
    refine ⟨_, List.Perm.refl _, .cons ⟨_, held_document (listed _ first) ?_ (sizes _ first)⟩
      (.cons ⟨_, held_document (listed _ second) ?_ (sizes _ second)⟩ .nil)⟩ <;>
    simp [resolve, normalize, bundleFiles, recordFiles, lookupEntry]

theorem recreates_iff_sound :
    Recreates bundleNode (filesOf (bundleFiles spdxDocument soundEvidence))
        (filesOf (bundleFiles spdxDocument soundEvidence ++ recordFiles)) soundEvidence
        ["", "w", "index.json"] ["", "w"]
        [["", "w", "amd64", "record.json"], ["", "w", "arm64", "record.json"]] ↔
      Recreatable bundleNode (filesOf (bundleFiles spdxDocument soundEvidence)) soundEvidence
        ["", "w", "index.json"] ["", "w"] :=
  recreates_iff sound_accepted sound_records

theorem forged_recreation_fails :
    validateEvidenceFiles bundleNode (filesOf (bundleFiles (.object []) forgedEvidence))
      ["", "w", "evidence.json"] ["", "w", "index.json"] ["", "w"] = .ok forgedEvidence ∧
    (∀ record ∈ forgedEvidence.image.platforms, ∀ again,
      createPlatformRecord bundleNode (filesOf (bundleFiles (.object []) forgedEvidence))
        (recordArguments bundleNode ["", "w"] record) ≠ .ok again) ∧
    forgedEvidence.image.index.size = 1 ∧
    ∃ index, stableRead bundleNode (filesOf (bundleFiles (.object []) forgedEvidence))
      ["", "w", "index.json"] maximumIndexBytes = .ok index ∧ index.length = 492 := by
  have valid : FileIdentity.Valid ⟨"sbom.json", emptySum, 3⟩ :=
    ⟨texts.files _ (by simp), texts.digests _ (by simp), by decide⟩
  have bundle : Bundle bundleNode (filesOf (bundleFiles (.object []) forgedEvidence))
      ["", "w", "index.json"] ["", "w"] forgedEvidence (fileOf indexDocument) indexDocument :=
    bundle_holds (by simp [documents]) rfl valid (by decide) sizes.2.1 (by decide) bundle_sums.2.1
  refine ⟨?_, fun record mem again ok => ?_, rfl, _, bundle.held.1, sizes.2.2.2.2⟩
  · exact bundle_accepted (by simp [documents]) rfl valid (by decide) sizes.2.1 (by decide)
      bundle_sums.2.1 (by simp [documents, forgedEvidence]) evidence_sizes.2.1
  · obtain ⟨bytes, document, held, shaped⟩ := (created_documents ok).sbom
    have read := (bundle_artifacts (by simp [documents]) rfl valid sizes.2.1 (by decide)
      bundle_sums.2.1 record mem).2.1
    have same : bytes = fileOf (.object []) := Except.ok.inj (held.1.symm.trans read)
    have parsed := parse_document (.object []) (by simp [documents])
    rw [same] at held
    cases Option.some.inj (held.2.symm.trans parsed)
    cases shaped

end Fireball.Evidence
