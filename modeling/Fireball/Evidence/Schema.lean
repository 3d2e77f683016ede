import Fireball.Evidence.Recreation
import Fireball.Foundation.Bytes
import Fireball.Foundation.JsonSchema

/-!
# The published form of the evidence

`schemas/session-candidate-evidence-v1.schema.json`, beside the validators of
`session-candidate-evidence.mjs`. The formats of the schema validator are parameters.

* `platformRecord_valid`, `image_valid`: what the validators accept is valid;
* `workflow_valid_iff`, `evidence_valid_iff`: the evidence is, but for a year or a URL that
  the schema bounds and the validator does not.
-/

namespace Fireball.Evidence

open Foundation

/-! ## The schema -/

/-- The formats `date-time` and `uri` of the schema validator. -/
structure EvidenceFormats where
  dateTime : String → Bool
  uri : String → Bool

def commitSchema : Schema := .allOf [.isString, .pattern fun text => isCommit text.toList]

def digestSchema : Schema := .allOf [.isString, .pattern fun text => isSha256 text.toList]

def imageNameSchema : Schema := .allOf [.isString, .pattern fun text => isImage text.toList]

def fileIdentitySchema : Schema :=
  .allOf [.isObject, .required ["file", "sha256", "size"], .properties [
    ("file", .allOf [.isString, .pattern fun text => isSafeFile text.toList]),
    ("sha256", digestSchema),
    ("size", .allOf [.isInteger, .minimum 1])]]

def platformRecordSchema : Schema :=
  .allOf [.isObject,
    .required ["schema_version", "image", "source_commit", "platform", "digest", "manifest", "sbom"], .properties [
      ("schema_version", .const (.number 1)),
      ("image", imageNameSchema),
      ("source_commit", commitSchema),
      ("platform", .enum (["linux/amd64", "linux/arm64"].map Json.string)),
      ("digest", digestSchema),
      ("manifest", fileIdentitySchema),
      ("sbom", fileIdentitySchema)]]

def workflowSchema (formats : EvidenceFormats) : Schema :=
  .allOf [.isObject, .required ["name", "run_id", "run_attempt", "url"], .properties [
    ("name", .const (.string "session-candidate")),
    ("run_id", .allOf [.isInteger, .minimum 1]),
    ("run_attempt", .allOf [.isInteger, .minimum 1]),
    ("url", .allOf [.isString, .pattern formats.uri, .maxLength 512])]]

/-- `^candidate-[0-9a-f]{40}$`. -/
def isCandidateTag (text : List Char) : Bool :=
  match afterStart "candidate-".toList text with
  | some commit => isCommit commit
  | none => false

def imageSchema : Schema :=
  .allOf [.isObject, .required ["name", "candidate_tag", "index_digest", "index", "platforms"], .properties [
    ("name", imageNameSchema),
    ("candidate_tag", .allOf [.isString, .pattern fun text => isCandidateTag text.toList]),
    ("index_digest", digestSchema),
    ("index", fileIdentitySchema),
    ("platforms", .allOf [.isArray, .minItems 2, .maxItems 2, .items platformRecordSchema])]]

def evidenceSchema (formats : EvidenceFormats) : Schema :=
  .allOf [.isObject, .required ["schema_version", "release_status", "repository", "source_commit", "created_at",
      "workflow", "image"], .properties [
    ("schema_version", .const (.number 1)),
    ("release_status", .const (.string "candidate")),
    ("repository", .allOf [.isString, .pattern fun text => isRepository text.toList]),
    ("source_commit", commitSchema),
    ("created_at", .allOf [.isString, .pattern formats.dateTime]),
    ("workflow", workflowSchema formats),
    ("image", imageSchema)]]

/-! ## Formats -/

/-- The text begins with a year of four digits. -/
def hasFourDigitYear (text : String) : Bool :=
  match text.toList with
  | a :: b :: c :: d :: '-' :: _ => [a, b, c, d].all Char.isDigit
  | _ => false

/-- RFC 3339 has four-digit years, and a canonical time in such a year is one of its times. -/
structure DateTimes (toISOString : String → Option String) (isDateTime : String → Bool) : Prop where
  year : ∀ text, isDateTime text = true → hasFourDigitYear text = true
  canonical : ∀ text, isCanonical toISOString text = true → hasFourDigitYear text = true → isDateTime text = true

/-- `[A-Za-z0-9_.-]`, and the slash between its parts. -/
def isUrlCharacter (c : Char) : Bool := isNameCharacter c || c.isUpper || c = '/'

/-- An `https` URL of these characters is a URI. -/
structure Uris (isUri : String → Bool) : Prop where
  https : ∀ rest, rest ≠ "" → (∀ c ∈ rest.toList, isUrlCharacter c = true) → isUri ("https://" ++ rest) = true

/-! ## Parts -/

theorem identity_valid {fields : List (String × Json)} {file sum : String} {size : Nat}
    (keys : (fields.map Prod.fst).insertionSort (· ≤ ·) = ["file", "sha256", "size"].insertionSort (· ≤ ·))
    (fileField : Json.field fields "file" = some (.string file)) (safe : isSafeFile file.toList = true)
    (sumField : Json.field fields "sha256" = some (.string sum)) (digest : isSha256 sum.toList = true)
    (sizeField : Json.field fields "size" = some (.number size)) (positive : IsPositive size) :
    fileIdentitySchema (.object fields) := by
  refine (Schema.object_each (by rfl) (by simp) (sorted_keys keys)).mpr ?_
  simp only [List.forall_mem_cons, List.not_mem_nil, false_imp_iff, implies_true, and_true, fileField, sumField,
    sizeField, Option.some.injEq, forall_eq']
  exact ⟨Schema.text_iff.mpr safe, Schema.text_iff.mpr digest, Schema.integer_of_le positive.1⟩

theorem platformRecord_valid {document : Json} {record : PlatformRecord}
    (ok : validatePlatformRecord document = .ok record) : platformRecordSchema document := by
  simp only [validatePlatformRecord, bind_ok, exactKeys_ok, check_ok, isInteger_iff, isText_iff,
    nonEmptyString_ok, platformParts_ok, digest_ok, positiveInteger_ok, Except.ok.injEq, Option.some.injEq] at ok
  obtain ⟨fields, ⟨rfl, keys⟩, _, version, image, ⟨imageField, _⟩, _, canonical, commit, ⟨commitField, _⟩, _, hex,
    platform, ⟨platformField, known⟩, digest, ⟨digestField, digested⟩, manifest, ⟨manifestField, manifestKeys⟩, file,
    ⟨fileField, _⟩, _, safe, _, sumField, size, ⟨sizeField, positive⟩, sbom, ⟨sbomField, sbomKeys⟩, sbomFile,
    ⟨sbomFileField, _⟩, _, sbomSafe, sbomSum, ⟨sbomSumField, sbomDigested⟩, sbomSize, ⟨sbomSizeField, sbomPositive⟩,
    -⟩ := ok
  refine (Schema.object_each (by rfl) (by simp) (sorted_keys keys)).mpr ?_
  simp only [List.forall_mem_cons, List.not_mem_nil, false_imp_iff, implies_true, and_true, version, imageField,
    commitField, platformField, digestField, manifestField, sbomField, Option.some.injEq, forall_eq']
  exact ⟨Json.deepEqual_number.mpr rfl, Schema.text_iff.mpr canonical, Schema.text_iff.mpr hex,
    Schema.enum_strings.mpr ⟨platform, known, rfl⟩, Schema.text_iff.mpr digested.2,
    identity_valid manifestKeys fileField safe sumField digested.2 sizeField positive,
    identity_valid sbomKeys sbomFileField sbomSafe sbomSumField sbomDigested.2 sbomSizeField sbomPositive⟩

theorem candidateTag_valid {commit : String} (hex : isCommit commit.toList = true) :
    isCandidateTag ("candidate-" ++ commit).toList = true := by
  have rest : afterStart "candidate-".toList ("candidate-" ++ commit).toList = some commit.toList := by
    rw [String.toList_append, afterStart, if_pos (List.isPrefixOf_iff_prefix.mpr (List.prefix_append _ _))]
    exact congrArg some (List.drop_left)
  rw [isCandidateTag, rest]
  exact hex

theorem platforms_valid {documents : List Json} (two : documents.length = 2)
    (each : ∀ document ∈ documents, platformRecordSchema document) :
    Schema.allOf [.isArray, .minItems 2, .maxItems 2, .items platformRecordSchema] (.array documents) := by
  simp only [Schema.allOf_cons, Schema.allOf_nil, and_true]
  refine ⟨⟨documents, rfl⟩, ?_, ?_, ?_⟩ <;> rintro _ ⟨⟩
  · omega
  · omega
  · exact each

theorem image_valid {value : Json} {sourceCommit : String} {image : CandidateImage}
    (hex : isCommit sourceCommit.toList = true)
    (ok : validateCandidateImage (some value) sourceCommit = .ok image) : imageSchema value := by
  simp only [validateCandidateImage, bind_ok, exactKeys_ok, check_ok, isText_iff,
    nonEmptyString_ok, digest_ok, positiveInteger_ok, exactlyTwo_ok, forM_ok, mapM_ok,
    Except.ok.injEq, decide_eq_true_eq, Option.some.injEq] at ok
  obtain ⟨fields, ⟨rfl, keys⟩, name, ⟨nameField, _⟩, _, canonical, _, tagField, digest, ⟨digestField, digested⟩, index,
    ⟨indexField, indexKeys⟩, file, ⟨fileField, _⟩, _, safe, _, sumField, size, ⟨sizeField, positive⟩, documents,
    ⟨platformsField, two⟩, platforms, read, -⟩ := ok
  have each : ∀ document ∈ documents, platformRecordSchema document := by
    intro document mem
    obtain ⟨i, inside, rfl⟩ := List.getElem_of_mem mem
    exact platformRecord_valid (read.get inside (read.length_eq ▸ inside))
  refine (Schema.object_each (by rfl) (by simp) (sorted_keys keys)).mpr ?_
  simp only [List.forall_mem_cons, List.not_mem_nil, false_imp_iff, implies_true, and_true, nameField, tagField,
    digestField, indexField, platformsField, Option.some.injEq, forall_eq']
  exact ⟨Schema.text_iff.mpr canonical, Schema.text_iff.mpr (candidateTag_valid hex), Schema.text_iff.mpr digested.2,
    identity_valid indexKeys fileField safe sumField digested.2 sizeField positive, platforms_valid two each⟩

/-! ## The workflow URL -/

theorem repository_characters {text : List Char} (named : isRepository text = true) :
    ∀ c ∈ text, isUrlCharacter c = true := by
  intro c mem
  unfold isRepository at named
  split at named
  · rename_i owner name parts
    simp only [List.all_cons, List.all_nil, Bool.and_true, Bool.and_eq_true, List.all_eq_true] at named
    rcases mem_splitOn '/' mem with rfl | ⟨part, listed, mem⟩
    · decide
    · rw [parts] at listed
      have characters : ∀ c ∈ part, (isNameCharacter c || c.isUpper) = true := by
        rcases List.mem_pair.mp listed with rfl | rfl
        · exact named.1.2
        · exact named.2.2
      rw [isUrlCharacter, characters c mem, Bool.true_or]
  · cases named

theorem workflowUrl_https (repository runId runAttempt : String) : workflowUrl repository runId runAttempt =
    "https://" ++ ("github.com/" ++ repository ++ "/actions/runs/" ++ runId ++ "/attempts/" ++ runAttempt) := by
  have literal : "https://github.com/" = "https://" ++ "github.com/" := by simp
  unfold workflowUrl
  rw [literal]
  simp only [String.append_assoc]

theorem workflowUrl_uri {isUri : String → Bool} (uris : Uris isUri) {repository : String} {runId runAttempt : Nat}
    (named : isRepository repository.toList = true) :
    isUri (workflowUrl repository (toString runId) (toString runAttempt)) = true := by
  have host : ∀ c ∈ "github.com/".toList, isUrlCharacter c = true := forall_mem_chars (by decide)
  have runs : ∀ c ∈ "/actions/runs/".toList, isUrlCharacter c = true := forall_mem_chars (by decide)
  have attempts : ∀ c ∈ "/attempts/".toList, isUrlCharacter c = true := forall_mem_chars (by decide)
  have digits : ∀ n : Nat, ∀ c ∈ (toString n).toList, isUrlCharacter c = true := by
    intro n c mem
    rw [Nat.toString_eq_ofList_toDigits, String.toList_ofList] at mem
    have digit := Nat.isDigit_of_mem_toDigits (by decide) (by decide) mem
    simp [isUrlCharacter, isNameCharacter, isLowerAlphanumeric, digit]
  rw [workflowUrl_https]
  refine uris.https _ ?_ ?_
  · simp only [ne_eq, String.append_eq_empty_iff, not_and]
    exact fun all => absurd all.1.1.1.1 (by simp)
  · intro c mem
    simp only [String.toList_append, List.mem_append] at mem
    rcases mem with ((((mem | mem) | mem) | mem) | mem) | mem
    · exact host c mem
    · exact repository_characters named c mem
    · exact runs c mem
    · exact digits runId c mem
    · exact attempts c mem
    · exact digits runAttempt c mem

theorem workflow_valid_iff {formats : EvidenceFormats} (uris : Uris formats.uri) {value : Json}
    {repository sourceCommit : String} {workflow : Workflow} (named : isRepository repository.toList = true)
    (ok : validateWorkflow (some value) repository sourceCommit = .ok workflow) :
    ∃ url, Json.member (some value) "url" = some (.string url) ∧
      (workflowSchema formats value ↔ url.toList.length ≤ 512) := by
  simp only [validateWorkflow, bind_ok, exactKeys_ok, check_ok, isText_iff, positiveInteger_ok,
    Except.ok.injEq, Option.some.injEq] at ok
  obtain ⟨fields, ⟨rfl, keys⟩, _, nameField, runId, ⟨idField, id_positive⟩, runAttempt,
    ⟨attemptField, attempt_positive⟩, _, urlField, -⟩ := ok
  refine ⟨_, Json.member_eq_some.mpr ⟨fields, rfl, urlField⟩, ?_⟩
  rw [workflowSchema, Schema.object_each (by rfl) (by simp) (sorted_keys keys)]
  simp only [List.forall_mem_cons, List.not_mem_nil, false_imp_iff, implies_true, and_true, nameField, idField,
    attemptField, urlField, Option.some.injEq, forall_eq', Schema.allOf_cons, Schema.allOf_nil, Schema.isString,
    Schema.pattern, Schema.maxLength, Json.string.injEq, exists_eq', true_and]
  constructor
  · exact fun valid => valid.2.2.2.2
  · intro short
    have id := Schema.integer_of_le id_positive.1
    have attempt := Schema.integer_of_le attempt_positive.1
    simp only [Schema.allOf_cons, Schema.allOf_nil, and_true] at id attempt
    exact ⟨Json.deepEqual_string.mpr rfl, id, attempt, workflowUrl_uri uris named, short⟩

/-- **The evidence** that the validator accepts is valid under the schema exactly when it was
created in a year of four digits and the URL of its workflow is not too long. -/
theorem evidence_valid_iff {formats : EvidenceFormats} {toISOString : String → Option String}
    (dates : DateTimes toISOString formats.dateTime) (uris : Uris formats.uri) {document : Json}
    {evidence : CandidateEvidence} (ok : validateCandidateEvidence toISOString document = .ok evidence) :
    ∃ createdAt url, Json.member (some document) "created_at" = some (.string createdAt) ∧
      Json.member (Json.member (some document) "workflow") "url" = some (.string url) ∧
      (evidenceSchema formats document ↔ hasFourDigitYear createdAt = true ∧ url.toList.length ≤ 512) := by
  simp only [validateCandidateEvidence, bind_ok, exactKeys_ok, check_ok, checkCreatedAt_ok, isInteger_iff,
    isText_iff, nonEmptyString_ok, Except.ok.injEq, Option.some.injEq] at ok
  obtain ⟨fields, ⟨rfl, keys⟩, _, version, _, status, repository, ⟨repositoryField, _⟩, _, named, commit,
    ⟨commitField, _⟩, _, hex, createdAt, ⟨createdField, _⟩, _, date, workflow, workflow_ok, image, image_ok, -⟩ := ok
  obtain ⟨workflowValue, workflowField⟩ : ∃ value, Json.field fields "workflow" = some value :=
    Option.isSome_iff_exists.mp ((sorted_keys keys _).mpr (by simp))
  obtain ⟨imageValue, imageField⟩ : ∃ value, Json.field fields "image" = some value :=
    Option.isSome_iff_exists.mp ((sorted_keys keys _).mpr (by simp))
  rw [workflowField] at workflow_ok
  rw [imageField] at image_ok
  obtain ⟨url, urlField, bounded⟩ := workflow_valid_iff uris named workflow_ok
  refine ⟨createdAt, url, Json.member_eq_some.mpr ⟨fields, rfl, createdField⟩, ?_, ?_⟩
  · have inner : Json.member (some (.object fields)) "workflow" = some workflowValue :=
      Json.member_eq_some.mpr ⟨fields, rfl, workflowField⟩
    rw [inner, urlField]
  · rw [evidenceSchema, Schema.object_each (by rfl) (by simp) (sorted_keys keys)]
    simp only [List.forall_mem_cons, List.not_mem_nil, false_imp_iff, implies_true, and_true, version, status,
      repositoryField, commitField, createdField, workflowField, imageField, Option.some.injEq, forall_eq',
      Schema.text_iff, bounded]
    constructor
    · exact fun valid => ⟨dates.year createdAt valid.2.2.2.2.1, valid.2.2.2.2.2.1⟩
    · rintro ⟨year, short⟩
      exact ⟨Json.deepEqual_number.mpr rfl, Json.deepEqual_string.mpr rfl, named, Schema.text_iff.mpr hex,
        dates.canonical createdAt date year, short, image_valid hex image_ok⟩

/-! ## Two documents -/

/-- A year of four digits, and one that `toISOString` writes with a sign and six digits. -/
def sampleTimes (text : String) : Option String :=
  ["2026-08-21T08:00:00.000Z", "+010000-01-01T00:00:00.000Z"].find? (· = text)

def sampleEvidence (createdAt : String) : CandidateEvidence := { soundEvidence with createdAt }

def sampleEvidenceFormats : EvidenceFormats where
  dateTime := hasFourDigitYear
  uri text := (afterStart "https://".toList text.toList).isSome

theorem sampleEvidence_accepted {createdAt : String}
    (sized : IsText 32 (fun _ => isCanonical sampleTimes createdAt) createdAt.toList) :
    validateCandidateEvidence sampleTimes (sampleEvidence createdAt).toJson = .ok (sampleEvidence createdAt) := by
  have valid : soundEvidence.Valid bundleNode.toISOString :=
    evidence_valid ⟨texts.files _ (by simp), texts.digests _ (by simp), by decide⟩ (by decide)
  exact validateCandidateEvidence_toJson
    ⟨valid.repository, valid.sourceCommit, sized, valid.workflow, valid.image⟩

theorem sampleFormats_times : DateTimes sampleTimes sampleEvidenceFormats.dateTime where
  year _ h := h
  canonical _ _ h := h

theorem sampleFormats_uris : Uris sampleEvidenceFormats.uri where
  https rest _ _ := by
    change (afterStart "https://".toList ("https://" ++ rest).toList).isSome = true
    rw [String.toList_append, afterStart, if_pos (List.isPrefixOf_iff_prefix.mpr (List.prefix_append _ _))]
    rfl

theorem evidence_valid_sample :
    evidenceSchema sampleEvidenceFormats (sampleEvidence "2026-08-21T08:00:00.000Z").toJson := by
  have accepted := sampleEvidence_accepted (by decide : IsText 32 (fun _ => isCanonical sampleTimes
    "2026-08-21T08:00:00.000Z") "2026-08-21T08:00:00.000Z".toList)
  obtain ⟨createdAt, url, created, located, valid⟩ :=
    evidence_valid_iff sampleFormats_times sampleFormats_uris accepted
  cases created
  cases located
  exact valid.mpr (by decide)

/-- The schema rejects an accepted document of the year 10000. -/
theorem expanded_year_rejected :
    DateTimes sampleTimes sampleEvidenceFormats.dateTime ∧ Uris sampleEvidenceFormats.uri ∧
      validateCandidateEvidence sampleTimes (sampleEvidence "+010000-01-01T00:00:00.000Z").toJson =
        .ok (sampleEvidence "+010000-01-01T00:00:00.000Z") ∧
      ¬ evidenceSchema sampleEvidenceFormats (sampleEvidence "+010000-01-01T00:00:00.000Z").toJson := by
  have accepted := sampleEvidence_accepted (by decide : IsText 32 (fun _ => isCanonical sampleTimes
    "+010000-01-01T00:00:00.000Z") "+010000-01-01T00:00:00.000Z".toList)
  refine ⟨sampleFormats_times, sampleFormats_uris, accepted, fun valid => ?_⟩
  simp only [evidenceSchema, Schema.allOf_cons] at valid
  obtain ⟨schema, found, created⟩ := valid.2.2.1 _ rfl "created_at" _ rfl
  cases found
  exact absurd (Schema.text_iff.mp created) (by decide)

end Fireball.Evidence
