import Fireball.Evidence.Documents

/-!
# Accepted records

What the values are that the validators return, and that each of them is the only
reading of the document it is written as.

* `validatePlatformRecord_ok`, `validatePlatformRecord_toJson`: platform records;
* `validateCandidateEvidence_ok`, `validateCandidateEvidence_toJson`: the evidence.
-/

namespace Fireball.Evidence

open Foundation

/-! ## Fields -/

theorem exactKeys_ok {value : Option Json} {expected : List String} {label : String}
    {fields : List (String × Json)} :
    exactKeys value expected label = .ok fields ↔
      value = some (.object fields) ∧
        (fields.map Prod.fst).insertionSort (· ≤ ·) = expected.insertionSort (· ≤ ·) := by
  unfold exactKeys
  split
  · simp only [bind_ok, check_ok, decide_eq_true_eq, Except.ok.injEq, Option.some.injEq,
      Json.object.injEq]
    constructor
    · rintro ⟨-, keys, rfl⟩
      exact ⟨rfl, keys⟩
    · rintro ⟨rfl, keys⟩
      exact ⟨(), keys, rfl⟩
  · next other => simpa using fun same => absurd same (other _)

/-- A text that `nonEmptyString` returns and that has the given form. -/
def IsText (max : Nat) (form : List Char → Bool) (text : List Char) : Prop :=
  (isSized text max = true ∧ text.any isControl = false) ∧ form text = true

instance (max : Nat) (form : List Char → Bool) (text : List Char) :
    Decidable (IsText max form text) :=
  inferInstanceAs (Decidable ((_ ∧ _) ∧ _))

theorem IsText.ofList {max : Nat} {form : List Char → Bool} {text : List Char}
    (h : IsText max form text) : IsText max form (String.ofList text).toList := by
  rwa [String.toList_ofList]

theorem nonEmptyString_ok {value : Option Json} {label text : String} {max : Nat} :
    nonEmptyString value label max = .ok text ↔
      value = some (.string text) ∧
        isSized text.toList max = true ∧ text.toList.any isControl = false := by
  unfold nonEmptyString
  split
  · simp only [bind_ok, check_ok, Except.ok.injEq, Option.some.injEq, Json.string.injEq,
      Bool.not_eq_true']
    constructor
    · rintro ⟨-, sized, -, clean, rfl⟩
      exact ⟨rfl, sized, clean⟩
    · rintro ⟨rfl, sized, clean⟩
      exact ⟨(), sized, (), clean, rfl⟩
  · next other => simpa using fun same => absurd same (other _)

/-- A number of `positiveInteger`. -/
abbrev IsPositive (n : Nat) : Prop := 0 < n ∧ n ≤ maximumSafeInteger

theorem positiveInteger_ok {value : Option Json} {label : String} {n : Nat} :
    positiveInteger value label = .ok n ↔ value = some (.number n) ∧ IsPositive n := by
  unfold positiveInteger
  split
  · next q =>
    simp only [bind_ok, check_ok, Except.ok.injEq, Option.some.injEq, Json.number.injEq,
      Bool.and_eq_true, decide_eq_true_eq]
    constructor
    · rintro ⟨-, ⟨⟨whole, positive⟩, small⟩, rfl⟩
      have size : (q.num.toNat : Int) = q.num := Int.toNat_of_nonneg (Int.le_of_lt positive)
      refine ⟨Rat.ext ?_ ?_, by omega, by omega⟩
      · rw [Rat.num_natCast, size]
      · rw [Rat.den_natCast, whole]
    · rintro ⟨rfl, positive, small⟩
      refine ⟨(), ⟨⟨?_, ?_⟩, ?_⟩, ?_⟩ <;> simp <;> omega
  · next other => simpa using fun same => absurd same (other _)

abbrev IsDigest (text : String) : Prop := IsText 71 isSha256 text.toList

theorem digest_ok {value : Option Json} {label text : String} :
    digest value label = .ok text ↔ value = some (.string text) ∧ IsDigest text := by
  simp only [digest, bind_ok, nonEmptyString_ok, check_ok, Except.ok.injEq, IsDigest, IsText]
  constructor
  · rintro ⟨_, ⟨value, plain⟩, -, sha, rfl⟩
    exact ⟨value, plain, sha⟩
  · rintro ⟨value, plain, sha⟩
    exact ⟨text, ⟨value, plain⟩, (), sha, rfl⟩

theorem platformParts_ok {value : Option Json} {platform : String} :
    platformParts value = .ok platform ↔
      value = some (.string platform) ∧ platform ∈ platformOrder := by
  unfold platformParts
  split
  · simp only [bind_ok, check_ok, Except.ok.injEq, Option.some.injEq, Json.string.injEq,
      List.contains_iff_mem]
    constructor
    · rintro ⟨-, known, rfl⟩
      exact ⟨rfl, known⟩
    · rintro ⟨rfl, known⟩
      exact ⟨(), known, rfl⟩
  · next other => simpa using fun same => absurd same (other _)

theorem exactlyTwo_ok {value : Option Json} {message : String} {documents : List Json} :
    exactlyTwo value message = .ok documents ↔
      value = some (.array documents) ∧ documents.length = 2 := by
  unfold exactlyTwo
  split
  · next first second =>
    simp only [Except.ok.injEq, Option.some.injEq, Json.array.injEq]
    constructor
    · rintro rfl
      exact ⟨rfl, rfl⟩
    · exact fun both => both.1
  · next other =>
    simp only [reduceCtorEq, false_iff, not_and]
    rintro rfl two
    obtain ⟨first, second, rfl⟩ := List.length_eq_two.mp two
    exact other first second rfl

/-! ## Platform records -/

abbrev IsSafeName (file : String) : Prop := IsText 128 isSafeFile file.toList

structure FileIdentity.Valid (identity : FileIdentity) : Prop where
  file : IsSafeName identity.file
  sha256 : IsDigest identity.sha256
  size : IsPositive identity.size

abbrev IsImageName (name : String) : Prop := IsText 512 isImage name.toList

abbrev IsCommitName (commit : String) : Prop := IsText 40 isCommit commit.toList

structure PlatformRecord.Valid (record : PlatformRecord) : Prop where
  image : IsImageName record.image
  sourceCommit : IsCommitName record.sourceCommit
  platform : record.platform ∈ platformOrder
  digest : IsDigest record.digest
  manifest : record.manifest.Valid
  bound : record.manifest.sha256 = record.digest
  sbom : record.sbom.Valid

theorem validatePlatformRecord_ok {document : Json} {record : PlatformRecord}
    (ok : validatePlatformRecord document = .ok record) : record.Valid := by
  simp only [validatePlatformRecord, bind_ok, exactKeys_ok, check_ok, isInteger_iff, isText_iff,
    nonEmptyString_ok, platformParts_ok, digest_ok, positiveInteger_ok, Except.ok.injEq] at ok
  obtain ⟨_, _, _, _, image, ⟨_, plain_image⟩, _, canonical, commit, ⟨_, plain_commit⟩, _, hex,
    platform, ⟨_, known⟩, digest, ⟨_, digest_valid⟩, _, _, file, ⟨_, plain_file⟩, _, safe, _, _,
    size, ⟨_, positive⟩, _, _, sbom, ⟨_, plain_sbom⟩, _, safe_sbom, sum, ⟨_, sum_valid⟩, sbom_size,
    ⟨_, sbom_positive⟩, rfl⟩ := ok
  exact ⟨⟨plain_image, canonical⟩, ⟨plain_commit, hex⟩, known, digest_valid,
    ⟨⟨plain_file, safe⟩, digest_valid, positive⟩, rfl,
    ⟨⟨plain_sbom, safe_sbom⟩, sum_valid, sbom_positive⟩⟩

theorem validatePlatformRecord_toJson {record : PlatformRecord} (valid : record.Valid) :
    validatePlatformRecord record.toJson = .ok record := by
  obtain ⟨⟨plain_image, canonical⟩, ⟨plain_commit, hex⟩, known, digest_valid,
    ⟨⟨plain_file, safe⟩, -, positive⟩, bound, ⟨⟨plain_sbom, safe_sbom⟩, sum_valid, sbom_positive⟩⟩ :=
    valid
  simp only [validatePlatformRecord, bind_ok, exactKeys_ok, check_ok, isInteger_iff, isText_iff,
    nonEmptyString_ok, platformParts_ok, digest_ok, positiveInteger_ok, Except.ok.injEq,
    PlatformRecord.toJson, FileIdentity.toJson]
  refine ⟨_, ⟨rfl, rfl⟩, (), rfl, record.image, ⟨rfl, plain_image⟩, (), canonical,
    record.sourceCommit, ⟨rfl, plain_commit⟩, (), hex, record.platform, ⟨rfl, known⟩,
    record.digest, ⟨rfl, digest_valid⟩, _, ⟨rfl, rfl⟩, record.manifest.file, ⟨rfl, plain_file⟩,
    (), safe, (), congrArg (some ∘ Json.string) bound, record.manifest.size, ⟨rfl, positive⟩, _,
    ⟨rfl, rfl⟩, record.sbom.file, ⟨rfl, plain_sbom⟩, (), safe_sbom, record.sbom.sha256,
    ⟨rfl, sum_valid⟩, record.sbom.size, ⟨rfl, sbom_positive⟩, ?_⟩
  have same : (⟨record.manifest.file, record.digest, record.manifest.size⟩ : FileIdentity) =
      record.manifest := by rw [← bound]
  rw [same]

/-! ## The evidence -/

structure Workflow.Valid (workflow : Workflow) (repository : String) : Prop where
  runId : IsPositive workflow.runId
  runAttempt : IsPositive workflow.runAttempt
  url : workflow.url =
    workflowUrl repository (toString workflow.runId) (toString workflow.runAttempt)

structure CandidateImage.Valid (image : CandidateImage) (sourceCommit : String) : Prop where
  name : IsImageName image.name
  candidateTag : image.candidateTag = "candidate-" ++ sourceCommit
  indexDigest : IsDigest image.indexDigest
  file : IsSafeName image.index.file
  sha256 : image.index.sha256 = image.indexDigest
  size : IsPositive image.index.size
  platforms : ∀ record ∈ image.platforms, record.Valid
  order : image.platforms.map PlatformRecord.platform = platformOrder
  bound : ∀ record ∈ image.platforms,
    record.image = image.name ∧ record.sourceCommit = sourceCommit
  distinct : (image.platforms.map PlatformRecord.digest).Nodup

structure CandidateEvidence.Valid (toISOString : String → Option String) (evidence : CandidateEvidence) :
    Prop where
  repository : IsText 512 isRepository evidence.repository.toList
  sourceCommit : IsCommitName evidence.sourceCommit
  createdAt : IsText 32 (fun _ => isCanonical toISOString evidence.createdAt) evidence.createdAt.toList
  workflow : evidence.workflow.Valid evidence.repository
  image : evidence.image.Valid evidence.sourceCommit

theorem validateWorkflow_ok {value : Option Json} {repository sourceCommit : String}
    {workflow : Workflow} (ok : validateWorkflow value repository sourceCommit = .ok workflow) :
    workflow.Valid repository := by
  simp only [validateWorkflow, bind_ok, exactKeys_ok, check_ok, isText_iff, positiveInteger_ok,
    Except.ok.injEq] at ok
  obtain ⟨_, _, _, _, runId, ⟨_, id_positive⟩, runAttempt, ⟨_, attempt_positive⟩, _, _, _, _, rfl⟩ :=
    ok
  exact ⟨id_positive, attempt_positive, rfl⟩

theorem validateWorkflow_toJson {workflow : Workflow} {repository sourceCommit : String}
    (valid : workflow.Valid repository) (commit : IsCommitName sourceCommit) :
    validateWorkflow (some workflow.toJson) repository sourceCommit = .ok workflow := by
  obtain ⟨id_positive, attempt_positive, url⟩ := valid
  simp only [validateWorkflow, bind_ok, exactKeys_ok, check_ok, isText_iff, positiveInteger_ok,
    Except.ok.injEq, Workflow.toJson]
  refine ⟨_, ⟨rfl, rfl⟩, (), rfl, workflow.runId, ⟨rfl, id_positive⟩, workflow.runAttempt,
    ⟨rfl, attempt_positive⟩, (), congrArg (some ∘ Json.string) url, (), commit.2, ?_⟩
  rw [← url]

theorem validateCandidateImage_ok {value : Option Json} {sourceCommit : String}
    {image : CandidateImage} (ok : validateCandidateImage value sourceCommit = .ok image) :
    image.Valid sourceCommit := by
  simp only [validateCandidateImage, bind_ok, exactKeys_ok, check_ok, isText_iff,
    nonEmptyString_ok, digest_ok, positiveInteger_ok, exactlyTwo_ok, forM_ok, mapM_ok,
    Except.ok.injEq, decide_eq_true_eq] at ok
  obtain ⟨_, _, name, ⟨_, plain⟩, _, canonical, _, _, indexDigest, ⟨_, digest_valid⟩, _, _, file,
    ⟨_, plain_file⟩, _, safe, _, _, size, ⟨_, positive⟩, documents, _, platforms, read, _, order, _,
    bound, _, distinct, rfl⟩ := ok
  have valid : ∀ record ∈ platforms, record.Valid := by
    intro record mem
    obtain ⟨i, inside, rfl⟩ := List.getElem_of_mem mem
    exact validatePlatformRecord_ok (read.get (by rw [read.length_eq]; exact inside) inside)
  exact ⟨⟨plain, canonical⟩, rfl, digest_valid, ⟨plain_file, safe⟩, rfl, positive, valid, order,
    fun record mem => by simpa using bound record mem, distinct⟩

/-- The size of the index is read from its place in the document. -/
theorem validateCandidateImage_size {value : Option Json} {sourceCommit : String}
    {image : CandidateImage} (ok : validateCandidateImage value sourceCommit = .ok image) :
    Json.member (Json.member value "index") "size" = some (.number image.index.size) := by
  simp only [validateCandidateImage, bind_ok, exactKeys_ok, check_ok, isText_iff,
    nonEmptyString_ok, digest_ok, positiveInteger_ok, exactlyTwo_ok, forM_ok, mapM_ok,
    Except.ok.injEq, decide_eq_true_eq] at ok
  obtain ⟨fields, ⟨rfl, -⟩, _, _, _, _, _, _, _, _, index, ⟨found, -⟩, _, _, _, _, _, _, size,
    ⟨sized, _⟩, _, _, _, _, _, _, _, _, _, _, rfl⟩ := ok
  rw [Json.member_eq_some]
  exact ⟨index, found, sized⟩

theorem validateCandidateImage_toJson {image : CandidateImage} {sourceCommit : String}
    (valid : image.Valid sourceCommit) :
    validateCandidateImage (some image.toJson) sourceCommit = .ok image := by
  have two : (image.platforms.map PlatformRecord.toJson).length = 2 := by
    have lengths := congrArg List.length valid.order
    simpa [platformOrder] using lengths
  have read : (image.platforms.map PlatformRecord.toJson).mapM validatePlatformRecord =
      .ok image.platforms := by
    rw [mapM_ok, List.forall₂_map_left_iff, List.forall₂_same]
    exact fun record mem => validatePlatformRecord_toJson (valid.platforms record mem)
  have bound : image.platforms.forM (fun record => do
      check (record.image = image.name) Refusal.generated
      check (record.sourceCommit = sourceCommit) Refusal.generated) = .ok () := by
    rw [forM_ok]
    intro record mem
    simpa [bind_ok, check_ok] using valid.bound record mem
  simp only [validateCandidateImage, bind_ok, exactKeys_ok, check_ok, isText_iff,
    nonEmptyString_ok, digest_ok, positiveInteger_ok, exactlyTwo_ok, Except.ok.injEq,
    decide_eq_true_eq, CandidateImage.toJson, FileIdentity.toJson]
  refine ⟨_, ⟨rfl, rfl⟩, image.name, ⟨rfl, valid.name.1⟩, (), valid.name.2, (),
    congrArg (some ∘ Json.string) valid.candidateTag, image.indexDigest, ⟨rfl, valid.indexDigest⟩, _,
    ⟨rfl, rfl⟩, image.index.file, ⟨rfl, valid.file.1⟩, (), valid.file.2, (),
    congrArg (some ∘ Json.string) valid.sha256, image.index.size, ⟨rfl, valid.size⟩, _, ⟨rfl, two⟩,
    image.platforms, read, (), valid.order, (), bound, (), valid.distinct, ?_⟩
  have same : (⟨image.index.file, image.indexDigest, image.index.size⟩ : FileIdentity) =
      image.index := by rw [← valid.sha256]
  rw [← valid.candidateTag, same]

theorem checkCreatedAt_ok {toISOString : String → Option String} {createdAt : String} {u : Unit} :
    checkCreatedAt toISOString createdAt = .ok u ↔ isCanonical toISOString createdAt = true := by
  unfold checkCreatedAt isCanonical
  split
  · rename_i invalid
    simp [invalid]
  · rename_i text valid
    rw [check_ok, valid]
    simp

theorem validateCandidateEvidence_ok {toISOString : String → Option String} {document : Json}
    {evidence : CandidateEvidence}
    (ok : validateCandidateEvidence toISOString document = .ok evidence) :
    evidence.Valid toISOString := by
  simp only [validateCandidateEvidence, bind_ok, exactKeys_ok, check_ok, checkCreatedAt_ok, isInteger_iff,
    isText_iff, nonEmptyString_ok, Except.ok.injEq] at ok
  obtain ⟨_, _, _, _, _, _, repository, ⟨_, plain⟩, _, canonical, commit, ⟨_, plain_commit⟩, _, hex,
    createdAt, ⟨_, plain_date⟩, _, date, workflow, workflow_ok, image, image_ok, rfl⟩ := ok
  exact ⟨⟨plain, canonical⟩, ⟨plain_commit, hex⟩, ⟨plain_date, date⟩, validateWorkflow_ok workflow_ok,
    validateCandidateImage_ok image_ok⟩

theorem validateCandidateEvidence_size {toISOString : String → Option String} {document : Json}
    {evidence : CandidateEvidence}
    (ok : validateCandidateEvidence toISOString document = .ok evidence) :
    Json.member (Json.member (Json.member (some document) "image") "index") "size" =
      some (.number evidence.image.index.size) := by
  simp only [validateCandidateEvidence, bind_ok, exactKeys_ok, check_ok, checkCreatedAt_ok, isInteger_iff,
    isText_iff, nonEmptyString_ok, Except.ok.injEq] at ok
  obtain ⟨fields, ⟨whole, -⟩, _, _, _, _, _, _, _, _, _, _, _, _, _, _, _, _, _, _, image, image_ok,
    rfl⟩ := ok
  cases whole
  exact validateCandidateImage_size image_ok

theorem validateCandidateEvidence_toJson {toISOString : String → Option String}
    {evidence : CandidateEvidence} (valid : evidence.Valid toISOString) :
    validateCandidateEvidence toISOString evidence.toJson = .ok evidence := by
  have workflow := validateWorkflow_toJson valid.workflow valid.sourceCommit
  have image := validateCandidateImage_toJson valid.image
  simp only [validateCandidateEvidence, bind_ok, exactKeys_ok, check_ok, checkCreatedAt_ok, isInteger_iff,
    isText_iff, nonEmptyString_ok, Except.ok.injEq, CandidateEvidence.toJson]
  exact ⟨_, ⟨rfl, rfl⟩, (), rfl, (), rfl, evidence.repository, ⟨rfl, valid.repository.1⟩, (),
    valid.repository.2, evidence.sourceCommit, ⟨rfl, valid.sourceCommit.1⟩, (),
    valid.sourceCommit.2, evidence.createdAt, ⟨rfl, valid.createdAt.1⟩, (), valid.createdAt.2,
    evidence.workflow, workflow, evidence.image, image, rfl⟩

end Fireball.Evidence
