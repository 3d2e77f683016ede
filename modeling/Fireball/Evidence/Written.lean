import Fireball.Evidence.Recreation
import Fireball.Foundation.Decimal
import Fireball.Foundation.JsonText

/-!
# Evidence as it is written

What `writeJson` writes is small enough to be read again, and the names in a record lead
back into the directory of its architecture: evidence that was created is accepted.

* `record_length`, `evidence_length`: the sizes of the documents;
* `resolve_artifact`: where an artifact is looked for;
* `createPlatformRecord_ok`, `createCandidateEvidence_ok`: what the two creations have read;
* `created_accepted`: the evidence that validation returns.
-/

namespace Fireball.Evidence

open Foundation

variable {node : Node} {files : FileSystem}

/-- What `writeJson` writes. -/
def writeJson (node : Node) (document : Json) : Bytes :=
  utf8 (Json.stringify (textOfNumber node) document ++ "\n")

/-! ## Sizes -/

section
variable {indent : List Char}

theorem IsText.length {max : Nat} {form : List Char → Bool} {text : List Char}
    (valid : IsText max form text) : text.length ≤ max := by
  have sized := valid.1.1
  simp only [isSized, Bool.and_eq_true, decide_eq_true_eq] at sized
  exact Nat.le_trans (length_le_units text) sized.1.2

theorem string_length {text : String} {n : Nat} (short : text.toList.length ≤ n) :
    (Json.pretty (textOfNumber node) indent (.string text)).length ≤ 6 * n + 2 := by
  have quoted := Json.quote_length text
  rw [Json.pretty]
  omega

theorem number_length {n : Nat} (positive : IsPositive n) :
    (Json.pretty (textOfNumber node) indent (.number n)).length ≤ 16 := by
  rw [Json.pretty, textOfNumber_positive positive, toList_toString]
  exact (Nat.length_toDigits_le_iff (by decide) (by decide)).mpr
    (Nat.lt_of_le_of_lt positive.2 (by decide))

variable (node indent) in
theorem identity_length {identity : FileIdentity} (valid : identity.Valid) :
    (Json.pretty (textOfNumber node) indent identity.toJson).length ≤ 1600 + 4 * indent.length := by
  have keys : ∀ key ∈ ["file", "sha256", "size"], key.toList.length ≤ 14 := by decide
  refine Nat.le_trans (Json.object_length [770, 428, 16] rfl keys
    (.cons (string_length valid.file.length) (.cons (string_length valid.sha256.length)
      (.cons (number_length valid.size) .nil)))) ?_
  simp only [List.sum_cons, List.sum_nil, List.length_cons, List.length_nil]
  omega

theorem platform_length {platform : String} (known : platform ∈ platformOrder) :
    platform.toList.length ≤ 11 := by
  have each : ∀ name ∈ platformOrder, name.toList.length ≤ 11 := by decide
  exact each platform known

variable (node indent) in
theorem record_length {record : PlatformRecord} (valid : record.Valid) :
    (Json.pretty (textOfNumber node) indent record.toJson).length ≤ 7800 + 16 * indent.length := by
  have keys : ∀ key ∈ ["schema_version", "image", "source_commit", "platform", "digest", "manifest", "sbom"],
      key.toList.length ≤ 14 := by decide
  have manifest := identity_length node (indent ++ [' ', ' ']) valid.manifest
  have sbom := identity_length node (indent ++ [' ', ' ']) valid.sbom
  refine Nat.le_trans (Json.object_length [16, 3074, 242, 68, 428, _, _] rfl keys
    (.cons (number_length (n := 1) (by decide)) (.cons (string_length valid.image.length)
      (.cons (string_length valid.sourceCommit.length) (.cons (string_length (platform_length valid.platform))
        (.cons (string_length valid.digest.length) (.cons manifest (.cons sbom .nil)))))))) ?_
  simp only [List.sum_cons, List.sum_nil, List.length_cons, List.length_nil, List.length_append]
  omega

theorem texts_length {scheme runs attempts : String} {i j k : Nat} (scheme_length : scheme.toList.length = i)
    (runs_length : runs.toList.length = j) (attempts_length : attempts.toList.length = k)
    (repository runId runAttempt : String) :
    (scheme ++ repository ++ runs ++ runId ++ attempts ++ runAttempt).toList.length =
      i + j + k + repository.toList.length + runId.toList.length + runAttempt.toList.length := by
  simp only [String.toList_append, List.length_append]
  omega

theorem workflowUrl_length (repository runId runAttempt : String) :
    (workflowUrl repository runId runAttempt).toList.length =
      43 + repository.toList.length + runId.toList.length + runAttempt.toList.length :=
  texts_length (i := 19) (j := 14) (k := 10) rfl rfl rfl repository runId runAttempt

variable (node indent) in
theorem workflow_length {workflow : Workflow} {repository : String} (valid : workflow.Valid repository)
    (short : repository.toList.length ≤ 512) :
    (Json.pretty (textOfNumber node) indent workflow.toJson).length ≤ 4200 + 5 * indent.length := by
  have keys : ∀ key ∈ ["name", "run_id", "run_attempt", "url"], key.toList.length ≤ 14 := by decide
  have name : "session-candidate".toList.length ≤ 17 := by decide
  have digits : ∀ n, IsPositive n → (toString n).toList.length ≤ 16 := fun n positive => by
    have length : (Json.pretty (textOfNumber node) [] (.number n)).length ≤ 16 := number_length positive
    rwa [Json.pretty, textOfNumber_positive positive] at length
  have id := digits _ valid.runId
  have attempt := digits _ valid.runAttempt
  have url : workflow.url.toList.length ≤ 587 := by
    rw [valid.url, workflowUrl_length]
    omega
  refine Nat.le_trans (Json.object_length [104, 16, 16, 3524] rfl keys
    (.cons (string_length name) (.cons (number_length valid.runId)
      (.cons (number_length valid.runAttempt) (.cons (string_length url) .nil))))) ?_
  simp only [List.sum_cons, List.sum_nil, List.length_cons, List.length_nil]
  omega

variable (node indent) in
theorem image_length {image : CandidateImage} {sourceCommit : String} (valid : image.Valid sourceCommit)
    (commit : IsCommitName sourceCommit) :
    (Json.pretty (textOfNumber node) indent image.toJson).length ≤ 22000 + 48 * indent.length := by
  have keys : ∀ key ∈ ["name", "candidate_tag", "index_digest", "index", "platforms"],
      key.toList.length ≤ 14 := by decide
  have tag : image.candidateTag.toList.length ≤ 50 := by
    have length := commit.length
    have text : "candidate-".toList.length = 10 := by decide
    rw [valid.candidateTag, String.toList_append, List.length_append]
    omega
  have digest : IsDigest image.index.sha256 := by
    rw [valid.sha256]
    exact valid.indexDigest
  have index := identity_length node (indent ++ [' ', ' ']) ⟨valid.file, digest, valid.size⟩
  have two : image.platforms.length = 2 := by
    have lengths := congrArg List.length valid.order
    simpa [platformOrder] using lengths
  have records : ∀ element ∈ image.platforms.map PlatformRecord.toJson,
      (Json.pretty (textOfNumber node) ((indent ++ [' ', ' ']) ++ [' ', ' ']) element).length ≤
        7900 + 16 * indent.length := by
    intro element mem
    obtain ⟨record, known, rfl⟩ := List.mem_map.mp mem
    have length := record_length node ((indent ++ [' ', ' ']) ++ [' ', ' ']) (valid.platforms record known)
    simp only [List.length_append, List.length_cons, List.length_nil] at length
    omega
  have platforms := Json.array_length records
  refine Nat.le_trans (Json.object_length [3074, 302, 428, _, _] rfl keys
    (.cons (string_length valid.name.length) (.cons (string_length tag)
      (.cons (string_length valid.indexDigest.length) (.cons index (.cons platforms .nil)))))) ?_
  rw [List.length_map, two]
  simp only [List.sum_cons, List.sum_nil, List.length_cons, List.length_nil, List.length_append]
  omega

variable (node indent) in
theorem evidence_length {evidence : CandidateEvidence} (valid : evidence.Valid node.toISOString) :
    (Json.pretty (textOfNumber node) indent evidence.toJson).length ≤ 32000 + 64 * indent.length := by
  have keys : ∀ key ∈ ["schema_version", "release_status", "repository", "source_commit", "created_at",
      "workflow", "image"], key.toList.length ≤ 14 := by decide
  have status : "candidate".toList.length ≤ 9 := by decide
  have workflow := workflow_length node (indent ++ [' ', ' ']) valid.workflow valid.repository.length
  have image := image_length node (indent ++ [' ', ' ']) valid.image valid.sourceCommit
  refine Nat.le_trans (Json.object_length [16, 56, 3074, 242, 194, _, _] rfl keys
    (.cons (number_length (n := 1) (by decide)) (.cons (string_length status)
      (.cons (string_length valid.repository.length) (.cons (string_length valid.sourceCommit.length)
        (.cons (string_length valid.createdAt.length) (.cons workflow (.cons image .nil)))))))) ?_
  simp only [List.sum_cons, List.sum_nil, List.length_cons, List.length_nil, List.length_append]
  omega

end

theorem writeJson_sized {document : Json} {bound maximumBytes : Nat}
    (short : (Json.pretty (textOfNumber node) [] document).length ≤ bound)
    (small : 4 * bound < maximumBytes) :
    0 < (writeJson node document).length ∧ (writeJson node document).length ≤ maximumBytes := by
  have bytes : (utf8 (Json.stringify (textOfNumber node) document)).length ≤
      4 * (Json.pretty (textOfNumber node) [] document).length := Json.stringify_length document
  have newline : (utf8 "\n").length = 1 := by decide
  rw [writeJson, utf8_append, List.length_append, newline]
  omega

/-- A document as `writeJson` leaves it, which `JSON.parse` reads back. -/
structure Stored (node : Node) (files : FileSystem) (path : Path) (document : Json) : Prop where
  written : files (resolve node.cwd path) = some (.regular (writeJson node document))
  parsed : node.parseJson (writeJson node document) = some document

theorem Stored.record {path : Path} {record : PlatformRecord} (stored : Stored node files path record.toJson)
    (valid : record.Valid) :
    Holds node files path maximumRecordBytes (writeJson node record.toJson) record.toJson :=
  ⟨stableRead_ok stored.written (writeJson_sized (record_length node [] valid) (by decide)), stored.parsed⟩

theorem Stored.evidence {path : Path} {evidence : CandidateEvidence}
    (stored : Stored node files path evidence.toJson) (valid : evidence.Valid node.toISOString) :
    Holds node files path maximumEvidenceBytes (writeJson node evidence.toJson) evidence.toJson :=
  ⟨stableRead_ok stored.written (writeJson_sized (evidence_length node [] valid) (by decide)), stored.parsed⟩

/-! ## Paths -/

/-- A name that a path has as it is. -/
def IsName (name : String) : Prop := name ≠ "" ∧ name ≠ "." ∧ name ≠ ".."

theorem normalize_append {directory parts : List String} (names : ∀ part ∈ parts, IsName part) :
    normalize directory parts = directory ++ parts := by
  induction parts generalizing directory with
  | nil => exact (List.append_nil directory).symm
  | cons part rest ih =>
    rw [List.forall_mem_cons] at names
    obtain ⟨⟨nonempty, here, up⟩, later⟩ := names
    have step : normalize directory (part :: rest) = normalize (directory ++ [part]) rest := by
      simp only [normalize, List.foldl_cons, nonempty, here, up, or_self, if_false]
    rw [step, ih later, List.append_assoc, List.singleton_append]

theorem normalize_names {directory parts : List String} (names : ∀ name ∈ directory, IsName name) :
    ∀ name ∈ normalize directory parts, IsName name := by
  induction parts generalizing directory with
  | nil => exact names
  | cons part rest ih =>
    change ∀ name ∈ normalize (if part = "" ∨ part = "." then directory
      else if part = ".." then directory.dropLast else directory ++ [part]) rest, IsName name
    apply ih
    split
    · exact names
    · next other =>
      split
      · exact fun name mem => names name (List.dropLast_subset _ mem)
      · next down =>
        intro name mem
        rcases List.mem_append.mp mem with old | new
        · exact names name old
        · cases List.mem_singleton.mp new
          exact ⟨fun empty => other (.inl empty), fun here => other (.inr here), down⟩

theorem platformDirectory_names (cwd : ∀ name ∈ node.cwd, IsName name) (artifactDirectory : Path)
    (record : PlatformRecord) : ∀ name ∈ platformDirectory node artifactDirectory record, IsName name := by
  refine normalize_names ?_
  unfold resolve
  split
  · exact normalize_names fun name mem => absurd mem List.not_mem_nil
  · exact normalize_names cwd

/-- An artifact is looked for in the directory. -/
theorem resolve_artifact {directory : List String} {file : String}
    (names : ∀ name ∈ directory, IsName name) (safe : isSafeFile file.toList = true) :
    resolve node.cwd (join directory file) = directory ++ [file] := by
  obtain ⟨apart, nonempty, here, up⟩ := nameCharacter_slash safe
  have name : IsName file := ⟨nonempty, here, up⟩
  have joined : join directory file = "" :: (directory ++ [file]) := by
    have parts : ((file.toList.splitOn '/').map String.ofList) = [file] := by
      rw [List.splitOn_eq_singleton apart]
      simp
    rw [join, parts, normalize_append (by simpa using name), absolute, if_neg (by simp)]
  have all : ∀ part ∈ directory ++ [file], IsName part := by
    intro part mem
    rcases List.mem_append.mp mem with old | new
    · exact names part old
    · cases List.mem_singleton.mp new
      exact name
  obtain ⟨first, rest, split⟩ := List.exists_cons_of_ne_nil (l := directory ++ [file]) (by simp)
  rw [joined, split]
  rw [split] at all
  change normalize [] (first :: rest) = first :: rest
  exact normalize_append all

/-! ## What creation has read -/

theorem stableRead_moved {later : FileSystem} {path target : Path} {maximumBytes : Nat} {bytes : Bytes}
    (same : later (resolve node.cwd target) = files (resolve node.cwd path))
    (read : stableRead node files path maximumBytes = .ok bytes) :
    stableRead node later target maximumBytes = .ok bytes := by
  unfold stableRead at read ⊢
  dsimp only at read ⊢
  rw [same]
  cases found : files (resolve node.cwd path) with
  | none =>
    rw [found] at read
    cases read
  | some entry =>
    rw [found] at read
    cases entry with
    | other => cases read
    | regular bytes' =>
      simp only [bind_ok, check_ok] at read ⊢
      exact read

theorem string_field {fields : List (String × Json)} {key text read : String}
    (there : Json.field fields key = some (.string text)) (found : Json.field fields key = some (.string read)) :
    read = text :=
  Json.string.inj (Option.some.inj (found.symm.trans there))

theorem number_field {fields : List (String × Json)} {key : String} {n read : Nat}
    (there : Json.field fields key = some (.number n)) (found : Json.field fields key = some (.number read)) :
    read = n :=
  Nat.cast_injective (Json.number.inj (Option.some.inj (found.symm.trans there)))

/-- A record is read as it is written. -/
theorem validatePlatformRecord_same {record read : PlatformRecord}
    (ok : validatePlatformRecord record.toJson = .ok read) : read = record := by
  simp only [validatePlatformRecord, bind_ok, exactKeys_ok, check_ok, isInteger_iff, isText_iff,
    nonEmptyString_ok, platformParts_ok, digest_ok, positiveInteger_ok, Except.ok.injEq,
    PlatformRecord.toJson] at ok
  obtain ⟨fields, ⟨whole, -⟩, -, -, image, ⟨image_found, -⟩, -, -, commit, ⟨commit_found, -⟩, -, -, platform,
    ⟨platform_found, -⟩, digest, ⟨digest_found, -⟩, manifest, ⟨manifest_found, -⟩, file, ⟨file_found, -⟩, -, -,
    -, bound, size, ⟨size_found, -⟩, sbom, ⟨sbom_found, -⟩, sbom_file, ⟨sbom_file_found, -⟩, -, -, sum,
    ⟨sum_found, -⟩, sbom_size, ⟨sbom_size_found, -⟩, rfl⟩ := ok
  cases whole
  cases manifest_found
  cases sbom_found
  cases string_field rfl image_found
  cases string_field rfl commit_found
  cases string_field rfl platform_found
  cases string_field rfl digest_found
  cases string_field rfl file_found
  cases number_field rfl size_found
  cases string_field rfl sbom_file_found
  cases string_field rfl sum_found
  cases number_field rfl sbom_size_found
  have bound : record.digest = record.manifest.sha256 := string_field rfl bound
  have same : (⟨record.manifest.file, record.digest, record.manifest.size⟩ : FileIdentity) = record.manifest := by
    rw [bound]
  rw [same]

theorem createPlatformRecord_ok {arguments : PlatformArguments} {record : PlatformRecord}
    (ok : createPlatformRecord node files arguments = .ok record) :
    record.Valid ∧ record.platform = arguments.platform ∧
      (∃ manifest, Matches node files arguments.manifestPath maximumManifestBytes record.manifest manifest) ∧
      ∃ sbom, Matches node files arguments.sbomPath maximumSbomBytes record.sbom sbom := by
  simp only [createPlatformRecord, bind_ok, Prod.exists, parseJsonFile_ok, check_ok, decide_eq_true_eq] at ok
  obtain ⟨image, -, -, -, commit, -, -, -, digest, -, manifest, _, held, -, -, -, sum, sbom, _, sbom_held, -, -,
    accepted⟩ := ok
  have valid := validatePlatformRecord_ok accepted
  cases validatePlatformRecord_same accepted
  exact ⟨valid, rfl, ⟨manifest, held.1, rfl, sum⟩, sbom, sbom_held.1, rfl, rfl⟩

/-- The same file is read in another place. -/
theorem Matches.moved {later : FileSystem} {path target : Path} {maximumBytes : Nat} {identity : FileIdentity}
    {bytes : Bytes} (h : Matches node files path maximumBytes identity bytes)
    (same : later (resolve node.cwd target) = files (resolve node.cwd path)) :
    Matches node later target maximumBytes identity bytes :=
  ⟨stableRead_moved same h.1, h.2⟩

theorem validateCandidateImage_reads {value : Option Json} {sourceCommit : String} {image : CandidateImage}
    (ok : validateCandidateImage value sourceCommit = .ok image) :
    Json.member value "index_digest" = some (.string image.indexDigest) ∧
      ∃ documents, Json.member value "platforms" = some (.array documents) ∧
        documents.mapM validatePlatformRecord = .ok image.platforms := by
  simp only [validateCandidateImage, bind_ok, exactKeys_ok, check_ok, isText_iff, nonEmptyString_ok, digest_ok,
    positiveInteger_ok, exactlyTwo_ok, forM_ok, Except.ok.injEq, decide_eq_true_eq] at ok
  obtain ⟨fields, ⟨rfl, -⟩, _, -, -, -, -, -, indexDigest, ⟨found, -⟩, _, -, _, -, -, -, -, -, _, -, documents,
    ⟨listed, -⟩, platforms, read, -, -, -, -, -, -, rfl⟩ := ok
  exact ⟨found, documents, listed, read⟩

theorem validateCandidateEvidence_image {toISOString : String → Option String} {document : Json}
    {evidence : CandidateEvidence} (ok : validateCandidateEvidence toISOString document = .ok evidence) :
    ∃ sourceCommit, validateCandidateImage (Json.member (some document) "image") sourceCommit =
      .ok evidence.image := by
  simp only [validateCandidateEvidence, bind_ok, exactKeys_ok, check_ok, checkCreatedAt_ok, isInteger_iff,
    isText_iff, nonEmptyString_ok, Except.ok.injEq] at ok
  obtain ⟨fields, ⟨whole, -⟩, -, -, -, -, _, -, -, -, commit, -, -, -, _, -, -, -, _, -, image, image_ok, rfl⟩ := ok
  cases whole
  exact ⟨commit, image_ok⟩

theorem mapM_records {records read : List PlatformRecord}
    (ok : (records.map PlatformRecord.toJson).mapM validatePlatformRecord = .ok read) : read = records := by
  rw [mapM_ok, List.forall₂_map_left_iff] at ok
  induction ok with
  | nil => rfl
  | cons first _ ih => rw [validatePlatformRecord_same first, ih]

/-- What the evidence says of the records and of the index. -/
theorem createCandidateEvidence_ok {arguments : CandidateArguments} {order records : List PlatformRecord}
    {evidence : CandidateEvidence} (ok : createCandidateEvidence node files arguments = .ok evidence)
    (read : arguments.platformRecordPaths.mapM (readRecord node files) = .ok order)
    (sorted : order.insertionSort (fun left right =>
      platformOrder.idxOf left.platform ≤ platformOrder.idxOf right.platform) = records) :
    evidence.Valid node.toISOString ∧ evidence.image.platforms = records ∧
      ∃ index document, Holds node files arguments.indexPath maximumIndexBytes index document ∧
        sha256 node index = evidence.image.indexDigest ∧
        validateIndex (textOfNumber node) document records = .ok () := by
  simp only [createCandidateEvidence, bind_ok, check_ok, read, Except.ok.injEq, Prod.exists,
    parseJsonFile_ok] at ok
  obtain ⟨-, -, _, rfl, index, document, held, _, indexed, accepted⟩ := ok
  rw [sorted] at indexed accepted
  obtain ⟨commit, image_ok⟩ := validateCandidateEvidence_image accepted
  obtain ⟨digest, documents, listed, platforms⟩ := validateCandidateImage_reads image_ok
  cases listed
  refine ⟨validateCandidateEvidence_ok accepted, mapM_records platforms, index, document, held, ?_, indexed⟩
  exact (Json.string.inj (Option.some.inj digest)).symm ▸ rfl

/-- The order of the record paths does not matter. -/
theorem createCandidateEvidence_order {arguments : CandidateArguments} {paths : List Path}
    {order other : List PlatformRecord}
    (read : arguments.platformRecordPaths.mapM (readRecord node files) = .ok order)
    (read_other : paths.mapM (readRecord node files) = .ok other)
    (length : paths.length = arguments.platformRecordPaths.length)
    (same : other.insertionSort (fun left right =>
        platformOrder.idxOf left.platform ≤ platformOrder.idxOf right.platform) =
      order.insertionSort fun left right =>
        platformOrder.idxOf left.platform ≤ platformOrder.idxOf right.platform) :
    createCandidateEvidence node files { arguments with platformRecordPaths := paths } =
      createCandidateEvidence node files arguments := by
  simp only [createCandidateEvidence, read, read_other, length, bind, Except.bind, same]

/-! ## From creation to validation -/

/-- A run of the script with `platform`, on the machine of its architecture. -/
structure PlatformRun (node : Node) where
  files : FileSystem
  arguments : PlatformArguments
  record : PlatformRecord
  created : createPlatformRecord node files arguments = .ok record

/-- The artifacts of a run, unchanged, where its record leads to. -/
structure Placed (node : Node) (files : FileSystem) (artifactDirectory : Path) (run : PlatformRun node) :
    Prop where
  manifest : files (resolve node.cwd (manifestPath node artifactDirectory run.record)) =
    run.files (resolve node.cwd run.arguments.manifestPath)
  sbom : files (resolve node.cwd (sbomPath node artifactDirectory run.record)) =
    run.files (resolve node.cwd run.arguments.sbomPath)

theorem records_read {order : List (PlatformRun node)} {paths : List Path}
    (stored : List.Forall₂ (fun run path => Stored node files path run.record.toJson) order paths) :
    paths.mapM (readRecord node files) = .ok (order.map PlatformRun.record) := by
  rw [mapM_ok]
  refine List.Forall₂.flip ?_
  rw [List.forall₂_map_left_iff]
  refine stored.imp fun run path written => ?_
  have valid := (createPlatformRecord_ok run.created).1
  exact bind_ok.mpr ⟨_, parseJsonFile_ok.mpr (written.record valid), validatePlatformRecord_toJson valid⟩

/-- Evidence that was created is accepted, whatever the order of the record paths. -/
theorem created_accepted {amd64 arm64 : PlatformRun node} {order : List (PlatformRun node)}
    {creation validation : FileSystem} {arguments : CandidateArguments} {evidence : CandidateEvidence}
    {evidencePath indexPath artifactDirectory : Path}
    (cwd : ∀ name ∈ node.cwd, IsName name)
    (platforms : [amd64, arm64].map (fun run => run.arguments.platform) = platformOrder)
    (either : order.Perm [amd64, arm64])
    (records : List.Forall₂ (fun run path => Stored node creation path run.record.toJson) order
      arguments.platformRecordPaths)
    (created : createCandidateEvidence node creation arguments = .ok evidence)
    (written : Stored node validation evidencePath evidence.toJson)
    (index : validation (resolve node.cwd indexPath) = creation (resolve node.cwd arguments.indexPath))
    (placed : ∀ run ∈ [amd64, arm64], Placed node validation artifactDirectory run) :
    validateEvidenceFiles node validation evidencePath indexPath artifactDirectory = .ok evidence ∧
      createCandidateEvidence node creation
        { arguments with platformRecordPaths := arguments.platformRecordPaths.reverse } = .ok evidence := by
  have canonical : ([amd64, arm64].map PlatformRun.record).map PlatformRecord.platform = platformOrder := by
    rw [← platforms]
    simp only [List.map_cons, List.map_nil, (createPlatformRecord_ok amd64.created).2.1,
      (createPlatformRecord_ok arm64.created).2.1]
  have read := records_read records
  have read_reverse := records_read (List.forall₂_reverse_iff.mpr records)
  have sorted := sorted_records (either.map PlatformRun.record) canonical
  have sorted_reverse := sorted_records ((order.reverse_perm.trans either).map PlatformRun.record) canonical
  obtain ⟨valid, listed, bytes, document, held, digest, indexed⟩ := createCandidateEvidence_ok created read sorted
  constructor
  · refine validateEvidenceFiles_accepts (written.evidence valid)
      ⟨valid, ⟨stableRead_moved index held.1, held.2⟩, digest, by rw [listed]; exact indexed, ?_⟩ ?_
    · intro record mem
      rw [listed] at mem
      obtain ⟨run, known, rfl⟩ := List.mem_map.mp mem
      obtain ⟨-, -, ⟨manifest, manifests⟩, ⟨sbom, sboms⟩⟩ := createPlatformRecord_ok run.created
      exact ⟨⟨manifest, manifests.moved (placed run known).manifest⟩, sbom, sboms.moved (placed run known).sbom⟩
    · intro record mem identity artifact
      have names := platformDirectory_names cwd artifactDirectory record
      have record_valid := valid.image.platforms record mem
      have safe : isSafeFile identity.file.toList = true := by
        rcases List.mem_pair.mp artifact with rfl | rfl
        · exact record_valid.manifest.file.2
        · exact record_valid.sbom.file.2
      rw [resolve_artifact names safe, List.dropLast_concat]
  · rw [createCandidateEvidence_order read read_reverse List.length_reverse (sorted_reverse.trans sorted.symm)]
    exact created

/-! ## A sample -/

def writtenDocuments : List Json := soundEvidence.toJson :: soundEvidence.image.platforms.map PlatformRecord.toJson

/-- `JSON.parse` of the bundle and of what the script writes: there the second byte is a newline. -/
def readWritten (bytes : Bytes) : Option Json :=
  if bytes[1]? = some 10 then writtenDocuments.find? fun document => writeJson bundleNode document = bytes
  else bundleNode.parseJson bytes

def writtenNode : Node := { bundleNode with parseJson := readWritten }

def soundFiles : FileSystem := filesOf (bundleFiles spdxDocument soundEvidence)

def recordPath (architecture : String) : Path := ["", "w", architecture, "record.json"]

/-- With the two records. -/
def creationFiles : FileSystem := fun names =>
  (soundFiles names).or ((lookupEntry names [(["w", "amd64", "record.json"], "linux/amd64"),
    (["w", "arm64", "record.json"], "linux/arm64")]).bind fun platform =>
      (soundEvidence.image.platforms.find? fun record => record.platform = platform).map fun record =>
        .regular (writeJson bundleNode record.toJson))

/-- With the evidence. -/
def validationFiles : FileSystem := fun names =>
  if names = ["w", "evidence.json"] then some (.regular (writeJson bundleNode soundEvidence.toJson))
  else soundFiles names

theorem writeJson_bytes (document : Json) :
    writeJson bundleNode document =
      (Json.pretty (textOfNumber bundleNode) [] document).flatMap String.utf8EncodeChar ++ [10] := by
  rw [writeJson, Json.stringify, utf8_append, utf8_ofList]
  rfl

theorem written_distinct : (writtenDocuments.map (writeJson bundleNode)).Nodup := by
  have same : writtenDocuments.map (writeJson bundleNode) = writtenDocuments.map fun document =>
      (Json.pretty (textOfNumber bundleNode) [] document).flatMap String.utf8EncodeChar ++ [10] :=
    List.map_congr_left fun document _ => writeJson_bytes document
  rw [same]
  decide +kernel

theorem readWritten_written {document : Json} (known : document ∈ writtenDocuments) :
    readWritten (writeJson bundleNode document) = some document := by
  have each : ∀ document ∈ writtenDocuments, (writeJson bundleNode document)[1]? = some 10 := by
    simp only [writeJson_bytes, writtenDocuments, List.forall_mem_cons, soundEvidence, bundleEvidence,
      List.map_cons, List.map_nil]
    exact ⟨rfl, rfl, rfl, fun document mem => absurd mem List.not_mem_nil⟩
  rw [readWritten, if_pos (each document known)]
  exact find_key (writeJson bundleNode) written_distinct known

theorem readWritten_kept {document : Json}
    (known : document ∈ [spdxDocument, amd64Manifest, arm64Manifest, indexDocument]) :
    readWritten (fileOf document) = some document := by
  have each : ∀ document ∈ [spdxDocument, amd64Manifest, arm64Manifest, indexDocument],
      (fileOf document)[1]? = some 34 := by
    simp only [List.forall_mem_cons]
    exact ⟨rfl, rfl, rfl, rfl, fun document mem => absurd mem List.not_mem_nil⟩
  rw [readWritten, each document known, if_neg (by decide)]
  refine parse_document document ?_
  simp only [List.mem_cons, List.not_mem_nil, or_false] at known
  rcases known with rfl | rfl | rfl | rfl <;> simp [documents]

theorem parseJson_written (bytes : Bytes) : writtenNode.parseJson bytes = readWritten bytes := rfl

theorem textOfNumber_written : textOfNumber writtenNode = textOfNumber bundleNode := by
  funext value
  simp only [textOfNumber, writtenNode]

theorem writeJson_written (document : Json) : writeJson writtenNode document = writeJson bundleNode document := by
  rw [writeJson, textOfNumber_written, writeJson]

theorem stableRead_written (files : FileSystem) (path : Path) (maximumBytes : Nat) :
    stableRead writtenNode files path maximumBytes = stableRead bundleNode files path maximumBytes := by
  simp only [stableRead, writtenNode]

theorem sha256_written (bytes : Bytes) : sha256 writtenNode bytes = sha256 bundleNode bytes := by
  simp only [sha256, writtenNode]

theorem matches_written {files : FileSystem} {path : Path} {maximumBytes : Nat} {identity : FileIdentity}
    {bytes : Bytes} (matching : Matches bundleNode files path maximumBytes identity bytes) :
    Matches writtenNode files path maximumBytes identity bytes := by
  rwa [Matches, stableRead_written, sha256_written]

theorem platformDirectory_written (artifactDirectory : Path) (record : PlatformRecord) :
    platformDirectory writtenNode artifactDirectory record = platformDirectory bundleNode artifactDirectory record := by
  simp only [platformDirectory, writtenNode]

theorem sound_bundle : Bundle bundleNode soundFiles ["", "w", "index.json"] ["", "w"] soundEvidence
    (fileOf indexDocument) indexDocument :=
  bundle_holds (by simp [documents]) rfl ⟨texts.files _ (by simp), texts.digests _ (by simp), by decide⟩
    (by decide) sizes.1 (by decide) bundle_sums.1

theorem written_artifacts {record : PlatformRecord} (mem : record ∈ soundEvidence.image.platforms) :
    (∃ bytes, Matches writtenNode soundFiles (manifestPath writtenNode ["", "w"] record)
      maximumManifestBytes record.manifest bytes) ∧
    ∃ bytes, Matches writtenNode soundFiles (sbomPath writtenNode ["", "w"] record)
      maximumSbomBytes record.sbom bytes := by
  obtain ⟨⟨manifest, manifests⟩, sbom, sboms⟩ := sound_bundle.artifacts record mem
  rw [manifestPath, sbomPath, platformDirectory_written]
  exact ⟨⟨manifest, matches_written manifests⟩, sbom, matches_written sboms⟩

theorem holds_written {path : Path} {maximumBytes : Nat} {bytes : Bytes} {document : Json}
    (read : stableRead bundleNode soundFiles path maximumBytes = .ok bytes)
    (parsed : readWritten bytes = some document) :
    Holds writtenNode soundFiles path maximumBytes bytes document := by
  rw [Holds, stableRead_written, parseJson_written]
  exact ⟨read, parsed⟩

theorem written_bundle : Bundle writtenNode soundFiles ["", "w", "index.json"] ["", "w"] soundEvidence
    (fileOf indexDocument) indexDocument := by
  refine ⟨sound_bundle.valid, holds_written sound_bundle.held.1 (readWritten_kept (by simp)), ?_, ?_,
    fun record mem => written_artifacts mem⟩
  · rw [sha256_written]
    exact sound_bundle.digest
  · rw [textOfNumber_written]
    exact sound_bundle.indexed

theorem sound_held {record : PlatformRecord} {architecture file : String} {document : Json} {maximumBytes : Nat}
    (known : architecture ∈ ["amd64", "arm64"]) (platform : record.platform = "linux/" ++ architecture)
    (named : file ∈ ["manifest.json", "sbom.json"]) (kept : document ∈ [spdxDocument, amd64Manifest, arm64Manifest])
    (found : lookupEntry ["w", architecture, file] (bundleFiles spdxDocument soundEvidence) = some document)
    (sized : 0 < (fileOf document).length ∧ (fileOf document).length ≤ maximumBytes) :
    Holds writtenNode soundFiles (join (platformDirectory writtenNode ["", "w"] record) file) maximumBytes
      (fileOf document) document := by
  obtain ⟨directory, resolved⟩ := bundle_paths known platform named
  rw [platformDirectory_written, directory]
  rw [← resolved] at found
  have listed : document ∈ documents := by
    simp only [List.mem_cons, List.not_mem_nil, or_false] at kept
    rcases kept with rfl | rfl | rfl <;> simp [documents]
  refine holds_written (held_document listed found sized).1 (readWritten_kept ?_)
  exact List.mem_append_left [indexDocument] kept

theorem sound_documents {record : PlatformRecord} (mem : record ∈ soundEvidence.image.platforms) :
    Documents writtenNode soundFiles ["", "w"] record := by
  have platforms : ("linux/amd64" : String) = "linux/" ++ "amd64" ∧
      ("linux/arm64" : String) = "linux/" ++ "arm64" := by decide
  have manifest : "manifest.json" ∈ ["manifest.json", "sbom.json"] := by decide
  have sbom : "sbom.json" ∈ ["manifest.json", "sbom.json"] := by decide
  have spdx : 0 < (fileOf spdxDocument).length ∧ (fileOf spdxDocument).length ≤ maximumSbomBytes := by
    rw [sizes.1]
    decide
  rcases List.mem_pair.mp mem with rfl | rfl
  · refine ⟨⟨_, amd64Manifest, sound_held (by decide) platforms.1 manifest (by simp) rfl ?_, rfl⟩,
      ⟨_, spdxDocument, sound_held (by decide) platforms.1 sbom (by simp) rfl spdx, rfl⟩⟩
    rw [sizes.2.2.1]
    decide
  · refine ⟨⟨_, arm64Manifest, sound_held (by decide) platforms.2 manifest (by simp) rfl ?_, rfl⟩,
      ⟨_, spdxDocument, sound_held (by decide) platforms.2 sbom (by simp) rfl spdx, rfl⟩⟩
    rw [sizes.2.2.2.1]
    decide

/-- The record of a platform is created from the bundle. -/
def soundRun (record : PlatformRecord) (listed : record ∈ soundEvidence.image.platforms) :
    PlatformRun writtenNode where
  files := soundFiles
  arguments := recordArguments writtenNode ["", "w"] record
  record := record
  created := by
    obtain ⟨⟨manifest, manifests⟩, sbom, sboms⟩ := written_artifacts listed
    exact (platform_again (sound_bundle.valid.image.platforms record listed) manifests sboms).mpr
      (sound_documents listed)

def amd64Run : PlatformRun writtenNode :=
  soundRun (bundleRecord "linux/amd64" amd64Digest ⟨"sbom.json", spdxSum, 190⟩) List.mem_cons_self

def arm64Run : PlatformRun writtenNode :=
  soundRun (bundleRecord "linux/arm64" arm64Digest ⟨"sbom.json", spdxSum, 190⟩)
    (List.mem_cons_of_mem _ List.mem_cons_self)

def recordPaths : List Path := [recordPath "amd64", recordPath "arm64"]

theorem stored_written {files : FileSystem} {path : Path} {document : Json}
    (found : files (resolve writtenNode.cwd path) = some (.regular (writeJson bundleNode document)))
    (known : document ∈ writtenDocuments) : Stored writtenNode files path document := by
  refine ⟨by rw [writeJson_written]; exact found, ?_⟩
  rw [writeJson_written, parseJson_written]
  exact readWritten_written known

theorem sound_stored :
    List.Forall₂ (fun (run : PlatformRun writtenNode) path => Stored writtenNode creationFiles path run.record.toJson)
      [amd64Run, arm64Run] recordPaths :=
  .cons (stored_written rfl (List.mem_cons_of_mem _ List.mem_cons_self))
    (.cons (stored_written rfl (List.mem_cons_of_mem _ (List.mem_cons_of_mem _ List.mem_cons_self))) .nil)

theorem sound_created :
    createCandidateEvidence writtenNode creationFiles
      (candidateArguments soundEvidence ["", "w", "index.json"] recordPaths) = .ok soundEvidence := by
  have kept : ∀ names entry, soundFiles names = some entry → creationFiles names = some entry := by
    intro names entry found
    rw [creationFiles, found, Option.some_or]
  have stored := sound_stored
  have written : RecordFiles writtenNode soundFiles creationFiles recordPaths soundEvidence.image.platforms := by
    refine ⟨kept, _, List.Perm.refl _, ?_⟩
    have runs : [amd64Run, arm64Run].map PlatformRun.record = soundEvidence.image.platforms := rfl
    rw [← runs, List.forall₂_map_left_iff]
    exact stored.imp fun run path there => ⟨_, there.record (createPlatformRecord_ok run.created).1⟩
  exact (candidate_again written_bundle written).mpr ⟨texts.files "index.json" (by simp), sizes.2.2.2.2⟩

theorem created_accepted_sample :
    validateEvidenceFiles writtenNode validationFiles ["", "w", "evidence.json"] ["", "w", "index.json"] ["", "w"] =
        .ok soundEvidence ∧
      createCandidateEvidence writtenNode creationFiles
        { candidateArguments soundEvidence ["", "w", "index.json"] recordPaths with
          platformRecordPaths := recordPaths.reverse } = .ok soundEvidence :=
  created_accepted (fun name mem => absurd mem List.not_mem_nil) rfl (List.Perm.refl _) sound_stored sound_created
    (stored_written rfl List.mem_cons_self) rfl (by
      intro run mem
      rcases List.mem_pair.mp mem with rfl | rfl <;> exact ⟨rfl, rfl⟩)

end Fireball.Evidence
