import Fireball.Foundation.Bytes

/-!
# Installing an Nginx configuration

`scripts/install-nginx-config.mjs`. The files that the installer touches are a
state; how each call of the file system and each executed command ends is an
`Outcomes`. A call that fails changes nothing, except that a copy that fails may
leave anything at its destination.

* `validateAndReload_ok`, `cleanup_ok`, `replaceTarget_ok`, and the same with `_error`: how a
  part ends, by the calls it makes;
* `restoreTarget_previous`, `restoreTarget_lost`, `restoreTarget_absent`: the rollback.
-/

namespace Fireball.Deployment

open Foundation

/-- A regular file, with its permission bits. -/
structure RegularFile where
  content : Bytes
  mode : Nat
  deriving DecidableEq, Repr

inductive LockOwner
  | thisDeployment
  | another
  deriving DecidableEq, Repr

/-- The target, the lock beside it and the transaction directory with its two files. -/
structure Files where
  target : Option RegularFile
  lock : Option LockOwner
  directory : Option String
  previous : Option RegularFile
  candidate : Option RegularFile
  deriving DecidableEq, Repr

/-- What the installer throws, by where the text is put together. -/
inductive InstallError
  | failed (message : String)
  | restored (message : String)
  | incomplete (message rollback directory : String)
  deriving DecidableEq, Repr

/-- `errorMessage`. -/
def InstallError.errorMessage : InstallError → String
  | .failed message => message
  | .restored message => message ++ "; nginx target restored to its previous state"
  | .incomplete message rollback directory =>
    message ++ "; nginx rollback incomplete: " ++ rollback ++ "; recovery files kept at " ++ directory

/-! ## How the calls end -/

abbrev Outcome := Except String Unit

/-- A copy gives its destination a mode, or leaves something there when it fails. -/
inductive Copied
  | done (mode : Nat)
  | failed (message : String) (left : Option RegularFile)
  deriving DecidableEq, Repr

structure Commands where
  test : Outcome
  reload : Outcome
  isActive : Outcome

structure Cleanup where
  unlinkPrevious : Outcome
  unlinkCandidate : Outcome
  rmdir : Outcome

/-- The calls of one installation, in the order in which they can be made. -/
structure Outcomes where
  /-- The checks of the two paths, which touch nothing. -/
  paths : Outcome
  mkdirLock : Outcome
  /-- `mkdtempSync` gives the name of a new directory. -/
  mkdtemp : Except String String
  lstat : Outcome
  copyPrevious : Copied
  copyCandidate : Copied
  chmodCandidate : Outcome
  rename : Outcome
  /-- After an error before the target was replaced. -/
  abandon : Cleanup
  deploy : Commands
  finish : Cleanup
  copyBack : Copied
  chmodBack : Outcome
  unlinkTarget : Outcome
  redeploy : Commands
  recover : Cleanup
  rmdirLock : Outcome

/-- A script fails with an error, and leaves the files as they are then. -/
abbrev Script := EStateM InstallError Files

def call (outcome : Outcome) : Script Unit :=
  match outcome with
  | .ok () => pure ()
  | .error message => throw (.failed message)

/-- `copyFileSync` on a file that is there. -/
def copyRegular (outcome : Copied) (file : RegularFile) (write : Option RegularFile → Files → Files) :
    Script Unit :=
  match outcome with
  | .done mode => modify (write (some ⟨file.content, mode⟩))
  | .failed message left => do
    modify (write left)
    throw (.failed message)

/-- `copyFileSync`. A source that is missing is found out before the destination is opened. -/
def copyFile (outcome : Copied) (source destination : String) (file : Option RegularFile)
    (write : Option RegularFile → Files → Files) : Script Unit :=
  match file with
  | none =>
    throw (.failed ("ENOENT: no such file or directory, copyfile '" ++ source ++ "' -> '" ++ destination ++ "'"))
  | some file => copyRegular outcome file write

/-- The copy of the previous file in a transaction directory. -/
def backupPath (directory : String) : String := directory ++ "/previous"

/-! ## The installer -/

def validateAndReload (o : Commands) : Script Unit := do
  call o.test
  call o.reload
  call o.isActive

def cleanupTransaction (o : Cleanup) : Script Unit := do
  if (← get).previous.isSome then
    call o.unlinkPrevious
    modify fun s => { s with previous := none }
  if (← get).candidate.isSome then
    call o.unlinkCandidate
    modify fun s => { s with candidate := none }
  call o.rmdir
  modify fun s => { s with directory := none }

def savePrevious (o : Outcomes) (target directory : String) (hadPrevious : Bool) : Script Unit := do
  if hadPrevious then
    call o.lstat
    copyFile o.copyPrevious target (backupPath directory) (← get).target fun file s => { s with previous := file }

def stageCandidate (o : Outcomes) (candidate : RegularFile) : Script Unit := do
  copyRegular o.copyCandidate candidate fun file s => { s with candidate := file }
  call o.chmodCandidate
  modify fun s => { s with candidate := s.candidate.map fun file => { file with mode := 0o644 } }
  call o.rename
  modify fun s => { s with target := s.candidate, candidate := none }

/-- Up to the assignment of `mutated`. -/
def replaceTarget (o : Outcomes) (target directory : String) (candidate : RegularFile) (hadPrevious : Bool) :
    Script Unit := do
  savePrevious o target directory hadPrevious
  stageCandidate o candidate

def restoreTarget (o : Outcomes) (target directory : String) (hadPrevious : Bool) (previousMode : Nat) :
    Script Unit := do
  if hadPrevious then
    copyFile o.copyBack (backupPath directory) target (← get).previous fun file s => { s with target := file }
    call o.chmodBack
    modify fun s => { s with target := s.target.map fun file => { file with mode := previousMode } }
  else if (← get).target.isSome then
    call o.unlinkTarget
    modify fun s => { s with target := none }
  validateAndReload o.redeploy
  cleanupTransaction o.recover

/-- The rollback after `error`. -/
def rollBack (o : Outcomes) (target directory : String) (hadPrevious : Bool) (previousMode : Nat)
    (error : InstallError) : Script Unit := do
  try restoreTarget o target directory hadPrevious previousMode
  catch rollbackError =>
    throw (.incomplete error.errorMessage rollbackError.errorMessage directory)
  throw (.restored error.errorMessage)

def deploy (o : Outcomes) : Script Unit := do
  validateAndReload o.deploy
  cleanupTransaction o.finish

/-- `mutated` is false in the first `catch` and true in the second. -/
def installNginxConfigLocked (o : Outcomes) (target : String) (candidate : RegularFile) : Script Bool := do
  let directory ← match o.mkdtemp with
    | .ok directory => pure directory
    | .error message => throw (.failed message)
  modify fun s => { s with directory := some directory }
  let previous := (← get).target
  let previousMode := (previous.map fun file => file.mode &&& 0o777).getD 0o644
  try replaceTarget o target directory candidate previous.isSome
  catch error =>
    cleanupTransaction o.abandon
    throw error
  try deploy o
  catch error => rollBack o target directory previous.isSome previousMode error
  return previous.isSome

def acquireDeploymentLock (target : String) (o : Outcome) : Script Unit := do
  if (← get).lock.isSome then
    throw (.failed ("nginx deployment already in progress for " ++ target))
  call o
  modify fun s => { s with lock := some .thisDeployment }

/-- The result says whether there was a previous file. -/
def installNginxConfig (o : Outcomes) (target : String) (candidate : RegularFile) : Script Bool := do
  call o.paths
  acquireDeploymentLock target o.mkdirLock
  try installNginxConfigLocked o target candidate
  finally
    call o.rmdirLock
    modify fun s => { s with lock := none }

/-! ## How the parts end -/

def Commands.Pass (c : Commands) : Prop := c.test = .ok () ∧ c.reload = .ok () ∧ c.isActive = .ok ()

/-- The directory, with the previous file in it or empty, is removed. -/
def Cleanup.Clears (c : Cleanup) (previous : Option RegularFile) : Prop :=
  (previous.isSome = true → c.unlinkPrevious = .ok ()) ∧ c.rmdir = .ok ()

/-- Every call up to the `rename` succeeds. -/
structure Replaces (o : Outcomes) (previous : Option RegularFile) : Prop where
  directory : ∃ name, o.mkdtemp = .ok name
  saved : previous.isSome = true → o.lstat = .ok () ∧ ∃ mode, o.copyPrevious = .done mode
  staged : ∃ mode, o.copyCandidate = .done mode
  chmod : o.chmodCandidate = .ok ()
  rename : o.rename = .ok ()

def Restores (o : Outcomes) (previous : Option RegularFile) : Prop :=
  o.redeploy.Pass ∧ o.recover.Clears previous

section
variable {o : Outcomes} {s : Files} {candidate : RegularFile} {target : String}

theorem bind_done {α β : Type} {x : Script α} {f : α → Script β} {a : α} {t : Files}
    (h : x s = .ok a t) : (x >>= f) s = f a t := by
  change EStateM.bind x f s = _
  rw [EStateM.bind, h]

theorem bind_failed {α β : Type} {x : Script α} {f : α → Script β} {e : InstallError} {t : Files}
    (h : x s = .error e t) : (x >>= f) s = .error e t := by
  change EStateM.bind x f s = _
  rw [EStateM.bind, h]

theorem catch_done {α : Type} {x : Script α} {handle : InstallError → Script α} {a : α} {t : Files}
    (h : x s = .ok a t) : (tryCatch x handle) s = .ok a t := by
  change EStateM.tryCatch x handle s = _
  rw [EStateM.tryCatch, h]

theorem catch_failed {α : Type} {x : Script α} {handle : InstallError → Script α} {e : InstallError}
    {t : Files} (h : x s = .error e t) : (tryCatch x handle) s = handle e t := by
  change EStateM.tryCatch x handle s = _
  rw [EStateM.tryCatch, h]
  rfl

theorem outcome_cases (outcome : Outcome) : outcome = .ok () ∨ ∃ message, outcome = .error message := by
  cases outcome with
  | ok u => exact .inl rfl
  | error message => exact .inr ⟨message, rfl⟩

theorem validateAndReload_ok {c : Commands} (pass : c.Pass) : validateAndReload c s = .ok () s := by
  obtain ⟨test, reload, isActive⟩ := pass
  unfold validateAndReload
  rw [test, reload, isActive]
  rfl

theorem validateAndReload_error {c : Commands} (fails : ¬ c.Pass) :
    ∃ message, validateAndReload c s = .error (.failed message) s := by
  unfold validateAndReload
  rcases outcome_cases c.test with test | ⟨message, test⟩
  · rcases outcome_cases c.reload with reload | ⟨message, reload⟩
    · rcases outcome_cases c.isActive with isActive | ⟨message, isActive⟩
      · exact absurd ⟨test, reload, isActive⟩ fails
      · exact ⟨message, by rw [test, reload, isActive]; rfl⟩
    · exact ⟨message, by rw [test, reload]; rfl⟩
  · exact ⟨message, by rw [test]; rfl⟩

/-! ## The cleanup -/

/-- Whatever becomes of it, the target stays. -/
theorem cleanup_target (c : Cleanup) (s : Files) :
    (∃ t, cleanupTransaction c s = .ok () t ∧ t.target = s.target) ∨
      ∃ message t, cleanupTransaction c s = .error (.failed message) t ∧ t.target = s.target := by
  obtain ⟨target, lock, directory, previous, candidate⟩ := s
  unfold cleanupTransaction
  rcases outcome_cases c.unlinkPrevious with first | ⟨message₁, first⟩ <;>
  rcases outcome_cases c.unlinkCandidate with second | ⟨message₂, second⟩ <;>
  rcases outcome_cases c.rmdir with third | ⟨message₃, third⟩ <;>
  rw [first, second, third] <;> cases previous <;> cases candidate <;>
  first
  | exact .inl ⟨_, rfl, rfl⟩
  | exact .inr ⟨_, _, rfl, rfl⟩

/-- The directory is removed once both files are gone. -/
theorem cleanup_ok {c : Cleanup} (clears : c.Clears s.previous) (moved : s.candidate = none) :
    cleanupTransaction c s = .ok () { s with previous := none, directory := none } := by
  obtain ⟨target, lock, directory, previous, candidate⟩ := s
  obtain ⟨unlink, rmdir⟩ := clears
  cases moved
  unfold cleanupTransaction
  cases previous with
  | none =>
    rw [rmdir]
    rfl
  | some file =>
    rw [unlink rfl, rmdir]
    rfl

theorem cleanup_error {c : Cleanup} (stays : ¬ c.Clears s.previous) (moved : s.candidate = none) :
    ∃ message previous, cleanupTransaction c s = .error (.failed message) { s with previous := previous } ∧
      (c.unlinkPrevious = .ok () → previous = none) ∧
      (c.unlinkPrevious ≠ .ok () → previous = s.previous) := by
  obtain ⟨target, lock, directory, previous, candidate⟩ := s
  cases moved
  unfold cleanupTransaction
  cases previous with
  | none =>
    rcases outcome_cases c.rmdir with rmdir | ⟨message, rmdir⟩
    · exact absurd ⟨fun there => by simp at there, rmdir⟩ stays
    · refine ⟨message, none, ?_, fun _ => rfl, fun _ => rfl⟩
      rw [rmdir]
      rfl
  | some file =>
    rcases outcome_cases c.unlinkPrevious with unlink | ⟨message, unlink⟩
    · rcases outcome_cases c.rmdir with rmdir | ⟨message, rmdir⟩
      · exact absurd ⟨fun _ => unlink, rmdir⟩ stays
      · refine ⟨message, none, ?_, fun _ => rfl, fun other => absurd unlink other⟩
        rw [unlink, rmdir]
        rfl
    · refine ⟨message, some file, ?_, fun other => ?_, fun _ => rfl⟩
      · rw [unlink]
        rfl
      · rw [unlink] at other
        cases other

/-! ## Replacing the target -/

/-- The files once the target is replaced: the copy of a previous file has its content. -/
structure Replaced (s : Files) (candidate : RegularFile) (name : String) (t : Files) : Prop where
  target : t.target = some ⟨candidate.content, 0o644⟩
  directory : t.directory = some name
  moved : t.candidate = none
  previous : t.previous.map RegularFile.content = s.target.map RegularFile.content

theorem savePrevious_ok (path name : String)
    (saved : s.target.isSome = true → o.lstat = .ok () ∧ ∃ mode, o.copyPrevious = .done mode) :
    ∃ backup, savePrevious o path name s.target.isSome s = .ok () { s with previous := backup } ∧
      (s.previous = none → backup.map RegularFile.content = s.target.map RegularFile.content) := by
  obtain ⟨target, lock, directory, previous, staged⟩ := s
  unfold savePrevious
  cases target with
  | none =>
    refine ⟨previous, rfl, ?_⟩
    rintro rfl
    rfl
  | some file =>
    obtain ⟨lstat, mode, backup⟩ := saved rfl
    rw [lstat, backup]
    exact ⟨some ⟨file.content, mode⟩, rfl, fun _ => rfl⟩

theorem savePrevious_error (path name : String)
    (fails : ¬ (s.target.isSome = true → o.lstat = .ok () ∧ ∃ mode, o.copyPrevious = .done mode)) :
    ∃ message left, savePrevious o path name s.target.isSome s =
      .error (.failed message) { s with previous := left } := by
  obtain ⟨target, lock, directory, previous, staged⟩ := s
  unfold savePrevious
  cases target with
  | none => exact absurd (fun there => by simp at there) fails
  | some file =>
    rcases outcome_cases o.lstat with lstat | ⟨message, lstat⟩
    · cases backup : o.copyPrevious with
      | done mode => exact absurd (fun _ => ⟨lstat, mode, backup⟩) fails
      | failed message left =>
        rw [lstat]
        exact ⟨message, left, rfl⟩
    · rw [lstat]
      exact ⟨message, previous, rfl⟩

theorem stageCandidate_ok (copied : ∃ mode, o.copyCandidate = .done mode)
    (chmod : o.chmodCandidate = .ok ()) (rename : o.rename = .ok ()) :
    stageCandidate o candidate s = .ok () { s with target := some ⟨candidate.content, 0o644⟩, candidate := none } := by
  obtain ⟨mode, copied⟩ := copied
  unfold stageCandidate
  rw [copied, chmod, rename]
  rfl

theorem stageCandidate_error (candidate : RegularFile) (s : Files)
    (fails : ¬ ((∃ mode, o.copyCandidate = .done mode) ∧ o.chmodCandidate = .ok () ∧ o.rename = .ok ())) :
    ∃ message left, stageCandidate o candidate s = .error (.failed message) { s with candidate := left } := by
  unfold stageCandidate
  cases copied : o.copyCandidate with
  | failed message left => exact ⟨message, left, rfl⟩
  | done mode =>
    rcases outcome_cases o.chmodCandidate with chmod | ⟨message, chmod⟩
    · rcases outcome_cases o.rename with rename | ⟨message, rename⟩
      · exact absurd ⟨⟨mode, copied⟩, chmod, rename⟩ fails
      · rw [chmod, rename]
        exact ⟨message, some ⟨candidate.content, 0o644⟩, rfl⟩
    · rw [chmod]
      exact ⟨message, some ⟨candidate.content, mode⟩, rfl⟩

variable (candidate) in
theorem replaceTarget_ok (path : String) (replaces : Replaces o s.target) (empty : s.previous = none)
    {name : String} :
    ∃ t, replaceTarget o path name candidate s.target.isSome { s with directory := some name } = .ok () t ∧
      Replaced s candidate name t := by
  obtain ⟨backup, saved, content⟩ :=
    savePrevious_ok (s := { s with directory := some name }) path name replaces.saved
  refine ⟨⟨some ⟨candidate.content, 0o644⟩, s.lock, some name, backup, none⟩, ?_, ?_⟩
  · unfold replaceTarget
    rw [bind_done saved]
    exact stageCandidate_ok replaces.staged replaces.chmod replaces.rename
  · exact ⟨rfl, rfl, rfl, content empty⟩

variable (candidate) in
/-- An error before the `rename` leaves the target as it is. -/
theorem replaceTarget_error (path : String) {name : String} (named : o.mkdtemp = .ok name)
    (fails : ¬ Replaces o s.target) :
    ∃ message t, replaceTarget o path name candidate s.target.isSome s = .error (.failed message) t ∧
      t.target = s.target := by
  unfold replaceTarget
  by_cases saved : s.target.isSome = true → o.lstat = .ok () ∧ ∃ mode, o.copyPrevious = .done mode
  · obtain ⟨backup, done, -⟩ := savePrevious_ok path name saved
    have unstaged :
        ¬ ((∃ mode, o.copyCandidate = .done mode) ∧ o.chmodCandidate = .ok () ∧ o.rename = .ok ()) := by
      rintro ⟨staged, chmod, rename⟩
      exact fails ⟨⟨name, named⟩, saved, staged, chmod, rename⟩
    obtain ⟨message, left, failed⟩ := stageCandidate_error candidate { s with previous := backup } unstaged
    exact ⟨message, _, (bind_done done).trans failed, rfl⟩
  · obtain ⟨message, left, failed⟩ := savePrevious_error path name saved
    exact ⟨message, _, bind_failed failed, rfl⟩

/-! ## The rollback -/

/-- The last part of a rollback leaves the target, and removes the directory or fails. -/
theorem reload_target (moved : s.candidate = none) :
    (Restores o s.previous → ∃ t, (validateAndReload o.redeploy >>= fun _ => cleanupTransaction o.recover) s = .ok () t ∧
      t.target = s.target) ∧
    (¬ Restores o s.previous → ∃ message t,
      (validateAndReload o.redeploy >>= fun _ => cleanupTransaction o.recover) s = .error (.failed message) t ∧
      t.target = s.target) := by
  constructor
  · rintro ⟨pass, clears⟩
    exact ⟨_, (bind_done (validateAndReload_ok pass)).trans (cleanup_ok clears moved), rfl⟩
  · intro fails
    by_cases pass : o.redeploy.Pass
    · obtain ⟨message, previous, failed, -⟩ := cleanup_error (fun clears => fails ⟨pass, clears⟩) moved
      exact ⟨message, _, (bind_done (validateAndReload_ok pass)).trans failed, rfl⟩
    · obtain ⟨message, failed⟩ := validateAndReload_error pass
      exact ⟨message, s, bind_failed failed, rfl⟩

/-- How a rollback that has the copy of the previous file ends. -/
theorem restoreTarget_previous (path name : String) {kept : RegularFile} (there : s.previous = some kept)
    (moved : s.candidate = none) (previousMode : Nat) :
    (∀ message left, o.copyBack = .failed message left →
      restoreTarget o path name true previousMode s = .error (.failed message) { s with target := left }) ∧
    (∀ mode message, o.copyBack = .done mode → o.chmodBack = .error message →
      restoreTarget o path name true previousMode s =
        .error (.failed message) { s with target := some ⟨kept.content, mode⟩ }) ∧
    (∀ mode, o.copyBack = .done mode → o.chmodBack = .ok () →
      (Restores o s.previous → ∃ t, restoreTarget o path name true previousMode s = .ok () t ∧
        t.target = some ⟨kept.content, previousMode⟩) ∧
      (¬ Restores o s.previous → ∃ message t,
        restoreTarget o path name true previousMode s = .error (.failed message) t ∧
        t.target = some ⟨kept.content, previousMode⟩)) := by
  obtain ⟨target, lock, directory, previous, staged⟩ := s
  cases there
  cases moved
  refine ⟨?_, ?_, ?_⟩
  · intro message left copied
    unfold restoreTarget
    rw [copied]
    rfl
  · intro mode message copied chmod
    unfold restoreTarget
    rw [copied, chmod]
    rfl
  · intro mode copied chmod
    have run : restoreTarget o path name true previousMode ⟨target, lock, directory, some kept, none⟩ =
        (validateAndReload o.redeploy >>= fun _ => cleanupTransaction o.recover)
          ⟨some ⟨kept.content, previousMode⟩, lock, directory, some kept, none⟩ := by
      unfold restoreTarget
      rw [copied, chmod]
      rfl
    rw [run]
    exact reload_target (s := ⟨some ⟨kept.content, previousMode⟩, lock, directory, some kept, none⟩) rfl

/-- Without the copy there is nothing to go back to. -/
theorem restoreTarget_lost (path name : String) (gone : s.previous = none) (previousMode : Nat) :
    ∃ message, restoreTarget o path name true previousMode s = .error (.failed message) s := by
  obtain ⟨target, lock, directory, previous, staged⟩ := s
  cases gone
  exact ⟨_, rfl⟩

/-- How a rollback to no file ends. -/
theorem restoreTarget_absent (path name : String) {new : RegularFile} (there : s.target = some new)
    (moved : s.candidate = none) (previousMode : Nat) :
    (o.unlinkTarget = .ok () → (∃ t, restoreTarget o path name false previousMode s = .ok () t ∧ t.target = none) ∨
      ∃ message t, restoreTarget o path name false previousMode s = .error (.failed message) t ∧ t.target = none) ∧
    (∀ message, o.unlinkTarget = .error message →
      restoreTarget o path name false previousMode s = .error (.failed message) s) := by
  obtain ⟨target, lock, directory, previous, staged⟩ := s
  cases there
  cases moved
  constructor
  · intro unlink
    have run : restoreTarget o path name false previousMode ⟨some new, lock, directory, previous, none⟩ =
        (validateAndReload o.redeploy >>= fun _ => cleanupTransaction o.recover)
          ⟨none, lock, directory, previous, none⟩ := by
      unfold restoreTarget
      rw [unlink]
      rfl
    rw [run]
    obtain ⟨done, failed⟩ := reload_target (o := o) (s := ⟨none, lock, directory, previous, none⟩) rfl
    by_cases restores : Restores o previous
    · exact .inl (done restores)
    · exact .inr (failed restores)
  · intro message unlink
    unfold restoreTarget
    rw [unlink]
    rfl

end

end Fireball.Deployment
