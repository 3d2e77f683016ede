import Fireball.Deployment.Install

/-!
# The installation as a transaction

* `Ending`: how the part under the lock ends, by where the target is left;
* `locked_ending`: it ends in one of these ways;
* `ending_released`, `ending_unreleased`: what the removal of the lock makes of it;
* `install_transactional_iff`: when the installation is a transaction.
-/

namespace Fireball.Deployment

open Foundation

/-! ## What a transaction is -/

/-- The files before an installation, when another deployment has the lock or none has. -/
def Files.before (target : Option RegularFile) (locked : Bool) : Files :=
  ⟨target, if locked then some .another else none, none, none, none⟩

/-- The same, once this deployment has the lock. -/
def Files.held (target : Option RegularFile) : Files := ⟨target, some .thisDeployment, none, none, none⟩

/-- The content of the previous file is at the target, or in the directory that the error reports. -/
def Recoverable (file : RegularFile) (directory : String) (after : Files) : Prop :=
  (∃ now, after.target = some now ∧ now.content = file.content) ∨
    after.directory = some directory ∧ ∃ kept, after.previous = some kept ∧ kept.content = file.content

def Transactional (previous : Option RegularFile) (candidate : RegularFile) :
    EStateM.Result InstallError Files Bool → Prop
  | .ok _ after => after.target = some ⟨candidate.content, 0o644⟩ ∧ after.directory = none
  | .error (.incomplete _ _ directory) after =>
    ∀ file, previous = some file → Recoverable file directory after
  | .error _ after => after.target = previous

/-- The files that a finished installation leaves. -/
def filesOf {α : Type} : EStateM.Result InstallError Files α → Files
  | .ok _ after => after
  | .error _ after => after

/-! ## When it is one -/

def Deploys (o : Outcomes) (previous : Option RegularFile) : Prop :=
  o.deploy.Pass ∧ o.finish.Clears previous

/-- The copy of the previous file is deleted, and then the directory stays. -/
def Discards (o : Outcomes) (previous : Option RegularFile) : Prop :=
  o.deploy.Pass ∧ previous.isSome = true ∧ o.finish.unlinkPrevious = .ok () ∧ o.finish.rmdir ≠ .ok ()

/-- `Recovers` for a previous file, whose mode above the permission bits is not kept. -/
def RestoresMode (o : Outcomes) (file : RegularFile) : Prop :=
  match o.copyBack with
  | .failed _ left => o.rmdirLock = .ok () ∨ left = some file
  | .done mode => (o.chmodBack = .ok () → file.mode < 0o1000 ∨ o.rmdirLock = .ok () ∧ ¬ Restores o (some file)) ∧
    (o.chmodBack ≠ .ok () → o.rmdirLock = .ok () ∨ mode = file.mode)

/-- The rollback leaves the target as it was, or is reported to be incomplete. -/
def Recovers (o : Outcomes) : Option RegularFile → Prop
  | none => o.unlinkTarget = .ok () ∨ o.rmdirLock = .ok ()
  | some file => RestoresMode o file

/-- What has to hold of the calls once the target is replaced. -/
structure Safe (o : Outcomes) (previous : Option RegularFile) (candidate : RegularFile) : Prop where
  deployed : Deploys o previous → o.rmdirLock = .ok () ∨ previous = some ⟨candidate.content, 0o644⟩
  discarded : Discards o previous → ∃ file, previous = some file ∧ file.content = candidate.content ∧
    (o.rmdirLock = .ok () ∨ file.mode = 0o644)
  restored : ¬ Deploys o previous → ¬ Discards o previous → Recovers o previous

section
variable {o : Outcomes} {s : Files} {candidate : RegularFile} {target : String}

/-! ## Under the lock -/

/-- The target was replaced, and then a command or the cleanup failed with the copy of a
previous file still there. -/
structure RollsBack (o : Outcomes) (previous : Option RegularFile) : Prop where
  replaces : Replaces o previous
  fails : ¬ Deploys o previous
  kept : ¬ Discards o previous

/-- How the part under the lock ends, by where the target is left. -/
inductive Ending (o : Outcomes) (previous : Option RegularFile) (candidate : RegularFile) :
    EStateM.Result InstallError Files Bool → Prop
  | untouched {message t} : ¬ Replaces o previous → t.target = previous →
      Ending o previous candidate (.error (.failed message) t)
  | deployed {replaced t} : Replaces o previous → Deploys o previous →
      t.target = some ⟨candidate.content, 0o644⟩ → t.directory = none →
      Ending o previous candidate (.ok replaced t)
  | discarded {message rollback directory t} : Replaces o previous → Discards o previous →
      t.target = some ⟨candidate.content, 0o644⟩ → t.previous = none →
      Ending o previous candidate (.error (.incomplete message rollback directory) t)
  | copyFailed {file message left cause rollback directory t} : RollsBack o previous → previous = some file →
      o.copyBack = .failed message left → t.target = left → Recoverable file directory t →
      Ending o previous candidate (.error (.incomplete cause rollback directory) t)
  | chmodFailed {file mode message cause rollback directory t} : RollsBack o previous → previous = some file →
      o.copyBack = .done mode → o.chmodBack = .error message → t.target = some ⟨file.content, mode⟩ →
      Ending o previous candidate (.error (.incomplete cause rollback directory) t)
  | reloadFailed {file mode cause rollback directory t} : RollsBack o previous → previous = some file →
      o.copyBack = .done mode → o.chmodBack = .ok () → ¬ Restores o previous →
      t.target = some ⟨file.content, file.mode &&& 0o777⟩ →
      Ending o previous candidate (.error (.incomplete cause rollback directory) t)
  | restored {file mode cause t} : RollsBack o previous → previous = some file →
      o.copyBack = .done mode → o.chmodBack = .ok () → Restores o previous →
      t.target = some ⟨file.content, file.mode &&& 0o777⟩ →
      Ending o previous candidate (.error (.restored cause) t)
  | unlinkFailed {message cause rollback directory t} : RollsBack o previous → previous = none →
      o.unlinkTarget = .error message → t.target = some ⟨candidate.content, 0o644⟩ →
      Ending o previous candidate (.error (.incomplete cause rollback directory) t)
  | removed {e t} : RollsBack o previous → previous = none → o.unlinkTarget = .ok () → t.target = none →
      Ending o previous candidate (.error e t)

/-- A deployment that fails leaves what it finds, but perhaps the copy of the previous file. -/
theorem deploy_error (moved : s.candidate = none) (fails : ¬ (o.deploy.Pass ∧ o.finish.Clears s.previous)) :
    ∃ message previous, deploy o s = .error (.failed message) { s with previous := previous } ∧
      (o.deploy.Pass → o.finish.unlinkPrevious = .ok () → previous = none) ∧
      (¬ (o.deploy.Pass ∧ o.finish.unlinkPrevious = .ok ()) → previous = s.previous) := by
  unfold deploy
  by_cases pass : o.deploy.Pass
  · obtain ⟨message, previous, failed, gone, kept⟩ := cleanup_error (fun clears => fails ⟨pass, clears⟩) moved
    refine ⟨message, previous, (bind_done (validateAndReload_ok pass)).trans failed, fun _ => gone, ?_⟩
    exact fun other => kept fun unlink => other ⟨pass, unlink⟩
  · obtain ⟨message, failed⟩ := validateAndReload_error pass
    exact ⟨message, s.previous, bind_failed failed, fun passed => absurd passed pass, fun _ => rfl⟩

theorem rollBack_incomplete {hadPrevious : Bool} {previousMode : Nat} {name : String} {cause e : InstallError}
    {t : Files} (failed : restoreTarget o target name hadPrevious previousMode s = .error e t) :
    rollBack o target name hadPrevious previousMode cause s =
      .error (.incomplete cause.errorMessage e.errorMessage name) t := by
  unfold rollBack
  exact bind_failed (catch_failed failed)

theorem rollBack_restored {hadPrevious : Bool} {previousMode : Nat} {name : String} {cause : InstallError}
    {t : Files} (done : restoreTarget o target name hadPrevious previousMode s = .ok () t) :
    rollBack o target name hadPrevious previousMode cause s = .error (.restored cause.errorMessage) t := by
  unfold rollBack
  exact bind_done (catch_done done)

/-- The part under the lock, once it has its directory. -/
theorem locked_named {name : String} (named : o.mkdtemp = .ok name) :
    installNginxConfigLocked o target candidate s =
      (tryCatch (replaceTarget o target name candidate s.target.isSome)
          (fun error => cleanupTransaction o.abandon >>= fun _ => throw error) >>=
        fun _ => tryCatch (deploy o) (rollBack o target name s.target.isSome
          ((s.target.map fun file => file.mode &&& 0o777).getD 0o644)) >>=
        fun _ => pure s.target.isSome) { s with directory := some name } := by
  unfold installNginxConfigLocked
  rw [named]
  rfl

theorem locked_untouched (fails : ¬ Replaces o s.target) :
    Ending o s.target candidate (installNginxConfigLocked o target candidate s) := by
  cases named : o.mkdtemp with
  | error message =>
    have run : installNginxConfigLocked o target candidate s = .error (.failed message) s := by
      unfold installNginxConfigLocked
      rw [named]
      rfl
    rw [run]
    exact .untouched fails rfl
  | ok name =>
    obtain ⟨message, t, failed, same⟩ :=
      replaceTarget_error candidate (s := { s with directory := some name }) target named fails
    have abandoned : ∃ message' u,
        (cleanupTransaction o.abandon >>= fun _ => (throw (.failed message) : Script Unit)) t =
          .error (.failed message') u ∧ u.target = s.target := by
      rcases cleanup_target o.abandon t with ⟨u, done, kept⟩ | ⟨message', u, fails, kept⟩
      · exact ⟨message, u, bind_done done, kept.trans same⟩
      · exact ⟨message', u, bind_failed fails, kept.trans same⟩
    obtain ⟨message', u, result, kept⟩ := abandoned
    have caught : tryCatch (replaceTarget o target name candidate s.target.isSome)
        (fun error => cleanupTransaction o.abandon >>= fun _ => throw error)
        { s with directory := some name } = .error (.failed message') u :=
      (catch_failed failed).trans result
    rw [locked_named named, bind_failed caught]
    exact .untouched fails kept

theorem Restores.congr {previous backup : Option RegularFile} (same : previous.isSome = backup.isSome) :
    Restores o previous ↔ Restores o backup := by
  unfold Restores Cleanup.Clears
  rw [same]

/-- A rollback, with the copy that the failed deployment has left. -/
theorem rollBack_ending {name : String} {t : Files} (cause : InstallError)
    (rolls : RollsBack o s.target) (replaced : Replaced s candidate name t) :
    ∃ e u, rollBack o target name s.target.isSome ((s.target.map fun file => file.mode &&& 0o777).getD 0o644) cause t =
      .error e u ∧ Ending o s.target candidate (.error e u) := by
  have content := replaced.previous
  cases there : s.target with
  | none =>
    rw [there] at rolls
    obtain ⟨removes, stays⟩ := restoreTarget_absent (o := o) target name replaced.target replaced.moved 0o644
    rcases outcome_cases o.unlinkTarget with unlink | ⟨message, unlink⟩
    · rcases removes unlink with ⟨u, done, gone⟩ | ⟨message, u, failed, gone⟩
      · exact ⟨_, u, rollBack_restored done, .removed rolls rfl unlink gone⟩
      · exact ⟨_, u, rollBack_incomplete failed, .removed rolls rfl unlink gone⟩
    · exact ⟨_, t, rollBack_incomplete (stays message unlink),
        .unlinkFailed rolls rfl unlink replaced.target⟩
  | some file =>
    rw [there] at rolls content
    obtain ⟨kept, backup, same⟩ := Option.map_eq_some_iff.mp content
    have restores : Restores o (some file) ↔ Restores o t.previous := Restores.congr (by rw [backup]; rfl)
    obtain ⟨copyFails, chmodFails, restored⟩ :=
      restoreTarget_previous (o := o) target name backup replaced.moved (file.mode &&& 0o777)
    cases copied : o.copyBack with
    | failed message left =>
      exact ⟨_, _, rollBack_incomplete (copyFails message left copied),
        .copyFailed rolls rfl copied rfl (.inr ⟨replaced.directory, kept, backup, same⟩)⟩
    | done mode =>
      rw [same] at chmodFails restored
      rcases outcome_cases o.chmodBack with chmod | ⟨message, chmod⟩
      · obtain ⟨done, failed⟩ := restored mode copied chmod
        by_cases completes : Restores o (some file)
        · obtain ⟨u, run, target⟩ := done (restores.mp completes)
          exact ⟨_, u, rollBack_restored run, .restored rolls rfl copied chmod completes target⟩
        · obtain ⟨message, u, run, target⟩ := failed fun other => completes (restores.mpr other)
          exact ⟨_, u, rollBack_incomplete run, .reloadFailed rolls rfl copied chmod completes target⟩
      · exact ⟨_, _, rollBack_incomplete (chmodFails mode message copied chmod),
          .chmodFailed rolls rfl copied chmod rfl⟩

/-- How the part under the lock ends. -/
theorem locked_ending (empty : s.previous = none) :
    Ending o s.target candidate (installNginxConfigLocked o target candidate s) := by
  by_cases replaces : Replaces o s.target
  · obtain ⟨name, named⟩ := replaces.directory
    obtain ⟨t, run, replaced⟩ := replaceTarget_ok candidate target replaces empty
    rw [locked_named named, bind_done (catch_done run)]
    have some_iff : t.previous.isSome = s.target.isSome := by
      rw [← Option.isSome_map (f := RegularFile.content), replaced.previous, Option.isSome_map]
    have clears : o.finish.Clears t.previous ↔ o.finish.Clears s.target := by
      unfold Cleanup.Clears
      rw [some_iff]
    by_cases deploys : Deploys o s.target
    · have done : deploy o t = .ok () { t with previous := none, directory := none } :=
        (bind_done (validateAndReload_ok deploys.1)).trans
          (cleanup_ok (clears.mpr deploys.2) replaced.moved)
      rw [bind_done (catch_done done)]
      exact .deployed replaces deploys replaced.target rfl
    · have fails : ¬ (o.deploy.Pass ∧ o.finish.Clears t.previous) := by rwa [clears]
      obtain ⟨message, previous, failed, gone, kept⟩ := deploy_error replaced.moved fails
      by_cases discards : Discards o s.target
      · obtain ⟨pass, there, unlink, stays⟩ := discards
        cases gone pass unlink
        obtain ⟨message', lost⟩ := restoreTarget_lost (o := o) (s := { t with previous := none }) target name rfl
          ((s.target.map fun file => file.mode &&& 0o777).getD 0o644)
        have rolled : rollBack o target name s.target.isSome
            ((s.target.map fun file => file.mode &&& 0o777).getD 0o644) (.failed message) { t with previous := none } =
              .error (.incomplete message message' name) { t with previous := none } := by
          rw [there]
          exact rollBack_incomplete lost
        rw [bind_failed ((catch_failed failed).trans rolled)]
        exact .discarded replaces ⟨pass, there, unlink, stays⟩ replaced.target rfl
      · have rolls : RollsBack o s.target := ⟨replaces, deploys, discards⟩
        have backup : previous.map RegularFile.content = s.target.map RegularFile.content := by
          by_cases unlinked : o.deploy.Pass ∧ o.finish.unlinkPrevious = .ok ()
          · -- nothing was there to be unlinked, or the directory was removed too
            have absent : ¬ s.target.isSome = true := by
              intro there
              refine discards ⟨unlinked.1, there, unlinked.2, ?_⟩
              intro rmdir
              exact deploys ⟨unlinked.1, fun _ => unlinked.2, rmdir⟩
            rw [gone unlinked.1 unlinked.2, Option.not_isSome_iff_eq_none.mp absent]
          · rw [kept unlinked]
            exact replaced.previous
        have left : Replaced s candidate name { t with previous := previous } :=
          ⟨replaced.target, replaced.directory, replaced.moved, backup⟩
        obtain ⟨e, u, rolled, ending⟩ := rollBack_ending (.failed message) rolls left
        rw [bind_failed ((catch_failed failed).trans rolled)]
        exact ending
  · exact locked_untouched replaces

/-! ## The installation -/

/-- What the `finally` makes of a result. -/
def released (o : Outcomes) (result : EStateM.Result InstallError Files Bool) :
    EStateM.Result InstallError Files Bool :=
  match o.rmdirLock, result with
  | .ok (), .ok replaced t => .ok replaced { t with lock := none }
  | .ok (), .error e t => .error e { t with lock := none }
  | .error message, _ => .error (.failed message) (filesOf result)

/-- An installation that gets the lock. -/
theorem install_locked {previous : Option RegularFile} (paths : o.paths = .ok ()) (mkdir : o.mkdirLock = .ok ()) :
    installNginxConfig o target candidate (.before previous false) =
      released o (installNginxConfigLocked o target candidate (.held previous)) := by
  have run : installNginxConfig o target candidate (.before previous false) =
      (tryFinally (installNginxConfigLocked o target candidate)
        (call o.rmdirLock >>= fun _ => modify fun s => { s with lock := none }))
        (.held previous) := by
    unfold installNginxConfig
    rw [paths, mkdir]
    rfl
  rw [run]
  change EStateM.map _ (tryFinally' _ _) _ = _
  simp only [EStateM.map, tryFinally', released]
  rcases outcome_cases o.rmdirLock with rmdir | ⟨message, rmdir⟩ <;> rw [rmdir] <;>
  cases installNginxConfigLocked o target candidate (.held previous) <;>
  rfl

variable (candidate target) in
/-- An installation that does not get it changes nothing. -/
theorem install_refused (previous : Option RegularFile) {locked : Bool}
    (refused : ¬ (locked = false ∧ o.paths = .ok () ∧ o.mkdirLock = .ok ())) :
    ∃ message, installNginxConfig o target candidate (.before previous locked) =
      .error (.failed message) (.before previous locked) := by
  unfold installNginxConfig
  rcases outcome_cases o.paths with paths | ⟨message, paths⟩
  · cases locked with
    | true =>
      rw [paths]
      exact ⟨_, rfl⟩
    | false =>
      rcases outcome_cases o.mkdirLock with mkdir | ⟨message, mkdir⟩
      · exact absurd ⟨rfl, paths, mkdir⟩ refused
      · rw [paths, mkdir]
        exact ⟨message, rfl⟩
  · rw [paths]
    exact ⟨message, rfl⟩

/-! ## When it is a transaction -/

variable {previous : Option RegularFile} {result : EStateM.Result InstallError Files Bool}

theorem released_ok {replaced : Bool} {t : Files} (rmdir : o.rmdirLock = .ok ()) :
    released o (.ok replaced t) = .ok replaced { t with lock := none } := by
  unfold released
  rw [rmdir]

theorem released_throws {e : InstallError} {t : Files} (rmdir : o.rmdirLock = .ok ()) :
    released o (.error e t) = .error e { t with lock := none } := by
  unfold released
  rw [rmdir]

theorem released_error {message : String} (rmdir : o.rmdirLock = .error message) :
    released o result = .error (.failed message) (filesOf result) := by
  unfold released
  rw [rmdir]

theorem Deploys.keeps (deploys : Deploys o previous) : ¬ Discards o previous := by
  rintro ⟨-, -, -, stays⟩
  exact stays deploys.2.2

theorem safe_rollsBack (rolls : RollsBack o previous) :
    (Replaces o previous → Safe o previous candidate) ↔ Recovers o previous := by
  constructor
  · exact fun safe => (safe rolls.replaces).restored rolls.fails rolls.kept
  · exact fun recovers _ => ⟨fun deploys => absurd deploys rolls.fails,
      fun discards => absurd discards rolls.kept, fun _ _ => recovers⟩

/-- The mode that the rollback gives back is the one that was there. -/
theorem mode_kept {file : RegularFile} :
    some (⟨file.content, file.mode &&& 0o777⟩ : RegularFile) = some file ↔ file.mode < 0o1000 := by
  obtain ⟨content, mode⟩ := file
  have low : mode &&& 0o777 = mode % 512 := Nat.and_two_pow_sub_one_eq_mod mode 9
  simp only [Option.some.injEq, RegularFile.mk.injEq, true_and, low]
  omega

theorem restoresMode_failed {file : RegularFile} {message : String} {left : Option RegularFile}
    (copied : o.copyBack = .failed message left) :
    RestoresMode o file ↔ o.rmdirLock = .ok () ∨ left = some file := by
  unfold RestoresMode
  rw [copied]

theorem restoresMode_done {file : RegularFile} {mode : Nat} (copied : o.copyBack = .done mode) :
    RestoresMode o file ↔
      (o.chmodBack = .ok () → file.mode < 0o1000 ∨ o.rmdirLock = .ok () ∧ ¬ Restores o (some file)) ∧
      (o.chmodBack ≠ .ok () → o.rmdirLock = .ok () ∨ mode = file.mode) := by
  unfold RestoresMode
  rw [copied]

/-- A rollback that ends, or that nobody is told of, has to give back the mode. -/
theorem restoresMode_plain {file : RegularFile} {mode : Nat} (copied : o.copyBack = .done mode)
    (chmod : o.chmodBack = .ok ()) (unreported : o.rmdirLock ≠ .ok () ∨ Restores o (some file)) :
    RestoresMode o file ↔ file.mode < 0o1000 := by
  rw [restoresMode_done copied]
  constructor
  · rintro ⟨low, -⟩
    rcases low chmod with low | ⟨removed, incomplete⟩
    · exact low
    · exact absurd unreported (not_or.mpr ⟨not_not.mpr removed, incomplete⟩)
  · exact fun low => ⟨fun _ => .inl low, fun fails => absurd chmod fails⟩

theorem not_ok {outcome : Outcome} {message : String} (error : outcome = .error message) : outcome ≠ .ok () := by
  rintro rfl
  cases error

/-- With the lock removed, the error of the installer tells what has become of the target. -/
theorem ending_released (rmdir : o.rmdirLock = .ok ()) (ending : Ending o previous candidate result) :
    Transactional previous candidate (released o result) ↔
      (Replaces o previous → Safe o previous candidate) := by
  cases ending with
  | untouched fails target =>
    rw [released_throws rmdir]
    exact iff_of_true target fun replaces => absurd replaces fails
  | deployed _ deploys target directory =>
    rw [released_ok rmdir]
    exact iff_of_true ⟨target, directory⟩ fun _ => ⟨fun _ => .inl rmdir,
      fun discards => absurd discards deploys.keeps, fun fails => absurd deploys fails⟩
  | discarded replaces discards target gone =>
    rw [released_throws rmdir]
    constructor
    · intro recoverable _
      refine ⟨fun deploys => absurd discards deploys.keeps, ?_, fun _ keeps => absurd discards keeps⟩
      intro _
      obtain ⟨file, there⟩ := Option.isSome_iff_exists.mp discards.2.1
      refine ⟨file, there, ?_, .inl rmdir⟩
      rcases recoverable file there with ⟨now, found, content⟩ | ⟨-, kept, found, -⟩
      · cases target.symm.trans found
        exact content.symm
      · cases gone.symm.trans found
    · intro safe file there
      obtain ⟨file', there', content, -⟩ := (safe replaces).discarded discards
      cases there.symm.trans there'
      exact .inl ⟨_, target, content.symm⟩
  | copyFailed rolls there copied target recoverable =>
    cases there
    rw [released_throws rmdir, safe_rollsBack rolls]
    refine iff_of_true ?_ ((restoresMode_failed copied).mpr (.inl rmdir))
    rintro _ ⟨⟩
    exact recoverable
  | chmodFailed rolls there copied chmod target =>
    cases there
    rw [released_throws rmdir, safe_rollsBack rolls]
    refine iff_of_true ?_ ((restoresMode_done copied).mpr
      ⟨fun changed => absurd changed (not_ok chmod), fun _ => .inl rmdir⟩)
    rintro _ ⟨⟩
    exact .inl ⟨_, target, rfl⟩
  | reloadFailed rolls there copied chmod incomplete target =>
    cases there
    rw [released_throws rmdir, safe_rollsBack rolls]
    refine iff_of_true ?_ ((restoresMode_done copied).mpr
      ⟨fun _ => .inr ⟨rmdir, incomplete⟩, fun fails => absurd chmod fails⟩)
    rintro _ ⟨⟩
    exact .inl ⟨_, target, rfl⟩
  | restored rolls there copied chmod restores target =>
    cases there
    rw [released_throws rmdir, safe_rollsBack rolls]
    exact ((Eq.congr_left target).trans mode_kept).trans (restoresMode_plain copied chmod (.inr restores)).symm
  | unlinkFailed rolls there unlink target =>
    cases there
    rw [released_throws rmdir, safe_rollsBack rolls]
    refine iff_of_true ?_ (.inr rmdir)
    rintro _ ⟨⟩
  | removed rolls there unlink target =>
    cases there
    rw [released_throws rmdir, safe_rollsBack rolls]
    refine iff_of_true ?_ (.inl unlink)
    rename_i e t
    cases e with
    | failed | restored => exact target
    | incomplete =>
      rintro _ ⟨⟩

/-- When the lock cannot be removed, its error takes the place of the result. -/
theorem ending_unreleased {failure : String} (rmdir : o.rmdirLock = .error failure)
    (ending : Ending o previous candidate result) :
    Transactional previous candidate (released o result) ↔
      (Replaces o previous → Safe o previous candidate) := by
  have stays := not_ok rmdir
  rw [released_error rmdir]
  change (filesOf result).target = previous ↔ _
  cases ending with
  | untouched fails target => exact iff_of_true target fun replaces => absurd replaces fails
  | deployed replaces deploys target =>
    refine Iff.trans (Eq.congr_left target) ?_
    constructor
    · exact fun same _ => ⟨fun _ => .inr same.symm,
        fun discards => absurd discards deploys.keeps, fun fails => absurd deploys fails⟩
    · intro safe
      exact ((safe replaces).deployed deploys).resolve_left stays |>.symm
  | discarded replaces discards target gone =>
    refine Iff.trans (Eq.congr_left target) ?_
    constructor
    · exact fun same _ => ⟨fun deploys => absurd discards deploys.keeps,
        fun _ => ⟨_, same.symm, rfl, .inr rfl⟩, fun _ keeps => absurd discards keeps⟩
    · intro safe
      obtain ⟨⟨content, mode⟩, there, rfl, plain⟩ := (safe replaces).discarded discards
      cases plain.resolve_left stays
      exact there.symm
  | copyFailed rolls there copied target =>
    cases there
    rw [safe_rollsBack rolls]
    refine Iff.trans (Eq.congr_left target) (Iff.trans ?_ (restoresMode_failed copied).symm)
    exact ⟨.inr, fun either => either.resolve_left stays⟩
  | chmodFailed rolls there copied chmod target =>
    cases there
    rw [safe_rollsBack rolls]
    refine (Eq.congr_left target).trans (Iff.trans ?_ (restoresMode_done copied).symm)
    constructor
    · intro same
      exact ⟨fun changed => absurd changed (not_ok chmod),
        fun _ => .inr (congrArg RegularFile.mode (Option.some.inj same))⟩
    · rintro ⟨-, either⟩
      rw [(either (not_ok chmod)).resolve_left stays]
  | reloadFailed rolls there copied chmod incomplete target =>
    cases there
    rw [safe_rollsBack rolls]
    exact ((Eq.congr_left target).trans mode_kept).trans (restoresMode_plain copied chmod (.inl stays)).symm
  | restored rolls there copied chmod restores target =>
    cases there
    rw [safe_rollsBack rolls]
    exact ((Eq.congr_left target).trans mode_kept).trans (restoresMode_plain copied chmod (.inl stays)).symm
  | unlinkFailed rolls there unlink target =>
    cases there
    rw [safe_rollsBack rolls]
    refine Iff.trans (Eq.congr_left target) (iff_of_false ?_ ?_)
    · simp
    · rintro (removed | removed)
      · exact not_ok unlink removed
      · exact stays removed
  | removed rolls there unlink target =>
    cases there
    rw [safe_rollsBack rolls]
    exact iff_of_true target (.inl unlink)

end

/-- **The installation is a transaction** in exactly the runs in which, once the target is
replaced, neither the cleanup deletes the copy of the previous file and then fails, nor the
lock stays, nor a rollback meets a mode above the permission bits, unless that makes no
difference. The lock of another deployment stays. -/
theorem install_transactional_iff (o : Outcomes) (target : String) (candidate : RegularFile)
    (previous : Option RegularFile) (locked : Bool) :
    (locked = true → (filesOf (installNginxConfig o target candidate (.before previous locked))).lock =
      some .another) ∧
    (Transactional previous candidate (installNginxConfig o target candidate (.before previous locked)) ↔
      (locked = false → o.paths = .ok () → o.mkdirLock = .ok () → Replaces o previous →
        Safe o previous candidate)) := by
  by_cases starts : locked = false ∧ o.paths = .ok () ∧ o.mkdirLock = .ok ()
  · obtain ⟨rfl, paths, mkdir⟩ := starts
    refine ⟨fun held => (Bool.false_ne_true held).elim, ?_⟩
    rw [install_locked paths mkdir]
    have ending : Ending o previous candidate (installNginxConfigLocked o target candidate (.held previous)) :=
      locked_ending (s := .held previous) rfl
    have decided :
        Transactional previous candidate (released o (installNginxConfigLocked o target candidate (.held previous))) ↔
          (Replaces o previous → Safe o previous candidate) := by
      rcases outcome_cases o.rmdirLock with rmdir | ⟨failure, rmdir⟩
      · exact ending_released rmdir ending
      · exact ending_unreleased rmdir ending
    exact decided.trans ⟨fun safe _ _ _ => safe, fun safe => safe rfl paths mkdir⟩
  · obtain ⟨message, refused⟩ := install_refused candidate target previous starts
    rw [refused]
    constructor
    · rintro rfl
      rfl
    · exact iff_of_true rfl fun unlocked paths mkdir => absurd ⟨unlocked, paths, mkdir⟩ starts

/-! ## A sample run -/

/-- Every call succeeds, but for the removal of the transaction directory after the
deployment. -/
def directoryStays : Outcomes where
  paths := .ok ()
  mkdirLock := .ok ()
  mkdtemp := .ok "/etc/nginx/conf.d/.fireball.conf.txn-1"
  lstat := .ok ()
  copyPrevious := .done 0o644
  copyCandidate := .done 0o600
  chmodCandidate := .ok ()
  rename := .ok ()
  abandon := ⟨.ok (), .ok (), .ok ()⟩
  deploy := ⟨.ok (), .ok (), .ok ()⟩
  finish := ⟨.ok (), .ok (), .error "EBUSY: resource busy or locked, rmdir"⟩
  copyBack := .done 0o644
  chmodBack := .ok ()
  unlinkTarget := .ok ()
  redeploy := ⟨.ok (), .ok (), .ok ()⟩
  recover := ⟨.ok (), .ok (), .ok ()⟩
  rmdirLock := .ok ()

/-- The rollback is reported to be incomplete, and the previous content is nowhere. -/
theorem previous_content_lost :
    ∃ message rollback directory after,
      installNginxConfig directoryStays "/etc/nginx/conf.d/fireball.conf" ⟨utf8 "new", 0o600⟩
          (.before (some ⟨utf8 "known good", 0o644⟩) false) =
        .error (.incomplete message rollback directory) after ∧
      after.target = some ⟨utf8 "new", 0o644⟩ ∧ after.previous = none ∧
      ¬ Transactional (some ⟨utf8 "known good", 0o644⟩) ⟨utf8 "new", 0o600⟩
        (installNginxConfig directoryStays "/etc/nginx/conf.d/fireball.conf" ⟨utf8 "new", 0o600⟩
          (.before (some ⟨utf8 "known good", 0o644⟩) false)) := by
  refine ⟨_, _, _, _, rfl, rfl, rfl, ?_⟩
  intro recoverable
  rcases recoverable _ rfl with ⟨now, found, content⟩ | ⟨-, kept, found, -⟩
  · cases found
    exact absurd content (by decide)
  · cases found

end Fireball.Deployment
