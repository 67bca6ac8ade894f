import Mathlib.Data.List.TakeWhile
import Montage.Proofs.Disk.Removal
import Montage.Proofs.Render.Names
import Montage.Proofs.Render.Notice
import Montage.Scenario.World

namespace Montage

/-!
# Leftovers of jobs

Every file of a job is in the account of its workspace before it is written to,
and when the job ends, its files are removed; only the output of a composition
that is done stays. But the removal stops at a name that no file can have: the
files of the account that come later are left.
-/

/-- What jobs have around them: the records of all jobs, and the disk. -/
structure Scene where
  registry : Registry
  disk : Disk

/-- A path is one that a job may give to a file of its own. -/
def Submission.OwnsPath
    (submission : Submission)
    (directory path : Path) :
    Prop :=
  ∃ suffix,
    FileSuffix submission.references suffix ∧
    path = directory.join (submission.jobId ++ suffix)

namespace Scene

/-- A path is the output file of a record that was dropped in between. -/
def Dropped
    (before after : Scene)
    (path : Path) :
    Prop :=
  ∃ job : Job,
    before.registry.find? job.id = some job ∧
    after.registry.find? job.id = none ∧
    job.outputFile? = some path

/--
What the answer to a call does to the disk. Directories are made and files are
removed as on any disk. The registry may remove the output files of records
that it drops, which are none of this job's. Other calls, however they are
answered, may leave anything at their own targets, but spare the other files of
the directory.
-/
def DiskAnswers
    (submission : Submission)
    (directory : Path)
    (before : Scene) :
    (call : Call) → call.Answer → Scene → Prop
  | .makeDirectories path, answer, after =>
      (answer, after.disk) = before.disk.makeDirectories path
  | .removeFiles paths, answer, after =>
      (answer, after.disk) = before.disk.cleanup paths
  | .tell _, _, after =>
      ∀ path,
        submission.OwnsPath directory path ∨ ¬ Dropped before after path →
        after.disk.fileAt? path = before.disk.fileAt? path
  | call, _, after =>
      (∀ target ∈ call.targets, target.IsIn directory) →
      ∀ path, path.IsIn directory → path ∉ call.targets →
        after.disk.fileAt? path = before.disk.fileAt? path

/-- The scene around a job: others ask the registry about other jobs, and leave
the files of this one. -/
def surroundings
    (hook : EvictionHook)
    (submission : Submission)
    (directory : Path) :
    Surroundings Scene where
  meanwhile before after :=
    (Registry.surroundings hook submission.jobId).meanwhile before.registry
      after.registry ∧
    ∀ path, submission.OwnsPath directory path →
      after.disk.fileAt? path = before.disk.fileAt? path
  answers before call answer after :=
    Registry.Answers hook before.registry call answer after.registry ∧
    DiskAnswers submission directory before call answer after

/-- The registry of a scene is the one around the job. -/
theorem registry_views
    (hook : EvictionHook)
    (submission : Submission)
    (directory : Path) :
    Run.Views Scene.registry (surroundings hook submission directory)
      (Registry.surroundings hook submission.jobId) where
  meanwhile := And.left
  answers := And.left

end Scene

/--
What an event may do to the file at a path that is none of the job's: nothing,
but for the outputs of dropped records; and where the directory is made, all
that stands on the disk stays.
-/
inductive Spared
    (directory path : Path)
    (event : Event Scene) :
    Prop
  | left
      (same :
        event.after.disk.fileAt? path = event.before.disk.fileAt? path)
  | dropped
      (isOutput : Scene.Dropped event.before event.after path)
  | prepared
      (prepares : event.call = .makeDirectories directory)
      (stays :
        ∀ place entry,
          event.before.disk.entry? place = some entry →
          event.after.disk.entry? place = some entry)

/--
What remains of the files in an account, after the last events of a job. There
were none; or they were removed up to the first name that no file can have,
which is all that can make the removal fail, and nothing was written later.
-/
inductive Cleared
    (workspace : Workspace)
    (final : Scene) :
    List (Event Scene) → Prop
  | nothing
      (empty : workspace.files = []) :
      Cleared workspace final []
  | removed
      {before after : Scene}
      {removed : Outcome Unit}
      {sending : List (Event Scene)}
      (succeeds :
        removed = .ok () ↔
          ∀ path ∈ workspace.disposable, path.isUsable = true)
      (remains :
        ∀ path ∈ workspace.files,
          final.disk.fileAt? path =
            if path ∈ workspace.disposable.takeWhile Path.isUsable then none
            else before.disk.fileAt? path)
      (sends : ∀ event ∈ sending, event.call.isSending = true) :
      Cleared workspace final
        ({ before
           call := .removeFiles workspace.disposable
           answer := removed
           after } :: sending)

/-- What a run of a job makes of files, with the account and the record that it
has at the end. -/
structure Tidied
    (server : RenderServer)
    (submission : Submission)
    (events : List (Event Scene))
    (final : Scene)
    (workspace : Workspace)
    (record : Job) :
    Prop where
  /-- What the job writes to is in the account before, and then the account is
  cleared. -/
  cleared :
    ∃ writing ending,
      events = writing ++ ending ∧
      Tracked submission.references (submission.startingFiles server).workspace
        writing workspace ∧
      Cleared workspace final ending
  /-- All other paths of the directory are spared from first to last. -/
  spared :
    ∀ event ∈ events, ∀ path,
      path.IsIn server.tempDirectory →
      path ∉ workspace.files →
      Spared server.tempDirectory path event
  found : final.registry.find? submission.jobId = some record
  /-- All is removed but the output of a composition that is done. -/
  excepted :
    ∀ path,
      path ∈ workspace.disposable ↔
        path ∈ workspace.files ∧
        ¬ (submission.request.isComposition = true ∧
          record.status = .done ∧
          path = workspace.named "_output.mp4")
  /-- Only the extension of an asset can stop the removal. -/
  gone :
    NameableExtensions submission.references →
    ∀ path ∈ workspace.disposable, final.disk.fileAt? path = none

/-- What is removed is what is in the account and was not excepted. -/
theorem Workspace.mem_disposable_iff
    {workspace : Workspace}
    {path : Path} :
    path ∈ workspace.disposable ↔
      path ∈ workspace.files ∧ path ∉ workspace.kept := by
  simp [disposable]

section Files

variable {hook : EvictionHook} {submission : Submission} {directory : Path}

/-- The paths of a job are names in its directory. -/
theorem Submission.OwnsPath.isIn
    (accepted : isJobId submission.jobId = true)
    {path : Path}
    (owns : submission.OwnsPath directory path) :
    path.IsIn directory := by
  obtain ⟨suffix, isSuffix, isNamed⟩ := owns
  let workspace : Workspace := { jobId := submission.jobId, root := directory }
  have isIn : (workspace.named suffix).IsIn workspace.root :=
    Workspace.named_isIn accepted isSuffix
  rw [isNamed]
  exact isIn

/-- Along an event whose targets are in the account of the job, every other
path of the directory is spared. -/
theorem Scene.spared_of_answers
    {workspace : Workspace}
    {event : Event Scene}
    (isIn : ∀ path ∈ workspace.files, path.IsIn directory)
    (answered :
      (surroundings hook submission directory).answers event.before event.call
        event.answer event.after)
    (prepares :
      ∀ path, event.call = .makeDirectories path → path = directory)
    (tracked : ∀ target ∈ event.call.targets, target ∈ workspace.files)
    {path : Path}
    (pathIsIn : path.IsIn directory)
    (elsewhere : path ∉ workspace.files) :
    Spared directory path event := by
  obtain ⟨before, call, answer, after⟩ := event
  obtain ⟨_, touched⟩ := answered
  have inside : ∀ target ∈ call.targets, target.IsIn directory :=
    fun target isTarget => isIn target (tracked target isTarget)
  have noTarget : path ∉ call.targets := fun isTarget =>
    elsewhere (tracked path isTarget)
  cases call with
  | makeDirectories other =>
      refine .prepared (congrArg _ (prepares other rfl)) ?_
      intro place entry stands
      have disk : after.disk = (before.disk.makeDirectories other).2 :=
        congrArg Prod.snd touched
      rw [disk]
      exact Disk.entry?_makeDirectories other stands
  | removeFiles paths =>
      have disk : after.disk = (before.disk.cleanup paths).2 :=
        congrArg Prod.snd touched
      have notRemoved : path ∉ paths.takeWhile Path.isUsable := fun member =>
        noTarget ((List.takeWhile_sublist _).subset member)
      have left := Disk.fileAt?_cleanup inside pathIsIn before.disk
      simp only [Call.targets, notRemoved, ↓reduceIte] at left
      exact .left (disk ▸ left)
  | tell update =>
      by_cases isOutput : Scene.Dropped before after path
      · exact .dropped isOutput
      · exact .left (touched path (Or.inr isOutput))
  | _ => exact .left (touched inside path pathIsIn noTarget)

/-- While a document is sent, the files of the job stay as they are. -/
theorem Scene.fileAt?_of_sending
    {α : Type}
    {program : Program α}
    {value : α}
    {state final : Scene}
    {events : List (Event Scene)}
    (run :
      Run (surroundings hook submission directory) state program events value
        final)
    (sends : ∀ event ∈ events, event.call.isSending = true)
    {path : Path}
    (owns : submission.OwnsPath directory path)
    (isIn : path.IsIn directory) :
    final.disk.fileAt? path = state.disk.fileAt? path := by
  induction run with
  | done state value => rfl
  | @step state before after final call next answer events value others
      answered rest inductionHypothesis =>
      have sending := sends _ List.mem_cons_self
      have later :=
        inductionHypothesis fun event member =>
          sends event (List.mem_cons_of_mem _ member)
      have during : after.disk.fileAt? path = before.disk.fileAt? path := by
        cases call with
        | post address document =>
            exact answered.2 (by simp [Call.targets]) path isIn
              (by simp [Call.targets])
        | sleep seconds =>
            exact answered.2 (by simp [Call.targets]) path isIn
              (by simp [Call.targets])
        | _ => cases sending
      exact later.trans (during.trans (others.2 path owns))

/-- The account of a job names paths of the job only. -/
theorem Tracked.owned
    {State : Type}
    {server : RenderServer}
    {events : List (Event State)}
    {workspace : Workspace}
    (tracked :
      Tracked submission.references
        (submission.startingFiles server).workspace events workspace) :
    ∀ path ∈ workspace.files,
      submission.OwnsPath server.tempDirectory path := by
  intro path member
  rcases tracked.extended.names path member with isOld | isNamed
  · cases isOld
  · exact isNamed

/-- The files of a job that were removed stay removed, and no other file of the
job comes or goes later. -/
theorem Cleared.of_removal
    {workspace : Workspace}
    {uncleaned cleaned final : Scene}
    {removed outcome : Outcome Unit}
    {sending : List (Event Scene)}
    {program : Program (Outcome Unit)}
    (accepted : isJobId submission.jobId = true)
    (owned :
      ∀ path ∈ workspace.files, submission.OwnsPath directory path)
    (removes :
      (Scene.surroundings hook submission directory).answers uncleaned
        (.removeFiles workspace.disposable) removed cleaned)
    (limited : program.Limited fun call => call.isSending = true)
    (sends :
      Run (Scene.surroundings hook submission directory) cleaned program
        sending outcome final) :
    Cleared workspace final
      ({ before := uncleaned
         call := .removeFiles workspace.disposable
         answer := removed
         after := cleaned } :: sending) := by
  have sendsOnly := limited.of_run sends
  have result : removed = (uncleaned.disk.cleanup workspace.disposable).1 :=
    congrArg Prod.fst removes.2
  have disk :
      cleaned.disk = (uncleaned.disk.cleanup workspace.disposable).2 :=
    congrArg Prod.snd removes.2
  have inside :
      ∀ other ∈ workspace.disposable, other.IsIn directory := by
    intro other isDisposable
    have member := (Workspace.mem_disposable_iff.mp isDisposable).1
    exact (owned other member).isIn accepted
  refine .removed ?_ ?_ sendsOnly
  · rw [result]
    exact Disk.cleanup_eq_ok_iff uncleaned.disk workspace.disposable
  · intro path member
    have owns := owned path member
    rw [Scene.fileAt?_of_sending sends sendsOnly owns (owns.isIn accepted),
      disk, Disk.fileAt?_cleanup inside (owns.isIn accepted)]

/-- After the account was removed, no event has other targets, and none makes
directories. -/
theorem Cleared.spares
    {workspace : Workspace}
    {final : Scene}
    {events : List (Event Scene)}
    (cleared : Cleared workspace final events) :
    ∀ event ∈ events,
      (∀ path, event.call ≠ .makeDirectories path) ∧
      ∀ target ∈ event.call.targets, target ∈ workspace.files := by
  cases cleared with
  | nothing empty => simp
  | removed succeeds remains sends =>
      intro event member
      rcases List.mem_cons.mp member with isRemoval | isSending
      · subst isRemoval
        exact ⟨fun _ => by simp, fun target isTarget =>
          (Workspace.mem_disposable_iff.mp isTarget).1⟩
      · have sending := sends event isSending
        cases call : event.call with
        | post address document => exact ⟨by simp, by simp [Call.targets]⟩
        | sleep seconds => exact ⟨by simp, by simp [Call.targets]⟩
        | _ =>
            rw [call] at sending
            cases sending

/-- What can be removed is gone if files can have all names in an account. -/
theorem Cleared.gone
    {workspace : Workspace}
    {final : Scene}
    {events : List (Event Scene)}
    (cleared : Cleared workspace final events)
    (usable : ∀ path ∈ workspace.files, path.isUsable = true) :
    ∀ path ∈ workspace.disposable, final.disk.fileAt? path = none := by
  intro path isDisposable
  have member := (Workspace.mem_disposable_iff.mp isDisposable).1
  have allUsable :
      workspace.disposable.takeWhile Path.isUsable = workspace.disposable := by
    apply List.takeWhile_eq_self_iff.mpr
    intro other isOther
    exact usable other (Workspace.mem_disposable_iff.mp isOther).1
  cases cleared with
  | nothing empty =>
      rw [empty] at member
      cases member
  | removed succeeds remains sends =>
      rw [remains path member, allUsable, if_pos isDisposable]

/-- The paths in the account of a job can be used unless an extension of an
asset forbids this. -/
theorem Tracked.usable
    {State : Type}
    {server : RenderServer}
    {events : List (Event State)}
    {workspace : Workspace}
    (accepted : isJobId submission.jobId = true)
    (usable : server.tempDirectory.isUsable = true)
    (nameable : NameableExtensions submission.references)
    (tracked :
      Tracked submission.references
        (submission.startingFiles server).workspace events workspace) :
    ∀ path ∈ workspace.files, path.isUsable = true := by
  intro path member
  obtain ⟨suffix, isSuffix, isNamed⟩ := tracked.owned path member
  let start := (submission.startingFiles server).workspace
  have isUsable : (start.named suffix).isUsable = true :=
    Workspace.named_isUsable accepted usable nameable isSuffix
  rw [isNamed]
  exact isUsable

end Files

namespace Submission

variable {hook : EvictionHook} {submission : Submission}
  {events : List (Event Scene)} {final : Scene} {outcome : Outcome Unit}

/-- Until the files are removed, every target is in the account before it is
written to, and no directory is made but that of the job. -/
theorem writing_of_run
    {State : Type}
    {surroundings : Surroundings State}
    {settings : Settings}
    {storageBase : Option String}
    (preparation : Event State)
    (prepares :
      preparation.call =
        .makeDirectories
          (RenderServer.ofSettings settings storageBase).tempDirectory)
    {ready worked settled : State}
    {working settling : List (Event State)}
    {ended notice : Outcome Fields}
    {files : JobFiles}
    (works :
      Run surroundings ready
        ((submission.work (.ofSettings settings storageBase)).start
          (submission.startingFiles (.ofSettings settings storageBase)))
        working (ended, files) worked)
    (settles :
      Run surroundings worked (submission.settle ended) settling notice
        settled) :
    Tracked submission.references
        (submission.startingFiles (.ofSettings settings storageBase)).workspace
        ((preparation :: working) ++ settling) files.workspace ∧
      ∀ event ∈ (preparation :: working) ++ settling, ∀ path,
        event.call = .makeDirectories path →
        path =
          (RenderServer.ofSettings settings storageBase).tempDirectory := by
  obtain ⟨tracked, worksOnly⟩ :=
    (work_followsPlan settings storageBase submission).of_run works
  have settlesOnly := (settle_limited submission ended).of_run settles
  refine ⟨Tracked.append (.call ?_ tracked) (.of_isTell settlesOnly), ?_⟩
  · rw [prepares]
    simp [Call.targets]
  · intro event member path makes
    rcases List.mem_append.mp member with inWork | inSettling
    · rcases List.mem_cons.mp inWork with isPreparation | inWorking
      · rw [isPreparation, prepares] at makes
        cases makes
        rfl
      · exact ((worksOnly event inWorking).ne_makeDirectories path makes).elim
    · have works : event.call.isWork := Or.inr (settlesOnly event inSettling)
      exact (works.ne_makeDirectories path makes).elim

/-- What is excepted from removal is the output of a composition, if the record
is done at the end. -/
theorem record_of_run
    {directory : Path}
    {settings : Settings}
    {storageBase : Option String}
    {queued : Job}
    {ready worked settled uncleaned cleaned : Scene}
    {working settling sending : List (Event Scene)}
    {ended notice : Outcome Fields}
    {files : JobFiles}
    {removed : Outcome Unit}
    (owned : ready.registry.Owned submission.jobId queued)
    (running : queued.Running)
    (isQueued : queued.status = .queued)
    (works :
      Run (Scene.surroundings hook submission directory) ready
        ((submission.work (.ofSettings settings storageBase)).start
          (submission.startingFiles (.ofSettings settings storageBase)))
        working (ended, files) worked)
    (settles :
      Run (Scene.surroundings hook submission directory) worked
        (submission.settle ended) settling notice settled)
    (others :
      (Scene.surroundings hook submission directory).meanwhile settled
        uncleaned)
    (removes :
      (Scene.surroundings hook submission directory).answers uncleaned
        (.removeFiles files.workspace.disposable) removed cleaned)
    (sends :
      Run (Scene.surroundings hook submission directory) cleaned
        (submission.sendNotice (.ofSettings settings storageBase) removed
          notice)
        sending outcome final) :
    ∃ record,
      final.registry.find? submission.jobId = some record ∧
      files.workspace.kept =
        if submission.request.isComposition = true ∧ record.status = .done then
          [files.workspace.named "_output.mp4"]
        else
          [] := by
  obtain ⟨record, ownedAtEnd, kept⟩ :=
    ending_course (Scene.registry_views hook submission directory)
      (Path.ofText_canonical _) owned running isQueued works settles others
      removes sends
  exact ⟨record, ownedAtEnd.found, kept⟩

/-- Without its directory a job reserves no file. -/
theorem tidied_of_unprepared
    {server : RenderServer}
    {queued : Job}
    {before : Scene}
    {failure : Failure}
    (owned : before.registry.Owned submission.jobId queued)
    (prepared :
      (Scene.surroundings hook submission server.tempDirectory).answers before
        (.makeDirectories server.tempDirectory) (.error failure) final) :
    Tidied server submission
      [{ before
         call := .makeDirectories server.tempDirectory
         answer := .error failure
         after := final }]
      final (submission.startingFiles server).workspace queued where
  cleared :=
    ⟨_, [], (List.append_nil _).symm, .call (by simp [Call.targets]) (.ended _),
      .nothing rfl⟩
  spared := by
    intro event member path isIn elsewhere
    rw [List.mem_singleton.mp member]
    refine Scene.spared_of_answers (by simp [startingFiles]) prepared ?_
      (by simp [Call.targets]) isIn elsewhere
    rintro _ ⟨⟩
    rfl
  found := by
    have sameRegistry : final.registry = before.registry := prepared.1
    rw [sameRegistry]
    exact owned.found
  excepted := by simp [startingFiles, Workspace.disposable]
  gone := by simp [startingFiles, Workspace.disposable]

/--
Whatever happened before a job was taken in, whatever is done to other jobs
while it runs, and whatever its calls are answered and leave in their targets:
when the run ends, every path that the job wrote to is in an account, since
before the first write; every other path of the directory was spared by each
event; the account was removed, except for the output of a composition that is
done, up to the first path that no file can have; and after the removal nothing
is written. So if files can have the extensions of all assets, nothing else is
left.
-/
theorem leftovers_of_run
    {request : RenderRequest}
    (accepted : request.submission = .ok submission)
    (limit highWater : Int)
    (lifetime : Binary64)
    (history : List RegistryCall)
    (project : Json)
    (now later : Binary64)
    {queued : Job}
    (admitted :
      (((Registry.opened limit highWater lifetime).play hook history).enroll
        submission.jobId project now later hook).result = .ok queued)
    (disk : Disk)
    (settings : Settings)
    (storageBase : Option String)
    (run :
      Run
        (Scene.surroundings hook submission
          (RenderServer.ofSettings settings storageBase).tempDirectory)
        { registry :=
            (((Registry.opened limit highWater lifetime).play hook
              history).enroll submission.jobId project now later
                hook).registry.startTask submission.jobId
          disk }
        (submission.run (.ofSettings settings storageBase)) events outcome
        final) :
    ∃ workspace record,
      Tidied (.ofSettings settings storageBase) submission events final
        workspace record := by
  have isId := RenderRequest.isJobId_of_submission accepted
  have wellKeyed :
      ((Registry.opened limit highWater lifetime).play hook
        history).WellKeyed :=
    (Registry.opened_wellKeyed limit highWater lifetime).play hook history
  obtain ⟨started, isQueued, running⟩ :=
    Registry.started_of_admitted wellKeyed admitted
  have answers := run.answers_of_mem
  have phases := run_phases run
  cases phases with
  | unprepared others prepared =>
      exact ⟨_, queued, tidied_of_unprepared (started.meanwhile others.1)
        prepared⟩
  | @cleaned before ready worked settled uncleaned cleaned _ working settling
      sending ended files notice removed _ others prepared works settles
      othersAgain removes sends =>
      -- What is excepted depends on the record, which only the registry knows.
      have ownedReady := started.meanwhile others.1
      have sameRegistry : ready.registry = before.registry := prepared.1
      rw [← sameRegistry] at ownedReady
      obtain ⟨record, found, kept⟩ :=
        record_of_run ownedReady running isQueued works settles othersAgain
          removes sends
      let preparation : Event Scene := {
        before
        call := .makeDirectories
          (RenderServer.ofSettings settings storageBase).tempDirectory
        answer := .ok ()
        after := ready }
      obtain ⟨writing, prepares⟩ :=
        writing_of_run preparation rfl works settles
      have cleared : Cleared files.workspace final _ :=
        .of_removal isId writing.owned removes (sendNotice_limited _ _ _ _)
          sends
      refine ⟨files.workspace, record, ⟨_, _, rfl, writing, cleared⟩, ?_,
        found, ?_, ?_⟩
      · intro event member path pathIsIn elsewhere
        have isIn :
            ∀ other ∈ files.workspace.files,
              other.IsIn
                (RenderServer.ofSettings settings storageBase).tempDirectory :=
          fun other isTracked => (writing.owned other isTracked).isIn isId
        have answered := answers event member
        rcases List.mem_append.mp member with isEarlier | isLater
        · exact Scene.spared_of_answers isIn answered
            (prepares event isEarlier) (writing.targets_mem event isEarlier)
            pathIsIn elsewhere
        · obtain ⟨makesNone, targets⟩ := cleared.spares event isLater
          exact Scene.spared_of_answers isIn answered
            (fun other makes => (makesNone other makes).elim) targets pathIsIn
            elsewhere
      · intro path
        rw [Workspace.mem_disposable_iff, kept]
        by_cases offered :
            submission.request.isComposition = true ∧ record.status = .done
        · rw [if_pos offered]
          simp [offered]
        · rw [if_neg offered, ← and_assoc]
          simp [offered]
      · intro nameable
        have directory := Disk.isUsable_of_makeDirectories
          (congrArg Prod.fst prepared.2).symm
        exact cleared.gone (writing.usable isId directory nameable)

end Submission

/-! ## A file that is left -/

namespace Scene

/-- Keep a disk that an operation left, if it succeeded. -/
def keepDisk
    (scene : Scene)
    (outcome : Outcome Disk) :
    Outcome Unit × Scene :=
  match outcome with
  | .ok disk => (.ok (), { scene with disk })
  | .error failure => (.error failure, scene)

theorem fileAt?_keepDisk
    {scene : Scene}
    {outcome : Outcome Disk}
    {path : Path}
    (spares :
      ∀ disk, outcome = .ok disk →
        disk.fileAt? path = scene.disk.fileAt? path) :
    (scene.keepDisk outcome).2.disk.fileAt? path =
      scene.disk.fileAt? path := by
  cases outcome with
  | ok disk => exact spares disk rfl
  | error failure => rfl

/-- Surroundings with a disk, where every address holds one byte. -/
def answer (scene : Scene) : (call : Call) → call.Answer × Scene
  | .makeDirectories path =>
      let made := scene.disk.makeDirectories path
      (made.1, { scene with disk := made.2 })
  | .removeFiles paths =>
      let cleaned := scene.disk.cleanup paths
      (cleaned.1, { scene with disk := cleaned.2 })
  | .writeFile path content => scene.keepDisk (scene.disk.write path content)
  | .appendFile path content => scene.keepDisk (scene.disk.append path content)
  | .request _ => (.ok { status := 200, body := [0] }, scene)
  | .tell update =>
      let told := scene.registry.favourable (.tell update)
      (told.1, { scene with registry := told.2 })
  | call => (call.favourable, scene)

theorem answer_possible
    (submission : Submission)
    (directory : Path)
    (scene : Scene)
    (call : Call) :
    (surroundings (fun _ => none) submission directory).answers scene call
      (scene.answer call).1 (scene.answer call).2 := by
  have sameRegistry :
      ∀ outcome, (scene.keepDisk outcome).2.registry = scene.registry := by
    intro outcome
    cases outcome <;> rfl
  cases call with
  | makeDirectories path => exact ⟨rfl, rfl⟩
  | removeFiles paths => exact ⟨rfl, rfl⟩
  | tell update =>
      exact ⟨Registry.favourable_possible submission.jobId scene.registry
        (.tell update), fun _ _ => rfl⟩
  | writeFile target content =>
      refine ⟨sameRegistry _, fun inside path isIn elsewhere => ?_⟩
      exact fileAt?_keepDisk fun disk isWritten =>
        Disk.fileAt?_write_of_ne (inside target List.mem_cons_self) isIn
          (List.ne_of_not_mem_cons elsewhere) isWritten
  | appendFile target content =>
      refine ⟨sameRegistry _, fun inside path isIn elsewhere => ?_⟩
      exact fileAt?_keepDisk fun disk isWritten =>
        Disk.fileAt?_append_of_ne (inside target List.mem_cons_self) isIn
          (List.ne_of_not_mem_cons elsewhere) isWritten
  | _ => exact ⟨rfl, fun _ _ _ _ => rfl⟩

end Scene

/-- A video whose extension has a character that no file name can hold. -/
def RenderRequest.unnameable : RenderRequest where
  jobId := some "a"
  projectId := none
  callbackUrl := some "http://client.test/done"
  timeline := none
  output := none
  videoUrl := some "http://web.test/v.\x00"
  audioUrl := some "http://web.test/s.mp3"
  effects := {}
  text := none
  subtitleUrl := none
  subtitleContent := none

/-- Its video cannot be fetched, its sound can, and the sound is left. -/
theorem leftover_of_unnameable_extension :
    ∃ events final workspace record,
      Tidied (.ofSettings {} none) { jobId := "a", request := .unnameable }
        events final workspace record ∧
      record.status = .error ∧
      final.disk.fileAt? (.ofText "/tmp/ffrender/a_asset_1.mp3") =
        some [0] := by
  let submission : Submission := { jobId := "a", request := .unnameable }
  let server := RenderServer.ofSettings {} none
  let hook : EvictionHook := fun _ => none
  let started : Scene := {
    registry :=
      (((Registry.opened 1 5 60).play hook []).enroll submission.jobId .null 0
        0 hook).registry.startTask submission.jobId
    disk := {} }
  have accepted : RenderRequest.unnameable.submission = .ok submission := by
    rfl
  have admitted :
      (((Registry.opened 1 5 60).play hook []).enroll submission.jobId .null 0
        0 hook).result = .ok (Registry.fresh "a" .null 0) := by
    rfl
  obtain ⟨events, run⟩ :=
    Run.of_answers Scene.answer
      (fun scene => ⟨⟨[], by simp, rfl⟩, fun _ _ => rfl⟩ :
        ∀ scene,
          (Scene.surroundings hook submission
            server.tempDirectory).meanwhile scene scene)
      (Scene.answer_possible submission server.tempDirectory) started
      (submission.run server)
  have hasFailed :
      (((submission.run server).run Scene.answer started).2.registry.find?
        "a").map Job.status = some .error := by
    decide +kernel
  have isLeft :
      ((submission.run server).run Scene.answer started).2.disk.fileAt?
        (.ofText "/tmp/ffrender/a_asset_1.mp3") = some [0] := by
    decide +kernel
  generalize (submission.run server).run Scene.answer started = ended
    at run hasFailed isLeft
  obtain ⟨workspace, record, tidied⟩ :=
    Submission.leftovers_of_run accepted 1 5 60 [] .null 0 0 admitted {} {}
      none run
  have found : ended.2.registry.find? "a" = some record := tidied.found
  have recordFailed : record.status = .error := by
    rw [found] at hasFailed
    simpa using hasFailed
  exact ⟨events, ended.2, workspace, record, tidied, recordFailed, isLeft⟩

end Montage
