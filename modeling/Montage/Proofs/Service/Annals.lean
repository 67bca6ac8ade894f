import Mathlib.Logic.Relation
import Montage.Proofs.Registry.Slots
import Montage.Proofs.Service.Production

namespace Montage

/-!
# Annals of the service

The service, with all that its jobs did. A step takes one job in or refuses it,
answers one call of one job, or ends a job, as before; but the annals keep every
run, from the scene in which it started to the one that it left, also when it is
over. All ids that a request may have are taken in.
-/

/-- A run of a job: the scene in which it started, and what it did since, the
earliest first. -/
structure JobRun where
  submission : Submission
  start : Scene
  events : List (Event Scene) := []

/-- A run that goes on, and what is left of its program. -/
structure LiveRun extends JobRun where
  rest : Program (Outcome Unit)

/-- A run that is over, and the scene that it left. -/
structure PastRun extends JobRun where
  left : Scene

/-- The service, the runs that go on, and those that are over, the latest
first. -/
structure Annals where
  scene : Scene
  live : List LiveRun := []
  past : List PastRun := []

/-- A run with one event more. -/
def JobRun.extended
    (run : JobRun)
    (event : Event Scene) :
    JobRun :=
  { run with events := run.events ++ [event] }

/-- The scene in which the run of a job starts that is taken in. -/
def Scene.started
    (scene : Scene)
    (request : RenderRequest)
    (submission : Submission)
    (now later : Binary64) :
    Scene :=
  (scene.applied
    (scene.enrollment request submission now later)).withTask submission.jobId

namespace Annals

/-- A service with limits and a disk, before anything has happened. -/
def opened
    (limit highWater : Int)
    (lifetime : Binary64)
    (disk : Disk) :
    Annals where
  scene := { registry := .opened limit highWater lifetime, disk }

/--
What can happen next. The directory of files in work, which is made when the
service starts, stands whenever a job asks for it.
-/
inductive Step (server : RenderServer) : Annals → Annals → Prop
  | admitted
      {scene : Scene}
      {live : List LiveRun}
      {past : List PastRun}
      {request : RenderRequest}
      {submission : Submission}
      {now later : Binary64}
      {job : Job}
      (accepted : request.submission = .ok submission)
      (taken :
        (scene.enrollment request submission now later).result = .ok job) :
      Step server { scene, live, past } {
        scene := scene.started request submission now later
        live :=
          live ++ [{
            submission
            start := scene.started request submission now later
            rest := submission.run server }]
        past }
  | refused
      {scene : Scene}
      {live : List LiveRun}
      {past : List PastRun}
      {request : RenderRequest}
      {submission : Submission}
      {now later : Binary64}
      {failure : Failure}
      (accepted : request.submission = .ok submission)
      (failed :
        (scene.enrollment request submission now later).result =
          .error failure) :
      Step server { scene, live, past } {
        scene :=
          scene.applied (scene.enrollment request submission now later)
        live
        past }
  | called
      {before after : Scene}
      {front back : List LiveRun}
      {past : List PastRun}
      {run : JobRun}
      {call : Call}
      {next : call.Answer → Program (Outcome Unit)}
      {answer : call.Answer}
      (answered : before.Answers server.tempDirectory call answer after)
      (standing :
        ∀ path, call = .makeDirectories path →
          before.disk.isDirectory path = true) :
      Step server {
        scene := before
        live := front ++ { run with rest := .step call next } :: back
        past } {
        scene := after
        live :=
          front ++
            { run.extended { before, call, answer, after } with
              rest := next answer } :: back
        past }
  | ended
      {scene : Scene}
      {front back : List LiveRun}
      {past : List PastRun}
      {run : JobRun}
      {outcome : Outcome Unit} :
      Step server {
        scene
        live := front ++ { run with rest := .done outcome } :: back
        past } {
        scene := scene.withoutTask run.submission.jobId
        live := front ++ back
        past := { run with left := scene } :: past }

end Annals

/-! ## What a step leaves to other jobs -/

namespace Scene

/-- Every record that tells of an output tells of that of its id. -/
def TellsOwn
    (server : RenderServer)
    (scene : Scene) :
    Prop :=
  ∀ id job,
    scene.registry.find? id = some job →
    job.outputPath ≠ .null →
    isJobId id = true ∧
    job.outputPath = .text (server.outputOf id).toText

/-- What becomes of a record and an output that nobody works on: they stay, or
they go; and an output goes if and when the record goes that tells of it. -/
structure Rests
    (server : RenderServer)
    (id : String)
    (before after : Scene) :
    Prop where
  record :
    after.registry.find? id = before.registry.find? id ∨
      after.registry.find? id = none
  output :
    after.disk.fileAt? (server.outputOf id) =
        before.disk.fileAt? (server.outputOf id) ∨
      after.disk.fileAt? (server.outputOf id) = none ∧
        after.registry.find? id = none ∧
        ∃ job,
          before.registry.find? id = some job ∧
          job.outputFile? = some (server.outputOf id)
  dropped :
    ∀ job,
      before.registry.find? id = some job →
      job.outputFile? = some (server.outputOf id) →
      after.registry.find? id = none →
      after.disk.fileAt? (server.outputOf id) = none

section Rests

variable {server : RenderServer} {id : String} {first second third : Scene}

theorem Rests.refl
    (server : RenderServer)
    (id : String)
    (scene : Scene) :
    Rests server id scene scene where
  record := Or.inl rfl
  output := Or.inl rfl
  dropped := by
    intro job found _ gone
    rw [found] at gone
    cases gone

theorem Rests.trans
    (earlier : Rests server id first second)
    (later : Rests server id second third) :
    Rests server id first third where
  record := by
    rcases later.record with same | gone
    · rw [same]
      exact earlier.record
    · exact Or.inr gone
  output := by
    rcases later.output with same | ⟨gone, noRecord, job, found, tells⟩
    · rcases earlier.output with sameBefore | ⟨gone, noRecord, told⟩
      · exact Or.inl (same.trans sameBefore)
      · refine Or.inr ⟨same.trans gone, ?_, told⟩
        rcases later.record with sameRecord | noRecordNow
        · exact sameRecord.trans noRecord
        · exact noRecordNow
    · refine Or.inr ⟨gone, noRecord, job, ?_, tells⟩
      rcases earlier.record with same | absent
      · exact same.symm.trans found
      · exact absurd (found.symm.trans absent) (by simp)
  dropped := by
    intro job found tells gone
    rcases earlier.record with same | goneBefore
    · exact later.dropped job (same.trans found) tells gone
    · have goneFile := earlier.dropped job found tells goneBefore
      rcases later.output with same | ⟨goneLater, _⟩
      · exact same.trans goneFile
      · exact goneLater

end Rests

section Sweeps

variable {server : RenderServer} {before : Scene} {α : Type}
  {change : Change α} {id : String}

/-- The outputs of dropped records are those of their ids. -/
theorem TellsOwn.mem_dropped_iff
    (canonical : server.tempDirectory.Canonical)
    (telling : before.TellsOwn server)
    (dropsIdle : before.registry.DropsIdle change)
    (path : Path) :
    path ∈ change.evicted.filterMap Job.outputFile? ↔
      ∃ job ∈ change.evicted,
        job.outputPath ≠ .null ∧
        isJobId job.id = true ∧
        path = server.outputOf job.id := by
  rw [List.mem_filterMap]
  refine exists_congr fun job => and_congr_right fun isEvicted => ?_
  have found := (dropsIdle job isEvicted).1
  constructor
  · intro isOutput
    have tells : job.outputPath ≠ .null := by
      intro silent
      rw [Job.outputFile?_of_null silent] at isOutput
      cases isOutput
    obtain ⟨accepted, isOwn⟩ := telling job.id job found tells
    rw [Job.outputFile?_of_isOutput canonical accepted isOwn] at isOutput
    exact ⟨tells, accepted, (Option.some.inj isOutput).symm⟩
  · rintro ⟨tells, accepted, rfl⟩
    exact Job.outputFile?_of_isOutput canonical accepted
      (telling job.id job found tells).2

/-- The outputs of all ids can be used if the directory can. -/
theorem outputOf_isUsable
    (usable : server.tempDirectory.isUsable = true)
    (accepted : isJobId id = true) :
    (server.outputOf id).isUsable = true := by
  let workspace : Workspace := { jobId := id, root := server.tempDirectory }
  have isOutput : FileSuffix [] "_output.mp4" := .output
  have nameable : NameableExtensions [] := by
    intro reference member
    cases member
  exact workspace.named_isUsable accepted usable nameable isOutput

/-- A change removes the output of an id if it drops the record that tells of
it, and leaves it otherwise. -/
theorem applied_output
    (canonical : server.tempDirectory.Canonical)
    (usable : server.tempDirectory.isUsable = true)
    (telling : before.TellsOwn server)
    (dropsIdle : before.registry.DropsIdle change)
    (accepted : isJobId id = true) :
    ((∃ job ∈ change.evicted, job.id = id ∧ job.outputPath ≠ .null) →
      (before.applied change).disk.fileAt? (server.outputOf id) = none) ∧
    ((∀ job ∈ change.evicted, job.id = id → job.outputPath = .null) →
      (before.applied change).disk.fileAt? (server.outputOf id) =
        before.disk.fileAt? (server.outputOf id)) := by
  have isDropped := telling.mem_dropped_iff canonical dropsIdle
  have inside :
      ∀ path ∈ change.evicted.filterMap Job.outputFile?,
        path.IsIn server.tempDirectory := by
    intro path member
    obtain ⟨job, _, _, acceptedJob, rfl⟩ := (isDropped path).mp member
    exact RenderServer.outputOf_isIn acceptedJob
  have allUsable :
      (change.evicted.filterMap Job.outputFile?).takeWhile Path.isUsable =
        change.evicted.filterMap Job.outputFile? := by
    rw [List.takeWhile_eq_self_iff]
    intro path member
    obtain ⟨job, _, _, acceptedJob, rfl⟩ := (isDropped path).mp member
    exact outputOf_isUsable usable acceptedJob
  have removed :=
    Disk.fileAt?_cleanup inside (RenderServer.outputOf_isIn accepted)
      before.disk
  rw [allUsable] at removed
  constructor
  · rintro ⟨job, isEvicted, rfl, tells⟩
    exact removed.trans <| if_pos <|
      (isDropped _).mpr ⟨job, isEvicted, tells, accepted, rfl⟩
  · intro silent
    refine removed.trans (if_neg fun member => ?_)
    obtain ⟨job, isEvicted, tells, acceptedJob, sameOutput⟩ :=
      (isDropped _).mp member
    refine tells (silent job isEvicted ?_)
    by_contra different
    exact RenderServer.outputOf_ne accepted acceptedJob different sameOutput

/-- A change leaves a record that it does not write, or drops it with its
output. -/
theorem Rests.applied
    (canonical : server.tempDirectory.Canonical)
    (usable : server.tempDirectory.isUsable = true)
    (telling : before.TellsOwn server)
    (dropsIdle : before.registry.DropsIdle change)
    (tellsDropped : before.registry.TellsDropped change)
    (accepted : isJobId id = true)
    (record :
      change.registry.find? id = before.registry.find? id ∨
        change.registry.find? id = none) :
    Rests server id before (before.applied change) := by
  obtain ⟨goes, stays⟩ :=
    applied_output canonical usable telling dropsIdle accepted
  refine ⟨record, ?_, ?_⟩
  · by_cases isDropped :
        ∃ job ∈ change.evicted, job.id = id ∧ job.outputPath ≠ .null
    · have gone := goes isDropped
      obtain ⟨job, isEvicted, rfl, tells⟩ := isDropped
      obtain ⟨found, _, noRecord⟩ := dropsIdle job isEvicted
      exact Or.inr ⟨gone, noRecord, job, found,
        Job.outputFile?_of_isOutput canonical accepted
          (telling job.id job found tells).2⟩
    · refine Or.inl (stays fun job isEvicted isJob => ?_)
      by_contra tells
      exact isDropped ⟨job, isEvicted, isJob, tells⟩
  · intro job found tells gone
    obtain ⟨dropped, isEvicted, rfl⟩ :=
      tellsDropped id (Option.isSome_of_eq_some found) gone
    have same : dropped = job :=
      Option.some.inj ((dropsIdle dropped isEvicted).1.symm.trans found)
    subst same
    refine goes ⟨dropped, isEvicted, rfl, fun silent => ?_⟩
    rw [Job.outputFile?_of_null silent] at tells
    cases tells

end Sweeps

/-- A call that tells nothing leaves the paths of the directory that it does not
target. -/
theorem Answers.fileAt?_eq
    {directory path : Path}
    {before after : Scene}
    {call : Call}
    {answer : call.Answer}
    (answers : before.Answers directory call answer after)
    (standing :
      ∀ other, call = .makeDirectories other →
        before.disk.isDirectory other = true)
    (tellsNot : call.isTell = false)
    (inside : ∀ target ∈ call.targets, target.IsIn directory)
    (isIn : path.IsIn directory)
    (spared : path ∉ call.targets) :
    after.disk.fileAt? path = before.disk.fileAt? path := by
  cases call with
  | tell update => cases tellsNot
  | holds other => rw [answers.1]
  | makeDirectories other =>
      have made :=
        answers.2.trans
          (Disk.makeDirectories_of_isDirectory (standing other rfl))
      rw [(Prod.mk.inj made).2]
  | removeFiles paths =>
      have notRemoved : path ∉ paths.takeWhile Path.isUsable := fun member =>
        spared ((List.takeWhile_sublist _).subset member)
      rw [answers.fileAt?_removeFiles inside isIn, if_neg notRemoved]
  | _ => exact answers.2 inside path isIn spared

/-- What a step of the job with an id makes of a scene: it asks the registry
about this id only, and leaves the records and outputs of all others, unless
they are dropped. -/
structure Moves
    (server : RenderServer)
    (id : String)
    (before after : Scene) :
    Prop where
  calls :
    ∃ calls : List RegistryCall,
      (∀ call ∈ calls, call.id? = some id) ∧
      after.registry = before.registry.play removesOutput calls
  wellKeyed : after.registry.WellKeyed
  telling : after.TellsOwn server
  rests :
    ∀ other,
      isJobId other = true →
      other ≠ id →
      Rests server other before after

namespace Moves

variable {server : RenderServer} {before after : Scene} {id : String}
  {submission : Submission}

/-- A call that tells nothing moves the scene. -/
theorem answered
    {call : Call}
    {answer : call.Answer}
    (wellKeyed : before.registry.WellKeyed)
    (telling : before.TellsOwn server)
    (accepted : isJobId submission.jobId = true)
    (orders : submission.Orders server call)
    (answers : before.Answers server.tempDirectory call answer after)
    (standing :
      ∀ path, call = .makeDirectories path →
        before.disk.isDirectory path = true)
    (tellsNot : call.isTell = false) :
    Moves server submission.jobId before after := by
  have same := answers.registry_eq tellsNot
  refine {
    calls := ⟨[], by simp, same⟩
    wellKeyed := same ▸ wellKeyed
    telling := fun other job found => telling other job (same ▸ found)
    rests := fun other otherAccepted different => ?_ }
  have sameFile :=
    answers.fileAt?_eq standing tellsNot
      (fun target isTarget => (orders.owned target isTarget).isIn accepted)
      (RenderServer.outputOf_isIn otherAccepted)
      (fun isTarget =>
        (orders.owned _ isTarget).ne_outputOf accepted otherAccepted different
          rfl)
  refine ⟨Or.inl (same ▸ rfl), Or.inl sameFile, ?_⟩
  intro job found _ gone
  rw [same, found] at gone
  cases gone

/-- A change about one id moves the scene, if the record of the id tells of no
output but its own after it. -/
theorem applied
    {α : Type}
    {change : Change α}
    {call : RegistryCall}
    (canonical : server.tempDirectory.Canonical)
    (usable : server.tempDirectory.isUsable = true)
    (wellKeyed : before.registry.WellKeyed)
    (telling : before.TellsOwn server)
    (about : call.id? = some id)
    (isRun : change.registry = call.run removesOutput before.registry)
    (dropsIdle : before.registry.DropsIdle change)
    (tellsDropped : before.registry.TellsDropped change)
    (own :
      ∀ job,
        change.registry.find? id = some job →
        job.outputPath ≠ .null →
        isJobId id = true ∧
        job.outputPath = .text (server.outputOf id).toText) :
    Moves server id before (before.applied change) := by
  have elsewhere {other : String} (different : other ≠ id) :
      change.registry.find? other = before.registry.find? other ∨
        change.registry.find? other = none := by
    have notAbout : call.id? ≠ some other := by
      rw [about]
      simpa using different.symm
    exact isRun ▸ Registry.find?_run_of_ne wellKeyed removesOutput notAbout
  have wellKeyedAfter : change.registry.WellKeyed :=
    isRun ▸ wellKeyed.run removesOutput call
  refine ⟨⟨[call], by simpa using about, isRun⟩, wellKeyedAfter, ?_, ?_⟩
  · intro other job found tells
    by_cases isOwn : other = id
    · subst isOwn
      exact own job found tells
    · rcases elsewhere isOwn with same | gone
      · exact telling other job (same.symm.trans found) tells
      · exact absurd (found.symm.trans gone) (by simp)
  · intro other otherAccepted different
    exact .applied canonical usable telling dropsIdle tellsDropped
      otherAccepted (elsewhere different)

/-- What is told moves the scene, and leaves the job its slot and its output. -/
theorem told
    {update : StatusUpdate}
    {answer : (Call.tell update).Answer}
    {record : Job}
    (canonical : server.tempDirectory.Canonical)
    (usable : server.tempDirectory.isUsable = true)
    (telling : before.TellsOwn server)
    (accepted : isJobId submission.jobId = true)
    (owned : before.registry.Owned submission.jobId record)
    (orders : submission.Orders server (.tell update))
    (answers :
      before.Answers server.tempDirectory (.tell update) answer after) :
    Moves server submission.jobId before after ∧
    after.disk.fileAt? (server.outputOf submission.jobId) =
      before.disk.fileAt? (server.outputOf submission.jobId) ∧
    ∃ changed, after.registry.Owned submission.jobId changed := by
  obtain ⟨ofJob, ownOutput⟩ := orders.told update rfl
  obtain ⟨now, later, _, isApplied⟩ := answers
  rw [← ofJob] at accepted owned ownOutput ⊢
  let call : RegistryCall :=
    .tell update.jobId update.status.name update.progress update.fields now
      later
  have dropsIdle :=
    Registry.tell_dropsIdle owned.wellKeyed owned.holds update.status.name
      (.ofInteger? update.progress) update.fields now later removesOutput
  have tellsDropped :=
    Registry.tell_tellsDropped before.registry update.jobId
      update.status.name (.ofInteger? update.progress) update.fields now later
      removesOutput
  obtain ⟨changed, ownedAfter, cases⟩ :=
    owned.tell_cases update.status update.progress update.fields now later
      removesOutput
  subst isApplied
  refine ⟨?_, ?_, changed, ownedAfter⟩
  · refine applied canonical usable owned.wellKeyed telling
      (rfl : call.id? = some update.jobId) rfl dropsIdle tellsDropped ?_
    intro job found tells
    have same : job = changed :=
      Option.some.inj (found.symm.trans ownedAfter.found)
    subst same
    rcases cases with same | ⟨_, touched, isUpdated⟩
    · exact telling _ job (same ▸ owned.found) tells
    · -- The output is the one from before, or one that was told.
      let isOwn (output : Json) : Prop :=
        output ≠ .null →
          output = .text (server.outputOf update.jobId).toText
      have before : isOwn record.outputPath := fun given =>
        (telling _ record owned.found given).2
      have written :
          isOwn
            (record.updated update.status (.ofInteger? update.progress)
              update.fields).2.outputPath :=
        Job.updated_outputPath before
          (fun value member _ => ownOutput value member) _ _
      rw [isUpdated] at tells ⊢
      exact ⟨accepted, written tells⟩
  · refine (applied_output canonical usable telling dropsIdle accepted).2 ?_
    intro job isEvicted same
    obtain ⟨_, noSlot, _⟩ := dropsIdle job isEvicted
    rw [same, owned.holds] at noSlot
    cases noSlot

/-- To take a job in moves the scene. -/
theorem enrollment
    (canonical : server.tempDirectory.Canonical)
    (usable : server.tempDirectory.isUsable = true)
    (wellKeyed : before.registry.WellKeyed)
    (telling : before.TellsOwn server)
    (request : RenderRequest)
    (submission : Submission)
    (now later : Binary64) :
    Moves server submission.jobId before
      (before.applied (before.enrollment request submission now later)) := by
  let call : RegistryCall :=
    .enroll submission.jobId (.ofText? request.projectId) now later
  refine applied canonical usable wellKeyed telling
    (rfl : call.id? = some submission.jobId) rfl
    (Registry.enroll_dropsIdle wellKeyed submission.jobId
      (.ofText? request.projectId) now later removesOutput)
    (Registry.enroll_tellsDropped before.registry submission.jobId
      (.ofText? request.projectId) now later removesOutput) ?_
  intro job found tells
  have foundAfter :
      (call.run removesOutput before.registry).find? submission.jobId =
        some job :=
    found
  cases Registry.run_origin wellKeyed foundAfter with
  | kept foundBefore => exact telling submission.jobId job foundBefore tells
  | entered replaces => exact (tells rfl).elim
  | updated isTell named updates =>
      simp only [call, reduceCtorEq] at isTell

/-- A job that is taken in gets its task. -/
theorem withTask
    (moves : Moves server id before after) :
    Moves server id before (after.withTask id) where
  calls := by
    obtain ⟨calls, ofId, played⟩ := moves.calls
    refine ⟨calls ++ [.startTask id], ?_, ?_⟩
    · intro call member
      rcases List.mem_append.mp member with isOld | isNew
      · exact ofId call isOld
      · rw [List.mem_singleton.mp isNew]
        rfl
    · unfold Registry.play at played ⊢
      rw [List.foldl_append, ← played]
      rfl
  wellKeyed := ⟨moves.wellKeyed.idsNodup, moves.wellKeyed.keyed⟩
  telling := moves.telling
  rests := fun other accepted different =>
    ⟨(moves.rests other accepted different).record,
      (moves.rests other accepted different).output,
      (moves.rests other accepted different).dropped⟩

/-- A job that ends loses its task. -/
theorem withoutTask
    (wellKeyed : before.registry.WellKeyed)
    (telling : before.TellsOwn server)
    (id : String) :
    Moves server id before (before.withoutTask id) where
  calls := ⟨[.finish id], by simp [RegistryCall.id?], rfl⟩
  wellKeyed := wellKeyed.run removesOutput (.finish id)
  telling := telling
  rests := fun other _ _ =>
    ⟨Or.inl rfl, Or.inl rfl, (Rests.refl server other before).dropped⟩

/-- For any other job that holds a slot, what moves the scene is done by
others. -/
theorem meanwhile
    {other : Submission}
    {record : Job}
    (moves : Moves server id before after)
    (accepted : isJobId other.jobId = true)
    (different : other.jobId ≠ id)
    (owned : before.registry.Owned other.jobId record) :
    (outputSurroundings server other).meanwhile before after := by
  obtain ⟨calls, ofId, played⟩ := moves.calls
  have elsewhere : ∀ call ∈ calls, call.id? ≠ some other.jobId := by
    intro call member
    rw [ofId call member]
    simpa using different.symm
  refine ⟨⟨calls, elsewhere, played⟩, ?_⟩
  have kept : after.registry.find? other.jobId = some record := by
    rw [played]
    exact (owned.play removesOutput elsewhere).found
  rcases (moves.rests other.jobId accepted different).output with
    same | ⟨_, gone, _⟩
  · exact same
  · rw [kept] at gone
    cases gone

/-- A call of a job moves the scene, and is answered to the job as its
surroundings may answer. -/
theorem called
    {call : Call}
    {answer : call.Answer}
    {record : Job}
    (canonical : server.tempDirectory.Canonical)
    (usable : server.tempDirectory.isUsable = true)
    (telling : before.TellsOwn server)
    (accepted : isJobId submission.jobId = true)
    (owned : before.registry.Owned submission.jobId record)
    (orders : submission.Orders server call)
    (answers : before.Answers server.tempDirectory call answer after)
    (standing :
      ∀ path, call = .makeDirectories path →
        before.disk.isDirectory path = true) :
    Moves server submission.jobId before after ∧
    (outputSurroundings server submission).answers before call answer after ∧
    ∃ changed, after.registry.Owned submission.jobId changed := by
  cases isTell : call.isTell with
  | true =>
      cases call with
      | tell update =>
          obtain ⟨moves, same, changed, ownedAfter⟩ :=
            told canonical usable telling accepted owned orders answers
          obtain ⟨now, later, isAnswer, isApplied⟩ := answers
          exact ⟨moves, ⟨⟨now, later, isAnswer, isApplied ▸ rfl⟩,
            fun _ => same⟩, changed, ownedAfter⟩
      | _ => cases isTell
  | false =>
      have same := answers.registry_eq isTell
      have isIn :
          (server.outputOf submission.jobId).IsIn server.tempDirectory :=
        RenderServer.outputOf_isIn accepted
      have inside :
          ∀ target ∈ call.targets, target.IsIn server.tempDirectory :=
        fun target isTarget => (orders.owned target isTarget).isIn accepted
      refine ⟨answered owned.wellKeyed telling accepted orders answers
        standing isTell, ⟨?_, ?_⟩, record, same ▸ owned⟩
      · cases call with
        | tell update => cases isTell
        | _ => exact same
      · cases call with
        | removeFiles paths =>
            exact answers.fileAt?_removeFiles inside isIn
        | holds path =>
            obtain ⟨unchanged, isHolds, noDirectory⟩ := answers
            refine ⟨unchanged ▸ rfl, ?_⟩
            rintro rfl isThere
            exact Disk.exists_fileAt?_of_holds (isHolds.symm.trans isThere)
              noDirectory
        | _ => exact answers.fileAt?_eq standing isTell inside isIn

end Moves

section Enrollment

variable {server : RenderServer} {before : Scene} {request : RenderRequest}
  {submission : Submission} {now later : Binary64}

/-- To take a job in leaves the output that stood under its id. -/
theorem output_enrolled
    {job : Job}
    (canonical : server.tempDirectory.Canonical)
    (usable : server.tempDirectory.isUsable = true)
    (wellKeyed : before.registry.WellKeyed)
    (telling : before.TellsOwn server)
    (accepted : isJobId submission.jobId = true)
    (taken :
      (before.enrollment request submission now later).result = .ok job) :
    (before.applied
        (before.enrollment request submission now later)).disk.fileAt?
          (server.outputOf submission.jobId) =
      before.disk.fileAt? (server.outputOf submission.jobId) := by
  have dropsIdle :=
    Registry.enroll_dropsIdle wellKeyed submission.jobId
      (.ofText? request.projectId) now later removesOutput
  obtain ⟨_, owned⟩ := Registry.Owned.of_enroll wellKeyed taken
  refine (applied_output canonical usable telling dropsIdle accepted).2 ?_
  intro dropped isEvicted same
  have gone := (dropsIdle dropped isEvicted).2.2
  rw [same] at gone
  exact absurd (owned.found.symm.trans gone) (by simp)

/-- A job that is refused is refused before anything changes, since no output
of a record stops the sweep. -/
theorem applied_of_refused
    {failure : Failure}
    (canonical : server.tempDirectory.Canonical)
    (usable : server.tempDirectory.isUsable = true)
    (wellKeyed : before.registry.WellKeyed)
    (telling : before.TellsOwn server)
    (failed :
      (before.enrollment request submission now later).result =
        .error failure) :
    before.applied (before.enrollment request submission now later) =
      before := by
  unfold enrollment at failed ⊢
  rcases Registry.enroll_cases before.registry submission.jobId
      (.ofText? request.projectId) now later removesOutput with
    ⟨_, error, isRefused⟩ | ⟨_, isTaken⟩
  · rw [isRefused]
    rfl
  · have wellKeyedAfter :=
      wellKeyed.entered submission.jobId (.ofText? request.projectId) now
    have harmless :
        ∀ entry ∈
          (before.registry.entered submission.jobId
            (.ofText? request.projectId) now).jobs,
          EvictionHook.SparesCaller removesOutput entry.2 := by
      rintro ⟨id, job⟩ member
      apply removesOutput_suits.spares
      by_contra notUsable
      have tells : job.outputPath ≠ .null := fun silent =>
        notUsable (Or.inl silent)
      have found := wellKeyedAfter.find?_eq_some_iff.mpr member
      by_cases isOwn : id = submission.jobId
      · subst isOwn
        rw [Registry.find?_entered_self] at found
        cases found
        exact tells rfl
      · rw [Registry.find?_entered_of_ne _ isOwn] at found
        obtain ⟨accepted, isOutput⟩ := telling id job found tells
        refine notUsable (Or.inr ⟨_, isOutput, ?_⟩)
        rw [RenderServer.ofText_outputOf canonical]
        exact outputOf_isUsable usable accepted
    rw [isTaken, Registry.dropStaleFor,
      Registry.dropStale_ok harmless later] at failed
    cases failed

end Enrollment

end Scene

end Montage
