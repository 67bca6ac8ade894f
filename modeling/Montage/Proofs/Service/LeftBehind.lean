import Montage.Proofs.Service.Served
import Montage.Proofs.Service.SoundAnnals

namespace Montage

/-!
# Outputs that are left behind

An output whose job does not run stands in the directory because the last run of
its id left it there. Either a record tells of it, and it goes with the record;
or the last run left it behind, and no later sweep ever removes it. The next job
with the id finds it, and delivers it if its encoder succeeds and writes nothing.
-/

/-- A run leaves an output behind: it never touched the output that it found from
an earlier run, or its cleanup stopped at a name that no file can have. -/
inductive PastRun.Strands
    (server : RenderServer)
    (earlier : List PastRun)
    (content : Bytes)
    (run : PastRun) :
    Prop
  | inherited
      {former : PastRun}
      (isEarlier : former ∈ earlier)
      (left : former.Left server run.submission.jobId content)
      (untouched : run.submission.Untouched server run.events) :
      Strands server earlier content run
  | unremoved
      {removal : Event Scene}
      {paths : List Path}
      (member : removal ∈ run.events)
      (removes : removal.call = .removeFiles paths)
      (isPlanned : server.outputOf run.submission.jobId ∈ paths)
      (unusable : ∃ path ∈ paths, path.isUsable = false) :
      Strands server earlier content run

section Runs

variable {server : RenderServer} {run : PastRun} {past : List PastRun}

/-- What a complete run leaves of its output when others have gone on. -/
theorem PastRun.Complete.leavesOutput
    (canonical : server.tempDirectory.Canonical)
    (complete : run.Complete server past) :
    ∃ record,
      run.left.registry.Owned run.submission.jobId record ∧
      run.submission.LeavesOutput server run.start run.events run.left
        record := by
  obtain ⟨queued, owned, isQueued, running⟩ := complete.begun.queued
  obtain ⟨outcome, final, whole, others⟩ := complete.whole
  obtain ⟨record, ownedAtEnd, leaves⟩ :=
    Submission.leavesOutput_of_run complete.begun.accepted canonical owned
      running isQueued whole
  refine ⟨record, ownedAtEnd.meanwhile others.1, ?_⟩
  cases leaves with
  | offered offers => exact .offered offers
  | untouched untouched same =>
      exact .untouched untouched (others.2.trans same)
  | removed gone => exact .removed (others.2.trans gone)
  | stopped member removes isPlanned unusable =>
      exact .stopped member removes isPlanned unusable

/-- An output that a run left, and of which no record told then, is one that it
left behind. -/
theorem PastRun.Complete.strands
    {content : Bytes}
    (canonical : server.tempDirectory.Canonical)
    (complete : run.Complete server past)
    (left : run.Left server run.submission.jobId content)
    (silent :
      ∀ job,
        run.left.registry.find? run.submission.jobId = some job →
        job.outputFile? ≠ some (server.outputOf run.submission.jobId)) :
    run.Strands server past content := by
  obtain ⟨record, owned, leaves⟩ := complete.leavesOutput canonical
  cases leaves with
  | offered offers =>
      have isOwn := owned.wellKeyed.id_of_find? owned.found
      refine (silent record owned.found ?_).elim
      rw [offers.outputFile? canonical (isOwn ▸ complete.begun.accepted),
        isOwn]
  | untouched untouched same =>
      obtain ⟨former, isEarlier, leftBefore⟩ :=
        complete.begun.inherits content (same.symm.trans left.2)
      exact .inherited isEarlier leftBefore untouched
  | removed gone => exact absurd (left.2.symm.trans gone) (by simp)
  | stopped member removes isPlanned unusable =>
      exact .unremoved member removes isPlanned unusable

/-- A complete run whose job is done has delivered a content. -/
theorem PastRun.Complete.delivers
    {record : Job}
    (canonical : server.tempDirectory.Canonical)
    (complete : run.Complete server past)
    (found : run.left.registry.find? run.submission.jobId = some record)
    (isDone : record.status = .done) :
    (∃ making rendering later content,
      run.events = making ++ rendering :: later ∧
      run.submission.Delivers server run.start rendering later run.left
        content) ∧
    (run.submission.request.isComposition = true → record.Offers server) := by
  obtain ⟨queued, owned, isQueued, running⟩ := complete.begun.queued
  obtain ⟨outcome, final, whole, others⟩ := complete.whole
  have foundAtEnd :
      final.registry.find? run.submission.jobId = some record := by
    obtain ⟨last, ownedAtEnd, _⟩ :=
      Submission.leavesOutput_of_run complete.begun.accepted canonical owned
        running isQueued whole
    have same : last = record :=
      Option.some.inj ((ownedAtEnd.meanwhile others.1).found.symm.trans found)
    exact same ▸ ownedAtEnd.found
  obtain ⟨produces, offers⟩ :=
    Submission.produces_of_done complete.begun.accepted canonical owned
      running.notDone whole foundAtEnd isDone
  obtain ⟨making, rendering, later, content, shape, delivers⟩ :=
    produces.delivers whole
  refine ⟨⟨making, rendering, later, content, shape, ?_⟩, offers⟩
  exact { delivers with
    kept := fun isComposition =>
      ⟨others.2.trans (delivers.kept isComposition).1,
        (delivers.kept isComposition).2⟩ }

end Runs

/-! ## Jobs that run alone in a world -/

namespace World

/-- Whether a program makes directories only where they stand. -/
def makesNoDirectory
    {α : Type}
    (world : World) :
    Program α → Bool
  | .done _ => true
  | .step call next =>
      let answered := world.answer call
      (match call with
      | .makeDirectories path => world.disk.isDirectory path
      | _ => true) &&
        answered.2.makesNoDirectory (next answered.1)

/-- A world in which a job was taken in. -/
def admitted
    (world : World)
    (request : RenderRequest)
    (submission : Submission) :
    World :=
  let taken := world.enroll submission.jobId (.ofText? request.projectId)
  { taken.2 with registry := taken.2.registry.startTask submission.jobId }

/-- A world in which a job has run to its end. -/
def finished
    (world : World)
    (server : RenderServer)
    (request : RenderRequest)
    (submission : Submission) :
    World :=
  let ended :=
    ((world.admitted request submission).run (submission.run server)).2
  { ended with registry := ended.registry.finish submission.jobId }

section Runs

variable {server : RenderServer} {start : Annals} {world : World}
  {bucket : Bucket} {past : List PastRun}

/-- One run goes on to its end in a world. -/
theorem annals_of_run
    {front back : List LiveRun}
    {run : JobRun}
    {program : Program (Outcome Unit)}
    (isRemote : world.storage = .remote bucket)
    (noDirectory : world.showsNoDirectory program = true)
    (standing : world.makesNoDirectory program = true)
    (steps :
      Relation.ReflTransGen (Annals.Step server) start {
        scene := world.scene
        live := front ++ { run with rest := program } :: back
        past }) :
    (∃ later, (world.run program).2.storage = .remote later) ∧
    ∃ ended : JobRun,
      ended.submission = run.submission ∧
      ended.start = run.start ∧
      Relation.ReflTransGen (Annals.Step server) start {
        scene := (world.run program).2.scene
        live :=
          front ++
            { ended with rest := .done (world.run program).1 } :: back
        past } := by
  induction program generalizing world bucket run with
  | done outcome => exact ⟨⟨bucket, isRemote⟩, run, rfl, rfl, steps⟩
  | step call next inductionHypothesis =>
      simp only [showsNoDirectory, makesNoDirectory, Bool.and_eq_true]
        at noDirectory standing
      obtain ⟨shows, laterShows⟩ := noDirectory
      obtain ⟨stands, laterStands⟩ := standing
      obtain ⟨_, stillRemote⟩ := storage_answer isRemote call
      have isFile :
          ∀ path, call = .holds path →
            world.disk.isDirectory path = false := by
        rintro path rfl
        simpa using shows
      have isThere :
          ∀ path, call = .makeDirectories path →
            world.scene.disk.isDirectory path = true := by
        rintro path rfl
        exact stands
      have called :
          Annals.Step server _ {
            scene := (world.answer call).2.scene
            live :=
              front ++
                { run.extended _ with rest := next (world.answer call).1 } ::
                  back
            past } :=
        .called (answer_possible isRemote _ isFile) isThere
      obtain ⟨remote, ended, sameSubmission, sameStart, ran⟩ :=
        inductionHypothesis (world.answer call).1 stillRemote laterShows
          laterStands (steps.tail called)
      exact ⟨remote, ended, sameSubmission, sameStart, ran⟩

/-- Whether a job is taken in, looks for files where no directory stands, and
makes directories only where they stand. -/
def suits
    (world : World)
    (server : RenderServer)
    (request : RenderRequest)
    (submission : Submission) :
    Bool :=
  let taken := world.enroll submission.jobId (.ofText? request.projectId)
  let started := world.admitted request submission
  taken.1.toOption.isSome &&
    started.showsNoDirectory (submission.run server) &&
    started.makesNoDirectory (submission.run server)

/-- One job is taken in and runs to its end in a world. -/
theorem annals_of_job
    {request : RenderRequest}
    {submission : Submission}
    (isRemote : world.storage = .remote bucket)
    (accepted : request.submission = .ok submission)
    (suited : world.suits server request submission = true)
    (steps :
      Relation.ReflTransGen (Annals.Step server) start {
        scene := world.scene
        past }) :
    (∃ later,
      (world.finished server request submission).storage = .remote later) ∧
    ∃ ended : PastRun,
      ended.submission = submission ∧
      ended.start = (world.admitted request submission).scene ∧
      ended.left =
        ((world.admitted request submission).run
          (submission.run server)).2.scene ∧
      Relation.ReflTransGen (Annals.Step server) start {
        scene := (world.finished server request submission).scene
        past := ended :: past } := by
  simp only [suits, Bool.and_eq_true] at suited
  obtain ⟨⟨isTaken, noDirectory⟩, standing⟩ := suited
  obtain ⟨job, taken⟩ :
      ∃ job,
        (world.enroll submission.jobId (.ofText? request.projectId)).1 =
          .ok job := by
    generalize
      (world.enroll submission.jobId (.ofText? request.projectId)).1 = result
      at isTaken
    cases result with
    | ok job => exact ⟨job, rfl⟩
    | error failure => cases isTaken
  have admits :
      Annals.Step server { scene := world.scene, past } {
        scene := (world.admitted request submission).scene
        live := [] ++ [{
          submission
          start := (world.admitted request submission).scene
          rest := submission.run server }]
        past } :=
    .admitted accepted taken
  have remoteThen :
      (world.admitted request submission).storage = .remote bucket :=
    isRemote
  obtain ⟨stillRemote, ended, rfl, sameStart, ran⟩ :=
    annals_of_run remoteThen noDirectory standing (steps.tail admits)
  exact ⟨stillRemote, { ended with left := _ }, rfl, sameStart, rfl,
    ran.tail .ended⟩

/-- Two jobs of one request, one after the other, in a world whose script
changes between them. -/
theorem annals_of_two_jobs
    {limit highWater : Int}
    {lifetime : Binary64}
    {disk : Disk}
    {count : Nat}
    {request : RenderRequest}
    {submission : Submission}
    {script : Script}
    (isCleared :
      disk.clear server.tempDirectory Server.keptNames = (.ok count, world.disk))
    (isOpened : world.registry = .opened limit highWater lifetime)
    (isRemote : world.storage = .remote bucket)
    (accepted : request.submission = .ok submission)
    (suited : world.suits server request submission = true) :
    let second : World :=
      { world.finished server request submission with script }
    second.suits server request submission = true →
    ∃ former ended : PastRun,
      former.submission = submission ∧
      ended.submission = submission ∧
      ended.start = (second.admitted request submission).scene ∧
      ended.left =
        ((second.admitted request submission).run
          (submission.run server)).2.scene ∧
      Annals.Reached server {
        scene := ended.left.withoutTask submission.jobId
        past := [ended, former] } := by
  intro second suitedAgain
  have starts :
      Relation.ReflTransGen (Annals.Step server)
        (.opened limit highWater lifetime world.disk)
        { scene := world.scene } := by
    rw [Annals.opened, ← isOpened]
    exact .refl
  obtain ⟨⟨_, remoteAgain⟩, former, isOfJob, _, _, once⟩ :=
    annals_of_job isRemote accepted suited starts
  have remoteThen : second.storage = .remote _ := remoteAgain
  obtain ⟨_, ended, isOfJobAgain, isStart, isLeft, twice⟩ :=
    annals_of_job remoteThen accepted suitedAgain once
  refine ⟨former, ended, isOfJob, isOfJobAgain, isStart, isLeft, limit,
    highWater, lifetime, disk, count, world.disk, isCleared, ?_⟩
  rw [isLeft]
  exact twice

end Runs

end World

/-- A composition of one subtitle without text, under its id. -/
def Submission.silent : Submission where
  jobId := "a"
  request := .silent

/-- A modest world in whose directory of files in work nothing is left. -/
def World.cleared (server : RenderServer) : World :=
  { Service.modestWorld with
    disk := (Disk.clear {} server.tempDirectory Server.keptNames).2 }

/-- The same world with a script, after the composition was done. -/
def World.afterSilence
    (server : RenderServer)
    (script : Script) :
    World :=
  { (World.cleared server).finished server .silent .silent with script }

/-- The composition is asked for again, when the script is another. -/
theorem World.annals_of_silence
    (script : Script) :
    let server : RenderServer := .ofSettings {} none
    let second := afterSilence server script
    let started := second.admitted .silent .silent
    second.suits server .silent .silent = true →
    ∃ former ended : PastRun,
      ended.submission = .silent ∧
      ended.start = started.scene ∧
      ended.left = (started.run (Submission.silent.run server)).2.scene ∧
      Annals.Reached server {
        scene := ended.left.withoutTask "a"
        past := [ended, former] } := by
  intro server second started suitedAgain
  have isCleared :
      Disk.clear {} server.tempDirectory Server.keptNames =
        (.ok 0, (cleared server).disk) :=
    Prod.ext rfl rfl
  have isOpened : (cleared server).registry = .opened 1 5 60 := rfl
  have isRemote : ∃ bucket, (cleared server).storage = .remote bucket :=
    ⟨_, rfl⟩
  obtain ⟨bucket, isRemote⟩ := isRemote
  have accepted : RenderRequest.silent.submission = .ok .silent := rfl
  obtain ⟨former, ended, _, isSilent, isStart, isLeft, reached⟩ :=
    annals_of_two_jobs isCleared isOpened isRemote accepted
      (by decide +kernel) suitedAgain
  exact ⟨former, ended, isSilent, isStart, isLeft, reached⟩

/-! ## Outputs and records -/

namespace Annals

variable {server : RenderServer} {annals later : Annals} {id : String}
  {run : PastRun}

/-- A record tells of the output of an id. -/
def Tracks
    (server : RenderServer)
    (annals : Annals)
    (id : String) :
    Prop :=
  ∃ job,
    annals.scene.registry.find? id = some job ∧
    job.outputFile? = some (server.outputOf id)

theorem Reached.trans
    (reached : annals.Reached server)
    (steps : Relation.ReflTransGen (Step server) annals later) :
    later.Reached server := by
  obtain ⟨limit, highWater, lifetime, disk, count, clean, cleared, earlier⟩ :=
    reached
  exact ⟨limit, highWater, lifetime, disk, count, clean, cleared,
    earlier.trans steps⟩

/-- The last run of an id is one of those that are over, and of this id. -/
theorem of_lastRun?
    (isLast : annals.lastRun? id = some run) :
    (∃ earlier, run :: earlier <:+ annals.past) ∧
      run.submission.jobId = id := by
  obtain ⟨isOfId, later, earlier, isPast, _⟩ :=
    List.find?_eq_some_iff_append.mp isLast
  exact ⟨⟨earlier, later, isPast.symm⟩, by simpa using isOfId⟩

/-- As long as no other job with the id has run, its output goes with the record
that tells of it. -/
theorem Sound.gone_with_record
    {job : Job}
    (sound : later.Sound server)
    (accepted : isJobId id = true)
    (isLast : later.lastRun? id = some run)
    (found : run.left.registry.find? id = some job)
    (tells : job.outputFile? = some (server.outputOf id))
    (dropped : later.scene.registry.find? id = none) :
    later.scene.disk.fileAt? (server.outputOf id) = none := by
  have idle : ¬ later.Runs id := by
    rintro ⟨live, isLive, rfl⟩
    obtain ⟨record, owned⟩ := (sound.inOrder live isLive).owned
    exact absurd (owned.found.symm.trans dropped) (by simp)
  exact ((sound.settled id accepted idle).rests run isLast).dropped job found
    tells dropped

/-- As long as no other job with the id has run, an output stays of which no
record told when the last one ended. -/
theorem Sound.stays_behind
    (sound : later.Sound server)
    (accepted : isJobId id = true)
    (isLast : later.lastRun? id = some run)
    (idle : ¬ later.Runs id)
    (silent :
      ∀ job,
        run.left.registry.find? id = some job →
        job.outputFile? ≠ some (server.outputOf id)) :
    later.scene.disk.fileAt? (server.outputOf id) =
      run.left.disk.fileAt? (server.outputOf id) := by
  rcases ((sound.settled id accepted idle).rests run isLast).output with
    same | ⟨_, _, job, found, tells⟩
  · exact same
  · exact (silent job found tells).elim

/--
Whatever a service goes through, with any jobs, under any ids, taken in again or
not, interleaved in any way: an output that stands while no job with its id runs
was left by the last run of the id. Either a record tells of it, and from then
on the output is gone as soon as the record is, until the id is taken in again;
or the last run left it behind, and then it stays until the id is taken in
again, whatever records are dropped.
-/
theorem outputs_are_tracked_or_left_behind
    (settings : Settings)
    (storageBase : Option String)
    {annals : Annals}
    {id : String}
    {content : Bytes}
    (reached : annals.Reached (.ofSettings settings storageBase))
    (accepted : isJobId id = true)
    (idle : ¬ annals.Runs id)
    (stands :
      annals.scene.disk.fileAt?
          (RenderServer.outputOf (.ofSettings settings storageBase) id) =
        some content) :
    let server : RenderServer := .ofSettings settings storageBase
    ∃ run earlier,
      annals.lastRun? id = some run ∧
      run :: earlier <:+ annals.past ∧
      run.Left server id content ∧
      ((annals.Tracks server id ∧
        ∀ later,
          Relation.ReflTransGen (Step server) annals later →
          later.lastRun? id = some run →
          later.scene.registry.find? id = none →
          later.scene.disk.fileAt? (server.outputOf id) = none) ∨
      (¬ annals.Tracks server id ∧
        run.Strands server earlier content ∧
        ∀ later,
          Relation.ReflTransGen (Step server) annals later →
          later.lastRun? id = some run →
          ¬ later.Runs id →
          later.scene.disk.fileAt? (server.outputOf id) =
            some content)) := by
  intro server
  have canonical : server.tempDirectory.Canonical :=
    Path.ofText_canonical settings.tempDirectory
  have sound := reached.sound canonical
  have settled := sound.settled id accepted idle
  cases isLast : annals.lastRun? id with
  | none => exact absurd (stands.symm.trans (settled.bare isLast)) (by simp)
  | some run =>
  have rests := settled.rests run isLast
  obtain ⟨⟨earlier, isPast⟩, isOfId⟩ := of_lastRun? isLast
  have leftStanding :
      run.left.disk.fileAt? (server.outputOf id) = some content := by
    rcases rests.output with same | ⟨gone, _⟩
    · exact same.symm.trans stands
    · exact absurd (stands.symm.trans gone) (by simp)
  refine ⟨run, earlier, rfl, isPast, ⟨isOfId, leftStanding⟩, ?_⟩
  by_cases tracked : annals.Tracks server id
  · left
    refine ⟨tracked, fun later steps isLastThen dropped => ?_⟩
    obtain ⟨job, found, tells⟩ := tracked
    have foundLeft : run.left.registry.find? id = some job := by
      rcases rests.record with same | gone
      · exact same.symm.trans found
      · exact absurd (found.symm.trans gone) (by simp)
    exact ((reached.trans steps).sound canonical).gone_with_record accepted
      isLastThen foundLeft tells dropped
  · right
    have silent :
        ∀ job,
          run.left.registry.find? id = some job →
          job.outputFile? ≠ some (server.outputOf id) := by
      intro job found tells
      rcases rests.record with same | gone
      · exact tracked ⟨job, same.trans found, tells⟩
      · exact absurd (stands.symm.trans (rests.dropped job found tells gone))
          (by simp)
    refine ⟨tracked, ?_, fun later steps isLastThen idleThen => ?_⟩
    · subst isOfId
      exact (sound.complete run earlier isPast).strands canonical
        ⟨rfl, leftStanding⟩ silent
    · exact (((reached.trans steps).sound canonical).stays_behind accepted
        isLastThen idleThen silent).trans leftStanding

/-- A composition that is asked for again, and fails at once for lack of space,
leaves the output of the first run behind. -/
theorem silent_composition_is_left_behind :
    let server : RenderServer := .ofSettings {} none
    ∃ annals run earlier,
      annals.Reached server ∧
      ¬ annals.Runs "a" ∧
      annals.scene.disk.fileAt? (server.outputOf "a") = some [102] ∧
      annals.lastRun? "a" = some run ∧
      ¬ annals.Tracks server "a" ∧
      run.Strands server earlier [102] ∧
      ∀ later,
        Relation.ReflTransGen (Step server) annals later →
        later.lastRun? "a" = some run →
        ¬ later.Runs "a" →
        later.scene.disk.fileAt? (server.outputOf "a") = some [102] := by
  intro server
  let second := World.afterSilence server { freeSpace := .ok (.whole 0) }
  let worked :=
    ((second.admitted .silent .silent).run (Submission.silent.run server)).2
  have stands : worked.disk.fileAt? (server.outputOf "a") = some [102] := by
    decide +kernel
  have silent :
      (worked.registry.find? "a").bind Job.outputFile? = none := by
    decide +kernel
  obtain ⟨former, ended, _, _, isLeft, reached⟩ :=
    World.annals_of_silence { freeSpace := .ok (.whole 0) }
      (by decide +kernel)
  change ended.left = worked.scene at isLeft
  clear_value worked
  rw [isLeft] at reached
  let annals : Annals :=
    { scene := worked.scene.withoutTask "a", past := [ended, former] }
  have idle : ¬ annals.Runs "a" := by
    rintro ⟨live, isLive, _⟩
    cases isLive
  obtain ⟨run, earlier, isLast, _, _, cases⟩ :=
    outputs_are_tracked_or_left_behind {} none reached (by decide) idle stands
  rcases cases with ⟨⟨job, found, tells⟩, _⟩ | ⟨untracked, strands, stays⟩
  · have isFound : worked.registry.find? "a" = some job := found
    rw [isFound, Option.bind_some, tells] at silent
    cases silent
  · exact ⟨annals, run, earlier, reached, idle, stands, isLast, untracked,
      strands, stays⟩

/--
Whatever a service goes through: a job that ends done has delivered a content
that stood in its output after its own encoder had succeeded. The content was
uploaded from there, or the record tells of it and it is there as long as the
record is. It is what the encoder wrote, unless it stood there before; then an
earlier run of the id had left it, and the encoder did not change it.
-/
theorem done_jobs_deliver
    (settings : Settings)
    (storageBase : Option String)
    {annals : Annals}
    {run : PastRun}
    {earlier : List PastRun}
    {record : Job}
    (reached : annals.Reached (.ofSettings settings storageBase))
    (isPast : run :: earlier <:+ annals.past)
    (found : run.left.registry.find? run.submission.jobId = some record)
    (isDone : record.status = .done) :
    let server : RenderServer := .ofSettings settings storageBase
    let output := server.outputOf run.submission.jobId
    ∃ making rendering later content,
      run.events = making ++ rendering :: later ∧
      run.submission.Delivers server run.start rendering later run.left
        content ∧
      (rendering.before.disk.fileAt? output = some content →
        ∃ former ∈ earlier,
          former.Left server run.submission.jobId content) ∧
      (run.submission.request.isComposition = true →
        record.outputFile? = some output ∧
        (annals.lastRun? run.submission.jobId = some run →
          ¬ annals.Runs run.submission.jobId →
          annals.scene.registry.find? run.submission.jobId = some record →
          annals.scene.disk.fileAt? output = some content)) := by
  intro server output
  have canonical : server.tempDirectory.Canonical :=
    Path.ofText_canonical settings.tempDirectory
  have sound := reached.sound canonical
  have complete := sound.complete run earlier isPast
  obtain ⟨⟨making, rendering, later, content, shape, delivers⟩, offers⟩ :=
    complete.delivers canonical found isDone
  refine ⟨making, rendering, later, content, shape, delivers, ?_, ?_⟩
  · intro stood
    exact complete.begun.inherits content (delivers.asFound.symm.trans stood)
  · intro isComposition
    obtain ⟨leftRecord, owned, _⟩ := complete.leavesOutput canonical
    have isOwn : record.id = run.submission.jobId :=
      owned.wellKeyed.id_of_find? found
    refine ⟨?_, fun isLast idle stillFound => ?_⟩
    · rw [(offers isComposition).outputFile? canonical
        (isOwn ▸ complete.begun.accepted), isOwn]
    · have settled :=
        sound.settled run.submission.jobId complete.begun.accepted idle
      rcases (settled.rests run isLast).output with same | ⟨_, gone, _⟩
      · exact same.trans (delivers.kept isComposition).1
      · exact absurd (stillFound.symm.trans gone) (by simp)

/-- A composition that is asked for again is done when its encoder succeeds and
writes nothing, and offers what the first run had left. -/
theorem stale_composition_is_offered :
    let server : RenderServer := .ofSettings {} none
    ∃ (annals : Annals) (run former : PastRun) (rendering : Event Scene)
      (record : Job),
      annals.Reached server ∧
      [run, former] <:+ annals.past ∧
      former.Left server "a" [102] ∧
      run.left.registry.find? "a" = some record ∧
      record.status = .done ∧
      rendering ∈ run.events ∧
      run.submission.Renders server rendering ∧
      rendering.before.disk.fileAt? (server.outputOf "a") = some [102] ∧
      rendering.after.disk.fileAt? (server.outputOf "a") = some [102] ∧
      record.outputFile? = some (server.outputOf "a") ∧
      annals.scene.registry.find? "a" = some record ∧
      annals.scene.disk.fileAt? (server.outputOf "a") = some [102] := by
  intro server
  let second := World.afterSilence server {}
  let started := second.admitted .silent .silent
  let worked := (started.run (Submission.silent.run server)).2
  have stood : started.disk.fileAt? (server.outputOf "a") = some [102] := by
    decide +kernel
  have stands : worked.disk.fileAt? (server.outputOf "a") = some [102] := by
    decide +kernel
  have isFinished :
      (worked.registry.find? "a").map Job.status = some .done := by
    decide +kernel
  obtain ⟨former, ended, isSilent, isStart, isLeft, reached⟩ :=
    World.annals_of_silence {} (by decide +kernel)
  change ended.left = worked.scene at isLeft
  change ended.start = started.scene at isStart
  clear_value worked started
  let annals : Annals :=
    { scene := ended.left.withoutTask "a", past := [ended, former] }
  have isId : ended.submission.jobId = "a" := by
    rw [isSilent]
    rfl
  obtain ⟨record, found, isDone⟩ := Option.map_eq_some_iff.mp isFinished
  have foundLeft :
      ended.left.registry.find? ended.submission.jobId = some record := by
    rw [isId, isLeft]
    exact found
  have isPast : ended :: [former] <:+ annals.past := List.suffix_rfl
  obtain ⟨making, rendering, later, content, shape, delivers, stale, offered⟩ :=
    done_jobs_deliver {} none reached isPast foundLeft isDone
  have ⟨renders, asFound, isThere, _, kept⟩ := delivers
  have isComposition : ended.submission.request.isComposition = true := by
    rw [isSilent]
    rfl
  have isContent : content = [102] := by
    have atEnd := (kept isComposition).1
    rw [isId, isLeft] at atEnd
    exact Option.some.inj (atEnd.symm.trans stands)
  subst isContent
  obtain ⟨tells, _⟩ := offered isComposition
  have stoodBefore :
      rendering.before.disk.fileAt?
        (server.outputOf ended.submission.jobId) = some [102] := by
    rw [asFound, isId, isStart]
    exact stood
  obtain ⟨earlier, isEarlier, left⟩ := stale stoodBefore
  rw [List.mem_singleton.mp isEarlier] at left
  rw [isId] at left foundLeft stoodBefore isThere tells
  refine ⟨annals, ended, former, rendering, record, reached, isPast, left,
    foundLeft, isDone, ?_, renders, stoodBefore, isThere, tells, foundLeft,
    ?_⟩
  · rw [shape]
    simp
  · change ended.left.disk.fileAt? (server.outputOf "a") = some [102]
    rw [isLeft]
    exact stands

end Annals

end Montage
