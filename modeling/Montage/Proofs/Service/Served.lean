import Montage.Proofs.Render.Composition
import Montage.Proofs.Server.Download
import Montage.Proofs.Service.Sound

namespace Montage

/-!
# Outputs that are served

A record that tells of an output has told of it since the job became done, and
the output has stood unchanged ever since. It is served under the last segment
of the address that the record tells.
-/

namespace Service

variable {server : RenderServer} {start service : Service}
  {past : List Service}

/-- A record, and the file of its id with a content, stand in a service. -/
structure Keeps
    (server : RenderServer)
    (id : String)
    (job : Job)
    (content : Bytes)
    (service : Service) :
    Prop where
  found : service.scene.registry.find? id = some job
  stands : service.scene.disk.fileAt? (server.outputOf id) = some content

/-- Of what a service went through, the latest first: all services since the
record of an id became done keep this record and the content of its file. -/
def KeepsSinceDone
    (server : RenderServer)
    (id : String)
    (job : Job)
    (content : Bytes)
    (services : List Service) :
    Prop :=
  ∃ since before earlier,
    services = since ++ before :: earlier ∧
    (∀ old, before.scene.registry.find? id = some old → old.status ≠ .done) ∧
    ∀ later ∈ since, later.Keeps server id job content

/-- A record that tells of an output was kept with it since it became done. -/
theorem History.keepsSinceDone
    {id : String}
    {job : Job}
    (canonical : server.tempDirectory.Canonical)
    (sound : start.Sound server)
    (nothing : start.scene.registry.jobs = [])
    (history : History server start past service)
    (found : service.scene.registry.find? id = some job)
    (tells : job.outputPath ≠ .null) :
    ∃ content,
      service.Keeps server id job content ∧
      KeepsSinceDone server id job content (service :: past) := by
  induction history with
  | started =>
      simp [Registry.find?, nothing, getField?] at found
  | @went past before after history steps inductionHypothesis =>
      have continues :=
        ((sound.of_history canonical history).step canonical steps).2 id
      rcases continues job found tells with
        ⟨foundBefore, stays⟩ | ⟨_, _, ⟨content, stands⟩, notDone⟩
      · obtain ⟨content, kept, since, first, earlier, shape, notDone, keep⟩ :=
          inductionHypothesis foundBefore
        have keepsOn : after.Keeps server id job content :=
          ⟨found, stays content kept.stands⟩
        refine ⟨content, keepsOn, after :: since, first, earlier, ?_, notDone,
          ?_⟩
        · rw [shape, List.cons_append]
        · exact List.forall_mem_cons.mpr ⟨keepsOn, keep⟩
      · have keeps : after.Keeps server id job content := ⟨found, stands⟩
        exact ⟨content, keeps, [after], before, past, rfl, notDone,
          List.forall_mem_singleton.mpr keeps⟩

end Service

/-! ## Names and addresses of outputs -/

section Names

variable {id : String}

theorem isSimpleName_output
    (plain : IsPlainId id) :
    IsSimpleName (id ++ "_output.mp4") where
  notEmpty := by simp
  notHidden := by
    obtain ⟨first, isFirst, notDot⟩ := head?_jobId plain.accepted
    simpa [isFirst] using notDot
  characters := by
    have ofSuffix : "_output.mp4".toList.all isJobIdCharacter = true := by
      decide
    intro character member
    rw [String.toList_append] at member
    rcases List.mem_append.mp member with inId | inSuffix
    · exact plain.characters character inId
    · exact List.all_eq_true.mp ofSuffix character inSuffix

/-- The last segment of the address of an output is its name. -/
theorem lastSegment_downloadAddress
    {server : RenderServer}
    (plain : IsPlainId id)
    (publicBase : String) :
    (splitAtChar '/'
        (downloadAddress publicBase (server.outputOf id)).toList).getLast? =
      some (id ++ "_output.mp4").toList := by
  have isName : (server.outputOf id).name = id ++ "_output.mp4" := by
    rw [RenderServer.outputOf_eq_child plain.accepted]
    simp [Path.name, Path.child]
  have written :
      (downloadAddress publicBase (server.outputOf id)).toList =
        ((withoutFinalSlashes publicBase).toList ++ "/download".toList) ++
          '/' :: (id ++ "_output.mp4").toList := by
    rw [downloadAddress, isName, String.toList_append, String.toList_append,
      show "/download/".toList = "/download".toList ++ ['/'] from rfl]
    simp
  rw [written]
  exact getLast?_splitAtChar_append
    ((isSimpleName_output plain).not_mem (by decide)) _

end Names

/-- Who asks a server for a name, and for no part of it, gets a content. -/
def Server.HandsOut
    (server : Server)
    (name : String)
    (content : Bytes) :
    Prop :=
  ∀ headers,
    getField? "range" headers = none →
    let request : HttpRequest := {
      method := "GET"
      target := "/download/" ++ name
      headers }
    (server.answer request).response.status = 200 ∧
    (server.answer request).response.body = .bytes content

namespace Service

/--
Whatever a service goes through, with any jobs, interleaved in any way: a record
that tells of an output is that of a job that is done, the output is a file in
the directory of files in work, and has the content that it had when the job
became done. A server in whose world this service is hands the content out
under the last segment of the address that the record tells.
-/
theorem done_outputs_are_served
    (settings : Settings)
    (storageBase : Option String)
    (limit highWater : Int)
    (lifetime : Binary64)
    (disk : Disk)
    {past : List Service}
    {service : Service}
    {id : String}
    {job : Job}
    (history :
      History (.ofSettings settings storageBase)
        (opened limit highWater lifetime disk) past service)
    (found : service.scene.registry.find? id = some job)
    (tells : job.outputPath ≠ .null) :
    let server : RenderServer := .ofSettings settings storageBase
    ∃ output content address name,
      job.status = .done ∧
      job.outputFile? = some output ∧
      output.IsVisibleIn server.tempDirectory ∧
      service.scene.disk.fileAt? output = some content ∧
      KeepsSinceDone server id job content (service :: past) ∧
      getField? "download_url" job.results = some (.text address) ∧
      (splitAtChar '/' address.toList).getLast? = some name.toList ∧
      ∀ running : Server,
        running.settings = settings →
        running.world.scene = service.scene →
        running.HandsOut name content := by
  intro server
  have canonical : server.tempDirectory.Canonical :=
    Path.ofText_canonical settings.tempDirectory
  have starts := opened_sound server limit highWater lifetime disk
  have sound := starts.of_history canonical history
  obtain ⟨plain, offers, _⟩ := sound.offers id job found tells
  obtain ⟨content, keeps, since⟩ :=
    history.keepsSinceDone canonical starts rfl found tells
  have sameId : job.id = id := sound.wellKeyed.id_of_find? found
  subst sameId
  have isChild :
      server.outputOf job.id =
        server.tempDirectory.child (job.id ++ "_output.mp4") :=
    RenderServer.outputOf_eq_child plain.accepted
  have simple := isSimpleName_output plain
  refine ⟨server.outputOf job.id, content,
    downloadAddress server.publicBase (server.outputOf job.id),
    job.id ++ "_output.mp4", offers.isDone,
    offers.outputFile? canonical plain.accepted,
    ⟨_, simple.isPart, simple.notHidden, isChild⟩, keeps.stands, since,
    offers.isOffered, lastSegment_downloadAddress plain server.publicBase, ?_⟩
  intro running sameSettings sameScene headers noRange
  refine running.answer_download simple ?_ noRange
  have sameDirectory : running.tempDirectory = server.tempDirectory := by
    rw [Server.tempDirectory, sameSettings]
    rfl
  have sameDisk : running.world.disk = service.scene.disk :=
    congrArg Scene.disk sameScene
  rw [sameDirectory, sameDisk, ← isChild]
  exact keeps.stands

/-- A world with a bucket, where the encoder writes one byte. -/
def modestWorld : World where
  script := { encoder := { written := some [102] } }
  shelf := .bare
  storage :=
    .remote { name := "results", publicBase := "http://results.test" }
  registry := .opened 1 5 60

/-- The output of a composition that was done in this world is served. -/
theorem silent_composition_is_served :
    let server : RenderServer := .ofSettings {} none
    ∃ past service job name,
      History server (opened 1 5 60 {}) past service ∧
      service.scene.registry.find? "a" = some job ∧
      job.outputPath ≠ .null ∧
      KeepsSinceDone server "a" job [102] (service :: past) ∧
      ∀ running : Server,
        running.settings = {} →
        running.world.scene = service.scene →
        running.HandsOut name [102] := by
  intro server
  let submission : Submission := { jobId := "a", request := .silent }
  let taken := modestWorld.enroll submission.jobId .null
  let started : World :=
    { taken.2 with registry := taken.2.registry.startTask submission.jobId }
  let ended := started.run (submission.run server)
  have accepted : RenderRequest.silent.submission = .ok submission := rfl
  have plain : IsPlainId submission.jobId :=
    ⟨by decide, List.all_eq_true.mp (by decide)⟩
  have starts :
      History server (opened 1 5 60 {}) [opened 1 5 60 {}] {
        scene := started.scene
        live := [] ++ { submission, rest := submission.run server } :: [] } :=
    .went .started (.admitted accepted plain
      (rfl : taken.1 = .ok (Registry.fresh "a" .null 0)))
  have written :
      ((ended.2.registry.find? "a").bind Job.outputFile?).bind
        ended.2.disk.fileAt? = some [102] := by
    decide +kernel
  obtain ⟨between, history⟩ :=
    World.history_of_run (rfl : started.storage = .remote _)
      (by decide +kernel) starts
  change
    History server _ between {
      scene := ended.2.scene
      live := [{ submission, rest := .done ended.1 }] } at history
  clear_value ended
  obtain ⟨job, found⟩ : ∃ job, ended.2.registry.find? "a" = some job := by
    cases found : ended.2.registry.find? "a" with
    | none => simp [found] at written
    | some job => exact ⟨job, rfl⟩
  rw [found] at written
  have tells : job.outputPath ≠ .null := by
    intro silent
    simp [Job.outputFile?_of_null silent] at written
  obtain ⟨output, content, _, name, _, isOutput, _, stands, since, _, _,
      served⟩ :=
    done_outputs_are_served {} none 1 5 60 {} history found tells
  have isContent : content = [102] := by
    rw [Option.bind_some, isOutput, Option.bind_some] at written
    exact Option.some.inj (stands.symm.trans written)
  subst isContent
  exact ⟨_, _, job, name, history, found, tells, since, served⟩

end Service

end Montage
