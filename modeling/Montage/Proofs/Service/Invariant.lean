import Montage.Proofs.Registry.Slots
import Montage.Proofs.Service.Outputs

namespace Montage

/-!
# What steps of the service preserve

Each step is about one job. It leaves the records, the slots and the outputs of
all other jobs, but for records that are dropped with their outputs. The record
of its own job tells of an output only after the job has seen it stand, and then
neither the job nor anybody else touches the output as long as the record is
there.
-/

namespace Scene

variable {server : RenderServer} {before after : Scene}

/-! ## What a step leaves to other jobs -/

/-- What a step of the job with an id leaves to all others. -/
structure Leaves
    (server : RenderServer)
    (id : String)
    (before after : Scene) :
    Prop where
  wellKeyed : after.registry.WellKeyed
  owned :
    ∀ other record,
      other ≠ id →
      before.registry.Owned other record →
      after.registry.Owned other record
  records :
    ∀ other,
      other ≠ id →
      after.registry.find? other = before.registry.find? other ∨
        after.registry.find? other = none
  outputs :
    ∀ other content,
      other ≠ id →
      isJobId other = true →
      (before.registry.holdsSlot other = true ∨
        (after.registry.find? other).isSome) →
      before.disk.fileAt? (server.outputOf other) = some content →
      after.disk.fileAt? (server.outputOf other) = some content

/-- What a call about one id leaves of the registry to others. -/
theorem Leaves.of_run
    {id : String}
    (wellKeyed : before.registry.WellKeyed)
    {call : RegistryCall}
    (about : call.id? = some id)
    (isRun : after.registry = call.run removesOutput before.registry)
    (outputs :
      ∀ other content,
        other ≠ id →
        isJobId other = true →
        (before.registry.holdsSlot other = true ∨
          (after.registry.find? other).isSome) →
        before.disk.fileAt? (server.outputOf other) = some content →
        after.disk.fileAt? (server.outputOf other) = some content) :
    Leaves server id before after where
  wellKeyed := isRun ▸ wellKeyed.run removesOutput call
  owned := by
    intro other record different owned
    have elsewhere : call.id? ≠ some other := by
      rw [about]
      simpa using different.symm
    exact isRun ▸ owned.run removesOutput elsewhere
  records := by
    intro other different
    have elsewhere : call.id? ≠ some other := by
      rw [about]
      simpa using different.symm
    exact isRun ▸ Registry.find?_run_of_ne wellKeyed removesOutput elsewhere
  outputs := outputs

/-- A change about one id leaves all outputs but those it drops. -/
theorem Leaves.applied
    (canonical : server.tempDirectory.Canonical)
    (wellKeyed : before.registry.WellKeyed)
    (offers : ∀ id, before.OfferStands server id)
    {α : Type}
    {change : Change α}
    {id : String}
    {call : RegistryCall}
    (about : call.id? = some id)
    (isRun : change.registry = call.run removesOutput before.registry)
    (dropsIdle : before.registry.DropsIdle change) :
    Leaves server id before (before.applied change) := by
  refine .of_run wellKeyed about isRun ?_
  intro other content _ accepted guarded stands
  rw [fileAt?_applied canonical offers dropsIdle accepted ?_]
  · exact stands
  · rintro job isEvicted rfl
    obtain ⟨_, noSlot, gone⟩ := dropsIdle job isEvicted
    rcases guarded with holds | found
    · rw [noSlot] at holds
      cases holds
    · have absent : (before.applied change).registry.find? job.id = none :=
        gone
      rw [absent] at found
      cases found

/-- A call that tells nothing leaves the outputs of other jobs. -/
theorem Leaves.answered
    (wellKeyed : before.registry.WellKeyed)
    {submission : Submission}
    (accepted : isJobId submission.jobId = true)
    {stage : OutputStage}
    {call : Call}
    {answer : call.Answer}
    (allowed : submission.Allows server stage call)
    (answers : before.Answers server.tempDirectory call answer after)
    (tellsNot : call.isTell = false) :
    Leaves server submission.jobId before after := by
  have same := answers.registry_eq tellsNot
  refine {
    wellKeyed := same ▸ wellKeyed
    owned := fun _ _ _ owned => same ▸ owned
    records := fun _ _ => Or.inl (same ▸ rfl)
    outputs := ?_ }
  intro other content different otherAccepted _ stands
  refine answers.fileAt?_stays tellsNot
    (fun target isTarget => (allowed.owned target isTarget).isIn accepted)
    (RenderServer.outputOf_isIn otherAccepted) ?_ stands
  intro isTarget
  exact (allowed.owned _ isTarget).ne_outputOf accepted otherAccepted different
    rfl

theorem Leaves.withTask
    {id : String}
    (leaves : Leaves server id before after) :
    Leaves server id before (after.withTask id) where
  wellKeyed := ⟨leaves.wellKeyed.idsNodup, leaves.wellKeyed.keyed⟩
  owned := by
    intro other record different owned
    have kept := leaves.owned other record different owned
    exact ⟨⟨kept.wellKeyed.idsNodup, kept.wellKeyed.keyed⟩, kept.holds,
      kept.found⟩
  records := leaves.records
  outputs := leaves.outputs

/-- The end of a job leaves all other jobs. -/
theorem Leaves.withoutTask
    (wellKeyed : before.registry.WellKeyed)
    (id : String) :
    Leaves server id before (before.withoutTask id) :=
  .of_run wellKeyed (rfl : (RegistryCall.finish id).id? = some id) rfl
    fun _ _ _ _ _ stands => stands

/-! ## What becomes of a record that tells of its output -/

/--
Where a record comes from that tells of an output after a step: it was there
before, and its output stays; or it is a new offer of an output that stands, in
the stead of a record that was not done.
-/
def Continues
    (server : RenderServer)
    (before after : Scene)
    (id : String) :
    Prop :=
  ∀ job,
    after.registry.find? id = some job →
    job.outputPath ≠ .null →
    (before.registry.find? id = some job ∧
      ∀ content,
        before.disk.fileAt? (server.outputOf id) = some content →
        after.disk.fileAt? (server.outputOf id) = some content) ∨
    (IsPlainId id ∧
      job.Offers server ∧
      (∃ content,
        after.disk.fileAt? (server.outputOf id) = some content) ∧
      ∀ old, before.registry.find? id = some old → old.status ≠ .done)

theorem Continues.offerStands
    {id : String}
    (continues : Continues server before after id)
    (offers : before.OfferStands server id) :
    after.OfferStands server id := by
  intro job found tells
  rcases continues job found tells with
    ⟨foundBefore, stays⟩ | ⟨plain, offered, stands, _⟩
  · obtain ⟨plain, offered, content, stands⟩ :=
      offers job foundBefore tells
    exact ⟨plain, offered, content, stays content stands⟩
  · exact ⟨plain, offered, stands⟩

/-- Other records that tell of an output were there before. -/
theorem Leaves.continues
    {id other : String}
    (leaves : Leaves server id before after)
    (different : other ≠ id)
    (offers : before.OfferStands server other) :
    Continues server before after other := by
  intro job found tells
  left
  have foundBefore : before.registry.find? other = some job := by
    rcases leaves.records other different with same | gone
    · rw [← same]
      exact found
    · rw [gone] at found
      cases found
  have accepted := (offers job foundBefore tells).1.accepted
  exact ⟨foundBefore, fun content stands =>
    leaves.outputs other content different accepted
      (Or.inr (Option.isSome_of_eq_some found)) stands⟩

/-! ## What a job relies on -/

/-- What a job at a stage relies on: its slot and its record, which tells of no
output before the job does, and an output that it has seen. -/
structure Backs
    (server : RenderServer)
    (scene : Scene)
    (id : String)
    (stage : OutputStage)
    (record : Job) :
    Prop where
  plain : IsPlainId id
  owned : scene.registry.Owned id record
  silent : stage ≠ .told → record.outputPath = .null
  stands :
    stage = .seen →
      ∃ content, scene.disk.fileAt? (server.outputOf id) = some content

namespace Backs

variable {id : String} {stage : OutputStage} {record : Job}

/-- A job may give up what it has seen. -/
theorem weakened
    (backs : before.Backs server id .seen record) :
    before.Backs server id .working record where
  plain := backs.plain
  owned := backs.owned
  silent := fun _ => backs.silent (by simp)
  stands := by simp

/-- Steps of other jobs leave what a job relies on. -/
theorem left
    {other : String}
    (backs : before.Backs server id stage record)
    (different : id ≠ other)
    (leaves : Leaves server other before after) :
    after.Backs server id stage record where
  plain := backs.plain
  owned := leaves.owned id record different backs.owned
  silent := backs.silent
  stands := by
    intro isSeen
    obtain ⟨content, stands⟩ := backs.stands isSeen
    exact ⟨content, leaves.outputs id content different backs.plain.accepted
      (Or.inl backs.owned.holds) stands⟩

/-- A record that tells of an output belongs to a job that has told of it. -/
theorem told_of_offer
    (backs : before.Backs server id stage record)
    {job : Job}
    (found : before.registry.find? id = some job)
    (tells : job.outputPath ≠ .null) :
    stage = .told := by
  have same : job = record :=
    Option.some.inj (found.symm.trans backs.owned.found)
  by_contra early
  exact tells (same ▸ backs.silent early)

section Answers

variable {submission : Submission} {call : Call} {answer : call.Answer}

/-- A call that tells nothing, in order, keeps what its job relies on. -/
theorem answered
    (backs : before.Backs server submission.jobId stage record)
    (allowed : submission.Allows server stage call)
    (answers : before.Answers server.tempDirectory call answer after)
    (tellsNot : call.isTell = false) :
    after.Backs server submission.jobId stage record ∧
      Continues server before after submission.jobId := by
  have same := answers.registry_eq tellsNot
  have accepted := backs.plain.accepted
  have stays :
      stage ≠ .working →
      ∀ content,
        before.disk.fileAt? (server.outputOf submission.jobId) =
            some content →
          after.disk.fileAt? (server.outputOf submission.jobId) =
            some content := by
    intro late content stands
    exact answers.fileAt?_stays tellsNot
      (fun target isTarget => (allowed.owned target isTarget).isIn accepted)
      (RenderServer.outputOf_isIn accepted) (allowed.spared late) stands
  refine ⟨⟨backs.plain, same ▸ backs.owned, backs.silent, ?_⟩, ?_⟩
  · intro isSeen
    obtain ⟨content, stands⟩ := backs.stands isSeen
    exact ⟨content, stays (by simp [isSeen]) content stands⟩
  · intro job found tells
    rw [same] at found
    have isTold := backs.told_of_offer found tells
    exact Or.inl ⟨found, stays (by simp [isTold])⟩

end Answers

end Backs

/-! ## What a job tells -/

section Tells

variable {update : StatusUpdate} {answer : (Call.tell update).Answer}
  {record : Job}

/-- What a job tells is about its own record, if the record heeds it; others
lose idle records and their outputs at most. -/
theorem told_cases
    (canonical : server.tempDirectory.Canonical)
    (offers : ∀ id, before.OfferStands server id)
    {id : String}
    (accepted : isJobId id = true)
    (owned : before.registry.Owned id record)
    (ofJob : update.jobId = id)
    (answers :
      before.Answers server.tempDirectory (.tell update) answer after) :
    Leaves server id before after ∧
    after.disk.fileAt? (server.outputOf id) =
      before.disk.fileAt? (server.outputOf id) ∧
    ∃ changed,
      after.registry.Owned id changed ∧
      (changed = record ∨
        record.ignores update.status = false ∧
        ∃ touched,
          changed =
            { (record.updated update.status (.ofInteger? update.progress)
                update.fields).2 with
              touched }) := by
  subst ofJob
  obtain ⟨now, later, _, isApplied⟩ := answers
  let call : RegistryCall :=
    .tell update.jobId update.status.name update.progress update.fields now
      later
  have dropsIdle :=
    Registry.tell_dropsIdle owned.wellKeyed owned.holds update.status.name
      (.ofInteger? update.progress) update.fields now later removesOutput
  have spared :
      ∀ job ∈
          (before.registry.tell update.jobId update.status.name
            (.ofInteger? update.progress) update.fields now later
            removesOutput).evicted,
        job.id ≠ update.jobId := by
    intro job isEvicted same
    obtain ⟨_, noSlot, _⟩ := dropsIdle job isEvicted
    rw [same, owned.holds] at noSlot
    cases noSlot
  rw [isApplied]
  refine ⟨?_, fileAt?_applied canonical offers dropsIdle accepted spared, ?_⟩
  · exact .applied canonical owned.wellKeyed offers
      (rfl : call.id? = some update.jobId) rfl dropsIdle
  · exact owned.tell_cases update.status update.progress update.fields now
      later removesOutput

end Tells

/-- A record that heeds what it is told tells of no output yet. -/
theorem OfferStands.silent_of_heeded
    {id : String}
    (offers : before.OfferStands server id)
    {record : Job}
    (found : before.registry.find? id = some record)
    {status : JobStatus}
    (heeded : record.ignores status = false) :
    record.outputPath = .null := by
  by_contra tells
  obtain ⟨_, offered, _⟩ := offers record found tells
  simp [Job.ignores, offered.isDone, JobStatus.isFinal] at heeded

namespace Backs

variable {submission : Submission} {stage : OutputStage} {record : Job}

/-- To tell of no output keeps what a job relies on. -/
theorem told
    (canonical : server.tempDirectory.Canonical)
    (offers : ∀ id, before.OfferStands server id)
    (backs : before.Backs server submission.jobId stage record)
    {update : StatusUpdate}
    {answer : (Call.tell update).Answer}
    (allowed : submission.Allows server stage (.tell update))
    (answers :
      before.Answers server.tempDirectory (.tell update) answer after) :
    Leaves server submission.jobId before after ∧
    Continues server before after submission.jobId ∧
    ∃ changed, after.Backs server submission.jobId stage changed := by
  obtain ⟨ofJob, noOutput⟩ := allowed.told update rfl
  have ⟨plain, owned, silent, stands⟩ := backs
  obtain ⟨leaves, sameFile, changed, ownedAfter, cases⟩ :=
    told_cases canonical offers plain.accepted owned ofJob answers
  have silentIfUpdated : changed = record ∨ changed.outputPath = .null := by
    rcases cases with same | ⟨heeded, touched, isUpdated⟩
    · exact Or.inl same
    · right
      have silentBefore : record.outputPath = .null :=
        (offers submission.jobId).silent_of_heeded owned.found heeded
      have toldNone : OutputsTold (· = .null) update.fields :=
        fun value member => (noOutput value member).elim
      rw [isUpdated]
      exact @Job.updated_outputPath (· = .null) record update.fields
        silentBefore toldNone update.status (.ofInteger? update.progress)
  refine ⟨leaves, ?_, changed, plain, ownedAfter, ?_, ?_⟩
  · intro job found tells
    have isChanged : job = changed :=
      Option.some.inj (found.symm.trans ownedAfter.found)
    subst isChanged
    rcases silentIfUpdated with same | isSilent
    · subst same
      exact Or.inl ⟨owned.found, fun content => sameFile.trans⟩
    · exact (tells isSilent).elim
  · intro early
    rcases silentIfUpdated with same | isSilent
    · rw [same]
      exact silent early
    · exact isSilent
  · intro isSeen
    obtain ⟨content, isThere⟩ := stands isSeen
    exact ⟨content, sameFile.trans isThere⟩

/-- To tell of an output that was seen offers it. -/
theorem offered
    (canonical : server.tempDirectory.Canonical)
    (offers : ∀ id, before.OfferStands server id)
    (backs : before.Backs server submission.jobId .seen record)
    {metadata : Json}
    {answer : Outcome Unit}
    (answers :
      before.Answers server.tempDirectory
        (.tell (submission.offer server metadata)) answer after) :
    Leaves server submission.jobId before after ∧
    Continues server before after submission.jobId ∧
    ∃ changed, after.Backs server submission.jobId .told changed := by
  have ⟨plain, owned, silent, stands⟩ := backs
  obtain ⟨leaves, sameFile, changed, ownedAfter, cases⟩ :=
    told_cases canonical offers plain.accepted owned rfl answers
  refine ⟨leaves, ?_, changed, plain, ownedAfter, by simp, by simp⟩
  intro job found tells
  have isChanged : job = changed :=
    Option.some.inj (found.symm.trans ownedAfter.found)
  subst isChanged
  rcases cases with same | ⟨heeded, touched, isUpdated⟩
  · exact (tells (same ▸ silent (by simp))).elim
  · right
    have isJob : record.id = submission.jobId :=
      owned.wellKeyed.id_of_find? owned.found
    obtain ⟨content, isThere⟩ := stands rfl
    refine ⟨plain, ?_, ⟨content, sameFile.trans isThere⟩, ?_⟩
    · rw [isUpdated]
      exact .of_updated isJob metadata touched
    · intro old foundOld isDone
      have sameOld : old = record :=
        Option.some.inj (foundOld.symm.trans owned.found)
      rw [sameOld] at isDone
      simp [Job.ignores, isDone, JobStatus.isFinal] at heeded

/-- What is looked for and found is a file, since it is no directory. -/
theorem looked
    (backs : before.Backs server submission.jobId .working record)
    {answer : Outcome Bool}
    (answers :
      before.Answers server.tempDirectory
        (.holds (server.outputOf submission.jobId)) answer after) :
    after = before ∧
    (answer = .ok true →
      after.Backs server submission.jobId .seen record) := by
  obtain ⟨same, isHolds, noDirectory⟩ := answers
  refine ⟨same, ?_⟩
  intro isThere
  rw [same]
  refine ⟨backs.plain, backs.owned, fun _ => backs.silent (by simp), ?_⟩
  intro _
  exact Disk.exists_fileAt?_of_holds (isHolds.symm.trans isThere) noDirectory

end Backs

end Scene

end Montage
