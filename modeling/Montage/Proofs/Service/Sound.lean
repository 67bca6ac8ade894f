import Montage.Proofs.Service.Invariant

namespace Montage

/-!
# Soundness of the service

A service is sound if every job that runs is in order and has what it relies on,
and every record that tells of an output tells of one that stands. Every step
keeps a service sound, so every service that is reached is sound.
-/

namespace Scene

variable {server : RenderServer} {before after : Scene}
  {submission : Submission}

/-- A job that runs is in order, and has what it relies on. -/
def Hosts
    (server : RenderServer)
    (scene : Scene)
    (job : LiveJob) :
    Prop :=
  ∃ stage record,
    scene.Backs server job.submission.jobId stage record ∧
    job.submission.Conducts server stage job.rest

theorem Hosts.holdsSlot
    {job : LiveJob}
    (hosted : before.Hosts server job) :
    before.registry.holdsSlot job.submission.jobId = true := by
  obtain ⟨_, _, backs, _⟩ := hosted
  exact backs.owned.holds

/-- Steps of other jobs leave a job in order. -/
theorem Hosts.left
    {id : String}
    {job : LiveJob}
    (hosted : before.Hosts server job)
    (different : job.submission.jobId ≠ id)
    (leaves : Leaves server id before after) :
    after.Hosts server job := by
  obtain ⟨stage, record, backs, conducts⟩ := hosted
  exact ⟨stage, record, backs.left different leaves, conducts⟩

theorem Continues.refl
    (server : RenderServer)
    (scene : Scene)
    (id : String) :
    Continues server scene scene id :=
  fun _ found _ => Or.inl ⟨found, fun _ stands => stands⟩

/-! ## Calls of a job -/

/-- A call in order that tells nothing leaves a job in order. -/
theorem Backs.goes_on
    {stage : OutputStage}
    {record : Job}
    {call : Call}
    {answer : call.Answer}
    (canonical : server.tempDirectory.Canonical)
    (offers : ∀ id, before.OfferStands server id)
    (backs : before.Backs server submission.jobId stage record)
    (allowed : submission.Allows server stage call)
    (answers : before.Answers server.tempDirectory call answer after) :
    Leaves server submission.jobId before after ∧
    Continues server before after submission.jobId ∧
    ∃ changed, after.Backs server submission.jobId stage changed := by
  cases isTell : call.isTell with
  | false =>
      have leaves :=
        Leaves.answered backs.owned.wellKeyed backs.plain.accepted allowed
          answers isTell
      obtain ⟨kept, continues⟩ := backs.answered allowed answers isTell
      exact ⟨leaves, continues, record, kept⟩
  | true =>
      cases call with
      | tell update => exact backs.told canonical offers allowed answers
      | _ => cases isTell

/-- A call of a job in order leaves all others, and the job in order. -/
theorem Backs.called
    {stage : OutputStage}
    {record : Job}
    {call : Call}
    {next : call.Answer → Program (Outcome Unit)}
    {answer : call.Answer}
    (canonical : server.tempDirectory.Canonical)
    (offers : ∀ id, before.OfferStands server id)
    (backs : before.Backs server submission.jobId stage record)
    (answers : before.Answers server.tempDirectory call answer after)
    (conducts : submission.Conducts server stage (.step call next)) :
    Leaves server submission.jobId before after ∧
    Continues server before after submission.jobId ∧
    after.Hosts server { submission, rest := next answer } := by
  -- Only giving up what was seen leads back to the same call.
  generalize isStep : Program.step call next = program at conducts
  induction conducts with
  | ended => cases isStep
  | called allowed goesOn =>
      cases isStep
      obtain ⟨leaves, continues, changed, kept⟩ :=
        backs.goes_on canonical offers allowed answers
      exact ⟨leaves, continues, _, changed, kept, goesOn answer⟩
  | looked present absent =>
      cases isStep
      obtain ⟨same, found⟩ := backs.looked answers
      subst same
      refine ⟨?_, .refl server _ _, ?_⟩
      · exact .answered backs.owned.wellKeyed backs.plain.accepted
          (Submission.allows_of_no_targets rfl rfl : submission.Allows server
            .working (.holds (server.outputOf submission.jobId))) answers rfl
      · by_cases isThere : answer = .ok true
        · subst isThere
          exact ⟨.seen, record, found rfl, present⟩
        · exact ⟨.working, record, backs, absent answer isThere⟩
  | offered goesOn =>
      cases isStep
      obtain ⟨leaves, continues, changed, kept⟩ :=
        backs.offered canonical offers answers
      exact ⟨leaves, continues, .told, changed, kept, goesOn answer⟩
  | gaveUp rest inductionHypothesis =>
      exact inductionHypothesis backs.weakened isStep

/-! ## Taking a job in -/

variable {request : RenderRequest} {now later : Binary64}

/-- To take a job in drops idle records at most. -/
theorem enrollment_dropsIdle
    (wellKeyed : before.registry.WellKeyed)
    (request : RenderRequest)
    (submission : Submission)
    (now later : Binary64) :
    before.registry.DropsIdle
      (before.enrollment request submission now later) :=
  Registry.enroll_dropsIdle wellKeyed submission.jobId
    (.ofText? request.projectId) now later removesOutput

/-- To take a job in leaves all other jobs. -/
theorem Leaves.enrollment
    (canonical : server.tempDirectory.Canonical)
    (wellKeyed : before.registry.WellKeyed)
    (offers : ∀ id, before.OfferStands server id)
    (request : RenderRequest)
    (submission : Submission)
    (now later : Binary64) :
    Leaves server submission.jobId before
      (before.applied (before.enrollment request submission now later)) :=
  .applied canonical wellKeyed offers
    (rfl :
      (RegistryCall.enroll submission.jobId (.ofText? request.projectId) now
        later).id? = some submission.jobId)
    rfl
    (enrollment_dropsIdle wellKeyed request submission now later)

/-- A record that was there when its id was asked for again is kept with its
output, or gives way to a record that tells of none. -/
theorem Continues.enrollment
    (canonical : server.tempDirectory.Canonical)
    (wellKeyed : before.registry.WellKeyed)
    (offers : ∀ id, before.OfferStands server id)
    (plain : IsPlainId submission.jobId)
    (request : RenderRequest)
    (now later : Binary64) :
    Continues server before
      (before.applied (before.enrollment request submission now later))
      submission.jobId := by
  intro job found tells
  have dropsIdle :=
    enrollment_dropsIdle wellKeyed request submission now later
  have spared :
      ∀ dropped ∈ (before.enrollment request submission now later).evicted,
        dropped.id ≠ submission.jobId := by
    intro dropped isEvicted same
    obtain ⟨_, _, gone⟩ := dropsIdle dropped isEvicted
    rw [same] at gone
    exact Option.some_ne_none job (found.symm.trans gone)
  let call : RegistryCall :=
    .enroll submission.jobId (.ofText? request.projectId) now later
  have foundAfter :
      (call.run removesOutput before.registry).find? submission.jobId =
        some job :=
    found
  cases Registry.run_origin wellKeyed foundAfter with
  | kept foundBefore =>
      left
      refine ⟨foundBefore, ?_⟩
      intro content stands
      rw [fileAt?_applied canonical offers dropsIdle plain.accepted spared]
      exact stands
  | entered replaces => exact (tells rfl).elim
  | updated isTell named updates =>
      simp only [call, reduceCtorEq] at isTell

/-- A job that is taken in is in order. -/
theorem Hosts.of_taken
    {job : Job}
    (canonical : server.tempDirectory.Canonical)
    (wellKeyed : before.registry.WellKeyed)
    (plain : IsPlainId submission.jobId)
    (taken :
      (before.enrollment request submission now later).result = .ok job) :
    ((before.applied
        (before.enrollment request submission now later)).withTask
          submission.jobId).Hosts server
      { submission, rest := submission.run server } := by
  obtain ⟨isFresh, owned⟩ := Registry.Owned.of_enroll wellKeyed taken
  subst isFresh
  exact ⟨.working, _, ⟨plain, owned.startTask, fun _ => rfl, by simp⟩,
    submission.run_conducts canonical⟩

end Scene

namespace Service

variable {server : RenderServer} {before after : Service}

/-- A service whose jobs are in order, and whose records tell of outputs that
stand. -/
structure Sound
    (server : RenderServer)
    (service : Service) :
    Prop where
  wellKeyed : service.scene.registry.WellKeyed
  different : (service.live.map (·.submission.jobId)).Nodup
  hosted : ∀ job ∈ service.live, service.scene.Hosts server job
  offers : ∀ id, service.scene.OfferStands server id

/-- A service in which nothing has happened is sound. -/
theorem opened_sound
    (server : RenderServer)
    (limit highWater : Int)
    (lifetime : Binary64)
    (disk : Disk) :
    (opened limit highWater lifetime disk).Sound server where
  wellKeyed := Registry.opened_wellKeyed limit highWater lifetime
  different := List.nodup_nil
  hosted := by
    intro job member
    cases member
  offers := by
    intro id job found
    cases found

/-- A step about one job keeps a service sound if it leaves all others. -/
theorem Sound.of_leaves
    {id : String}
    (sound : before.Sound server)
    (after : Service)
    (leaves : Scene.Leaves server id before.scene after.scene)
    (continues : Scene.Continues server before.scene after.scene id)
    (different : (after.live.map (·.submission.jobId)).Nodup)
    (hosted :
      ∀ job ∈ after.live,
        (job ∈ before.live ∧ job.submission.jobId ≠ id) ∨
          after.scene.Hosts server job) :
    after.Sound server ∧
    ∀ other, Scene.Continues server before.scene after.scene other := by
  have continuesAll :
      ∀ other, Scene.Continues server before.scene after.scene other := by
    intro other
    by_cases same : other = id
    · subst same
      exact continues
    · exact leaves.continues same (sound.offers other)
  refine ⟨⟨leaves.wellKeyed, different, ?_, ?_⟩, continuesAll⟩
  · intro job member
    rcases hosted job member with ⟨wasLive, isOther⟩ | inOrder
    · exact (sound.hosted job wasLive).left isOther leaves
    · exact inOrder
  · intro other
    exact (continuesAll other).offerStands (sound.offers other)

/-- No job that runs has an id that can be taken. -/
theorem Sound.ne_of_admits
    (sound : before.Sound server)
    {id : String}
    (admitted : before.scene.registry.admits id = true)
    {job : LiveJob}
    (isLive : job ∈ before.live) :
    job.submission.jobId ≠ id := by
  intro same
  have holds := (sound.hosted job isLive).holdsSlot
  rw [same] at holds
  exact Registry.not_holdsSlot_of_admits admitted
    (List.contains_iff_mem.mp holds)

section Steps

variable {scene : Scene} {live front back : List LiveJob}
  {request : RenderRequest} {submission : Submission} {now later : Binary64}

/-- A job that is taken in joins those that run. -/
theorem Sound.admitted
    {job : Job}
    (canonical : server.tempDirectory.Canonical)
    (sound : Sound server { scene, live })
    (plain : IsPlainId submission.jobId)
    (taken :
      (scene.enrollment request submission now later).result = .ok job) :
    let after : Service := {
      scene :=
        (scene.applied
          (scene.enrollment request submission now later)).withTask
            submission.jobId
      live := live ++ [{ submission, rest := submission.run server }] }
    after.Sound server ∧
    ∀ id, Scene.Continues server scene after.scene id := by
  have isFree : scene.registry.admits submission.jobId = true :=
    Registry.admits_of_enroll taken
  have areOthers :
      ∀ job ∈ live, job.submission.jobId ≠ submission.jobId :=
    fun job isLive => sound.ne_of_admits isFree isLive
  have leaves :=
    Scene.Leaves.enrollment canonical sound.wellKeyed sound.offers request
      submission now later
  have continues :=
    Scene.Continues.enrollment canonical sound.wellKeyed sound.offers plain
      request now later
  intro after
  refine sound.of_leaves after leaves.withTask continues ?_ ?_
  · rw [List.map_append, List.map_singleton, ← List.concat_eq_append]
    refine sound.different.concat ?_
    intro member
    obtain ⟨job, isLive, same⟩ := List.mem_map.mp member
    exact areOthers job isLive same
  · intro job member
    rcases List.mem_append.mp member with isLive | isNew
    · exact Or.inl ⟨isLive, areOthers job isLive⟩
    · right
      rw [List.mem_singleton.mp isNew]
      exact .of_taken canonical sound.wellKeyed plain taken

/-- A job that is refused leaves those that run. -/
theorem Sound.refused
    (canonical : server.tempDirectory.Canonical)
    (sound : Sound server { scene, live })
    (plain : IsPlainId submission.jobId) :
    let after : Service := {
      scene :=
        scene.applied (scene.enrollment request submission now later)
      live }
    after.Sound server ∧
    ∀ id, Scene.Continues server scene after.scene id := by
  rcases Registry.enroll_cases scene.registry submission.jobId
      (.ofText? request.projectId) now later removesOutput with
    ⟨_, error, isRefused⟩ | ⟨isFree, _⟩
  · -- The id is in use, perhaps by a job that runs, and nothing happens.
    have unchanged :
        scene.applied (scene.enrollment request submission now later) =
          scene := by
      rw [Scene.enrollment, isRefused]
      rfl
    simp only [unchanged]
    exact ⟨sound, .refl server scene⟩
  · have leaves :=
      Scene.Leaves.enrollment canonical sound.wellKeyed sound.offers request
        submission now later
    have continues :=
      Scene.Continues.enrollment canonical sound.wellKeyed sound.offers plain
        request now later
    intro after
    refine sound.of_leaves after leaves continues sound.different ?_
    intro job isLive
    exact Or.inl ⟨isLive, sound.ne_of_admits isFree isLive⟩

/-- A call that is answered leaves all jobs in order. -/
theorem Sound.called
    {after : Scene}
    {call : Call}
    {next : call.Answer → Program (Outcome Unit)}
    {answer : call.Answer}
    (canonical : server.tempDirectory.Canonical)
    (sound :
      Sound server {
        scene
        live := front ++ { submission, rest := .step call next } :: back })
    (answered : scene.Answers server.tempDirectory call answer after) :
    Sound server {
      scene := after
      live := front ++ { submission, rest := next answer } :: back } ∧
    ∀ id, Scene.Continues server scene after id := by
  obtain ⟨stage, record, backs, conducts⟩ :=
    sound.hosted _ (List.mem_append_right front List.mem_cons_self)
  obtain ⟨leaves, continues, inOrder⟩ :=
    backs.called canonical sound.offers answered conducts
  refine sound.of_leaves {
    scene := after
    live := front ++ { submission, rest := next answer } :: back }
    leaves continues ?_ ?_
  · simpa using sound.different
  · intro job member
    rcases mem_amid.mp member with isSame | isOther
    · right
      rw [isSame]
      exact inOrder
    · exact Or.inl ⟨mem_amid.mpr (Or.inr isOther),
        ne_of_amid (·.submission.jobId) sound.different isOther⟩

/-- A job that ends leaves all others. -/
theorem Sound.ended
    {outcome : Outcome Unit}
    (sound :
      Sound server {
        scene
        live := front ++ { submission, rest := .done outcome } :: back }) :
    Sound server {
      scene := scene.withoutTask submission.jobId
      live := front ++ back } ∧
    ∀ id,
      Scene.Continues server scene (scene.withoutTask submission.jobId) id := by
  refine sound.of_leaves {
    scene := scene.withoutTask submission.jobId
    live := front ++ back }
    (Scene.Leaves.withoutTask sound.wellKeyed submission.jobId)
    (.refl server scene submission.jobId) ?_ ?_
  · refine sound.different.sublist (.map _ ?_)
    exact .append_left (List.sublist_cons_self _ _) front
  · intro job isOther
    exact Or.inl ⟨mem_amid.mpr (Or.inr isOther),
      ne_of_amid (·.submission.jobId) sound.different isOther⟩

end Steps

/-- What one step of the service does to its records: a service that was sound
stays so, and each record that tells of an output after the step was there with
it before, or is a new offer. -/
theorem Sound.step
    (canonical : server.tempDirectory.Canonical)
    (sound : before.Sound server)
    (steps : Step server before after) :
    after.Sound server ∧
    ∀ id, Scene.Continues server before.scene after.scene id := by
  cases steps with
  | admitted _ plain taken => exact sound.admitted canonical plain taken
  | refused _ plain _ => exact sound.refused canonical plain
  | called answered => exact sound.called canonical answered
  | ended => exact sound.ended

/-- Whatever a service goes through, it is sound if it was at its start. -/
theorem Sound.of_history
    {start service : Service}
    {past : List Service}
    (canonical : server.tempDirectory.Canonical)
    (sound : start.Sound server)
    (history : History server start past service) :
    service.Sound server := by
  induction history with
  | started => exact sound
  | went _ steps inductionHypothesis =>
      exact (inductionHypothesis.step canonical steps).1

end Service

end Montage
