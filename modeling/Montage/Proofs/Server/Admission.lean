import Montage.Proofs.Service.SoundAnnals
import Montage.Server.Answer

namespace Montage

/-!
# Taking requests in

What a render request does to the server. Schema, submission, ids in use and
free slots are checked one after another, and a request that any of these turns
away leaves the server as it was. A request that passes all of them gets one
slot, one record and one task.
-/

/-! ## Registries as they are in use -/

namespace Registry

/-- A registry in use: each record has the id that it stands under, and tells of
no output but under a name that a file can have. -/
structure IsSound (registry : Registry) : Prop where
  wellKeyed : registry.WellKeyed
  outputs : registry.Outputs NamesUsableFile

/-- A registry stays sound as long as usable outputs are told. -/
theorem IsSound.play
    {registry : Registry}
    (sound : registry.IsSound)
    {calls : List RegistryCall}
    (told : ∀ call ∈ calls, call.Tells NamesUsableFile) :
    (registry.play removesOutput calls).IsSound := by
  induction calls generalizing registry with
  | nil => exact sound
  | cons call rest inductionHypothesis =>
      have toldNow := told call List.mem_cons_self
      have soundNext : (call.run removesOutput registry).IsSound := {
        wellKeyed := sound.wellKeyed.run removesOutput call
        outputs :=
          sound.outputs.run removesOutput_suits.absent sound.wellKeyed
            removesOutput toldNow }
      exact inductionHypothesis soundNext
        (fun later member => told later (List.mem_cons_of_mem call member))

end Registry

/-- The registry of a service is sound, whatever its jobs went through. -/
theorem Annals.Reached.registry_isSound
    {server : RenderServer}
    (canonical : server.tempDirectory.Canonical)
    (usable : server.tempDirectory.isUsable = true)
    {annals : Annals}
    (reached : annals.Reached server) :
    annals.scene.registry.IsSound where
  wellKeyed := (reached.sound canonical).wellKeyed
  outputs := by
    intro id job found
    by_cases silent : job.outputPath = .null
    · exact .inl silent
    · obtain ⟨accepted, isOutput⟩ :=
        (reached.sound canonical).telling id job found silent
      refine .inr ⟨(server.outputOf id).toText, isOutput, ?_⟩
      rw [RenderServer.ofText_outputOf canonical id]
      exact Scene.outputOf_isUsable usable accepted

/-! ## What a registry gains -/

namespace Registry

theorem isInUse_iff
    {registry : Registry}
    {id : String} :
    registry.isInUse id = true ↔
      id ∈ registry.slots ∨
      ∃ job, registry.find? id = some job ∧ job.status.isFinal = false := by
  simp [isInUse, holdsSlot, Option.any_eq_true]

theorem admits_iff
    {registry : Registry}
    {id : String} :
    registry.admits id = true ↔
      registry.isInUse id = false ∧
      (registry.slots.length : Int) < registry.limit := by
  simp [admits]

/-- Only stale records are dropped, and only if there are too many. -/
theorem stale_of_dropStale
    {registry : Registry}
    {now : Binary64}
    {hook : EvictionHook}
    {job : Job}
    (dropped : job ∈ (registry.dropStale now hook).evicted) :
    registry.isStale now job = true ∧
      registry.highWater < registry.jobs.length := by
  unfold dropStale at dropped
  split at dropped
  · cases dropped
  · rename_i tooMany
    obtain ⟨inStale, _⟩ := mem_evicted hook registry dropped
    exact ⟨(List.mem_filter.mp inStale).2, Int.not_le.mp tooMany⟩

theorem length_setField_le
    {α : Type}
    (name : String)
    (value : α)
    (fields : List (String × α)) :
    (setField name value fields).length ≤ fields.length + 1 := by
  induction fields with
  | nil => simp [setField]
  | cons field rest inductionHypothesis =>
      by_cases same : field.1 = name
      · simp [setField, same]
      · simpa [setField, same] using inductionHypothesis

/--
What a registry gains when it takes a job in: one slot, one task and one record,
which is queued without progress. At most a final record of the id that held no
slot is replaced; any other record stays as it is, or is dropped because it is
stale while there are as many records as there may be.
-/
structure Gains
    (before after : Registry)
    (id : String)
    (project : Json)
    (now later : Binary64) :
    Prop where
  limit : after.limit = before.limit
  highWater : after.highWater = before.highWater
  lifetime : after.lifetime = before.lifetime
  slots : after.slots = before.slots ++ [id]
  tasks : after.tasks = before.tasks ++ [id]
  record :
    after.find? id = some {
      id, project, status := .queued, progress := .whole 0, touched := now }
  wasFree : id ∉ before.slots
  wasFinal : ∀ job, before.find? id = some job → job.status.isFinal = true
  others :
    ∀ other, other ≠ id →
      after.find? other = before.find? other ∨
      (after.find? other = none ∧
        ∃ job,
          before.find? other = some job ∧
          before.isStale later job = true ∧
          before.highWater ≤ before.jobs.length)

/-- What is dropped while a job is taken in was stale before. -/
theorem stale_of_entered
    {registry : Registry}
    (wellKeyed : registry.WellKeyed)
    {id other : String}
    (different : other ≠ id)
    {project : Json}
    {now later : Binary64}
    {hook : EvictionHook}
    {job : Job}
    (found : registry.find? other = some job)
    (gone :
      ((registry.entered id project now).dropStale later hook).registry.find?
        other = none) :
    registry.isStale later job = true ∧
      registry.highWater ≤ registry.jobs.length := by
  have stands :
      (registry.entered id project now).find? other = some job :=
    (find?_entered_of_ne registry different project now).trans found
  have swept :=
    dropStaleFor_tellsDropped () (registry.entered id project now) later hook
      other (by rw [stands]; rfl) gone
  obtain ⟨dropped, isDropped, sameId⟩ := swept
  have enteredKeyed := wellKeyed.entered id project now
  have isJob : dropped = job := by
    obtain ⟨stood, _⟩ :=
      (dropStale_sweptChange (registry.entered id project now) later
        hook).dropsIdle enteredKeyed dropped isDropped
    rw [sameId, stands] at stood
    exact (Option.some.inj stood).symm
  rw [isJob] at isDropped
  obtain ⟨stale, tooMany⟩ := stale_of_dropStale isDropped
  have atMostOneMore :
      (registry.entered id project now).jobs.length ≤
        registry.jobs.length + 1 :=
    length_setField_le id (fresh id project now) registry.jobs
  have sameMark : (registry.entered id project now).highWater =
      registry.highWater := rfl
  refine ⟨?_, by omega⟩
  have staleParts :
      (job.id ∉ registry.slots ∧ job.id ≠ id) ∧
        registry.lifetime.less (later - job.touched) = true := by
    simpa [isStale, holdsSlot, entered, put] using stale
  simp [isStale, holdsSlot, staleParts.1.1, staleParts.2]

/-- To take a job in makes the registry gain it. -/
theorem gains_of_enroll
    {registry : Registry}
    (wellKeyed : registry.WellKeyed)
    {id : String}
    (admitted : registry.admits id = true)
    (project : Json)
    (now later : Binary64)
    (hook : EvictionHook) :
    registry.Gains
      ((registry.enroll id project now later hook).registry.startTask id)
      id project now later := by
  rcases enroll_cases registry id project now later hook with
    ⟨refused, _⟩ | ⟨_, taken⟩
  · rw [admitted] at refused
    cases refused
  · have swept := dropStale_swept (registry.entered id project now) later hook
    rw [taken]
    exact {
      limit := swept.limit
      highWater := swept.highWater
      lifetime := swept.lifetime
      slots := swept.slots
      tasks := congrArg (· ++ [id]) swept.tasks
      record :=
        (swept.held id (entered_holdsSlot registry id project now)).trans
          (find?_entered_self registry id project now)
      wasFree := not_holdsSlot_of_admits admitted
      wasFinal := by
        intro job found
        have notInUse := (admits_iff.mp admitted).1
        cases isFinal : job.status.isFinal with
        | true => rfl
        | false =>
            have inUse := isInUse_iff.mpr (.inr ⟨job, found, isFinal⟩)
            rw [inUse] at notInUse
            cases notInUse
      others := by
        intro other different
        have kept := find?_entered_of_ne registry different project now
        rcases swept.records other with same | gone
        · exact .inl (same.trans kept)
        · cases found : registry.find? other with
          | none => exact .inl gone
          | some job =>
              exact .inr ⟨gone, job, rfl,
                stale_of_entered wellKeyed different found gone⟩ }

end Registry

/-! ## What a request submits -/

/-- Schema and checks accept what a request submits. -/
def HttpRequest.Submits
    (request : HttpRequest)
    (read : RenderRequest)
    (submission : Submission) :
    Prop :=
  ∃ body,
    Server.bodyOf request = .ok (some body) ∧
    RenderRequest.read body = .valid read ∧
    read.submission = .ok submission

/-- A request submits one thing at most. -/
theorem HttpRequest.Submits.unique
    {request : HttpRequest}
    {read other : RenderRequest}
    {submission another : Submission}
    (submits : request.Submits read submission)
    (submitsOther : request.Submits other another) :
    read = other ∧ submission = another := by
  obtain ⟨body, hasBody, isRead, accepted⟩ := submits
  obtain ⟨otherBody, hasOther, isOther, otherAccepted⟩ := submitsOther
  rw [hasBody] at hasOther
  obtain rfl : body = otherBody := Option.some.inj (Except.ok.inj hasOther)
  rw [isRead] at isOther
  obtain rfl : read = other := Checked.valid.inj isOther
  rw [accepted] at otherAccepted
  exact ⟨rfl, Except.ok.inj otherAccepted⟩

theorem RenderRequest.submission_eq_error
    {read : RenderRequest}
    {error : ServerError}
    (refused : read.submission = .error error) :
    ∃ reason field, error = .invalidRequest reason field := by
  unfold submission at refused
  split at refused
  · cases refused
    exact ⟨_, _, rfl⟩
  · split at refused
    · cases refused
      exact ⟨_, _, rfl⟩
    · split at refused
      · cases refused
      · split at refused
        · cases refused
          exact ⟨_, _, rfl⟩
        · cases refused

namespace Server

theorem status_of_bodyOf
    {request : HttpRequest}
    {response : HttpResponse}
    (refused : bodyOf request = .error response) :
    response.status = 400 := by
  unfold bodyOf at refused
  split at refused
  · cases refused
  · split at refused
    · split at refused <;> cases refused <;> rfl
    · cases refused

/-- A body that is no render request is refused with one status. -/
theorem status_of_submittedRequest
    {request : HttpRequest}
    {response : HttpResponse}
    (refused : submittedRequest request = .error response) :
    response.status = 400 := by
  unfold submittedRequest at refused
  cases hasBody : bodyOf request with
  | error other =>
      rw [hasBody] at refused
      cases refused
      exact status_of_bodyOf hasBody
  | ok body =>
      rw [hasBody] at refused
      cases body with
      | none =>
          cases refused
          rfl
      | some value =>
          simp only [bind, Except.bind] at refused
          split at refused <;> cases refused <;> rfl

theorem submittedRequest_eq_ok_iff
    {request : HttpRequest}
    {read : RenderRequest} :
    submittedRequest request = .ok read ↔
      ∃ body,
        bodyOf request = .ok (some body) ∧
        RenderRequest.read body = .valid read := by
  unfold submittedRequest
  cases hasBody : bodyOf request with
  | error response => simp [bind, Except.bind]
  | ok body =>
      cases body with
      | none => simp [bind, Except.bind]
      | some value =>
          simp only [bind, Except.bind]
          split
          · rename_i other isRead
            simp [isRead]
          · rename_i isInvalid
            simp [isInvalid]
          · rename_i isInvalid
            simp [isInvalid]

/-! ## What the server answers -/

/-- The ways in which a render request is answered. -/
inductive AnswersSubmission
    (server : Server)
    (request : HttpRequest) :
    ServerAnswer → Prop
  | refused
      {response : HttpResponse}
      (isNone : ∀ read submission, ¬ request.Submits read submission)
      (isRefusal : response.status = 400) :
      AnswersSubmission server request { response, server }
  | inProgress
      {response : HttpResponse}
      {read : RenderRequest}
      {submission : Submission}
      (submits : request.Submits read submission)
      (inUse : server.world.registry.isInUse submission.jobId = true)
      (isConflict : response.status = 409) :
      AnswersSubmission server request { response, server }
  | busy
      {response : HttpResponse}
      {read : RenderRequest}
      {submission : Submission}
      (submits : request.Submits read submission)
      (notInUse : server.world.registry.isInUse submission.jobId = false)
      (full :
        server.world.registry.limit ≤ server.world.registry.slots.length)
      (isBusy : response.status = 503) :
      AnswersSubmission server request { response, server }
  | accepted
      {response : HttpResponse}
      {read : RenderRequest}
      {submission : Submission}
      {after : Server}
      (submits : request.Submits read submission)
      (admitted : server.world.registry.admits submission.jobId = true)
      (gains :
        server.world.registry.Gains after.world.registry submission.jobId
          (.ofText? read.projectId) server.world.now server.world.now)
      (isAccepted : response.status = 202) :
      AnswersSubmission server request
        { response, server := after, accepted := some submission }

end Server

/-- An id in use is refused, and nothing changes. -/
theorem World.enroll_of_inUse
    {world : World}
    {id : String}
    (inUse : world.registry.isInUse id = true)
    (project : Json) :
    world.enroll id project =
      (.error (.server (.jobInProgress (some id))), world) := by
  unfold World.enroll Registry.enroll
  rw [if_pos inUse]
  rfl

/-- If no slot is free, a job is refused, and nothing changes. -/
theorem World.enroll_of_full
    {world : World}
    {id : String}
    (notInUse : world.registry.isInUse id = false)
    (full : world.registry.limit ≤ world.registry.slots.length)
    (project : Json) :
    world.enroll id project =
      (.error (.server
        (.busy world.registry.slots.length world.registry.limit)), world) := by
  unfold World.enroll Registry.enroll
  rw [notInUse, if_neg Bool.false_ne_true, if_pos full]
  rfl

namespace Server

theorem submit_answers
    {server : Server}
    (sound : server.world.registry.IsSound)
    (request : HttpRequest) :
    server.AnswersSubmission request (server.submit request) := by
  unfold submit
  cases isRequest : submittedRequest request with
  | error response =>
      refine .refused ?_ (status_of_submittedRequest isRequest)
      rintro read submission ⟨body, hasBody, isRead, _⟩
      have submitted :=
        submittedRequest_eq_ok_iff.mpr ⟨body, hasBody, isRead⟩
      rw [isRequest] at submitted
      cases submitted
  | ok read =>
      obtain ⟨body, hasBody, isRead⟩ :=
        submittedRequest_eq_ok_iff.mp isRequest
      dsimp only
      cases isSubmission : read.submission with
      | error error =>
          obtain ⟨reason, field, rfl⟩ :=
            RenderRequest.submission_eq_error isSubmission
          refine .refused ?_ rfl
          rintro other submission ⟨otherBody, hasOther, isOther, accepted⟩
          rw [hasBody] at hasOther
          obtain rfl : body = otherBody :=
            Option.some.inj (Except.ok.inj hasOther)
          rw [isRead] at isOther
          obtain rfl : read = other := Checked.valid.inj isOther
          rw [isSubmission] at accepted
          cases accepted
      | ok submission =>
          have submits : request.Submits read submission :=
            ⟨body, hasBody, isRead, isSubmission⟩
          dsimp only
          cases inUse : server.world.registry.isInUse submission.jobId with
          | true =>
              rw [World.enroll_of_inUse inUse]
              exact .inProgress submits inUse rfl
          | false =>
              by_cases full :
                  server.world.registry.limit ≤
                    server.world.registry.slots.length
              · rw [World.enroll_of_full inUse full]
                exact .busy submits inUse full rfl
              · have admitted :
                    server.world.registry.admits submission.jobId = true :=
                  Registry.admits_iff.mpr ⟨inUse, Int.not_le.mp full⟩
                have isOk :=
                  Registry.enroll_ok removesOutput_suits sound.wellKeyed
                    sound.outputs admitted (.ofText? read.projectId)
                    server.world.now server.world.now
                have gains :=
                  Registry.gains_of_enroll sound.wellKeyed admitted
                    (.ofText? read.projectId) server.world.now
                    server.world.now removesOutput
                unfold World.enroll World.applyChange
                dsimp only
                rw [isOk]
                exact .accepted submits admitted gains rfl

/-- Posts to the endpoint of renderings are answered in one of these ways. -/
theorem answer_answers
    {server : Server}
    (sound : server.world.registry.IsSound)
    {request : HttpRequest}
    (isPost : request.method = "POST")
    (leads :
      Destination.ofTarget server.settings.usesLocalStorage request.target =
        .endpoint .render) :
    server.AnswersSubmission request (server.answer request) := by
  have noQuestion : OriginPolicy.question? request = none := by
    simp [OriginPolicy.question?, isPost]
  have notHead : request.method ≠ "HEAD" := by
    simp [isPost]
  have routed : server.route request = server.submit request := by
    simp [route, leads, visit, isPost, Endpoint.method]
  have sameStatus
      (response : HttpResponse) :
      (server.policy.admitResponse request response).status =
        response.status := by
    unfold OriginPolicy.admitResponse
    split <;> rfl
  have submitted := submit_answers sound request
  unfold answer
  rw [noQuestion]
  dsimp only
  rw [if_neg notHead, routed]
  generalize server.submit request = answered at submitted
  cases submitted with
  | refused isNone isRefusal =>
      exact .refused isNone ((sameStatus _).trans isRefusal)
  | inProgress submits inUse isConflict =>
      exact .inProgress submits inUse ((sameStatus _).trans isConflict)
  | busy submits notInUse full isBusy =>
      exact .busy submits notInUse full ((sameStatus _).trans isBusy)
  | accepted submits admitted gains isAccepted =>
      exact .accepted submits admitted gains ((sameStatus _).trans isAccepted)

namespace AnswersSubmission

variable {server : Server} {request : HttpRequest} {answered : ServerAnswer}

theorem eq_of_not_accepted
    (answers : server.AnswersSubmission request answered)
    (not202 : answered.response.status ≠ 202) :
    answered.server = server ∧ answered.accepted = none := by
  cases answers with
  | refused | inProgress | busy => exact ⟨rfl, rfl⟩
  | accepted _ _ _ isAccepted => exact absurd isAccepted not202

theorem gains_of_accepted
    (answers : server.AnswersSubmission request answered)
    (is202 : answered.response.status = 202) :
    ∃ read submission,
      request.Submits read submission ∧
      answered.accepted = some submission ∧
      server.world.registry.Gains answered.server.world.registry
        submission.jobId (.ofText? read.projectId) server.world.now
        server.world.now := by
  cases answers with
  | refused _ isStatus | inProgress _ _ isStatus | busy _ _ _ isStatus =>
      exact absurd (isStatus.symm.trans is202) (by decide)
  | accepted submits _ gains _ => exact ⟨_, _, submits, rfl, gains⟩

/-- For a body that submits a job, its id is looked at before the slots are. -/
theorem status_of_submits
    (answers : server.AnswersSubmission request answered)
    {read : RenderRequest}
    {submission : Submission}
    (submits : request.Submits read submission) :
    answered.response.status =
      if server.world.registry.isInUse submission.jobId then 409
      else if server.world.registry.limit ≤ server.world.registry.slots.length
        then 503
      else 202 := by
  cases answers with
  | refused isNone _ => exact absurd submits (isNone read submission)
  | inProgress submitsOther inUse isConflict =>
      obtain ⟨rfl, rfl⟩ := submits.unique submitsOther
      rw [if_pos inUse]
      exact isConflict
  | busy submitsOther notInUse full isBusy =>
      obtain ⟨rfl, rfl⟩ := submits.unique submitsOther
      rw [notInUse, if_neg Bool.false_ne_true, if_pos full]
      exact isBusy
  | accepted submitsOther admitted _ isAccepted =>
      obtain ⟨rfl, rfl⟩ := submits.unique submitsOther
      obtain ⟨notInUse, free⟩ := Registry.admits_iff.mp admitted
      rw [notInUse, if_neg Bool.false_ne_true, if_neg (Int.not_le.mpr free)]
      exact isAccepted

theorem status_eq_400_iff
    (answers : server.AnswersSubmission request answered) :
    answered.response.status = 400 ↔
      ∀ read submission, ¬ request.Submits read submission := by
  constructor
  · intro is400 read submission submits
    have isStatus := answers.status_of_submits submits
    rw [is400] at isStatus
    split at isStatus
    · cases isStatus
    · split at isStatus <;> cases isStatus
  · intro isNone
    cases answers with
    | refused _ isRefusal => exact isRefusal
    | inProgress submits | busy submits | accepted submits =>
        exact absurd submits (isNone _ _)

end AnswersSubmission

/--
A post to the endpoint of renderings that is not accepted leaves the server as
it was. If it is accepted, the server gains its job and nothing else. Which of
these it is, the body, the id and the slots decide in this order.
-/
theorem submissions_are_taken_in_or_leave_no_trace
    {server : Server}
    (sound : server.world.registry.IsSound)
    {request : HttpRequest}
    (isPost : request.method = "POST")
    (leads :
      Destination.ofTarget server.settings.usesLocalStorage request.target =
        .endpoint .render) :
    let registry := server.world.registry
    let answered := server.answer request
    let status := answered.response.status
    (status ≠ 202 →
      answered.server = server ∧ answered.accepted = none) ∧
    (status = 202 →
      ∃ read submission,
        request.Submits read submission ∧
        answered.accepted = some submission ∧
        registry.Gains answered.server.world.registry submission.jobId
          (.ofText? read.projectId) server.world.now server.world.now) ∧
    (status = 400 ↔ ∀ read submission, ¬ request.Submits read submission) ∧
    (∀ read submission, request.Submits read submission →
      (status = 409 ↔
        submission.jobId ∈ registry.slots ∨
        ∃ job,
          registry.find? submission.jobId = some job ∧
          job.status.isFinal = false) ∧
      (status ≠ 409 →
        (status = 503 ↔ registry.limit ≤ registry.slots.length) ∧
        (status = 202 ↔ registry.slots.length < registry.limit))) := by
  have answers := answer_answers sound isPost leads
  intro registry answered status
  refine ⟨answers.eq_of_not_accepted, answers.gains_of_accepted,
    answers.status_eq_400_iff, ?_⟩
  intro read submission submits
  have isStatus :
      status =
        if registry.isInUse submission.jobId then 409
        else if registry.limit ≤ registry.slots.length then 503
        else 202 :=
    answers.status_of_submits submits
  rw [← Registry.isInUse_iff, isStatus]
  cases registry.isInUse submission.jobId with
  | true => simp
  | false =>
      by_cases full : registry.limit ≤ registry.slots.length
      · simp [full]
      · simp [full, Int.not_le.mp full]

/-- A server whose only slot is held by a job. -/
def occupied : Server where
  settings := {}
  world := {
    shelf := { directory := .ofText "/fonts", systemFont := "" }
    storage := .remote { name := "results", publicBase := "http://r.test" }
    registry :=
      (Registry.opened 1 5 60).play removesOutput [
        .enroll "a" .null 0 0,
        .startTask "a"] }
  startedAt := 0

/-- A flat rendering under the id that is in use. -/
def repeatedRequest : HttpRequest where
  method := "POST"
  target := "/render"
  headers := [("content-type", "application/json")]
  body :=
    "\x7b\"job_id\": \"a\", \"video_url\": \"v\", \"audio_url\": \"s\"\x7d"

/-- An id in use is told as such even when no slot is free. -/
theorem repeated_submission_leaves_no_trace :
    occupied.world.registry.IsSound ∧
    occupied.world.registry.limit ≤ occupied.world.registry.slots.length ∧
    (occupied.answer repeatedRequest).response.status = 409 ∧
    (occupied.answer repeatedRequest).server = occupied ∧
    (occupied.answer repeatedRequest).accepted = none := by
  have opened : (Registry.opened 1 5 60).IsSound := {
    wellKeyed := Registry.opened_wellKeyed 1 5 60
    outputs := by
      intro id job found
      cases found }
  have sound : occupied.world.registry.IsSound := by
    refine opened.play ?_
    intro call member
    simp only [List.mem_cons, List.not_mem_nil, or_false] at member
    rcases member with rfl | rfl <;> trivial
  have is409 : (occupied.answer repeatedRequest).response.status = 409 := by
    decide +kernel
  have isPost : repeatedRequest.method = "POST" := rfl
  have leads :
      Destination.ofTarget occupied.settings.usesLocalStorage
          repeatedRequest.target =
        .endpoint .render := by
    decide +kernel
  have unchanged :=
    (submissions_are_taken_in_or_leave_no_trace sound isPost leads).1
  refine ⟨sound, by decide +kernel, is409, unchanged ?_⟩
  rw [is409]
  decide

end Server

end Montage
