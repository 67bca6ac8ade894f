import Montage.Proofs.Render.Plan

namespace Montage

/-!
# Phases of jobs

A job works, settles how it ended, removes its files, and only then tells the
client. Nothing is sent before the files are removed, and nothing else happens
after.
-/

/-- Whether a call belongs to the sending of a document. -/
def Call.isSending : Call → Bool
  | .post _ _ => true
  | .sleep _ => true
  | _ => false

theorem Call.isTell_of_isSending
    {call : Call}
    (sending : call.isSending = true) :
    call.isTell = false := by
  cases call with
  | tell update => cases sending
  | _ => rfl

theorem Call.isSending_of_isWork
    {call : Call}
    (works : call.isWork) :
    call.isSending = false := by
  cases call with
  | post address document => rcases works with quiet | tells <;> contradiction
  | sleep seconds => rcases works with quiet | tells <;> contradiction
  | _ => rfl

/-- The work of a job finds the directory made. -/
theorem Call.isWork.ne_makeDirectories
    {call : Call}
    (works : call.isWork)
    (path : Path) :
    call ≠ .makeDirectories path := by
  rintro rfl
  rcases works with quiet | tells <;> contradiction

/-- A callback is sent by posts and pauses. -/
theorem CallbackPolicy.send_limited
    (policy : CallbackPolicy)
    (address : Option String)
    (document : Json) :
    (policy.send address document).Limited
      fun call => call.isSending = true := by
  have attempted (target : String) :
      (CallbackPolicy.attempt target document).Limited
        fun call => call.isSending = true := by
    unfold attempt
    split
    · exact .done _
    · split
      · exact .step rfl fun _ => .done _
      · exact .done _
  have repeated (target : String) (number remaining : Nat) :
      (policy.sendFrom target document number remaining).Limited
        fun call => call.isSending = true := by
    induction remaining generalizing number with
    | zero => exact .done _
    | succ remaining inductionHypothesis =>
        apply (attempted target).andThen
        intro answer
        split
        · exact .done _
        · exact .done _
        · split
          · exact .done _
          · split
            · exact .done _
            · exact .step rfl fun _ => inductionHypothesis _
  unfold send
  split
  · exact .done _
  · exact repeated _ _ _

namespace Submission

/-- Tell the client, unless the removal or the settling failed. -/
def sendNotice
    (server : RenderServer)
    (submission : Submission) :
    Outcome Unit → Outcome Fields → Program (Outcome Unit)
  | .error failure, _ => pure (.error failure)
  | .ok _, .error failure => pure (.error failure)
  | .ok _, .ok fields => do
      let sent ←
        server.callbacks.send submission.request.callbackUrl (.object fields)
      pure (sent.map fun _ => ())

/-- The account with which a job starts. -/
def startingFiles
    (server : RenderServer)
    (submission : Submission) :
    JobFiles where
  workspace := {
    jobId := submission.jobId
    root := server.tempDirectory }

/-- To settle tells the registry at most. -/
theorem settle_limited
    (submission : Submission)
    (ended : Outcome Fields) :
    (submission.settle ended).Limited fun call => call.isTell = true := by
  unfold settle
  split
  · exact .done _
  · exact (tell_limited _ _ _).andThen fun _ => .done _

theorem sendNotice_limited
    (server : RenderServer)
    (submission : Submission)
    (removed : Outcome Unit)
    (notice : Outcome Fields) :
    (sendNotice server submission removed notice).Limited
      fun call => call.isSending = true := by
  unfold sendNotice
  split
  · exact .done _
  · exact .done _
  · exact (CallbackPolicy.send_limited _ _ _).andThen fun _ => .done _

/-- Every job of a server that settings describe follows its plan. -/
theorem work_followsPlan
    (settings : Settings)
    (storageBase : Option String)
    (submission : Submission) :
    Follows submission submission.references submission.request.isComposition
      submission.plan
      (submission.startingFiles (.ofSettings settings storageBase))
      (submission.work (.ofSettings settings storageBase)) :=
  work_follows (.ofSettings settings storageBase) submission
    (Path.ofText_canonical _)

/-- A notice that was sent is one that was settled, after the removal. -/
theorem sendNotice_ok
    {State : Type}
    {surroundings : Surroundings State}
    {state final : State}
    {events : List (Event State)}
    {server : RenderServer}
    {submission : Submission}
    {removed : Outcome Unit}
    {notice : Outcome Fields}
    (run :
      Run surroundings state (sendNotice server submission removed notice)
        events (.ok ()) final) :
    ∃ fields sent,
      notice = .ok fields ∧
      Run surroundings state
        (server.callbacks.send submission.request.callbackUrl
          (.object fields))
        events (.ok sent) final := by
  cases removed with
  | error failure => cases run
  | ok _ =>
      cases notice with
      | error failure => cases run
      | ok fields =>
          obtain ⟨first, second, answered, middle, shape, earlier, later⟩ :=
            run.andThen_cases
          cases answered with
          | error failure => cases later
          | ok sent =>
              cases later
              rw [List.append_nil] at shape
              subst shape
              exact ⟨fields, sent, rfl, earlier⟩

end Submission

/-- A whole job: either it has no directory, or it works, settles, removes its
files and tells the client, in this order. -/
inductive Phases
    {State : Type}
    (surroundings : Surroundings State)
    (server : RenderServer)
    (submission : Submission)
    (state : State) :
    List (Event State) → Outcome Unit → State → Prop
  | unprepared
      {before after : State}
      {failure : Failure}
      (others : surroundings.meanwhile state before)
      (answered :
        surroundings.answers before
          (.makeDirectories server.tempDirectory) (.error failure) after) :
      Phases surroundings server submission state
        [{ before
           call := .makeDirectories server.tempDirectory
           answer := .error failure
           after }]
        (.error failure) after
  | cleaned
      {before ready worked settled uncleaned cleaned final : State}
      {working settling sending : List (Event State)}
      {ended : Outcome Fields}
      {files : JobFiles}
      {notice : Outcome Fields}
      {removed outcome : Outcome Unit}
      (others : surroundings.meanwhile state before)
      (prepared :
        surroundings.answers before
          (.makeDirectories server.tempDirectory) (.ok ()) ready)
      (works :
        Run surroundings ready
          ((submission.work server).start (submission.startingFiles server))
          working (ended, files) worked)
      (settles :
        Run surroundings worked (submission.settle ended) settling notice
          settled)
      (othersAgain : surroundings.meanwhile settled uncleaned)
      (removes :
        surroundings.answers uncleaned
          (.removeFiles files.workspace.disposable) removed cleaned)
      (sends :
        Run surroundings cleaned
          (submission.sendNotice server removed notice) sending outcome
          final) :
      Phases surroundings server submission state
        (({ before
            call := .makeDirectories server.tempDirectory
            answer := .ok ()
            after := ready } ::
          working) ++ settling ++
          { before := uncleaned
            call := .removeFiles files.workspace.disposable
            answer := removed
            after := cleaned } ::
          sending)
        outcome final

/-- Every run of a job goes through its phases. -/
theorem Submission.run_phases
    {State : Type}
    {surroundings : Surroundings State}
    {server : RenderServer}
    {submission : Submission}
    {state final : State}
    {events : List (Event State)}
    {outcome : Outcome Unit}
    (run :
      Run surroundings state (submission.run server) events outcome final) :
    Phases surroundings server submission state events outcome final := by
  cases run with
  | @step _ before ready _ _ _ answer events value others prepared rest =>
      cases answer with
      | error failure =>
          cases rest
          exact .unprepared others prepared
      | ok _ =>
          obtain ⟨working, afterWork, ⟨ended, files⟩, worked, shape, works,
              later⟩ :=
            rest.andThen_cases
          obtain ⟨settling, afterSettling, notice, settled, laterShape,
              settles, closing⟩ :=
            later.andThen_cases
          cases closing with
          | @step _ uncleaned cleaned _ _ _ removed sending _ othersAgain
              removes sends =>
              subst laterShape
              subst shape
              have phases :=
                Phases.cleaned others prepared works settles othersAgain
                  removes sends
              simpa using phases

end Montage
