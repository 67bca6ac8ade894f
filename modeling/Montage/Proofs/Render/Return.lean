import Montage.Proofs.Number.Bounds
import Montage.Proofs.Render.Leftovers
import Montage.Proofs.Work.Values

namespace Montage

/-!
# Jobs that return

A job that has its directory always ends with a final record, and its id can
come again. Whether it returns is another matter: a file name that no system
accepts ends the removal of its files, and a callback outlives failures of the
transport only. A job that does not get its directory stays queued, and its id
is refused until the record is dropped.
-/

variable {State : Type} {surroundings : Surroundings State}
  {state final : State} {events : List (Event State)}

/-! ## Notices have finite numbers -/

theorem resultFacts_isFinite
    (seconds : Option Int)
    (size : Int) :
    (resultFacts seconds size).isFinite = true := by
  cases seconds <;> rfl

/-- Facts about a result have whole numbers only. -/
theorem offerResult_yields
    (publicBase program : String)
    (file : Path) :
    (offerResult publicBase program file).Yields fun outcome =>
      ∀ offer, outcome = .ok offer → offer.2.isFinite = true := by
  have describes :
      (describeResult program file).Yields fun outcome =>
        ∀ facts, outcome = .ok facts → facts.isFinite = true := by
    apply (Program.Yields.of_forall (fun _ => trivial) _).andThen
    intro probed _
    split
    · rename_i facts described
      apply Program.Yields.done
      intro other same
      cases same
      cases probed with
      | error failure => cases described
      | ok info =>
          change probedFacts info = .ok facts at described
          unfold probedFacts at described
          cases seconds : info.wholeSeconds with
          | error failure =>
              rw [seconds] at described
              cases described
          | ok whole =>
              rw [seconds] at described
              cases described
              exact resultFacts_isFinite _ _
    · split
      · apply Program.Yields.step
        intro size
        apply Program.Yields.done
        intro facts same
        cases size with
        | error failure => cases same
        | ok bytes =>
            cases same
            exact resultFacts_isFinite _ _
      · apply Program.Yields.done
        intro facts same
        cases same
  apply describes.andThen
  intro outcome isExpected
  apply Program.Yields.done
  intro offer same
  cases outcome with
  | error failure => cases same
  | ok facts =>
      cases same
      exact isExpected facts rfl

namespace Submission

theorem notice_isFinite
    (submission : Submission)
    (status : String)
    {fields : Fields}
    (finite : Json.fieldsAreFinite fields = true) :
    (Json.object (submission.notice status fields)).isFinite = true := by
  have project :
      (Json.ofText? submission.request.projectId).isFinite = true := by
    cases submission.request.projectId <;> rfl
  have own : (Json.text submission.jobId).isFinite = true := rfl
  have told : (Json.text status).isFinite = true := rfl
  simp [notice, Json.isFinite, Json.fieldsAreFinite, project, finite]

/-- What a client is told of a success has finite numbers only. -/
theorem work_yields
    (server : RenderServer)
    (submission : Submission) :
    (submission.work server).Yields fun fields =>
      (Json.object fields).isFinite = true := by
  unfold work
  split
  · refine .after fun _ => .after fun _ => .after fun _ => .after fun _ =>
      .after fun _ => .after fun _ => .after fun _ => .after fun _ => ?_
    refine (JobProgram.Yields.attempt (offerResult_yields _ _ _)).bind ?_
    intro offer finite
    refine .after fun _ => .after fun _ => .pure ?_
    apply notice_isFinite
    simp [Json.fieldsAreFinite, finite, Json.isFinite]
  · refine .after fun _ => .after fun _ => .after fun _ => .after fun _ =>
      .after fun _ => .after fun _ => .after fun _ => .after fun _ =>
      .after fun _ => .after fun _ => .after fun _ => .after fun _ => .pure ?_
    apply notice_isFinite
    rfl

/-- What a client is told, of a success or of a failure, is finite. -/
theorem settle_yields
    (submission : Submission)
    {ended : Outcome Fields}
    (finite :
      ∀ fields, ended = .ok fields → (Json.object fields).isFinite = true) :
    (submission.settle ended).Yields fun notice =>
      ∀ fields, notice = .ok fields →
        (Json.object fields).isFinite = true := by
  cases ended with
  | ok fields => exact .done finite
  | error failure =>
      apply Program.Yields.step
      intro told
      apply Program.Yields.done
      intro fields same
      cases told with
      | error other => cases same
      | ok _ =>
          cases same
          exact notice_isFinite _ _ rfl

end Submission

/-! ## Callbacks that return -/

namespace CallbackPolicy

/-- Whether a callback ends with a failure at an answer from an address, which
may tell how to speak to its server. -/
def isFatal (complete : Bool) : Outcome Nat → Bool
  | .ok _ => !complete
  | .error failure => failure.failureClass ≠ .transport

end CallbackPolicy

/-- Whether a callback to an address ends with a failure at an event. -/
def Event.endsCallback (complete : Bool) : Event State → Bool
  | { call := .post _ _, answer, .. } =>
      CallbackPolicy.isFatal complete answer
  | _ => false

theorem Event.endsCallback_of_not_isSending
    {event : Event State}
    (elsewhere : event.call.isSending = false)
    (complete : Bool) :
    event.endsCallback complete = false := by
  obtain ⟨before, call, answer, after⟩ := event
  cases call with
  | post address document => cases elsewhere
  | _ => rfl

namespace CallbackPolicy

variable {policy : CallbackPolicy} {number remaining : Nat}
  {outcome : Outcome Bool} {complete : Bool}

/-- How the attempts of a callback go on from one of them: none is left, or one
is made, and it is fatal, or the last one, or followed by a pause and others. -/
inductive Attempts
    (policy : CallbackPolicy)
    (complete : Bool) :
    Nat → Nat → List (Event State) → Outcome Bool → Prop
  | exhausted (number : Nat) :
      Attempts policy complete number 0 [] (.ok false)
  | failed
      {number remaining : Nat}
      {event : Event State}
      (fatal : event.endsCallback complete = true)
      (failure : Failure) :
      Attempts policy complete number (remaining + 1) [event] (.error failure)
  | ended
      {number remaining : Nat}
      {event : Event State}
      (survived : event.endsCallback complete = false)
      (told : Bool) :
      Attempts policy complete number (remaining + 1) [event] (.ok told)
  | unpaced
      {number remaining : Nat}
      {event : Event State}
      {failure : Failure}
      (survived : event.endsCallback complete = false)
      (goesOn : remaining ≠ 0)
      (missing : policy.pauseAfter number = .error failure) :
      Attempts policy complete number (remaining + 1) [event] (.error failure)
  | repeated
      {number remaining : Nat}
      {event pause : Event State}
      {events : List (Event State)}
      {outcome : Outcome Bool}
      (survived : event.endsCallback complete = false)
      (idle : pause.endsCallback complete = false)
      (rest : Attempts policy complete (number + 1) remaining events outcome) :
      Attempts policy complete number (remaining + 1)
        (event :: pause :: events) outcome

theorem delivered?_cases
    (target : Address)
    (answer : Outcome Nat) :
    let heard :=
      delivered? (answer.bind fun status =>
        target.checkScheme.map fun _ => status)
    (isFatal target.isComplete answer = true ∧
      ∃ failure, heard = .error failure) ∨
    (isFatal target.isComplete answer = false ∧ ∃ told, heard = .ok told) := by
  intro heard
  cases answer with
  | error failure =>
      by_cases transport : failure.failureClass = .transport
      · right
        refine ⟨by simp [isFatal, transport], false, ?_⟩
        simp [heard, Except.bind, delivered?, transport]
      · left
        refine ⟨by simp [isFatal, transport], failure, ?_⟩
        simp [heard, Except.bind, delivered?, transport]
  | ok status =>
      cases complete : target.isComplete with
      | true =>
          right
          refine ⟨rfl, isSuccess status, ?_⟩
          simp [heard, Except.bind, Except.map, Address.checkScheme, complete,
            delivered?]
      | false =>
          left
          refine ⟨rfl, .unknownScheme target.toText, ?_⟩
          simp [heard, Except.bind, Except.map, Address.checkScheme, complete,
            delivered?, Failure.failureClass]

theorem attempts_of_run
    {address : String}
    {document : Json}
    {target : Address}
    (read : Address.readRequested address = .ok target)
    (finite : document.isFinite = true)
    (run :
      Run surroundings state (policy.sendFrom address document number remaining)
        events outcome final) :
    Attempts policy target.isComplete number remaining events outcome := by
  induction remaining generalizing number state events with
  | zero =>
      cases run
      exact .exhausted number
  | succ remaining inductionHypothesis =>
      unfold sendFrom at run
      obtain ⟨first, second, answered, middle, shape, earlier, later⟩ :=
        run.andThen_cases
      unfold attempt at earlier
      simp only [read, finite, ↓reduceIte] at earlier
      cases earlier with
      | @step _ before after _ _ _ answer _ _ others isAnswer rest =>
          cases rest
          subst shape
          let event : Event State := {
            before
            call := .post target.toText document
            answer
            after := middle }
          have isEvent :
              event.endsCallback target.isComplete =
                isFatal target.isComplete answer := rfl
          rcases delivered?_cases target answer with
            ⟨fatal, failure, heard⟩ | ⟨survived, told, heard⟩
          · rw [heard] at later
            cases later
            exact .failed (isEvent.trans fatal) failure
          · rw [heard] at later
            cases told with
            | true =>
                cases later
                exact .ended (isEvent.trans survived) true
            | false =>
                simp only at later
                split at later
                · cases later
                  exact .ended (isEvent.trans survived) false
                · rename_i goesOn
                  split at later
                  · rename_i failure missing
                    cases later
                    exact .unpaced (isEvent.trans survived) goesOn missing
                  · cases later with
                    | step pausing slept rest =>
                        exact .repeated (isEvent.trans survived) rfl
                          (inductionHypothesis rest)

/-- Every pause between attempts can be computed. -/
def IsPaced (policy : CallbackPolicy) : Prop :=
  ∀ number, number < policy.attempts →
    ∃ pause, policy.pauseAfter number = .ok pause

/-- Pauses can be computed up to any number of attempts that could be made. -/
theorem isPaced_of_attempts
    (bound : policy.attempts < powerOfTwo 1023) :
    policy.IsPaced := by
  intro number isAttempt
  obtain ⟨pause, isProduct⟩ :=
    policy.pause.multiply_eq_ok
      (show (number : Int).natAbs < powerOfTwo 1023 from
        Nat.lt_trans isAttempt bound)
  refine ⟨pause, ?_⟩
  unfold pauseAfter
  rw [isProduct]
  rfl

/-- A callback that returns met no fatal answer. -/
theorem Attempts.survived
    {told : Bool}
    (attempts : Attempts policy complete number remaining events (.ok told)) :
    ∀ event ∈ events, event.endsCallback complete = false := by
  generalize isOutcome : (Except.ok told : Outcome Bool) = outcome at attempts
  induction attempts with
  | exhausted number => simp
  | failed fatal failure => cases isOutcome
  | ended survived told => simpa using survived
  | unpaced survived goesOn missing => cases isOutcome
  | repeated survived idle _ inductionHypothesis =>
      simpa [survived, idle] using inductionHypothesis isOutcome

/-- A callback that meets no fatal answer returns. -/
theorem Attempts.returns
    (attempts : Attempts policy complete number remaining events outcome)
    (paced :
      ∀ later, later + 1 < number + remaining →
        ∃ pause, policy.pauseAfter later = .ok pause)
    (survives : ∀ event ∈ events, event.endsCallback complete = false) :
    ∃ told, outcome = .ok told := by
  induction attempts with
  | exhausted number => exact ⟨false, rfl⟩
  | failed fatal failure =>
      have survived := survives _ List.mem_cons_self
      rw [fatal] at survived
      cases survived
  | ended survived told => exact ⟨told, rfl⟩
  | @unpaced number remaining event failure survived goesOn missing =>
      obtain ⟨pause, isPause⟩ := paced number (by omega)
      rw [missing] at isPause
      cases isPause
  | @repeated number remaining event pause events outcome survived idle rest
      inductionHypothesis =>
      apply inductionHypothesis
      · intro later bound
        exact paced later (by omega)
      · intro event member
        exact survives event
          (List.mem_cons_of_mem _ (List.mem_cons_of_mem _ member))

/-- A callback has nobody to call, or an address that can be read, and every
answer from there lets it go on. -/
def Survives
    (policy : CallbackPolicy)
    (address : Option String)
    (events : List (Event State)) :
    Prop :=
  ∀ text, nonempty? address = some text → policy.attempts ≠ 0 →
    ∃ target,
      Address.readRequested text = .ok target ∧
      ∀ event ∈ events, event.endsCallback target.isComplete = false

/-- A callback returns exactly if it survives, as long as its pauses can be
computed. -/
theorem returns_of_send
    {address : Option String}
    {document : Json}
    (finite : document.isFinite = true)
    (run :
      Run surroundings state (policy.send address document) events outcome
        final) :
    ((∃ told, outcome = .ok told) → policy.Survives address events) ∧
    (policy.IsPaced → policy.Survives address events →
      ∃ told, outcome = .ok told) := by
  unfold send at run
  split at run
  · rename_i nobody
    cases run
    refine ⟨fun _ text isText => ?_, fun _ _ => ⟨false, rfl⟩⟩
    rw [nobody] at isText
    cases isText
  · rename_i text isText
    cases read : Address.readRequested text with
    | ok target =>
        have attempts := attempts_of_run read finite run
        constructor
        · rintro ⟨told, isOutcome⟩ other isOther _
          rw [isText] at isOther
          cases isOther
          rw [isOutcome] at attempts
          exact ⟨target, read, attempts.survived⟩
        · intro paced survives
          by_cases none : policy.attempts = 0
          · rw [none] at run
            cases run
            exact ⟨false, rfl⟩
          · obtain ⟨other, isOther, survived⟩ := survives text isText none
            rw [read] at isOther
            cases isOther
            exact attempts.returns (fun later bound =>
              paced later (by omega)) survived
    | error cause =>
        cases count : policy.attempts with
        | zero =>
            rw [count] at run
            cases run
            refine ⟨fun _ other _ some => (some count).elim, fun _ _ =>
              ⟨false, rfl⟩⟩
        | succ remaining =>
            rw [count] at run
            unfold sendFrom at run
            simp only [attempt, read] at run
            cases run
            constructor
            · rintro ⟨told, isOutcome⟩
              cases isOutcome
            · intro paced survives
              obtain ⟨other, isOther, _⟩ :=
                survives text isText (by omega)
              rw [read] at isOther
              cases isOther

/-- Only what is sent matters to a callback. -/
theorem survives_append_iff
    {address : Option String}
    {earlier later : List (Event State)}
    (elsewhere : ∀ event ∈ earlier, event.call.isSending = false) :
    policy.Survives address (earlier ++ later) ↔
      policy.Survives address later := by
  have spared :
      ∀ event ∈ earlier, ∀ complete, event.endsCallback complete = false :=
    fun event member complete =>
      Event.endsCallback_of_not_isSending (elsewhere event member) complete
  unfold Survives
  constructor
  · intro survives text isText some
    obtain ⟨target, read, survived⟩ := survives text isText some
    exact ⟨target, read, fun event member =>
      survived event (List.mem_append_right earlier member)⟩
  · intro survives text isText some
    obtain ⟨target, read, survived⟩ := survives text isText some
    refine ⟨target, read, fun event member => ?_⟩
    rcases List.mem_append.mp member with isEarlier | isLater
    · exact spared event isEarlier _
    · exact survived event isLater

end CallbackPolicy

/-! ## How jobs end -/

/-- The directory of a job could not be made. -/
def Event.RefusesDirectory : Event State → Prop
  | { call := .makeDirectories _, answer, .. } => answer ≠ .ok ()
  | _ => False

/-- A file is to be removed whose name no system accepts. -/
def Event.RemovesUnusable : Event State → Prop
  | { call := .removeFiles paths, .. } =>
      ∃ path ∈ paths, path.isUsable = false
  | _ => False

theorem Event.spared_of_isWork
    {event : Event State}
    (works : event.call.isWork) :
    ¬ event.RefusesDirectory ∧ ¬ event.RemovesUnusable := by
  obtain ⟨before, call, answer, after⟩ := event
  cases call with
  | makeDirectories path => rcases works with quiet | tells <;> contradiction
  | removeFiles paths => rcases works with quiet | tells <;> contradiction
  | _ => exact ⟨id, id⟩

theorem Event.spared_of_isSending
    {event : Event State}
    (sends : event.call.isSending = true) :
    ¬ event.RefusesDirectory ∧ ¬ event.RemovesUnusable := by
  obtain ⟨before, call, answer, after⟩ := event
  cases call with
  | makeDirectories path => cases sends
  | removeFiles paths => cases sends
  | _ => exact ⟨id, id⟩

/-- An event that disturbs no job and sends nothing. -/
structure Event.IsCalm (event : Event State) : Prop where
  prepares : ¬ event.RefusesDirectory
  removable : ¬ event.RemovesUnusable
  sendsNothing : event.call.isSending = false

theorem Event.IsCalm.of_isWork
    {event : Event State}
    (works : event.call.isWork) :
    event.IsCalm := by
  obtain ⟨noRefusal, noRemoval⟩ := Event.spared_of_isWork works
  exact ⟨noRefusal, noRemoval, Call.isSending_of_isWork works⟩

section Removal

variable {earlier sending : List (Event State)} {removal : Event State}

theorem not_refusesDirectory_of_removal
    (calm : ∀ event ∈ earlier, event.IsCalm)
    (isRemoval : ¬ removal.RefusesDirectory)
    (sends : ∀ event ∈ sending, event.call.isSending = true) :
    ∀ event ∈ earlier ++ removal :: sending, ¬ event.RefusesDirectory := by
  rw [List.forall_mem_append, List.forall_mem_cons]
  exact ⟨fun event member => (calm event member).prepares, isRemoval,
    fun event member => (Event.spared_of_isSending (sends event member)).1⟩

/-- Of all events around a removal, only it can be about an unusable name. -/
theorem removable_iff_of_removal
    (calm : ∀ event ∈ earlier, event.IsCalm)
    (sends : ∀ event ∈ sending, event.call.isSending = true) :
    (∀ event ∈ earlier ++ removal :: sending, ¬ event.RemovesUnusable) ↔
      ¬ removal.RemovesUnusable := by
  rw [List.forall_mem_append, List.forall_mem_cons]
  constructor
  · exact fun removable => removable.2.1
  · intro isRemovable
    exact ⟨fun event member => (calm event member).removable, isRemovable,
      fun event member => (Event.spared_of_isSending (sends event member)).2⟩

/-- Whether a callback survives is decided after the removal. -/
theorem CallbackPolicy.survives_iff_of_removal
    {policy : CallbackPolicy}
    {address : Option String}
    (calm : ∀ event ∈ earlier, event.IsCalm)
    (isRemoval : removal.call.isSending = false) :
    policy.Survives address (earlier ++ removal :: sending) ↔
      policy.Survives address sending := by
  rw [List.append_cons]
  apply survives_append_iff
  rw [List.forall_mem_append]
  exact ⟨fun event member => (calm event member).sendsNothing,
    fun event member => by rwa [List.mem_singleton.mp member]⟩

end Removal

/-! ## Ids that come again -/

namespace Registry.Owned

variable {registry : Registry} {id : String} {job : Job}

theorem isInUse_finish
    (owned : registry.Owned id job) :
    (registry.finish id).isInUse id = !job.status.isFinal := by
  have found : (registry.finish id).find? id = some job := owned.found
  have noSlot : (registry.finish id).holdsSlot id = false := by
    simp [holdsSlot, finish, release]
  simp [isInUse, noSlot, found]

/-- When the task of a job is over, a final record lets its id come again. -/
theorem comesAgain
    (owned : registry.Owned id job)
    {hook : EvictionHook}
    (harmless : ∀ other, hook.SparesCaller other)
    (isFinal : job.status.isFinal = true)
    (project : Json)
    (now later : Binary64)
    (isFree : (registry.finish id).slots.length < (registry.finish id).limit) :
    ((registry.finish id).enroll id project now later hook).result =
      .ok (fresh id project now) := by
  have admitted : (registry.finish id).admits id = true := by
    simp [admits, owned.isInUse_finish, isFinal, isFree]
  rcases enroll_cases (registry.finish id) id project now later hook with
    ⟨refused, _⟩ | ⟨_, shape⟩
  · rw [admitted] at refused
    cases refused
  · have swept :=
      dropStale_ok
        (fun entry _ => harmless entry.2 :
          ∀ entry ∈ ((registry.finish id).entered id project now).jobs,
            hook.SparesCaller entry.2)
        later
    rw [shape]
    simp [dropStaleFor, swept, Except.map]

/-- A record that is not final refuses the id, although the task is over. -/
theorem isRefused
    (owned : registry.Owned id job)
    (unfinished : job.status.isFinal = false)
    (project : Json)
    (now later : Binary64)
    (hook : EvictionHook) :
    ((registry.finish id).enroll id project now later hook).result =
      .error (.server (.jobInProgress (some id))) := by
  have inUse : (registry.finish id).isInUse id = true := by
    rw [owned.isInUse_finish, unfinished]
    rfl
  simp [enroll, inUse]

end Registry.Owned

namespace Submission

/-- What a job needs to return: its directory, names that can be removed, and a
callback that survives. -/
structure Undisturbed
    (server : RenderServer)
    (submission : Submission)
    (events : List (Event State)) :
    Prop where
  prepared : ∀ event ∈ events, ¬ event.RefusesDirectory
  removable : ∀ event ∈ events, ¬ event.RemovesUnusable
  told : server.callbacks.Survives submission.request.callbackUrl events

/-- How a run of a job ends, with its record at the end. -/
structure Ended
    (hook : EvictionHook)
    (server : RenderServer)
    (submission : Submission)
    (events : List (Event Registry))
    (outcome : Outcome Unit)
    (final : Registry)
    (record : Job) :
    Prop where
  found : final.find? submission.jobId = some record
  /-- With its directory made, the job has a final record. -/
  isFinal :
    (∀ event ∈ events, ¬ event.RefusesDirectory) →
    record.status.isFinal = true
  /-- Without it, the job is still queued, and does not return. -/
  isQueued :
    (∃ event ∈ events, event.RefusesDirectory) →
    record.status = .queued ∧ ∃ failure, outcome = .error failure
  /-- A final record lets the id come again as soon as the task is over. -/
  comesAgain :
    record.status.isFinal = true →
    ∀ project now later,
      (final.finish submission.jobId).slots.length <
        (final.finish submission.jobId).limit →
      ((final.finish submission.jobId).enroll submission.jobId project now
        later hook).result = .ok (Registry.fresh submission.jobId project now)
  /-- Any other record refuses the id. -/
  isRefused :
    record.status.isFinal = false →
    ∀ project now later,
      ((final.finish submission.jobId).enroll submission.jobId project now
        later hook).result =
        .error (.server (.jobInProgress (some submission.jobId)))
  /-- A job that returned was undisturbed. -/
  undisturbed : outcome = .ok () → submission.Undisturbed server events
  /-- A job that is undisturbed returns. -/
  returns :
    server.callbacks.IsPaced →
    submission.Undisturbed server events →
    outcome = .ok ()
  /-- Only the extension of an asset can make a name that is not accepted. -/
  nameable :
    server.tempDirectory.isUsable = true →
    NameableExtensions submission.references →
    ∀ event ∈ events, ¬ event.RemovesUnusable

/-- How the client is told, once the files are removed. -/
theorem sendNotice_cases
    {server : RenderServer}
    {submission : Submission}
    {fields : Fields}
    {outcome : Outcome Unit}
    (run :
      Run surroundings state
        (sendNotice server submission (.ok ()) (.ok fields)) events outcome
        final) :
    ∃ sent,
      outcome = sent.map (fun _ => ()) ∧
      Run surroundings state
        (server.callbacks.send submission.request.callbackUrl
          (.object fields))
        events sent final := by
  obtain ⟨first, second, sent, middle, shape, earlier, later⟩ :=
    run.andThen_cases
  cases later
  rw [List.append_nil] at shape
  subst shape
  exact ⟨sent, rfl, earlier⟩

end Submission

namespace Registry

/-- Files are removed as on some disk; any other answer may be given. -/
def RemovesAsOnDisk : (call : Call) → call.Answer → Prop
  | .removeFiles paths, answer =>
      ∃ disk : Disk, answer = (disk.cleanup paths).1
  | _, _ => True

/-- A registry around a job, where nothing outside of it can be relied on: each
call is answered in any way, but for the removal of files. -/
def unreliable
    (hook : EvictionHook)
    (id : String) :
    Surroundings Registry where
  meanwhile := (Registry.surroundings hook id).meanwhile
  answers before call answer after :=
    Answers hook before call answer after ∧ RemovesAsOnDisk call answer

theorem unreliable_views
    (hook : EvictionHook)
    (id : String) :
    Run.Views (fun registry => registry) (unreliable hook id)
      (Registry.surroundings hook id) where
  meanwhile := fun others => others
  answers := And.left

theorem run_of_unreliable
    {α : Type}
    {hook : EvictionHook}
    {id : String}
    {state final : Registry}
    {program : Program α}
    {events : List (Event Registry)}
    {value : α}
    (run : Run (unreliable hook id) state program events value final) :
    Run (Registry.surroundings hook id) state program events value final := by
  have seen := run.viewed (unreliable_views hook id)
  have same :
      events.map (Event.viewed fun registry : Registry => registry) = events :=
    List.map_id events
  rwa [same] at seen

end Registry

namespace Submission

variable {hook : EvictionHook} {submission : Submission}
  {events : List (Event Registry)} {final : Registry} {outcome : Outcome Unit}

/-- Before the files are removed, nothing disturbs a job that has a directory. -/
theorem undisturbed_before_removal
    {settings : Settings}
    {storageBase : Option String}
    {ready worked settled : Registry}
    {preparation : Event Registry}
    (prepares : preparation.IsCalm)
    {surroundings : Surroundings Registry}
    {working settling : List (Event Registry)}
    {ended notice : Outcome Fields}
    {files : JobFiles}
    (works :
      Run surroundings ready
        ((submission.work (.ofSettings settings storageBase)).start
          (submission.startingFiles (.ofSettings settings storageBase)))
        working (ended, files) worked)
    (settles :
      Run surroundings worked (submission.settle ended) settling notice
        settled) :
    ∀ event ∈ (preparation :: working) ++ settling, event.IsCalm := by
  obtain ⟨_, worksOnly⟩ :=
    (work_followsPlan settings storageBase submission).of_run works
  have settlesOnly := (settle_limited submission ended).of_run settles
  rw [List.forall_mem_append, List.forall_mem_cons]
  exact ⟨⟨prepares, fun event member => .of_isWork (worksOnly event member)⟩,
    fun event member => .of_isWork (.inr (settlesOnly event member))⟩

/-- Every file that a job is to remove can be named, if the extensions of its
assets can be. -/
theorem disposable_isUsable
    {request : RenderRequest}
    (accepted : request.submission = .ok submission)
    {settings : Settings}
    {storageBase : Option String}
    {surroundings : Surroundings Registry}
    {ready worked : Registry}
    {working : List (Event Registry)}
    {ended : Outcome Fields}
    {files : JobFiles}
    (works :
      Run surroundings ready
        ((submission.work (.ofSettings settings storageBase)).start
          (submission.startingFiles (.ofSettings settings storageBase)))
        working (ended, files) worked)
    (temporary :
      (RenderServer.ofSettings settings
        storageBase).tempDirectory.isUsable = true)
    (extensions : NameableExtensions submission.references) :
    ∀ path ∈ files.workspace.disposable, path.isUsable = true := by
  intro path isDisposable
  obtain ⟨tracked, _⟩ :=
    (work_followsPlan settings storageBase submission).of_run works
  exact tracked.usable (RenderRequest.isJobId_of_submission accepted) temporary
    extensions path (Workspace.mem_disposable_iff.mp isDisposable).1

theorem refusesDirectory_of_error
    (before : Registry)
    (directory : Path)
    (failure : Failure) :
    ({ before
       call := .makeDirectories directory
       answer := .error failure
       after := before } : Event Registry).RefusesDirectory := by
  intro same
  cases same

/-- Without its directory a job ends as it was queued. -/
theorem ended_of_unprepared
    {server : RenderServer}
    {queued : Job}
    {before : Registry}
    {failure : Failure}
    (harmless : ∀ job, hook.SparesCaller job)
    (owned : before.Owned submission.jobId queued)
    (isQueued : queued.status = .queued) :
    Ended hook server submission
      [{ before
         call := .makeDirectories server.tempDirectory
         answer := .error failure
         after := before }]
      (.error failure) before queued where
  found := owned.found
  isFinal := by
    intro prepared
    exact (prepared _ List.mem_cons_self
      (refusesDirectory_of_error _ _ _)).elim
  isQueued := fun _ => ⟨isQueued, failure, rfl⟩
  comesAgain := fun isFinal project now later =>
    owned.comesAgain harmless isFinal project now later
  isRefused := fun unfinished project now later =>
    owned.isRefused unfinished project now later hook
  undisturbed := by
    intro returned
    cases returned
  returns := by
    intro _ undisturbed
    exact (undisturbed.prepared _ List.mem_cons_self
      (refusesDirectory_of_error _ _ _)).elim
  nameable := by
    intro _ _ event member
    rw [List.mem_singleton.mp member]
    exact id

/-- With its directory a job ends with a final record, and it returns unless a
name cannot be removed or the callback does not survive. -/
theorem ended_of_cleaned
    {server : RenderServer}
    {record : Job}
    {uncleaned : Registry}
    {earlier sending : List (Event Registry)}
    {files : JobFiles}
    {fields : Fields}
    {removed : Outcome Unit}
    (harmless : ∀ job, hook.SparesCaller job)
    (owned : final.Owned submission.jobId record)
    (isFinal : record.status.isFinal = true)
    (calm : ∀ event ∈ earlier, event.IsCalm)
    (usable :
      server.tempDirectory.isUsable = true →
      NameableExtensions submission.references →
      ∀ path ∈ files.workspace.disposable, path.isUsable = true)
    (succeeds :
      removed = .ok () ↔
        ∀ path ∈ files.workspace.disposable, path.isUsable = true)
    (finite : (Json.object fields).isFinite = true)
    (sends :
      Run (Registry.surroundings hook submission.jobId) uncleaned
        (sendNotice server submission removed (.ok fields)) sending outcome
        final) :
    Ended hook server submission
      (earlier ++
        { before := uncleaned
          call := .removeFiles files.workspace.disposable
          answer := removed
          after := uncleaned } :: sending)
      outcome final record := by
  let removal : Event Registry := {
    before := uncleaned
    call := .removeFiles files.workspace.disposable
    answer := removed
    after := uncleaned }
  have sendsOnly := (sendNotice_limited _ _ _ _).of_run sends
  have prepared :
      ∀ event ∈ earlier ++ removal :: sending, ¬ event.RefusesDirectory :=
    not_refusesDirectory_of_removal calm id sendsOnly
  have removable_iff :
      (∀ event ∈ earlier ++ removal :: sending, ¬ event.RemovesUnusable) ↔
        removed = .ok () := by
    rw [removable_iff_of_removal calm sendsOnly, succeeds]
    simp [removal, Event.RemovesUnusable]
  have told_iff :
      server.callbacks.Survives submission.request.callbackUrl
          (earlier ++ removal :: sending) ↔
        server.callbacks.Survives submission.request.callbackUrl sending :=
    CallbackPolicy.survives_iff_of_removal calm rfl
  refine {
    found := owned.found
    isFinal := fun _ => isFinal
    isQueued := ?_
    comesAgain := fun isFinal project now later =>
      owned.comesAgain harmless isFinal project now later
    isRefused := fun unfinished project now later =>
      owned.isRefused unfinished project now later hook
    undisturbed := ?_
    returns := ?_
    nameable := ?_ }
  · rintro ⟨event, member, refuses⟩
    exact (prepared event member refuses).elim
  · intro returned
    cases removed with
    | error failure =>
        cases sends
        cases returned
    | ok _ =>
        obtain ⟨sent, isOutcome, sending⟩ := sendNotice_cases sends
        refine ⟨prepared, removable_iff.mpr rfl, told_iff.mpr ?_⟩
        apply (CallbackPolicy.returns_of_send finite sending).1
        cases sent with
        | error failure =>
            rw [returned] at isOutcome
            cases isOutcome
        | ok told => exact ⟨told, rfl⟩
  · intro paced undisturbed
    have isRemoved : removed = .ok () :=
      removable_iff.mp undisturbed.removable
    subst isRemoved
    obtain ⟨sent, isOutcome, sending⟩ := sendNotice_cases sends
    obtain ⟨told, isTold⟩ :=
      (CallbackPolicy.returns_of_send finite sending).2 paced
        (told_iff.mp undisturbed.told)
    rw [isOutcome, isTold]
    rfl
  · intro temporary extensions
    exact removable_iff.mpr (succeeds.mpr (usable temporary extensions))

/--
Whatever happened before a job was taken in, whatever is done to other jobs
while it runs, and whatever its calls are answered: at the end it has a record.
If its directory was made, this is final, and the id can come again; if not,
the job is still queued, and the id is refused. The job returns exactly if its
directory was made, every name in its account can be removed, and the callback
met only failures of the transport.
-/
theorem end_of_run
    {request : RenderRequest}
    (accepted : request.submission = .ok submission)
    (harmless : ∀ job, hook.SparesCaller job)
    (limit highWater : Int)
    (lifetime : Binary64)
    (history : List RegistryCall)
    (project : Json)
    (now later : Binary64)
    {queued : Job}
    (admitted :
      (((Registry.opened limit highWater lifetime).play hook history).enroll
        submission.jobId project now later hook).result = .ok queued)
    (settings : Settings)
    (storageBase : Option String)
    (run :
      Run (Registry.unreliable hook submission.jobId)
        ((((Registry.opened limit highWater lifetime).play hook history).enroll
          submission.jobId project now later hook).registry.startTask
            submission.jobId)
        (submission.run (.ofSettings settings storageBase)) events outcome
        final) :
    ∃ record,
      Ended hook (.ofSettings settings storageBase) submission events outcome
        final record := by
  have wellKeyed :
      ((Registry.opened limit highWater lifetime).play hook
        history).WellKeyed :=
    (Registry.opened_wellKeyed limit highWater lifetime).play hook history
  obtain ⟨started, isQueued, running⟩ :=
    Registry.started_of_admitted wellKeyed admitted
  have phases := run_phases run
  cases phases with
  | @unprepared before after failure others answered =>
      have sameRegistry : final = before := answered.1
      subst sameRegistry
      exact ⟨queued, ended_of_unprepared harmless (started.meanwhile others)
        isQueued⟩
  | @cleaned before ready worked settled uncleaned cleaned _ working settling
      sending ended files notice removed _ others prepared works settles
      othersAgain removes sends =>
      have ownedBefore := started.meanwhile others
      have sameReady : ready = before := prepared.1
      subst sameReady
      obtain ⟨stations, last, _, ownedAfterWork, ends, _⟩ :=
        work_course ownedBefore running isQueued
          (Registry.run_of_unreliable works)
      obtain ⟨further, record, _, ownedAfterSettling, _, agrees⟩ :=
        settle_course ownedAfterWork ends (Registry.run_of_unreliable settles)
      obtain ⟨fields, isNotice, noticeAgrees⟩ := agrees harmless
      subst isNotice
      have sameCleaned : cleaned = uncleaned := removes.1
      subst sameCleaned
      have sent := Registry.run_of_unreliable sends
      obtain ⟨_, ownedAtEnd⟩ :=
        (ownedAfterSettling.meanwhile othersAgain).course_of_run sent
          fun event member =>
            Call.isTell_of_isSending
              ((sendNotice_limited _ _ _ _).of_run sent event member)
      obtain ⟨disk, isRemoved⟩ := removes.2
      have worksFinite :
          ∀ told, ended = .ok told → (Json.object told).isFinite = true := by
        rintro told rfl
        exact (work_yields _ submission).of_run works
      have finite : (Json.object fields).isFinite = true :=
        (settle_yields submission worksFinite).of_run settles fields rfl
      have preparation :
          ¬ ({ before := ready
               call := .makeDirectories
                 (RenderServer.ofSettings settings storageBase).tempDirectory
               answer := .ok ()
               after := ready } : Event Registry).RefusesDirectory :=
        fun refuses => refuses rfl
      refine ⟨record, ended_of_cleaned harmless ownedAtEnd noticeAgrees.isFinal
        (undisturbed_before_removal ⟨preparation, id, rfl⟩ works settles)
        (disposable_isUsable accepted works) ?_ finite sent⟩
      rw [isRemoved]
      exact Disk.cleanup_eq_ok_iff disk files.workspace.disposable

end Submission

/-! ## A job that does not return -/

/-- Answers of surroundings with a disk, where the client's server makes a call
end with a failure that is not one of the transport. -/
def Registry.unheard (registry : Registry) :
    (call : Call) → call.Answer × Registry
  | .post _ _ => (.error (.reported .runtime "scripted"), registry)
  | .removeFiles paths => ((({} : Disk).cleanup paths).1, registry)
  | call => registry.favourable call

theorem Registry.unheard_possible
    (id : String)
    (registry : Registry)
    (call : Call) :
    (Registry.unreliable (fun _ => none) id).answers registry call
      (registry.unheard call).1 (registry.unheard call).2 := by
  cases call with
  | tell update => exact ⟨⟨0, 0, rfl, rfl⟩, trivial⟩
  | removeFiles paths => exact ⟨rfl, {}, rfl⟩
  | _ => exact ⟨rfl, trivial⟩

/-- A composition is done, but its job does not return. -/
theorem failure_of_unheard_composition :
    let submission : Submission := { jobId := "a", request := .silent }
    let hook : EvictionHook := fun _ => none
    let started :=
      (((Registry.opened 1 5 60).play hook []).enroll submission.jobId .null 0
        0 hook).registry.startTask submission.jobId
    ∃ events failure final record,
      Run (Registry.unreliable hook submission.jobId) started
        (submission.run (.ofSettings {} none)) events (.error failure) final ∧
      Submission.Ended hook (.ofSettings {} none) submission events
        (.error failure) final record ∧
      record.status = .done := by
  intro submission hook started
  let server := RenderServer.ofSettings {} none
  have accepted : RenderRequest.silent.submission = .ok submission := by
    rfl
  have harmless : ∀ job, hook.SparesCaller job := by
    intro job failure raised
    cases raised
  have admitted :
      (((Registry.opened 1 5 60).play hook []).enroll submission.jobId .null 0
        0 hook).result = .ok (Registry.fresh "a" .null 0) := by
    rfl
  obtain ⟨events, run⟩ :=
    Run.of_answers Registry.unheard
      (fun registry => ⟨[], by simp, rfl⟩ :
        ∀ registry,
          (Registry.unreliable hook submission.jobId).meanwhile registry
            registry)
      (Registry.unheard_possible submission.jobId) started
      (submission.run server)
  have fails :
      ((submission.run server).run Registry.unheard started).1.isOk =
        false := by
    decide +kernel
  have isDone :
      (((submission.run server).run Registry.unheard started).2.find?
        "a").map Job.status = some .done := by
    decide +kernel
  generalize (submission.run server).run Registry.unheard started = ended
    at run fails isDone
  obtain ⟨outcome, final⟩ := ended
  cases outcome with
  | ok _ => cases fails
  | error failure =>
      obtain ⟨record, isEnd⟩ :=
        Submission.end_of_run accepted harmless 1 5 60 [] .null 0 0 admitted {}
          none run
      have recordDone : record.status = .done := by
        have found : final.find? "a" = some record := isEnd.found
        rw [found] at isDone
        simpa using isDone
      exact ⟨events, failure, final, record, run, isEnd, recordDone⟩

end Montage
