import Montage.Proofs.Asset.Scene

namespace Montage

/-!
# The course of a download

A download that succeeds leaves the complete bytes of one source in its file:
of the object in the storage, or of the reply that a chain of answers led to.
The file is emptied before a reply is written, and the reply's status is looked
at before the file is opened, so what the storage wrote before it failed is
never mixed with a reply.
-/

/-! ## Blocks of a reply -/

theorem flatten_cutBlocks
    (size count : Nat)
    (bytes : Bytes) :
    (cutBlocks size count bytes).1.flatten ++ (cutBlocks size count bytes).2 =
      bytes := by
  induction count generalizing bytes with
  | zero => rfl
  | succ count inductionHypothesis =>
      simp only [cutBlocks, List.flatten_cons, List.append_assoc,
        inductionHypothesis, List.take_append_drop]

namespace Reply

/-- What arrives of a body is a beginning of it. -/
theorem blocks_prefix (reply : Reply) : reply.blocks.flatten <+: reply.body := by
  have whole :=
    flatten_cutBlocks blockSize (reply.body.length / blockSize) reply.body
  unfold blocks
  dsimp only
  split
  · exact ⟨_, whole⟩
  · rw [List.flatten_append, List.flatten_singleton, whole]

/-- A body that does not break off arrives as a whole. -/
theorem blocks_eq_body
    {reply : Reply}
    (whole : reply.broken = none) :
    reply.blocks.flatten = reply.body := by
  have cut :=
    flatten_cutBlocks blockSize (reply.body.length / blockSize) reply.body
  unfold blocks
  dsimp only
  split
  · rename_i noRest
    simp only [whole, Option.isSome_none, Bool.false_or,
      List.isEmpty_iff] at noRest
    rwa [noRest, List.append_nil] at cut
  · rw [List.flatten_append, List.flatten_singleton, cut]

end Reply

/-! ## Events of downloads -/

namespace Event

variable {State : Type} (before after : State)

/-- A request that was answered. -/
abbrev requested (address : String) (answer : Outcome Reply) : Event State :=
  { before, call := .request address, answer, after }

/-- A file that was to be emptied. -/
abbrev opened (path : Path) (answer : Outcome Unit) : Event State :=
  { before, call := .writeFile path [], answer, after }

/-- A block that was to be written at the end of a file. -/
abbrev appended
    (path : Path)
    (block : Bytes)
    (answer : Outcome Unit) :
    Event State :=
  { before, call := .appendFile path block, answer, after }

/-- An object that was to be copied into a file. -/
abbrev copied
    (key : String)
    (path : Path)
    (answer : Outcome Unit) :
    Event State :=
  { before, call := .download key path, answer, after }

/-- A call of the download of an address is answered by a failure. -/
inductive FailsWith : Event State → Failure → Prop
  | requested
      {before after : State}
      {address : String}
      {failure : Failure} :
      FailsWith (requested before after address (.error failure)) failure
  | opened
      {before after : State}
      {path : Path}
      {failure : Failure} :
      FailsWith (opened before after path (.error failure)) failure
  | appended
      {before after : State}
      {path : Path}
      {block : Bytes}
      {failure : Failure} :
      FailsWith (appended before after path block (.error failure)) failure

/-- An event is a request for a remote resource. -/
def IsRequest (event : Event State) : Prop :=
  ∃ address, event.call = .request address

end Event

/-! ## Asking an address -/

/--
Requests for an address, at most so many, each for where the answer to the one
before led; and what came of them: a reply that leads nowhere else, and the
address that gave it, or a failure.
-/
inductive Asked
    {State : Type} :
    Nat → Address → List (Event State) → Outcome (Address × Reply) → Prop
  | exhausted (address : Address) :
      Asked 0 address [] (.error (.transport .tooManyRedirects))
  | unanswered
      {remaining : Nat}
      {address : Address}
      {before after : State}
      {failure : Failure} :
      Asked (remaining + 1) address
        [.requested before after address.toText (.error failure)]
        (.error failure)
  | stopped
      {remaining : Nat}
      {address : Address}
      {before after : State}
      {reply : Reply}
      {failure : Failure}
      (stops :
        address.checkScheme = .error failure ∨
        reply.redirect?.map address.follow = some (.error failure)) :
      Asked (remaining + 1) address
        [.requested before after address.toText (.ok reply)]
        (.error failure)
  | redirected
      {remaining : Nat}
      {address target : Address}
      {before after : State}
      {reply : Reply}
      {events : List (Event State)}
      {found : Outcome (Address × Reply)}
      (leads : reply.redirect?.map address.follow = some (.ok target))
      (rest : Asked remaining target events found) :
      Asked (remaining + 1) address
        (.requested before after address.toText (.ok reply) :: events) found
  | answered
      {remaining : Nat}
      {address : Address}
      {before after : State}
      {reply : Reply}
      (leadsNowhere : reply.redirect? = none) :
      Asked (remaining + 1) address
        [.requested before after address.toText (.ok reply)]
        (.ok (address, reply))

namespace Asked

variable {State : Type} {remaining : Nat} {address : Address}
  {events : List (Event State)} {found : Outcome (Address × Reply)}

theorem isRequest
    (asked : Asked remaining address events found) :
    ∀ event ∈ events, event.IsRequest := by
  induction asked with
  | exhausted address => simp
  | redirected leads rest inductionHypothesis =>
      intro event member
      rcases List.mem_cons.mp member with rfl | isLater
      · exact ⟨_, rfl⟩
      · exact inductionHypothesis event isLater
  | unanswered => simp [Event.IsRequest]
  | stopped stops => simp [Event.IsRequest]
  | answered leadsNowhere => simp [Event.IsRequest]

/-- Who may ask at all asks. -/
theorem ne_nil
    (asked : Asked (remaining + 1) address events found) :
    events ≠ [] := by
  cases asked <;> simp

/-- A request that fails is the last one. -/
theorem eq_error
    (asked : Asked remaining address events found)
    {event : Event State}
    (member : event ∈ events)
    {failure : Failure}
    (fails : event.FailsWith failure) :
    found = .error failure := by
  induction asked with
  | exhausted address => cases member
  | unanswered =>
      rw [List.mem_singleton.mp member] at fails
      cases fails
      rfl
  | redirected leads rest inductionHypothesis =>
      rcases List.mem_cons.mp member with rfl | isLater
      · cases fails
      · exact inductionHypothesis isLater
  | stopped stops =>
      rw [List.mem_singleton.mp member] at fails
      cases fails
  | answered leadsNowhere =>
      rw [List.mem_singleton.mp member] at fails
      cases fails

theorem of_run
    {surroundings : Surroundings State}
    {state final : State}
    (run :
      Run surroundings state (askRemote remaining address) events found
        final) :
    Asked remaining address events found := by
  induction remaining generalizing address state events with
  | zero =>
      cases run
      exact .exhausted address
  | succ remaining inductionHypothesis =>
      cases run with
      | @step _ _ _ _ _ _ answer events _ meanwhile answered rest =>
      cases answer with
      | error failure =>
          cases rest
          exact .unanswered
      | ok reply =>
          cases scheme : address.checkScheme with
          | error failure =>
              simp only [scheme] at rest
              cases rest
              exact .stopped (Or.inl scheme)
          | ok value =>
              simp only [scheme] at rest
              cases leads : reply.redirect?.map address.follow with
              | none =>
                  simp only [leads] at rest
                  cases rest
                  exact .answered (Option.map_eq_none_iff.mp leads)
              | some followed =>
                  cases followed with
                  | error failure =>
                      simp only [leads] at rest
                      cases rest
                      exact .stopped (Or.inr leads)
                  | ok target =>
                      simp only [leads] at rest
                      exact .redirected leads (inductionHypothesis rest)

end Asked

/-! ## Writing a reply -/

/-- Blocks that were written at the end of a file, one after another. -/
def Written {State : Type} (path : Path) (events : List (Event State)) : Prop :=
  ∀ event ∈ events,
    ∃ before after block, event = .appended before after path block (.ok ())

theorem Written.cons
    {State : Type}
    {path : Path}
    {events : List (Event State)}
    (written : Written path events)
    (before after : State)
    (block : Bytes) :
    Written path (.appended before after path block (.ok ()) :: events) := by
  intro event member
  rcases List.mem_cons.mp member with rfl | isLater
  · exact ⟨before, after, block, rfl⟩
  · exact written event isLater

section Writing

variable {surroundings : Surroundings AssetScene} {path : Path}
  {state final : AssetScene} {events : List (Event AssetScene)}
  {outcome : Outcome Unit} {earlier : Bytes} {blocks : List Bytes}

/-- Blocks are written at the end of a file up to the first failure. -/
theorem appendBlocks_course
    (guards : AssetScene.Guards surroundings path)
    (stands : state.disk.fileAt? path = some earlier)
    (run :
      Run surroundings state (appendBlocks path blocks) events outcome
        final) :
    (outcome = .ok () ∧
      Written path events ∧
      final.disk.fileAt? path = some (earlier ++ blocks.flatten)) ∨
    ∃ written before after block failure content,
      outcome = .error failure ∧
      events = written ++ [.appended before after path block (.error failure)] ∧
      Written path written ∧
      content <+: blocks.flatten ∧
      final.disk.fileAt? path = some (earlier ++ content) := by
  induction blocks generalizing state events earlier with
  | nil =>
      cases run
      exact .inl ⟨rfl, by simp [Written], by simpa using stands⟩
  | cons block rest inductionHypothesis =>
      cases run with
      | @step _ before after _ _ _ answer events _ meanwhile answered later =>
      have stood := guards.meanwhile meanwhile _ stands
      have tells := guards.answers answered
      cases answer with
      | error failure =>
          cases later
          obtain ⟨content, isPrefix, standsNow⟩ := tells _ stood
          refine .inr ⟨[], before, _, block, failure, content, rfl, rfl,
            by simp [Written], ?_, standsNow⟩
          exact isPrefix.trans (List.prefix_append _ _)
      | ok value =>
          obtain ⟨found, isFound, standsNow⟩ := tells
          obtain rfl := Option.some.inj (isFound.symm.trans stood)
          rcases inductionHypothesis standsNow later with
            ⟨succeeded, written, standsAll⟩ |
            ⟨written, last, ended, failing, failure, content, failed, shape,
              areWritten, isPrefix, standsSome⟩
          · left
            refine ⟨succeeded, written.cons _ _ _, ?_⟩
            simpa using standsAll
          · right
            refine ⟨_ :: written, last, ended, failing, failure,
              block ++ content, failed, congrArg _ shape,
              areWritten.cons _ _ _, ?_, ?_⟩
            · exact (List.prefix_append_right_inj block).mpr isPrefix
            · simpa using standsSome

end Writing

/-! ## Downloads from an address -/

/-- A chain of answers, from an address on, led to a reply of success. -/
structure LedTo
    {State : Type}
    (address : String)
    (requests : List (Event State))
    (target source : Address)
    (reply : Reply) :
    Prop where
  isTarget : Address.readRequested address = .ok target
  asked : Asked (redirectLimit + 1) target requests (.ok (source, reply))
  succeeds : isSuccess reply.status = true

/--
How an address is downloaded into a file, and what this leaves there. A failure
of what was asked or written is told with the address, or with the name of the
file.
-/
inductive RemoteCourse
    (address : String)
    (path : Path) :
    List (Event AssetScene) → Outcome Unit → AssetScene → Prop
  /-- The address cannot even be read. -/
  | unreadable
      {final : AssetScene}
      {cause : AddressError}
      (unread : Address.readRequested address = .error cause) :
      RemoteCourse address path [] (.error (.address cause)) final
  /-- A request fails, or no further one can be sent. -/
  | unanswered
      {final : AssetScene}
      {target : Address}
      {requests : List (Event AssetScene)}
      {failure : Failure}
      (isTarget : Address.readRequested address = .ok target)
      (asked : Asked (redirectLimit + 1) target requests (.error failure)) :
      RemoteCourse address path requests
        (.error (downloadFailure address path failure)) final
  /-- The reply tells of no success; the file is not opened. -/
  | refused
      {final : AssetScene}
      {target source : Address}
      {requests : List (Event AssetScene)}
      {reply : Reply}
      (isTarget : Address.readRequested address = .ok target)
      (asked : Asked (redirectLimit + 1) target requests (.ok (source, reply)))
      (fails : isSuccess reply.status = false) :
      RemoteCourse address path requests
        (.error
          (downloadFailure address path
            (.transport (.badStatus reply.status source.toText)))) final
  /-- The file cannot be opened. -/
  | unopened
      {final before after : AssetScene}
      {target source : Address}
      {requests : List (Event AssetScene)}
      {reply : Reply}
      {failure : Failure}
      (led : LedTo address requests target source reply) :
      RemoteCourse address path
        (requests ++ [.opened before after path (.error failure)])
        (.error (downloadFailure address path failure)) final
  /-- The file was opened, and a block cannot be written. -/
  | unwritten
      {final before after last ended : AssetScene}
      {target source : Address}
      {requests written : List (Event AssetScene)}
      {reply : Reply}
      {block content : Bytes}
      {failure : Failure}
      (led : LedTo address requests target source reply)
      (areWritten : Written path written)
      (isPrefix : content <+: reply.body)
      (stands : final.disk.fileAt? path = some content) :
      RemoteCourse address path
        (requests ++ .opened before after path (.ok ()) ::
          (written ++ [.appended last ended path block (.error failure)]))
        (.error (downloadFailure address path failure)) final
  /-- All that arrives is written, but the body breaks off. -/
  | broken
      {final before after : AssetScene}
      {target source : Address}
      {requests written : List (Event AssetScene)}
      {reply : Reply}
      {content : Bytes}
      {failure : Failure}
      (led : LedTo address requests target source reply)
      (areWritten : Written path written)
      (breaks : reply.broken = some failure)
      (isPrefix : content <+: reply.body)
      (stands : final.disk.fileAt? path = some content) :
      RemoteCourse address path
        (requests ++ .opened before after path (.ok ()) :: written)
        (.error (downloadFailure address path failure)) final
  /-- The whole body is written. -/
  | complete
      {final before after : AssetScene}
      {target source : Address}
      {requests written : List (Event AssetScene)}
      {reply : Reply}
      (led : LedTo address requests target source reply)
      (areWritten : Written path written)
      (whole : reply.broken = none)
      (stands : final.disk.fileAt? path = some reply.body) :
      RemoteCourse address path
        (requests ++ .opened before after path (.ok ()) :: written)
        (.ok ()) final

/-- What is asked of the storage in vain: nothing, if the address is none of its
addresses, or an object, whatever was left in the file when this failed. -/
inductive Unserved
    (storageBase : Option String)
    (address : String)
    (path : Path) :
    List (Event AssetScene) → Prop
  | noKey
      (isForeign : storageBase.bind (keyOfAddress? address) = none) :
      Unserved storageBase address path []
  | failed
      {before after : AssetScene}
      {key : String}
      {failure : Failure}
      (isKey : storageBase.bind (keyOfAddress? address) = some key) :
      Unserved storageBase address path
        [.copied before after key path (.error failure)]

/-- How an asset is downloaded into a file, from the storage if it can. -/
inductive DownloadCourse
    (storageBase : Option String)
    (address : String)
    (path : Path) :
    List (Event AssetScene) → Outcome Unit → AssetScene → Prop
  /-- The object of the storage is copied. -/
  | stored
      {before after final : AssetScene}
      {key : String}
      {content : Bytes}
      (isKey : storageBase.bind (keyOfAddress? address) = some key)
      (holds : after.object? key = some content)
      (stands : final.disk.fileAt? path = some content) :
      DownloadCourse storageBase address path
        [.copied before after key path (.ok ())] (.ok ()) final
  /-- The storage is of no use, and the address is asked. -/
  | remote
      {final : AssetScene}
      {skipped events : List (Event AssetScene)}
      {outcome : Outcome Unit}
      (unserved : Unserved storageBase address path skipped)
      (course : RemoteCourse address path events outcome final) :
      DownloadCourse storageBase address path (skipped ++ events) outcome final

section Courses

variable {surroundings : Surroundings AssetScene} {storageBase : Option String}
  {address : String} {path : Path} {state final : AssetScene}
  {requests events : List (Event AssetScene)} {outcome : Outcome Unit}

theorem RemoteCourse.keeps
    (course : RemoteCourse address path events outcome state)
    (kept : state.Keeps final path) :
    RemoteCourse address path events outcome final := by
  cases course with
  | unreadable unread => exact .unreadable unread
  | unanswered isTarget asked => exact .unanswered isTarget asked
  | refused isTarget asked fails => exact .refused isTarget asked fails
  | unopened led => exact .unopened led
  | unwritten led areWritten isPrefix stands =>
      exact .unwritten led areWritten isPrefix (kept _ stands)
  | broken led areWritten breaks isPrefix stands =>
      exact .broken led areWritten breaks isPrefix (kept _ stands)
  | complete led areWritten whole stands =>
      exact .complete led areWritten whole (kept _ stands)

theorem DownloadCourse.keeps
    (course : DownloadCourse storageBase address path events outcome state)
    (kept : state.Keeps final path) :
    DownloadCourse storageBase address path events outcome final := by
  cases course with
  | stored isKey holds stands => exact .stored isKey holds (kept _ stands)
  | remote unserved course => exact .remote unserved (course.keeps kept)

/-- A file that was opened for a reply holds what was written since. -/
theorem RemoteCourse.of_writeReply
    (guards : AssetScene.Guards surroundings path)
    {target source : Address}
    {reply : Reply}
    (led : LedTo address requests target source reply)
    (run :
      Run surroundings state (writeReply path reply) events outcome final) :
    RemoteCourse address path (requests ++ events)
      (outcome.mapError (downloadFailure address path)) final := by
  cases run with
  | @step _ before after _ _ _ answer events _ meanwhile answered rest =>
  cases answer with
  | error failure =>
      cases rest
      exact .unopened led
  | ok value =>
      have empty : after.disk.fileAt? path = some [] := guards.answers answered
      obtain ⟨first, second, written, middle, shape, writes, ends⟩ :=
        rest.andThen_cases
      rcases appendBlocks_course guards empty writes with
        ⟨rfl, areWritten, stands⟩ |
        ⟨earlier, last, ended, block, failure, content, rfl, rfl, areWritten,
          isPrefix, stands⟩
      · cases breaks : reply.broken with
        | none =>
            simp only [breaks] at ends
            cases ends
            rw [List.append_nil] at shape
            subst shape
            rw [reply.blocks_eq_body breaks] at stands
            exact .complete led areWritten breaks stands
        | some failure =>
            simp only [breaks] at ends
            cases ends
            rw [List.append_nil] at shape
            subst shape
            exact .broken led areWritten breaks reply.blocks_prefix stands
      · cases ends
        rw [List.append_nil] at shape
        subst shape
        exact .unwritten led areWritten
          (isPrefix.trans reply.blocks_prefix) stands

theorem RemoteCourse.of_run
    (guards : AssetScene.Guards surroundings path)
    (run :
      Run surroundings state (downloadRemote address path) events outcome
        final) :
    RemoteCourse address path events outcome final := by
  obtain ⟨asking, writing, answered, middle, rfl, asks, goesOn⟩ :=
    run.andThen_cases
  unfold askSuccessfully at asks
  cases isTarget : Address.readRequested address with
  | error cause =>
      simp only [isTarget] at asks
      cases asks
      cases goesOn
      exact .unreadable isTarget
  | ok target =>
      simp only [isTarget] at asks
      obtain ⟨requests, none, found, reached, rfl, asks, accepts⟩ :=
        asks.andThen_cases
      cases accepts
      rw [List.append_nil]
      have asked := Asked.of_run asks
      cases found with
      | error failure =>
          cases goesOn
          rw [List.append_nil]
          exact .unanswered isTarget asked
      | ok found =>
          obtain ⟨source, reply⟩ := found
          cases succeeds : isSuccess reply.status with
          | false =>
              simp only [Except.bind, accepted, succeeds] at goesOn
              cases goesOn
              rw [List.append_nil]
              exact .refused isTarget asked succeeds
          | true =>
              simp only [Except.bind, accepted, succeeds] at goesOn
              obtain ⟨writes, none, raw, ended, rfl, written, ends⟩ :=
                goesOn.andThen_cases
              cases ends
              rw [List.append_nil]
              exact .of_writeReply guards ⟨isTarget, asked, succeeds⟩ written

theorem DownloadCourse.of_run
    (guards : AssetScene.Guards surroundings path)
    (run :
      Run surroundings state (download storageBase address path) events
        outcome final) :
    DownloadCourse storageBase address path events outcome final := by
  unfold download at run
  cases isKey : storageBase.bind (keyOfAddress? address) with
  | none =>
      simp only [isKey] at run
      exact .remote (.noKey isKey) (.of_run guards run)
  | some key =>
      simp only [isKey] at run
      cases run with
      | @step _ before after _ _ _ answer events _ meanwhile answered rest =>
      cases answer with
      | ok value =>
          cases rest
          obtain ⟨content, holds, stands⟩ := guards.answers answered
          exact .stored isKey holds stands
      | error failure => exact .remote (.failed isKey) (.of_run guards rest)

/-- What a call left in a file stays there, if no later call is about a file. -/
theorem keeps_of_quiet
    (guards : AssetScene.Guards surroundings path)
    {α : Type}
    {program : Program α}
    {value : α}
    {event : Event AssetScene}
    {rest : List (Event AssetScene)}
    (run : Run surroundings state program (event :: rest) value final)
    (quiet : ∀ later ∈ rest, later.call.targets = []) :
    event.after.Keeps final path := by
  cases run with
  | step passed answered goesOn => exact guards.keeps_of_run goesOn quiet

/-- Amid others who spare its file, a download goes the same course. -/
theorem DownloadCourse.of_amid
    {workspace : Workspace}
    (owns : workspace.OwnsAsset path)
    (amid :
      RunAmid (AssetScene.surroundings workspace)
        (workspace.Spares path) state
        (download storageBase address path) events outcome final) :
    DownloadCourse storageBase address path events outcome final := by
  have guards := AssetScene.sharedWith_guards owns
  obtain ⟨ended, run, later⟩ := amid
  exact (DownloadCourse.of_run guards run).keeps (guards.meanwhile later)

end Courses

end Montage
