import Montage.Proofs.Asset.Account
import Montage.Proofs.Asset.Download

namespace Montage

/-!
# The first fetch of an address

What the first fetch of an address promises, whatever the storage, the network
and the disk answer: complete bytes of one source, or a failure that tells of
the address or of the file.
-/

/-- The complete bytes of the one source from which a download, with all its
calls, came: the object in the storage, or a reply of success. -/
inductive Yields
    (storageBase : Option String)
    (address : String)
    (path : Path) :
    List (Event AssetScene) → Bytes → Prop
  | stored
      {before after : AssetScene}
      {key : String}
      {content : Bytes}
      (isKey : storageBase.bind (keyOfAddress? address) = some key)
      (holds : after.object? key = some content) :
      Yields storageBase address path
        [.copied before after key path (.ok ())] content
  | replied
      {before after : AssetScene}
      {skipped requests written : List (Event AssetScene)}
      {target source : Address}
      {reply : Reply}
      (unserved : Unserved storageBase address path skipped)
      (led : LedTo address requests target source reply)
      (whole : reply.broken = none)
      (areWritten : Written path written) :
      Yields storageBase address path
        (skipped ++
          (requests ++ .opened before after path (.ok ()) :: written))
        reply.body

/-- What a download promises. -/
structure Sourced
    (storageBase : Option String)
    (address : String)
    (path : Path)
    (events : List (Event AssetScene))
    (outcome : Outcome Unit)
    (final : AssetScene) :
    Prop where
  course : DownloadCourse storageBase address path events outcome final
  /-- After a success the complete bytes of one source stand in the file. -/
  complete :
    outcome = .ok () →
    ∃ content,
      final.disk.fileAt? path = some content ∧
      Yields storageBase address path events content
  /-- The address is asked exactly if it can be read and the storage is of no
  use. -/
  asks :
    (∃ event ∈ events, event.IsRequest) ↔
      (∃ target, Address.readRequested address = .ok target) ∧
      ∃ skipped,
        skipped <+: events ∧ Unserved storageBase address path skipped
  /-- Once the file was opened for a reply, it holds nothing else. -/
  unmixed :
    ∀ before after,
      Event.opened before after path (.ok ()) ∈ events →
      ∃ requests target source reply content,
        requests <:+: events ∧
        LedTo address requests target source reply ∧
        content <+: reply.body ∧
        final.disk.fileAt? path = some content
  /-- A request, or an operation on the file, that fails makes it fail. -/
  fails :
    ∀ event ∈ events, ∀ failure,
      event.FailsWith failure →
      outcome = .error (downloadFailure address path failure)
  /-- No failure of the network or the system is told as such. -/
  tells :
    ∀ failure, outcome = .error failure →
      failure.failureClass ≠ .transport ∧ failure.failureClass ≠ .system

/-- Failures of the network and of the system are told as failures about a
resource. -/
theorem downloadFailure_eq
    (address : String)
    (path : Path)
    {failure : Failure}
    (isOutside :
      failure.failureClass = .transport ∨ failure.failureClass = .system) :
    ∃ text, downloadFailure address path failure =
      .server (.resource (some text)) := by
  unfold downloadFailure
  rcases isOutside with isClass | isClass <;> rw [isClass] <;> exact ⟨_, rfl⟩

theorem failureClass_downloadFailure
    (address : String)
    (path : Path)
    (failure : Failure) :
    (downloadFailure address path failure).failureClass ≠ .transport ∧
    (downloadFailure address path failure).failureClass ≠ .system := by
  by_cases isOutside :
      failure.failureClass = .transport ∨ failure.failureClass = .system
  · obtain ⟨text, isResource⟩ := downloadFailure_eq address path isOutside
    rw [isResource]
    exact ⟨by simp [Failure.failureClass], by simp [Failure.failureClass]⟩
  · obtain ⟨notTransport, notSystem⟩ := not_or.mp isOutside
    have same : downloadFailure address path failure = failure := by
      unfold downloadFailure
      split
      · contradiction
      · contradiction
      · rfl
    rw [same]
    exact ⟨notTransport, notSystem⟩

section Courses

variable {storageBase : Option String} {address : String} {path : Path}
  {final : AssetScene} {events : List (Event AssetScene)}
  {outcome : Outcome Unit}

/-- Operations on the file of a download: one that fails makes it fail. -/
structure Writes
    (address : String)
    (path : Path)
    (events : List (Event AssetScene))
    (outcome : Outcome Unit) :
    Prop where
  silent : ∀ event ∈ events, ¬ event.IsRequest
  fails :
    ∀ event ∈ events, ∀ failure,
      event.FailsWith failure →
      outcome = .error (downloadFailure address path failure)

namespace Writes

theorem nil : Writes address path [] outcome :=
  ⟨by simp, by simp⟩

theorem append
    {more : List (Event AssetScene)}
    (first : Writes address path events outcome)
    (second : Writes address path more outcome) :
    Writes address path (events ++ more) outcome where
  silent := by
    intro event member
    exact (List.mem_append.mp member).elim (first.silent event)
      (second.silent event)
  fails := by
    intro event member
    exact (List.mem_append.mp member).elim (first.fails event)
      (second.fails event)

theorem opened
    {before after : AssetScene}
    {answer : Outcome Unit}
    (fails :
      ∀ failure, answer = .error failure →
        outcome = .error (downloadFailure address path failure)) :
    Writes address path [.opened before after path answer] outcome where
  silent := by simp [Event.IsRequest]
  fails := by
    simp only [List.mem_singleton, forall_eq]
    intro failure fails_
    generalize isEvent : Event.opened before after path answer = event at fails_
    cases fails_ <;> cases isEvent
    exact fails _ rfl

theorem appended
    {before after : AssetScene}
    {block : Bytes}
    {answer : Outcome Unit}
    (fails :
      ∀ failure, answer = .error failure →
        outcome = .error (downloadFailure address path failure)) :
    Writes address path [.appended before after path block answer] outcome where
  silent := by simp [Event.IsRequest]
  fails := by
    simp only [List.mem_singleton, forall_eq]
    intro failure fails_
    generalize isEvent :
      Event.appended before after path block answer = event at fails_
    cases fails_ <;> cases isEvent
    exact fails _ rfl

theorem of_written
    (written : Written path events) :
    Writes address path events outcome where
  silent := by
    rintro event member ⟨asked, isRequest⟩
    obtain ⟨before, after, block, rfl⟩ := written event member
    cases isRequest
  fails := by
    intro event member failure fails
    obtain ⟨before, after, block, rfl⟩ := written event member
    cases fails

end Writes

/-- All requests come before the first operation on the file. -/
theorem RemoteCourse.parts
    (course : RemoteCourse address path events outcome final) :
    (∃ cause,
      Address.readRequested address = .error cause ∧
      events = [] ∧
      outcome = .error (.address cause)) ∨
    ∃ target requests found writes,
      Address.readRequested address = .ok target ∧
      Asked (redirectLimit + 1) target requests found ∧
      events = requests ++ writes ∧
      (∀ failure,
        found = .error failure →
        outcome = .error (downloadFailure address path failure)) ∧
      Writes address path writes outcome := by
  cases course with
  | unreadable unread => exact .inl ⟨_, unread, rfl, rfl⟩
  | unanswered isTarget asked =>
      refine .inr ⟨_, _, _, [], isTarget, asked, (List.append_nil _).symm, ?_,
        .nil⟩
      rintro failure ⟨⟩
      rfl
  | refused isTarget asked fails =>
      exact .inr ⟨_, _, _, [], isTarget, asked, (List.append_nil _).symm,
        by simp, .nil⟩
  | unopened led =>
      refine .inr ⟨_, _, _, _, led.isTarget, led.asked, rfl, by simp,
        .opened ?_⟩
      rintro failure ⟨⟩
      rfl
  | unwritten led areWritten isPrefix stands =>
      refine .inr ⟨_, _, _, _, led.isTarget, led.asked, rfl, by simp,
        (Writes.opened (by simp)).append
          ((Writes.of_written areWritten).append (.appended ?_))⟩
      rintro failure ⟨⟩
      rfl
  | broken led areWritten breaks isPrefix stands =>
      exact .inr ⟨_, _, _, _, led.isTarget, led.asked, rfl, by simp,
        (Writes.opened (by simp)).append (.of_written areWritten)⟩
  | complete led areWritten whole stands =>
      exact .inr ⟨_, _, _, _, led.isTarget, led.asked, rfl, by simp,
        (Writes.opened (by simp)).append (.of_written areWritten)⟩

namespace RemoteCourse

/-- The address is asked exactly if it can be read. -/
theorem asks_iff
    (course : RemoteCourse address path events outcome final) :
    (∃ event ∈ events, event.IsRequest) ↔
      ∃ target, Address.readRequested address = .ok target := by
  rcases course.parts with
    ⟨cause, unread, rfl, _⟩ |
    ⟨target, requests, found, writes, isTarget, asked, rfl, _, _⟩
  · simp [unread]
  · obtain ⟨first, isFirst⟩ := List.exists_mem_of_ne_nil _ asked.ne_nil
    refine ⟨fun _ => ⟨target, isTarget⟩, fun _ => ?_⟩
    exact ⟨first, List.mem_append_left _ isFirst,
      asked.isRequest first isFirst⟩

theorem fails
    (course : RemoteCourse address path events outcome final)
    {event : Event AssetScene}
    (member : event ∈ events)
    {failure : Failure}
    (failed : event.FailsWith failure) :
    outcome = .error (downloadFailure address path failure) := by
  rcases course.parts with
    ⟨cause, _, rfl, _⟩ |
    ⟨target, requests, found, writes, _, asked, rfl, told, areWrites⟩
  · cases member
  · rcases List.mem_append.mp member with isRequest | isWrite
    · exact told failure (asked.eq_error isRequest failed)
    · exact areWrites.fails event isWrite failure failed

theorem tells
    (course : RemoteCourse address path events outcome final)
    {failure : Failure}
    (failed : outcome = .error failure) :
    failure.failureClass ≠ .transport ∧ failure.failureClass ≠ .system := by
  cases course <;> cases failed
  · simp [Failure.failureClass]
  all_goals exact failureClass_downloadFailure _ _ _

theorem unmixed
    (course : RemoteCourse address path events outcome final)
    {before after : AssetScene}
    (opened : .opened before after path (.ok ()) ∈ events) :
    ∃ requests target source reply content,
      requests <+: events ∧
      LedTo address requests target source reply ∧
      content <+: reply.body ∧
      final.disk.fileAt? path = some content := by
  have noRequest :
      ∀ {requests : List (Event AssetScene)} {count target found},
        Asked count target requests found →
        .opened before after path (.ok ()) ∉ requests := by
    intro requests count target found asked member
    obtain ⟨asked, isRequest⟩ := asked.isRequest _ member
    cases isRequest
  cases course with
  | unreadable unread => cases opened
  | unanswered isTarget asked => exact absurd opened (noRequest asked)
  | refused isTarget asked fails => exact absurd opened (noRequest asked)
  | unopened led =>
      rcases List.mem_append.mp opened with isRequest | isLast
      · exact absurd isRequest (noRequest led.asked)
      · cases List.mem_singleton.mp isLast
  | unwritten led areWritten isPrefix stands =>
      exact ⟨_, _, _, _, _, List.prefix_append _ _, led, isPrefix, stands⟩
  | broken led areWritten breaks isPrefix stands =>
      exact ⟨_, _, _, _, _, List.prefix_append _ _, led, isPrefix, stands⟩
  | complete led areWritten whole stands =>
      exact ⟨_, _, _, _, _, List.prefix_append _ _, led, List.prefix_rfl,
        stands⟩

end RemoteCourse

/-- To ask the storage in vain is no part of the download of the address. -/
theorem Unserved.writes
    (unserved : Unserved storageBase address path events) :
    Writes address path events outcome := by
  cases unserved with
  | noKey isForeign => exact .nil
  | failed isKey =>
      refine ⟨by simp [Event.IsRequest], ?_⟩
      simp only [List.mem_singleton, forall_eq]
      intro failure fails
      cases fails

/-- A download keeps its promise on every course. -/
theorem DownloadCourse.sourced
    (course : DownloadCourse storageBase address path events outcome final) :
    Sourced storageBase address path events outcome final := by
  cases course with
  | stored isKey holds stands =>
      exact {
        course := .stored isKey holds stands
        complete := fun _ => ⟨_, stands, .stored isKey holds⟩
        asks := by
          simp only [List.mem_singleton, exists_eq_left]
          constructor
          · rintro ⟨asked, isRequest⟩
            cases isRequest
          · rintro ⟨_, skipped, ⟨rest, shape⟩, unserved⟩
            cases unserved with
            | noKey isForeign => simp [isKey] at isForeign
            | failed isOther => cases shape
        unmixed := by
          intro before after opened
          cases List.mem_singleton.mp opened
        fails := by
          simp only [List.mem_singleton, forall_eq]
          intro failure fails
          cases fails
        tells := by simp }
  | @remote _ skipped events outcome unserved course =>
      have silent : Writes address path skipped outcome :=
        Unserved.writes unserved
      exact {
        course := .remote unserved course
        complete := by
          rintro rfl
          cases course with
          | complete led areWritten whole stands =>
              exact ⟨_, stands, .replied unserved led whole areWritten⟩
        asks := by
          have isUnserved :
              ∃ others,
                others <+: skipped ++ events ∧
                Unserved storageBase address path others :=
            ⟨skipped, List.prefix_append _ _, unserved⟩
          rw [← course.asks_iff, and_iff_left isUnserved]
          constructor
          · rintro ⟨event, member, isRequest⟩
            rcases List.mem_append.mp member with isSkipped | isRemote
            · exact absurd isRequest (silent.silent event isSkipped)
            · exact ⟨event, isRemote, isRequest⟩
          · rintro ⟨event, isRemote, isRequest⟩
            exact ⟨event, List.mem_append_right _ isRemote, isRequest⟩
        unmixed := by
          intro before after opened
          rcases List.mem_append.mp opened with isSkipped | isRemote
          · cases unserved with
            | noKey isForeign => cases isSkipped
            | failed isKey => cases List.mem_singleton.mp isSkipped
          · obtain ⟨requests, target, source, reply, content, isPrefix, led,
              isBeginning, stands⟩ := course.unmixed isRemote
            exact ⟨requests, target, source, reply, content,
              isPrefix.isInfix.trans (List.suffix_append _ _).isInfix, led,
              isBeginning, stands⟩
        fails := by
          intro event member failure failed
          rcases List.mem_append.mp member with isSkipped | isRemote
          · exact silent.fails event isSkipped failure failed
          · exact course.fails isRemote failed
        tells := fun _ failed => course.tells failed }

end Courses

namespace AssetReference

variable {reference : AssetReference} {files : JobFiles}

/-- A known address is not asked again. -/
theorem start_fetch_of_known
    {path : Path}
    (known : getField? reference.address files.assets = some path)
    (storageBase : Option String) :
    (reference.fetch storageBase).start files = .done (.ok path, files) := by
  unfold fetch
  rw [JobProgram.start_bind, JobProgram.start_files, Program.andThen]
  dsimp only
  rw [known]
  rfl

/-- A new address whose extension cannot be told is not asked at all. -/
theorem start_fetch_of_error
    (isNew : getField? reference.address files.assets = none)
    {failure : Failure}
    (unreadable :
      assetExtension reference.address reference.kind = .error failure)
    (storageBase : Option String) :
    (reference.fetch storageBase).start files =
      .done (.error failure, files) := by
  unfold fetch
  rw [JobProgram.start_bind, JobProgram.start_files, Program.andThen]
  dsimp only
  rw [isNew]
  dsimp only
  rw [JobProgram.start_bind, start_reserve_of_error unreadable]
  rfl

/-- A new address gets a file before it is downloaded. -/
theorem start_fetch_of_new
    (isNew : getField? reference.address files.assets = none)
    {extension : String}
    (found : assetExtension reference.address reference.kind = .ok extension)
    (storageBase : Option String) :
    let path := files.workspace.assetPath files.assets.length extension
    (reference.fetch storageBase).start files =
      (download storageBase reference.address path).andThen fun outcome =>
        .done
          (outcome.map fun _ => path,
            files.withAsset reference.address extension) := by
  intro path
  unfold fetch
  rw [JobProgram.start_bind, JobProgram.start_files, Program.andThen]
  dsimp only
  rw [isNew]
  dsimp only
  rw [JobProgram.start_bind, start_reserve found, Program.andThen]
  dsimp only
  rw [JobProgram.start_bind, JobProgram.start_attempt, Program.andThen_assoc]
  congr 1
  funext outcome
  cases outcome <;> rfl

/-- The calls of a fetch are those of its download. -/
theorem fetch_limited
    {permitted : Call → Prop}
    (allows : ∀ path, AllowsDownload permitted path)
    (reference : AssetReference)
    (storageBase : Option String)
    (files : JobFiles) :
    ((reference.fetch storageBase).start files).Limited permitted := by
  cases known : getField? reference.address files.assets with
  | some path =>
      rw [start_fetch_of_known known]
      exact .done _
  | none =>
      cases found : assetExtension reference.address reference.kind with
      | error failure =>
          rw [start_fetch_of_error known found]
          exact .done _
      | ok extension =>
          rw [start_fetch_of_new known found]
          exact (download_limited (allows _) _ _).andThen fun _ => .done _

end AssetReference

end Montage
