import Montage.Proofs.Asset.Together
import Montage.Proofs.Work.Beside

namespace Montage

/-!
# Histories of calls for assets

Calls for assets of one job follow each other; each may mention addresses again
and each may fail. Over all of them an address is downloaded at most once, and a
call ends only after all downloads that it started.
-/

/-- One call, with what was there before it and what it left. -/
structure AssetRecord (State : Type) where
  call : AssetCall
  before : JobFiles
  start : State
  events : List (Event State)
  outcome : Outcome (List (String × Path))
  after : JobFiles
  final : State

section Histories

variable {State : Type}

/-- Calls of one job, one after another, from an account and a state on; none
of them is called off by the failure of an earlier one. -/
inductive AssetHistory
    (surroundings : Surroundings State)
    (storageBase : Option String) :
    JobFiles →
    State →
    List (AssetRecord State) →
    JobFiles →
    State →
    Prop
  | opened (files : JobFiles) (state : State) :
      AssetHistory surroundings storageBase files state [] files state
  | called
      {files after : JobFiles}
      {state final : State}
      {record : AssetRecord State}
      {records : List (AssetRecord State)}
      (account : record.before = files)
      (idle : surroundings.meanwhile state record.start)
      (run :
        Run surroundings record.start
          ((record.call.program storageBase).start record.before)
          record.events (record.outcome, record.after) record.final)
      (later :
        AssetHistory surroundings storageBase record.after record.final records
          after final) :
      AssetHistory surroundings storageBase files state (record :: records)
        after final

/-- A download of a file: what it was for, its calls and its outcome. -/
abbrev AssetDownload (State : Type) :=
  Strand (String × Path) State (Outcome Unit)

/-- Downloads of files of an account, side by side, are a run of each of them
amid others that spare its file. -/
theorem downloads_cases
    {surroundings : Surroundings State}
    {storageBase : Option String}
    {workspace : Workspace}
    {mentioned : List AssetReference}
    {files : JobFiles}
    (lists : files.Lists workspace mentioned)
    {items : List (String × Path)}
    (within : items <:+ files.assets)
    {state final : State}
    {events : List (Event State)}
    {outcomes : List (Outcome Unit)}
    (run :
      Run surroundings state (downloads storageBase items) events outcomes
        final) :
    ∃ strands : List (AssetDownload State),
      strands.map Strand.item = items ∧
      strands.map Strand.value = outcomes ∧
      (events.filter fun event => event.call.isOwn).Perm
        ((strands.flatMap Strand.events).filter
          fun event => event.call.isOwn) ∧
      ∀ found ∈ strands,
        found.events.Sublist events ∧
        RunAmid surroundings (workspace.Spares found.item.2) state
          (download storageBase found.item.1 found.item.2) found.events
          found.value final := by
  have paths : (items.map Prod.snd).Nodup :=
    lists.paths_nodup.sublist (within.sublist.map _)
  have limited :
      ∀ item ∈ items, ∀ other ∈ items, other ≠ item →
        (download storageBase other.1 other.2).Limited
          (workspace.Spares item.2) := by
    intro item member other otherMember different
    have differentPath : other.2 ≠ item.2 := fun same =>
      different (List.inj_on_of_nodup_map paths otherMember member same)
    exact download_limited
      (Workspace.spares_download (lists.owns (within.subset otherMember))
        differentPath) _ _
  exact Run.gather_cases (fun item => by simp [Workspace.Spares, Call.targets])
    (paths.of_map _) limited run

/-- A call that ends after all downloads that it started, and what it tells of
them. -/
structure AssetRecord.Settles
    (surroundings : Surroundings State)
    (storageBase : Option String)
    (workspace : Workspace)
    (record : AssetRecord State)
    (downloads : List (AssetDownload State)) :
    Prop where
  /-- The files of its downloads come after those that were there. -/
  assets :
    record.after.assets = record.before.assets ++ downloads.map Strand.item
  tracked :
    ∀ found ∈ downloads, found.item.2 ∈ record.after.workspace.files
  /-- The account is what the call leaves before a download starts. -/
  starts :
    (record.call.program storageBase).start record.before =
      (Montage.downloads storageBase
        (downloads.map Strand.item)).andThen fun outcomes =>
          .done
            (record.call.conclude record.after.assets outcomes, record.after)
  /-- Each download runs to its end amid others that spare its file. -/
  each :
    ∀ found ∈ downloads,
      found.events.Sublist record.events ∧
      RunAmid surroundings (workspace.Spares found.item.2) record.start
        (download storageBase found.item.1 found.item.2) found.events
        found.value record.final
  /-- Nothing is asked for but what the downloads ask for. -/
  all :
    (record.events.filter fun event => event.call.isOwn).Perm
      ((downloads.flatMap Strand.events).filter fun event => event.call.isOwn)
  /-- The first failure, in the order of the files, is told. -/
  fails :
    ∀ earlier found later failure,
      downloads = earlier ++ found :: later →
      (∀ other ∈ earlier, other.value = .ok ()) →
      found.value = .error failure →
      record.outcome = .error (record.call.told failure)
  /-- Without a failure the files of all addresses are told. -/
  succeeds :
    (∀ found ∈ downloads, found.value = .ok ()) →
    ∃ told,
      record.outcome = .ok told ∧
      told.map Prod.fst = record.call.addresses.eraseDups ∧
      told ⊆ record.after.assets

/-- Downloads succeed, up to the first one that fails. -/
theorem first_failure_cases
    (downloads : List (AssetDownload State)) :
    (∀ found ∈ downloads, found.value = .ok ()) ∨
    ∃ earlier found later failure,
      downloads = earlier ++ found :: later ∧
      (∀ other ∈ earlier, other.value = .ok ()) ∧
      found.value = .error failure := by
  induction downloads with
  | nil => exact .inl (by simp)
  | cons first rest inductionHypothesis =>
      cases value : first.value with
      | error failure => exact .inr ⟨[], first, rest, failure, rfl, by simp, value⟩
      | ok _ =>
          rcases inductionHypothesis with
            succeed | ⟨earlier, found, later, failure, rfl, succeed, failed⟩
          · exact .inl (List.forall_mem_cons.mpr ⟨value, succeed⟩)
          · exact .inr ⟨first :: earlier, found, later, failure, rfl,
              List.forall_mem_cons.mpr ⟨value, succeed⟩, failed⟩

/-- How a call goes: an address stops it before it asks for anything, or it
settles. -/
inductive AssetRecord.Goes
    (surroundings : Surroundings State)
    (storageBase : Option String)
    (workspace : Workspace)
    (record : AssetRecord State) :
    List (AssetDownload State) → Prop
  | stopped
      {processed rest : List AssetReference}
      {reference : AssetReference}
      {failure : Failure}
      (shape : record.call.references = processed ++ reference :: rest)
      (unreadable :
        assetExtension reference.address reference.kind = .error failure)
      (grows : record.before.assets <+: record.after.assets)
      (silent : record.events = [])
      (stays : record.final = record.start)
      (fails : record.outcome = .error failure) :
      Goes surroundings storageBase workspace record []
  | settled
      {downloads : List (AssetDownload State)}
      (settles :
        record.Settles surroundings storageBase workspace downloads) :
      Goes surroundings storageBase workspace record downloads

variable {surroundings : Surroundings State} {storageBase : Option String}
  {workspace : Workspace} {mentioned : List AssetReference}
  {record : AssetRecord State}

theorem AssetRecord.goes_of_run
    (lists : record.before.Lists workspace mentioned)
    (run :
      Run surroundings record.start
        ((record.call.program storageBase).start record.before)
        record.events (record.outcome, record.after) record.final) :
    ∃ processed reading downloads,
      AssetReference.Reserves record.call.references processed reading ∧
      record.after.Lists workspace (mentioned ++ processed) ∧
      record.Goes surroundings storageBase workspace downloads := by
  obtain ⟨call, before, start, events, outcome, after, final⟩ := record
  dsimp only at lists run ⊢
  obtain ⟨processed, reserved, reading, left, reserves, later, assets,
    starts⟩ := AssetCall.start_program lists call storageBase
  have runs := run
  rw [starts] at runs
  cases reading with
  | error failure =>
      obtain ⟨reference, rest, shape, unreadable⟩ := reserves.of_error
      cases runs
      exact ⟨processed, _, [], reserves, later,
        .stopped shape unreadable (assets ▸ List.prefix_append _ _) rfl rfl
          rfl⟩
  | ok value =>
      obtain ⟨asked, none, outcomes, ended, shape, downloading, ends⟩ :=
        runs.andThen_cases
      cases ends
      rw [List.append_nil] at shape
      subst shape
      obtain ⟨strands, rfl, rfl, all, each⟩ :=
        downloads_cases later (assets ▸ List.suffix_append _ _) downloading
      -- No address stopped the call, so all that it asked for is in the account.
      have areListed :
          ∀ reference ∈ call.references,
            reference.address ∈ after.assets.map Prod.fst := by
        intro reference member
        rw [later.addresses, List.mem_eraseDups, reserves.of_ok]
        exact List.mem_map_of_mem (List.mem_append_right _ member)
      refine ⟨processed, _, strands, reserves, later, .settled ?_⟩
      exact {
        assets
        tracked := by
          intro found member
          apply later.tracked
          rw [assets]
          exact List.mem_append_right _ (List.mem_map_of_mem member)
        starts
        each
        all
        fails := by
          rintro earlier found further failure rfl succeed failed
          rw [List.map_append, List.map_cons, failed]
          apply call.conclude_of_error
          intro other member
          obtain ⟨strand, isEarlier, rfl⟩ := List.mem_map.mp member
          exact succeed strand isEarlier
        succeeds := by
          intro succeed
          refine ⟨_, call.conclude_of_ok _ ?_, map_fst_assetFiles areListed,
            fun _ => mem_of_mem_assetFiles⟩
          intro other member
          obtain ⟨strand, isDownload, rfl⟩ := List.mem_map.mp member
          exact succeed strand isDownload }

/-- A call whose addresses can all be read settles, and all of them are in the
account that it leaves. -/
theorem AssetRecord.settles_of_run
    (lists : record.before.Lists workspace mentioned)
    (readable : record.call.Readable)
    (run :
      Run surroundings record.start
        ((record.call.program storageBase).start record.before)
        record.events (record.outcome, record.after) record.final) :
    record.after.Lists workspace (mentioned ++ record.call.references) ∧
    ∃ downloads,
      record.Settles surroundings storageBase workspace downloads := by
  obtain ⟨processed, reading, downloads, reserves, later, goes⟩ :=
    goes_of_run lists run
  cases reading with
  | error failure =>
      obtain ⟨reference, rest, shape, unreadable⟩ := reserves.of_error
      exact absurd unreadable
        (readable.assetExtension_ne_error (by simp [shape]) failure)
  | ok value =>
      rw [reserves.of_ok] at later
      refine ⟨later, downloads, ?_⟩
      cases goes with
      | stopped shape unreadable grows silent stays fails =>
          exact absurd unreadable
            (readable.assetExtension_ne_error (by simp [shape]) _)
      | settled settles => exact settles

namespace AssetRecord.Settles

variable {downloads : List (AssetDownload State)}

/-- A call that returns started no download that fails. -/
theorem succeed_of_ok
    (settles : record.Settles surroundings storageBase workspace downloads)
    {told : List (String × Path)}
    (returned : record.outcome = .ok told) :
    ∀ found ∈ downloads, found.value = .ok () := by
  rcases first_failure_cases downloads with
    succeed | ⟨earlier, found, later, failure, shape, succeed, failed⟩
  · exact succeed
  · rw [settles.fails earlier found later failure shape succeed failed]
      at returned
    cases returned

theorem told_of_error
    (settles : record.Settles surroundings storageBase workspace downloads)
    {failure : Failure}
    (failed : record.outcome = .error failure) :
    ∃ cause, failure = record.call.told cause := by
  rcases first_failure_cases downloads with
    succeed | ⟨earlier, found, later, cause, shape, succeed, isCause⟩
  · obtain ⟨told, returned, _⟩ := settles.succeeds succeed
    rw [failed] at returned
    cases returned
  · rw [settles.fails earlier found later cause shape succeed isCause]
      at failed
    cases failed
    exact ⟨cause, rfl⟩

/-- Fetching together tells of failures about a resource alone. -/
theorem resource_of_error
    (settles : record.Settles surroundings storageBase workspace downloads)
    {references : List AssetReference}
    (isCall : record.call = .together references)
    {failure : Failure}
    (failed : record.outcome = .error failure) :
    ∃ error, failure = .server error ∧ error.kind = .resource := by
  obtain ⟨cause, rfl⟩ := settles.told_of_error failed
  rw [isCall]
  exact fetchFailure_eq cause

end AssetRecord.Settles

namespace AssetHistory

variable {files after : JobFiles} {state final : State}
  {records : List (AssetRecord State)}

/-- What calls ask for. -/
def mentions (records : List (AssetRecord State)) : List AssetReference :=
  records.flatMap fun record => record.call.references

/-- Every call of a history settles, if all addresses can be read. -/
theorem settles
    (lists : files.Lists workspace mentioned)
    (readable : ∀ record ∈ records, record.call.Readable)
    (history :
      AssetHistory surroundings storageBase files state records after final) :
    ∃ downloads : List (List (AssetDownload State)),
      List.Forall₂
        (fun record => record.Settles surroundings storageBase workspace)
        records downloads ∧
      after.Lists workspace (mentioned ++ mentions records) ∧
      after.assets = files.assets ++ downloads.flatten.map Strand.item := by
  induction history generalizing mentioned with
  | opened files state =>
      exact ⟨[], .nil, by simpa [mentions] using lists, by simp⟩
  | @called files after state final record records account idle run later
      inductionHypothesis =>
      subst account
      obtain ⟨readableNow, readableLater⟩ := List.forall_mem_cons.mp readable
      obtain ⟨listsNow, downloads, settles⟩ :=
        AssetRecord.settles_of_run lists readableNow run
      obtain ⟨others, settleLater, listsLater, assets⟩ :=
        inductionHypothesis listsNow readableLater
      refine ⟨downloads :: others, .cons settles settleLater, ?_, ?_⟩
      · rwa [List.append_assoc] at listsLater
      · rw [assets, settles.assets, List.flatten_cons, List.map_append,
          List.append_assoc]

/--
Over a whole history, every address is downloaded at most once, into a file of
its own that is numbered by the first mention of the address and that is in the
account before the download starts. Every call ends after all downloads that it
started; it tells the first failure in the order of the files, as one about a
resource, or the files of exactly the addresses that it asked for.
-/
theorem each_address_is_downloaded_once
    (fresh : files.assets = [])
    (readable : ∀ record ∈ records, record.call.Readable)
    (history :
      AssetHistory surroundings storageBase files state records after final) :
    ∃ downloads : List (List (AssetDownload State)),
      List.Forall₂
        (fun record found =>
          record.Settles surroundings storageBase files.workspace found ∧
          ∀ references failure,
            record.call = .together references →
            record.outcome = .error failure →
            ∃ error, failure = .server error ∧ error.kind = .resource)
        records downloads ∧
      after.assets = downloads.flatten.map Strand.item ∧
      after.Lists files.workspace (mentions records) ∧
      (after.assets.map Prod.snd).Nodup := by
  obtain ⟨downloads, settle, lists, assets⟩ :=
    history.settles (.empty fresh) readable
  rw [List.nil_append] at lists
  rw [fresh, List.nil_append] at assets
  refine ⟨downloads, settle.imp ?_, assets, lists, lists.paths_nodup⟩
  intro record found settles
  exact ⟨settles, fun _ _ isCall => settles.resource_of_error isCall⟩

end AssetHistory

end Histories

/-! ## Worlds -/

/-- A call for assets makes the calls of its downloads. -/
theorem AssetCall.start_limited
    {files : JobFiles}
    {workspace : Workspace}
    {mentioned : List AssetReference}
    (lists : files.Lists workspace mentioned)
    (call : AssetCall)
    (storageBase : Option String) :
    ((call.program storageBase).start files).Limited
      fun called => called.isFetching = true := by
  obtain ⟨_, reserved, reading, after, _, _, _, starts⟩ :=
    start_program lists call storageBase
  rw [starts]
  cases reading with
  | error failure => exact .done _
  | ok value =>
      refine (downloads_limited ?_ ?_ storageBase).andThen fun _ => .done _
      · rfl
      intro item member
      exact ⟨fun _ => rfl, fun _ => rfl, fun _ => rfl, fun _ => rfl⟩

namespace World

/-- What a world makes of calls for assets, one after another: their outcomes,
the account and the world that they leave. -/
def callAssets
    (storageBase : Option String) :
    List AssetCall →
    JobFiles →
    World →
    List (Outcome (List (String × Path))) × JobFiles × World
  | [], files, world => ([], files, world)
  | call :: rest, files, world =>
      let ran := world.run ((call.program storageBase).start files)
      let later := callAssets storageBase rest ran.1.2 ran.2
      (ran.1.1 :: later.1, later.2)

/-- This is a history of the calls. -/
theorem assetHistory_callAssets
    {files : JobFiles}
    {workspace : Workspace}
    {mentioned : List AssetReference}
    (lists : files.Lists workspace mentioned)
    (storageBase : Option String)
    (calls : List AssetCall)
    (world : World) :
    let left := world.callAssets storageBase calls files
    ∃ records,
      AssetHistory (AssetScene.surroundings workspace) storageBase files
        world.assetScene records left.2.1 left.2.2.assetScene ∧
      records.map AssetRecord.call = calls ∧
      records.map AssetRecord.outcome = left.1 := by
  induction calls generalizing files mentioned world with
  | nil => exact ⟨[], .opened _ _, rfl, rfl⟩
  | cons call rest inductionHypothesis =>
      let ran := world.run ((call.program storageBase).start files)
      obtain ⟨events, run⟩ :=
        world.run_assetScene (call.start_limited lists storageBase) workspace
      let record : AssetRecord AssetScene := {
        call, before := files, start := world.assetScene, events
        outcome := ran.1.1, after := ran.1.2, final := ran.2.assetScene }
      have known : record.before.Lists workspace mentioned := lists
      obtain ⟨processed, _, _, _, later, _⟩ :=
        AssetRecord.goes_of_run known run
      obtain ⟨records, history, areCalls, areOutcomes⟩ :=
        inductionHypothesis later ran.2
      refine ⟨record :: records, ?_, congrArg (call :: ·) areCalls,
        congrArg (ran.1.1 :: ·) areOutcomes⟩
      exact .called rfl (fun _ _ _ => id) run history

end World

/-- Of two addresses that are mentioned twice each, one cannot be had; both are
downloaded once. -/
theorem AssetHistory.two_addresses_are_downloaded_once :
    let workspace : Workspace := { jobId := "a", root := .ofText "/work" }
    let found : AssetReference :=
      { address := "http://web.test/b.mp4", kind := .video }
    let lost : AssetReference :=
      { address := "http://web.test/c", kind := .audio }
    ∃ state records after final,
    ∃ downloads : List (List (AssetDownload AssetScene)),
      AssetHistory (AssetScene.surroundings workspace) none { workspace } state
        records after final ∧
      records.map AssetRecord.call =
        [.together [found, lost, found], .together [lost]] ∧
      List.Forall₂
        (fun record =>
          record.Settles (AssetScene.surroundings workspace) none workspace)
        records downloads ∧
      downloads.flatten.map Strand.item =
        [(found.address, .ofText "/work/a_asset_0.mp4"),
          (lost.address, .ofText "/work/a_asset_1.mp3")] := by
  intro workspace found lost
  let files : JobFiles := { workspace }
  let calls : List AssetCall :=
    [.together [found, lost, found], .together [lost]]
  let server :=
    World.serving [(found.address, .ok { status := 200, body := [7, 8] })]
  have left :
      (server.callAssets none calls files).2.1.assets =
        [(found.address, .ofText "/work/a_asset_0.mp4"),
          (lost.address, .ofText "/work/a_asset_1.mp3")] := by
    decide +kernel
  have lists : files.Lists workspace [] := .empty rfl
  obtain ⟨records, history, areCalls, _⟩ :=
    server.assetHistory_callAssets lists none calls
  have readable : ∀ record ∈ records, record.call.Readable := by
    have readFound : addressPath found.address = .ok "/b.mp4".toList :=
      Outcome.eq_ok_of_toOption (by decide +kernel)
    have readLost : addressPath lost.address = .ok "/c".toList :=
      Outcome.eq_ok_of_toOption (by decide +kernel)
    have all : ∀ call ∈ calls, call.Readable := by
      simp [calls, AssetCall.Readable, AssetCall.references, readFound,
        readLost]
    rw [← areCalls] at all
    exact fun record member => all _ (List.mem_map_of_mem member)
  obtain ⟨downloads, settle, assets, _⟩ :=
    AssetHistory.each_address_is_downloaded_once rfl readable history
  exact ⟨_, records, _, _, downloads, history, areCalls,
    settle.imp fun _ _ settles => settles.1, assets.symm.trans left⟩

end Montage
