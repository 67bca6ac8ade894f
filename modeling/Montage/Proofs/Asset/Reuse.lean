import Montage.Proofs.Asset.History

namespace Montage

/-!
# Assets that are told again

A call tells the file of an address that was mentioned before without a look at
it. So a file that is told holds complete bytes of one source, or it belongs to
an address that an earlier call gave up; the account does not keep the two
apart.
-/

namespace AssetReference

/-- No files are reserved for addresses that have one. -/
theorem start_reserveNew_of_known
    {files : JobFiles}
    {references : List AssetReference}
    (known :
      ∀ reference ∈ references,
        ∃ path, getField? reference.address files.assets = some path) :
    (reserveNew references).start files = .done (.ok [], files) := by
  induction references with
  | nil => rfl
  | cons reference rest inductionHypothesis =>
      obtain ⟨path, isKnown⟩ := known reference List.mem_cons_self
      rw [reserveNew, JobProgram.start_bind, JobProgram.start_files,
        Program.andThen]
      dsimp only
      rw [isKnown]
      exact inductionHypothesis fun other member =>
        known other (List.mem_cons_of_mem reference member)

end AssetReference

/-- Addresses that were mentioned before are told at once. -/
theorem AssetCall.start_of_known
    {files : JobFiles}
    {call : AssetCall}
    (known : call.addresses ⊆ files.assets.map Prod.fst)
    (storageBase : Option String) :
    (call.program storageBase).start files =
      .done (.ok (assetFiles call.references files.assets), files) := by
  have found :
      ∀ reference ∈ call.references,
        ∃ path, getField? reference.address files.assets = some path := by
    intro reference member
    apply Option.ne_none_iff_exists'.mp
    rw [ne_eq, getField?_eq_none_iff, not_not]
    exact known (List.mem_map_of_mem member)
  cases call with
  | fetch reference =>
      obtain ⟨path, isKnown⟩ := found reference (List.mem_singleton_self _)
      have isTold := assetFiles_singleton isKnown
      unfold program
      rw [JobProgram.start_bind, AssetReference.start_fetch_of_known isKnown]
      change Program.done (Except.ok [(reference.address, path)], files) =
        .done (.ok (assetFiles [reference] files.assets), files)
      rw [isTold]
  | together references =>
      have reserved :
          (AssetReference.reserveNew references).start files =
            .done (.ok [], files) :=
        AssetReference.start_reserveNew_of_known found
      unfold program fetchTogether
      rw [JobProgram.start_bind, reserved]
      rfl

namespace AssetRecord

/-- The call that put a file into the account: its address was new. -/
structure Reserved
    {State : Type}
    (record : AssetRecord State)
    (item : String × Path) :
    Prop where
  isNew : item.1 ∉ record.before.assets.map Prod.fst
  listed : item ∈ record.after.assets

/-- What the call that put a file into the account made of it: complete bytes
of one source, which stand there now, or nothing that it would tell. -/
inductive Made
    (storageBase : Option String)
    (record : AssetRecord AssetScene)
    (item : String × Path)
    (now : AssetScene) :
    Prop
  /-- Its download succeeded. -/
  | whole
      {events : List (Event AssetScene)}
      {content : Bytes}
      (within : events.Sublist record.events)
      (yields : Yields storageBase item.1 item.2 events content)
      (stands : now.disk.fileAt? item.2 = some content)
  /-- Its download failed, and so did the call. -/
  | failed
      {events : List (Event AssetScene)}
      {cause failure : Failure}
      (within : events.Sublist record.events)
      (course :
        DownloadCourse storageBase item.1 item.2 events (.error cause)
          record.final)
      (gaveUp : record.outcome = .error failure)
  /-- An address stopped the call before it asked for anything. -/
  | untried
      {failure : Failure}
      (silent : record.events = [])
      (gaveUp : record.outcome = .error failure)

variable {storageBase : Option String} {workspace : Workspace}
  {mentioned : List AssetReference} {record : AssetRecord AssetScene}
  {item : String × Path}

theorem Made.keeps
    {before after : AssetScene}
    (made : record.Made storageBase item before)
    (kept : before.Keeps after item.2) :
    record.Made storageBase item after := by
  cases made with
  | whole within yields stands => exact .whole within yields (kept _ stands)
  | failed within course gaveUp => exact .failed within course gaveUp
  | untried silent gaveUp => exact .untried silent gaveUp

/-- A call leaves the files of assets that were there before it. -/
theorem keeps_of_run
    (lists : record.before.Lists workspace mentioned)
    (run :
      Run (AssetScene.surroundings workspace) record.start
        ((record.call.program storageBase).start record.before)
        record.events (record.outcome, record.after) record.final)
    (member : item ∈ record.before.assets) :
    record.start.Keeps record.final item.2 := by
  obtain ⟨call, before, start, events, outcome, after, final⟩ := record
  dsimp only at lists run member ⊢
  obtain ⟨processed, reserved, reading, left, _, later, assets, starts⟩ :=
    AssetCall.start_program lists call storageBase
  rw [starts] at run
  cases reading with
  | error failure =>
      cases run
      exact fun _ => id
  | ok value =>
      obtain ⟨asked, none, outcomes, ended, shape, downloading, ends⟩ :=
        run.andThen_cases
      cases ends
      have paths := later.paths_nodup
      rw [assets, List.map_append] at paths
      have limited :
          (downloads storageBase reserved).Limited
            (workspace.Spares item.2) := by
        refine downloads_limited (by simp [Workspace.Spares, Call.targets]) ?_ _
        intro other isNew
        have owns : workspace.OwnsAsset other.2 := by
          apply later.owns
          rw [assets]
          exact List.mem_append_right _ isNew
        apply Workspace.spares_download owns
        intro same
        exact List.disjoint_of_nodup_append paths
          (List.mem_map_of_mem member) (same ▸ List.mem_map_of_mem isNew)
      exact (AssetScene.sharedWith_guards (lists.owns member)).meanwhile
        (downloading.passes limited)

/-- No call takes a file out of the account. -/
theorem Goes.prefix_assets
    {State : Type}
    {surroundings : Surroundings State}
    {record : AssetRecord State}
    {downloads : List (AssetDownload State)}
    (goes : record.Goes surroundings storageBase workspace downloads) :
    record.before.assets <+: record.after.assets := by
  cases goes with
  | stopped shape unreadable grows silent stays fails => exact grows
  | settled settles => exact settles.assets ▸ List.prefix_append _ _

/-- What a call tells is in the account that it leaves. -/
theorem Goes.told_subset
    {State : Type}
    {surroundings : Surroundings State}
    {record : AssetRecord State}
    {downloads : List (AssetDownload State)}
    (goes : record.Goes surroundings storageBase workspace downloads)
    {told : List (String × Path)}
    (returned : record.outcome = .ok told) :
    told ⊆ record.after.assets := by
  cases goes with
  | stopped shape unreadable grows silent stays fails =>
      rw [fails] at returned
      cases returned
  | settled settles =>
      obtain ⟨others, isTold, _, areListed⟩ :=
        settles.succeeds (settles.succeed_of_ok returned)
      rw [returned] at isTold
      cases isTold
      exact areListed

/-- What becomes of a file that a call puts into the account. -/
theorem Goes.made
    {downloads : List (AssetDownload AssetScene)}
    (goes :
      record.Goes (AssetScene.surroundings workspace) storageBase workspace
        downloads)
    (lists : record.after.Lists workspace mentioned)
    (reserved : record.Reserved item) :
    record.Made storageBase item record.final := by
  cases goes with
  | stopped shape unreadable grows silent stays fails =>
      exact .untried silent fails
  | settled settles =>
      -- A file that the call put there is the file of one of its downloads.
      have notThere : item ∉ record.before.assets := fun isThere =>
        reserved.isNew (List.mem_map_of_mem isThere)
      have listed := reserved.listed
      rw [settles.assets] at listed
      obtain ⟨found, isDownload, rfl⟩ :=
        List.mem_map.mp ((List.mem_append.mp listed).resolve_left notThere)
      obtain ⟨within, amid⟩ := settles.each found isDownload
      have course := DownloadCourse.of_amid (lists.owns reserved.listed) amid
      cases value : found.value with
      | ok _ =>
          obtain ⟨content, stands, yields⟩ := course.sourced.complete value
          exact .whole within yields stands
      | error cause =>
          rw [value] at course
          rcases first_failure_cases downloads with
            succeed | ⟨earlier, first, later, failure, shape, succeed, failed⟩
          · rw [succeed found isDownload] at value
            cases value
          · exact .failed within course
              (settles.fails earlier first later failure shape succeed failed)

end AssetRecord

namespace AssetHistory

/-- Every file of an account was put there by one of the calls, which made
something of it. -/
def Accounted
    (storageBase : Option String)
    (records : List (AssetRecord AssetScene))
    (files : JobFiles)
    (state : AssetScene) :
    Prop :=
  ∀ item ∈ files.assets,
    ∃ before past between,
      records = before ++ past :: between ∧
      past.Reserved item ∧
      past.Made storageBase item state

variable {storageBase : Option String} {workspace : Workspace}
  {mentioned : List AssetReference} {files after : JobFiles}
  {state final : AssetScene}

/-- One more call accounts for its new files and leaves the others. -/
theorem Accounted.concat
    {records : List (AssetRecord AssetScene)}
    {record : AssetRecord AssetScene}
    (accounted : Accounted storageBase records record.before state)
    (lists : record.before.Lists workspace mentioned)
    (idle :
      (AssetScene.surroundings workspace).meanwhile state record.start)
    (run :
      Run (AssetScene.surroundings workspace) record.start
        ((record.call.program storageBase).start record.before)
        record.events (record.outcome, record.after) record.final) :
    Accounted storageBase (records ++ [record]) record.after record.final := by
  obtain ⟨processed, _, downloads, _, later, goes⟩ :=
    AssetRecord.goes_of_run lists run
  intro item listed
  -- What was made of an old file stays; a new one is this call's own.
  by_cases isOld : item ∈ record.before.assets
  · obtain ⟨before, past, between, shape, reserved, made⟩ :=
      accounted item isOld
    refine ⟨before, past, between ++ [record], by simp [shape], reserved, ?_⟩
    exact made.keeps
      ((idle item.2 (lists.owns isOld)).trans
        (AssetRecord.keeps_of_run lists run isOld))
  · have isNew : item.1 ∉ record.before.assets.map Prod.fst := by
      intro isThere
      obtain ⟨other, member, same⟩ := List.mem_map.mp isThere
      have isItem := List.inj_on_of_nodup_map later.different
        (goes.prefix_assets.subset member) listed same
      exact isOld (isItem ▸ member)
    have reserved : record.Reserved item := ⟨isNew, listed⟩
    exact ⟨records, record, [], rfl, reserved, goes.made later reserved⟩

/-- A history accounts for all files of the account that it leaves. -/
theorem accounted
    {earlier records : List (AssetRecord AssetScene)}
    (sofar : Accounted storageBase earlier files state)
    (lists : files.Lists workspace mentioned)
    (history :
      AssetHistory (AssetScene.surroundings workspace) storageBase files state
        records after final) :
    Accounted storageBase (earlier ++ records) after final ∧
    ∃ more, after.Lists workspace more := by
  induction history generalizing earlier mentioned with
  | opened files state =>
      rw [List.append_nil]
      exact ⟨sofar, mentioned, lists⟩
  | @called files after state final record records account idle run later
      inductionHypothesis =>
      subst account
      obtain ⟨processed, _, _, _, listsNow, _⟩ :=
        AssetRecord.goes_of_run lists run
      rw [List.append_cons]
      exact inductionHypothesis (sofar.concat lists idle run) listsNow

/-- A history of calls is one of the first of them, and then of the others. -/
theorem append_cases
    {State : Type}
    {surroundings : Surroundings State}
    {state final : State}
    {earlier later : List (AssetRecord State)}
    (history :
      AssetHistory surroundings storageBase files state (earlier ++ later) after
        final) :
    ∃ middle between,
      AssetHistory surroundings storageBase files state earlier middle
        between ∧
      AssetHistory surroundings storageBase middle between later after
        final := by
  induction earlier generalizing files state with
  | nil => exact ⟨files, state, .opened files state, history⟩
  | cons record rest inductionHypothesis =>
      cases history with
      | called account idle run remaining =>
          obtain ⟨middle, between, before, behind⟩ :=
            inductionHypothesis remaining
          exact ⟨middle, between, .called account idle run before, behind⟩

section Persistence

variable {State : Type} {surroundings : Surroundings State}
  {state final : State} {records : List (AssetRecord State)}

/-- No history takes a file out of the account. -/
theorem prefix_assets
    (lists : files.Lists workspace mentioned)
    (history :
      AssetHistory surroundings storageBase files state records after final) :
    files.assets <+: after.assets := by
  induction history generalizing mentioned with
  | opened files state => exact List.prefix_rfl
  | called account idle run later inductionHypothesis =>
      subst account
      obtain ⟨_, _, downloads, _, listsNow, goes⟩ :=
        AssetRecord.goes_of_run lists run
      exact goes.prefix_assets.trans (inductionHypothesis listsNow)

/-- What was asked for is in the account from then on, whatever came of it. -/
theorem known_of_mem
    (lists : files.Lists workspace mentioned)
    (history :
      AssetHistory surroundings storageBase files state records after final)
    {past : AssetRecord State}
    (member : past ∈ records)
    (readable : past.call.Readable) :
    past.call.addresses ⊆ after.assets.map Prod.fst := by
  induction history generalizing mentioned with
  | opened files state => cases member
  | @called files after state final record records account idle run later
      inductionHypothesis =>
      subst account
      obtain ⟨_, _, downloads, _, listsNow, goes⟩ :=
        AssetRecord.goes_of_run lists run
      rcases List.mem_cons.mp member with rfl | isLater
      · obtain ⟨listsAll, _⟩ :=
          AssetRecord.settles_of_run lists readable run
        intro address asked
        apply ((later.prefix_assets listsNow).map Prod.fst).subset
        rw [listsAll.addresses, List.mem_eraseDups, List.map_append]
        exact List.mem_append_right _ asked
      · exact inductionHypothesis listsNow isLater

end Persistence

/--
A file that a call tells was put into the account by this call or an earlier
one, when its address was new. If that call returned, complete bytes of one
source stand in the file. If it failed, the file may hold anything or be
missing, and is told all the same: the addresses that a call asked for are in
the account from then on, whatever came of them, and whoever asks for addresses
that are in the account is told their files at once.
-/
theorem told_file_is_whole_or_was_given_up
    {earlier later : List (AssetRecord AssetScene)}
    {record : AssetRecord AssetScene}
    (fresh : files.assets = [])
    (history :
      AssetHistory (AssetScene.surroundings files.workspace) storageBase files
        state (earlier ++ record :: later) after final) :
    (∀ told,
      record.outcome = .ok told →
      ∀ item ∈ told,
        ∃ before past between,
          earlier ++ [record] = before ++ past :: between ∧
          past.Reserved item ∧
          past.Made storageBase item record.final) ∧
    (∀ past ∈ earlier,
      past.call.Readable →
      past.call.addresses ⊆ record.before.assets.map Prod.fst) ∧
    (record.call.addresses ⊆ record.before.assets.map Prod.fst →
      record.events = [] ∧
      record.outcome =
        .ok (assetFiles record.call.references record.before.assets)) := by
  obtain ⟨middle, between, before, behind⟩ := history.append_cases
  cases behind with
  | called account idle run remaining =>
  subst account
  have nothing : Accounted storageBase [] files state := by
    simp [Accounted, fresh]
  obtain ⟨sofar, mentioned, lists⟩ :=
    before.accounted nothing (.empty fresh)
  rw [List.nil_append] at sofar
  refine ⟨?_, ?_, ?_⟩
  · intro told returned item isTold
    obtain ⟨_, _, downloads, _, _, goes⟩ := AssetRecord.goes_of_run lists run
    exact sofar.concat lists idle run item (goes.told_subset returned isTold)
  · intro past member readable
    exact before.known_of_mem (.empty fresh) member readable
  · intro known
    obtain ⟨call, files, start, events, outcome, left, ended⟩ := record
    dsimp only at known run
    rw [AssetCall.start_of_known known] at run
    cases run
    exact ⟨rfl, rfl⟩

/-- The file of an asset that cannot be had is told by the second fetch. -/
theorem lost_asset_is_told_again :
    let workspace : Workspace := { jobId := "a", root := .ofText "/work" }
    let lost : AssetReference :=
      { address := "http://web.test/b.mp4", kind := .video }
    let item := (lost.address, Path.ofText "/work/a_asset_0.mp4")
    ∃ state first second after final,
      AssetHistory (AssetScene.surroundings workspace) none { workspace } state
        [first, second] after final ∧
      first.call = .fetch lost ∧
      first.outcome.toOption = none ∧
      second.call = .fetch lost ∧
      second.events = [] ∧
      second.outcome = .ok [item] ∧
      final.disk.fileAt? item.2 = none ∧
      ∃ before past between,
        [first, second] = before ++ past :: between ∧
        past.Reserved item ∧
        past.Made none item second.final := by
  intro workspace lost item
  let files : JobFiles := { workspace }
  let calls : List AssetCall := [.fetch lost, .fetch lost]
  let server := World.serving []
  have outcomes :
      (server.callAssets none calls files).1.map Except.toOption =
        [none, some [item]] := by
    decide +kernel
  have missing :
      (server.callAssets none calls files).2.2.assetScene.disk.fileAt? item.2 =
        none := by
    decide +kernel
  have lists : files.Lists workspace [] := .empty rfl
  obtain ⟨records, history, areCalls, areOutcomes⟩ :=
    server.assetHistory_callAssets lists none calls
  generalize server.assetScene = state at history
  generalize server.callAssets none calls files = left
    at outcomes missing history areOutcomes
  obtain ⟨first, others, rfl, isFirst, areOthers⟩ :=
    List.map_eq_cons_iff.mp areCalls
  obtain ⟨second, none, rfl, isSecond, noOthers⟩ :=
    List.map_eq_cons_iff.mp areOthers
  obtain rfl := List.map_eq_nil_iff.mp noOthers
  rw [← areOutcomes] at outcomes
  simp only [List.map_cons, List.map_nil, List.cons.injEq, and_true]
    at outcomes
  have returned : second.outcome = .ok [item] :=
    Outcome.eq_ok_of_toOption outcomes.2
  have readable : first.call.Readable := by
    have read : addressPath lost.address = .ok "/b.mp4".toList :=
      Outcome.eq_ok_of_toOption (by decide +kernel)
    simp [isFirst, AssetCall.Readable, AssetCall.references, read]
  have inOrder :
      AssetHistory (AssetScene.surroundings files.workspace) none files state
        ([first] ++ second :: []) left.2.1 left.2.2.assetScene :=
    history
  obtain ⟨told, known, atOnce⟩ :=
    told_file_is_whole_or_was_given_up rfl inOrder
  have isKnown := known first (List.mem_singleton_self first) readable
  rw [isFirst, ← isSecond] at isKnown
  exact ⟨state, first, second, _, _, history, isFirst, outcomes.1, isSecond,
    (atOnce isKnown).1, returned, missing,
    told [item] returned item (List.mem_singleton_self item)⟩

end AssetHistory

end Montage
