import Montage.Proofs.Asset.Fetch

namespace Montage

/-!
# Calls for assets

A call for one asset or for many reserves files first, without a call to the
surroundings. Then the new files are downloaded side by side, and the call tells
the first failure, or the files of all its addresses.
-/

/-! ## What is told of files -/

section Fields

variable {α : Type} {name : String} {value : α} {fields : List (String × α)}

/-- To set a field that is there leaves the names. -/
theorem map_fst_setField
    (known : name ∈ fields.map Prod.fst) :
    (setField name value fields).map Prod.fst = fields.map Prod.fst := by
  induction fields with
  | nil => cases known
  | cons field rest inductionHypothesis =>
      by_cases same : field.1 = name
      · simp [setField, same]
      · have inRest : name ∈ rest.map Prod.fst := by
          simpa [Ne.symm same] using known
        simp [setField, same, inductionHypothesis inRest]

theorem fieldsOf_concat
    (pairs : List (String × α))
    (pair : String × α) :
    fieldsOf (pairs ++ [pair]) = setField pair.1 pair.2 (fieldsOf pairs) := by
  simp [fieldsOf, List.foldl_append]

/-- Fields have each name once, in the order of the first pairs. -/
theorem map_fst_fieldsOf (pairs : List (String × α)) :
    (fieldsOf pairs).map Prod.fst = (pairs.map Prod.fst).eraseDups := by
  induction pairs using List.reverseRecOn with
  | nil => rfl
  | append_singleton pairs pair inductionHypothesis =>
      rw [fieldsOf_concat, List.map_append, List.map_singleton]
      by_cases known : pair.1 ∈ pairs.map Prod.fst
      · have isField : pair.1 ∈ (fieldsOf pairs).map Prod.fst := by
          rwa [inductionHypothesis, List.mem_eraseDups]
        rw [map_fst_setField isField, inductionHypothesis,
          eraseDups_concat_of_mem known]
      · have isNew : getField? pair.1 (fieldsOf pairs) = none := by
          rwa [getField?_eq_none_iff, inductionHypothesis,
            List.mem_eraseDups]
        rw [setField_eq_append isNew, List.map_append, inductionHypothesis,
          List.map_singleton, eraseDups_concat_of_not_mem known]

/-- Every field comes from a pair. -/
theorem mem_of_mem_fieldsOf
    {pairs : List (String × α)}
    {field : String × α}
    (member : field ∈ fieldsOf pairs) :
    field ∈ pairs := by
  induction pairs using List.reverseRecOn with
  | nil => cases member
  | append_singleton pairs pair inductionHypothesis =>
      rw [fieldsOf_concat] at member
      rcases mem_setField member with isLast | isEarlier
      · exact List.mem_append_right _ (by simp [isLast])
      · exact List.mem_append_left _ (inductionHypothesis isEarlier)

end Fields

/-- Files are told of all references, of each address once. -/
theorem map_fst_assetFiles
    {references : List AssetReference}
    {assets : List (String × Path)}
    (known :
      ∀ reference ∈ references, reference.address ∈ assets.map Prod.fst) :
    (assetFiles references assets).map Prod.fst =
      (references.map AssetReference.address).eraseDups := by
  unfold assetFiles
  rw [map_fst_fieldsOf]
  congr 1
  induction references with
  | nil => rfl
  | cons reference rest inductionHypothesis =>
      cases found : getField? reference.address assets with
      | none =>
          exact absurd (known reference List.mem_cons_self)
            (getField?_eq_none_iff.mp found)
      | some path =>
          have later :=
            inductionHypothesis fun other member =>
              known other (List.mem_cons_of_mem reference member)
          simp [found, later]

theorem mem_of_mem_assetFiles
    {references : List AssetReference}
    {assets : List (String × Path)}
    {item : String × Path}
    (member : item ∈ assetFiles references assets) :
    item ∈ assets := by
  obtain ⟨reference, _, isFile⟩ :=
    List.mem_filterMap.mp (mem_of_mem_fieldsOf member)
  obtain ⟨path, found, rfl⟩ := Option.map_eq_some_iff.mp isFile
  exact mem_of_getField? found

theorem assetFiles_singleton
    {reference : AssetReference}
    {path : Path}
    {assets : List (String × Path)}
    (known : getField? reference.address assets = some path) :
    assetFiles [reference] assets = [(reference.address, path)] := by
  simp [assetFiles, fieldsOf, known, setField]

/-- Whatever fails, fetching together tells of a failure about a resource. -/
theorem fetchFailure_eq
    (failure : Failure) :
    ∃ error, fetchFailure failure = .server error ∧ error.kind = .resource := by
  unfold fetchFailure
  dsimp only
  split
  · rename_i error
    split
    · rename_i isResource
      exact ⟨error, rfl, isResource⟩
    · exact ⟨_, rfl, rfl⟩
  · exact ⟨_, rfl, rfl⟩

/-! ## Calls -/

/-- A call for assets of a job. -/
inductive AssetCall
  | fetch (reference : AssetReference)
  | together (references : List AssetReference)

namespace AssetCall

/-- What a call asks for. -/
def references : AssetCall → List AssetReference
  | fetch reference => [reference]
  | together references => references

/-- The addresses that a call asks for. -/
def addresses (call : AssetCall) : List String :=
  call.references.map AssetReference.address

/-- The program of a call; its value is the files of its addresses. -/
def program
    (storageBase : Option String) :
    AssetCall → JobProgram (List (String × Path))
  | fetch reference => do
      let path ← reference.fetch storageBase
      pure [(reference.address, path)]
  | together references => fetchTogether storageBase references

/-- All addresses that a call asks for can be read. -/
def Readable (call : AssetCall) : Prop :=
  ∀ reference ∈ call.references,
    ∃ path, addressPath reference.address = .ok path

/-- No such address stops the call. -/
theorem Readable.assetExtension_ne_error
    {call : AssetCall}
    (readable : call.Readable)
    {reference : AssetReference}
    (member : reference ∈ call.references)
    (failure : Failure) :
    assetExtension reference.address reference.kind ≠ .error failure := by
  obtain ⟨path, isReadable⟩ := readable reference member
  unfold assetExtension
  rw [isReadable]
  rintro ⟨⟩

/-- How a call tells the failure of a download. -/
def told : AssetCall → Failure → Failure
  | fetch _, failure => failure
  | together _, failure => fetchFailure failure

/-- What a call tells after its downloads: their first failure, or files. -/
def conclude
    (call : AssetCall)
    (assets : List (String × Path)) :
    List (Outcome Unit) → Outcome (List (String × Path))
  | [] => .ok (assetFiles call.references assets)
  | .ok _ :: rest => call.conclude assets rest
  | .error failure :: _ => .error (call.told failure)

theorem conclude_of_ok
    (call : AssetCall)
    (assets : List (String × Path))
    {outcomes : List (Outcome Unit)}
    (succeed : ∀ outcome ∈ outcomes, outcome = .ok ()) :
    call.conclude assets outcomes =
      .ok (assetFiles call.references assets) := by
  induction outcomes with
  | nil => rfl
  | cons outcome rest inductionHypothesis =>
      rw [succeed outcome List.mem_cons_self]
      exact inductionHypothesis fun other member =>
        succeed other (List.mem_cons_of_mem outcome member)

theorem conclude_of_error
    (call : AssetCall)
    (assets : List (String × Path))
    {earlier : List (Outcome Unit)}
    (succeed : ∀ outcome ∈ earlier, outcome = .ok ())
    (failure : Failure)
    (later : List (Outcome Unit)) :
    call.conclude assets (earlier ++ .error failure :: later) =
      .error (call.told failure) := by
  induction earlier with
  | nil => rfl
  | cons outcome rest inductionHypothesis =>
      rw [succeed outcome List.mem_cons_self]
      exact inductionHypothesis fun other member =>
        succeed other (List.mem_cons_of_mem outcome member)

theorem conclude_together
    (references : List AssetReference)
    (assets : List (String × Path))
    (outcomes : List (Outcome Unit)) :
    (firstFailure outcomes).map (fun _ => assetFiles references assets) =
      (together references).conclude assets outcomes := by
  induction outcomes with
  | nil => rfl
  | cons outcome rest inductionHypothesis =>
      cases outcome with
      | ok value => exact inductionHypothesis
      | error failure => rfl

end AssetCall

/-- To run one program side by side with none is to run it. -/
theorem Program.gather_singleton
    {α : Type}
    (program : Program α) :
    Program.gather [program] = program.andThen fun value => .done [value] := by
  cases program with
  | done value => rfl
  | step call next =>
      simp only [Program.gather, Program.both, Program.beside, Program.andThen,
        Program.andThen_assoc]

/-- The downloads of reserved assets, side by side. -/
def downloads
    (storageBase : Option String)
    (items : List (String × Path)) :
    Program (List (Outcome Unit)) :=
  Program.gather (items.map fun item => download storageBase item.1 item.2)

/-- They make the calls that each of them may make, and choose among them. -/
theorem downloads_limited
    {permitted : Call → Prop}
    (schedules : permitted .schedule)
    {items : List (String × Path)}
    (allows : ∀ item ∈ items, AllowsDownload permitted item.2)
    (storageBase : Option String) :
    (downloads storageBase items).Limited permitted := by
  apply Program.Limited.gather schedules
  intro program member
  obtain ⟨item, isItem, rfl⟩ := List.mem_map.mp member
  exact download_limited (allows item isItem) storageBase item.1

namespace AssetCall

variable {files : JobFiles} {workspace : Workspace}
  {mentioned : List AssetReference}

theorem start_together
    (lists : files.Lists workspace mentioned)
    (references : List AssetReference)
    (storageBase : Option String) :
    ∃ processed reserved reading after,
      AssetReference.Reserves references processed reading ∧
      after.Lists workspace (mentioned ++ processed) ∧
      after.assets = files.assets ++ reserved ∧
      ((together references).program storageBase).start files =
        match reading with
        | .error failure => .done (.error failure, after)
        | .ok _ =>
            (downloads storageBase reserved).andThen fun outcomes =>
              .done
                ((together references).conclude after.assets outcomes,
                  after) := by
  obtain ⟨processed, reserved, reading, after, starts, reserves, later,
    assets⟩ := AssetReference.start_reserveNew lists references
  refine ⟨processed, reserved, reading, after, reserves, later, assets, ?_⟩
  unfold program fetchTogether
  rw [JobProgram.start_bind, starts, Program.andThen]
  cases reading with
  | error failure => rfl
  | ok value =>
      change (JobProgram.start (_ >>= _) after) = _
      rw [JobProgram.start_bind, JobProgram.start_ofProgram,
        Program.andThen_assoc]
      unfold downloads
      congr 1
      funext outcomes
      rw [← conclude_together]
      change JobProgram.start (_ >>= _) after = _
      rw [JobProgram.start_bind, JobProgram.start_ofOutcome]
      cases firstFailure outcomes <;> rfl

theorem start_fetch
    (lists : files.Lists workspace mentioned)
    (reference : AssetReference)
    (storageBase : Option String) :
    ∃ processed reserved reading after,
      AssetReference.Reserves [reference] processed reading ∧
      after.Lists workspace (mentioned ++ processed) ∧
      after.assets = files.assets ++ reserved ∧
      ((fetch reference).program storageBase).start files =
        match reading with
        | .error failure => .done (.error failure, after)
        | .ok _ =>
            (downloads storageBase reserved).andThen fun outcomes =>
              .done ((fetch reference).conclude after.assets outcomes,
                after) := by
  unfold program
  rw [JobProgram.start_bind]
  cases known : getField? reference.address files.assets with
  | some path =>
      refine ⟨[reference], [], .ok (), files, .all _, lists.again known,
        by simp, ?_⟩
      rw [AssetReference.start_fetch_of_known known]
      have isTold := assetFiles_singleton known
      change Program.done (Except.ok [(reference.address, path)], files) =
        .done (.ok (assetFiles [reference] files.assets), files)
      rw [isTold]
  | none =>
      cases found : assetExtension reference.address reference.kind with
      | error failure =>
          rw [AssetReference.start_fetch_of_error known found]
          exact ⟨[], [], .error failure, files, .at_once found [], by simpa,
            by simp, rfl⟩
      | ok extension =>
          have assets := lists.assets_withAsset known extension
          refine ⟨[reference], _, .ok (),
            files.withAsset reference.address extension, .all _,
            lists.withAsset known found, assets, ?_⟩
          have isTold :
              assetFiles [reference]
                  (files.withAsset reference.address extension).assets =
                [(reference.address,
                  files.workspace.assetPath files.assets.length extension)] :=
            assetFiles_singleton (getField?_setField_self _ _ _)
          rw [AssetReference.start_fetch_of_new known found,
            ← lists.assetPath_eq]
          unfold downloads
          dsimp only
          rw [List.map_singleton, Program.gather_singleton,
            Program.andThen_assoc, Program.andThen_assoc]
          congr 1
          funext outcome
          cases outcome with
          | error failure => rfl
          | ok value =>
              change Program.done (Except.ok [(reference.address, _)], _) =
                .done (.ok (assetFiles [reference] _), _)
              rw [isTold]

/-- Before anything is asked of the surroundings, the account is what the call
leaves; what it reserved is downloaded, unless an address stops it. -/
theorem start_program
    (lists : files.Lists workspace mentioned)
    (call : AssetCall)
    (storageBase : Option String) :
    ∃ processed reserved reading after,
      AssetReference.Reserves call.references processed reading ∧
      after.Lists workspace (mentioned ++ processed) ∧
      after.assets = files.assets ++ reserved ∧
      (call.program storageBase).start files =
        match reading with
        | .error failure => .done (.error failure, after)
        | .ok _ =>
            (downloads storageBase reserved).andThen fun outcomes =>
              .done (call.conclude after.assets outcomes, after) := by
  cases call with
  | fetch reference => exact start_fetch lists reference storageBase
  | together references => exact start_together lists references storageBase

end AssetCall

end Montage
