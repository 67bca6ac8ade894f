import Mathlib.Data.List.Nodup
import Montage.Asset.Resolver
import Montage.Proofs.Asset.Names
import Montage.Proofs.Registry.Records

namespace Montage

/-!
# The account of assets

An account has one file for each address that was mentioned, in the order of
the first mentions; the number in the name of the file is its place. A file is
put into the account as soon as its address is mentioned, before anything is
asked of the surroundings, and stays there whatever comes of the download.
-/

section Fields

variable {α : Type} {name : String} {fields : List (String × α)}

theorem getField?_eq_none_iff :
    getField? name fields = none ↔ name ∉ fields.map Prod.fst := by
  induction fields with
  | nil => simp [getField?]
  | cons field rest inductionHypothesis =>
      by_cases same : field.1 = name
      · simp [getField?, same]
      · simp only [getField?, same, ↓reduceIte, inductionHypothesis,
          List.map_cons, List.mem_cons, Ne.symm same, false_or]

/-- A new name goes to the end. -/
theorem setField_eq_append
    (isNew : getField? name fields = none)
    (value : α) :
    setField name value fields = fields ++ [(name, value)] := by
  induction fields with
  | nil => rfl
  | cons field rest inductionHypothesis =>
      by_cases same : field.1 = name
      · simp [getField?, same] at isNew
      · simp only [getField?, same, ↓reduceIte] at isNew
        simp [setField, same, inductionHypothesis isNew]

end Fields

/-- A text that is mentioned once more is none of the first mentions. -/
theorem eraseDups_concat_of_mem
    {texts : List String}
    {text : String}
    (member : text ∈ texts) :
    (texts ++ [text]).eraseDups = texts.eraseDups := by
  rw [List.eraseDups_append]
  simp [List.removeAll, member]

theorem eraseDups_concat_of_not_mem
    {texts : List String}
    {text : String}
    (isNew : text ∉ texts) :
    (texts ++ [text]).eraseDups = texts.eraseDups ++ [text] := by
  rw [List.eraseDups_append]
  simp [List.removeAll, isNew, List.eraseDups_cons]

/-- The file of an asset has the extension of its first mention. -/
def AssetReference.FirstOf
    (mentioned : List AssetReference)
    (address extension : String) :
    Prop :=
  ∃ reference,
    mentioned.find? (fun other => other.address = address) = some reference ∧
    assetExtension reference.address reference.kind = .ok extension

theorem AssetReference.FirstOf.isAssetExtension
    {mentioned : List AssetReference}
    {address extension : String}
    (first : FirstOf mentioned address extension) :
    IsAssetExtension address extension := by
  obtain ⟨reference, found, isExtension⟩ := first
  have same : reference.address = address := by
    simpa using List.find?_some found
  exact ⟨reference.kind, same ▸ isExtension⟩

/-- Later mentions do not count. -/
theorem AssetReference.FirstOf.append
    {mentioned : List AssetReference}
    {address extension : String}
    (first : FirstOf mentioned address extension)
    (more : List AssetReference) :
    FirstOf (mentioned ++ more) address extension := by
  obtain ⟨reference, found, isExtension⟩ := first
  refine ⟨reference, ?_, isExtension⟩
  rw [List.find?_append, found, Option.some_or]

/-- A mention of a new address is its first one. -/
theorem AssetReference.FirstOf.concat
    {mentioned : List AssetReference}
    {reference : AssetReference}
    {extension : String}
    (isNew : reference.address ∉ mentioned.map AssetReference.address)
    (found :
      assetExtension reference.address reference.kind = .ok extension) :
    FirstOf (mentioned ++ [reference]) reference.address extension := by
  refine ⟨reference, ?_, found⟩
  have none :
      mentioned.find? (fun other => other.address = reference.address) =
        none := by
    rw [List.find?_eq_none]
    intro other member same
    exact isNew (List.mem_map.mpr ⟨other, member, by simpa using same⟩)
  rw [List.find?_append, none, Option.none_or]
  simp

namespace JobFiles

/-- An account of a job has the assets that were mentioned, and no others. -/
structure Lists
    (files : JobFiles)
    (workspace : Workspace)
    (mentioned : List AssetReference) :
    Prop where
  jobId : files.workspace.jobId = workspace.jobId
  root : files.workspace.root = workspace.root
  /-- Each address once, in the order of the first mentions. -/
  addresses :
    files.assets.map Prod.fst =
      (mentioned.map AssetReference.address).eraseDups
  different : (files.assets.map Prod.fst).Nodup
  /-- A file is numbered by its place. -/
  numbered :
    ∀ number item,
      files.assets[number]? = some item →
      ∃ extension,
        AssetReference.FirstOf mentioned item.1 extension ∧
        item.2 = workspace.assetPath number extension
  tracked : ∀ item ∈ files.assets, item.2 ∈ files.workspace.files

/-- The account after a file is reserved for an address. -/
def withAsset
    (files : JobFiles)
    (address extension : String) :
    JobFiles :=
  let path := files.workspace.assetPath files.assets.length extension
  { workspace := files.workspace.track path
    assets := setField address path files.assets }

namespace Lists

variable {files : JobFiles} {workspace : Workspace}
  {mentioned : List AssetReference}

theorem empty
    {files : JobFiles}
    (noAssets : files.assets = []) :
    files.Lists files.workspace [] where
  jobId := rfl
  root := rfl
  addresses := by simp [noAssets]
  different := by simp [noAssets]
  numbered := by simp [noAssets]
  tracked := by simp [noAssets]

theorem assetPath_eq
    (lists : files.Lists workspace mentioned)
    (number : Nat)
    (extension : String) :
    files.workspace.assetPath number extension =
      workspace.assetPath number extension := by
  unfold Workspace.assetPath Workspace.named
  rw [lists.jobId, lists.root]

theorem owns
    (lists : files.Lists workspace mentioned)
    {item : String × Path}
    (member : item ∈ files.assets) :
    workspace.OwnsAsset item.2 := by
  obtain ⟨number, isPlace⟩ := List.mem_iff_getElem?.mp member
  obtain ⟨extension, first, isPath⟩ := lists.numbered number item isPlace
  exact ⟨item.1, number, extension, first.isAssetExtension, isPath⟩

/-- Different assets have different files. -/
theorem paths_nodup
    (lists : files.Lists workspace mentioned) :
    (files.assets.map Prod.snd).Nodup := by
  rw [List.nodup_iff_getElem?_ne_getElem?]
  intro earlier later before within same
  rw [List.length_map] at within
  have isEarlier := List.getElem?_eq_getElem (before.trans within)
  have isLater := List.getElem?_eq_getElem within
  obtain ⟨_, first, isPath⟩ := lists.numbered _ _ isEarlier
  obtain ⟨_, otherFirst, isOtherPath⟩ := lists.numbered _ _ isLater
  rw [List.getElem?_map, List.getElem?_map, isEarlier, isLater,
    Option.map_some, Option.map_some, Option.some.injEq, isPath,
    isOtherPath] at same
  exact Nat.ne_of_lt before
    (Workspace.assetPath_injective first.isAssetExtension
      otherFirst.isAssetExtension same)

/-- To mention an address once more changes nothing. -/
theorem again
    (lists : files.Lists workspace mentioned)
    {reference : AssetReference}
    {path : Path}
    (known : getField? reference.address files.assets = some path) :
    files.Lists workspace (mentioned ++ [reference]) where
  jobId := lists.jobId
  root := lists.root
  addresses := by
    have member : reference.address ∈ files.assets.map Prod.fst :=
      List.mem_map_of_mem (mem_of_getField? known)
    rw [lists.addresses, List.mem_eraseDups] at member
    rw [lists.addresses, List.map_append, List.map_singleton,
      eraseDups_concat_of_mem member]
  different := lists.different
  numbered := by
    intro number item isPlace
    obtain ⟨extension, first, isPath⟩ := lists.numbered number item isPlace
    exact ⟨extension, first.append _, isPath⟩
  tracked := lists.tracked

/-- A new address gets the file of the next number. -/
theorem assets_withAsset
    (lists : files.Lists workspace mentioned)
    {address : String}
    (isNew : getField? address files.assets = none)
    (extension : String) :
    (files.withAsset address extension).assets =
      files.assets ++
        [(address, workspace.assetPath files.assets.length extension)] := by
  simp only [JobFiles.withAsset, setField_eq_append isNew, lists.assetPath_eq]

theorem withAsset
    (lists : files.Lists workspace mentioned)
    {reference : AssetReference}
    {extension : String}
    (isNew : getField? reference.address files.assets = none)
    (found :
      assetExtension reference.address reference.kind = .ok extension) :
    (files.withAsset reference.address extension).Lists workspace
      (mentioned ++ [reference]) := by
  have notListed := getField?_eq_none_iff.mp isNew
  have notMentioned :
      reference.address ∉ mentioned.map AssetReference.address := by
    rwa [lists.addresses, List.mem_eraseDups] at notListed
  have assets := lists.assets_withAsset isNew extension
  let path := files.workspace.assetPath files.assets.length extension
  have extends_ :
      (files.workspace.track path).jobId = files.workspace.jobId ∧
      (files.workspace.track path).root = files.workspace.root ∧
      files.workspace.files ⊆ (files.workspace.track path).files := by
    unfold Workspace.track
    split
    · exact ⟨rfl, rfl, fun _ => id⟩
    · exact ⟨rfl, rfl, List.subset_append_left _ _⟩
  refine ⟨extends_.1.trans lists.jobId, extends_.2.1.trans lists.root, ?_, ?_,
    ?_, ?_⟩
  · rw [assets, List.map_append, lists.addresses, List.map_append,
      List.map_singleton, List.map_singleton,
      eraseDups_concat_of_not_mem notMentioned]
  · rw [assets, List.map_append, List.map_singleton]
    simpa using lists.different.concat notListed
  · intro number item isPlace
    rw [assets] at isPlace
    rw [List.getElem?_append] at isPlace
    split at isPlace
    · obtain ⟨other, first, isPath⟩ := lists.numbered number item isPlace
      exact ⟨other, first.append _, isPath⟩
    · obtain ⟨atEnd, rfl⟩ :
          number - files.assets.length = 0 ∧
          (reference.address,
            workspace.assetPath files.assets.length extension) = item := by
        simpa [List.getElem?_singleton] using isPlace
      have isLast : number = files.assets.length := by omega
      rw [isLast]
      exact ⟨extension, .concat notMentioned found, rfl⟩
  · intro item member
    rw [assets] at member
    rcases List.mem_append.mp member with isOld | isNewItem
    · exact extends_.2.2 (lists.tracked item isOld)
    · rw [List.mem_singleton.mp isNewItem, ← lists.assetPath_eq]
      exact files.workspace.mem_track path

end Lists

end JobFiles

/-! ## Reserving files -/

namespace AssetReference

variable {files : JobFiles} {reference : AssetReference}

theorem start_reserve
    {extension : String}
    (found : assetExtension reference.address reference.kind = .ok extension)
    (files : JobFiles) :
    reference.reserve.start files =
      .done
        (.ok (files.workspace.assetPath files.assets.length extension),
          files.withAsset reference.address extension) := by
  unfold reserve
  rw [JobProgram.start_bind, JobProgram.start_ofOutcome, found]
  rfl

/-- Without an extension no file is reserved. -/
theorem start_reserve_of_error
    {failure : Failure}
    (unreadable :
      assetExtension reference.address reference.kind = .error failure)
    (files : JobFiles) :
    reference.reserve.start files = .done (.error failure, files) := by
  unfold reserve
  rw [JobProgram.start_bind, JobProgram.start_ofOutcome, unreadable]
  rfl

/-- How far new files are reserved for references: for all of them, or up to
the first new one whose address tells no extension. -/
inductive Reserves :
    List AssetReference → List AssetReference → Outcome Unit → Prop
  | all (wanted : List AssetReference) : Reserves wanted wanted (.ok ())
  | stopped
      {processed rest : List AssetReference}
      {reference : AssetReference}
      {failure : Failure}
      (unreadable :
        assetExtension reference.address reference.kind = .error failure) :
      Reserves (processed ++ reference :: rest) processed (.error failure)

/-- The first reference may be the one that stops it. -/
theorem Reserves.at_once
    {failure : Failure}
    (unreadable :
      assetExtension reference.address reference.kind = .error failure)
    (rest : List AssetReference) :
    Reserves (reference :: rest) [] (.error failure) :=
  @stopped [] rest reference failure unreadable

theorem Reserves.cons
    {wanted processed : List AssetReference}
    {outcome : Outcome Unit}
    (reserves : Reserves wanted processed outcome)
    (reference : AssetReference) :
    Reserves (reference :: wanted) (reference :: processed) outcome := by
  cases reserves with
  | all wanted => exact .all _
  | @stopped processed rest stopping failure unreadable =>
      exact @stopped (reference :: processed) rest stopping failure unreadable

theorem Reserves.of_error
    {wanted processed : List AssetReference}
    {failure : Failure}
    (reserves : Reserves wanted processed (.error failure)) :
    ∃ reference rest,
      wanted = processed ++ reference :: rest ∧
      assetExtension reference.address reference.kind = .error failure := by
  cases reserves with
  | stopped unreadable => exact ⟨_, _, rfl, unreadable⟩

theorem Reserves.of_ok
    {wanted processed : List AssetReference}
    (reserves : Reserves wanted processed (.ok ())) :
    processed = wanted := by
  cases reserves with
  | all wanted => rfl

/-- Files are reserved before anything is asked of the surroundings. -/
theorem start_reserveNew
    {workspace : Workspace}
    {mentioned : List AssetReference}
    (lists : files.Lists workspace mentioned)
    (wanted : List AssetReference) :
    ∃ processed reserved outcome after,
      (reserveNew wanted).start files =
        .done (outcome.map fun _ => reserved, after) ∧
      Reserves wanted processed outcome ∧
      after.Lists workspace (mentioned ++ processed) ∧
      after.assets = files.assets ++ reserved := by
  induction wanted generalizing files mentioned with
  | nil => exact ⟨[], [], .ok (), files, rfl, .all [], by simpa, by simp⟩
  | cons reference rest inductionHypothesis =>
      rw [reserveNew, JobProgram.start_bind, JobProgram.start_files,
        Program.andThen]
      dsimp only
      cases known : getField? reference.address files.assets with
      | some path =>
          obtain ⟨processed, reserved, outcome, after, starts, reserves, later,
            assets⟩ := inductionHypothesis (lists.again known)
          rw [List.append_assoc, List.singleton_append] at later
          exact ⟨reference :: processed, reserved, outcome, after, starts,
            reserves.cons reference, later, assets⟩
      | none =>
          dsimp only
          rw [JobProgram.start_bind]
          cases found : assetExtension reference.address reference.kind with
          | error failure =>
              rw [start_reserve_of_error found]
              exact ⟨[], [], .error failure, files, rfl,
                .at_once found rest, by simpa, by simp⟩
          | ok extension =>
              obtain ⟨processed, reserved, outcome, after, starts, reserves,
                later, assets⟩ :=
                inductionHypothesis (lists.withAsset known found)
              rw [List.append_assoc, List.singleton_append] at later
              rw [lists.assets_withAsset known, List.append_assoc,
                List.singleton_append] at assets
              rw [start_reserve found, Program.andThen]
              dsimp only
              rw [JobProgram.start_bind, starts, lists.assetPath_eq]
              refine ⟨reference :: processed, _, outcome, after, ?_,
                reserves.cons reference, later, assets⟩
              cases outcome <;> rfl

end AssetReference

end Montage
