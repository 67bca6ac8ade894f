import Montage.Proofs.Disk.Path
import Montage.Proofs.Disk.Places
import Montage.Proofs.Storage.Key

namespace Montage

/-!
# Files of keys

The path of a plain key is that of the root, continued by the segments of the
key. No segment goes up or stays, so the file is below the root, and its place
tells the key.
-/

/-! ## Segments -/

/-- The segments of a key. -/
def keySegments (key : String) : List String :=
  (splitAtChar '/' key.toList).map String.ofList

/-- A segment goes down by one name. -/
structure IsKeySegment (segment : String) : Prop where
  isPart : Path.IsPart segment
  notUp : segment ≠ ".."
  noBackslash : '\\' ∉ segment.toList

theorem keySegments_ne_nil (key : String) : keySegments key ≠ [] := by
  simp [keySegments, splitAtChar_ne_nil]

/-- A key is known by its segments. -/
theorem keySegments_injective
    {first second : String}
    (same : keySegments first = keySegments second) :
    first = second := by
  have pieces :
      splitAtChar '/' first.toList = splitAtChar '/' second.toList :=
    List.map_injective_iff.mpr (fun _ _ => String.ofList_injective) same
  have texts := congrArg (joinWith ['/']) pieces
  rw [joinWith_splitAtChar, joinWith_splitAtChar] at texts
  exact String.toList_injective texts

namespace IsPlainKey

variable {key : String}

theorem isKeySegment
    (plain : IsPlainKey key)
    {segment : String}
    (member : segment ∈ keySegments key) :
    IsKeySegment segment := by
  obtain ⟨piece, isPiece, rfl⟩ := List.mem_map.mp member
  have isPlain := plain piece isPiece
  simp only [isPlainSegment, Bool.and_eq_true, Bool.not_eq_eq_eq_not,
    Bool.not_true, List.isEmpty_eq_false_iff, ne_eq, decide_not,
    decide_eq_false_iff_not, List.contains_eq_mem] at isPlain
  obtain ⟨⟨⟨notEmpty, notDot⟩, notDots⟩, noBackslash⟩ := isPlain
  exact {
    isPart := {
      notEmpty := by simpa using notEmpty
      notDot := by simpa using notDot
      noSlash := by simpa using not_mem_of_mem_splitAtChar isPiece }
    notUp := by
      intro isUp
      have pieces := congrArg String.toList isUp
      rw [String.toList_ofList] at pieces
      exact notDots pieces
    noBackslash := by simpa using noBackslash }

/-- A plain key is a relative path of its segments. -/
theorem ofText_eq
    (plain : IsPlainKey key) :
    Path.ofText key = { slashes := 0, parts := keySegments key } := by
  have canonical :
      ({ slashes := 0, parts := keySegments key } : Path).Canonical :=
    ⟨by simp, fun _ member => (plain.isKeySegment member).isPart⟩
  have written :
      ({ slashes := 0, parts := keySegments key } : Path).toText = key := by
    have someParts := keySegments_ne_nil key
    have pieces :
        (keySegments key).map String.toList = splitAtChar '/' key.toList := by
      simp [keySegments, Function.comp_def]
    simp [Path.toText, someParts, pieces, joinWith_splitAtChar]
  have readBack := Path.ofText_toText canonical
  rwa [written] at readBack

end IsPlainKey

/-- The key of an address is plain. -/
theorem isPlainKey_of_keyOfAddress?
    {address base key : String}
    (found : keyOfAddress? address base = some key) :
    IsPlainKey key := by
  obtain ⟨rest, _, isKey⟩ := Option.bind_eq_some_iff.mp found
  dsimp only at isKey
  split at isKey
  · rename_i arePlain
    cases isKey
    intro segment member
    rw [String.toList_ofList] at member
    exact List.all_eq_true.mp arePlain segment member
  · cases isKey

/-! ## Paths -/

namespace LocalStorage

variable {storage : LocalStorage} {key : String}

/-- The file of a plain key is reached from the root by the key's segments. -/
theorem file_eq
    (plain : IsPlainKey key) :
    storage.file key =
      { storage.root with parts := storage.root.parts ++ keySegments key } := by
  simp [file, Path.join, plain.ofText_eq]

/-- Different keys have different paths. -/
theorem file_injective
    {other : String}
    (plain : IsPlainKey key)
    (otherPlain : IsPlainKey other)
    (same : storage.file key = storage.file other) :
    key = other := by
  rw [file_eq plain, file_eq otherPlain] at same
  exact keySegments_injective <|
    List.append_cancel_left (congrArg Path.parts same)

/-- A key that is not refused stands for the file of its path. -/
theorem file_of_prepare
    {disk made : Disk}
    {file : Path}
    (prepared : storage.prepare disk key = (.ok file, made)) :
    file = storage.file key := by
  unfold prepare at prepared
  grind

end LocalStorage

/-! ## Places -/

namespace LocalStorage

variable {storage : LocalStorage} {key : String}

/-- A plain key goes down from the root. -/
theorem plainParts_file
    (plain : IsPlainKey key) :
    (storage.file key).plainParts =
      storage.root.plainParts ++ keySegments key := by
  rw [file_eq plain, Path.plainParts_eq, List.foldl_append,
    Place.foldl_next fun segment member => (plain.isKeySegment member).notUp]
  rfl

/-- The file of a plain key stands below the place of the root, where the key
spells. -/
theorem place_of_key
    (plain : IsPlainKey key)
    {disk : Disk}
    {place : Place}
    (located : disk.locate (storage.file key) = .ok place) :
    ∃ root,
      storage.root.parts.foldlM disk.enter [] = .ok root ∧
      place = root ++ keySegments key := by
  -- The last segment is looked up, the others are entered.
  obtain ⟨above, last, shape⟩ :
      ∃ above last, keySegments key = above ++ [last] :=
    ⟨_, _, (List.dropLast_append_getLast (keySegments_ne_nil key)).symm⟩
  have parts :
      (storage.file key).parts = (storage.root.parts ++ above) ++ [last] := by
    rw [file_eq plain, shape, List.append_assoc]
  obtain ⟨_, entered, _⟩ := Disk.exists_entered_of_locate parts located
  rw [List.foldlM_append] at entered
  cases rooted : storage.root.parts.foldlM disk.enter [] with
  | error cause =>
      rw [rooted] at entered
      cases entered
  | ok root =>
      refine ⟨root, rfl, ?_⟩
      rw [Disk.locate_eq_plainParts located, plainParts_file plain,
        Disk.foldlM_enter_eq rooted]
      rfl

/-- On no disk do different keys lead to one place. -/
theorem place_injective
    {other : String}
    (plain : IsPlainKey key)
    (otherPlain : IsPlainKey other)
    {disk : Disk}
    {place : Place}
    (located : disk.locate (storage.file key) = .ok place)
    (otherLocated : disk.locate (storage.file other) = .ok place) :
    key = other := by
  obtain ⟨root, rooted, isPlace⟩ := place_of_key plain located
  obtain ⟨otherRoot, otherRooted, isOtherPlace⟩ :=
    place_of_key otherPlain otherLocated
  have sameRoot : root = otherRoot :=
    Except.ok.inj (rooted.symm.trans otherRooted)
  rw [isPlace, sameRoot] at isOtherPlace
  exact keySegments_injective (List.append_cancel_left isOtherPlace)

end LocalStorage

end Montage
