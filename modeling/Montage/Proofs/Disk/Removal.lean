import Mathlib.Data.List.Basic
import Montage.Proofs.Disk.Places

namespace Montage

/-!
# Removal of files

Files of one directory are removed one by one. A removal takes away the file of
its own name and no other. A name that no file can have stops it: the files
before it are gone, and those after it stay.
-/

namespace Disk

/-! ## The removal of one file -/

/-- A removal that succeeds takes away the file of its name, if there is one. -/
theorem fileAt?_unlink
    {disk cleaned : Disk}
    {directory : Path}
    {removed name : String}
    (removedPlain : removed ≠ "..")
    (plain : name ≠ "..")
    (unlinked : disk.unlink (directory.child removed) = .ok cleaned) :
    cleaned.fileAt? (directory.child name) =
      if name = removed then none else disk.fileAt? (directory.child name) := by
  obtain ⟨_, isRemoved⟩ := about_eq_ok_iff.mp unlinked
  cases found : disk.status (directory.child removed) with
  | error cause =>
      rw [found] at isRemoved
      cases cause <;> cases isRemoved
      split
      · rename_i same
        subst same
        simp [fileAt?, found]
      · rfl
  | ok standing =>
      obtain ⟨place, entry⟩ := standing
      rw [found] at isRemoved
      cases entry with
      | directory => cases isRemoved
      | file content =>
          cases isRemoved
          obtain ⟨located, stands⟩ := status_eq_ok_iff.mp found
          have noDirectory : disk.entry? place ≠ some .directory := by
            simp [stands]
          have changed := remove_changedAt noDirectory
          split
          · rename_i same
            subst same
            rw [Option.eq_none_iff_forall_ne_some]
            intro other isOther
            obtain ⟨_, stays⟩ :=
              (changed.fileAt?_self located other).mp isOther
            rw [disk.entry?_remove_self (ne_nil_of_not_directory noDirectory)]
              at stays
            cases stays
          · rename_i different
            exact changed.fileAt?_of_ne removedPlain plain different located

/-- A removal that fails is refused, or finds no file. -/
theorem unlink_error
    {disk : Disk}
    {path : Path}
    {failure : Failure}
    (unlinked : disk.unlink path = .error failure) :
    (failure.failureClass = .system ↔ path.isUsable = true) ∧
      disk.fileAt? path = none := by
  cases usable : path.isUsable with
  | false =>
      obtain ⟨refusal, refused, notSystem⟩ :=
        Path.refusal?_of_not_isUsable usable
      simp only [unlink, about, refused, Except.error.injEq] at unlinked
      subst unlinked
      exact ⟨by simp [notSystem], disk.fileAt?_of_not_isUsable usable⟩
  | true =>
      unfold unlink about at unlinked
      rw [Path.refusal?_of_isUsable usable] at unlinked
      cases found : disk.status path with
      | error cause =>
          rw [found] at unlinked
          refine ⟨?_, by simp [fileAt?, found]⟩
          cases cause <;> cases unlinked <;> simp [Failure.failureClass]
      | ok standing =>
          obtain ⟨place, entry⟩ := standing
          rw [found] at unlinked
          cases entry with
          | file content => cases unlinked
          | directory =>
              cases unlinked
              exact ⟨by simp [Failure.failureClass], by simp [fileAt?, found]⟩

/-! ## The removal of several files -/

/-- The files up to the first unusable name are gone, and all others stay. -/
theorem fileAt?_cleanup
    {directory : Path}
    {paths : List Path}
    (areIn : ∀ path ∈ paths, path.IsIn directory)
    {path : Path}
    (isIn : path.IsIn directory)
    (disk : Disk) :
    (disk.cleanup paths).2.fileAt? path =
      if path ∈ paths.takeWhile Path.isUsable then none
      else disk.fileAt? path := by
  -- Each removal leaves another disk, on which the rest is removed.
  induction paths generalizing disk with
  | nil => simp [cleanup]
  | cons first rest inductionHypothesis =>
      have restIn : ∀ other ∈ rest, other.IsIn directory :=
        fun other member => areIn other (List.mem_cons_of_mem first member)
      obtain ⟨removed, removedPlain, isRemoved⟩ :=
        areIn first List.mem_cons_self
      obtain ⟨name, plain, isName⟩ := isIn
      have sameIff : path = first ↔ name = removed := by
        rw [isName, isRemoved]
        exact ⟨Path.child_injective, fun same => same ▸ rfl⟩
      cases unlinked : disk.unlink first with
      | ok cleaned =>
          have usable := (about_eq_ok_iff.mp unlinked).1
          rw [isRemoved] at unlinked
          have gone := fileAt?_unlink removedPlain plain unlinked
          rw [← isRemoved] at unlinked
          rw [← isName] at gone
          simp only [cleanup, unlinked, inductionHypothesis restIn cleaned,
            List.takeWhile_cons, usable, ↓reduceIte, List.mem_cons, sameIff,
            gone]
          by_cases same : name = removed <;> simp [same]
      | error failure =>
          obtain ⟨isSystem, absent⟩ := unlink_error unlinked
          cases usable : first.isUsable with
          | true =>
              simp only [cleanup, unlinked, isSystem.mpr usable, ↓reduceIte,
                inductionHypothesis restIn disk, List.takeWhile_cons, usable,
                List.mem_cons]
              by_cases same : path = first
              · simp [same, absent]
              · simp [same]
          | false =>
              have stops : failure.failureClass ≠ .system := by
                intro system
                rw [isSystem.mp system] at usable
                cases usable
              simp [cleanup, unlinked, stops, usable]

/-- A removal fails exactly at names that no file can have. -/
theorem cleanup_eq_ok_iff
    (disk : Disk)
    (paths : List Path) :
    (disk.cleanup paths).1 = .ok () ↔
      ∀ path ∈ paths, path.isUsable = true := by
  induction paths generalizing disk with
  | nil => simp [cleanup]
  | cons first rest inductionHypothesis =>
      cases unlinked : disk.unlink first with
      | ok cleaned =>
          simp [cleanup, unlinked, inductionHypothesis,
            (about_eq_ok_iff.mp unlinked).1]
      | error failure =>
          obtain ⟨isSystem, _⟩ := unlink_error unlinked
          cases usable : first.isUsable with
          | true =>
              simp [cleanup, unlinked, isSystem.mpr usable,
                inductionHypothesis, usable]
          | false =>
              have stops : failure.failureClass ≠ .system := by
                intro system
                rw [isSystem.mp system] at usable
                cases usable
              simp [cleanup, unlinked, stops, usable]

/-! ## The removal of all that is in a directory -/

/-- Entries that are kept by their places are found as before. -/
theorem lookup_filter
    (keeps : Place → Bool)
    (place : Place)
    (entries : List (Place × Entry)) :
    (entries.filter fun item => keeps item.1).lookup place =
      if keeps place then entries.lookup place else none := by
  induction entries with
  | nil => simp
  | cons item rest inductionHypothesis =>
      obtain ⟨key, entry⟩ := item
      by_cases same : place = key
      · subst same
        cases kept : keeps place with
        | true => simp [kept]
        | false => simp [kept, inductionHypothesis]
      · have notKey : (place == key) = false := by simpa using same
        cases kept : keeps key with
        | true => simp [kept, notKey, List.lookup_cons, inductionHypothesis]
        | false => simp [kept, notKey, List.lookup_cons, inductionHypothesis]

/-- What stands after a tree is removed stood before, and not in the tree. -/
theorem entry?_removeTree
    {disk : Disk}
    {root place : Place}
    {entry : Entry}
    (below : place ≠ [])
    (stands : Disk.entry? (disk.removeTree root) place = some entry) :
    disk.entry? place = some entry ∧ root.isPrefixOf place = false := by
  have notRoot : place.isEmpty = false := by simpa using below
  unfold entry? removeTree at *
  simp only [notRoot, Bool.false_eq_true, ↓reduceIte] at stands ⊢
  rw [lookup_filter (fun other => !root.isPrefixOf other)] at stands
  split at stands
  · rename_i kept
    exact ⟨stands, by simpa only [Bool.not_eq_true'] using kept⟩
  · cases stands

section Trees

variable {root : Place} {names : List String}

/-- What stands after trees are removed stood before. -/
theorem entry?_of_removeTrees
    {disk : Disk}
    {place : Place}
    {entry : Entry}
    (stands :
      Disk.entry?
        (names.foldl
          (fun current name => current.removeTree (root ++ [name])) disk)
        place = some entry) :
    disk.entry? place = some entry := by
  induction names generalizing disk with
  | nil => exact stands
  | cons name rest inductionHypothesis =>
      have later := inductionHypothesis stands
      by_cases isRoot : place = []
      · subst isRoot
        exact later
      · exact (entry?_removeTree isRoot later).1

/-- Nothing stands at the root of a tree that was removed among others. -/
theorem entry?_removeTrees_of_mem
    {disk : Disk}
    {name : String}
    (member : name ∈ names) :
    Disk.entry?
      (names.foldl
        (fun current name => current.removeTree (root ++ [name])) disk)
      (root ++ [name]) = none := by
  induction names generalizing disk with
  | nil => cases member
  | cons first rest inductionHypothesis =>
      rcases List.mem_cons.mp member with rfl | isLater
      · rw [Option.eq_none_iff_forall_ne_some]
        intro entry stands
        have afterFirst :
            Disk.entry? (disk.removeTree (root ++ [name])) (root ++ [name]) =
              some entry :=
          entry?_of_removeTrees stands
        have outside := (entry?_removeTree (by simp) afterFirst).2
        rw [List.isPrefixOf_iff_prefix.mpr List.prefix_rfl] at outside
        cases outside
      · exact inductionHypothesis isLater

end Trees

/-- What was found in a directory is gone when it was cleared, but for the names
that are kept. -/
theorem fileAt?_clear
    {disk clean : Disk}
    {directory : Path}
    {kept : List String}
    {count : Nat}
    (cleared : disk.clear directory kept = (.ok count, clean))
    {name : String}
    (plain : name ≠ "..")
    (notKept : name ∉ kept) :
    clean.fileAt? (directory.child name) = none := by
  unfold clear at cleared
  split at cleared
  · cases cleared
  rename_i made _
  split at cleared
  · cases cleared
  rename_i place located
  obtain ⟨_, rfl⟩ := Prod.mk.inj cleared
  rw [Option.eq_none_iff_forall_ne_some]
  intro content stands
  obtain ⟨_, reached, isReached, isFile⟩ := fileAt?_eq_some_iff.mp stands
  obtain ⟨_, _, above, entered, rfl⟩ :=
    (locate_child_eq_ok_iff _ directory plain reached).mp isReached
  have stood := entry?_of_removeTrees isFile
  have enteredBefore :=
    foldlM_enter_of_enter
      (enter_of_stays fun _ _ => entry?_of_removeTrees) entered
  have samePlace : place = above :=
    (locate_eq_plainParts located).trans (foldlM_enter_eq enteredBefore).symm
  subst samePlace
  have isChild : name ∈ made.children place := by
    have found :
        made.entries.lookup (place ++ [name]) = some (.file content) := by
      simpa [ entry?] using stood
    obtain ⟨_, _, shape, _⟩ := List.lookup_eq_some_iff.mp found
    have isEntry : (place ++ [name], Entry.file content) ∈ made.entries := by
      rw [shape]
      exact List.mem_append_right _ List.mem_cons_self
    exact List.mem_filterMap.mpr ⟨_, isEntry, by simp⟩
  have isRemoved :
      name ∈ (made.children place).filter fun name => !kept.contains name :=
    List.mem_filter.mpr ⟨isChild, by simpa using notKept⟩
  rw [entry?_removeTrees_of_mem isRemoved] at isFile
  cases isFile

end Disk

end Montage
