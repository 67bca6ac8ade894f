import Montage.Disk.Path

namespace Montage

/-!
# Paths and their texts

Every path that is read from a text is canonical: it has no parts that a text
would not keep. A canonical path is read back from its own text, and to go on
by a plain name adds this name as the last part.
-/

namespace Path

/-- A part that is kept when a text is read. -/
structure IsPart (part : String) : Prop where
  notEmpty : part.toList ≠ []
  notDot : part.toList ≠ ['.']
  noSlash : '/' ∉ part.toList

/-- A path that a text can denote. -/
structure Canonical (path : Path) : Prop where
  slashes : path.slashes ≤ 2
  parts : ∀ part ∈ path.parts, IsPart part

theorem isPart_of_mem_partsOf
    {text : List Char}
    {part : String}
    (member : part ∈ partsOf text) :
    IsPart part := by
  obtain ⟨piece, isKept, isPart⟩ := List.mem_map.mp member
  obtain ⟨isPiece, kept⟩ := List.mem_filter.mp isKept
  subst isPart
  simp only [Bool.and_eq_true, Bool.not_eq_true', List.isEmpty_eq_false_iff,
    ne_eq, decide_eq_true_eq] at kept
  exact {
    notEmpty := by simpa using kept.1
    notDot := by simpa using kept.2
    noSlash := by simpa using not_mem_of_mem_splitAtChar isPiece }

theorem ofText_canonical (text : String) : (ofText text).Canonical where
  slashes := by
    unfold ofText leadingSlashes
    split <;> simp
  parts := fun _ member => isPart_of_mem_partsOf member

theorem Canonical.join
    {path : Path}
    (canonical : path.Canonical)
    (text : String) :
    (path.join text).Canonical := by
  have other := ofText_canonical text
  unfold Path.join
  by_cases isRelative : (ofText text).slashes = 0
  · simp only [isRelative, ↓reduceIte]
    refine ⟨canonical.slashes, ?_⟩
    intro part member
    rcases List.mem_append.mp member with inPath | inText
    · exact canonical.parts part inPath
    · exact other.parts part inText
  · simpa only [isRelative, ↓reduceIte] using other

/-- The parts of a canonical path are kept when its text is read. -/
theorem partsOf_joinWith
    {parts : List String}
    (arePart : ∀ part ∈ parts, IsPart part)
    (count : Nat) :
    partsOf
        (List.replicate count '/' ++
          joinWith ['/'] (parts.map String.toList)) =
      parts := by
  have dropped :
      ∀ pieces : List (List Char),
        (List.replicate count [] ++ pieces).filter
            (fun part => !part.isEmpty && part ≠ ['.']) =
          pieces.filter (fun part => !part.isEmpty && part ≠ ['.']) := by
    intro pieces
    simp [List.filter_append]
  unfold partsOf
  rw [splitAtChar_replicate_append, dropped]
  cases parts with
  | nil => rfl
  | cons first rest =>
      rw [splitAtChar_joinWith (by simp)]
      · have allKept :
            ((first :: rest).map String.toList).filter
                (fun part => !part.isEmpty && part ≠ ['.']) =
              (first :: rest).map String.toList := by
          apply List.filter_eq_self.mpr
          intro piece member
          obtain ⟨part, isIn, isPiece⟩ := List.mem_map.mp member
          subst isPiece
          have isPart := arePart part isIn
          simp [isPart.notEmpty, isPart.notDot]
        rw [allKept]
        simp
      · intro piece member
        obtain ⟨part, isIn, isPiece⟩ := List.mem_map.mp member
        subst isPiece
        exact (arePart part isIn).noSlash

/-- The slashes of a canonical path are those before its first part. -/
theorem leadingSlashes_joinWith
    {parts : List String}
    (arePart : ∀ part ∈ parts, IsPart part)
    {count : Nat}
    (bounded : count ≤ 2) :
    leadingSlashes
        (List.replicate count '/' ++
          joinWith ['/'] (parts.map String.toList)) =
      count := by
  have taken :
      (joinWith ['/'] (parts.map String.toList)).takeWhile (· == '/') = [] := by
    cases parts with
    | nil => rfl
    | cons first rest =>
        have isPart := arePart first List.mem_cons_self
        cases characters : first.toList with
        | nil => exact (isPart.notEmpty characters).elim
        | cons character others =>
            have notSlash : character ≠ '/' := by
              intro same
              apply isPart.noSlash
              rw [characters, same]
              exact List.mem_cons_self
            cases rest with
            | nil => simp [joinWith, characters, notSlash]
            | cons second remaining =>
                simp [joinWith, characters, notSlash]
  unfold leadingSlashes
  rw [List.takeWhile_append_of_pos (by simp), taken]
  simp only [List.append_nil, List.length_replicate]
  have cases : count = 0 ∨ count = 1 ∨ count = 2 := by
    omega
  rcases cases with rfl | rfl | rfl <;> rfl

/-- A canonical path is read back from its text. -/
theorem ofText_toText
    {path : Path}
    (canonical : path.Canonical) :
    ofText path.toText = path := by
  rcases path with ⟨slashes, parts⟩
  by_cases isEmpty : slashes = 0 ∧ parts.isEmpty = true
  · obtain ⟨noSlashes, noParts⟩ := isEmpty
    rw [List.isEmpty_iff] at noParts
    subst noSlashes
    subst noParts
    rfl
  · have text :
        (toText { slashes, parts }).toList =
          List.replicate slashes '/' ++
            joinWith ['/'] (parts.map String.toList) := by
      simp only [toText, isEmpty, ↓reduceIte, String.toList_ofList]
    unfold ofText
    rw [text, partsOf_joinWith canonical.parts,
      leadingSlashes_joinWith canonical.parts canonical.slashes]

/-- A plain name is read as its only part. -/
theorem ofText_of_isPart
    {name : String}
    (isPart : IsPart name) :
    ofText name = { slashes := 0, parts := [name] } := by
  have canonical : ({ slashes := 0, parts := [name] } : Path).Canonical := by
    refine ⟨by simp, ?_⟩
    intro part member
    rw [List.mem_singleton.mp member]
    exact isPart
  have text : ({ slashes := 0, parts := [name] } : Path).toText = name := by
    simp [toText, joinWith]
  have read := ofText_toText canonical
  rwa [text] at read

/-- To go on by a plain name adds it as the last part. -/
theorem join_of_isPart
    (path : Path)
    {name : String}
    (isPart : IsPart name) :
    path.join name = { path with parts := path.parts ++ [name] } := by
  simp [Path.join, ofText_of_isPart isPart]

end Path

/-! ## Sizes of texts -/

theorem size_ofList_le_of_prefix
    {first second : List Char}
    (isPrefix : first <+: second) :
    (String.ofList first).utf8ByteSize ≤
      (String.ofList second).utf8ByteSize := by
  obtain ⟨rest, rfl⟩ := isPrefix
  rw [String.ofList_append, String.utf8ByteSize_append]
  exact Nat.le_add_right _ _

/-- More pieces continue the text of the first ones. -/
theorem joinWith_prefix
    (separator : List Char)
    {before : List (List Char)}
    (isSome : before ≠ [])
    (after : List (List Char)) :
    joinWith separator before <+: joinWith separator (before ++ after) := by
  induction before with
  | nil => exact (isSome rfl).elim
  | cons piece others inductionHypothesis =>
      cases others with
      | nil =>
          cases after with
          | nil => exact List.prefix_rfl
          | cons next rest => simp [joinWith]
      | cons other remaining =>
          have later := inductionHypothesis (by simp)
          simp only [List.cons_append, joinWith, List.append_assoc] at later ⊢
          exact (List.prefix_append_right_inj _).mpr
            ((List.prefix_append_right_inj _).mpr later)

/-- A path that goes on by names has no shorter text. -/
theorem Path.size_toText_le
    (slashes : Nat)
    (before : List String)
    {after : List String}
    (areNames : ∀ name ∈ after, name ≠ "") :
    (toText { slashes, parts := before }).utf8ByteSize ≤
      (toText { slashes, parts := before ++ after }).utf8ByteSize := by
  by_cases noNames : after = []
  · simp [noNames]
  have longText :
      toText { slashes, parts := before ++ after } =
        String.ofList
          (List.replicate slashes '/' ++
            joinWith ['/'] ((before ++ after).map String.toList)) := by
    simp [toText, noNames]
  rw [longText]
  by_cases isDot : slashes = 0 ∧ before = []
  · -- The text of the empty path is a dot, which is not a part of the other.
    obtain ⟨rfl, rfl⟩ := isDot
    obtain ⟨name, rest, rfl⟩ := List.exists_cons_of_ne_nil noNames
    have isPrefix :
        name.toList <+: joinWith ['/'] ((name :: rest).map String.toList) :=
      joinWith_prefix ['/'] (List.cons_ne_nil name.toList [])
        (rest.map String.toList)
    have longer := size_ofList_le_of_prefix isPrefix
    rw [String.ofList_toList] at longer
    have someSize : name.utf8ByteSize ≠ 0 := by
      simpa [String.utf8ByteSize_eq_zero_iff] using
        areNames name List.mem_cons_self
    have dot : (toText { slashes := 0, parts := [] }).utf8ByteSize = 1 := by
      decide
    simp only [List.nil_append, List.replicate_zero]
    omega
  · have shortText :
        toText { slashes, parts := before } =
          String.ofList
            (List.replicate slashes '/' ++
              joinWith ['/'] (before.map String.toList)) := by
      unfold toText
      exact if_neg (by simpa using isDot)
    rw [shortText]
    apply size_ofList_le_of_prefix
    rw [List.prefix_append_right_inj, List.map_append]
    by_cases isRoot : before = []
    · rw [isRoot]
      exact List.nil_prefix
    · exact joinWith_prefix ['/'] (by simpa using isRoot) _

end Montage
