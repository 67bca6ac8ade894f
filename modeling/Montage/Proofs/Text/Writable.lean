import Mathlib.Data.List.Forall2
import Mathlib.Data.List.TakeWhile
import Montage.Proofs.Number.Characters
import Montage.Text.Blank
import Montage.Text.Surrogate

namespace Montage

/-!
# Texts that can be written

A text can be written in bytes if no character of it stands for a lone
surrogate. The private characters that are given up for lone surrogates could be
written for themselves; nothing is said of texts that mean them. Characters of
numbers and blanks stand for no surrogate.
-/

/-- The private characters of one range stand for lone surrogates. -/
theorem isLoneSurrogate_iff
    {character : Char} :
    isLoneSurrogate character = true ↔
      0x10E000 ≤ character.toNat ∧ character.toNat ≤ 0x10E7FF := by
  unfold isLoneSurrogate numberOf opensSurrogates closesSurrogates
    surrogateDistance
  dsimp only
  split
  · rename_i isSurrogate
    simp only [Bool.or_eq_true, Bool.and_eq_true, decide_eq_true_eq]
      at isSurrogate
    simp only [ne_eq, decide_eq_true_eq]
    omega
  · rename_i notSurrogate
    simp only [Bool.or_eq_true, Bool.and_eq_true, decide_eq_true_eq]
      at notSurrogate
    simp only [ne_eq, not_true_eq_false, decide_false, Bool.false_eq_true,
      false_iff]
    omega

/-- Only private characters stand for lone surrogates. -/
theorem isLoneSurrogate_of_lt
    {character : Char}
    (isCommon : character.toNat < 0x10E000) :
    isLoneSurrogate character = false := by
  rw [Bool.eq_false_iff, ne_eq, isLoneSurrogate_iff]
  omega

theorem isLoneSurrogate_of_isBlank
    {character : Char}
    (blank : isBlank character = true) :
    isLoneSurrogate character = false := by
  apply isLoneSurrogate_of_lt
  simp only [isBlank, isSpace, Bool.or_eq_true, Bool.and_eq_true,
    decide_eq_true_eq, beq_iff_eq] at blank
  omega

/-- No character of a text stands for a lone surrogate, that is, none lies from
U+10E000 to U+10E7FF (`isLoneSurrogate_iff`). -/
def IsWritable (text : List Char) : Prop :=
  ∀ character ∈ text, isLoneSurrogate character = false

instance (text : List Char) : Decidable (IsWritable text) :=
  List.decidableBAll (isLoneSurrogate · = false) text

/-- Lone surrogates are found in a text that cannot be written. -/
theorem firstSurrogates?_eq_none_iff
    {text : List Char} :
    firstSurrogates? text = none ↔ IsWritable text := by
  have found :
      firstSurrogates? text = none ↔
        text.dropWhile (! isLoneSurrogate ·) = [] := by
    unfold firstSurrogates? surrogatesFrom?
    dsimp only
    split
    · rename_i isEmpty
      simpa using isEmpty
    · rename_i isEmpty
      simpa using isEmpty
  rw [found, List.dropWhile_eq_nil_iff]
  simp [IsWritable]

namespace IsWritable

variable {text other : List Char}

theorem append
    (first : IsWritable text)
    (second : IsWritable other) :
    IsWritable (text ++ other) :=
  List.forall_mem_append.mpr ⟨first, second⟩

theorem of_ascii
    (isAscii : ∀ character ∈ text, character.toNat < 128) :
    IsWritable text :=
  fun character member =>
    isLoneSurrogate_of_lt (Nat.lt_trans (isAscii character member) (by decide))

theorem of_isNumeric
    (numeric : IsNumeric text) :
    IsWritable text :=
  of_ascii numeric.isAscii

end IsWritable

/-- Texts with the same lone surrogates can be written or not alike. -/
theorem isWritable_congr
    {text other : List Char}
    (same :
      ∀ character, isLoneSurrogate character = true →
        (character ∈ text ↔ character ∈ other)) :
    IsWritable text ↔ IsWritable other := by
  simp only [IsWritable, ← Bool.not_eq_true]
  refine forall_congr' fun character => ?_
  constructor
  · intro absent member isLone
    exact absent ((same character isLone).mpr member) isLone
  · intro absent member isLone
    exact absent ((same character isLone).mp member) isLone

/-- Words are what is left of a text without its blanks. -/
theorem flatten_words
    (text : List Char) :
    (words text).flatten = text.filter (! isBlank ·) := by
  induction text using words.induct with
  | case1 => rfl
  | case2 character rest blank inductionHypothesis =>
      simp [words.eq_def (character :: rest), blank, inductionHypothesis]
  | case3 character notBlank => simp [words.eq_def [character], notBlank]
  | case4 character notBlank next rest blank inductionHypothesis =>
      simp [words.eq_def (character :: next :: rest), notBlank, blank,
        inductionHypothesis]
  | case5 character notBlank next rest notBlankNext noWords
      inductionHypothesis =>
      rw [noWords] at inductionHypothesis
      simp [notBlankNext] at inductionHypothesis
  | case6 character notBlank next rest notBlankNext word others shape
      inductionHypothesis =>
      have others :
          word ++ others.flatten = (next :: rest).filter (! isBlank ·) := by
        rw [← inductionHypothesis, shape, List.flatten_cons]
      simp [words.eq_def (character :: next :: rest), notBlank, notBlankNext,
        shape, others]

/-! ## Strings -/

/-- So is a literal, without its bytes being decoded. -/
theorem isWritable_ofList
    {characters : List Char}
    (writable : IsWritable characters) :
    IsWritable (String.ofList characters).toList := by
  rwa [String.toList_ofList]

theorem isWritable_showInteger
    (number : Int) :
    IsWritable (showInteger number).toList := by
  rw [showInteger, String.toList_ofList]
  exact .of_isNumeric (.integerText number)

theorem isWritable_append_iff
    {text other : String} :
    IsWritable (text ++ other).toList ↔
      IsWritable text.toList ∧ IsWritable other.toList := by
  rw [String.toList_append]
  exact List.forall_mem_append

theorem isWritable_join_iff
    {texts : List String} :
    IsWritable (String.join texts).toList ↔
      ∀ text ∈ texts, IsWritable text.toList := by
  rw [String.toList_join, IsWritable, List.forall_mem_flatMap]
  rfl

/-- Related items have a property each, or not, alike. -/
theorem forall_iff_of_forall₂
    {α β : Type}
    {first : α → Prop}
    {second : β → Prop}
    {items : List α}
    {others : List β}
    (related :
      List.Forall₂ (fun item other => second other ↔ first item) items
        others) :
    (∀ other ∈ others, second other) ↔ ∀ item ∈ items, first item := by
  induction related with
  | nil => simp
  | cons isRelated _ inductionHypothesis =>
      rw [List.forall_mem_cons, List.forall_mem_cons, isRelated,
        inductionHypothesis]

end Montage
