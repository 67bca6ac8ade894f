namespace Montage

/-!
# Blank characters

White space as it counts in subtitle text, numerals and identifiers, and the
narrower and wider classes that single formats use. All tables cover the whole
character set.
-/

/-- White space in the sense of the Unicode property `White_Space`. -/
def isSpace (character : Char) : Bool :=
  let code := character.toNat
  (9 ≤ code && code ≤ 13) || code == 0x20 || code == 0x85 || code == 0xA0 ||
    code == 0x1680 || (0x2000 ≤ code && code ≤ 0x200A) ||
    code == 0x2028 || code == 0x2029 || code == 0x202F ||
    code == 0x205F || code == 0x3000

/-- White space or one of the four information separators. -/
def isBlank (character : Char) : Bool :=
  isSpace character ||
    (0x1C ≤ character.toNat && character.toNat ≤ 0x1F)

/-- Characters that end a line. -/
def isLineBreak (character : Char) : Bool :=
  let code := character.toNat
  (10 ≤ code && code ≤ 13) || (0x1C ≤ code && code ≤ 0x1E) ||
    code == 0x85 || code == 0x2028 || code == 0x2029

/-- Drop characters of a class from both ends. -/
def trimWhere
    (dropped : Char → Bool)
    (text : List Char) :
    List Char :=
  ((text.dropWhile dropped).reverse.dropWhile dropped).reverse

/-- Drop blanks from both ends. -/
def trim (text : List Char) : List Char :=
  trimWhere isBlank text

/-- Drop blanks from both ends of a string. -/
def trimString (text : String) : String :=
  String.ofList (trim text.toList)

/-- An optional text that is not empty. -/
def nonempty? (text : Option String) : Option String :=
  text.filter (! ·.isEmpty)

/-- The runs of characters between blanks, none of them empty. -/
def words : List Char → List (List Char)
  | [] => []
  | character :: rest =>
      if isBlank character then
        words rest
      else
        match rest with
        | [] => [[character]]
        | next :: _ =>
            if isBlank next then
              [character] :: words rest
            else
              match words rest with
              | [] => [[character]]
              | word :: others => (character :: word) :: others

theorem trim_cons
    {character : Char}
    (blank : isBlank character = true)
    (text : List Char) :
    trim (character :: text) = trim text := by
  simp [trim, trimWhere, blank]

theorem trim_concat
    {character : Char}
    (blank : isBlank character = true)
    (text : List Char) :
    trim (text ++ [character]) = trim text := by
  unfold trim trimWhere
  rw [List.dropWhile_append]
  split
  · rename_i allBlank
    rw [List.isEmpty_iff.mp allBlank]
    simp [blank]
  · simp [blank]

theorem trim_of_blank
    {text : List Char}
    (blank : ∀ character ∈ text, isBlank character = true) :
    trim text = [] := by
  induction text with
  | nil => rfl
  | cons character rest inductionHypothesis =>
      rw [List.forall_mem_cons] at blank
      rw [trim_cons blank.1, inductionHypothesis blank.2]

/-- Nothing is dropped before a character that is not blank. -/
theorem dropWhile_isBlank_of_head?
    {text : List Char}
    (stops : ∀ character ∈ text.head?, isBlank character = false) :
    text.dropWhile isBlank = text := by
  cases text with
  | nil => rfl
  | cons character rest => simp [stops character rfl]

/-- Blanks are dropped up to a character that is not blank. -/
theorem dropWhile_isBlank_append
    {before rest : List Char}
    (blank : ∀ character ∈ before, isBlank character = true)
    (stops : ∀ character ∈ rest.head?, isBlank character = false) :
    (before ++ rest).dropWhile isBlank = rest := by
  rw [List.dropWhile_append_of_pos blank, dropWhile_isBlank_of_head? stops]

/-- A text without blanks at its ends is not trimmed. -/
theorem trim_of_ends
    {text : List Char}
    (first : ∀ character ∈ text.head?, isBlank character = false)
    (last : ∀ character ∈ text.getLast?, isBlank character = false) :
    trim text = text := by
  rw [← List.head?_reverse] at last
  rw [trim, trimWhere, dropWhile_isBlank_of_head? first,
    dropWhile_isBlank_of_head? last, List.reverse_reverse]

end Montage
