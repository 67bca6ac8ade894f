import Montage.Address.Letter
import Montage.Address.Punycode
import Montage.Text.Split

namespace Montage

/-!
# International host names

A host name of any script is a sequence of labels. Each label has to be well
formed, and a label beyond ASCII is written in plain letters behind a mark.
-/

/-! ## Joined letters

In some scripts neighbouring letters are joined. A mark on a letter changes
nothing about that, and a sign between letters can keep them apart.
-/

/-- First and last code points of letters that join the letter after them. -/
def joiningNextRuns : Array (Nat × Nat) := #[
    (0x620, 0x620), (0x626, 0x626), (0x628, 0x628), (0x62A, 0x62E),
    (0x633, 0x63F), (0x641, 0x647), (0x649, 0x64A), (0x66E, 0x66F),
    (0x679, 0x687), (0x69A, 0x6BF), (0x6C1, 0x6C2), (0x6CC, 0x6CC),
    (0x6CE, 0x6CE), (0x6D0, 0x6D1), (0x6FA, 0x6FC), (0x6FF, 0x6FF),
    (0x712, 0x714), (0x71A, 0x71D), (0x71F, 0x727), (0x729, 0x729),
    (0x72B, 0x72B), (0x72D, 0x72E), (0x74E, 0x758), (0x75C, 0x76A),
    (0x76D, 0x770), (0x772, 0x772), (0x775, 0x777), (0x77A, 0x77F),
    (0x7CA, 0x7EA), (0x841, 0x845), (0x848, 0x848), (0x84A, 0x853),
    (0x855, 0x855), (0x860, 0x860), (0x862, 0x865), (0x868, 0x868),
    (0x886, 0x886), (0x889, 0x88D), (0x8A0, 0x8A9), (0x8AF, 0x8B0),
    (0x8B3, 0x8B8), (0x8BA, 0x8C8), (0x1820, 0x1878), (0x1887, 0x18A8),
    (0x18AA, 0x18AA), (0xA840, 0xA872), (0x10AC0, 0x10AC4), (0x10ACD, 0x10ACD),
    (0x10AD3, 0x10ADC), (0x10ADE, 0x10AE0), (0x10B80, 0x10B80),
    (0x10B82, 0x10B82), (0x10B86, 0x10B88), (0x10B8A, 0x10B8B),
    (0x10B8D, 0x10B8D), (0x10B90, 0x10B90), (0x10D00, 0x10D21),
    (0x10D23, 0x10D23), (0x10F30, 0x10F32), (0x10F34, 0x10F44),
    (0x10F70, 0x10F73), (0x10F76, 0x10F81), (0x10FB0, 0x10FB0),
    (0x10FB2, 0x10FB3), (0x10FB8, 0x10FB8), (0x10FBB, 0x10FBC),
    (0x10FBE, 0x10FBF), (0x10FC1, 0x10FC1), (0x10FC4, 0x10FC4),
    (0x1E922, 0x1E943)]

/-- First and last code points of letters that join the letter before them. -/
def joiningPreviousRuns : Array (Nat × Nat) := #[
    (0x620, 0x620), (0x622, 0x63F), (0x641, 0x64A), (0x66E, 0x66F),
    (0x671, 0x673), (0x679, 0x6D3), (0x6D5, 0x6D5), (0x6EE, 0x6EF),
    (0x6FA, 0x6FC), (0x6FF, 0x6FF), (0x710, 0x710), (0x712, 0x72F),
    (0x74D, 0x77F), (0x7CA, 0x7EA), (0x840, 0x858), (0x860, 0x860),
    (0x862, 0x865), (0x867, 0x86A), (0x870, 0x882), (0x886, 0x886),
    (0x889, 0x88E), (0x8A0, 0x8AC), (0x8AE, 0x8C8), (0x1820, 0x1878),
    (0x1887, 0x18A8), (0x18AA, 0x18AA), (0xA840, 0xA871), (0x10AC0, 0x10AC5),
    (0x10AC7, 0x10AC7), (0x10AC9, 0x10ACA), (0x10ACE, 0x10AD6),
    (0x10AD8, 0x10AE1), (0x10AE4, 0x10AE4), (0x10B80, 0x10B91),
    (0x10D01, 0x10D23), (0x10F30, 0x10F44), (0x10F70, 0x10F81),
    (0x10FB0, 0x10FB0), (0x10FB2, 0x10FB6), (0x10FB8, 0x10FBF),
    (0x10FC1, 0x10FC4), (0x1E922, 0x1E943)]

/-- Whether letters on both sides of a place would be joined there. -/
def joinsBetween (before after : List Char) : Bool :=
  let previous := (before.reverse.dropWhile isMark).head?
  let next := (after.dropWhile isMark).head?
  previous.any (fun letter => inRuns joiningNextRuns letter.toNat) &&
    next.any fun letter => inRuns joiningPreviousRuns letter.toNat

/-! ## Labels -/

/-- Starts a label that is written in plain letters. -/
def plainMark : List Char :=
  "xn--".toList

/-- The greatest length of a written label. -/
def labelLimit : Nat := 63

/-- The greatest length of a label before it is written. -/
def nameLimit : Nat := 254

/-- Whether a character separates labels. -/
def isLabelDot (character : Char) : Bool :=
  character == '.' || character == '\u3002' || character == '\uFF0E' ||
    character == '\uFF61'

/-- Whether hyphens stand where they may. -/
def hasPlainHyphens (label : List Char) : Bool :=
  (label.drop 2).take 2 != ['-', '-'] && label.head? != some '-' &&
    label.getLast? != some '-'

/-- Whether neighbours are never two parts of one character. -/
def isComposed : List Char → Bool
  | first :: second :: rest =>
      !compose first second && isComposed (second :: rest)
  | _ => true

/-- Whether a character is one of the first or the second Arabic digits. -/
def isArabicDigit
    (start : Nat)
    (character : Char) :
    Bool :=
  start ≤ character.toNat && character.toNat ≤ start + 9

/-- Whether a text ends with a mark that lets the next letter join it. -/
def followsJoinable (before : List Char) : Bool :=
  before.getLast?.any fun previous => inRuns joinableRuns previous.toNat

/-- Whether the neighbours of a character allow it. -/
def isAllowedBetween
    (label before after : List Char)
    (character : Char) :
    Bool :=
  let code := character.toNat
  if code = 0xB7 then
    before.getLast? == some 'l' && after.head? == some 'l'
  else if code = 0x375 then
    after.head?.any fun next => inRuns greekRuns next.toNat
  else if code = 0x5F3 ∨ code = 0x5F4 then
    before.getLast?.any fun previous =>
      0x591 ≤ previous.toNat && previous.toNat ≤ 0x5F4
  else if code = 0x30FB then
    label.any fun other => inRuns eastAsianRuns other.toNat
  else if code = 0x200C then
    followsJoinable before || joinsBetween before after
  else if code = 0x200D then
    followsJoinable before
  else if isArabicDigit 0x660 character then
    !label.any (isArabicDigit 0x6F0)
  else if isArabicDigit 0x6F0 character then
    !label.any (isArabicDigit 0x660)
  else
    false

/-- Whether every character of a label is allowed, after those before it. -/
def allowsCharacters
    (label before : List Char) :
    List Char → Bool
  | [] => true
  | character :: rest =>
      (isNameCharacter character ||
          isAllowedBetween label before rest character) &&
        allowsCharacters label (before ++ [character]) rest

/-- Whether a character is a letter that runs from left to right. -/
def isRightward (character : Char) : Bool :=
  !isLeftward character && !isMark character && !isNeutral character &&
    !isArabicNumber character && !isPlainNumber character

/-- Whether a character may end a label from right to left. -/
def endsLeftward (character : Char) : Bool :=
  isLeftward character || isArabicNumber character || isPlainNumber character

/-- Whether a label that runs from right to left does so throughout. -/
def hasOneDirection (label : List Char) : Bool :=
  let turns := label.any fun character =>
    isLeftward character || isArabicNumber character
  !turns ||
    (label.head?.any isLeftward && !label.any isRightward &&
      !(label.any isPlainNumber && label.any isArabicNumber) &&
      ((label.reverse.dropWhile isMark).head?.any endsLeftward))

/-- Whether a label is well formed. -/
def isWellFormedLabel (label : List Char) : Bool :=
  !label.isEmpty && decide (label.length ≤ nameLimit) && isComposed label &&
    hasPlainHyphens label && !label.head?.any isMark &&
    allowsCharacters label [] label && hasOneDirection label

/-- Whether a label of ASCII characters is well formed. -/
def isPlainLabel (label : List Char) : Bool :=
  if plainMark.isPrefixOf label then
    let written := label.drop plainMark.length
    !written.isEmpty && written.getLast? != some '-' &&
      (Punycode.decode? written).any isWellFormedLabel
  else
    isWellFormedLabel label

/-- A label in plain letters, if it is well formed and not too long. -/
def writeLabel? (label : List Char) : Option (List Char) :=
  let isAscii := label.all Punycode.isPlain
  let written :=
    if isAscii then label else plainMark ++ Punycode.encode label
  let isWellFormed :=
    if isAscii then isPlainLabel label else isWellFormedLabel label
  if isWellFormed && decide (written.length ≤ labelLimit) then
    some written
  else
    none

/-- A host name in plain letters; a dot may end it. -/
def writeHostName? (name : List Char) : Option (List Char) :=
  let labels := splitAtChar '.' <|
    name.map fun character => if isLabelDot character then '.' else character
  let isEnded := labels.getLast? == some []
  let inner := if isEnded then labels.dropLast else labels
  match inner.mapM writeLabel? with
  | none => none
  | some written =>
      let whole := joinWith ['.'] (written ++ if isEnded then [[]] else [])
      let limit := if isEnded then nameLimit else nameLimit - 1
      if labels ≠ [[]] ∧ whole.length ≤ limit then some whole else none

end Montage
