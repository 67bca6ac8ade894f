namespace Montage

/-!
# Labels in plain letters

A label of any script is written with plain letters and digits: its plain
characters come first, and after a hyphen digits tell which other characters
stand where. Digits are letters and numerals with the values below 36, and a
number ends with its first digit below a threshold, which adapts to the numbers
written so far.
-/

namespace Punycode

/-- The digit of a value below 36. -/
def digit (value : Nat) : Char :=
  if value < 26 then
    Char.ofNat (0x61 + value)
  else
    Char.ofNat (0x30 + value - 26)

/-- The value of a digit. -/
def digitValue? (character : Char) : Option Nat :=
  let code := character.toNat
  if 0x61 ≤ code ∧ code ≤ 0x7A then some (code - 0x61)
  else if 0x41 ≤ code ∧ code ≤ 0x5A then some (code - 0x41)
  else if 0x30 ≤ code ∧ code ≤ 0x39 then some (code - 0x30 + 26)
  else none

/-- Below this value a digit at a place ends a number. -/
def threshold
    (bias place : Nat) :
    Nat :=
  if place ≤ bias then 1
  else if bias + 26 ≤ place then 26
  else place - bias

theorem threshold_pos (bias place : Nat) : 0 < threshold bias place := by
  unfold threshold
  split
  · omega
  · split <;> omega

theorem threshold_le (bias place : Nat) : threshold bias place ≤ 26 := by
  unfold threshold
  split
  · omega
  · split <;> omega

/-- Shrink a distance until it is small, and count the steps in places. -/
def shrink
    (distance places : Nat) :
    Nat × Nat :=
  if 455 < distance then
    shrink (distance / 35) (places + 36)
  else
    (distance, places)
termination_by distance
decreasing_by exact Nat.div_lt_self (by omega) (by omega)

/-- The bias after a distance was written as one of so many characters. -/
def adapt
    (isFirst : Bool)
    (distance count : Nat) :
    Nat :=
  let damped := if isFirst then distance / 700 else distance / 2
  let shrunk := shrink (damped + damped / count) 0
  shrunk.2 + 36 * shrunk.1 / (shrunk.1 + 38)

/-- The digits of a number, from the given place on. -/
def writeNumber
    (bias place number : Nat) :
    List Char :=
  let least := threshold bias place
  if number < least then
    [digit number]
  else
    digit (least + (number - least) % (36 - least)) ::
      writeNumber bias (place + 36) ((number - least) / (36 - least))
termination_by number
decreasing_by
  have positive := threshold_pos bias place
  have bounded := threshold_le bias place
  exact Nat.lt_of_le_of_lt (Nat.div_le_self _ _) (by omega)

/-- What has been written, and what decides how the next number is written. -/
structure WriterState where
  written : List Char := []
  distance : Nat := 0
  bias : Nat := 72
  count : Nat

/-- Pass a character while the places of one code point are written. -/
def WriterState.pass
    (plainCount code : Nat)
    (state : WriterState)
    (character : Char) :
    WriterState :=
  if character.toNat < code then
    { state with distance := state.distance + 1 }
  else if character.toNat = code then
    { written :=
        state.written ++ writeNumber state.bias 36 state.distance
      distance := 0
      bias :=
        adapt (state.count == plainCount) state.distance (state.count + 1)
      count := state.count + 1 }
  else
    state

/-- Write the places of code points, which come in ascending order. -/
def writeCodes
    (label : List Char)
    (plainCount : Nat) :
    Nat → WriterState → List Nat → WriterState
  | _, state, [] => state
  | reached, state, code :: rest =>
      let moved := {
        state with
        distance := state.distance + (code - reached) * (state.count + 1) }
      let passed := label.foldl (WriterState.pass plainCount code) moved
      writeCodes label plainCount (code + 1)
        { passed with distance := passed.distance + 1 } rest

/-- Whether a character is a plain one. -/
def isPlain (character : Char) : Bool :=
  character.toNat < 0x80

/-- The code points of a label that are not plain, each once, in order. -/
def codesOf (label : List Char) : List Nat :=
  (((label.filter (! isPlain ·)).map Char.toNat).mergeSort
    fun left right => decide (left ≤ right)).eraseDups

/-- Write a label in plain letters. -/
def encode (label : List Char) : List Char :=
  let plain := label.filter isPlain
  let start : WriterState := { count := plain.length }
  plain ++ (if plain.isEmpty then [] else ['-']) ++
    (writeCodes label plain.length 0x80 start (codesOf label)).written

/-- Read a number: what it adds to a total, and the text after it. -/
def readNumber?
    (bias : Nat) :
    (place weight total : Nat) → List Char → Option (Nat × List Char)
  | _, _, _, [] => none
  | place, weight, total, character :: rest =>
      match digitValue? character with
      | none => none
      | some value =>
          let least := threshold bias place
          if value < least then
            some (total + value * weight, rest)
          else
            readNumber? bias (place + 36) (weight * (36 - least))
              (total + value * weight) rest

/-- Reading a number uses up some text. -/
theorem readNumber?_length
    {bias place weight total : Nat}
    {text : List Char}
    {result : Nat × List Char}
    (found : readNumber? bias place weight total text = some result) :
    result.2.length < text.length := by
  induction text generalizing place weight total with
  | nil => simp [readNumber?] at found
  | cons character rest inductionHypothesis =>
      rw [readNumber?] at found
      split at found
      · simp at found
      · simp only at found
        split at found
        · rw [← Option.some.inj found]
          simp
        · have shorter := inductionHypothesis found
          simp only [List.length_cons]
          omega

/-- The character of a code point, if there is one. -/
def characterOf? (code : Nat) : Option Char :=
  if code < 0xD800 ∨ 0xDFFF < code ∧ code < 0x110000 then
    some (Char.ofNat code)
  else
    none

/-- Read numbers and put the characters that they tell into a label. -/
def readNumbers?
    (bias code position : Nat)
    (label text : List Char) :
    Option (List Char) :=
  match text with
  | [] => some label
  | first :: others =>
      match _found : readNumber? bias 36 1 position (first :: others) with
      | none => none
      | some (total, rest) =>
          let count := label.length + 1
          match characterOf? (code + total / count) with
          | none => none
          | some character =>
              readNumbers?
                (adapt (position == 0) (total - position) count)
                (code + total / count)
                (total % count + 1)
                (label.insertIdx (total % count) character)
                rest
termination_by text.length
decreasing_by
  have shorter := readNumber?_length _found
  simpa using shorter

/-- Read a label that is written in plain letters. -/
def decode? (text : List Char) : Option (List Char) :=
  let written := (text.reverse.takeWhile (· ≠ '-')).reverse
  let plain := text.take (text.length - written.length - 1)
  readNumbers? 72 0x80 0 plain written

end Punycode

end Montage
