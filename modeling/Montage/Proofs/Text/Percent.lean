import Montage.Proofs.Text.Utf8
import Montage.Text.Percent

namespace Montage

/-!
# What escapes leave of a text

A text without escapes is read as it is written. An escape makes it shorter:
three characters stand for one byte, and a byte adds one character at most.
-/

/-- A text starts with an escape. -/
inductive StartsEscape : List Char → Prop
  | escape {high low : Char} {rest : List Char} :
      (hexValue? high).isSome = true →
        (hexValue? low).isSome = true →
        StartsEscape ('%' :: high :: low :: rest)

/-- Somewhere in a text there is an escape. -/
inductive HasEscape : List Char → Prop
  | here {text : List Char} : StartsEscape text → HasEscape text
  | later {character : Char} {rest : List Char} :
      HasEscape rest → HasEscape (character :: rest)

/-! ## One escape or one character after another -/

theorem percentBytes_escape
    {high low : Char}
    {rest : List Char}
    (starts : StartsEscape ('%' :: high :: low :: rest)) :
    ∃ byte,
      percentBytes ('%' :: high :: low :: rest) =
        byte :: percentBytes rest := by
  obtain ⟨someUpper, someLower⟩ := starts
  obtain ⟨upper, isHigh⟩ := Option.isSome_iff_exists.mp someUpper
  obtain ⟨lower, isLow⟩ := Option.isSome_iff_exists.mp someLower
  exact ⟨UInt8.ofNat (16 * upper + lower), by simp [percentBytes, isHigh, isLow]⟩

theorem percentBytes_cons
    {character : Char}
    {rest : List Char}
    (startsNone : ¬StartsEscape (character :: rest)) :
    percentBytes (character :: rest) =
      String.utf8EncodeChar character ++ percentBytes rest := by
  match rest with
  | [] => simp [percentBytes]
  | [next] => simp [percentBytes]
  | high :: low :: others =>
      rw [percentBytes]
      intro upper lower isPercent isHigh isLow
      apply startsNone
      rw [isPercent]
      exact .escape (by rw [isHigh]; rfl) (by rw [isLow]; rfl)

/-- A text is read one escape, or else one character, after another. -/
theorem escape_induction
    {motive : List Char → Prop}
    (nil : motive [])
    (escape :
      ∀ high low rest,
        StartsEscape ('%' :: high :: low :: rest) →
          motive rest →
          motive ('%' :: high :: low :: rest))
    (plain :
      ∀ character rest,
        ¬StartsEscape (character :: rest) →
          motive rest →
          motive (character :: rest))
    (text : List Char) :
    motive text := by
  induction text using percentBytes.induct with
  | case1 => exact nil
  | case2 character => exact plain _ _ nofun nil
  | case3 character next => exact plain _ _ nofun (plain _ _ nofun nil)
  | case4 high low rest upper lower isLow isHigh inductionHypothesis =>
      exact escape high low rest
        (.escape (by rw [isHigh]; rfl) (by rw [isLow]; rfl))
        inductionHypothesis
  | case5 character high low rest notEscape inductionHypothesis =>
      refine plain _ _ ?_ inductionHypothesis
      rintro (⟨someUpper, someLower⟩ : StartsEscape _)
      obtain ⟨upper, isHigh⟩ := Option.isSome_iff_exists.mp someUpper
      obtain ⟨lower, isLow⟩ := Option.isSome_iff_exists.mp someLower
      exact notEscape upper lower rfl isHigh isLow

/-! ## Texts without escapes -/

theorem percentBytes_of_noEscape
    {text : List Char}
    (noEscape : ¬HasEscape text) :
    percentBytes text = encodeUtf8 text := by
  induction text with
  | nil => rfl
  | cons character rest inductionHypothesis =>
      rw [percentBytes_cons fun starts => noEscape (.here starts),
        inductionHypothesis fun later => noEscape (.later later)]
      rfl

/-- A text without escapes is read as it is written. -/
theorem percentDecode_of_noEscape
    {text : List Char}
    (noEscape : ¬HasEscape text) :
    percentDecode text = text := by
  unfold percentDecode
  rw [percentBytes_of_noEscape noEscape, decodeUtf8_encodeUtf8]

/-- Every escape has a percent sign. -/
theorem HasEscape.mem
    {text : List Char}
    (escaped : HasEscape text) :
    '%' ∈ text := by
  induction escaped with
  | here starts =>
      cases starts
      exact List.mem_cons_self
  | later _ inductionHypothesis => exact List.mem_cons_of_mem _ inductionHypothesis

/-! ## The length of what is read -/

theorem length_startByte (byte : Nat) :
    (startByte byte).1.length + (leftOpen (startByte byte).2).length = 1 := by
  unfold startByte
  split
  · rfl
  · split <;> rfl

theorem length_nextByte_le
    (opened : PartialCharacter)
    (byte : Nat) :
    (nextByte opened byte).1.length +
      (leftOpen (nextByte opened byte).2).length ≤ 2 := by
  have started := length_startByte byte
  unfold nextByte
  split
  · split <;> simp [leftOpen]
  · simp only [List.length_cons]
    omega

/-- One byte adds one character at most, counting what it leaves open. -/
theorem decodeFrom_cons_le
    {opened : Option PartialCharacter}
    (isOpen : ∀ started, opened = some started → started.IsOpen)
    (byte : UInt8)
    (rest : Bytes) :
    ∃ left,
      (∀ started, left = some started → started.IsOpen) ∧
      (decodeFrom opened (byte :: rest)).length + (leftOpen left).length ≤
        (leftOpen opened).length + 1 + (decodeFrom left rest).length := by
  cases opened with
  | none =>
      refine ⟨(startByte byte.toNat).2, fun _ => startByte_isOpen _, ?_⟩
      have started := length_startByte byte.toNat
      simp only [decodeFrom, List.length_append]
      omega
  | some before =>
      refine ⟨(nextByte before byte.toNat).2, fun _ => nextByte_isOpen _, ?_⟩
      have next := length_nextByte_le before byte.toNat
      have pending : (leftOpen (some before)).length = 1 := rfl
      simp only [decodeFrom, List.length_append]
      omega

/-- What is read is no longer than what is written. -/
theorem length_decodeFrom_percentBytes_le
    (text : List Char)
    (opened : Option PartialCharacter)
    (isOpen : ∀ started, opened = some started → started.IsOpen) :
    (decodeFrom opened (percentBytes text)).length ≤
      (leftOpen opened).length + text.length := by
  induction text using escape_induction generalizing opened with
  | nil => simp [percentBytes, decodeFrom, leftOpen]
  | escape high low rest starts inductionHypothesis =>
      obtain ⟨byte, bytes⟩ := percentBytes_escape starts
      rw [bytes]
      obtain ⟨left, leftIsOpen, atMost⟩ :=
        decodeFrom_cons_le isOpen byte (percentBytes rest)
      have others := inductionHypothesis left leftIsOpen
      simp only [List.length_cons]
      omega
  | plain character rest startsNone inductionHypothesis =>
      have others := inductionHypothesis none (by simp)
      rw [percentBytes_cons startsNone, decodeFrom_utf8EncodeChar isOpen]
      simp only [List.length_append, List.length_cons] at others ⊢
      have nothing : (leftOpen none).length = 0 := rfl
      omega

/-- With an escape, what is read is shorter than what is written. -/
theorem length_decodeFrom_percentBytes_lt
    {text : List Char}
    (escaped : HasEscape text)
    (opened : Option PartialCharacter)
    (isOpen : ∀ started, opened = some started → started.IsOpen) :
    (decodeFrom opened (percentBytes text)).length <
      (leftOpen opened).length + text.length := by
  induction text using escape_induction generalizing opened with
  | nil =>
      cases escaped.mem
  | escape high low rest starts inductionHypothesis =>
      obtain ⟨byte, bytes⟩ := percentBytes_escape starts
      rw [bytes]
      obtain ⟨left, leftIsOpen, atMost⟩ :=
        decodeFrom_cons_le isOpen byte (percentBytes rest)
      have others := length_decodeFrom_percentBytes_le rest left leftIsOpen
      simp only [List.length_cons]
      omega
  | plain character rest startsNone inductionHypothesis =>
      have later : HasEscape rest := by
        cases escaped with
        | here starts => exact (startsNone starts).elim
        | later inRest => exact inRest
      have others := inductionHypothesis later none (by simp)
      rw [percentBytes_cons startsNone, decodeFrom_utf8EncodeChar isOpen]
      simp only [List.length_append, List.length_cons] at others ⊢
      have nothing : (leftOpen none).length = 0 := rfl
      omega

theorem length_percentDecode_le (text : List Char) :
    (percentDecode text).length ≤ text.length := by
  have atMost := length_decodeFrom_percentBytes_le text none (by simp)
  simpa [leftOpen, percentDecode, decodeUtf8] using atMost

/-- A text is read as it is written exactly if it has no escape. -/
theorem percentDecode_eq_self_iff (text : List Char) :
    percentDecode text = text ↔ ¬HasEscape text := by
  constructor
  · intro same escaped
    have shorter :=
      length_decodeFrom_percentBytes_lt escaped none (by simp)
    have sameLength := congrArg List.length same
    simp only [leftOpen, Option.isSome_none, Bool.false_eq_true, ↓reduceIte,
      List.length_nil, Nat.zero_add] at shorter
    exact Nat.ne_of_lt shorter sameLength
  · exact percentDecode_of_noEscape

end Montage
