import Montage.Proofs.Text.Utf8
import Montage.Proofs.Work.Values
import Montage.Publish.Delivery

namespace Montage

/-!
# Reports that cannot be used

A probe may print any JSON value. Reading it makes one demand after another, on
the shape of a part or on a value, and ends at the first one that is not met. A
value that does not say what it should only means that the file cannot be
probed; a part of another shape, and a number beyond all bounds, is a failure
that the job does not expect.
-/

/-- How a reading ends: with a value, with a failure that tells that a file
cannot be probed, or with another one. -/
inductive Verdict
  | met
  | unreadable
  | misshapen
deriving DecidableEq, Repr

namespace Verdict

variable {α β : Type}

/-- How a reading ended. -/
def of : Outcome α → Verdict
  | .ok _ => met
  | .error failure => if isProbeFailure failure then unreadable else misshapen

/-- Readings one after another end with the first one that has no value. -/
def first : List Verdict → Verdict
  | [] => met
  | met :: rest => first rest
  | verdict :: _ => verdict

theorem first_append
    (earlier later : List Verdict) :
    first (earlier ++ later) =
      if first earlier = met then first later else first earlier := by
  induction earlier with
  | nil => rfl
  | cons verdict rest inductionHypothesis =>
      cases verdict with
      | met => exact inductionHypothesis
      | unreadable => rfl
      | misshapen => rfl

/-- What reads on after a reading makes its demands after those before. -/
theorem of_bind_append
    {outcome : Outcome α}
    {next : α → Outcome β}
    {earlier later : List Verdict}
    (now : of outcome = first earlier)
    (rest : ∀ value, outcome = .ok value → of (next value) = first later) :
    of (outcome.bind next) = first (earlier ++ later) := by
  rw [first_append, ← now]
  cases outcome with
  | ok value => exact rest value rfl
  | error failure =>
      change of (.error failure) = _
      by_cases expected : isProbeFailure failure = true <;>
        simp [of, expected]

theorem of_bind
    {outcome : Outcome α}
    {next : α → Outcome β}
    {verdict : Verdict}
    {later : List Verdict}
    (now : of outcome = verdict)
    (rest : ∀ value, outcome = .ok value → of (next value) = first later) :
    of (outcome.bind next) = first (verdict :: later) := by
  have alone : of outcome = first [verdict] := by
    rw [now]
    cases verdict <;> rfl
  exact of_bind_append alone rest

end Verdict

/-! ## Demands on single values -/

namespace Json

/-- A number is demanded. -/
def numberVerdict : Json → Verdict
  | .number _ => .met
  | .bool _ => .met
  | .integer value =>
      if (Binary64.ofInteger value).toOption.isSome then .met else .misshapen
  | .text value =>
      if (floatOfText value).toOption.isSome then .met else .unreadable
  | _ => .misshapen

/-- A whole number is demanded; a fraction is cut off. -/
def wholeVerdict : Json → Verdict
  | .integer _ => .met
  | .bool _ => .met
  | .number .nan => .unreadable
  | .number (.infinite _) => .misshapen
  | .number _ => .met
  | .text value =>
      if (integerOfText value).toOption.isSome then .met else .unreadable
  | _ => .misshapen

/-- A part that may have a field is demanded; a text or an array that holds the
name itself does not pass for one. -/
def partVerdict (name : String) : Json → Verdict
  | .object _ => .met
  | .text value =>
      if occursIn name.toList value.toList then .misshapen else .met
  | .array items =>
      if items.any (isTextItem name) then .misshapen else .met
  | _ => .misshapen

/-- Something with items is demanded. -/
def itemsVerdict : Json → Verdict
  | .array _ => .met
  | .object _ => .met
  | .text _ => .met
  | _ => .misshapen

/-- The field of a part, if the part is an object. -/
def told? (name : String) : Json → Option Json
  | .object fields => getField? name fields
  | _ => none

end Json

/-- An integer without a nearest number is beyond all of them. -/
theorem integerTooLarge_of_ofInteger
    {value : Int}
    {cause : ArithmeticError}
    (missing : Binary64.ofInteger value = .error cause) :
    cause = .integerTooLarge := by
  unfold Binary64.ofInteger at missing
  generalize Binary64.ofUnits _ _ _ = nearest at missing
  cases nearest <;> cases missing
  rfl

namespace Verdict

variable {α : Type}

/-- A text that is no numeral says nothing. -/
theorem of_ofNumeral
    (result : Except NumeralError α) :
    of (ofNumeral result) =
      if result.toOption.isSome then met else unreadable := by
  cases result <;> rfl

theorem of_ofInteger
    (value : Int) :
    of (ofArithmetic (Binary64.ofInteger value)) =
      if (Binary64.ofInteger value).toOption.isSome then
        met
      else
        misshapen := by
  cases near : Binary64.ofInteger value with
  | ok number => rfl
  | error cause =>
      cases integerTooLarge_of_ofInteger near
      rfl

theorem of_reportedNumber
    (value : Json) :
    of (reportedNumber value) = value.numberVerdict := by
  cases value with
  | integer value => exact of_ofInteger value
  | text value => exact of_ofNumeral (floatOfText value)
  | _ => rfl

theorem of_reportedInteger
    (value : Json) :
    of (reportedInteger value) = value.wholeVerdict := by
  cases value with
  | number value => cases value <;> rfl
  | text value => exact of_ofNumeral (integerOfText value)
  | _ => rfl

theorem of_mentioned?
    (name : String)
    (part : Json) :
    of (mentioned? name part) = part.partVerdict name := by
  cases part with
  | text value =>
      simp only [mentioned?, Json.partVerdict]
      split <;> rfl
  | array items =>
      simp only [mentioned?, Json.partVerdict]
      split <;> rfl
  | _ => rfl

theorem of_reportedItems
    (part : Json) :
    of (reportedItems part) = part.itemsVerdict := by
  cases part <;> rfl

end Verdict

theorem mentioned?_eq_told?
    {name : String}
    {part : Json}
    {found : Option Json}
    (isFound : mentioned? name part = .ok found) :
    found = part.told? name := by
  cases part with
  | object fields =>
      cases isFound
      rfl
  | text value =>
      simp only [mentioned?] at isFound
      split at isFound
      · cases isFound
      · cases isFound
        rfl
  | array items =>
      simp only [mentioned?] at isFound
      split at isFound
      · cases isFound
      · cases isFound
        rfl
  | _ => cases isFound

/-! ## Demands on reports -/

section Reports

variable (size : Outcome Nat)

/-- The duration that a part tells. -/
def toldDuration (format : Json) : Binary64 :=
  ((format.told? "duration").bind fun value =>
    (reportedNumber value).toOption).getD 0

/-- The duration that is told, or zero. -/
def readDuration : Option Json → Outcome Binary64
  | some value => reportedNumber value
  | none => .ok 0

/-- The size that is told, or the one on disk. -/
def readSize : Option Json → Outcome Int
  | some value => reportedInteger value
  | none => size.map Int.ofNat

theorem readFormat_eq
    (format : Json) :
    MediaFacts.readFormat size format =
      (mentioned? "duration" format).bind fun duration =>
        (readDuration duration).bind fun duration =>
          (mentioned? "size" format).bind fun fileSize =>
            (readSize size fileSize).bind fun fileSize =>
              .ok { duration, fileSize } := by
  unfold MediaFacts.readFormat
  cases mentioned? "duration" format with
  | error failure => rfl
  | ok duration =>
      cases duration <;>
      cases mentioned? "size" format with
      | error failure => rfl
      | ok fileSize => cases fileSize <;> rfl

/-- The demands on the part about the whole file, in the order of reading. -/
def formatVerdicts (format : Json) : List Verdict := [
  format.partVerdict "duration",
  ((format.told? "duration").map Json.numberVerdict).getD .met,
  format.partVerdict "size",
  ((format.told? "size").map Json.wholeVerdict).getD (.of size)]

theorem of_readFormat
    (format : Json) :
    Verdict.of (MediaFacts.readFormat size format) =
      .first (formatVerdicts size format) := by
  rw [readFormat_eq]
  -- Each reading is a demand; what it found is what the part tells.
  refine Verdict.of_bind (Verdict.of_mentioned? _ _) fun _ isFound => ?_
  cases mentioned?_eq_told? isFound
  refine Verdict.of_bind ?_ fun duration _ => ?_
  · cases format.told? "duration" with
    | none => rfl
    | some value => exact Verdict.of_reportedNumber value
  · refine Verdict.of_bind (Verdict.of_mentioned? _ _) fun _ isFound => ?_
    cases mentioned?_eq_told? isFound
    refine Verdict.of_bind ?_ fun _ _ => rfl
    cases format.told? "size" with
    | none => cases size <;> rfl
    | some value => exact Verdict.of_reportedInteger value

/-- The streams are read with the duration that the part about the whole file
tells, and none of them was seen before. -/
theorem start_of_readFormat
    {format : Json}
    {info : MediaFacts}
    (isInfo : MediaFacts.readFormat size format = .ok info) :
    info.duration = toldDuration format ∧ info.hasVideo = false := by
  rw [readFormat_eq] at isInfo
  obtain ⟨_, isFound, isInfo⟩ := Outcome.exists_of_bind isInfo
  cases mentioned?_eq_told? isFound
  obtain ⟨duration, isDuration, isInfo⟩ := Outcome.exists_of_bind isInfo
  obtain ⟨_, _, isInfo⟩ := Outcome.exists_of_bind isInfo
  obtain ⟨_, _, isInfo⟩ := Outcome.exists_of_bind isInfo
  cases isInfo
  refine ⟨?_, rfl⟩
  unfold toldDuration
  cases told : format.told? "duration" with
  | none =>
      rw [told] at isDuration
      cases isDuration
      rfl
  | some value =>
      rw [told] at isDuration
      change reportedNumber value = .ok duration at isDuration
      rw [Option.bind_some, isDuration]
      rfl

/-- Whether a stream says that it is a video. -/
def isVideo (stream : Json) : Bool :=
  (stream.told? "codec_type").bind Json.text? == some "video"

/-- The demand on a stream; the duration of a video may be needed. -/
def streamVerdict (needed : Bool) (stream : Json) : Verdict :=
  match stream with
  | .object _ =>
      if needed && isVideo stream then
        ((stream.told? "duration").map Json.numberVerdict).getD .met
      else
        .met
  | _ => .misshapen

/-- The demands on streams, in their order; only the duration of the first
video may be needed. -/
def streamVerdicts (needed : Bool) : List Json → List Verdict
  | [] => []
  | stream :: rest =>
      streamVerdict needed stream ::
        streamVerdicts (needed && !isVideo stream) rest

/-- Whether the duration of a next video would be needed. -/
def MediaFacts.needsDuration (info : MediaFacts) : Bool :=
  !info.hasVideo && info.duration.isZero

/-- A video stream has to tell a duration only if none was told before. -/
theorem of_addVideo
    (info : MediaFacts)
    (fields : Fields) :
    Verdict.of (info.addVideo fields) =
        (if info.duration.isZero then
          ((getField? "duration" fields).map Json.numberVerdict).getD .met
        else
          .met) ∧
      ∀ later, info.addVideo fields = .ok later → later.hasVideo = true := by
  unfold MediaFacts.addVideo
  cases info.duration.isZero with
  | false =>
      refine ⟨rfl, fun later isLater => ?_⟩
      cases isLater
      rfl
  | true =>
      cases getField? "duration" fields with
      | none =>
          refine ⟨rfl, fun later isLater => ?_⟩
          cases isLater
          rfl
      | some value =>
          have verdict := Verdict.of_reportedNumber value
          rw [if_pos rfl, Option.map_some, Option.getD_some, ← verdict]
          dsimp only
          cases reportedNumber value with
          | error failure => exact ⟨rfl, fun _ isLater => by cases isLater⟩
          | ok duration =>
              refine ⟨rfl, fun later isLater => ?_⟩
              cases isLater
              rfl

/-- A stream is read as demanded, and settles whether the next one has to tell
a duration. -/
theorem of_addStream
    (info : MediaFacts)
    (stream : Json) :
    Verdict.of (info.addStream stream) =
        streamVerdict info.needsDuration stream ∧
      ∀ later, info.addStream stream = .ok later →
        later.needsDuration = (info.needsDuration && !isVideo stream) := by
  cases stream with
  | object fields =>
      simp only [MediaFacts.addStream]
      cases kind : isVideo (.object fields) with
      | true =>
          have isKind :
              (getField? "codec_type" fields).bind Json.text? =
                some "video" := by
            simpa [isVideo, Json.told?] using kind
          simp only [isKind]
          cases seen : info.hasVideo with
          | true =>
              simp [streamVerdict, MediaFacts.needsDuration, seen, Verdict.of]
          | false =>
              obtain ⟨verdict, isSeen⟩ := of_addVideo info fields
              simp only [Bool.false_eq_true, ↓reduceIte, verdict,
                streamVerdict, MediaFacts.needsDuration, seen, kind,
                Bool.not_false, Bool.true_and, Bool.and_true, Bool.not_true,
                Bool.and_false, Json.told?, true_and]
              intro later isLater
              rw [isSeen later isLater]
              rfl
      | false =>
          have notVideo :
              (getField? "codec_type" fields).bind Json.text? ≠
                some "video" := by
            simpa [isVideo, Json.told?] using kind
          split
          · rename_i isKind
            exact (notVideo isKind).elim
          · simp [streamVerdict, kind, MediaFacts.needsDuration, Verdict.of]
          · simp [streamVerdict, kind, MediaFacts.needsDuration, Verdict.of]
  | _ =>
      refine ⟨rfl, fun later isLater => ?_⟩
      cases isLater

theorem of_addStreams
    (info : MediaFacts)
    (streams : List Json) :
    Verdict.of (streams.foldlM MediaFacts.addStream info) =
      .first (streamVerdicts info.needsDuration streams) := by
  induction streams generalizing info with
  | nil => rfl
  | cons stream rest inductionHypothesis =>
      obtain ⟨now, settled⟩ := of_addStream info stream
      rw [List.foldlM_cons]
      refine Verdict.of_bind now fun later isLater => ?_
      rw [inductionHypothesis, settled later isLater]

/-- The items of a list, or none. -/
def itemsOf (part : Json) : List Json :=
  (reportedItems part).toOption.getD []

/-- The demands on a report, in the order of reading. A part that is not there
is an empty one. -/
def reportVerdicts (report : Json) : List Verdict :=
  match report with
  | .object _ =>
      let format := (report.told? "format").getD (.object [])
      let streams := (report.told? "streams").getD (.array [])
      formatVerdicts size format ++
        streams.itemsVerdict ::
          streamVerdicts (toldDuration format).isZero (itemsOf streams)
  | _ => [.misshapen]

/-- A report is read as demanded: the first demand that is not met decides how
the reading ends. -/
theorem of_ofReport
    (report : Json) :
    Verdict.of (MediaFacts.ofReport size report) =
      .first (reportVerdicts size report) := by
  cases report with
  | object fields =>
      let format := (getField? "format" fields).getD (.object [])
      let streams := (getField? "streams" fields).getD (.array [])
      change
        Verdict.of
          ((MediaFacts.readFormat size format).bind fun start =>
            (reportedItems streams).bind fun items =>
              items.foldlM MediaFacts.addStream start) = _
      -- First the whole file, then the list of streams, then each of them.
      refine Verdict.of_bind_append (of_readFormat size format)
        fun start isStart => ?_
      refine Verdict.of_bind (Verdict.of_reportedItems streams)
        fun items isItems => ?_
      obtain ⟨sameDuration, unseen⟩ := start_of_readFormat size isStart
      have needed :
          start.needsDuration = (toldDuration format).isZero := by
        rw [MediaFacts.needsDuration, sameDuration, unseen]
        rfl
      have sameItems : itemsOf streams = items := by
        rw [itemsOf, isItems]
        rfl
      rw [of_addStreams, needed]
      exact congrArg (Verdict.first ∘ streamVerdicts _) sameItems.symm
  | _ => rfl

end Reports

/-! ## Probes -/

/-- How a probe ends: it does not start, or it exits with a code after it
printed some bytes and complained in others. -/
inductive ProbeEnd
  | unstarted
      (failure : Failure)
      (isSystem : failure.failureClass = .system)
  | exited (code : Int) (printed complaint : Bytes)

namespace ProbeEnd

variable (probe : ProbeEnd)

/-- What the surroundings tell about a probe that ended. -/
def answer : ProbeEnd → Outcome ProcessResult
  | unstarted failure _ => .error failure
  | exited code printed complaint =>
      .ok { code, output := printed, errorOutput := complaint }

/-- The JSON value that a probe printed, if it exited well and all that it
printed is text. -/
def report? : ProbeEnd → Option Json
  | unstarted _ _ => none
  | exited code printed complaint =>
      match strictTextOf printed, strictTextOf complaint with
      | .ok text, .ok _ => if code = 0 then (Json.read text).toOption else none
      | _, _ => none

/-- Of a probe that exits well and prints texts, the first one is read. -/
theorem report?_of_texts
    (printed complaint : String) :
    (exited 0 (bytesOf printed) (bytesOf complaint)).report? =
      (Json.read printed).toOption := by
  rw [report?, strictTextOf_eq_ok_iff.mpr rfl, strictTextOf_eq_ok_iff.mpr rfl]
  exact if_pos rfl

/-- How the reading of what a probe tells ends. -/
def verdict (size : Outcome Nat) : Verdict :=
  match probe.report? with
  | some report => .first (reportVerdicts size report)
  | none => .unreadable

/-- A probe that could not be started, complains with its exit code, or prints
what is no text or no JSON, says nothing. -/
theorem of_readReport :
    (∃ report,
      probe.report? = some report ∧
      probe.answer.bind readReport = .ok report) ∨
    (probe.report? = none ∧
      Verdict.of (probe.answer.bind readReport) = .unreadable) := by
  cases probe with
  | unstarted failure isSystem =>
      right
      refine ⟨rfl, ?_⟩
      have expected : isProbeFailure failure = true := by
        simp [isProbeFailure, isSystem]
      exact if_pos expected
  | exited code printed complaint =>
      simp only [report?, answer, Except.bind, readReport, printedText]
      cases strictTextOf printed with
      | error fault => exact .inr ⟨rfl, rfl⟩
      | ok text =>
          cases strictTextOf complaint with
          | error fault => exact .inr ⟨rfl, rfl⟩
          | ok told =>
              by_cases isZero : code = 0
              · subst isZero
                simp only [Except.mapError, bind, Except.bind, reportOf]
                cases read : Json.read text with
                | ok report => exact .inl ⟨report, rfl, rfl⟩
                | error cause =>
                    right
                    refine ⟨rfl, ?_⟩
                    cases cause <;> rfl
              · simp only [Except.mapError, bind, Except.bind, isZero, ne_eq,
                  not_false_eq_true, ↓reduceIte, true_and]
                exact .inr rfl

theorem of_probe
    (size : Outcome Nat) :
    Verdict.of
        ((probe.answer.bind readReport).bind (MediaFacts.ofReport size)) =
      probe.verdict size := by
  unfold verdict
  rcases probe.of_readReport with
    ⟨report, isReport, printed⟩ | ⟨noReport, isUnreadable⟩
  · rw [isReport, printed]
    exact of_ofReport size report
  · rw [noReport]
    cases read : probe.answer.bind readReport with
    | ok report =>
        rw [read] at isUnreadable
        cases isUnreadable
    | error failure =>
        rw [read] at isUnreadable
        exact isUnreadable

end ProbeEnd

section Jobs

variable {answer : (call : Call) → call.Answer} {program : String} {file : Path}
  {probe : ProbeEnd}

theorem valueWith_probeIfPossible :
    (probeIfPossible program file).valueWith answer =
      match (probeFile program file).valueWith answer with
      | .ok info => .ok (some info)
      | .error failure =>
          if isProbeFailure failure then .ok none else .error failure := by
  rw [probeIfPossible, Program.valueWith_bind]
  cases (probeFile program file).valueWith answer <;> rfl

/-- Facts that were told, or else the size on disk. -/
theorem valueWith_describeResult :
    (describeResult program file).valueWith answer =
      match ((probeFile program file).valueWith answer).bind probedFacts with
      | .ok facts => .ok facts
      | .error failure =>
          if isProbeFailure failure then
            (answer (.fileSize file)).map fun (bytes : Nat) =>
              resultFacts none bytes
          else
            .error failure := by
  rw [describeResult, Program.valueWith_bind]
  cases ((probeFile program file).valueWith answer).bind probedFacts with
  | ok facts => rfl
  | error failure =>
      cases expected : isProbeFailure failure <;>
        simp only [expected, Bool.false_eq_true, ↓reduceIte] <;> rfl

theorem valueWith_offerResult
    (publicBase : String) :
    (offerResult publicBase program file).valueWith answer =
      ((describeResult program file).valueWith answer).map fun facts =>
        (downloadAddress publicBase file, facts) := by
  rw [offerResult, Program.valueWith_bind]
  rfl

/-- A duration that is no number counts as one that cannot be probed, and only
an infinite one fails. -/
theorem probedFacts_cases
    (info : MediaFacts) :
    (∃ seconds,
      info.wholeSeconds = .ok seconds ∧
      (∀ negative, info.duration ≠ .infinite negative) ∧
      probedFacts info =
        .ok (resultFacts (some seconds) info.fileSize)) ∨
    (info.duration = .nan ∧
      ∃ failure,
        probedFacts info = .error failure ∧ isProbeFailure failure = true) ∨
    (∃ negative,
      info.duration = .infinite negative ∧
      ∃ failure,
        probedFacts info = .error failure ∧
        isProbeFailure failure = false) := by
  unfold probedFacts MediaFacts.wholeSeconds
  cases info.duration with
  | nan => exact Or.inr (Or.inl ⟨rfl, _, rfl, rfl⟩)
  | infinite negative => exact Or.inr (Or.inr ⟨negative, rfl, _, rfl, rfl⟩)
  | finite negative units representable =>
      exact Or.inl ⟨_, rfl, fun _ => nofun, rfl⟩

theorem verdict_eq
    (probed :
      answer (.probe (probeArguments program file)) = probe.answer) :
    probe.verdict (answer (.fileSize file)) =
      .of ((probeFile program file).valueWith answer) := by
  have read := probe.of_probe (answer (.fileSize file))
  rw [← probed] at read
  exact read.symm

/-- What a probe tells is known if it was read, and passed over if it could not
be read. -/
theorem known_of_verdict
    (probed :
      answer (.probe (probeArguments program file)) = probe.answer) :
    let verdict := probe.verdict (answer (.fileSize file))
    let known := (probeIfPossible program file).valueWith answer
    (verdict = .met ↔ ∃ info, known = .ok (some info)) ∧
    (verdict = .unreadable ↔ known = .ok none) := by
  intro verdict known
  have isVerdict : verdict = _ := verdict_eq probed
  have isKnown : known = _ := valueWith_probeIfPossible
  rw [isVerdict, isKnown]
  cases (probeFile program file).valueWith answer with
  | ok info => simp [Verdict.of]
  | error failure =>
      cases expected : isProbeFailure failure <;> simp [Verdict.of, expected]

/-- A result is offered unless its report has another shape or tells of an
infinite duration. -/
theorem offered_of_verdict
    {bytes : Nat}
    (publicBase : String)
    (probed :
      answer (.probe (probeArguments program file)) = probe.answer)
    (size : answer (.fileSize file) = .ok bytes) :
    let verdict := probe.verdict (answer (.fileSize file))
    let known := (probeIfPossible program file).valueWith answer
    let offer := (offerResult publicBase program file).valueWith answer
    ((∃ told, offer = .ok told) ↔
      verdict ≠ .misshapen ∧
      ∀ info negative,
        known = .ok (some info) → info.duration ≠ .infinite negative) ∧
    ∀ told, offer = .ok told →
      told.1 = downloadAddress publicBase file ∧
      ((∃ info seconds,
          known = .ok (some info) ∧
          info.wholeSeconds = .ok seconds ∧
          told.2 = resultFacts (some seconds) info.fileSize) ∨
        ((known = .ok none ∨
            ∃ info, known = .ok (some info) ∧ info.duration = .nan) ∧
          told.2 = resultFacts none bytes)) := by
  intro verdict known offer
  have isVerdict : verdict = _ := verdict_eq probed
  have isKnown : known = _ := valueWith_probeIfPossible
  have isOffer : offer = _ := valueWith_offerResult publicBase
  rw [valueWith_describeResult, size] at isOffer
  clear_value verdict known offer
  generalize (probeFile program file).valueWith answer = read
    at isVerdict isKnown isOffer
  cases read with
  | error failure =>
      change offer =
        Except.map _
          (if isProbeFailure failure then .ok (resultFacts none bytes)
          else .error failure) at isOffer
      cases expected : isProbeFailure failure with
      | true =>
          simp only [Verdict.of, expected, ↓reduceIte]
            at isVerdict isKnown isOffer
          subst isVerdict isKnown isOffer
          refine ⟨iff_of_true ⟨_, rfl⟩ ⟨nofun, fun _ _ => nofun⟩, ?_⟩
          rintro _ ⟨⟩
          exact ⟨rfl, Or.inr ⟨Or.inl rfl, rfl⟩⟩
      | false =>
          simp only [Verdict.of, expected, Bool.false_eq_true, ↓reduceIte]
            at isVerdict isKnown isOffer
          subst isVerdict isKnown isOffer
          exact ⟨iff_of_false nofun fun shape => shape.1 rfl, nofun⟩
  | ok info =>
      change verdict = .met at isVerdict
      change known = .ok (some info) at isKnown
      change offer =
        Except.map _
          (match probedFacts info with
          | .ok facts => .ok facts
          | .error failure =>
              if isProbeFailure failure then .ok (resultFacts none bytes)
              else .error failure) at isOffer
      subst isVerdict isKnown
      rcases probedFacts_cases info with
        ⟨seconds, isWhole, finite, isFacts⟩ |
        ⟨isNan, failure, isFacts, expected⟩ |
        ⟨negative, isInfinite, failure, isFacts, unexpected⟩
      · rw [isFacts] at isOffer
        subst isOffer
        refine ⟨iff_of_true ⟨_, rfl⟩ ⟨nofun, ?_⟩, ?_⟩
        · rintro _ negative ⟨⟩
          exact finite negative
        · rintro _ ⟨⟩
          exact ⟨rfl, Or.inl ⟨info, seconds, rfl, isWhole, rfl⟩⟩
      · simp only [isFacts, expected, ↓reduceIte] at isOffer
        subst isOffer
        refine ⟨iff_of_true ⟨_, rfl⟩ ⟨nofun, ?_⟩, ?_⟩
        · rintro _ negative ⟨⟩ isInfinite
          cases isNan.symm.trans isInfinite
        · rintro _ ⟨⟩
          exact ⟨rfl, Or.inr ⟨Or.inr ⟨info, rfl, isNan⟩, rfl⟩⟩
      · simp only [isFacts, unexpected, Bool.false_eq_true, ↓reduceIte]
          at isOffer
        subst isOffer
        exact ⟨iff_of_false nofun fun shape =>
          shape.2 info negative rfl isInfinite, nofun⟩

/-- A job goes on without knowledge of a file exactly if reading what the probe
tells ends with a value that says nothing, and it fails exactly if the reading
ends with a part of another shape. A result is offered whenever the reading does
not end so and no infinite duration is told. -/
theorem only_misshapen_reports_fail_jobs
    (publicBase : String)
    (probed :
      answer (.probe (probeArguments program file)) = probe.answer) :
    let verdict := probe.verdict (answer (.fileSize file))
    let known := (probeIfPossible program file).valueWith answer
    let offer := (offerResult publicBase program file).valueWith answer
    (verdict = .met ↔ ∃ info, known = .ok (some info)) ∧
    (verdict = .unreadable ↔ known = .ok none) ∧
    ∀ bytes, answer (.fileSize file) = .ok bytes →
      ((∃ told, offer = .ok told) ↔
        verdict ≠ .misshapen ∧
        ∀ info negative,
          known = .ok (some info) → info.duration ≠ .infinite negative) ∧
      ∀ told, offer = .ok told →
        told.1 = downloadAddress publicBase file ∧
        ((∃ info seconds,
            known = .ok (some info) ∧
            info.wholeSeconds = .ok seconds ∧
            told.2 = resultFacts (some seconds) info.fileSize) ∨
          ((known = .ok none ∨
              ∃ info, known = .ok (some info) ∧ info.duration = .nan) ∧
            told.2 = resultFacts none bytes)) := by
  obtain ⟨isKnown, isUnknown⟩ := known_of_verdict probed
  exact ⟨isKnown, isUnknown, fun bytes size =>
    offered_of_verdict publicBase probed size⟩

/-- Answers of surroundings in which a probe ends in one way. -/
def answersProbe (probe : ProbeEnd) : (call : Call) → call.Answer
  | .probe _ => probe.answer
  | call => call.favourable

/-- A duration that is no numeral is passed over, and one that is null fails. -/
theorem null_duration_fails_job :
    let file : Path := .ofText "/work/job1_output.mp4"
    let worded : ProbeEnd :=
      .exited 0
        (bytesOf "\x7b\"format\": \x7b\"duration\": \"N/A\"\x7d\x7d")
        (bytesOf "")
    let null : ProbeEnd :=
      .exited 0
        (bytesOf "\x7b\"format\": \x7b\"duration\": null\x7d\x7d")
        (bytesOf "")
    (probeIfPossible "ffprobe" file).valueWith (answersProbe worded) =
      .ok none ∧
    (∀ known,
      (probeIfPossible "ffprobe" file).valueWith (answersProbe null) ≠
        .ok known) ∧
    ∀ told,
      (offerResult "http://render.test" "ffprobe" file).valueWith
        (answersProbe null) ≠ .ok told := by
  intro file worded null
  have wordedVerdict : worded.verdict (.ok 5) = .unreadable := by
    rw [ProbeEnd.verdict, ProbeEnd.report?_of_texts]
    decide +kernel
  have nullVerdict : null.verdict (.ok 5) = .misshapen := by
    rw [ProbeEnd.verdict, ProbeEnd.report?_of_texts]
    decide +kernel
  have wordedProbed :
      answersProbe worded (.probe (probeArguments "ffprobe" file)) =
        worded.answer :=
    rfl
  have nullProbed :
      answersProbe null (.probe (probeArguments "ffprobe" file)) =
        null.answer :=
    rfl
  obtain ⟨-, passed, -⟩ :=
    only_misshapen_reports_fail_jobs "http://render.test" wordedProbed
  obtain ⟨isKnown, isUnknown, offered⟩ :=
    only_misshapen_reports_fail_jobs "http://render.test" nullProbed
  refine ⟨passed.mp wordedVerdict, fun known same => ?_, fun told same => ?_⟩
  · cases known with
    | none => cases nullVerdict.symm.trans (isUnknown.mpr same)
    | some info => cases nullVerdict.symm.trans (isKnown.mpr ⟨info, same⟩)
  · exact ((offered 5 rfl).1.mp ⟨told, same⟩).1 nullVerdict

end Jobs

end Montage
