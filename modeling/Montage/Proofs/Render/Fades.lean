import Mathlib.Tactic.NormNum
import Montage.Proofs.Effect.Settled
import Montage.Proofs.Graph.Named
import Montage.Proofs.Stage.Fading

namespace Montage

/-!
# Fades of flat renders

Picture and sound fade together, or the sound fades alone, but nothing fades
twice: a stream has at most one fade in each direction. The fades come after the
stages that change the speed, and a fade at the end starts by the time that is
left after them.
-/

/-! ## Both streams -/

/-- How long a stream fades at its start and at its end. -/
structure FadeLengths where
  atStart : Binary64 := 0
  atEnd : Binary64 := 0

/-- What the fades of a stream are told. -/
def FadeLengths.options
    (lengths : FadeLengths)
    (playing : Binary64) :
    List (List (String × OptionValue)) :=
  fadeOptions playing lengths.atStart lengths.atEnd

namespace Effects

/-- The fades of the picture: those of both streams. -/
def pictureFadeLengths (effects : Effects) : FadeLengths :=
  match effects.activeFade? with
  | some fade => ⟨fade.fadeIn, fade.fadeOut⟩
  | none => {}

/-- The fades of the sound: those of both streams, or else its own. -/
def soundFadeLengths (effects : Effects) : FadeLengths :=
  match effects.activeFade?, effects.audio with
  | some fade, _ => ⟨fade.fadeIn, fade.fadeOut⟩
  | none, some audio => ⟨audio.fadeIn, audio.fadeOut⟩
  | none, none => {}

end Effects

/-- The fades of both streams, in the order of their stages. -/
structure FadesAsAsked
    (effects : Effects)
    (playing : Binary64)
    (picture sound : List Filter) :
    Prop where
  afterTempo :
    sound.Pairwise fun earlier later =>
      earlier.name = "afade" → later.name ≠ "atempo"
  inSound :
    (stagesNamed "afade" sound).map Filter.options =
      effects.soundFadeLengths.options playing
  inPicture :
    (stagesNamed "fade" picture).map Filter.options =
      effects.pictureFadeLengths.options playing

/-- A fade is active, or the sound may fade alone. -/
theorem Effects.fadesTogether_eq (effects : Effects) :
    effects.fadesTogether = effects.activeFade?.isSome := by
  unfold fadesTogether activeFade?
  cases effects.fade with
  | none => rfl
  | some fade => cases isActive : fade.isActive <;> simp [isActive]

/-- The stages of effects have the fades that are asked for. -/
theorem effectStages_fade
    (effects : Effects)
    {geometry : ClipGeometry}
    {playing : Binary64}
    (isPlaying :
      geometry.duration.divide effects.playbackSpeed = .ok playing) :
    Outcome.Yields
      (fun stages => FadesAsAsked effects playing stages.picture stages.sound)
      (effectStages effects geometry) := by
  have absent
      {α : Type}
      (effect : Option α)
      {names : List String}
      {stages : α → Outcome (List Filter)}
      (named : ∀ value, Outcome.Yields (AllNamed names) (stages value)) :
      Outcome.Yields (AllNamed names) (stagesOf effect stages) := by
    cases effect with
    | none => exact .ok .nil
    | some value => exact named value
  unfold effectStages
  refine (absent _ fun crop => cropStages_named crop _ _).bind ?_
  intro crop cropNamed
  refine (absent _ fun zoom => zoomStages_named zoom _ _ _ _).bind ?_
  intro zoom zoomNamed
  have color : AllNamed ["eq"] (effects.color.elim [] gradeStages) :=
    .elim _ gradeStages_named
  have speed := soundSpeedStages_named effects.playbackSpeed
  have setpts := pictureSpeedStages_named effects.playbackSpeed
  refine .ok ⟨?_, ?_, ?_⟩
  · have fades :
        AllNamed ["volume", "afade", "loudnorm"]
          (effects.activeFade?.elim [] fun fade =>
            soundFades fade geometry.duration effects.playbackSpeed) :=
      .elim _ fun fade =>
        (fadeStages_named "afade" _ _ _ _).mono (by simp)
    have sound :
        AllNamed ["volume", "afade", "loudnorm"]
          (effects.audio.elim [] fun audio =>
            soundStages audio geometry.duration effects.playbackSpeed
              effects.fadesTogether) :=
      .elim _ fun audio => soundStages_named audio _ _ _
    have ordered :=
      speed.pairwise_append (by decide : "afade" ∉ _) (fades.append sound)
        (by decide : "atempo" ∉ _)
    rwa [← List.append_assoc] at ordered
  · simp only [stagesNamed_append, speed.without (by decide : "afade" ∉ _),
      List.nil_append]
    unfold FadeLengths.options Effects.soundFadeLengths
    rw [effects.fadesTogether_eq]
    cases effects.activeFade? with
    | some fade =>
        have noOthers :
            stagesNamed "afade"
                (effects.audio.elim [] fun audio =>
                  soundStages audio geometry.duration effects.playbackSpeed
                    true) = [] := by
          cases effects.audio with
          | none => rfl
          | some audio => exact stagesNamed_soundStages audio _ _ true
        simp only [Option.elim_some, Option.isSome_some, noOthers,
          List.append_nil]
        rw [soundFades, (fadeStages_named "afade" _ _ _ _).only]
        exact options_fadeStages "afade" isPlaying _ _
    | none =>
        simp only [Option.elim_none, Option.isSome_none]
        cases effects.audio with
        | none => exact (fadeOptions_zero playing).symm
        | some audio =>
            rw [Option.elim_some, stagesNamed_soundStages]
            exact options_fadeStages "afade" isPlaying _ _
  · simp only [stagesNamed_append, setpts.without (by decide : "fade" ∉ _),
      cropNamed.without (by decide : "fade" ∉ _),
      zoomNamed.without (by decide : "fade" ∉ _),
      color.without (by decide : "fade" ∉ _), List.nil_append]
    unfold FadeLengths.options Effects.pictureFadeLengths
    cases effects.activeFade? with
    | some fade =>
        rw [Option.elim_some, pictureFades,
          (fadeStages_named "fade" _ _ _ _).only]
        exact options_fadeStages "fade" isPlaying _ _
    | none => exact (fadeOptions_zero playing).symm

/-! ## Lengths of accepted fades -/

/-- Both lengths can be those of fades. -/
structure FadeLengths.AreShort (lengths : FadeLengths) : Prop where
  atStart : IsFadeLength lengths.atStart
  atEnd : IsFadeLength lengths.atEnd

theorem isFadeLength_of_covers
    {length : Binary64}
    (covered :
      Range.Covers { low := 0, high := (5 : Binary64) } (.number length)) :
    IsFadeLength length := by
  obtain ⟨low, place, high, isLow, isPlace, isHigh, above, below⟩ := covered
  exact ⟨Binary64.atMost_iff.mpr ⟨low, place, isLow, isPlace, above⟩,
    Binary64.atMost_iff.mpr ⟨place, high, isPlace, isHigh, below⟩⟩

theorem FadeLengths.noLengths_areShort : FadeLengths.AreShort {} where
  atStart := ⟨by decide +kernel, by decide +kernel⟩
  atEnd := ⟨by decide +kernel, by decide +kernel⟩

/-- A fade is active exactly if one of its lengths is not zero. -/
theorem FadeEffect.isActive_iff
    {fade : FadeEffect}
    (short : FadeLengths.AreShort ⟨fade.fadeIn, fade.fadeOut⟩) :
    fade.isActive = true ↔ fade.fadeIn.exact ≠ 0 ∨ fade.fadeOut.exact ≠ 0 := by
  rw [isActive, Bool.or_eq_true, Bool.not_eq_true', Bool.not_eq_true',
    ← Bool.not_eq_true, ← Bool.not_eq_true,
    Binary64.isZero_iff short.atStart.within.isFinite,
    Binary64.isZero_iff short.atEnd.within.isFinite]

namespace Effects

variable {effects : Effects} {fields : Fields}

theorem IsSettled.fadeLengths
    (settled : effects.IsSettled fields)
    {fade : FadeEffect}
    (isFade : fade ∈ effects.fade) :
    FadeLengths.AreShort ⟨fade.fadeIn, fade.fadeOut⟩ := by
  obtain ⟨sent, _, isSettled⟩ := settled.fade fade isFade
  have fadeIn := isSettled.fadeIn.inRange
  have fadeOut := isSettled.fadeOut.inRange
  rw [FadeEffect.range_underLongName] at fadeIn fadeOut
  exact ⟨isFadeLength_of_covers fadeIn, isFadeLength_of_covers fadeOut⟩

theorem IsSettled.audioLengths
    (settled : effects.IsSettled fields)
    {audio : AudioEffect}
    (isAudio : audio ∈ effects.audio) :
    FadeLengths.AreShort ⟨audio.fadeIn, audio.fadeOut⟩ := by
  obtain ⟨sent, _, isSettled⟩ := settled.audio audio isAudio
  exact ⟨isFadeLength_of_covers isSettled.fadeIn.inRange,
    isFadeLength_of_covers isSettled.fadeOut.inRange⟩

theorem IsSettled.pictureFadeLengths_areShort
    (settled : effects.IsSettled fields) :
    effects.pictureFadeLengths.AreShort := by
  unfold pictureFadeLengths
  split
  · rename_i fade isFade
    exact settled.fadeLengths (Option.filter_eq_some_iff.mp isFade).1
  · exact FadeLengths.noLengths_areShort

theorem IsSettled.soundFadeLengths_areShort
    (settled : effects.IsSettled fields) :
    effects.soundFadeLengths.AreShort := by
  unfold soundFadeLengths
  split
  · rename_i fade isFade
    exact settled.fadeLengths (Option.filter_eq_some_iff.mp isFade).1
  · rename_i audio _ isAudio
    exact settled.audioLengths isAudio
  · exact FadeLengths.noLengths_areShort

end Effects

/-! ## Graphs -/

namespace Graph

/-- The fades of the picture. -/
def pictureFades (graph : Graph) : List Filter :=
  stagesNamed "fade" graph.videoFilters

/-- The fades of the sound. -/
def soundFades (graph : Graph) : List Filter :=
  stagesNamed "afade" graph.soundStages

/-- Nothing fades twice, and what fades does so as effects ask for, in a clip
that plays for some seconds. -/
structure FadesOnce
    (graph : Graph)
    (effects : Effects)
    (playing : Binary64) :
    Prop where
  afterTempo :
    graph.soundStages.Pairwise fun earlier later =>
      earlier.name = "afade" → later.name ≠ "atempo"
  directed :
    ∀ stage ∈ graph.soundFades,
      stage.toldUnder? "t" = some "in" ∨ stage.toldUnder? "t" = some "out"
  opensOnce : (stagesToward "in" graph.soundFades).length ≤ 1
  closesOnce : (stagesToward "out" graph.soundFades).length ≤ 1
  together :
    ∀ fade ∈ effects.activeFade?,
      graph.soundFades.map Filter.options =
          graph.pictureFades.map Filter.options ∧
        graph.pictureFades.map Filter.options =
          fadeOptions playing fade.fadeIn fade.fadeOut
  alone :
    effects.activeFade? = none →
      graph.pictureFades = [] ∧
        graph.soundFades.map Filter.options =
          effects.audio.elim [] fun audio =>
            fadeOptions playing audio.fadeIn audio.fadeOut
  closing :
    ∀ stage ∈ graph.pictureFades ++ graph.soundFades,
      stage.toldUnder? "t" = some "out" →
      ∃ length,
        IsFadeLength length ∧ stage.options = closingOptions playing length

variable {graph : Graph} {effects : Effects} {playing : Binary64}

theorem fadesOnce_of_asAsked
    {fields : Fields}
    (settled : effects.IsSettled fields)
    (asAsked :
      FadesAsAsked effects playing graph.videoFilters graph.soundStages) :
    graph.FadesOnce effects playing := by
  have closing
      {lengths : FadeLengths}
      {stages : List Filter}
      (areShort : lengths.AreShort)
      (areFades : stages.map Filter.options = lengths.options playing)
      {stage : Filter}
      (member : stage ∈ stages)
      (isClosing : stage.toldUnder? "t" = some "out") :
      ∃ length,
        IsFadeLength length ∧
        stage.options = closingOptions playing length := by
    rcases opening_or_closing areFades member with isOpening | isOptions
    · rw [direction_of_opening isOpening] at isClosing
      exact absurd isClosing (by decide)
    · exact ⟨lengths.atEnd, areShort.atEnd, isOptions⟩
  obtain ⟨opening, ending, _, isOpening, isEnding, opensOnce, closesOnce⟩ :=
    stages_eq_of_fades asAsked.inSound
  exact {
    afterTempo := asAsked.afterTempo
    directed := by
      intro stage member
      rcases opening_or_closing asAsked.inSound member with isTold | isTold
      · exact .inl (direction_of_opening isTold)
      · exact .inr (direction_of_closing isTold)
    opensOnce := by rwa [soundFades, isOpening]
    closesOnce := by rwa [soundFades, isEnding]
    together := by
      intro fade isFade
      have inSound := asAsked.inSound
      have inPicture := asAsked.inPicture
      rw [Option.mem_def] at isFade
      simp only [Effects.soundFadeLengths, Effects.pictureFadeLengths, isFade]
        at inSound inPicture
      exact ⟨inSound.trans inPicture.symm, inPicture⟩
    alone := by
      intro noFade
      have inSound := asAsked.inSound
      have inPicture := asAsked.inPicture
      simp only [Effects.soundFadeLengths, Effects.pictureFadeLengths, noFade]
        at inSound inPicture
      refine ⟨?_, ?_⟩
      · rw [FadeLengths.options, fadeOptions_zero] at inPicture
        exact List.map_eq_nil_iff.mp inPicture
      · cases isAudio : effects.audio with
        | some audio =>
            rw [isAudio] at inSound
            exact inSound
        | none =>
            rw [isAudio] at inSound
            exact inSound.trans (fadeOptions_zero playing)
    closing := by
      intro stage member isClosing
      rcases List.mem_append.mp member with inPicture | inSound
      · exact closing settled.pictureFadeLengths_areShort asAsked.inPicture
          inPicture isClosing
      · exact closing settled.soundFadeLengths_areShort asAsked.inSound
          inSound isClosing }

end Graph

namespace FlatSource

/-- The graph of a flat render has the fades of its stages. -/
theorem compile_fades
    (source : FlatSource)
    (fontDirectory : String)
    {playing : Binary64}
    (isPlaying :
      source.geometry.duration.divide source.effects.playbackSpeed =
        .ok playing) :
    (source.compile fontDirectory).Yields fun graph =>
      FadesAsAsked source.effects playing graph.videoFilters
        graph.soundStages := by
  unfold compile
  refine (JobProgram.Yields.ofOutcome
    (effectStages_fade source.effects isPlaying)).bind ?_
  intro stages asAsked
  refine (subtitleStages_named _ _).bind ?_
  intro subtitles subtitlesNamed
  refine (textStages_named _).bind ?_
  intro text textNamed
  have drawn :
      FadesAsAsked source.effects playing (stages.picture ++ subtitles ++ text)
        stages.sound := by
    refine { asAsked with inPicture := ?_ }
    rw [stagesNamed_append, stagesNamed_append,
      subtitlesNamed.without (by decide), textNamed.without (by decide),
      List.append_nil, List.append_nil]
    exact asAsked.inPicture
  apply JobProgram.Yields.ofOutcome
  unfold graph
  split
  · exact .ok drawn
  · exact .after fun _ => .ok drawn

variable {State : Type} {surroundings : Surroundings State}

/--
However a flat render of accepted effects is made, its sound fades at most once
in each direction, after the stages that change its speed. A fade of both
streams is active if one of its lengths is not zero. An active one is the same
in both, whatever is asked for the sound; without one, the picture does not
fade, and the sound has the fades that are asked for it and have a length. A
fade at the end starts by the time that is left at the speed,
in seconds with two places; for a measured clip, that is the time of exact
arithmetic but for half a hundredth and a millionth.
-/
theorem fades_once_and_in_time
    {source : FlatSource}
    {value : Json}
    (isRead : Effects.read value = .valid source.effects)
    (fontDirectory : String)
    {state final : State}
    {events : List (Event State)}
    {files after : JobFiles}
    {graph : Graph}
    (run :
      Run surroundings state ((source.compile fontDirectory).start files)
        events (.ok graph, after) final) :
    ∃ playing,
      source.geometry.duration.divide source.effects.playbackSpeed =
        .ok playing ∧
      graph.FadesOnce source.effects playing ∧
      (∀ fade ∈ source.effects.fade,
        fade.isActive = true ↔
          fade.fadeIn.exact ≠ 0 ∨ fade.fadeOut.exact ≠ 0) ∧
      (IsMeasure source.geometry.duration →
        ∀ stage ∈ graph.pictureFades ++ graph.soundFades,
          stage.toldUnder? "t" = some "out" →
          ∃ length start printed,
            stage.options =
              [("t", .text "out"), ("st", .text start),
                ("d", .number length)] ∧
            Denotes start.toList printed ∧
            |printed -
                max 0
                  (source.geometry.duration.exact /
                    source.effects.playbackSpeed.exact - length.exact)| ≤
              1 / 200 + 1 / 1000000) := by
  have ranged := (Effects.isRanged_of_read isRead).playbackSpeed
  have notZero : source.effects.playbackSpeed.isZero = false := by
    by_contra isZero
    rw [Bool.not_eq_false] at isZero
    have quarter := (speed_exact ranged).2.1
    rw [Binary64.exact_of_isZero isZero] at quarter
    norm_num at quarter
  obtain ⟨playing, isPlaying⟩ :=
    (Binary64.divide_isOk_iff source.geometry.duration _).mpr notZero
  obtain ⟨fields, _, isFields⟩ := readObject_eq_valid_iff.mp isRead
  have settled := Effects.isSettled_of_read isFields
  have once : graph.FadesOnce source.effects playing :=
    Graph.fadesOnce_of_asAsked settled
      ((source.compile_fades fontDirectory isPlaying).of_run run)
  refine ⟨playing, isPlaying, once, fun fade isFade =>
    FadeEffect.isActive_iff (settled.fadeLengths isFade), ?_⟩
  intro measured stage member isClosing
  obtain ⟨length, isLength, isOptions⟩ := once.closing stage member isClosing
  obtain ⟨printed, denotes, near⟩ :=
    closingTime_near measured ranged isPlaying isLength
  refine ⟨length, _, printed, isOptions, ?_, near⟩
  rwa [String.toList_ofList]

/-- A clip at double speed that fades at both ends, and whose sound is asked to
fade otherwise. -/
def fading : FlatSource where
  effects := {
    speed := some { value := 2 }
    fade := some { fadeIn := 1, fadeOut := 0.5 }
    audio := some {
      volume := 1
      fadeIn := 3
      fadeOut := 2
      normalize := true } }
  videoFile := "/in/v.mp4"
  audioFile := "/in/s.mp3"

/-- The effects of the clip as they are sent. -/
def fadingRequest : Json :=
  .object [
    ("speed", .integer 2),
    ("fade", .object [("in", .integer 1), ("out", .number 0.5)]),
    ("audio",
      .object [
        ("fade_in", .integer 3), ("fade_out", .integer 2),
        ("normalize", .bool true)])]

/-- Both streams fade together at double speed. -/
theorem fading_together :
    Effects.read fadingRequest = .valid fading.effects ∧
    ∃ events graph after playing,
      Run (Surroundings.ofShelf .bare) ()
        ((fading.compile "/fonts").start noFiles) events (.ok graph, after)
        () ∧
      fading.geometry.duration.divide 2 = .ok playing ∧
      graph.FadesOnce fading.effects playing := by
  have isRead : Effects.read fadingRequest = .valid fading.effects :=
    Checked.eq_valid_of_toOption (by decide +kernel)
  have accepted : fading.IsAccepted := {
    effects := ⟨fadingRequest, isRead⟩
    cues := ⟨"", rfl⟩
    overlay := by simp [fading]
    media := by simp [fading] }
  obtain ⟨events, ⟨outcome, after⟩, run⟩ :=
    Surroundings.exists_run_ofShelf .bare
      ((fading.compile "/fonts").start noFiles)
  have isOk :=
    (compile_isOk_iff accepted (Surroundings.ofShelf_serves .bare) "/fonts"
      run).mpr (by simp [fading])
  cases outcome with
  | error failure => cases isOk
  | ok graph =>
      obtain ⟨playing, isPlaying, once, _⟩ :=
        fades_once_and_in_time isRead "/fonts" run
      exact ⟨isRead, events, graph, after, playing, run, isPlaying, once⟩

end FlatSource

end Montage
