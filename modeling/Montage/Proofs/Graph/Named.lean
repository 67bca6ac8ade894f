import Montage.Proofs.Graph.Stages
import Montage.Render.Flat

namespace Montage

/-!
# Names of stages

Which filters the stages of each effect are, and so which stages of a stream
have a name.
-/

/-! ## Stages of one kind -/

/-- The stages with a name. -/
def stagesNamed (name : String) (stages : List Filter) : List Filter :=
  stages.filter fun stage => stage.name = name

section Named

variable {name : String} {stages others : List Filter}

theorem stagesNamed_append :
    stagesNamed name (stages ++ others) =
      stagesNamed name stages ++ stagesNamed name others :=
  List.filter_append ..

end Named

/-! ## Names of stages -/

/-- All stages have one of some names. -/
def AllNamed (names : List String) (stages : List Filter) : Prop :=
  ∀ stage ∈ stages, stage.name ∈ names

namespace AllNamed

variable {name : String} {names : List String} {stages others : List Filter}

theorem nil : AllNamed names [] := by
  simp [AllNamed]

theorem cons
    {stage : Filter}
    (isNamed : stage.name ∈ names)
    (named : AllNamed names stages) :
    AllNamed names (stage :: stages) :=
  List.forall_mem_cons.mpr ⟨isNamed, named⟩

theorem append
    (first : AllNamed names stages)
    (second : AllNamed names others) :
    AllNamed names (stages ++ others) :=
  List.forall_mem_append.mpr ⟨first, second⟩

theorem elim
    {α : Type}
    (effect : Option α)
    {make : α → List Filter}
    (each : ∀ value, AllNamed names (make value)) :
    AllNamed names (effect.elim [] make) := by
  cases effect with
  | none => exact nil
  | some value => exact each value

theorem mono
    {more : List String}
    (named : AllNamed names stages)
    (included : names ⊆ more) :
    AllNamed more stages :=
  fun stage member => included (named stage member)

/-- Stages that all have a name are those with the name. -/
theorem only
    (named : AllNamed [name] stages) :
    stagesNamed name stages = stages :=
  List.filter_eq_self.mpr fun stage member =>
    decide_eq_true (List.mem_singleton.mp (named stage member))

/-- Stages with other names are none with the name. -/
theorem without
    (named : AllNamed names stages)
    (absent : name ∉ names) :
    stagesNamed name stages = [] := by
  refine List.filter_eq_nil_iff.mpr fun stage member isNamed => absent ?_
  rw [← of_decide_eq_true isNamed]
  exact named stage member

/-- Stages with some names before ones with others. -/
theorem pairwise_append
    {otherNames : List String}
    {other : String}
    (first : AllNamed names stages)
    (notFirst : name ∉ names)
    (second : AllNamed otherNames others)
    (notSecond : other ∉ otherNames) :
    (stages ++ others).Pairwise fun earlier later =>
      earlier.name = name → later.name ≠ other := by
  have notNamed :
      ∀ stage ∈ stages, stage.name ≠ name :=
    fun stage member same => notFirst (same ▸ first stage member)
  have notOther :
      ∀ stage ∈ others, stage.name ≠ other :=
    fun stage member same => notSecond (same ▸ second stage member)
  refine List.pairwise_append.mpr ⟨?_, ?_, ?_⟩
  · exact List.pairwise_of_forall_mem_list fun earlier isEarlier _ _ same =>
      absurd same (notNamed earlier isEarlier)
  · exact List.pairwise_of_forall_mem_list fun _ _ later isLater _ =>
      notOther later isLater
  · exact fun _ _ later isLater _ => notOther later isLater

end AllNamed

theorem pictureSpeedStages_named (speed : Binary64) :
    AllNamed ["setpts"] (pictureSpeedStages speed) := by
  unfold pictureSpeedStages
  split
  · exact .nil
  · exact .cons (List.mem_singleton.mpr rfl) .nil

theorem soundSpeedStages_named (speed : Binary64) :
    AllNamed ["atempo"] (soundSpeedStages speed) := by
  have tempo (factor : Binary64) : (tempoStage factor).name ∈ ["atempo"] :=
    List.mem_singleton.mpr rfl
  unfold soundSpeedStages
  split
  · exact .nil
  · split
    · exact .cons (tempo _) (.cons (tempo _) .nil)
    · split <;> exact .cons (tempo _) .nil

theorem cropStages_named
    (effect : CropEffect)
    (width height : Json) :
    Outcome.Yields (AllNamed ["crop", "scale", "pad"])
      (cropStages effect width height) := by
  have cut :
      Outcome.Yields (AllNamed ["crop", "scale", "pad"])
        (cropToRatio effect width height) := by
    unfold cropToRatio
    split
    · exact .ok .nil
    · split
      · exact .ok .nil
      · refine .after fun ratio => .after fun isWide => .ok ?_
        split <;>
          exact .cons (by simp [cropSides, cropEnds]) .nil
  have resized :
      AllNamed ["crop", "scale", "pad"]
        (resizeFilters effect.width effect.height) := by
    unfold resizeFilters
    split <;> simp [AllNamed]
  exact cut.bind fun stages named => .ok (named.append resized)

theorem zoomStages_named
    (effect : ZoomEffect)
    (duration : Binary64)
    (width height : Json)
    (frameRate : Binary64) :
    Outcome.Yields (AllNamed ["zoompan"])
      (zoomStages effect duration width height frameRate) :=
  .after fun _ => .ok (.cons (List.mem_singleton.mpr rfl) .nil)

theorem gradeStages_named (effect : ColorEffect) :
    AllNamed ["eq"] (gradeStages effect) := by
  unfold gradeStages
  dsimp only
  split
  · exact .nil
  · exact .cons (List.mem_singleton.mpr rfl) .nil

theorem subtitleStages_named
    (plan : SubtitlePlan)
    (cues : List Cue) :
    (subtitleStages plan cues).Yields (AllNamed ["subtitles"]) := by
  refine (subtitleStages_yields plan cues).imp ?_
  intro stages areSubtitles stage member
  obtain ⟨file, rfl⟩ := areSubtitles stage member
  exact List.mem_singleton.mpr rfl

theorem textStages_named (overlay : Option TextOverlay) :
    (textStages overlay).Yields (AllNamed ["drawtext"]) := by
  unfold textStages
  split
  · exact .pure .nil
  · split
    · exact .pure .nil
    · refine .after fun fontFile => .after fun file => ?_
      unfold drawnStages
      split
      · exact .pure .nil
      · exact .after fun _ =>
          .pure (.cons (List.mem_singleton.mpr rfl) .nil)

theorem fadeStages_named
    (name : String)
    (fadeIn fadeOut duration speed : Binary64) :
    AllNamed [name] (fadeStages name fadeIn fadeOut duration speed) := by
  have opening : AllNamed [name] (fadeInStages name fadeIn) := by
    unfold fadeInStages
    split
    · exact .nil
    · exact .cons (List.mem_singleton.mpr rfl) .nil
  have closing :
      AllNamed [name]
        (fadeOutStages name (playedDuration duration speed) fadeOut) := by
    unfold fadeOutStages
    split
    · exact .nil
    · exact .cons (List.mem_singleton.mpr rfl) .nil
  exact opening.append closing

theorem soundStages_named
    (effect : AudioEffect)
    (duration speed : Binary64)
    (fadesTogether : Bool) :
    AllNamed ["volume", "afade", "loudnorm"]
      (soundStages effect duration speed fadesTogether) := by
  refine AllNamed.append (.append ?_ ?_) ?_
  · split
    · exact .nil
    · exact .cons List.mem_cons_self .nil
  · split
    · exact .nil
    · exact (fadeStages_named "afade" _ _ _ _).mono (by simp)
  · split
    · exact .cons (by simp [loudnessStage]) .nil
    · exact .nil

theorem stagesNamed_soundStages
    (effect : AudioEffect)
    (duration speed : Binary64)
    (fadesTogether : Bool) :
    stagesNamed "afade" (soundStages effect duration speed fadesTogether) =
      if fadesTogether then
        []
      else
        fadeStages "afade" effect.fadeIn effect.fadeOut duration speed := by
  have volume :
      AllNamed ["volume"]
        (if effect.volume.equals 1 then
          []
        else
          [{ name := "volume", arguments := [.number effect.volume] }]) := by
    split
    · exact .nil
    · exact .cons (List.mem_singleton.mpr rfl) .nil
  have normal :
      AllNamed ["loudnorm"]
        (if effect.normalize then [loudnessStage] else []) := by
    split
    · exact .cons (List.mem_singleton.mpr rfl) .nil
    · exact .nil
  rw [soundStages, stagesNamed_append, stagesNamed_append,
    volume.without (by decide), normal.without (by decide), List.nil_append,
    List.append_nil]
  cases fadesTogether with
  | true => rfl
  | false =>
      exact (fadeStages_named "afade" _ _ _ _).only

end Montage
