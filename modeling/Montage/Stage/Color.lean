import Montage.Effect.Picture
import Montage.Graph.Filter

namespace Montage

/-!
# Colour grading

A preset is a grade; single values of an effect take precedence over it. Only
values that change the picture are written.
-/

/-- The four values of a grade. -/
structure Grade where
  brightness : Binary64 := 0
  contrast : Binary64 := 1
  saturation : Binary64 := 1
  gamma : Binary64 := 1
deriving DecidableEq

namespace Grade

/-- The grade that changes nothing. -/
def identity : Grade := {}

/-- Grades by name. -/
def presets : List (String × Grade) := [
  ("cinematic", ⟨0.02, 1.15, 0.85, 0.95⟩),
  ("warm", ⟨0.05, 1.05, 1.2, 1⟩),
  ("cool", ⟨0, 1.1, 0.9, 1.05⟩),
  ("vintage", ⟨0.08, 0.9, 0.6, 1.1⟩),
  ("dramatic", ⟨-0.05, 1.4, 1.1, 0.85⟩),
  ("bw", ⟨0, 1.2, 0, 1⟩),
  ("vibrant", ⟨0.03, 1.1, 1.5, 1⟩),
  ("muted", ⟨0.02, 0.95, 0.5, 1.05⟩),
  ("noir", ⟨-0.1, 1.5, 0, 0.8⟩)]

/-- The grade of an effect; an unknown preset is the identity. -/
def ofEffect (effect : ColorEffect) : Grade :=
  let base :=
    (effect.preset.bind fun name => presets.lookup name).getD identity
  { brightness := effect.brightness.getD base.brightness
    contrast := effect.contrast.getD base.contrast
    saturation := effect.saturation.getD base.saturation
    gamma := effect.gamma.getD base.gamma }

/-- An option with a value, unless the value is the neutral one. -/
def optionUnless
    (neutral : Binary64)
    (name : String)
    (value : Binary64) :
    List (String × OptionValue) :=
  if value.equals neutral then [] else [(name, .number value)]

/-- The values of a grade that change something. -/
def options (grade : Grade) : List (String × OptionValue) :=
  optionUnless identity.brightness "brightness" grade.brightness ++
    optionUnless identity.contrast "contrast" grade.contrast ++
    optionUnless identity.saturation "saturation" grade.saturation ++
    optionUnless identity.gamma "gamma" grade.gamma

end Grade

/-- The stage of a colour effect, if it changes anything. -/
def gradeStages (effect : ColorEffect) : List Filter :=
  let options := (Grade.ofEffect effect).options
  if options.isEmpty then [] else [{ name := "eq", options }]

end Montage
