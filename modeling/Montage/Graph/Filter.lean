import Montage.Number.Decimal
import Montage.Number.Numeral
import Montage.Text.Split

namespace Montage

/-!
# Filters

One processing stage: a name, positional values and named options. Values keep
their kind, because the kind decides how a value is protected in graph text.
-/

/-! ## Escaping

An option value is read twice: first by the graph, where quotes protect
separators, then by its filter, where a backslash does. Each function here adds
the protection of one level.
-/

/-- Put a backslash before the separators of the option level. -/
def escapeOption (text : List Char) : List Char :=
  text.flatMap fun character =>
    if character = '\\' ∨ character = '\'' ∨ character = ':' then
      ['\\', character]
    else
      [character]

/-- Escape a path for the option level; its backslashes become slashes. -/
def escapePath (path : List Char) : List Char :=
  path.flatMap fun character =>
    if character = '\\' then
      ['/']
    else if character = ':' ∨ character = '\'' then
      ['\\', character]
    else
      [character]

/--
Quote a value for the graph level. A quote inside closes the section, stands
escaped between sections, and opens the next one.
-/
def quoteValue (escaped : List Char) : List Char :=
  '\'' :: replaceChar '\'' ['\'', '\\', '\'', '\''] escaped ++ ['\'']

/-- Characters that would end a value at one of the two levels. -/
def isGraphSpecial (character : Char) : Bool :=
  ['\\', '\'', ':', ',', ';', '[', ']'].contains character

/-! ## Values and filters -/

/-- A value given to a filter. -/
inductive OptionValue
  | text (value : String)
  | expression (value : String)
  | path (value : String)
  | integer (value : Int)
  | number (value : Binary64)
  | flag (value : Bool)

/-- A number with at most six places and no superfluous zeros. -/
def plainNumber (number : Binary64) : List Char :=
  match number with
  | .finite negative units _ =>
      let count := roundHalfEven (units * powerOfTen 6) unitsPerOne
      let parts := splitPlaces 6 count
      withSign (negative && count ≠ 0)
        (joinPlaces parts.1 (dropTrailingZeros parts.2))
  | other => other.fixedText 6

namespace OptionValue

/-- Whether a value has a text: an integer with too many digits has none. -/
def isWritten : OptionValue → Bool
  | integer value => isWrittenInteger value
  | _ => true

/-- A value as it stands in graph text, if it is written. -/
def render : OptionValue → List Char
  | path value => quoteValue (escapePath value.toList)
  | expression value => '\'' :: value.toList ++ ['\'']
  | integer value => integerText value
  | number value => plainNumber value
  | flag value => if value then ['1'] else ['0']
  | text value =>
      if value.toList.any isGraphSpecial then
        quoteValue (escapeOption value.toList)
      else
        value.toList

end OptionValue

/-- A filter with its values in order. -/
structure Filter where
  name : String
  arguments : List OptionValue := []
  options : List (String × OptionValue) := []

namespace Filter

/-- Whether all values of a filter have a text. -/
def isWritten (filter : Filter) : Bool :=
  filter.arguments.all OptionValue.isWritten &&
    filter.options.all fun option => option.2.isWritten

/-- The texts of the positional values and then of the named options. -/
def parts (filter : Filter) : List (List Char) :=
  filter.arguments.map OptionValue.render ++
    filter.options.map fun option =>
      option.1.toList ++ '=' :: option.2.render

/-- `name`, or `name=value:key=value` with colons between the parts. -/
def render (filter : Filter) : List Char :=
  if filter.parts.isEmpty then
    filter.name.toList
  else
    filter.name.toList ++ '=' :: joinWith [':'] filter.parts

/-- A filter as a string. -/
def toText (filter : Filter) : String :=
  String.ofList filter.render

end Filter

end Montage
