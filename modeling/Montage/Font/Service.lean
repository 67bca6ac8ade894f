import Montage.Disk.Basic

namespace Montage

/-!
# Fonts

The fonts that a request may name, and the files that stand for them.
-/

/-! ## Font catalogue

The fonts that texts and subtitles may use: the name by which a request chooses
a font, the address of its file, and the family under which it is known.
-/

/-- A font of the catalogue. -/
structure CatalogFont where
  name : String
  file : String
  family : String
  category : String
deriving DecidableEq, Repr

namespace CatalogFont

/-- Where the files of all fonts are published. -/
def collection : String :=
  "https://github.com/google/fonts/raw/main/ofl"

/-- The address of a font's file. -/
def address (font : CatalogFont) : String :=
  collection ++ "/" ++ font.file

/-- All fonts, in the order of the catalogue. -/
def catalog : List CatalogFont := [
  { name := "inter_regular"
    file := "inter/Inter%5Bopsz%2Cwght%5D.ttf"
    family := "Inter"
    category := "sans-serif" },
  { name := "inter_bold"
    file := "inter/Inter%5Bopsz%2Cwght%5D.ttf"
    family := "Inter"
    category := "sans-serif" },
  { name := "roboto_regular"
    file := "roboto/Roboto%5Bwdth%2Cwght%5D.ttf"
    family := "Roboto"
    category := "sans-serif" },
  { name := "roboto_bold"
    file := "roboto/Roboto%5Bwdth%2Cwght%5D.ttf"
    family := "Roboto"
    category := "sans-serif" },
  { name := "opensans_regular"
    file := "opensans/OpenSans%5Bwdth%2Cwght%5D.ttf"
    family := "Open Sans"
    category := "sans-serif" },
  { name := "montserrat_regular"
    file := "montserrat/Montserrat%5Bwght%5D.ttf"
    family := "Montserrat"
    category := "sans-serif" },
  { name := "montserrat_bold"
    file := "montserrat/Montserrat%5Bwght%5D.ttf"
    family := "Montserrat"
    category := "sans-serif" },
  { name := "poppins_regular"
    file := "poppins/Poppins-Regular.ttf"
    family := "Poppins"
    category := "sans-serif" },
  { name := "poppins_bold"
    file := "poppins/Poppins-Bold.ttf"
    family := "Poppins"
    category := "sans-serif" },
  { name := "poppins_semibold"
    file := "poppins/Poppins-SemiBold.ttf"
    family := "Poppins SemiBold"
    category := "sans-serif" },
  { name := "playfair_regular"
    file := "playfairdisplay/PlayfairDisplay%5Bwght%5D.ttf"
    family := "Playfair Display"
    category := "serif" },
  { name := "playfair_bold"
    file := "playfairdisplay/PlayfairDisplay%5Bwght%5D.ttf"
    family := "Playfair Display"
    category := "serif" },
  { name := "playfair_italic"
    file := "playfairdisplay/PlayfairDisplay-Italic%5Bwght%5D.ttf"
    family := "Playfair Display"
    category := "serif" },
  { name := "lora_regular"
    file := "lora/Lora%5Bwght%5D.ttf"
    family := "Lora"
    category := "serif" },
  { name := "lora_italic"
    file := "lora/Lora-Italic%5Bwght%5D.ttf"
    family := "Lora"
    category := "serif" },
  { name := "merriweather_regular"
    file := "merriweather/Merriweather%5Bwght%5D.ttf"
    family := "Merriweather"
    category := "serif" },
  { name := "bebasneue"
    file := "bebasneue/BebasNeue-Regular.ttf"
    family := "Bebas Neue"
    category := "display" },
  { name := "oswald_regular"
    file := "oswald/Oswald%5Bwght%5D.ttf"
    family := "Oswald"
    category := "display" },
  { name := "anton"
    file := "anton/Anton-Regular.ttf"
    family := "Anton"
    category := "display" },
  { name := "permanent_marker"
    file := "permanentmarker/PermanentMarker-Regular.ttf"
    family := "Permanent Marker"
    category := "display" },
  { name := "bangers"
    file := "bangers/Bangers-Regular.ttf"
    family := "Bangers"
    category := "display" },
  { name := "righteous"
    file := "righteous/Righteous-Regular.ttf"
    family := "Righteous"
    category := "display" },
  { name := "dancing_script"
    file := "dancingscript/DancingScript%5Bwght%5D.ttf"
    family := "Dancing Script"
    category := "handwriting" },
  { name := "pacifico"
    file := "pacifico/Pacifico-Regular.ttf"
    family := "Pacifico"
    category := "handwriting" },
  { name := "caveat"
    file := "caveat/Caveat%5Bwght%5D.ttf"
    family := "Caveat"
    category := "handwriting" },
  { name := "satisfy"
    file := "satisfy/Satisfy-Regular.ttf"
    family := "Satisfy"
    category := "handwriting" },
  { name := "firacode"
    file := "firacode/FiraCode%5Bwght%5D.ttf"
    family := "Fira Code"
    category := "monospace" },
  { name := "jetbrains_mono"
    file := "jetbrainsmono/JetBrainsMono%5Bwght%5D.ttf"
    family := "JetBrains Mono"
    category := "monospace" }
]

/-- The font of a name. -/
def find? (name : String) : Option CatalogFont :=
  catalog.find? fun font => font.name == name

/-- The names of all fonts. -/
def names : List String :=
  catalog.map CatalogFont.name

/-- The categories, each once, in the order of the catalogue. -/
def categories : List (String × List String) :=
  (catalog.map CatalogFont.category).eraseDups.map fun category =>
    (category,
      (catalog.filter fun font => font.category == category).map
        CatalogFont.name)

end CatalogFont

/-! ## Font files

Which file and which family a font name stands for. A font whose file is not
there gives way to one of the fallback fonts, and these to the system's font.
-/

/-- Where font files are kept, and the font that is always there. -/
structure FontShelf where
  directory : Path
  systemFont : String

namespace FontShelf

/-- A file that is not larger holds no complete font. -/
def leastSize : Nat :=
  1000

/-- The fonts that stand in for missing ones. -/
def fallbacks : List String :=
  ["poppins_regular", "inter_regular"]

/-- The family that subtitles use when no font is there. -/
def systemFamily : String :=
  "Arial"

/-- The file of a font. -/
def file
    (shelf : FontShelf)
    (name : String) :
    Path :=
  shelf.directory.join (name ++ ".ttf")

/-- Whether the file of a font is there and complete. -/
def holdsFont
    (shelf : FontShelf)
    (disk : Disk)
    (name : String) :
    Bool :=
  match disk.size (shelf.file name) with
  | .ok size => leastSize < size
  | .error _ => false

/-- Whether the file of any name is there and complete, if its name is none
that the disk refuses. -/
def checkFont
    (shelf : FontShelf)
    (disk : Disk)
    (name : String) :
    Outcome Bool :=
  (disk.holds (shelf.file name)).map fun there =>
    there && shelf.holdsFont disk name

/-- The font to use for a name: itself or the first fallback that is there. -/
def choose?
    (shelf : FontShelf)
    (disk : Disk)
    (name : String) :
    Option CatalogFont :=
  (name :: fallbacks).findSome? fun candidate =>
    (CatalogFont.find? candidate).filter fun font =>
      shelf.holdsFont disk font.name

/-- The file to use for a name. -/
def resolve
    (shelf : FontShelf)
    (disk : Disk)
    (name : String) :
    String :=
  match shelf.choose? disk name with
  | some font => (shelf.file font.name).toText
  | none => shelf.systemFont

/-- The family to use for a name. -/
def family
    (shelf : FontShelf)
    (disk : Disk)
    (name : String) :
    String :=
  match shelf.choose? disk name with
  | some font => font.family
  | none => systemFamily

/-- The fonts that are there, with their files. -/
def available
    (shelf : FontShelf)
    (disk : Disk) :
    List (String × String) :=
  (CatalogFont.names.filter (shelf.holdsFont disk)).map fun name =>
    (name, (shelf.file name).toText)

end FontShelf

end Montage
