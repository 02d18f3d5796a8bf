import SpaceOpera.Chance.Context
import SpaceOpera.World.Noun

/-!
# Characters

Gender, the part that a character plays, and the traits of appearance, which are given or rolled once
from the tables of the part and the gender.
-/

namespace SpaceOpera

/-- The grammatical gender of a character. -/
inductive Gender where
  | feminine
  | masculine
  | neutral
deriving DecidableEq, Repr

namespace Gender

/-- Every gender. -/
def all : List Gender := [feminine, masculine, neutral]

/-- The name of the gender. -/
def name : Gender → String
  | feminine => "Feminine"
  | masculine => "Masculine"
  | neutral => "Neutral"

instance : Named Gender := ⟨all, name⟩

/-- The pronouns of the gender. -/
def pronouns : Gender → Pronouns
  | feminine => .sheHer
  | masculine => .heHim
  | neutral => .theyThem

end Gender

/-- The part that a character plays. -/
inductive Archetype where
  /-- The flawless heroine every plot revolves around. -/
  | lead
  | dreamboat
  /-- Never anything but happy. -/
  | optimist
  | rival
  | villain
  | plain
deriving DecidableEq, Repr

namespace Archetype

/-- Every part. -/
def all : List Archetype := [lead, dreamboat, optimist, rival, villain, plain]

/-- The name of the part. -/
def name : Archetype → String
  | lead => "Lead"
  | dreamboat => "Dreamboat"
  | optimist => "Optimist"
  | rival => "Rival"
  | villain => "Villain"
  | plain => "Plain"

instance : Named Archetype := ⟨all, name⟩

/-- The part that works against the others. -/
def isAntagonist (a : Archetype) : Bool :=
  a = villain

end Archetype

/-- Appearance and battle cry. -/
structure Traits where
  stature : String
  hairLength : String
  hairColour : String
  eyeColour : String
  warCry : String
  featureAdj : String
  feature : String
deriving DecidableEq, Repr

/-- The looks that the characters of the examples share. -/
def Traits.redhead : Traits :=
  { stature := "tall", hairLength := "long", hairColour := "red", eyeColour := "green"
    warCry := "BY THE MOONS OF SATURN", featureAdj := "small", feature := "nose" }

/-- A gender, a part and how one looks. -/
structure Character where
  gender : Gender
  archetype : Archetype
  traits : Traits
deriving DecidableEq, Repr

namespace Archetype

/-- How tall a character of the part may be. -/
def statures : Archetype → List String
  | lead => ["adorably petite", "short, but in a way everyone agreed was perfect",
      "exactly the right height for a starship ensign", "tall for a girl, but in a graceful way"]
  | dreamboat => ["just tall enough to lean against doorways",
      "of a height that made other men feel short", "tall, but handsomely so, not awkwardly so"]
  | _ => ["on the short side", "of middling height", "fairly tall"]

/-- How long the hair of the part may be. -/
def hairLengths : Archetype → List String
  | lead => ["astonishingly long (all the way to her ankles)", "cascading", "luxuriously long",
      "bouncy shoulder length"]
  | _ => ["long", "shoulder length", "short", "cropped"]

/-- The colours of hair of the part. -/
def hairColours : Archetype → List String
  | lead => ["lilac", "indigo", "violet", "midnight blue", "silver and violet", "rainbow streaked",
      "iridescent", "shimmering opal"]
  | villain => ["jet black", "bone white", "acid green", "platinum"]
  | _ => ["blonde", "brown", "red", "chestnut", "black"]

/-- The colours of eyes of the part. -/
def eyeColours : Archetype → List String
  | lead => ["violet", "amethyst", "glacier blue", "kaleidoscopic", "shimmering rainbow",
      "starlit silver"]
  | _ => ["brown", "blue", "grey", "green", "hazel"]

/-- What may be said of the most noted feature. -/
def featureAdjs : Archetype → Gender → List String
  | lead, _ => ["flawless", "adorable", "radiant", "bewitching"]
  | dreamboat, _ => ["chiselled", "noble", "magnificent", "dashing"]
  | villain, _ => ["crooked", "jutting", "sneering", "scarred"]
  | _, .masculine => ["strong", "square", "broad", "heavy"]
  | _, _ => ["small", "upturned", "delicate", "wide"]

end Archetype

/-- The features that a character may be noted for. -/
def Gender.features : Gender → List String
  | masculine => ["nose", "jaw", "brow", "chin"]
  | _ => ["nose", "mouth", "forehead", "chin"]

/-- What a battle cry swears by. -/
def warCryThings : List String := ["MOONS", "RINGS", "COMETS", "NEBULAE", "VOLCANOES"]

/-- Where the things of a battle cry are found. -/
def warCryPlaces : List String := ["SATURN", "MERCURY", "URANUS", "PLUTO", "ANDROMEDA"]

/-- Traits rolled from the tables of a part and a gender, in the order of the fields. -/
def Traits.roll (archetype : Archetype) (gender : Gender) : Roll Traits := do
  let stature ← Roll.word archetype.statures
  let hairLength ← Roll.word archetype.hairLengths
  let hairColour ← Roll.word archetype.hairColours
  let eyeColour ← Roll.word archetype.eyeColours
  let things ← Roll.word warCryThings
  let place ← Roll.word warCryPlaces
  let featureAdj ← Roll.word (archetype.featureAdjs gender)
  let feature ← Roll.word gender.features
  return { stature, hairLength, hairColour, eyeColour, featureAdj, feature
           warCry := s!"BY THE {things} OF {place}" }

end SpaceOpera
