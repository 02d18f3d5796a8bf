import SpaceOpera.Voice.Wardrobe
import SpaceOpera.World.Object

/-!
# Costumes

What a character wears in one scene, made up from the taste of the part: footwear, and two pieces or
one above it.
-/

namespace SpaceOpera

/-- The part of the body that a garment covers. -/
inductive Garment where
  | torso
  | legs
  | onePiece
  | feet
deriving DecidableEq, Repr

namespace Garment

/-- Every garment. -/
def all : List Garment := [torso, legs, onePiece, feet]

/-- The name of the garment. -/
def name : Garment → String
  | torso => "Torso"
  | legs => "Legs"
  | onePiece => "OnePiece"
  | feet => "Feet"

instance : Named Garment := ⟨all, name⟩

/-- The items of the garment that anyone wears, with whether they come as several. -/
def items : Garment → List (String × Bool)
  | torso => [("jacket", false), ("shirt", false), ("jerkin", false), ("top", false),
      ("jersey", false), ("tunic", false), ("sweater", false), ("hoodie", false),
      ("flight jacket", false)]
  | legs => [("trousers", true), ("leggings", true), ("slacks", true), ("culottes", true)]
  | onePiece => [("jumpsuit", false), ("flight suit", false), ("robe", false), ("smock", false),
      ("long coat", false), ("trench coat", false), ("coveralls", true)]
  | feet => [("boots", true), ("shoes", true), ("sandals", true), ("sneakers", true),
      ("moon boots", true), ("slippers", true)]

/-- The items of the garment that only one gender wears. -/
def itemsOf : Garment → Gender → List (String × Bool)
  | torso, .feminine => [("blouse", false), ("halter top", false), ("bodice", false)]
  | torso, .masculine => [("muscle shirt", false)]
  | legs, .feminine => [("skirt", false)]
  | onePiece, .feminine => [("dress", false), ("gown", false), ("leotard", false)]
  | feet, .feminine => [("pixie boots", true), ("pumps", true)]
  | _, _ => []

end Garment

namespace Wardrobe

/-- The adjective in front of a garment, with the space behind it. -/
def rollAdjective (w : Wardrobe) : Roll String := do
  if ← Roll.chance w.superlativeChance then
    return "TOTALLY STELLAR "
  else if ← Roll.chance w.adjectiveChance then
    let adjective ← Roll.word w.adjectives
    return if adjective.isEmpty then "" else adjective ++ " "
  else
    return ""

/-- The decoration behind a garment, with the space in front of it. -/
def rollDecoration (w : Wardrobe) : Roll String := do
  if ← Roll.chance w.decorationChance then
    let pattern ← Roll.word w.decorations
    let colour ← Roll.word w.colours
    let material ← Roll.word materials
    let gem ← Roll.word gems
    let pattern := Text.substitute pattern "{colour}" colour
    let pattern := Text.substitute pattern "{material}" material
    return Text.substitute pattern "{gems}" gem
  else
    return ""

end Wardrobe

/-- A garment for the character: its full description first, the bare item as its other name. -/
def Garment.roll (g : Garment) (c : Character) : Roll Object := do
  let w := c.archetype.wardrobe
  let adjective ← w.rollAdjective
  let colour ← Roll.word w.colours
  let material ← Roll.word materials
  let chosen ← Roll.choose (g.items ++ g.itemsOf c.gender)
  let (item, several) := chosen.getD ("outfit", false)
  let decoration ← w.rollDecoration
  let garment := Object.thing [s!"{adjective}{colour} {material} {item}{decoration}", item]
  return if several then garment.plural else garment

/-- What a character wears in one scene. -/
structure Outfit where
  torso : Object
  legs : Option Object
  feet : Object

/-- Footwear, and above it two pieces in two cases of three, else one piece. -/
def Outfit.roll (c : Character) : Roll Outfit := do
  let feet ← Garment.feet.roll c
  if ← Roll.chance 66 then
    let torso ← Garment.torso.roll c
    let legs ← Garment.legs.roll c
    return { torso, legs := some legs, feet }
  else
    let torso ← Garment.onePiece.roll c
    return { torso, legs := none, feet }

end SpaceOpera
