import SpaceOpera.World.Character

/-!
# Wardrobes and word tables

The taste in clothes of each part, and the tables of words that are the same for everyone.
-/

namespace SpaceOpera

/-- The colours of what is no character, and of characters without a taste of their own. -/
def commonColours : List String :=
  ["red", "yellow", "blue", "green", "orange", "teal", "mauve", "brown", "black", "white", "maroon",
    "pink", "navy blue", "olive", "silver", "checked", "tartan", "paisley"]

/-- The materials of clothes. -/
def materials : List String :=
  ["silk", "leather", "velvet", "cotton", "nylon", "denim", "spandex", "satin", "shiny vinyl"]

/-- The gems on clothes. -/
def gems : List String :=
  ["diamonds", "sequins", "rubies", "opals", "sapphires"]

/-- Words for a smooth motion. -/
def smoothWords : List String :=
  ["fluid", "graceful", "silken", "supple", "feline", "elegant"]

/-- Words for a strong motion. -/
def strongWords : List String :=
  ["powerful", "decisive", "firm", "commanding", "bold", "mighty"]

/-- Whom a simile likens to. -/
def simileCreatures : List String :=
  ["a panther", "a walrus", "a ninja", "a steam train", "a flamingo", "a thunderstorm", "a gladiator",
    "a startled moose", "a wrestler", "an orangutan"]

/-- Where a simile places them. -/
def similePlaces : List String :=
  ["in a blizzard", "in a car wash", "at a county fair", "in a bowling alley", "in a hardware store",
    "at a disco", "in a laundromat", "on a roller coaster", "at a bake sale", "in a library"]

/-- A taste in clothes; chances are in percent. -/
structure Wardrobe where
  colours : List String := commonColours
  wearing : List String :=
    ["wearing", "dressed in", "looking sharp in", "looking splendid in", "decked out in"]
  adjectives : List String := ["smart", "crisp", "dashing"]
  /-- The chance of an adjective at all. -/
  adjectiveChance : Nat := 40
  /-- The chance of the superlative in its place. -/
  superlativeChance : Nat := 0
  decorations : List String := [" with {colour} piping", " with {colour} {material} cuffs"]
  /-- The chance of a decoration. -/
  decorationChance : Nat := 25

/-- The taste of a part. -/
def Archetype.wardrobe : Archetype → Wardrobe
  | lead => {
      colours := ["lilac", "lavender", "violet", "deep violet", "indigo", "amethyst",
        "purple and silver", "violet and gold", "midnight blue", "pearl white", "rainbow",
        "iridescent", "shimmering opal", "starlight silver", "rose gold", "glittering purple"]
      adjectives := ["", "gorgeous", "elegant", "sumptuous", "dazzling", "divine"]
      adjectiveChance := 100
      superlativeChance := 4
      decorations := [" trimmed with {colour} lace", " with {colour} ruffles",
        " with {colour} comet patterns", " with {colour} star patterns", " spangled with {gems}",
        " with {colour} {material} trim"]
      decorationChance := 100 }
  | optimist => {
      wearing := ["wearing", "sporting", "looking thrilled to be in", "resplendent in",
        "bouncing around in"] }
  | rival => {
      wearing := ["wearing", "looking dowdy in", "looking unfortunate in", "crammed into",
        "lumbering about in"]
      adjectives := ["", "baggy", "cheap", "frumpy", "garish", "drab", "dated"]
      decorations := [" with clashing {colour} spots", " with a lurid {colour} check"] }
  | villain => {
      colours := ["black", "jet black", "obsidian", "blood red", "crimson", "deep crimson", "charcoal"]
      wearing := ["wearing", "looking sinister in", "looking wicked in", "swathed in",
        "looking dreadful in"] }
  | dreamboat | plain => {}

end SpaceOpera
