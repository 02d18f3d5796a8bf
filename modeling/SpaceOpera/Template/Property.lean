import SpaceOpera.Text.Named

/-!
# Properties

What a slot of a template can ask of an object, a state or a group.
-/

namespace SpaceOpera.Template

/-- A property that a slot can ask for. -/
inductive Property where
  | name
  | definite
  | indefinite
  | possessive
  | possessivePronoun
  | accusative
  | accusativePronoun
  | pronoun
  | was
  | distal
  | proximal
  | singular
  | colour
  | gibberish
  | rank
  | nextRank
  | home
  | weapon
  | stature
  | hairLength
  | hairColour
  | eyeColour
  | featureAdj
  | feature
  | warCry
  | wearing
  | yet
  | motion
  | simile
  | withVoice
  | adverb
  | said
  | shouted
  | emoted
  | pickDuty
  | location
  | torsoCostume
  | legsCostume
  | feetCostume
  | light
  | preposition
  | nearby
  | nearbyScenery
  | nearbyTakeable
  | roof
deriving DecidableEq, Repr

namespace Property

/-- Every property. -/
def all : List Property :=
  [name, definite, indefinite, possessive, possessivePronoun, accusative, accusativePronoun,
    pronoun, was, distal, proximal, singular, colour, gibberish, rank, nextRank, home, weapon,
    stature, hairLength, hairColour, eyeColour, featureAdj, feature, warCry, wearing, yet,
    motion, simile, withVoice, adverb, said, shouted, emoted, pickDuty, location, torsoCostume,
    legsCostume, feetCostume, light, preposition, nearby, nearbyScenery, nearbyTakeable, roof]

/-- How a slot writes the property. -/
def spelling : Property → String
  | name => "name"
  | definite => "definite"
  | indefinite => "indefinite"
  | possessive => "possessive"
  | possessivePronoun => "possessive_pronoun"
  | accusative => "accusative"
  | accusativePronoun => "accusative_pronoun"
  | pronoun => "pronoun"
  | was => "was"
  | distal => "distal"
  | proximal => "proximal"
  | singular => "singular"
  | colour => "colour"
  | gibberish => "gibberish"
  | rank => "rank"
  | nextRank => "next_rank"
  | home => "home"
  | weapon => "weapon"
  | stature => "stature"
  | hairLength => "hair_length"
  | hairColour => "hair_colour"
  | eyeColour => "eye_colour"
  | featureAdj => "feature_adj"
  | feature => "feature"
  | warCry => "war_cry"
  | wearing => "wearing"
  | yet => "yet"
  | motion => "motion"
  | simile => "simile"
  | withVoice => "withvoice"
  | adverb => "adverb"
  | said => "said"
  | shouted => "shouted"
  | emoted => "emoted"
  | pickDuty => "pick_duty"
  | location => "location"
  | torsoCostume => "torso_costume"
  | legsCostume => "legs_costume"
  | feetCostume => "feet_costume"
  | light => "light"
  | preposition => "preposition"
  | nearby => "nearby"
  | nearbyScenery => "nearby_scenery"
  | nearbyTakeable => "nearby_takeable"
  | roof => "roof"

instance : Named Property := ⟨all, spelling⟩

/-- Reads a property, by its name or by a short form of it. -/
def parse? (text : String) : Option Property :=
  match text with
  | "indef" => some indefinite
  | "def" => some definite
  | "his" | "her" => some possessivePronoun
  | "he" | "she" => some pronoun
  | _ => ofName? text

/-- A name reads back as its property. -/
theorem parse?_spelling (p : Property) : parse? p.spelling = some p := by
  cases p <;> rfl

end Property

end SpaceOpera.Template
