import SpaceOpera.Template.Render
import SpaceOpera.World.Catalog

/-!
# Descriptions of worlds

A world as it is written down: settings refer to earlier settings by key, and characters to their home.
Building it resolves the keys, rolls the traits that are not given, and refuses a description that no
story could be told of.
-/

namespace SpaceOpera

/-- A plain object as written down. -/
structure ThingSpec where
  names : List String
  takeable : Bool := false
  plural : Bool := false
  proper : Bool := false

/-- A setting as written down. -/
structure SettingSpec where
  key : String
  names : List String
  roof : ThingSpec
  nearby : List ThingSpec
  indoors : Bool := true
  /-- The key of an earlier setting. -/
  outside : Option String := none
  preposition : String := "on"
  hasDrones : Bool := false
  light : String := "light"

/-- A character as written down. -/
structure CharacterSpec where
  names : List String
  gender : Gender
  archetype : Archetype
  rank : Option Rank := none
  /-- The key of a setting. -/
  home : String
  weapon : Option ThingSpec := none
  /-- Rolled from the tables of the part when not given. -/
  traits : Option Traits := none

/-- A world as written down. -/
structure WorldSpec where
  settings : List SettingSpec
  protagonists : List CharacterSpec
  antagonists : List CharacterSpec := []
  goons : List ThingSpec := []
  macguffins : List ThingSpec := []

/-- The part of a description that an entry stands in. -/
inductive Entry where
  | setting
  | nearby
  | roof
  | character
  | weapon
  | goons
  | macguffin
deriving DecidableEq, Repr

/-- What an entry describes. -/
def Entry.describe : Entry → String
  | setting => "setting"
  | nearby => "nearby object"
  | roof => "roof"
  | character => "character"
  | weapon => "weapon"
  | goons => "goons"
  | macguffin => "macguffin"

/-- Why a description makes no world. -/
inductive WorldError where
  | noSettings
  | noProtagonists
  | duplicateSetting (key : String)
  | unknownSetting (key referrer : String)
  | noScenery (key : String)
  | emptyName (entry : Entry)
deriving DecidableEq, Repr

/-- The text of the reason. -/
def WorldError.message : WorldError → String
  | noSettings => "world has no settings"
  | noProtagonists => "world has no protagonists"
  | duplicateSetting key => s!"setting '{key}' is declared twice"
  | unknownSetting key referrer => s!"'{referrer}' refers to unknown setting '{key}'"
  | noScenery key => s!"setting '{key}' has no fixed scenery"
  | emptyName entry => s!"{entry.describe} has an empty name"

/-- At least one name, and none of blanks alone. -/
def WellNamed (names : List String) : Prop :=
  names ≠ [] ∧ ∀ n ∈ names, Text.isBlankText n = false

instance (names : List String) : Decidable (WellNamed names) :=
  inferInstanceAs (Decidable (_ ∧ _))

/-- Refuses names that are not well given. -/
def checkNames (names : List String) (entry : Entry) : Except WorldError Unit :=
  if WellNamed names then .ok () else .error (.emptyName entry)

/-- The object described. -/
def ThingSpec.build (t : ThingSpec) (entry : Entry) : Except WorldError Object := do
  checkNames t.names entry
  let o := { Object.thing t.names with takeable := t.takeable }
  let o := if t.plural then o.plural else o
  return if t.proper then o.proper else o

/-- Settings by their keys, in the order of their declaration. -/
abbrev Keyed := List (String × Object)

/-- The setting of a key that `referrer` refers to. -/
def Keyed.find (keyed : Keyed) (key referrer : String) : Except WorldError Object :=
  match keyed.lookup key with
  | some o => .ok o
  | none => .error (.unknownSetting key referrer)

/-- The setting described, after the settings declared before it. -/
def SettingSpec.build (s : SettingSpec) (earlier : Keyed) : Except WorldError Object := do
  if (earlier.lookup s.key).isSome then
    throw (.duplicateSetting s.key)
  checkNames s.names .setting
  let nearby ← s.nearby.mapM (·.build .nearby)
  let roof ← s.roof.build .roof
  if nearby.all (·.takeable) then
    throw (.noScenery s.key)
  let outside ← s.outside.mapM fun key => earlier.find key s.key
  return Object.ofPlace s.names
    { roof, nearby, indoors := s.indoors, outside, preposition := s.preposition
      hasDrones := s.hasDrones, light := s.light }

/-- Builds settings one after the other, each after those before it. -/
def buildSettings : List SettingSpec → Keyed → Except WorldError Keyed
  | [], keyed => .ok keyed
  | s :: specs, keyed => do
    let o ← s.build keyed
    buildSettings specs (keyed ++ [(s.key, o)])

/-- The traits given, or a roll of them. -/
def CharacterSpec.rollTraits (c : CharacterSpec) : Roll Traits :=
  match c.traits with
  | some traits => pure traits
  | none => Traits.roll c.archetype c.gender

/-- The character described. -/
def CharacterSpec.build (c : CharacterSpec) (keyed : Keyed) : Attempt WorldError Object := do
  checkNames c.names .character
  let traits ← c.rollTraits
  let home ← keyed.find c.home (c.names.headD "")
  let weapon ← c.weapon.mapM (·.build .weapon)
  return { Object.ofCharacter c.names ⟨c.gender, c.archetype, traits⟩ with
    home := some home, rank := c.rank, weapon }

/-- Builds the world described. -/
def WorldSpec.build (spec : WorldSpec) : Attempt WorldError World := do
  if spec.settings.isEmpty then
    throw .noSettings
  if spec.protagonists.isEmpty then
    throw .noProtagonists
  let keyed ← buildSettings spec.settings []
  let protagonists ← spec.protagonists.mapM (·.build keyed)
  let antagonists ← spec.antagonists.mapM (·.build keyed)
  let goons ← spec.goons.mapM (fun t => (t.build .goons : Except WorldError Object))
  let macguffins ← spec.macguffins.mapM (fun t => (t.build .macguffin : Except WorldError Object))
  return { protagonists, antagonists, goons, macguffins, settings := keyed.map (·.2) }

end SpaceOpera
