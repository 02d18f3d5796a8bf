import SpaceOpera.Ron.Decode
import SpaceOpera.World.Spec

/-!
# World files

A world is written down as a record of its settings, its cast and its things.
-/

namespace SpaceOpera

open Ron

/-- Traits as written down: all of them. -/
def Traits.decoder : Decoder Traits :=
  .record "Traits" <| Traits.mk
    <$> .required "stature" .string
    <*> .required "hair_length" .string
    <*> .required "hair_colour" .string
    <*> .required "eye_colour" .string
    <*> .required "war_cry" .string
    <*> .required "feature_adj" .string
    <*> .required "feature" .string

/-- A thing as written down: its names, and perhaps what it is like. -/
def ThingSpec.decoder : Decoder ThingSpec :=
  .record "ThingSpec" <| ThingSpec.mk
    <$> .required "names" (.list .string)
    <*> .optional "takeable" false .bool
    <*> .optional "plural" false .bool
    <*> .optional "proper" false .bool

/-- A setting as written down. -/
def SettingSpec.decoder : Decoder SettingSpec :=
  .record "SettingSpec" <| SettingSpec.mk
    <$> .required "key" .string
    <*> .required "names" (.list .string)
    <*> .required "roof" ThingSpec.decoder
    <*> .required "nearby" (.list ThingSpec.decoder)
    <*> .optional "indoors" true .bool
    <*> .optional "outside" none (.option .string)
    <*> .optional "preposition" "on" .string
    <*> .optional "has_drones" false .bool
    <*> .optional "light" "light" .string

/-- A character as written down. -/
def CharacterSpec.decoder : Decoder CharacterSpec :=
  .record "CharacterSpec" <| CharacterSpec.mk
    <$> .required "names" (.list .string)
    <*> .required "gender" .named
    <*> .required "archetype" .named
    <*> .optional "rank" none (.option .named)
    <*> .required "home" .string
    <*> .optional "weapon" none (.option ThingSpec.decoder)
    <*> .optional "traits" none (.option Traits.decoder)

/-- A world as written down: settings and protagonists at least. -/
def WorldSpec.decoder : Decoder WorldSpec :=
  .record "WorldSpec" <| WorldSpec.mk
    <$> .required "settings" (.list SettingSpec.decoder)
    <*> .required "protagonists" (.list CharacterSpec.decoder)
    <*> .optional "antagonists" [] (.list CharacterSpec.decoder)
    <*> .optional "goons" [] (.list ThingSpec.decoder)
    <*> .optional "macguffins" [] (.list ThingSpec.decoder)

/-- Reads a world file. -/
def WorldSpec.read (text : String) : Except Fault WorldSpec :=
  WorldSpec.decoder.read text

end SpaceOpera
