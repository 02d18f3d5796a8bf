import SpaceOpera.Ron.Decode
import SpaceOpera.Serial.Chapter
import SpaceOpera.World.File

/-!
# Files of a serial

A configuration file gives what is chosen otherwise than by default; a world file gives the world.
-/

namespace SpaceOpera

open Ron

/-- Constraints as written down: lists of developments with numbers. -/
def Constraints.decoder : Decoder Constraints :=
  .record "PlotConstraints" <| Constraints.mk
    <$> .optional "min" [] (.list (.pair .named .count))
    <*> .optional "max" [] (.list (.pair .named .count))

/-- Choices as written down. -/
def Config.decoder : Decoder Config :=
  let default : Config := {}
  .record "EngineConfig" <| Config.mk
    <$> .optional "depth" default.depth .count
    <*> .optional "constraints" default.constraints Constraints.decoder
    <*> .optional "disabled_rules" default.disabledRules (.list .named)
    <*> .optional "max_attempts" default.maxAttempts (.option .count)
    <*> .optional "output" default.output .named
    <*> .optional "conjoin_chance" default.conjoinChance .count
    <*> .optional "variety" default.variety .bool

/-- Reads a configuration file. -/
def Config.read (text : String) : Except SerialError Config :=
  (Config.decoder.read text).mapError fun fault => .configMalformed fault.message

/-- Reads a configuration file that may not be there to be read. -/
def Config.load (contents : Except String String) : Except SerialError Config :=
  match contents with
  | .ok text => Config.read text
  | .error reason => .error (.configUnreadable reason)

/-- Reads a world file and builds its world. -/
def World.read (text : String) : Attempt SerialError World :=
  match WorldSpec.read text with
  | .error fault => throw (.worldMalformed fault.message)
  | .ok spec => (WorldSpec.build spec).adapt SerialError.world

/-- Where the world of a serial comes from. -/
inductive WorldSource where
  /-- A world at hand. -/
  | built (world : World)
  /-- The text of a world file, or why it cannot be read. -/
  | file (contents : Except String String)

/-- The world of a source; a file is read with the draws of the serial's own context. -/
def WorldSource.world : WorldSource → Attempt SerialError World
  | built w => pure w
  | file (.ok text) => World.read text
  | file (.error reason) => throw (.worldUnreadable reason)

/-- Opens a serial: finds its world, with the draws of its own progress. -/
def Serial.opening (config : Config) (source : Option WorldSource) : Step Serial := do
  match source with
  | none => throw .missingWorld
  | some source =>
    let world ← Attempt.asStep id source.world
    return ⟨world, config⟩

end SpaceOpera
