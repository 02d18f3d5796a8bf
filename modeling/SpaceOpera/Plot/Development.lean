import SpaceOpera.Tree.Role

/-!
# Developments

The units of action that a plot is made of, each with the line that a synopsis gives it.  What happens in
a plot is apart from the events that it is told by.
-/

namespace SpaceOpera

/-- A unit of action. -/
inductive Development where
  | introduction
  /-- Someone shows off the item they will lose. -/
  | itemForeshadowed
  /-- The lost item is remembered once the adventure is over. -/
  | itemRecalled
  | convalescence
  | allLaugh
  | kidnapping
  | locateAbductee
  | wayBlocked
  | rescue
  | loseItem
  | recoverItem
  | trappedInRubble
  | extractedFromRubble
  | goonAmbush
  | goonEncounter
  | protagonistAttack
  | awkwardCombat
  | vanquished
  | awkwardTension
  | romanticTension
  | romanticResolution
  | drone
  | contemplateItem
  | journey
  | encounterNewSetting
deriving DecidableEq, Repr

namespace Development

/-- Every development. -/
def all : List Development :=
  [introduction, itemForeshadowed, itemRecalled, convalescence, allLaugh, kidnapping,
    locateAbductee, wayBlocked, rescue, loseItem, recoverItem, trappedInRubble,
    extractedFromRubble, goonAmbush, goonEncounter, protagonistAttack, awkwardCombat,
    vanquished, awkwardTension, romanticTension, romanticResolution, drone, contemplateItem,
    journey, encounterNewSetting]

/-- The name shown in diagnostics. -/
def name : Development → String
  | introduction => "Introduction"
  | itemForeshadowed => "ItemForeshadowed"
  | itemRecalled => "ItemRecalled"
  | convalescence => "Convalescence"
  | allLaugh => "AllLaugh"
  | kidnapping => "Kidnapping"
  | locateAbductee => "LocateAbductee"
  | wayBlocked => "WayBlocked"
  | rescue => "Rescue"
  | loseItem => "LoseItem"
  | recoverItem => "RecoverItem"
  | trappedInRubble => "TrappedInRubble"
  | extractedFromRubble => "ExtractedFromRubble"
  | goonAmbush => "GoonAmbush"
  | goonEncounter => "GoonEncounter"
  | protagonistAttack => "ProtagonistAttack"
  | awkwardCombat => "AwkwardCombat"
  | vanquished => "Vanquished"
  | awkwardTension => "AwkwardTension"
  | romanticTension => "RomanticTension"
  | romanticResolution => "RomanticResolution"
  | drone => "Drone"
  | contemplateItem => "ContemplateItem"
  | journey => "Journey"
  | encounterNewSetting => "EncounterNewSetting"

instance : Named Development := ⟨all, name⟩

/-- The template of the line in a synopsis. -/
def synopsis : Development → String
  | introduction => "we are introduced to {subject.definite}"
  | itemForeshadowed => "{object.definite} is foreshadowed by {subject.definite}, witnessed by {bystanders.definite}"
  | itemRecalled => "{subject.definite} is reminded of their mishaps with {object.definite}, witnessed by {bystanders.definite}"
  | convalescence => "{subject.definite} convalesce after their adventures"
  | allLaugh => "{subject.definite} all laugh"
  | kidnapping => "{subject.definite} kidnaps {obj.definite}, witnessed by {bystanders.definite}"
  | locateAbductee => "{subject.definite} must locate where {object.definite} is being held"
  | wayBlocked => "{subject.definite} find {subject.his} way is blocked"
  | rescue => "{subject.definite} rescue {obj.definite}"
  | loseItem => "{subject.definite} loses {obj.definite}, witnessed by {bystanders.definite}"
  | recoverItem => "{subject.definite} recovers {obj.definite}, witnessed by {bystanders.definite}"
  | trappedInRubble => "{subject.definite} is trapped under rubble, witnessed by {bystanders.definite}"
  | extractedFromRubble => "{subject.definite} dig {obj.definite} out of the rubble"
  | goonAmbush => "{subject.definite} are ambushed by {obj.definite}"
  | goonEncounter => "{subject.definite} encounter a band of {obj.definite}"
  | protagonistAttack => "{subject.definite} attack {obj.definite}"
  | awkwardCombat => "{subject.definite} get in an awkward situation during combat with {obj.definite}"
  | vanquished => "{subject.definite} vanquish {obj.definite} (they were sent by {object2.definite})"
  | awkwardTension => "there is an awkward moment between {subject.definite} and {obj.definite}"
  | romanticTension => "{subject.definite} and {obj.definite} do mushy stuff (almost)"
  | romanticResolution => "{subject.definite} and {obj.definite} do mushy stuff"
  | drone => "{subject.definite} is startled by a drone"
  | contemplateItem => "{subject.definite} contemplates {obj.indefinite}"
  | journey => "{subject.definite} travel to {obj.definite}"
  | encounterNewSetting => "{subject.definite} encounter a new setting"

/-- Two of these in a row are one. -/
def collapses (d : Development) : Bool :=
  d = awkwardTension

/-- One of these may change places with a neighbour in the same setting. -/
def isCommutable (d : Development) : Bool :=
  d = rescue || d = recoverItem

/-- The role whose holder makes a good title. -/
def titleRole? : Development → Option Role
  | kidnapping => some .subject
  | loseItem | vanquished => some .object
  | _ => none

theorem mem_all (d : Development) : d ∈ all := by
  cases d <;> decide

end Development

end SpaceOpera
