import SpaceOpera.Voice.Mood
import SpaceOpera.World.Roster

/-!
# States

An object at one moment of a story: where it is, how it feels, what it wears, what it has taken on, and
how the text around it may refer to it.
-/

namespace SpaceOpera

/-- One object at one moment. -/
structure State where
  object : Object
  /-- It was the subject of the event before, so that a pronoun will do. -/
  isReferent : Bool := false
  /-- Nothing before mentions it, so that it goes by its first name. -/
  firstOccurrence : Bool := false
  torso : Option Object := none
  legs : Option Object := none
  feet : Option Object := none
  duties : Roster := {}
  mood : Option Mood := none
  location : Option Object := none
deriving BEq

/-- The duty that everyone has who has taken on nothing else. -/
def standingOath : String := "uphold the sacred oath of the Star Patrol"

namespace State

/-- The first name where it is first mentioned, later any of the others. -/
def mentionName (s : State) : Roll String := do
  let variants := s.object.names.length
  if s.firstOccurrence || variants < 2 then
    return s.object.name
  else
    let i ← Roll.between 1 (variants - 1)
    return s.object.nameVariant i

/-- A mention with the definite article. -/
def definite (s : State) : Roll String := do
  return s.object.definiteOf (← s.mentionName)

/-- A mention with the indefinite article. -/
def indefinite (s : State) : Roll String := do
  return s.object.indefiniteOf (← s.mentionName)

/-- The pronoun of a subject if that is clear, else a definite mention. -/
def pronoun (s : State) : Roll String :=
  if s.isReferent then pure s.object.pronouns.subject else s.definite

/-- The pronoun of an object if that is clear, else a definite mention. -/
def accusative (s : State) : Roll String :=
  if s.isReferent then pure s.object.pronouns.object else s.definite

/-- The pronoun of an owner if that is clear, else a definite mention as an owner. -/
def possessive (s : State) : Roll String := do
  if s.isReferent then return s.object.pronouns.possessive else return (← s.definite) ++ "'s"

/-- A word of the mood's diction, if there is a mood. -/
def moodWord (s : State) (table : Diction → List String) : Roll (Option String) :=
  match s.mood with
  | none => pure none
  | some mood => do
    let w ← Roll.word (table mood.diction)
    return some w

/-- One of the open duties, or the standing oath when there is none. -/
def pickDuty (s : State) : Roll Object := do
  let duty ← Roll.choose (s.duties.members.filter Object.isDuty)
  return duty.getD (Object.standingDuty standingOath)

/-- How diagnostics show a state: the fields that differ from a fresh one. -/
def debug (s : State) : String :=
  let flag (name : String) (b : Bool) := if b then [name ++ ": true"] else []
  let object (name : String) (o : Option Object) := (o.map fun o => name ++ ": " ++ o.debug).toList
  let fields :=
    ["object: " ++ s.object.debug]
      ++ flag "is_referent" s.isReferent
      ++ flag "first_occurrence" s.firstOccurrence
      ++ (s.mood.map fun m => "mood: " ++ m.name).toList
      ++ object "location" s.location
      ++ (if s.duties.isEmpty then [] else ["duties: " ++ s.duties.debug])
      ++ object "torso" s.torso
      ++ object "legs" s.legs
      ++ object "feet" s.feet
  "State \x7b " ++ ", ".intercalate fields ++ " \x7d"

end State

end SpaceOpera
