import SpaceOpera.Editor.Scenes

/-!
# Descriptions of characters

A character is described once in a lifetime, when first acting in a story or a little later, and reminded
of now and then; what they wear is told once in a scene.
-/

namespace SpaceOpera

open StoryNode (ofEvent sequence)

/-- The state of the character that an event is about. -/
def Node.characterSubject? (n : StoryNode) : Option State :=
  match n.event? with
  | none => none
  | some _ => (n.stateIn .subject).filter fun s => s.object.isCharacter

/-- How many events each character is the subject of. -/
def countSubjectAppearances (story : StoryNode) : Ledger Nat :=
  (story.preorder.filterMap Node.characterSubject?).foldl
    (fun counts s => counts.insert s.object ((counts.get? s.object).getD 0 + 1)) {}

/-! ## Telling of subjects -/

section Telling

variable {σ : Type}

mutual

/-- The story with every event that is about a character told by `tell`, which may add to it. -/
def tellSubjects (tell : StoryNode → State → StateT σ Roll StoryNode) :
    StoryNode → StateT σ Roll StoryNode
  | ⟨k, a, cs⟩ =>
    match Node.characterSubject? ⟨k, a, cs⟩ with
    | some s => tell ⟨k, a, cs⟩ s
    | none => do
      let cs ← tellSubjectsList tell cs
      return ⟨k, a, cs⟩

/-- The nodes with every event that is about a character told by `tell`. -/
def tellSubjectsList (tell : StoryNode → State → StateT σ Roll StoryNode) :
    List StoryNode → StateT σ Roll (List StoryNode)
  | [] => return []
  | c :: cs => do
    let c ← tellSubjects tell c
    let cs ← tellSubjectsList tell cs
    return c :: cs

end

end Telling

/-! ## First descriptions -/

/-- Who has been described in all stories so far and in this one, and how often each character still
acts in it. -/
structure Introductions where
  introduced : Roster
  newly : Roster := {}
  remaining : Ledger Nat := {}

/-- Counts one appearance of a character off and tells how many are left. -/
def Introductions.countOff (i : Introductions) (who : Object) : Introductions × Nat :=
  let left := (i.remaining.get? who).getD 1 - 1
  ({ i with remaining := i.remaining.insert who left }, left)

/-- Writes down that a character is described. -/
def Introductions.describe (i : Introductions) (who : Object) : Introductions :=
  { i with introduced := i.introduced.insert who, newly := i.newly.insert who }

/-- Is the character to be described with this event?  A heroine is, and anyone else by chance or when
acting for the last time. -/
def describedNow (i : Introductions) (who : Object) (left : Nat) : Roll Bool :=
  if i.introduced.contains who then pure false
  else if who.isLead || left = 0 then pure true
  else Roll.chance 50

/-- An event, with the description of the character that it is about behind it if that is due. -/
def describeSubject (n : StoryNode) (s : State) : StateT Introductions Roll StoryNode := fun i => do
  let (i, left) := i.countOff s.object
  if ← describedNow i s.object left then
    return (sequence [n, (ofEvent .characterDescription).set .subject (.state s),
      (ofEvent .characterFeaturesDescription).set .subject (.state s)], i.describe s.object)
  else return (n, i)

/-- The story with every character described who is due. -/
def describeCharacters (i : Introductions) (story : StoryNode) : Roll (StoryNode × Introductions) :=
  (tellSubjects describeSubject story).run i

/-! ## Reminders -/

/-- An event, now and then with a reminder of the character that it is about behind it. -/
def remindSubject (n : StoryNode) (s : State) : StateT Roster Roll StoryNode := fun reminded => do
  if reminded.contains s.object then return (n, reminded)
  else if ← Roll.chance 20 then
    return (sequence [n, (ofEvent .characterReminder).set .subject (.state s)],
      reminded.insert s.object)
  else return (n, reminded)

/-- The story with reminders of characters, one for each at most. -/
def remindCharacters (reminded : Roster) (story : StoryNode) : Roll (StoryNode × Roster) :=
  (tellSubjects remindSubject story).run reminded

/-! ## Costumes -/

/-- A beat about how someone looks. -/
def Event.isAppearance (e : Event) : Bool :=
  [characterDescription, characterFeaturesDescription, characterReminder].contains e

/-- Is the node a beat about how `who` looks? -/
def depicts (n : StoryNode) (who : Object) : Bool :=
  n.event?.any Event.isAppearance && n.characterSubject?.any (·.object == who)

/-- Beats that wait until nothing more is told of how someone looks. -/
structure PendingBeats where
  who : Object
  beats : List StoryNode

/-- The beats of a costume: torso and feet, each told as a reminder in one case of ten. -/
def costumeBeats (s : State) : Roll (List StoryNode) := do
  let torso : Event :=
    if ← Roll.chance 10 then .torsoCostumeReminder else .torsoCostumeDescription
  let feet : Event :=
    if ← Roll.chance 10 then .feetCostumeReminder else .feetCostumeDescription
  return [(ofEvent torso).set .subject (.state s), (ofEvent feet).set .subject (.state s)]

/-- Is the costume of an event's character to be told after the event?  Not twice in a scene, not on
account of a description, always of a heroine and of others by chance. -/
def costumeDue (n : StoryNode) (s : State) (described : Roster) : Roll Bool :=
  if n.event?.any Event.isAppearance || described.contains s.object then pure false
  else if s.object.isLead then pure true
  else Roll.chance 50

/-- The costume that an event calls for, if any. -/
def costumeAfter (n : StoryNode) (described : Roster) : Roll (Option PendingBeats) :=
  match n.characterSubject? with
  | none => pure none
  | some s => do
    if ← costumeDue n s described then
      let beats ← costumeBeats s
      return some ⟨s.object, beats⟩
    else return none

/-- What is waiting in front of a node: the beats to tell before it, and those that wait on. -/
def release (n : StoryNode) (pending : Option PendingBeats) :
    List StoryNode × Option PendingBeats :=
  match pending with
  | none => ([], none)
  | some p => if depicts n p.who then ([], some p) else (p.beats, none)

mutual

/-- The story with the costumes of its characters: told once in one scene, afresh in each. -/
def describeCostumes (described : Roster) : StoryNode → Roll (StoryNode × Roster)
  | ⟨k, a, cs⟩ => do
    let (cs, after) ← describeCostumesList (if k = .scene then {} else described) none cs
    return (⟨k, a, cs⟩, if k = .scene then described else after)

/-- The nodes with the costumes told behind them; `pending` waits for a node that does not go on about
how someone looks. -/
def describeCostumesList (described : Roster) (pending : Option PendingBeats) :
    List StoryNode → Roll (List StoryNode × Roster)
  | [] => return ((pending.map (·.beats)).getD [], described)
  | c :: cs =>
    let (released, pending) := release c pending
    if c.event?.isSome then do
      match ← costumeAfter c described with
      | some p => do
        let (rest, after) ← describeCostumesList (described.insert p.who) (some p) cs
        return (released ++ c :: rest, after)
      | none => do
        let (rest, after) ← describeCostumesList described pending cs
        return (released ++ c :: rest, after)
    else do
      let (c, described) ← describeCostumes described c
      let (rest, after) ← describeCostumesList described none cs
      return (released ++ c :: rest, after)

end

end SpaceOpera
