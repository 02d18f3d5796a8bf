import SpaceOpera.Editor.Scenes
import SpaceOpera.Telling
import SpaceOpera.Voice.Costume

/-!
# States of the participants

Every object in a story becomes a state, and the states come to know where they are, what they wear, how
they feel and what they have to do.  Moods and duties are carried by events of their own, which are taken
out once they have done their work.  At the end the states learn how the text may refer to them.
-/

namespace SpaceOpera

/-- Changes the states of characters; other values stay. -/
def Value.mapCharacter (f : State → State) : Value → Value
  | state s => if s.object.isCharacter then state (f s) else state s
  | v => v

/-- Changes the states of characters by a computation; other values stay. -/
def Value.mapCharacterM {m : Type → Type} [Monad m] (f : State → m State) : Value → m Value
  | state s => if s.object.isCharacter then state <$> f s else pure (state s)
  | v => pure v

/-! ## Empty states -/

/-- The plain objects among the values of a node. -/
def bareObjects (n : StoryNode) : List Object :=
  n.attributes.entries.filterMap fun e =>
    match e.2 with
    | .object o => some o
    | _ => none

/-- Each plain object of a story, as it is first given. -/
def firstGiven (story : StoryNode) : Ledger Object :=
  (story.preorder.flatMap bareObjects).foldl
    (fun given o => if (given.get? o).isSome then given else given.insert o o) {}

/-- A fresh state of a plain object, as the ledger gives it. -/
def Value.toState (given : Ledger Object) : Value → Value
  | object o =>
    match given.get? o with
    | some first => state { object := first }
    | none => object o
  | v => v

/-- The story with fresh states for its plain objects. -/
def assignEmptyStates (story : StoryNode) : StoryNode :=
  let given := firstGiven story
  Id.run (story.annotateAll fun _ a => pure (a.map fun _ v => v.toState given))

/-! ## Locations -/

/-- The story with every character where the scene is. -/
def assignLocations (location : Option Object) (story : StoryNode) : StoryNode :=
  Id.run (story.annotate enterScene
    (fun place _ a => pure <| match place with
      | some o => a.map fun _ => Value.mapCharacter fun s => { s with location := some o }
      | none => a)
    location)

/-! ## Costumes -/

/-- The outfit of a character, rolled where there is none yet. -/
def outfitOf (o : Object) (c : Character) : StateT (Ledger Outfit) Roll Outfit := do
  let outfits ← get
  match outfits.get? o with
  | some outfit => return outfit
  | none =>
    let outfit ← (Outfit.roll c : Roll Outfit)
    set (outfits.insert o outfit)
    return outfit

/-- Dresses a state of a character. -/
def dress (v : Value) : StateT (Ledger Outfit) Roll Value :=
  match v with
  | .state s =>
    match s.object.character? with
    | some c => do
      let outfit ← outfitOf s.object c
      return .state { s with
        torso := some outfit.torso, legs := outfit.legs, feet := some outfit.feet }
    | none => return v
  | v => return v

mutual

/-- The story with every character dressed: the same in one scene, afresh in each. -/
def assignCostumes : StoryNode → StateT (Ledger Outfit) Roll StoryNode
  | ⟨k, a, cs⟩ => do
    let outer ← get
    if k = .scene then
      set ({} : Ledger Outfit)
    let a ← a.mapM fun _ => dress
    let cs ← assignCostumesList cs
    if k = .scene then
      set outer
    return ⟨k, a, cs⟩

/-- Dresses the characters of several trees one after the other. -/
def assignCostumesList : List StoryNode → StateT (Ledger Outfit) Roll (List StoryNode)
  | [] => return []
  | c :: cs => do
    let c ← assignCostumes c
    let cs ← assignCostumesList cs
    return c :: cs

end

/-! ## Moods -/

/-- The moods of characters so far, and what was reported on the way. -/
structure MoodRecord where
  moods : Ledger Mood := {}
  reports : List Diagnostic := []

/-- The mood that a character is in; whoever has none yet is happy, and an optimist always is. -/
def moodOf (o : Object) : StateM MoodRecord Mood := do
  let record ← get
  let record := match record.moods.get? o with
    | some _ => record
    | none => { moods := record.moods.insert o .happy
                reports := record.reports ++ [Diagnostic.moodAssumed o.name] }
  let record := if o.isOptimist then { record with moods := record.moods.insert o .happy } else record
  set record
  return (record.moods.get? o).getD .happy

/-- A mood event puts its subject into the mood. -/
def recordMood (k : StoryKind) (a : Attributes) : StateM MoodRecord Unit :=
  match k.event?.bind Event.moodChange?, (a.get? .subject).bind Value.object? with
  | some mood, some o => modify fun r => { r with moods := r.moods.insert o mood }
  | _, _ => pure ()

/-- The story with the mood of every character, from those they start in. -/
def assignMoods (moods : Ledger Mood) (story : StoryNode) : StoryNode × MoodRecord :=
  let pass : StateM MoodRecord StoryNode := story.annotateAll fun k a => do
    recordMood k a
    a.mapM fun _ => Value.mapCharacterM fun s => do
      let mood ← moodOf s.object
      return { s with mood := some mood }
  pass.run { moods }

/-- What is told of a change of mood: nothing, or now and then that an optimist refused it. -/
def refusal (mood : Mood) (n : StoryNode) : Roll (List StoryNode) := do
  let told ← Roll.chance 10
  match n.get? .subject with
  | some v =>
    if told && v.object?.any Object.isOptimist && mood != .happy then
      return [(StoryNode.ofEvent .characterStaysHappy).set .subject v]
    else return []
  | none => return []

mutual

/-- The node without the mood events below it. -/
def removeMoodModifiers : StoryNode → Roll StoryNode
  | ⟨k, a, cs⟩ => do
    let cs ← removeMoodModifiersList cs
    return ⟨k, a, cs⟩

/-- The nodes without mood events. -/
def removeMoodModifiersList : List StoryNode → Roll (List StoryNode)
  | [] => return []
  | c :: cs => do
    let kept ← match c.event?.bind Event.moodChange? with
      | some mood => refusal mood c
      | none => do
        let c ← removeMoodModifiers c
        pure [c]
    let rest ← removeMoodModifiersList cs
    return kept ++ rest

end

/-! ## Duties -/

/-- The open duties of characters so far, and what was reported on the way. -/
structure DutyRecord where
  duties : Ledger Roster := {}
  reports : List Diagnostic := []

/-- The open duties of a character. -/
def DutyRecord.openOf (r : DutyRecord) (o : Object) : Roster :=
  (r.duties.get? o).getD {}

/-- A character takes a duty on. -/
def DutyRecord.acquire (r : DutyRecord) (who duty : Object) : DutyRecord :=
  if duty.isDuty then { r with duties := r.duties.insert who ((r.openOf who).insert duty) }
  else { r with reports := r.reports ++ [Diagnostic.dutyExpected who.name duty.name] }

/-- A character is done with a duty. -/
def DutyRecord.relieve (r : DutyRecord) (who duty : Object) : DutyRecord :=
  if !duty.isDuty then { r with reports := r.reports ++ [Diagnostic.dutyExpected who.name duty.name] }
  else if (r.openOf who).contains duty then
    { r with duties := r.duties.insert who ((r.openOf who).erase duty) }
  else { r with reports := r.reports ++ [Diagnostic.dutyNotAcquired who.name duty.name] }

/-- A duty event changes the open duties of its subject. -/
def recordDuty (k : StoryKind) (a : Attributes) : StateM DutyRecord Unit :=
  match k.event?, (a.get? .subject).bind Value.object?, (a.get? .object).bind Value.object? with
  | some .acquireDuty, some who, some duty => modify (·.acquire who duty)
  | some .relieveDuty, some who, some duty => modify (·.relieve who duty)
  | _, _, _ => pure ()

/-- The story with the open duties of every character, from those they start with. -/
def assignDuties (duties : Ledger Roster) (story : StoryNode) : StoryNode × DutyRecord :=
  let pass : StateM DutyRecord StoryNode := story.annotateAll fun k a => do
    recordDuty k a
    let record ← get
    return a.map fun _ => Value.mapCharacter fun s => { s with duties := record.openOf s.object }
  pass.run { duties }

/-- Is the node an event of a duty taken on or done? -/
def isDutyEvent (n : StoryNode) : Bool :=
  n.event? = some .acquireDuty || n.event? = some .relieveDuty

mutual

/-- The node without the duty events below it. -/
def removeDutyEvents : StoryNode → StoryNode
  | ⟨k, a, cs⟩ => ⟨k, a, removeDutyEventsList cs⟩

/-- The nodes without duty events. -/
def removeDutyEventsList : List StoryNode → List StoryNode
  | [] => []
  | c :: cs =>
    if isDutyEvent c then removeDutyEventsList cs
    else removeDutyEvents c :: removeDutyEventsList cs

end

/-! ## Mentions -/

/-- Marks a state in an event as the first mention of its object, if it is. -/
def markFirst (role : Role) (v : Value) : StateM Roster Value :=
  match v with
  | .state s => do
    let occurred ← get
    if (role = .subject || role = .object) && !occurred.contains s.object then
      set (occurred.insert s.object)
      return .state { s with firstOccurrence := true }
    else return v
  | v => return v

/-- The story with the first mention of every object marked, and the objects mentioned by then. -/
def assignFirstOccurrence (occurred : Roster) (story : StoryNode) : StoryNode × Roster :=
  let pass : StateM Roster StoryNode := story.annotateAll fun k a =>
    if k.event?.isSome then a.mapM markFirst else pure a
  pass.run occurred

/-- Flags the states of a node that are of the subject before it, whose own subject comes next. -/
def flagReferents (a : Attributes) : StateM (Option Object) Attributes := do
  let previous ← get
  match (a.get? .subject).bind Value.state? with
  | some s => set (some s.object)
  | none => pure ()
  return a.map fun _ v =>
    match v with
    | .state s => .state { s with isReferent := previous.any (· == s.object) }
    | v => v

/-- The story with every state flagged that is of the subject of the event before, and the last
subject. -/
def assignReferents (referent : Option Object) (story : StoryNode) : StoryNode × Option Object :=
  let pass : StateM (Option Object) StoryNode := story.annotateAll fun _ a => flagReferents a
  pass.run referent

end SpaceOpera
