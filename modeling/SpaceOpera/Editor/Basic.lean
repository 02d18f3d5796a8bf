import SpaceOpera.Editor.Descriptions
import SpaceOpera.Editor.Paragraphs
import SpaceOpera.Editor.States

/-!
# Editing stories

The editor turns the bare events of a plot into a story that can be told: with states for objects, with
descriptions, and in paragraphs.  It remembers who has been introduced, from one story to the next.
-/

namespace SpaceOpera

/-- How likely events are joined, in percent, and who has been described in any story so far. -/
structure Editor where
  conjoinChance : Nat
  introduced : Roster := {}

namespace Editor

/-- The story up to the openings of its scenes: states know where they are, what they wear, how they
feel and what they have to do. -/
def annotated (story : StoryNode) : Telling EditError StoryNode := do
  let story := mergeAdjacentScenes story
  let story ← (resolveScenery none story : Roll StoryNode)
  let story := assignEmptyStates story
  let story := assignLocations none story
  let (story, _) ← (assignCostumes story |>.run {} : Roll (StoryNode × Ledger Outfit))
  let (story, moods) := assignMoods {} story
  report moods.reports
  let story ← (removeMoodModifiers story : Roll StoryNode)
  let (story, duties) := assignDuties {} story
  report duties.reports
  describeScenes (removeDutyEvents story)

/-- The story with its descriptions, and who is introduced by then. -/
def described (introduced : Roster) (story : StoryNode) : Roll (StoryNode × Roster) := do
  let (story, introductions) ← describeCharacters
    { introduced, remaining := countSubjectAppearances story } story
  let (story, _) ← remindCharacters introductions.newly story
  let (story, _) ← describeCostumes {} story
  let (story, _) := assignFirstOccurrence {} story
  return (story, introductions.introduced)

/-- The story in paragraphs. -/
def arranged (chance : Nat) (story : StoryNode) : Attempt EditError StoryNode := do
  let story ← splitIntoParagraphs story.flatten
  let (story, _) := assignReferents none story
  (conjoin chance story : Roll StoryNode)

/-- Edits a story.  Whoever has been described counts as introduced even if the story fails after
that. -/
def edit (e : Editor) (story : StoryNode) :
    StateM Narration (Except EditError StoryNode × Editor) := do
  match ← (annotated story).run with
  | .error err => return (.error err, e)
  | .ok story =>
    let (story, introduced) ← (described e.introduced story : Roll (StoryNode × Roster))
    let result ← (Attempt.narrate (arranged e.conjoinChance story)).run
    return (result, { e with introduced })

end Editor

end SpaceOpera
