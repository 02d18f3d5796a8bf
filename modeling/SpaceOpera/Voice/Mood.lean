import SpaceOpera.Text.Named

/-!
# Moods

How a character feels at a point in the story, and the words a mood puts into a character's mouth.
-/

namespace SpaceOpera

/-- How a character feels at a point in the story. -/
inductive Mood where
  | happy
  | sad
  | angry
  | embarrassed
deriving DecidableEq, Repr

/-- The words a mood chooses from. -/
structure Diction where
  adverbs : List String
  saids : List String
  shouteds : List String
  emoteds : List String

namespace Mood

/-- Every mood, in the order in which speech is proofread. -/
def all : List Mood := [happy, sad, angry, embarrassed]

/-- The name shown in diagnostics. -/
def name : Mood → String
  | happy => "Happy"
  | sad => "Sad"
  | angry => "Angry"
  | embarrassed => "Embarrassed"

/-- The adjective for the mood. -/
def tag : Mood → String
  | happy => "happy"
  | sad => "sad"
  | angry => "angry"
  | embarrassed => "embarrassed"

/-- The words a character in this mood uses. -/
def diction : Mood → Diction
  | happy => {
      adverbs := ["bravely", "brightly", "cheerfully", "blissfully", "nobly", "gleefully", "breezily",
        "serenely", "warmly", "mysteriously", "confidently"]
      saids := ["said", "chirped", "beamed", "sang", "purred", "laughed", "declared"]
      shouteds := ["exclaimed", "whooped", "cheered", "shouted", "cried"]
      emoteds := ["smiled", "grinned", "beamed", "winked", "hummed a little tune"] }
  | sad => {
      adverbs := ["wearily", "heavily", "glumly", "dolefully", "slowly", "bleakly", "morosely",
        "miserably", "listlessly", "mysteriously"]
      saids := ["said", "sighed", "moaned", "murmured", "sniffed", "mumbled", "croaked"]
      shouteds := ["wailed", "howled", "cried", "shouted", "sobbed"]
      emoteds := ["frowned", "sighed", "pouted", "stared at the floor"] }
  | angry => {
      adverbs := ["savagely", "menacingly", "coldly", "harshly", "bitterly", "sharply", "impatiently",
        "icily", "furiously", "sternly", "mysteriously"]
      saids := ["said", "growled", "snapped", "spat", "barked", "hissed", "roared"]
      shouteds := ["bellowed", "thundered", "screamed", "shouted", "roared"]
      emoteds := ["scowled", "glowered", "clenched a fist"] }
  | embarrassed => {
      adverbs := ["awkwardly", "clumsily", "shyly", "sheepishly", "haltingly", "meekly",
        "mysteriously"]
      saids := ["said", "stammered", "mumbled", "squeaked", "whispered", "gulped"]
      shouteds := ["yelped", "squealed", "blurted", "shouted", "cried"]
      emoteds := ["blushed", "looked away", "fiddled with a sleeve"] }

instance : Named Mood := ⟨all, name⟩

theorem mem_all (m : Mood) : m ∈ all := by
  cases m <;> decide

end Mood

end SpaceOpera
