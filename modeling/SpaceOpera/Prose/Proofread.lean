import SpaceOpera.Text.Words
import SpaceOpera.Voice.Mood

/-!
# Proofreading

Touch-ups of finished text: straight apostrophes for backticks, and a pronoun that follows its verb of
speech is put in front of it, so that `said she` reads `she said`.  Beside it the count of words in a
text.
-/

namespace SpaceOpera.Prose

open SpaceOpera.Text

/-- A verb of speech and the pronoun that may follow it. -/
structure Inversion where
  verb : List Char
  pronoun : List Char

/-- The verb, a space and the pronoun, the order that proofreading looks for. -/
def Inversion.inverted (i : Inversion) : List Char :=
  i.verb ++ ' ' :: i.pronoun

/-- The pronoun, a space and the verb, the order that proofreading leaves. -/
def Inversion.straight (i : Inversion) : List Char :=
  i.pronoun ++ ' ' :: i.verb

/-- What follows the inverted order in the text, if the text starts with it. -/
def Inversion.after? (i : Inversion) (text : List Char) : Option (List Char) :=
  (dropFront? i.verb text).bind (dropFront? (' ' :: i.pronoun))

theorem Inversion.after?_eq_some_iff {i : Inversion} {text rest : List Char} :
    i.after? text = some rest ↔ text = i.inverted ++ rest := by
  simp [after?, inverted, Option.bind_eq_some_iff, dropFront?_eq_some_iff]

theorem Inversion.length_lt_of_after? {i : Inversion} {text rest : List Char}
    (h : i.after? text = some rest) : rest.length < text.length := by
  rw [Inversion.after?_eq_some_iff] at h
  simp only [h, inverted, List.length_append, List.length_cons]
  omega

/-- No letter and no number touches the place from this side. -/
def isEdge (c? : Option Char) : Bool :=
  c?.all fun c => !isAlphanumeric c

/-- Straightens each whole-word occurrence of the inverted order, scanning from the left.  `before` is
the character in front of `text`; right behind an occurrence, straightened or not, a new word is taken
to start. -/
def straightenFrom (i : Inversion) (before : Option Char) (text : List Char) : List Char :=
  match text with
  | [] => []
  | c :: rest =>
    match _found : i.after? (c :: rest) with
    | some after =>
      (if isEdge before && isEdge after.head? then i.straight else i.inverted)
        ++ straightenFrom i none after
    | none => c :: straightenFrom i (some c) rest
termination_by text.length
decreasing_by
  · exact Inversion.length_lt_of_after? _found
  · simp

/-- Straightens each whole-word occurrence of the inverted order. -/
def straighten (i : Inversion) (text : List Char) : List Char :=
  straightenFrom i none text

/-- Every verb of speech with every pronoun, in the order in which they are straightened: by mood,
said before shouted. -/
def inversions : List Inversion :=
  Mood.all.flatMap fun mood =>
    (mood.diction.saids ++ mood.diction.shouteds).flatMap fun verb =>
      ["he", "she", "they"].map fun pronoun => ⟨verb.toList, pronoun.toList⟩

/-- A backtick becomes an apostrophe. -/
def straightQuote (c : Char) : Char :=
  if c = '`' then '\'' else c

/-- The text with straight apostrophes and with pronouns in front of verbs of speech. -/
def proofread (text : String) : String :=
  String.ofList (inversions.foldl (fun t i => straighten i t) (text.toList.map straightQuote))

/-- Words that lay out a text and are not counted. -/
def layoutWords : List String := ["-", "#", "##", "###"]

/-- The number of words, not counting those that only lay out the text. -/
def wordCount (text : String) : Nat :=
  ((words text.toList).filter fun w => !layoutWords.contains (String.ofList w)).length

end SpaceOpera.Prose
