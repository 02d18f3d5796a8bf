import SpaceOpera.Text.Alphabet
import SpaceOpera.Text.Blank
import SpaceOpera.Text.Uppercase

/-!
# Words, pieces and capitals

Functions on running text, written over lists of characters: cutting at separators, words between
blanks, trimming, replacing a fixed text, the capital at the start of a sentence.
-/

namespace SpaceOpera.Text

/-- Adds a character to the first piece. -/
def extendFirst (c : Char) : List (List Char) → List (List Char)
  | [] => [[c]]
  | piece :: pieces => (c :: piece) :: pieces

/-- The pieces between the characters that separate; `n` separators make `n + 1` pieces, empty ones
included. -/
def pieces (separates : Char → Bool) (text : List Char) : List (List Char) :=
  text.foldr (fun c ps => if separates c then [] :: ps else extendFirst c ps) [[]]

@[simp]
theorem pieces_nil (separates : Char → Bool) : pieces separates [] = [[]] := rfl

theorem pieces_cons (separates : Char → Bool) (c : Char) (text : List Char) :
    pieces separates (c :: text) =
      if separates c then [] :: pieces separates text
      else extendFirst c (pieces separates text) := rfl

theorem pieces_ne_nil (separates : Char → Bool) (text : List Char) :
    pieces separates text ≠ [] := by
  induction text with
  | nil => simp
  | cons c text ih =>
    rw [pieces_cons]
    split
    · simp
    · cases h : pieces separates text with
      | nil => exact absurd h ih
      | cons p ps => simp [extendFirst]

/-- The words of a text: its maximal runs of characters that are not blank. -/
def words (text : List Char) : List (List Char) :=
  (pieces isBlank text).filter fun w => !w.isEmpty

/-- The text without the blanks at its end. -/
def trimEnd (text : List Char) : List Char :=
  (text.reverse.dropWhile isBlank).reverse

/-- Is there nothing but blanks? -/
def isBlankText (s : String) : Bool :=
  s.toList.all isBlank

/-- The text with its first alphabetic character in upper case. -/
def capitalizeChars (text : List Char) : List Char :=
  let (before, rest) := text.span fun c => !isAlphabetic c
  match rest with
  | [] => before
  | c :: after => before ++ toUpper c ++ after

/-- The text with its first alphabetic character in upper case. -/
def capitalize (s : String) : String :=
  String.ofList (capitalizeChars s.toList)

/-- What follows `front` in the text, if the text starts with it. -/
def dropFront? : List Char → List Char → Option (List Char)
  | [], text => some text
  | _ :: _, [] => none
  | f :: front, c :: text => if f = c then dropFront? front text else none

/-- A text starts with `front` exactly when it is `front` and then what follows it. -/
theorem dropFront?_eq_some_iff {front text rest : List Char} :
    dropFront? front text = some rest ↔ text = front ++ rest := by
  induction front generalizing text with
  | nil => simp [dropFront?]
  | cons f front ih =>
    cases text with
    | nil => simp [dropFront?]
    | cons c text =>
      by_cases h : f = c
      · simp [dropFront?, h, ih]
      · simp [dropFront?, h, Ne.symm h]

/-- Behind a front that is not empty the rest is shorter. -/
theorem length_lt_of_dropFront? {f : Char} {front text rest : List Char}
    (h : dropFront? (f :: front) text = some rest) : rest.length < text.length := by
  rw [dropFront?_eq_some_iff] at h
  rw [h, List.cons_append, List.length_cons, List.length_append]
  omega

/-- Replaces each occurrence of the text `first :: needle`, from the left. -/
def substituteChars (first : Char) (needle replacement : List Char) (text : List Char) :
    List Char :=
  match text with
  | [] => []
  | c :: rest =>
    match _found : dropFront? (first :: needle) (c :: rest) with
    | some after => replacement ++ substituteChars first needle replacement after
    | none => c :: substituteChars first needle replacement rest
termination_by text.length
decreasing_by
  · exact length_lt_of_dropFront? _found
  · simp

/-- Replaces each occurrence of `needle` in `s` by `replacement`; an empty `needle` occurs nowhere. -/
def substitute (s needle replacement : String) : String :=
  match needle.toList with
  | [] => s
  | first :: rest => String.ofList (substituteChars first rest replacement.toList s.toList)

/-- The lines of a text: each ends at a line feed, before which one carriage return is dropped, and
what follows the last line feed is a line unless it is empty. -/
def lines (s : String) : List String :=
  let ps := pieces (· == '\n') s.toList
  let closed := ps.dropLast.map fun p => if p.getLast? == some '\r' then p.dropLast else p
  let all := match ps.getLast? with
    | some [] | none => closed
    | some last => closed ++ [last]
  all.map String.ofList

/-- The lines as one text, each with a line feed behind it. -/
def unlines (ls : List String) : String :=
  String.join (ls.map (· ++ "\n"))

end SpaceOpera.Text
