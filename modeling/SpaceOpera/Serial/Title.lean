import SpaceOpera.Chance.Context
import SpaceOpera.Plot.Basic

/-!
# Titles

A chapter is named after someone or something of its plot.  A title that has been used becomes a sequel:
with one of the sequel phrases in front, then with two of them, then with a number behind.
-/

namespace SpaceOpera

/-- The phrases in front of a sequel. -/
def sequelPhrases : List String :=
  ["The Return of ", "The Revenge of ", "The Scourge of ", "The Menace of ", "The Secret of ",
    "The Time of ", "The Mystery of ", "The Phantom of "]

/-- The title of a chapter in which there is nobody to name it after. -/
def fallbackTitle : String := "The Destiny of Fate"

/-- Those whom a plot can be named after. -/
def titleCandidates (plot : PlotNode) : Roster :=
  Roster.ofList <| plot.preorder.filterMap fun n =>
    (n.development?.bind Development.titleRole?).bind n.objectIn

/-- What is put in front of a base: one phrase, then two. -/
def sequelFronts : List String :=
  sequelPhrases ++ sequelPhrases.flatMap fun a => sequelPhrases.map fun b => a ++ b

/-- The titles of a base, in the order in which they are tried, with numbers up to `count + 1`. -/
def titlesOf (base : String) (count : Nat) : List String :=
  base :: sequelFronts.map (· ++ base)
    ++ (List.range count).map fun k => s!"{base} {k + 2}"

/-- The first title of a base that is not in use.  One more number than there are used titles is
enough for one to be free. -/
def freshTitle (used : List String) (base : String) : String :=
  ((titlesOf base (used.length + 1)).find? (!used.contains ·)).getD base

/-- The base of a title, drawn from those whom the plot can be named after. -/
def rollBase (plot : PlotNode) : Roll String := do
  let name ← Roll.choose ((titleCandidates plot).members.map Object.definite)
  return (name.map Text.capitalize).getD fallbackTitle

/-- A title for a plot that is not in use. -/
def pickTitle (used : List String) (plot : PlotNode) : Roll String := do
  let base ← rollBase plot
  return freshTitle used base

end SpaceOpera
