import SpaceOpera.Plot.Constraints

/-!
# Settings of a serial

What can be chosen about the chapters of a serial; every choice has a default.
-/

namespace SpaceOpera

/-- What a chapter comes to. -/
inductive OutputMode where
  | prose
  /-- The plot alone, one entry for each development. -/
  | synopsis
  /-- The edited story as a tree. -/
  | dump
deriving DecidableEq, Repr

namespace OutputMode

/-- Every mode. -/
def all : List OutputMode := [prose, synopsis, dump]

/-- The name of the mode. -/
def name : OutputMode → String
  | prose => "Prose"
  | synopsis => "Synopsis"
  | dump => "Dump"

instance : Named OutputMode := ⟨all, name⟩

end OutputMode

/-- What can be chosen. -/
structure Config where
  /-- The rounds in which a plot is filled. -/
  depth : Nat := 5
  constraints : Constraints := {}
  disabledRules : List Rule := []
  /-- The most plots that are written for one chapter. -/
  maxAttempts : Option Nat := none
  output : OutputMode := .prose
  /-- How likely two neighbouring events are joined, in percent. -/
  conjoinChance : Nat := 15
  variety : Bool := true

end SpaceOpera
