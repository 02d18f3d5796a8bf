import SpaceOpera.Plot.Basic

/-!
# What can go wrong with a plot
-/

namespace SpaceOpera

/-- Why there is no plot. -/
inductive PlotError where
  /-- Nobody is there to take a part that somebody has to take. -/
  | emptyGroup
  | noSettings
  | holeSurvived (hole : String)
  | notDisqualified (name : String)
  | unbalanced (names : List String)
  | missingRole (development : Development) (role : Role)
  | noAcceptablePlot (attempts : Nat)
deriving DecidableEq, Repr

/-- The text for a group without members. -/
def emptyGroupMessage : String := "a group needs at least one member"

/-- The text of the reason. -/
def PlotError.message : PlotError → String
  | emptyGroup => "invalid group: " ++ emptyGroupMessage
  | noSettings => "world has no settings"
  | holeSurvived hole => s!"plot hole survived pruning: {hole}"
  | notDisqualified name => s!"{name} was requalified without being disqualified"
  | unbalanced names =>
    s!"availability is unbalanced, still unavailable: {Text.quoteList names}"
  | missingRole development role => s!"{development.name} has no {role.name}"
  | noAcceptablePlot attempts => s!"no acceptable plot after {attempts} attempts"

/-- The group of the members, where there have to be some. -/
def formGroup (members : List Object) : Except PlotError Value :=
  match Group.ofList? members with
  | some g => .ok (.group g)
  | none => .error .emptyGroup

end SpaceOpera
