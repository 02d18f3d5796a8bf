import SpaceOpera.Plot.Constraints
import SpaceOpera.Plot.Normal
import SpaceOpera.Plotter.Subplot

/-!
# Writing plots

A plot starts as an introduction, a hole and an ending at home.  Each round fills the holes that it finds
from those who are available there; after the last round the plot is brought into its normal form.
Plots are written until the constraints accept one.
-/

namespace SpaceOpera

/-- The most plots that are written for one, unless fewer are asked for. -/
def attemptLimit : Nat := UInt32.size - 1

/-- A world to write plots for, and the rules that are never tried. -/
structure Plotter where
  world : World
  disabled : List Rule := []

namespace Plotter

/-- An introduction, a hole, a convalescence and a laugh at home. -/
def seedPlot (p : Plotter) : Except PlotError PlotNode :=
  match p.world.home? with
  | none => .error .noSettings
  | some home => do
    let cast ← formGroup p.world.protagonists
    return PlotNode.sequence [
      (PlotNode.ofDevelopment .introduction home) |>.set .subject cast,
      PlotNode.hole home Rule.atHome,
      (PlotNode.ofDevelopment .convalescence home) |>.set .subject cast,
      (PlotNode.ofDevelopment .allLaugh home) |>.set .subject cast]

/-- The assignments of the rules that apply to a hole. -/
def applicable (p : Plotter) (hole : PlotNode) (unavailable : Roster) :
    List Rule → Roll (List Assignment)
  | [] => pure []
  | r :: rs => do
    let a ← assign p.world r hole unavailable
    let rest ← applicable p hole unavailable rs
    return a.toList ++ rest

/-- Puts a subplot in place of a hole with the given rules; the hole stays if none of them applies. -/
def fillWith (p : Plotter) (rules : List Rule) (hole : PlotNode) (unavailable : Roster) :
    Telling PlotError PlotNode := do
  let choices ← (p.applicable hole unavailable (rules.filter (!p.disabled.contains ·)) :
    Roll (List Assignment))
  if choices.isEmpty then
    report [.holeUnfilled hole.summary]
    return hole
  else
    let i ← (Roll.between 0 (choices.length - 1) : Roll Nat)
    match choices[i]? with
    | some a => generate p.world a hole
    | none => return hole

/-- Fills a hole; what is no hole stays as it is. -/
def fillHole (p : Plotter) (hole : PlotNode) (unavailable : Roster) :
    Telling PlotError PlotNode :=
  match hole.kind with
  | .hole rules => p.fillWith rules hole unavailable
  | _ => pure hole

mutual

/-- One round: fills the holes in preorder, each from those available there.  Beside the plot stands
who is unavailable after it. -/
def complicate (p : Plotter) (plot : PlotNode) (unavailable : Roster) :
    Telling PlotError (PlotNode × Roster) :=
  match plot with
  | ⟨.hole rules, a, cs⟩ => do
    let filled ← p.fillWith rules ⟨.hole rules, a, cs⟩ unavailable
    return (filled, unavailable)
  | ⟨k, a, cs⟩ => do
    let unavailable ← Node.track ⟨k, a, cs⟩ unavailable
    let (cs, unavailable) ← complicateList p cs unavailable
    return (⟨k, a, cs⟩, unavailable)

/-- One round on several trees. -/
def complicateList (p : Plotter) (plots : List PlotNode) (unavailable : Roster) :
    Telling PlotError (List PlotNode × Roster) :=
  match plots with
  | [] => return ([], unavailable)
  | c :: cs => do
    let (c, unavailable) ← complicate p c unavailable
    let (cs, unavailable) ← complicateList p cs unavailable
    return (c :: cs, unavailable)

end

/-- Rounds of filling, from round number `round` on, until there are no holes. -/
def expandFrom (p : Plotter) (round : Nat) : Nat → PlotNode → Telling PlotError PlotNode
  | 0, plot => return plot
  | rounds + 1, plot => do
    if plot.holeCount = 0 then
      report [.noHolesLeft round]
      return plot
    else
      let (plot, unavailable) ← p.complicate plot {}
      ensureBalanced unavailable
      p.expandFrom (round + 1) rounds plot.flatten

/-- A fresh plot after `depth` rounds of filling. -/
def expand (p : Plotter) (depth : Nat) : Telling PlotError PlotNode := do
  let plot ← p.seedPlot
  p.expandFrom 0 depth plot

/-- A plot in its normal form. -/
def writePlot (p : Plotter) (depth : Nat) : Telling PlotError PlotNode := do
  let plot ← p.expand depth
  report (normalizeReports plot)
  normalize p.world plot

/-- Writes up to `tries` further plots after `attempts` rejected ones. -/
def acceptableFrom (p : Plotter) (c : Constraints) (depth : Nat) :
    Nat → Nat → Telling PlotError PlotNode
  | 0, attempts => throw (.noAcceptablePlot attempts)
  | tries + 1, attempts => do
    let plot ← p.writePlot depth
    match c.violation? plot with
    | none =>
      report [.plotAccepted (attempts + 1)]
      return plot
    | some reason =>
      report [.plotRejected (attempts + 1) reason]
      acceptableFrom p c depth tries (attempts + 1)

/-- The first plot that the constraints accept. -/
def acceptablePlot (p : Plotter) (c : Constraints) (depth : Nat) (maxAttempts : Option Nat) :
    Telling PlotError PlotNode :=
  p.acceptableFrom c depth (maxAttempts.getD attemptLimit) 0

end Plotter

end SpaceOpera
