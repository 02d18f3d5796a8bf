import SpaceOpera.Plot.Basic

/-!
# Constraints on plots

How often developments have to occur and how often they may.
-/

namespace SpaceOpera

/-- Least and greatest numbers of developments. -/
structure Constraints where
  min : List (Development × Nat) := []
  max : List (Development × Nat) := []

namespace Constraints

/-- The first constraint that the plot violates: too few before too many, in the order given. -/
def violation? (c : Constraints) (plot : PlotNode) : Option String :=
  let tooFew := c.min.findSome? fun (d, least) =>
    let found := plot.count d
    if found < least then some s!"{d.name}: {found} < {least}" else none
  let tooMany := c.max.findSome? fun (d, most) =>
    let found := plot.count d
    if most < found then some s!"{d.name}: {found} > {most}" else none
  tooFew.or tooMany

/-- Does the plot violate none? -/
def accepts (c : Constraints) (plot : PlotNode) : Bool :=
  (c.violation? plot).isNone

end Constraints

end SpaceOpera
