import SpaceOpera.Plot.Error

/-!
# Availability

A development can take someone out of the story and another can bring them back.  Replaying these
markers in order tells who is unavailable at each point; a plot is balanced when the replay never brings
back someone who was there and leaves nobody away.
-/

namespace SpaceOpera

namespace Node

/-- Who is unavailable after the markers of one node: the one it takes away, but not the one it brings
back. -/
def afterMarkers (n : PlotNode) (unavailable : Roster) : Roster :=
  let gone := match n.objectIn .disqualified with
    | some o => unavailable.insert o
    | none => unavailable
  match n.objectIn .requalified with
  | some o => gone.erase o
  | none => gone

/-- Does the node bring back only someone who is away, possibly since its own marker? -/
def markersFit (n : PlotNode) (unavailable : Roster) : Bool :=
  match n.objectIn .requalified with
  | none => true
  | some back => (n.objectIn .disqualified).any (back == ·) || unavailable.contains back

/-- Who is unavailable after the node, whose markers have to fit. -/
def track (n : PlotNode) (unavailable : Roster) : Except PlotError Roster :=
  if n.markersFit unavailable then .ok (n.afterMarkers unavailable)
  else .error (.notDisqualified (((n.objectIn .requalified).map Object.name).getD ""))

end Node

/-- Who is unavailable after several nodes. -/
def replay (nodes : List PlotNode) (unavailable : Roster) : Except PlotError Roster :=
  nodes.foldlM (fun r n => n.track r) unavailable

/-- Refuses to end with anyone away. -/
def ensureBalanced (unavailable : Roster) : Except PlotError Unit :=
  if unavailable.isEmpty then .ok ()
  else .error (.unbalanced (unavailable.members.map Object.name))

/-- Checks that whoever is taken out of the plot is brought back, and nobody else. -/
def checkBalance (plot : PlotNode) : Except PlotError Unit := do
  let unavailable ← replay plot.preorder {}
  ensureBalanced unavailable

/-- The objects that are not in the roster. -/
def availableOf (objects : List Object) (unavailable : Roster) : List Object :=
  objects.filter fun o => !unavailable.contains o

/-- The members other than one of them. -/
def without (members : List Object) (excluded : Object) : List Object :=
  members.filter (· != excluded)

end SpaceOpera
