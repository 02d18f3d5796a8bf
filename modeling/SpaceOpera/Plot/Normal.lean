import SpaceOpera.Plot.Availability
import SpaceOpera.Telling
import SpaceOpera.World.Catalog

/-!
# The normal form of a plot

A plot that has been filled as far as it will go is put into order before it is told: holes are dropped,
repetitions merged, neighbouring recoveries exchanged, journeys and arrivals put in where the setting
changes, and lost items shown before they are lost and recalled after they are found.
-/

namespace SpaceOpera

open PlotNode (ofDevelopment)

/-! ## Holes -/

mutual

/-- The plot without the holes below its root. -/
def dropHoles : PlotNode → PlotNode
  | ⟨k, a, cs⟩ => ⟨k, a, dropHolesList cs⟩

/-- The nodes that are not holes, without the holes below them. -/
def dropHolesList : List PlotNode → List PlotNode
  | [] => []
  | c :: cs => if c.isHole then dropHolesList cs else dropHoles c :: dropHolesList cs

end

/-- The plot without its holes; a plot that is itself a hole cannot do without it. -/
def removeHoles (plot : PlotNode) : Except PlotError PlotNode :=
  if plot.isHole then .error (.holeSurvived plot.summary) else .ok (dropHoles plot)

/-- Refuses a plot with a hole. -/
def assertNoHoles (plot : PlotNode) : Except PlotError Unit :=
  match plot.preorder.find? Node.isHole with
  | some h => .error (.holeSurvived h.summary)
  | none => .ok ()

/-! ## Repetitions -/

/-- Is `next` one with the development `last` before it? -/
def isRepetition (last next : PlotNode) : Bool :=
  match last.development?, next.development? with
  | some d, some e => d = e && e.collapses
  | _, _ => false

/-- The nodes after `last`, without those that repeat the node kept before them. -/
def collapseAfter (last : PlotNode) : List PlotNode → List PlotNode
  | [] => []
  | n :: ns =>
    if isRepetition last n then collapseAfter last ns else n :: collapseAfter n ns

/-- The nodes without repetitions. -/
def collapse : List PlotNode → List PlotNode
  | [] => []
  | n :: ns => n :: collapseAfter n ns

/-- The plot without repetitions among its children. -/
def removeRepetition (plot : PlotNode) : PlotNode :=
  plot.withChildren (collapse plot.children)

/-! ## Commutation -/

/-- May `later` move ahead of `earlier`?  Both are of the kinds that commute, they share a setting, and
nobody takes part in the later who does not take part in the earlier. -/
def commutes (earlier later : PlotNode) : Bool :=
  earlier.development?.any Development.isCommutable
    && later.development?.any Development.isCommutable
    && (earlier.setting? == later.setting?)
    && later.involvedCharacters.subset earlier.involvedCharacters

/-- The nodes from `held` on, with each node moved ahead of the one before it where they commute. -/
def commuteFrom (held : PlotNode) : List PlotNode → List PlotNode
  | [] => [held]
  | n :: ns => if commutes held n then n :: commuteFrom held ns else held :: commuteFrom n ns

/-- The nodes, each moved ahead of the one before it where they commute. -/
def commuteList : List PlotNode → List PlotNode
  | [] => []
  | n :: ns => commuteFrom n ns

/-- The plot with its neighbouring recoveries exchanged. -/
def commute (plot : PlotNode) : PlotNode :=
  plot.withChildren (commuteList plot.children)

/-- The pairs that are exchanged from `held` on. -/
def exchangesFrom (held : PlotNode) : List PlotNode → List Diagnostic
  | [] => []
  | n :: ns =>
    if commutes held n then
      match held.development?, n.development? with
      | some earlier, some later => .commuted earlier later :: exchangesFrom held ns
      | _, _ => exchangesFrom held ns
    else exchangesFrom n ns

/-- The pairs that `commute` exchanges. -/
def exchanges (plot : PlotNode) : List Diagnostic :=
  match plot.children with
  | [] => []
  | n :: ns => exchangesFrom n ns

/-! ## Journeys -/

/-- Adds objects to a list unless they are in it. -/
def addMissing (os : List Object) (more : List Object) : List Object :=
  more.foldl (fun os o => if os.contains o then os else os ++ [o]) os

/-- Who travels on after a node: those who leave with it, or else everyone who was there. -/
def travellers (n : PlotNode) : List Object :=
  match n.membersOf .exeunt with
  | [] => addMissing (n.membersOf .bystanders) (n.membersOf .subject)
  | leaving => leaving

/-- The way from one node to a next one elsewhere; after a journey everyone has arrived. -/
def journeyBetween (last next : PlotNode) : Except PlotError (List PlotNode) :=
  if last.development? = some .journey then .ok []
  else
    match last.setting?, next.setting? with
    | some here, some there =>
      if here == there then .ok []
      else do
        let party ← formGroup (travellers last)
        return [(ofDevelopment .journey here)
          |>.set .subject party
          |>.set .object (.object there)]
    | _, _ => .ok []

/-- The nodes after `last`, with the journeys between them. -/
def travelAfter (last : PlotNode) : List PlotNode → Except PlotError (List PlotNode)
  | [] => .ok []
  | n :: ns => do
    let journey ← journeyBetween last n
    let rest ← travelAfter n ns
    return journey ++ n :: rest

/-- The plot with a journey wherever the setting changes. -/
def insertJourneys (plot : PlotNode) : Except PlotError PlotNode :=
  match plot.children with
  | [] => .ok plot
  | n :: ns => do
    let rest ← travelAfter n ns
    return plot.withChildren (n :: rest)

/-! ## Arrivals -/

/-- What is known on the way through a plot: the settings seen so far and who is unavailable. -/
structure Itinerary where
  seen : Roster
  unavailable : Roster

/-- The arrival in a setting not seen before, if anyone is there to see it. -/
def arrival (protagonists : List Object) (setting : Object) (it : Itinerary) :
    Option PlotNode :=
  if it.seen.contains setting then none
  else
    (Group.ofList? (availableOf protagonists it.unavailable)).map fun party =>
      (ofDevelopment .encounterNewSetting setting) |>.set .subject (.group party)

/-- The nodes with an arrival in front of the first node in each setting. -/
def arrive (protagonists : List Object) :
    Itinerary → List PlotNode → Except PlotError (List PlotNode)
  | _, [] => .ok []
  | it, n :: ns => do
    let unavailable ← n.track it.unavailable
    let it := { it with unavailable }
    let found := n.setting?.bind fun s => (arrival protagonists s it).map fun a => (s, a)
    match found with
    | some (s, a) =>
      let rest ← arrive protagonists { it with seen := it.seen.insert s } ns
      return a :: n :: rest
    | none =>
      let rest ← arrive protagonists it ns
      return n :: rest

/-- The plot with an arrival wherever a setting other than home is first reached. -/
def encounterNewSettings (w : World) (plot : PlotNode) : Except PlotError PlotNode :=
  match w.home? with
  | none => .error .noSettings
  | some home => do
    let children ← arrive w.protagonists ⟨Roster.ofList [home], {}⟩ plot.children
    return plot.withChildren children

/-! ## Lost items -/

/-- The items lost in a plot, each with whoever loses it first. -/
def lostItems (plot : PlotNode) : Ledger Object :=
  plot.developments.foldl
    (fun holders n =>
      if n.development? = some .loseItem then
        match n.objectIn .object, n.objectIn .subject with
        | some item, some holder =>
          if (holders.get? item).isSome then holders else holders.insert item holder
        | _, _ => holders
      else holders)
    {}

/-- What follows a node for the sake of an item: it is shown after the introduction, and recalled after
a convalescence unless an item has been `recalled` before. -/
def followUp? (n : PlotNode) (recalled : Bool) : Option Development :=
  match n.development? with
  | some .introduction => some .itemForeshadowed
  | some .convalescence => if recalled then none else some .itemRecalled
  | _ => none

/-- The showing or recalling of an item behind a node, if someone besides the holder is there. -/
def itemScene (item holder : Object) (n : PlotNode) (recalled : Bool) : Option PlotNode := do
  let d ← followUp? n recalled
  let setting ← n.setting?
  let others ← Group.ofList? (without (n.membersOf .subject) holder)
  return (ofDevelopment d setting)
    |>.set .subject (.object holder)
    |>.set .object (.object item)
    |>.set .bystanders (.group others)

/-- The nodes with the scenes of one item put in, and whether an item has been recalled by then. -/
def foreshadowItem (item holder : Object) : Bool → List PlotNode → List PlotNode × Bool
  | recalled, [] => ([], recalled)
  | recalled, n :: ns =>
    match itemScene item holder n recalled with
    | some s =>
      let (rest, after) :=
        foreshadowItem item holder (recalled || s.development? = some .itemRecalled) ns
      (n :: s :: rest, after)
    | none =>
      let (rest, after) := foreshadowItem item holder recalled ns
      (n :: rest, after)

/-- The plot with its lost items shown and one of them recalled. -/
def foreshadowItems (plot : PlotNode) : PlotNode :=
  let (children, _) := (lostItems plot).entries.foldl
    (fun (ns, recalled) e => foreshadowItem e.1 e.2 recalled ns) (plot.children, false)
  plot.withChildren children

/-! ## All together -/

/-- The flat plot without holes. -/
def pruned (plot : PlotNode) : Except PlotError PlotNode := do
  let plot ← removeHoles plot.flatten
  let plot := plot.flatten
  assertNoHoles plot
  return plot

/-- The normal form of a plot. -/
def normalize (w : World) (plot : PlotNode) : Except PlotError PlotNode := do
  let plot ← pruned plot
  let plot ← insertJourneys (commute (removeRepetition plot))
  let plot ← encounterNewSettings w plot
  return foreshadowItems plot

/-- The exchanges that bringing a plot into its normal form makes. -/
def normalizeReports (plot : PlotNode) : List Diagnostic :=
  match pruned plot with
  | .ok plot => exchanges (removeRepetition plot)
  | .error _ => []

end SpaceOpera
