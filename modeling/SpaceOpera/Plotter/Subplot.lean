import SpaceOpera.Plotter.Assignment
import SpaceOpera.Template.Render

/-!
# Subplots

What a rule with its participants puts in place of a hole: developments, and between and behind them new
holes with the rules that may fill them.  Whoever a subplot takes out of the story it brings back before
it ends.
-/

namespace SpaceOpera

namespace Rule

/-- What may fill the hole of a fresh plot. -/
def atHome : List Rule := [contemplateItem, lostItem, awkwardTension, kidnapping, drone]

/-- What may happen before a search sets out. -/
def beforeSearch : List Rule := [findAbductee, contemplateItem]

/-- What may happen in a lair before the rescue. -/
def inLair : List Rule :=
  [kidnapping, findAnotherWay, lostItem, caveIn, goonSkirmish, awkwardTension, romanticTension,
    romanticResolution, contemplateItem]

/-- What may happen once it is known where to search. -/
def afterLocating : List Rule := [contemplateItem]

/-- What may happen on a detour. -/
def onDetour : List Rule :=
  [kidnapping, lostItem, caveIn, goonSkirmish, awkwardTension, romanticTension, contemplateItem]

/-- What may happen while an item is lost. -/
def whileLost : List Rule :=
  [kidnapping, caveIn, goonSkirmish, awkwardTension, romanticTension, contemplateItem, drone]

/-- What may happen while someone is trapped. -/
def whileTrapped : List Rule := [kidnapping, goonSkirmish]

/-- What may happen once someone is dug out. -/
def afterRubble : List Rule := [goonSkirmish, awkwardTension, romanticTension, contemplateItem]

/-- What may happen during a fight. -/
def inCombat : List Rule := [protagonistAttack, awkwardCombat]

/-- What may happen after an awkward moment. -/
def afterAwkwardness : List Rule :=
  [kidnapping, lostItem, caveIn, goonSkirmish, contemplateItem, drone]

/-- What may interrupt a romance. -/
def afterRomance : List Rule := [kidnapping, lostItem, caveIn, goonSkirmish]

/-- What may interrupt someone's thoughts. -/
def afterContemplation : List Rule :=
  [kidnapping, lostItem, caveIn, goonSkirmish, awkwardTension, romanticTension, drone]

/-- What may follow a drone. -/
def afterDrone : List Rule := [kidnapping, lostItem, awkwardTension, romanticTension]

end Rule

open PlotNode (ofDevelopment hole sequence)

namespace Subplot

/-- A kidnapping here, the search for the victim, and the rescue in the lair. -/
def kidnapping (here lair villain abductee : Object) (bystanders everyone : Value) :
    List PlotNode :=
  [(ofDevelopment .kidnapping here)
      |>.set .subject (.object villain)
      |>.set .object (.object abductee)
      |>.set .bystanders bystanders
      |>.set .disqualified (.object abductee)
      |>.set .exeunt bystanders,
    (hole here Rule.beforeSearch)
      |>.set .abductee (.object abductee)
      |>.set .abducteeLocation (.object lair),
    hole lair Rule.inLair,
    (ofDevelopment .rescue lair)
      |>.set .subject bystanders
      |>.set .object (.object abductee)
      |>.set .requalified (.object abductee)
      |>.set .exeunt everyone]

/-- Someone has an idea where to search. -/
def findAbductee (here abductee location : Object) (party : Value) : List PlotNode :=
  [(ofDevelopment .locateAbductee here)
      |>.set .subject party
      |>.set .object (.object abductee)
      |>.set .object2 (.object location),
    hole here Rule.afterLocating]

/-- The way is blocked and leads round the outside. -/
def findAnotherWay (here outside : Object) (party : Value) : List PlotNode :=
  [(ofDevelopment .wayBlocked here) |>.set .subject party,
    hole outside Rule.onDetour]

/-- An item is lost here and found again. -/
def lostItem (here loser recoverer item : Object) (losing recovering : Value) : List PlotNode :=
  [(ofDevelopment .loseItem here)
      |>.set .subject (.object loser)
      |>.set .object (.object item)
      |>.set .bystanders losing
      |>.set .disqualified (.object item),
    hole here Rule.whileLost,
    (ofDevelopment .recoverItem here)
      |>.set .subject (.object recoverer)
      |>.set .object (.object item)
      |>.set .bystanders recovering
      |>.set .requalified (.object item)]

/-- Someone is buried here and dug out. -/
def caveIn (here trapped : Object) (bystanders : Value) : List PlotNode :=
  [(ofDevelopment .trappedInRubble here)
      |>.set .subject (.object trapped)
      |>.set .bystanders bystanders
      |>.set .disqualified (.object trapped),
    hole here Rule.whileTrapped,
    (ofDevelopment .extractedFromRubble here)
      |>.set .subject bystanders
      |>.set .object (.object trapped)
      |>.set .requalified (.object trapped),
    hole here Rule.afterRubble]

/-- A band of goons is met, or springs an ambush, and is vanquished. -/
def goonSkirmish (here goons sender : Object) (met : Bool) (party : Value) : List PlotNode :=
  [(ofDevelopment (if met then .goonEncounter else .goonAmbush) here)
      |>.set .subject party
      |>.set .object (.object goons),
    (hole here Rule.inCombat) |>.set .goons (.object goons),
    (ofDevelopment .vanquished here)
      |>.set .subject party
      |>.set .object (.object goons)
      |>.set .object2 (.object sender)]

/-- More of a fight, and then a development of it. -/
def combat (d : Development) (here goons : Object) (party : Value) : List PlotNode :=
  [(hole here Rule.inCombat) |>.set .goons (.object goons),
    (ofDevelopment d here)
      |>.set .subject party
      |>.set .object (.object goons)]

/-- A development between two, and what may follow it. -/
def encounter (d : Development) (rules : List Rule) (here one other : Object) : List PlotNode :=
  [(ofDevelopment d here)
      |>.set .subject (.object one)
      |>.set .object (.object other),
    hole here rules]

/-- The two get together. -/
def romanticResolution (here lead dreamboat : Object) : List PlotNode :=
  [(ofDevelopment .romanticResolution here)
      |>.set .subject (.object dreamboat)
      |>.set .object (.object lead)]

/-- Someone is startled by a drone. -/
def drone (here startled : Object) : List PlotNode :=
  [(ofDevelopment .drone here) |>.set .subject (.object startled),
    hole here Rule.afterDrone]

end Subplot

/-- Two participants, the heroine first in one case of three. -/
def rollPair (lead dreamboat : Object) : Roll (Object × Object) := do
  if ← Roll.chance 33 then return (lead, dreamboat) else return (dreamboat, lead)

/-- The nodes of the subplot of an assignment in the setting `here`. -/
def subplotIn (w : World) (here : Object) : Assignment → Attempt PlotError (List PlotNode)
  | .kidnapping villain abductee others lair => do
    let bystanders ← formGroup others
    let everyone ← formGroup (others ++ [abductee])
    return Subplot.kidnapping here lair villain abductee bystanders everyone
  | .findAbductee protagonists abductee location => do
    let party ← formGroup protagonists
    return Subplot.findAbductee here abductee location party
  | .findAnotherWay protagonists outside => do
    let party ← formGroup protagonists
    return Subplot.findAnotherWay here outside party
  | .lostItem loser protagonists item => do
    let lead ← Roll.choose (protagonists.filter Object.isLead)
    let recoverer := lead.getD loser
    let losing ← formGroup (without protagonists loser)
    let recovering ← formGroup (without protagonists recoverer)
    return Subplot.lostItem here loser recoverer item losing recovering
  | .caveIn trapped others => do
    let bystanders ← formGroup others
    return Subplot.caveIn here trapped bystanders
  | .goonSkirmish protagonists goons => do
    let met ← (Roll.chance 50 : Roll Bool)
    let sender ← (Roll.choose w.antagonists : Roll (Option Object))
    match sender with
    | none => throw (.missingRole .vanquished .object2)
    | some sender =>
      let party ← formGroup protagonists
      return Subplot.goonSkirmish here goons sender met party
  | .protagonistAttack protagonists goons => do
    let party ← formGroup protagonists
    return Subplot.combat .protagonistAttack here goons party
  | .awkwardCombat lead dreamboat goons => do
    let pair ← formGroup [lead, dreamboat]
    return Subplot.combat .awkwardCombat here goons pair
  | .awkwardTension lead dreamboat => do
    let (one, other) ← rollPair lead dreamboat
    return Subplot.encounter .awkwardTension Rule.afterAwkwardness here one other
  | .romanticTension lead dreamboat => do
    let (one, other) ← rollPair lead dreamboat
    return Subplot.encounter .romanticTension Rule.afterRomance here one other
  | .romanticResolution lead dreamboat =>
    return Subplot.romanticResolution here lead dreamboat
  | .contemplateItem contemplator item =>
    return Subplot.encounter .contemplateItem Rule.afterContemplation here contemplator item
  | .drone startled => return Subplot.drone here startled

/-- The subplot that an assignment puts in place of a hole. -/
def generate (w : World) (a : Assignment) (plotHole : PlotNode) : Attempt PlotError PlotNode :=
  match plotHole.setting? with
  | none => throw (.holeSurvived plotHole.summary)
  | some here => do
    let children ← subplotIn w here a
    return sequence children

end SpaceOpera
