import SpaceOpera.Chance.Context
import SpaceOpera.Plot.Availability
import SpaceOpera.World.Catalog

/-!
# Assignments

Before a rule fills a hole it is assigned its participants, from those who are available.  A rule for
which there are none does not apply.
-/

namespace SpaceOpera

/-- A rule with its participants. -/
inductive Assignment where
  | kidnapping (villain abductee : Object) (others : List Object) (lair : Object)
  | findAbductee (protagonists : List Object) (abductee location : Object)
  | findAnotherWay (protagonists : List Object) (outside : Object)
  | lostItem (loser : Object) (protagonists : List Object) (item : Object)
  | caveIn (trapped : Object) (others : List Object)
  | goonSkirmish (protagonists : List Object) (goons : Object)
  | protagonistAttack (protagonists : List Object) (goons : Object)
  | awkwardCombat (lead dreamboat goons : Object)
  | awkwardTension (lead dreamboat : Object)
  | romanticTension (lead dreamboat : Object)
  | romanticResolution (lead dreamboat : Object)
  | contemplateItem (contemplator item : Object)
  | drone (startled : Object)

/-- The rule of an assignment. -/
def Assignment.rule : Assignment → Rule
  | kidnapping .. => .kidnapping
  | findAbductee .. => .findAbductee
  | findAnotherWay .. => .findAnotherWay
  | lostItem .. => .lostItem
  | caveIn .. => .caveIn
  | goonSkirmish .. => .goonSkirmish
  | protagonistAttack .. => .protagonistAttack
  | awkwardCombat .. => .awkwardCombat
  | awkwardTension .. => .awkwardTension
  | romanticTension .. => .romanticTension
  | romanticResolution .. => .romanticResolution
  | contemplateItem .. => .contemplateItem
  | drone .. => .drone

/-- Who or what takes a part. -/
inductive Participation where
  | one (o : Object)
  | several (os : List Object)

/-- The parts of an assignment by name, with whoever takes them. -/
def Assignment.parts : Assignment → List (String × Participation)
  | kidnapping villain abductee others lair =>
    [("villain", .one villain), ("abductee", .one abductee), ("others", .several others),
      ("lair", .one lair)]
  | findAbductee protagonists abductee location =>
    [("protagonists", .several protagonists), ("abductee", .one abductee),
      ("location", .one location)]
  | findAnotherWay protagonists outside =>
    [("protagonists", .several protagonists), ("outside", .one outside)]
  | lostItem loser protagonists item =>
    [("loser", .one loser), ("protagonists", .several protagonists), ("item", .one item)]
  | caveIn trapped others => [("trapped", .one trapped), ("others", .several others)]
  | goonSkirmish protagonists goons | protagonistAttack protagonists goons =>
    [("protagonists", .several protagonists), ("goons", .one goons)]
  | awkwardCombat lead dreamboat goons =>
    [("lead", .one lead), ("dreamboat", .one dreamboat), ("goons", .one goons)]
  | awkwardTension lead dreamboat | romanticTension lead dreamboat
  | romanticResolution lead dreamboat =>
    [("lead", .one lead), ("dreamboat", .one dreamboat)]
  | contemplateItem contemplator item => [("contemplator", .one contemplator), ("item", .one item)]
  | drone startled => [("startled", .one startled)]

/-- Those whom one rule may draw on. -/
structure Pool where
  protagonists : List Object
  macguffins : List Object

namespace Pool

/-- The protagonists and items of a world that are not unavailable. -/
def of (w : World) (unavailable : Roster) : Pool :=
  ⟨availableOf w.protagonists unavailable, availableOf w.macguffins unavailable⟩

/-- All protagonists, if there are any. -/
def everyone (p : Pool) : OptionT Roll (List Object) :=
  if p.protagonists.isEmpty then failure else pure p.protagonists

/-- A protagonist that fits, and the others, of whom there has to be at least one. -/
def protagonistAndOthers (p : Pool) (fits : Object → Bool) :
    OptionT Roll (Object × List Object) := do
  let chosen ← OptionT.mk (Roll.choose (p.protagonists.filter fits))
  let others := p.protagonists.filter (· != chosen)
  if others.isEmpty then failure else return (chosen, others)

/-- The heroine and someone to fall for, where both are there. -/
def leadAndDreamboat (p : Pool) : OptionT Roll (Object × Object) := do
  let leads := p.protagonists.filter Object.isLead
  let dreamboats := p.protagonists.filter Object.isDreamboat
  if leads.isEmpty || dreamboats.isEmpty then
    failure
  let lead ← OptionT.mk (Roll.choose leads)
  let dreamboat ← OptionT.mk (Roll.choose dreamboats)
  return (lead, dreamboat)

/-- An item that is not lost already. -/
def macguffin (p : Pool) : OptionT Roll Object :=
  OptionT.mk (Roll.choose p.macguffins)

end Pool

/-- What an optional value holds, if anything. -/
def present {α : Type} (o : Option α) : OptionT Roll α :=
  OptionT.mk (pure o)

/-- Goes on only if the condition holds. -/
def require (b : Bool) : OptionT Roll Unit :=
  if b then pure () else failure

/-- Is this the first setting of the world? -/
def World.isHome (w : World) (setting : Object) : Bool :=
  w.home?.any (· == setting)

/-- Assigns participants to a rule for a hole in `setting`. -/
def assignIn (w : World) (rule : Rule) (hole : PlotNode) (setting : Object) (pool : Pool) :
    OptionT Roll Assignment :=
  match rule with
  | .kidnapping => do
    let (abductee, others) ← pool.protagonistAndOthers (!·.isLead)
    let villain ← OptionT.mk (Roll.choose w.antagonists)
    return .kidnapping villain abductee others (villain.home.getD setting)
  | .findAbductee => do
    let protagonists ← pool.everyone
    let abductee ← present (hole.objectIn .abductee)
    let location ← present (hole.objectIn .abducteeLocation)
    return .findAbductee protagonists abductee location
  | .findAnotherWay => do
    let place ← present setting.place?
    let outside ← present place.outside
    let protagonists ← pool.everyone
    return .findAnotherWay protagonists outside
  | .lostItem => do
    let (loser, _) ← pool.protagonistAndOthers fun _ => true
    let item ← pool.macguffin
    return .lostItem loser pool.protagonists item
  | .caveIn => do
    require (!w.isHome setting)
    let (trapped, others) ← pool.protagonistAndOthers (!·.isLead)
    return .caveIn trapped others
  | .goonSkirmish => do
    require (!w.isHome setting && !w.antagonists.isEmpty)
    let protagonists ← pool.everyone
    let goons ← OptionT.mk (Roll.choose w.goons)
    return .goonSkirmish protagonists goons
  | .protagonistAttack => do
    let protagonists ← pool.everyone
    let goons ← present (hole.objectIn .goons)
    return .protagonistAttack protagonists goons
  | .awkwardCombat => do
    let goons ← present (hole.objectIn .goons)
    let (lead, dreamboat) ← pool.leadAndDreamboat
    return .awkwardCombat lead dreamboat goons
  | .awkwardTension => do
    let (lead, dreamboat) ← pool.leadAndDreamboat
    return .awkwardTension lead dreamboat
  | .romanticTension => do
    let (lead, dreamboat) ← pool.leadAndDreamboat
    return .romanticTension lead dreamboat
  | .romanticResolution => do
    let (lead, dreamboat) ← pool.leadAndDreamboat
    return .romanticResolution lead dreamboat
  | .contemplateItem => do
    let (contemplator, _) ← pool.protagonistAndOthers fun _ => true
    let place ← present setting.place?
    let item ← OptionT.mk place.pickTakeable
    return .contemplateItem contemplator item
  | .drone => do
    let place ← present setting.place?
    require place.hasDrones
    let (startled, _) ← pool.protagonistAndOthers fun _ => true
    return .drone startled

/-- Assigns participants to a rule, where it applies; no rule applies to a hole that is nowhere. -/
def assign (w : World) (rule : Rule) (hole : PlotNode) (unavailable : Roster) :
    Roll (Option Assignment) :=
  match hole.setting? with
  | none => pure none
  | some setting => (assignIn w rule hole setting (Pool.of w unavailable)).run

end SpaceOpera
