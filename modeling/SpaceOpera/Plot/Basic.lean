import SpaceOpera.Plot.Development
import SpaceOpera.Tree.Node

/-!
# Plots

A plot is a tree of developments and of holes, places where something may still happen.  A hole lists
the rules that may fill it.
-/

namespace SpaceOpera

/-- A way to fill a hole. -/
inductive Rule where
  | kidnapping
  | findAbductee
  | findAnotherWay
  | lostItem
  | caveIn
  | goonSkirmish
  | protagonistAttack
  | awkwardCombat
  | awkwardTension
  | romanticTension
  | romanticResolution
  | contemplateItem
  | drone
deriving DecidableEq, Repr

namespace Rule

/-- Every rule, in the order in which their applications are tried. -/
def all : List Rule :=
  [kidnapping, findAbductee, findAnotherWay, lostItem, caveIn, goonSkirmish, protagonistAttack,
    awkwardCombat, awkwardTension, romanticTension, romanticResolution, contemplateItem, drone]

/-- The name shown in diagnostics. -/
def name : Rule → String
  | kidnapping => "Kidnapping"
  | findAbductee => "FindAbductee"
  | findAnotherWay => "FindAnotherWay"
  | lostItem => "LostItem"
  | caveIn => "CaveIn"
  | goonSkirmish => "GoonSkirmish"
  | protagonistAttack => "ProtagonistAttack"
  | awkwardCombat => "AwkwardCombat"
  | awkwardTension => "AwkwardTension"
  | romanticTension => "RomanticTension"
  | romanticResolution => "RomanticResolution"
  | contemplateItem => "ContemplateItem"
  | drone => "Drone"

instance : Named Rule := ⟨all, name⟩

end Rule

/-- The kinds of nodes of a plot. -/
inductive PlotKind where
  | sequence
  /-- A place where one of the rules may make something happen. -/
  | hole (rules : List Rule)
  | development (d : Development)
deriving DecidableEq, Repr

namespace PlotKind

instance : NodeKind PlotKind where
  label
    | sequence => "PlotSequence"
    | hole _ => "PlotHole"
    | development _ => "PlotDevelopment"
  roles
    | sequence => []
    | hole _ => [.setting, .goons, .abductee, .abducteeLocation]
    | development _ =>
      [.subject, .object, .object2, .bystanders, .exeunt, .disqualified, .requalified, .setting]
  isSequence
    | sequence => true
    | _ => false
  debug
    | sequence => "Sequence"
    | hole rules => "Hole([" ++ ", ".intercalate (rules.map Rule.name) ++ "])"
    | development d => "Development(" ++ d.name ++ ")"

end PlotKind

/-- A node of a plot. -/
abbrev PlotNode := Node PlotKind

namespace PlotNode

/-- A development that takes place in a setting. -/
def ofDevelopment (d : Development) (setting : Object) : PlotNode :=
  { kind := .development d, attributes := ⟨[(.setting, .object setting)]⟩ }

/-- A hole in a setting. -/
def hole (setting : Object) (rules : List Rule) : PlotNode :=
  { kind := .hole rules, attributes := ⟨[(.setting, .object setting)]⟩ }

/-- Nodes in order. -/
def sequence (children : List PlotNode) : PlotNode :=
  { kind := .sequence, children }

end PlotNode

namespace Node

/-- The development, if the node is one. -/
def development? (n : PlotNode) : Option Development :=
  match n.kind with
  | .development d => some d
  | _ => none

/-- Is the node a hole? -/
def isHole (n : PlotNode) : Bool :=
  match n.kind with
  | .hole _ => true
  | _ => false

/-- Where the node takes place. -/
def setting? (n : PlotNode) : Option Object :=
  n.objectIn .setting

/-- The roles of those who take part, in whatever way. -/
def involvedRoles : List Role := [.subject, .object, .object2, .bystanders]

/-- The characters who take part in whatever way. -/
def involvedCharacters (n : PlotNode) : Roster :=
  Roster.ofList ((involvedRoles.flatMap n.membersOf).filter Object.isCharacter)

/-- The developments in preorder. -/
def developments (n : PlotNode) : List PlotNode :=
  n.preorder.filter fun m => m.development?.isSome

/-- How many developments of the kind the plot has. -/
def count (n : PlotNode) (d : Development) : Nat :=
  (n.preorder.filter fun m => m.development? = some d).length

/-- The holes in preorder. -/
def holes (n : PlotNode) : List PlotNode :=
  n.preorder.filter isHole

/-- How many holes the plot has. -/
def holeCount (n : PlotNode) : Nat :=
  n.holes.length

end Node

end SpaceOpera
