import SpaceOpera.Template.Basic
import SpaceOpera.Tree.Node
import SpaceOpera.Voice.Wardrobe

/-!
# Filling templates in

A template is filled in from the values of a node: a choice takes one of its options at random, and a
slot starts from the value in its role and follows its properties until it comes to text.
-/

namespace SpaceOpera

open Chance

/-- A computation that draws and can fail; what it has drawn before it fails stays drawn. -/
abbrev Attempt (ε : Type) := ExceptT ε Roll

namespace Template

/-- What a slot has come to. -/
inductive Term where
  | object (o : Object)
  | state (s : State)
  | group (g : Group)
  | text (t : String)

/-- Why a slot cannot be filled in. -/
inductive SlotError where
  | undeclared (e : UndeclaredRole)
  | unset (role : Role)
  | unavailable (property : Property) (on : String)
  | missing (property : Property) (on : String)
  | noMood (name : String)
  | notText (term : String)
deriving DecidableEq, Repr

/-- The text of the reason. -/
def SlotError.message : SlotError → String
  | undeclared e => e.message
  | unset role => s!"role '{role.name}' is not set"
  | unavailable property on => s!"'{property.spelling}' is not available on {on}"
  | missing property on => s!"'{property.spelling}' of {on} is empty"
  | noMood name => s!"mood not assigned to {name}"
  | notText term => s!"slot ends on {term} rather than text"

namespace Term

/-- The start of a slot's path. -/
def ofValue : Value → Term
  | .object o => object o
  | .group g => group g
  | .state s => state s

/-- What the term is, for a failure. -/
def describe : Term → String
  | object o => o.debug
  | state s => s!"State({s.object.debug})"
  | group g => s!"Group({g.definite})"
  | text t => s!"text '{t}'"

/-- The text, if the term is text. -/
def toText : Term → Except SlotError String
  | text t => .ok t
  | t => .error (.notText t.describe)

end Term

/-- Two words for a motion that is both. -/
def rollContrast : Roll String := do
  let smooth ← Roll.word smoothWords
  let strong ← Roll.word strongWords
  return s!"{smooth} yet {strong}"

/-- A simile. -/
def rollSimile : Roll String := do
  let creature ← Roll.word simileCreatures
  let place ← Roll.word similePlaces
  return s!"like {creature} {place}"

/-- A motion with a word on it in one case of five. -/
def rollMotion : Roll String := do
  if ← Roll.chance 80 then
    return ""
  else
    let contrast ← rollContrast
    return s!"with a {contrast} motion, "

/-- The palette that the colour of an object comes from. -/
def palette (o : Object) : List String :=
  match o.character? with
  | some c => c.archetype.wardrobe.colours
  | none => commonColours

/-- The object that a property leads to. -/
def linked (p : Property) (on : Object) (link : Option Object) : Except SlotError Term :=
  match link with
  | some o => .ok (.object o)
  | none => .error (.missing p on.name)

/-- A property of a group. -/
def groupProperty (g : Group) (p : Property) : Except SlotError Term :=
  match p with
  | .name | .definite | .indefinite | .pronoun | .accusative => .ok (.text g.definite)
  | .possessive => .ok (.text g.possessive)
  | .possessivePronoun => .ok (.text "their")
  | .accusativePronoun => .ok (.text "them")
  | .was => .ok (.text "were")
  | _ => .error (.unavailable p (Term.describe (.group g)))

/-- Draws a text. -/
def rolled (roll : Roll String) : Attempt SlotError Term := do
  let t ← roll
  return .text t

/-- Draws an object that may be missing. -/
def rolledObject (p : Property) (on : Object) (roll : Roll (Option Object)) :
    Attempt SlotError Term := do
  let o ← roll
  linked p on o

/-- A property that only characters have. -/
def characterProperty (o : Object) (p : Property) (f : Character → Attempt SlotError Term) :
    Attempt SlotError Term :=
  match o.character? with
  | some c => f c
  | none => throw (.unavailable p o.name)

/-- A property that only settings have. -/
def placeProperty (o : Object) (p : Property) (f : Place Object → Attempt SlotError Term) :
    Attempt SlotError Term :=
  match o.place? with
  | some place => f place
  | none => throw (.unavailable p o.name)

/-- A property of an object. -/
def objectProperty (o : Object) (p : Property) : Attempt SlotError Term :=
  match p with
  | .name => pure (.text o.name)
  | .definite => pure (.text o.definite)
  | .indefinite => pure (.text o.indefinite)
  | .possessive => pure (.text o.possessive)
  | .possessivePronoun => pure (.text o.pronouns.possessive)
  | .accusative | .accusativePronoun => pure (.text o.pronouns.object)
  | .pronoun => pure (.text o.pronouns.subject)
  | .was => pure (.text o.was)
  | .distal => pure (.text o.distal)
  | .proximal => pure (.text o.proximal)
  | .singular => pure (.text o.singular)
  | .colour => rolled (Roll.word (palette o))
  | .gibberish => rolled Roll.gibberish
  | .rank =>
    match o.rank with
    | some r => pure (.text r.title)
    | none => throw (.missing p o.name)
  | .nextRank =>
    match o.rank.bind Rank.next? with
    | some r => pure (.text r.title)
    | none => throw (.missing p o.name)
  | .home => linked p o o.home
  | .weapon => linked p o o.weapon
  | .stature => characterProperty o p fun c => pure (.text c.traits.stature)
  | .hairLength => characterProperty o p fun c => pure (.text c.traits.hairLength)
  | .hairColour => characterProperty o p fun c => pure (.text c.traits.hairColour)
  | .eyeColour => characterProperty o p fun c => pure (.text c.traits.eyeColour)
  | .featureAdj => characterProperty o p fun c => pure (.text c.traits.featureAdj)
  | .feature => characterProperty o p fun c => pure (.text c.traits.feature)
  | .warCry => characterProperty o p fun c => pure (.text c.traits.warCry)
  | .wearing => characterProperty o p fun c => rolled (Roll.word c.archetype.wardrobe.wearing)
  | .yet => characterProperty o p fun _ => rolled rollContrast
  | .motion => characterProperty o p fun _ => rolled rollMotion
  | .simile => characterProperty o p fun _ => rolled rollSimile
  | .withVoice => characterProperty o p fun _ => rolled do
      let simile ← rollSimile
      return s!"with a voice {simile}"
  | .light => placeProperty o p fun place => pure (.text place.light)
  | .preposition => placeProperty o p fun place => pure (.text place.preposition)
  | .nearby => placeProperty o p fun place => rolledObject p o place.pickNearby
  | .nearbyScenery => placeProperty o p fun place => rolledObject p o place.pickScenery
  | .nearbyTakeable => placeProperty o p fun place => rolledObject p o place.pickTakeable
  | .roof => placeProperty o p fun place => pure (.object place.roof)
  | .adverb | .said | .shouted | .emoted | .pickDuty | .location | .torsoCostume | .legsCostume
  | .feetCostume => throw (.unavailable p ("bare " ++ o.debug))

/-- A word of the mood that the state has to have. -/
def moodProperty (s : State) (table : Diction → List String) : Attempt SlotError Term := do
  let w ← s.moodWord table
  match w with
  | some w => return .text w
  | none => throw (.noMood s.object.name)

/-- A property of a state: its own, or else that of its object. -/
def stateProperty (s : State) (p : Property) : Attempt SlotError Term :=
  match p with
  | .definite => rolled s.definite
  | .indefinite => rolled s.indefinite
  | .pronoun => rolled s.pronoun
  | .accusative => rolled s.accusative
  | .possessive => rolled s.possessive
  | .adverb => moodProperty s Diction.adverbs
  | .said => moodProperty s Diction.saids
  | .shouted => moodProperty s Diction.shouteds
  | .emoted => moodProperty s Diction.emoteds
  | .pickDuty => do
    let duty ← s.pickDuty
    return .object duty
  | .location => linked p s.object s.location
  | .torsoCostume => linked p s.object s.torso
  | .legsCostume => linked p s.object s.legs
  | .feetCostume => linked p s.object s.feet
  | p => objectProperty s.object p

/-- A property of a term. -/
def Term.property (t : Term) (p : Property) : Attempt SlotError Term :=
  match t with
  | object o => objectProperty o p
  | state s => stateProperty s p
  | group g => groupProperty g p
  | text _ => throw (.unavailable p t.describe)

section

variable {κ : Type} [NodeKind κ]

/-- Fills a slot in. -/
def renderSlot (n : Node κ) (role : Role) (path : List Property) : Attempt SlotError String :=
  match n.lookup role with
  | .error e => throw (.undeclared e)
  | .ok none => throw (.unset role)
  | .ok (some v) => do
    let t ← path.foldlM Term.property (Term.ofValue v)
    t.toText

/-- Fills a piece in. -/
def Piece.render (n : Node κ) : Piece → Attempt SlotError String
  | literal t => pure (String.ofList t)
  | slot role path => renderSlot n role path

/-- Fills pieces in and joins them. -/
def renderPieces (n : Node κ) (ps : List Piece) : Attempt SlotError String := do
  let texts ← ps.mapM (Piece.render n)
  return String.join texts

/-- Fills a segment in; a choice without options is nothing. -/
def Segment.render (n : Node κ) : Segment → Attempt SlotError String
  | piece p => p.render n
  | choice options => do
    if options.isEmpty then
      return ""
    else
      let i ← (Roll.below .wide options.length : Roll Nat)
      renderPieces n (options.getD i [])

/-- Fills a template in from the values of a node. -/
def render (t : Template) (n : Node κ) : Attempt SlotError String := do
  let texts ← t.mapM (Segment.render n)
  return String.join texts

/-- Checks that a kind declares the role of every slot. -/
def checkRoles (t : Template) (k : κ) : Except UndeclaredRole Unit :=
  match t.roles.find? fun r => !(NodeKind.roles k).contains r with
  | some r => .error ⟨NodeKind.label k, r⟩
  | none => .ok ()

end

end Template

/-- Why a node cannot be put into words. -/
inductive RenderError where
  | template (source : String) (fault : Template.Fault)
  | slot (source node : String) (cause : Template.SlotError)
  | noTemplates (node : String)
deriving DecidableEq, Repr

/-- The text of the reason. -/
def RenderError.message : RenderError → String
  | template source fault => s!"template parse error in '{source}': {fault.message}"
  | slot source node cause => s!"cannot render '{source}' on {node}: {cause.message}"
  | noTemplates node => s!"{node} has no templates to render"

/-- Reads a template and fills it in from a node. -/
def renderTemplate {κ : Type} [NodeKind κ] (source : String) (n : Node κ) :
    Attempt RenderError String :=
  match Template.parse source with
  | .error fault => throw (.template source fault)
  | .ok t => (t.render n).adapt fun cause => .slot source n.summary cause

end SpaceOpera
