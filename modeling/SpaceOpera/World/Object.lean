import SpaceOpera.Text.Quoted
import SpaceOpera.Text.Words
import SpaceOpera.World.Character

/-!
# Objects

Whatever a story can name: things, characters, the settings where scenes happen, and the duties that
characters carry.  An object is identified by its list of names alone: two objects with the same names
are the same object to every comparison, whatever else they hold.
-/

namespace SpaceOpera

/-- What makes an object a setting, over the type of the objects around it. -/
structure Place (α : Type) where
  roof : α
  nearby : List α
  indoors : Bool := true
  /-- The setting one comes to on leaving this one. -/
  outside : Option α := none
  preposition : String := "on"
  hasDrones : Bool := false
  light : String := "light"

/-- What an object is, beyond its names. -/
inductive Nature (α : Type) where
  | thing
  | character (c : Character)
  | setting (p : Place α)
  /-- What a character has taken on and not yet done. -/
  | duty

/-- Something with names. -/
structure Object where
  names : List String
  noun : Noun := .common
  pronouns : Pronouns := .itIts
  takeable : Bool := false
  home : Option Object := none
  rank : Option Rank := none
  weapon : Option Object := none
  nature : Nature Object := .thing

namespace Object

/-- Objects are compared by their names alone. -/
instance : BEq Object := ⟨fun a b => a.names == b.names⟩

theorem beq_iff {a b : Object} : (a == b) = true ↔ a.names = b.names :=
  beq_iff_eq (a := a.names) (b := b.names)

instance : EquivBEq Object where
  rfl := beq_iff.2 rfl
  symm h := beq_iff.2 (beq_iff.1 h).symm
  trans h k := beq_iff.2 ((beq_iff.1 h).trans (beq_iff.1 k))

/-- The first comes before the second in the order of names. -/
def precedes (a b : Object) : Bool :=
  a.names < b.names

/-- The order of names: the first pair of names that differ decides, by code points. -/
def order (a b : Object) : Ordering :=
  if a == b then .eq else if a.precedes b then .lt else .gt

/-- How diagnostics show an object: by its names as they were given. -/
def debug (o : Object) : String :=
  s!"Object({Text.quoteList o.names})"

/-! ## Making objects -/

/-- A thing with an ordinary noun. -/
def thing (names : List String) : Object :=
  { names }

/-- A character, with a proper noun and the pronouns of the gender. -/
def ofCharacter (names : List String) (c : Character) : Object :=
  { names, noun := .proper, pronouns := c.gender.pronouns, nature := .character c }

/-- A setting. -/
def ofPlace (names : List String) (p : Place Object) : Object :=
  { names, nature := .setting p }

/-- The object with the noun and the pronouns of several. -/
def plural (o : Object) : Object :=
  { o with noun := .plural, pronouns := .theyThem }

/-- The object with a proper noun. -/
def proper (o : Object) : Object :=
  { o with noun := .proper }

/-! ## What it is -/

/-- The character, if it is one. -/
def character? (o : Object) : Option Character :=
  match o.nature with
  | .character c => some c
  | _ => none

/-- The place, if it is a setting. -/
def place? (o : Object) : Option (Place Object) :=
  match o.nature with
  | .setting p => some p
  | _ => none

/-- Is it a character? -/
def isCharacter (o : Object) : Bool :=
  o.character?.isSome

/-- Is it a duty? -/
def isDuty (o : Object) : Bool :=
  match o.nature with
  | .duty => true
  | _ => false

/-- Does it play the given part? -/
def plays (o : Object) (a : Archetype) : Bool :=
  o.character?.any (·.archetype = a)

/-- Is it the heroine? -/
def isLead (o : Object) : Bool := o.plays .lead

/-- Is it never anything but happy? -/
def isOptimist (o : Object) : Bool := o.plays .optimist

/-- Is it the one to fall for? -/
def isDreamboat (o : Object) : Bool := o.plays .dreamboat

/-! ## Its names in a sentence -/

/-- The name at `index` with the title of the rank, or nothing, where the name leaves room for it. -/
def nameVariant (o : Object) (index : Nat) : String :=
  Text.substitute (o.names.getD index "") "{rank}" ((o.rank.map Rank.title).getD "")

/-- The first name. -/
def name (o : Object) : String :=
  o.nameVariant 0

/-- Do several stand behind the name, or does it go by `they`? -/
def isPlural (o : Object) : Bool :=
  o.noun = .plural || o.pronouns = .theyThem

/-- The article of what is known, with the space behind it. -/
def definiteArticle (o : Object) : String :=
  match o.noun with
  | .common | .plural => "the "
  | .proper => ""

/-- The letters before which `a` becomes `an`. -/
def isVowel (c : Char) : Bool :=
  "aeiou".toList.contains c.toLower

/-- The article of what is new, with the space behind it, in front of `name`. -/
def indefiniteArticle (o : Object) (name : String) : String :=
  match o.noun with
  | .common => if name.toList.head?.any isVowel then "an " else "a "
  | .plural => "some "
  | .proper => ""

/-- `name` with the definite article. -/
def definiteOf (o : Object) (name : String) : String :=
  o.definiteArticle ++ name

/-- `name` with the indefinite article. -/
def indefiniteOf (o : Object) (name : String) : String :=
  o.indefiniteArticle name ++ name

/-- The first name with the definite article. -/
def definite (o : Object) : String := o.definiteOf o.name

/-- The first name with the indefinite article. -/
def indefinite (o : Object) : String := o.indefiniteOf o.name

/-- The definite name as an owner's. -/
def possessive (o : Object) : String := o.definite ++ "'s"

/-- The verb that agrees. -/
def was (o : Object) : String :=
  if o.isPlural then "were" else "was"

/-- The name as of something over there. -/
def distal (o : Object) : String :=
  (if o.isPlural then "those" else "that") ++ " " ++ o.name

/-- The name as of something right here. -/
def proximal (o : Object) : String :=
  (if o.isPlural then "these" else "this") ++ " " ++ o.name

/-- The name of one of several: without the `s` at its end. -/
def singular (o : Object) : String :=
  let cs := o.name.toList
  if o.isPlural && cs.getLast? == some 's' then String.ofList cs.dropLast else o.name

/-! ## Duties -/

/-- The duty to rescue someone. -/
def rescueDuty (target : Object) : Object :=
  { names := ["rescue " ++ target.name], nature := .duty }

/-- The duty to get something back. -/
def retrieveDuty (item : Object) : Object :=
  { names := ["retrieve " ++ item.definite], nature := .duty }

/-- The oath that holds when no duty is open. -/
def standingDuty (name : String) : Object :=
  { names := [name], noun := .proper, nature := .duty }

end Object

namespace Place

/-- Is there something nearby that stays where it is? -/
def hasScenery (p : Place Object) : Bool :=
  p.nearby.any (!·.takeable)

/-- Anything nearby. -/
def pickNearby (p : Place Object) : Roll (Option Object) :=
  Roll.choose p.nearby

/-- Something nearby that stays where it is. -/
def pickScenery (p : Place Object) : Roll (Option Object) :=
  Roll.choose (p.nearby.filter (!·.takeable))

/-- Something nearby that can be picked up. -/
def pickTakeable (p : Place Object) : Roll (Option Object) :=
  Roll.choose (p.nearby.filter (·.takeable))

end Place

end SpaceOpera
