import SpaceOpera.Text.Named

/-!
# Nouns, pronouns and ranks

The grammatical properties of what a story names.
-/

namespace SpaceOpera

/-- The pronouns that stand for something. -/
inductive Pronouns where
  | sheHer
  | heHim
  | theyThem
  | itIts
deriving DecidableEq, Repr

namespace Pronouns

/-- Every set of pronouns. -/
def all : List Pronouns := [sheHer, heHim, theyThem, itIts]

/-- The name of the set. -/
def name : Pronouns → String
  | sheHer => "SheHer"
  | heHim => "HeHim"
  | theyThem => "TheyThem"
  | itIts => "ItIts"

instance : Named Pronouns := ⟨all, name⟩

/-- The pronoun of a subject. -/
def subject : Pronouns → String
  | sheHer => "she"
  | heHim => "he"
  | theyThem => "they"
  | itIts => "it"

/-- The pronoun of an object. -/
def object : Pronouns → String
  | sheHer => "her"
  | heHim => "him"
  | theyThem => "them"
  | itIts => "it"

/-- The pronoun of an owner, in front of what is owned. -/
def possessive : Pronouns → String
  | sheHer => "her"
  | heHim => "his"
  | theyThem => "their"
  | itIts => "its"

end Pronouns

/-- How a noun takes articles. -/
inductive Noun where
  /-- One of many: `a bridge`, `the bridge`. -/
  | common
  /-- Several: `some boots`, `the boots`. -/
  | plural
  /-- Without articles: `Nebulon`. -/
  | proper
deriving DecidableEq, Repr

namespace Noun

/-- Every kind of noun. -/
def all : List Noun := [common, plural, proper]

/-- The name of the kind. -/
def name : Noun → String
  | common => "Common"
  | plural => "Plural"
  | proper => "Proper"

instance : Named Noun := ⟨all, name⟩

end Noun

/-- The ranks of officers. -/
inductive Rank where
  | ensign
  | lieutenant
  | lieutenantCommander
  | commander
  | captain
  | commodore
  | admiral
  | superAdmiral
deriving DecidableEq, Repr

namespace Rank

/-- Every rank, the lowest first. -/
def all : List Rank :=
  [ensign, lieutenant, lieutenantCommander, commander, captain, commodore, admiral, superAdmiral]

/-- The name of the rank, as one word. -/
def name : Rank → String
  | ensign => "Ensign"
  | lieutenant => "Lieutenant"
  | lieutenantCommander => "LieutenantCommander"
  | commander => "Commander"
  | captain => "Captain"
  | commodore => "Commodore"
  | admiral => "Admiral"
  | superAdmiral => "SuperAdmiral"

instance : Named Rank := ⟨all, name⟩

/-- How an officer of the rank is addressed. -/
def title : Rank → String
  | ensign => "Ensign"
  | lieutenant => "Lieutenant"
  | lieutenantCommander => "Lieutenant Commander"
  | commander => "Commander"
  | captain => "Captain"
  | commodore => "Commodore"
  | admiral => "Admiral"
  | superAdmiral => "Super Admiral"

/-- The rank above, if there is one. -/
def next? : Rank → Option Rank
  | ensign => some lieutenant
  | lieutenant => some lieutenantCommander
  | lieutenantCommander => some commander
  | commander => some captain
  | captain => some commodore
  | commodore => some admiral
  | admiral => some superAdmiral
  | superAdmiral => none

end Rank

end SpaceOpera
