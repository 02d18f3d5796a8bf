import SpaceOpera.Text.Named

/-!
# Roles

The places of a plot or story node that something of the world can take.
-/

namespace SpaceOpera

/-- A place that a value can take on a node. -/
inductive Role where
  | subject
  | object
  | object2
  | bystanders
  /-- Those who leave when the development ends. -/
  | exeunt
  /-- Who is not available from here on. -/
  | disqualified
  /-- Who is available again. -/
  | requalified
  | setting
  | goons
  | abductee
  | abducteeLocation
deriving DecidableEq, Repr

namespace Role

/-- Every role, in the order in which a node lists them. -/
def all : List Role :=
  [subject, object, object2, bystanders, exeunt, disqualified, requalified, setting, goons, abductee,
    abducteeLocation]

/-- The name of the role. -/
def name : Role → String
  | subject => "subject"
  | object => "object"
  | object2 => "object2"
  | bystanders => "bystanders"
  | exeunt => "exeunt"
  | disqualified => "disqualified"
  | requalified => "requalified"
  | setting => "setting"
  | goons => "goons"
  | abductee => "abductee"
  | abducteeLocation => "abductee_location"

instance : Named Role := ⟨all, name⟩

/-- Reads a role, by its name or as `obj`, `sub` or `subj`. -/
def parse? (text : String) : Option Role :=
  match text with
  | "obj" => some object
  | "sub" | "subj" => some subject
  | _ => ofName? text

/-- A name reads back as its role. -/
theorem parse?_name (r : Role) : parse? r.name = some r := by
  cases r <;> rfl

/-- The place of the role among all. -/
def index (r : Role) : Nat :=
  r.ctorIdx

end Role

end SpaceOpera
