import SpaceOpera.Tree.Role
import SpaceOpera.World.State

/-!
# Values and attributes

What a role can hold, and the table of a node's roles.
-/

namespace SpaceOpera

/-- What a role can hold. -/
inductive Value where
  | object (o : Object)
  | group (g : Group)
  | state (s : State)
deriving BEq

namespace Value

/-- The object that the value is or is a state of. -/
def object? : Value → Option Object
  | object o => some o
  | group _ => none
  | state s => some s.object

/-- The state, if it is one. -/
def state? : Value → Option State
  | state s => some s
  | _ => none

/-- Every object that the value stands for. -/
def members : Value → List Object
  | object o => [o]
  | group g => g.members
  | state s => [s.object]

/-- How diagnostics show the value. -/
def debug : Value → String
  | object o => o.debug
  | group g => g.debug
  | state s => s.debug

end Value

/-- The values of a node's roles, in the order of the roles. -/
structure Attributes where
  entries : List (Role × Value) := []
deriving BEq

namespace Attributes

/-- The value of the role, if it is set. -/
def get? (a : Attributes) (r : Role) : Option Value :=
  a.entries.lookup r

/-- Sets the role in a list of entries, in its place among them. -/
def setEntry (r : Role) (v : Value) : List (Role × Value) → List (Role × Value)
  | [] => [(r, v)]
  | e :: es =>
    if r = e.1 then (r, v) :: es
    else if r.index < e.1.index then (r, v) :: e :: es
    else e :: setEntry r v es

/-- Sets the role to the value. -/
def set (a : Attributes) (r : Role) (v : Value) : Attributes :=
  ⟨setEntry r v a.entries⟩

/-- Applies a function to every value. -/
def map (f : Role → Value → Value) (a : Attributes) : Attributes :=
  ⟨a.entries.map fun e => (e.1, f e.1 e.2)⟩

/-- Runs a computation on every value, in the order of the roles. -/
def mapM {m : Type → Type} [Monad m] (f : Role → Value → m Value) (a : Attributes) :
    m Attributes := do
  let es ← a.entries.mapM fun e => do
    let v ← f e.1 e.2
    return (e.1, v)
  return ⟨es⟩

@[simp]
theorem get?_empty (r : Role) : ({} : Attributes).get? r = none := rfl

theorem get?_set (a : Attributes) (r r' : Role) (v : Value) :
    (a.set r v).get? r' = if r' = r then some v else a.get? r' := by
  obtain ⟨es⟩ := a
  simp only [set, get?]
  induction es with
  | nil =>
    by_cases h : r' = r
    · subst h; simp [setEntry]
    · simp [setEntry, List.lookup_cons, beq_false_of_ne h, h]
  | cons e es ih =>
    obtain ⟨k, w⟩ := e
    simp only [setEntry]
    split
    · rename_i h
      subst h
      by_cases h' : r' = r
      · subst h'; simp
      · simp [List.lookup_cons, beq_false_of_ne h', h']
    · split
      · by_cases h' : r' = r
        · subst h'; simp
        · simp [List.lookup_cons, beq_false_of_ne h', h']
      · rename_i h _
        by_cases h' : r' = k
        · subst h'
          simp [Ne.symm h]
        · simp only [List.lookup_cons, beq_false_of_ne h', ih]

theorem get?_map (f : Role → Value → Value) (a : Attributes) (r : Role) :
    (a.map f).get? r = (a.get? r).map (f r) := by
  obtain ⟨es⟩ := a
  simp only [map, get?]
  induction es with
  | nil => rfl
  | cons e es ih =>
    obtain ⟨k, v⟩ := e
    by_cases h : r = k
    · subst h; simp
    · simp [List.lookup_cons, beq_false_of_ne h, ih]

end Attributes

end SpaceOpera
