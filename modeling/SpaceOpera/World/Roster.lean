import SpaceOpera.World.Object

/-!
# Groups, rosters and ledgers

Three ways to hold several objects.  A group is a list of participants that is never empty, in the order
in which they are named.  A roster is a set of objects and a ledger a table over objects; both are kept
in the order of names and take two objects with the same names for one.
-/

namespace SpaceOpera

/-- Participants who act as one. -/
structure Group where
  members : List Object
  nonempty : members ≠ []

namespace Group

/-- The group of the members, if there are any. -/
def ofList? (members : List Object) : Option Group :=
  if h : members = [] then none else some ⟨members, h⟩

@[simp]
theorem ofList?_eq_none_iff {members : List Object} : ofList? members = none ↔ members = [] := by
  unfold ofList?
  split <;> simp_all

theorem members_of_ofList? {members : List Object} {g : Group} (h : ofList? members = some g) :
    g.members = members := by
  unfold ofList? at h
  split at h
  · cases h
  · cases h
    rfl

instance : BEq Group := ⟨fun a b => a.members == b.members⟩

/-- The names joined as a sentence joins them: `a`, `a and b`, `a, b, and c`. -/
def enumerate : List String → String
  | [] => ""
  | [only] => only
  | [first, second] => s!"{first} and {second}"
  | names => ", ".intercalate names.dropLast ++ ", and " ++ names.getLastD ""

/-- The definite names of the members, enumerated. -/
def definite (g : Group) : String :=
  enumerate (g.members.map Object.definite)

/-- The enumeration as an owner. -/
def possessive (g : Group) : String :=
  g.definite ++ "'s"

/-- How diagnostics show a group. -/
def debug (g : Group) : String :=
  "[" ++ ", ".intercalate (g.members.map Object.debug) ++ "]"

end Group

/-- A table over objects, in the order of names. -/
structure Ledger (β : Type) where
  entries : List (Object × β) := []

namespace Ledger

variable {β : Type}

/-- Writes a value down for the object in a list of entries, before the first entry that the object
precedes. -/
def insertEntry (o : Object) (b : β) : List (Object × β) → List (Object × β)
  | [] => [(o, b)]
  | e :: es =>
    if o == e.1 then (e.1, b) :: es
    else if o.precedes e.1 then (o, b) :: e :: es
    else e :: insertEntry o b es

/-- Writes a value down for the object; the object that is already there stays. -/
def insert (l : Ledger β) (o : Object) (b : β) : Ledger β :=
  ⟨insertEntry o b l.entries⟩

/-- The value of the object. -/
def get? (l : Ledger β) (o : Object) : Option β :=
  (l.entries.find? fun e => o == e.1).map (·.2)

/-- Strikes the object out. -/
def erase (l : Ledger β) (o : Object) : Ledger β :=
  ⟨l.entries.filter fun e => !(o == e.1)⟩

/-- The objects with a value, in order. -/
def keys (l : Ledger β) : List Object :=
  l.entries.map (·.1)

/-- The ledger of the entries, a later one replacing an earlier one. -/
def ofList (es : List (Object × β)) : Ledger β :=
  es.foldl (fun l e => l.insert e.1 e.2) {}

@[simp]
theorem get?_empty (o : Object) : ({} : Ledger β).get? o = none := rfl

theorem get?_congr (l : Ledger β) {o p : Object} (h : (o == p) = true) : l.get? o = l.get? p := by
  unfold get?
  simp only [BEq.congr_left h]

theorem get?_insert (l : Ledger β) (o p : Object) (b : β) :
    (l.insert o b).get? p = if p == o then some b else l.get? p := by
  obtain ⟨es⟩ := l
  simp only [insert, get?]
  induction es with
  | nil => by_cases h : p == o <;> simp [insertEntry, h]
  | cons e es ih =>
    simp only [insertEntry]
    split
    · rename_i h
      rw [BEq.congr_right h]
      by_cases hp : p == e.1 <;> simp [hp]
    · split
      · by_cases hp : p == o <;> simp [hp, List.find?_cons]
      · rename_i h _
        by_cases hp : p == e.1
        · have : (p == o) = false := by
            rw [BEq.congr_left hp, BEq.comm]
            simpa using h
          simp [hp, this]
        · simp only [hp, List.find?_cons]
          simpa [hp] using ih

end Ledger

/-- A set of objects, in the order of names. -/
structure Roster where
  members : List Object := []

namespace Roster

/-- Adds an object to a list of members, before the first member that it precedes. -/
def insertMember (o : Object) : List Object → List Object
  | [] => [o]
  | m :: ms =>
    if o == m then m :: ms
    else if o.precedes m then o :: m :: ms
    else m :: insertMember o ms

/-- Adds an object; one that is already there stays. -/
def insert (r : Roster) (o : Object) : Roster :=
  ⟨insertMember o r.members⟩

/-- Is there an object with these names? -/
def contains (r : Roster) (o : Object) : Bool :=
  r.members.any (o == ·)

/-- Takes the object out. -/
def erase (r : Roster) (o : Object) : Roster :=
  ⟨r.members.filter fun m => !(o == m)⟩

/-- Has it no members? -/
def isEmpty (r : Roster) : Bool :=
  r.members.isEmpty

/-- The set of the objects; of several with the same names it holds the last. -/
def ofList (os : List Object) : Roster :=
  os.foldr (fun o r => r.insert o) {}

/-- Is every member a member of the other? -/
def subset (r s : Roster) : Bool :=
  r.members.all s.contains

instance : BEq Roster := ⟨fun a b => a.members == b.members⟩

/-- How diagnostics show a roster. -/
def debug (r : Roster) : String :=
  "\x7b" ++ ", ".intercalate (r.members.map Object.debug) ++ "\x7d"

@[simp]
theorem contains_empty (o : Object) : ({} : Roster).contains o = false := rfl

theorem contains_insert (r : Roster) (o p : Object) :
    (r.insert o).contains p = (p == o || r.contains p) := by
  obtain ⟨ms⟩ := r
  simp only [insert, contains]
  induction ms with
  | nil => simp [insertMember]
  | cons m ms ih =>
    simp only [insertMember]
    split
    · rename_i h
      simp [BEq.congr_right h]
    · split
      · simp
      · simp only [List.any_cons, ih]
        cases p == m <;> simp

@[simp]
theorem contains_insert_self (r : Roster) (o : Object) : (r.insert o).contains o = true := by
  simp [contains_insert]

/-- Names decide membership. -/
theorem contains_congr (r : Roster) {o p : Object} (h : (o == p) = true) :
    r.contains o = r.contains p := by
  unfold contains
  simp only [BEq.congr_left h]

theorem contains_ofList (os : List Object) (p : Object) :
    (ofList os).contains p = os.any (p == ·) := by
  induction os with
  | nil => rfl
  | cons o os ih => rw [List.any_cons, ← ih, ← contains_insert]; rfl

theorem contains_erase (r : Roster) (o p : Object) :
    (r.erase o).contains p = (!(o == p) && r.contains p) := by
  obtain ⟨ms⟩ := r
  simp only [erase, contains, List.any_filter]
  induction ms with
  | nil => simp
  | cons m ms ih =>
    simp only [List.any_cons, ih]
    cases hp : p == m
    · simp
    · rw [BEq.congr_right hp]
      cases o == m <;> simp

end Roster

end SpaceOpera
