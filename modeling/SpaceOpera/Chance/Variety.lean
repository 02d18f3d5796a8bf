import SpaceOpera.Chance.Stream

/-!
# Choices that do not repeat themselves

Every list of options has a bag of the indices that its present round has not drawn yet.  A draw takes
one index out; an empty bag is filled again first.  So no option comes a second time before all have
come once, and lists do not disturb each other.
-/

namespace SpaceOpera.Chance

/-- The bags, and whether they are in use. -/
structure Variety where
  enabled : Bool := true
  bags : List (List String × List Nat) := []

/-- Takes the element at `i` out of a bag; the last element moves into its place. -/
def takeOut (bag : List Nat) (i : Nat) : Option (Nat × List Nat) :=
  match bag[i]?, bag.getLast? with
  | some x, some last => some (x, (bag.set i last).dropLast)
  | _, _ => none

namespace Variety

/-- What is left of the present round of `options`. -/
def bag (v : Variety) (options : List String) : List Nat :=
  (v.bags.lookup options).getD []

/-- Replaces the bag of `options`. -/
def setBag (v : Variety) (options : List String) (bag : List Nat) : Variety :=
  { v with bags := (options, bag) :: v.bags.filter (·.1 != options) }

/-- The bag to draw from: what is left, or all indices when nothing is. -/
def freshBag (v : Variety) (options : List String) : List Nat :=
  match v.bag options with
  | [] => List.range options.length
  | bag => bag

/-- The index of the next option; none of no options, and then nothing is drawn.  A variety that is
not enabled draws evenly from all options and leaves its bags alone. -/
def pickIndex (v : Variety) (options : List String) (s : Stream) : Option Nat × Variety × Stream :=
  if options.isEmpty then (none, v, s)
  else if !v.enabled then
    let (i, s) := s.below .wide options.length
    (some i, v, s)
  else
    let bag := v.freshBag options
    let (slot, s) := s.below .wide bag.length
    match takeOut bag slot with
    | some (i, rest) => (some i, v.setBag options rest, s)
    | none => (none, v, s)

@[simp]
theorem bag_setBag (v : Variety) (options : List String) (bag : List Nat) :
    (v.setBag options bag).bag options = bag := by
  simp [setBag, Variety.bag]

theorem bag_setBag_of_ne (v : Variety) {options other : List String} (bag : List Nat)
    (h : other ≠ options) : (v.setBag options bag).bag other = v.bag other := by
  have kept : ∀ bags : List (List String × List Nat),
      (bags.filter (·.1 != options)).lookup other = bags.lookup other := by
    intro bags
    induction bags with
    | nil => rfl
    | cons b bags ih =>
      obtain ⟨key, held⟩ := b
      by_cases hb : key = options
      · subst hb
        simp [beq_false_of_ne h, ih, List.lookup_cons]
      · simp [hb, ih, List.lookup_cons]
  simp [setBag, Variety.bag, List.lookup_cons, beq_false_of_ne h, kept]

end Variety

end SpaceOpera.Chance
