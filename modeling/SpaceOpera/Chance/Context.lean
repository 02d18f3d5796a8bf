import SpaceOpera.Chance.Variety

/-!
# The narrative context

What every choice in a telling draws from: one stream of random words and one registry of bags.  `Roll`
is a computation that draws; it cannot fail, and it draws the same from the same context.
-/

namespace SpaceOpera

open Chance

/-- The seed, the words still to come, and the bags of options. -/
structure Context where
  seed : UInt64
  stream : Stream
  variety : Variety

/-- A context with full bags at the start of the seed's stream. -/
def Context.ofSeed (seed : UInt64) : Context :=
  ⟨seed, .ofSeed seed, {}⟩

/-- A computation that draws from the context. -/
abbrev Roll := StateM Context

namespace Roll

/-- A number below `bound`. -/
def below (width : Width) (bound : Nat) : Roll Nat := fun ctx =>
  let (n, stream) := ctx.stream.below width bound
  (n, { ctx with stream })

/-- A number from `low` to `high`, both included. -/
def between (low high : Nat) : Roll Nat := fun ctx =>
  let (n, stream) := ctx.stream.between .wide low high
  (n, { ctx with stream })

/-- True in `percent` of a hundred cases: a die of a hundred sides shows at most `percent`. -/
def chance (percent : Nat) : Roll Bool := do
  let side ← below .narrow 100
  return side + 1 ≤ percent

/-- An even choice; nothing is drawn when there is nothing to choose. -/
def choose {α : Type} (items : List α) : Roll (Option α) := do
  if items.isEmpty then
    return none
  else
    let i ← below .narrow items.length
    return items[i]?

/-- An even choice from a table of words; the empty text from an empty table. -/
def word (table : List String) : Roll String := do
  let w ← choose table
  return w.getD ""

/-- Takes an evenly chosen one of the items that fit out of the list. -/
def extract {α : Type} (items : List α) (fits : α → Bool) : Roll (Option α × List α) := do
  let places := (List.range items.length).filter fun i => items[i]?.any fits
  let place ← choose places
  match place with
  | some i => return (items[i]?, items.eraseIdx i)
  | none => return (none, items)

/-- The next of the options in varied order. -/
def pickVaried (options : List String) : Roll (Option String) := fun ctx =>
  let (i, variety, stream) := ctx.variety.pickIndex options ctx.stream
  (i.bind (options[·]?), { ctx with stream, variety })

/-- A lower case letter. -/
def letter : Roll Char := do
  let i ← below .wide 26
  return "abcdefghijklmnopqrstuvwxyz".toList.getD i 'a'

/-- `n` results of the same computation, one after the other. -/
def times {α : Type} (n : Nat) (roll : Roll α) : Roll (List α) :=
  (List.range n).mapM fun _ => roll

/-- Three to nine words of three to eight letters. -/
def gibberish : Roll String := do
  let count ← between 3 9
  let ws ← times count do
    let length ← between 3 8
    let letters ← times length letter
    return String.ofList letters
  return " ".intercalate ws

end Roll

end SpaceOpera
