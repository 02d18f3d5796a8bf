import SpaceOpera.Tree.Node

/-!
# Annotating trees

Giving new values to every node, in preorder, with something handed down from each node to those
below it and something carried along in a monad.  An annotation leaves kinds and shape alone.
-/

namespace SpaceOpera.Node

variable {κ ρ : Type} {m : Type → Type} [Monad m]

mutual

/-- Gives new values to the node and then to those below it.  `enter` is what a node hands down to
itself and to its children, and `f` makes the values of one node. -/
def annotate (enter : κ → Attributes → ρ → ρ) (f : ρ → κ → Attributes → m Attributes) (r : ρ) :
    Node κ → m (Node κ)
  | ⟨k, a, cs⟩ => do
    let r := enter k a r
    let a ← f r k a
    let cs ← annotateList enter f r cs
    return ⟨k, a, cs⟩

/-- Annotates several trees one after the other. -/
def annotateList (enter : κ → Attributes → ρ → ρ) (f : ρ → κ → Attributes → m Attributes) (r : ρ) :
    List (Node κ) → m (List (Node κ))
  | [] => return []
  | c :: cs => do
    let c ← annotate enter f r c
    let cs ← annotateList enter f r cs
    return c :: cs

end

/-- Gives every node new values, with nothing handed down. -/
def annotateAll (f : κ → Attributes → m Attributes) (n : Node κ) : m (Node κ) :=
  annotate (fun _ _ r => r) (fun _ => f) () n

end SpaceOpera.Node
