import SpaceOpera.Tree.Attributes

/-!
# Trees

Plots and stories are trees of nodes; a node has a kind, values in roles, and children in order.  A kind
declares the roles that its nodes accept.  Beside the tree stand its views: the nodes in preorder, the
lines of its dump, and its flat form, in which no sequence has a child of its own kind.
-/

namespace SpaceOpera

/-- What a tree needs to know of its kinds of nodes. -/
class NodeKind (κ : Type) where
  /-- The name used in diagnostics. -/
  label : κ → String
  /-- The roles that a node of the kind accepts. -/
  roles : κ → List Role
  /-- Do children of the same kind merge into a node of this kind? -/
  isSequence : κ → Bool
  /-- How diagnostics show the kind. -/
  debug : κ → String

/-- A node with its children. -/
structure Node (κ : Type) where
  kind : κ
  attributes : Attributes := {}
  children : List (Node κ) := []

/-- A node was asked for a role that its kind does not declare. -/
structure UndeclaredRole where
  label : String
  role : Role
deriving DecidableEq, Repr

/-- The text of the failure. -/
def UndeclaredRole.message (e : UndeclaredRole) : String :=
  s!"{e.label} does not declare role '{e.role.name}'"

namespace Node

variable {κ : Type}

/-- The value in the role, if it is set. -/
def get? (n : Node κ) (r : Role) : Option Value :=
  n.attributes.get? r

/-- The object in the role, also behind a state. -/
def objectIn (n : Node κ) (r : Role) : Option Object :=
  (n.get? r).bind Value.object?

/-- The state in the role. -/
def stateIn (n : Node κ) (r : Role) : Option State :=
  (n.get? r).bind Value.state?

/-- Every object in the role. -/
def membersOf (n : Node κ) (r : Role) : List Object :=
  ((n.get? r).map Value.members).getD []

/-- The node with the role set, whatever its kind declares. -/
def set (n : Node κ) (r : Role) (v : Value) : Node κ :=
  { n with attributes := n.attributes.set r v }

/-- The node with other children. -/
def withChildren (n : Node κ) (children : List (Node κ)) : Node κ :=
  { n with children }

mutual

/-- The node and all below it, each before its children. -/
def preorder : Node κ → List (Node κ)
  | ⟨k, a, cs⟩ => ⟨k, a, cs⟩ :: preorderList cs

/-- The nodes of several trees in preorder. -/
def preorderList : List (Node κ) → List (Node κ)
  | [] => []
  | c :: cs => c.preorder ++ preorderList cs

end

section Kinds

variable [NodeKind κ]

/-- Does the node's kind accept the role? -/
def declares (n : Node κ) (r : Role) : Bool :=
  (NodeKind.roles n.kind).contains r

/-- The failure to find the role declared. -/
def undeclared (n : Node κ) (r : Role) : UndeclaredRole :=
  ⟨NodeKind.label n.kind, r⟩

/-- The value in a role that has to be declared. -/
def lookup (n : Node κ) (r : Role) : Except UndeclaredRole (Option Value) :=
  if n.declares r then .ok (n.get? r) else .error (n.undeclared r)

/-- The node with a role set that has to be declared. -/
def assign (n : Node κ) (r : Role) (v : Value) : Except UndeclaredRole (Node κ) :=
  if n.declares r then .ok (n.set r v) else .error (n.undeclared r)

section Flat

variable [DecidableEq κ]

/-- The children that a flat child of a node of kind `k` contributes. -/
def splice (k : κ) (child : Node κ) : List (Node κ) :=
  if NodeKind.isSequence k ∧ child.kind = k then child.children else [child]

mutual

/-- The tree with every sequence merged into the sequence of the same kind that holds it. -/
def flatten : Node κ → Node κ
  | ⟨k, a, cs⟩ => ⟨k, a, flattenList k cs⟩

/-- The flat children of a node of kind `k`. -/
def flattenList (k : κ) : List (Node κ) → List (Node κ)
  | [] => []
  | c :: cs => splice k c.flatten ++ flattenList k cs

end

end Flat

/-- The node on one line: its kind and its values, without its children. -/
def summary (n : Node κ) : String :=
  match n.attributes.entries with
  | [] => NodeKind.debug n.kind
  | es =>
    let fields := es.map fun e => e.1.name ++ "=" ++ e.2.debug
    NodeKind.debug n.kind ++ "(" ++ ", ".intercalate fields ++ ")"

mutual

/-- The summaries in preorder, each indented by twice its depth. -/
def dumpLines (depth : Nat) : Node κ → List String
  | ⟨k, a, cs⟩ =>
    (String.ofList (List.replicate (2 * depth) ' ') ++ summary ⟨k, a, cs⟩)
      :: dumpLinesList (depth + 1) cs

/-- The lines of several trees. -/
def dumpLinesList (depth : Nat) : List (Node κ) → List String
  | [] => []
  | c :: cs => dumpLines depth c ++ dumpLinesList depth cs

end

/-- The lines of the whole tree. -/
def dump (n : Node κ) : List String :=
  n.dumpLines 0

section Same

variable [DecidableEq κ]

mutual

/-- The same kinds and values in the same shape. -/
def same : Node κ → Node κ → Bool
  | ⟨k, a, cs⟩, ⟨k', a', cs'⟩ => decide (k = k') && a == a' && sameList cs cs'

/-- The same trees in the same order. -/
def sameList : List (Node κ) → List (Node κ) → Bool
  | [], [] => true
  | c :: cs, c' :: cs' => same c c' && sameList cs cs'
  | _, _ => false

end

end Same

end Kinds

mutual

/-- What holds of a node whenever it holds of its children holds of every tree. -/
@[elab_as_elim]
theorem induction {motive : Node κ → Prop}
    (mk : ∀ k a cs, (∀ c ∈ cs, motive c) → motive ⟨k, a, cs⟩) : ∀ n : Node κ, motive n
  | ⟨k, a, cs⟩ => mk k a cs (inductionList mk cs)

theorem inductionList {motive : Node κ → Prop}
    (mk : ∀ k a cs, (∀ c ∈ cs, motive c) → motive ⟨k, a, cs⟩) :
    ∀ cs : List (Node κ), ∀ c ∈ cs, motive c
  | [] => nofun
  | c :: cs => List.forall_mem_cons.2 ⟨induction mk c, inductionList mk cs⟩

end

@[simp]
theorem preorder_mk (k : κ) (a : Attributes) (cs : List (Node κ)) :
    preorder ⟨k, a, cs⟩ = ⟨k, a, cs⟩ :: preorderList cs := by
  rw [preorder]

theorem membersOf_of_objectIn {n : Node κ} {r : Role} {o : Object} (h : n.objectIn r = some o) :
    n.membersOf r = [o] := by
  unfold objectIn at h
  unfold membersOf
  obtain ⟨v, hv, ho⟩ := Option.bind_eq_some_iff.1 h
  rw [hv]
  cases v with
  | object | state =>
    cases ho
    rfl
  | group => cases ho

theorem preorderList_eq_flatMap (cs : List (Node κ)) :
    preorderList cs = cs.flatMap preorder := by
  induction cs with
  | nil => rw [preorderList]; rfl
  | cons c cs ih => rw [preorderList, List.flatMap_cons, ih]

theorem flattenList_eq_flatMap [NodeKind κ] [DecidableEq κ] (k : κ) (cs : List (Node κ)) :
    flattenList k cs = cs.flatMap fun c => splice k c.flatten := by
  induction cs with
  | nil => rw [flattenList]; rfl
  | cons c cs ih => rw [flattenList, List.flatMap_cons, ih]

end Node

end SpaceOpera
