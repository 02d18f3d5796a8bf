import SpaceOpera.Plot.Error
import SpaceOpera.Proofs.Plot.Replay

/-!
# Nodes as the rules stage them

What every node of a plot has in common, whatever rule put it there and whatever the draws: enough to
flatten, prune and rearrange a plot without an error.
-/

namespace SpaceOpera

@[simp]
theorem Node.development?_set (n : PlotNode) (r : Role) (v : Value) :
    (n.set r v).development? = n.development? := rfl

@[simp]
theorem PlotNode.development?_ofDevelopment (d : Development) (here : Object) :
    (PlotNode.ofDevelopment d here).development? = some d := rfl

@[simp]
theorem PlotNode.development?_hole (here : Object) (rules : List Rule) :
    (PlotNode.hole here rules).development? = none := rfl

/-- A node as the rules stage it: in a setting, with nothing below it and no role that its kind does not
declare.  A hole has no markers, nor has a development of which two in a row are one; a development has someone
acting in it; and one that commutes brings someone back and takes nobody away. -/
structure Staged (n : PlotNode) : Prop where
  children : n.children = []
  kind : n.kind ≠ .sequence
  setting : n.setting?.isSome = true
  declared : (n.attributes.entries.all fun e => n.declares e.1) = true
  unmarked : n.isHole = true → n.Unmarked
  subject : n.development?.isSome = true → n.membersOf .subject ≠ []
  closes : n.development?.any Development.isCommutable = true → ∃ o, n.Closes o
  repeats : n.development?.any Development.collapses = true → n.Unmarked

theorem Staged.of_hole {n : PlotNode} {rules : List Rule} (hkind : n.kind = .hole rules)
    (hchildren : n.children = []) (hsetting : n.setting?.isSome = true)
    (hdeclared : (n.attributes.entries.all fun e => n.declares e.1) = true) (hu : n.Unmarked) :
    Staged n := by
  obtain ⟨k, a, cs⟩ := n
  obtain rfl : k = .hole rules := hkind
  exact ⟨hchildren, by simp, hsetting, hdeclared, fun _ => hu, by simp [Node.development?],
    by simp [Node.development?], by simp [Node.development?]⟩

theorem Staged.hole (setting : Object) (rules : List Rule) :
    Staged (PlotNode.hole setting rules) :=
  .of_hole rfl rfl rfl rfl ⟨rfl, rfl⟩

theorem Staged.hole_goons (setting goons : Object) (rules : List Rule) :
    Staged ((PlotNode.hole setting rules).set .goons (.object goons)) :=
  .of_hole rfl rfl rfl rfl ⟨rfl, rfl⟩

section Developments

variable {n : PlotNode} {d : Development}

theorem Staged.of_development (hkind : n.kind = .development d) (hchildren : n.children = [])
    (hsetting : n.setting?.isSome = true)
    (hdeclared : (n.attributes.entries.all fun e => n.declares e.1) = true)
    (hsubject : n.membersOf .subject ≠ []) (hcloses : d.isCommutable = true → ∃ o, n.Closes o)
    (hrepeats : d.collapses = true → n.Unmarked) : Staged n := by
  obtain ⟨k, a, cs⟩ := n
  obtain rfl : k = .development d := hkind
  exact ⟨hchildren, by simp, hsetting, hdeclared, by simp [Node.isHole], fun _ => hsubject,
    hcloses, hrepeats⟩

/-- A development that neither commutes nor repeats. -/
theorem Staged.told (hkind : n.kind = .development d) (hchildren : n.children = [])
    (hsetting : n.setting?.isSome = true)
    (hdeclared : (n.attributes.entries.all fun e => n.declares e.1) = true)
    (hsubject : n.membersOf .subject ≠ []) (hcommutes : d.isCommutable = false)
    (hrepeats : d.collapses = false) : Staged n :=
  .of_development hkind hchildren hsetting hdeclared hsubject (by simp [hcommutes])
    (by simp [hrepeats])

end Developments

theorem formGroup_eq_ok {members : List Object} (h : members ≠ []) :
    formGroup members = .ok (.group ⟨members, h⟩) := by
  simp [formGroup, Group.ofList?, h]

/-! ## Flat plots -/

/-- A development or a hole with nothing below it. -/
structure Node.IsLeaf (n : PlotNode) : Prop where
  kind : n.kind ≠ .sequence
  children : n.children = []

theorem Staged.isLeaf {n : PlotNode} (h : Staged n) : n.IsLeaf :=
  ⟨h.kind, h.children⟩

namespace Node.IsLeaf

variable {n : PlotNode}

theorem flatten (h : n.IsLeaf) : n.flatten = n := by
  obtain ⟨k, a, cs⟩ := n
  obtain rfl : cs = [] := h.children
  rw [Node.flatten, Node.flattenList]

theorem splice (h : n.IsLeaf) : Node.splice .sequence n = [n] := by
  unfold Node.splice
  rw [if_neg fun hc => h.kind hc.2]

theorem preorder (h : n.IsLeaf) : n.preorder = [n] := by
  obtain ⟨k, a, cs⟩ := n
  obtain rfl : cs = [] := h.children
  rw [Node.preorder_mk, Node.preorderList]

end Node.IsLeaf

theorem flattenList_of_leaves {ns : List PlotNode} (h : ∀ n ∈ ns, n.IsLeaf) :
    Node.flattenList .sequence ns = ns := by
  induction ns with
  | nil => rw [Node.flattenList]
  | cons n ns ih =>
    obtain ⟨hn, hns⟩ := List.forall_mem_cons.1 h
    rw [Node.flattenList, hn.flatten, hn.splice, ih hns]
    rfl

theorem preorderList_of_leaves {ns : List PlotNode} (h : ∀ n ∈ ns, n.IsLeaf) :
    Node.preorderList ns = ns := by
  induction ns with
  | nil => rw [Node.preorderList]
  | cons n ns ih =>
    obtain ⟨hn, hns⟩ := List.forall_mem_cons.1 h
    rw [Node.preorderList, hn.preorder, ih hns]
    rfl

theorem flattenList_of_staged {ns : List PlotNode} (h : ∀ n ∈ ns, Staged n) :
    Node.flattenList .sequence ns = ns :=
  flattenList_of_leaves fun n hn => (h n hn).isLeaf

theorem preorder_sequence {ns : List PlotNode} (h : ∀ n ∈ ns, Staged n) :
    (PlotNode.sequence ns).preorder = PlotNode.sequence ns :: ns := by
  rw [PlotNode.sequence, Node.preorder_mk, preorderList_of_leaves fun n hn => (h n hn).isLeaf]

theorem developments_sequence {ns : List PlotNode} (h : ∀ n ∈ ns, Staged n) :
    (PlotNode.sequence ns).developments = ns.filter (·.development?.isSome) := by
  rw [Node.developments, preorder_sequence h, List.filter_cons_of_neg Bool.false_ne_true]

theorem developments_of_leaves {plot : PlotNode} (hkind : plot.kind = .sequence)
    (h : ∀ n ∈ plot.children, n.IsLeaf ∧ n.development?.isSome = true) :
    plot.developments = plot.children := by
  obtain ⟨k, a, cs⟩ := plot
  obtain rfl : k = .sequence := hkind
  rw [Node.developments, Node.preorder_mk, preorderList_of_leaves fun n hn => (h n hn).1,
    List.filter_cons_of_neg Bool.false_ne_true]
  exact List.filter_eq_self.2 fun n hn => (h n hn).2

theorem developments_of_staged {ns : List PlotNode} (h : ∀ n ∈ ns, Staged n)
    (hd : ∀ n ∈ ns, n.development?.isSome = true) :
    (PlotNode.sequence ns).flatten.developments = ns := by
  rw [PlotNode.sequence, Node.flatten, flattenList_of_staged h]
  exact developments_of_leaves rfl fun n hn => ⟨(h n hn).isLeaf, hd n hn⟩

end SpaceOpera
