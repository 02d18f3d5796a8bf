import Mathlib.Data.List.Basic
import Mathlib.Data.List.Flatten
import SpaceOpera.Plot.Basic
import SpaceOpera.Story.Kind

/-!
# Flat trees

A child merges into the node that holds it if both are sequences of one kind.  A tree in which nothing
merges (`Merged`) is its own flat form, and every flat form is such a tree, so flattening twice is
flattening once.  The nodes of the flat form are those of the tree that do not merge (`unmerged`), in
preorder and with their kinds and values.  As only sequences merge, whatever is said of developments,
holes and events in order is said of the flat form too (`flatten_keeps`).
-/

namespace SpaceOpera

namespace Node

variable {κ : Type}

/-- The node without what is below it. -/
def heading (n : Node κ) : κ × Attributes :=
  (n.kind, n.attributes)

section Kinds

variable [NodeKind κ]

/-- A child merges into a node of kind `k` that holds it. -/
def Merges (k : κ) (c : Node κ) : Prop :=
  NodeKind.isSequence k = true ∧ c.kind = k

instance [DecidableEq κ] (k : κ) (c : Node κ) : Decidable (Merges k c) :=
  inferInstanceAs (Decidable (_ ∧ _))

/-- Nothing in the tree merges into the node that holds it. -/
def Merged (n : Node κ) : Prop :=
  ∀ m ∈ n.preorder, ∀ c ∈ m.children, ¬Merges m.kind c

theorem merged_mk {k : κ} {a : Attributes} {cs : List (Node κ)} :
    Merged ⟨k, a, cs⟩ ↔ (∀ c ∈ cs, ¬Merges k c) ∧ ∀ c ∈ cs, c.Merged := by
  unfold Merged
  rw [preorder_mk, List.forall_mem_cons, preorderList_eq_flatMap]
  simp only [List.mem_flatMap, forall_exists_index, and_imp]
  constructor
  · rintro ⟨hroot, hbelow⟩
    exact ⟨hroot, fun c hc m hm => hbelow m c hc hm⟩
  · rintro ⟨hroot, hbelow⟩
    exact ⟨hroot, fun m c hc hm => hbelow c hc m hm⟩

section Unmerged

variable [DecidableEq κ]

mutual

/-- The nodes below a node in preorder, without those that merge into the node that holds them. -/
def unmergedBelow : Node κ → List (Node κ)
  | ⟨k, _, cs⟩ => unmergedIn k cs

/-- What the children of a node of kind `k`, and all below them, contribute. -/
def unmergedIn (k : κ) : List (Node κ) → List (Node κ)
  | [] => []
  | c :: cs => (if Merges k c then [] else [c]) ++ unmergedBelow c ++ unmergedIn k cs

end

/-- The nodes of the tree in preorder, without those that merge into the node that holds them. -/
def unmerged (n : Node κ) : List (Node κ) :=
  n :: n.unmergedBelow

end Unmerged

end Kinds

section Flat

variable [NodeKind κ] [DecidableEq κ] {k : κ} {a : Attributes} {n c : Node κ} {cs : List (Node κ)}

theorem flatten_mk : flatten ⟨k, a, cs⟩ = ⟨k, a, cs.flatMap fun c => splice k c.flatten⟩ := by
  rw [flatten, flattenList_eq_flatMap]

theorem unmergedIn_eq_flatMap (k : κ) (cs : List (Node κ)) :
    unmergedIn k cs = cs.flatMap fun c => (if Merges k c then [] else [c]) ++ c.unmergedBelow := by
  induction cs with
  | nil => simp [unmergedIn]
  | cons c cs ih => simp [unmergedIn, ih]

theorem unmerged_mk : unmerged ⟨k, a, cs⟩ =
    ⟨k, a, cs⟩ :: cs.flatMap fun c => (if Merges k c then [] else [c]) ++ c.unmergedBelow := by
  rw [unmerged, unmergedBelow, unmergedIn_eq_flatMap]

theorem splice_eq (k : κ) (c : Node κ) : splice k c = if Merges k c then c.children else [c] := rfl

@[simp]
theorem kind_flatten (n : Node κ) : n.flatten.kind = n.kind := by
  obtain ⟨k, a, cs⟩ := n
  rw [flatten]

@[simp]
theorem attributes_flatten (n : Node κ) : n.flatten.attributes = n.attributes := by
  obtain ⟨k, a, cs⟩ := n
  rw [flatten]

@[simp]
theorem merges_flatten (k : κ) (c : Node κ) : Merges k c.flatten ↔ Merges k c := by
  simp [Merges]

theorem map_heading_flatten (ns : List (Node κ)) :
    (ns.map flatten).map heading = ns.map heading := by
  simp [heading]

/-! ## The normal form -/

/-- In a flat form nothing merges. -/
theorem merged_flatten (n : Node κ) : n.flatten.Merged := by
  induction n using Node.induction with
  | mk k a cs ih =>
    have hspliced : ∀ c ∈ cs, ∀ d ∈ splice k c.flatten, ¬Merges k d ∧ d.Merged := by
      intro c hc d hd
      rw [splice_eq] at hd
      by_cases hmerges : Merges k c.flatten
      · -- The children of a child that merges come from a flat form of the same kind.
        rw [if_pos hmerges] at hd
        have hchild := ih c hc
        have hkind : c.flatten.kind = k := hmerges.2
        generalize c.flatten = child at hd hchild hkind
        obtain ⟨k', a', ds⟩ := child
        obtain rfl : k' = k := hkind
        obtain ⟨hapart, hmerged⟩ := merged_mk.1 hchild
        exact ⟨hapart d hd, hmerged d hd⟩
      · rw [if_neg hmerges, List.mem_singleton] at hd
        subst hd
        exact ⟨hmerges, ih c hc⟩
    rw [flatten_mk, merged_mk]
    simp only [List.mem_flatMap, forall_exists_index, and_imp]
    exact ⟨fun d c hc hd => (hspliced c hc d hd).1, fun d c hc hd => (hspliced c hc d hd).2⟩

/-- A tree in which nothing merges is its own flat form. -/
theorem Merged.flatten_eq (h : n.Merged) : n.flatten = n := by
  induction n using Node.induction with
  | mk k a cs ih =>
    obtain ⟨hapart, hmerged⟩ := merged_mk.1 h
    have hkept : ∀ c ∈ cs, splice k c.flatten = [c] := by
      intro c hc
      rw [ih c hc (hmerged c hc), splice_eq, if_neg (hapart c hc)]
    rw [flatten_mk, List.flatMap_congr hkept, List.flatMap_singleton']

/-! ## The nodes that stay -/

/-- The nodes of the flat form are those that do not merge, each in its own flat form. -/
theorem preorder_flatten (n : Node κ) : n.flatten.preorder = n.unmerged.map flatten := by
  induction n using Node.induction with
  | mk k a cs ih =>
    have hbelow : ∀ c ∈ cs, c.flatten.children.flatMap preorder = c.unmergedBelow.map flatten := by
      intro c hc
      have hwhole := ih c hc
      rw [unmerged, List.map_cons] at hwhole
      generalize c.flatten = child at hwhole
      obtain ⟨k', a', ds⟩ := child
      rw [preorder_mk, preorderList_eq_flatMap] at hwhole
      exact (List.cons.inj hwhole).2
    have hspliced : ∀ c ∈ cs, (splice k c.flatten).flatMap preorder =
        ((if Merges k c then [] else [c]) ++ c.unmergedBelow).map flatten := by
      intro c hc
      by_cases hmerges : Merges k c
      · simp [splice_eq, hmerges, hbelow c hc]
      · simp [splice_eq, hmerges, ih c hc, unmerged]
    rw [unmerged_mk, flatten_mk, preorder_mk, preorderList_eq_flatMap, List.flatMap_assoc,
      List.flatMap_congr hspliced, List.map_cons, List.map_flatMap, flatten_mk]

/-- A node that does not merge is one of the tree, and none of them changes its place. -/
theorem unmerged_sublist (n : Node κ) : n.unmerged.Sublist n.preorder := by
  induction n using Node.induction with
  | mk k a cs ih =>
    rw [unmerged_mk, preorder_mk, preorderList_eq_flatMap]
    apply List.Sublist.cons_cons
    apply List.Sublist.flatMap_right
    intro c hc
    have hchild : (c :: c.unmergedBelow).Sublist c.preorder := ih c hc
    by_cases hmerges : Merges k c
    · rw [if_pos hmerges, List.nil_append]
      exact (List.sublist_cons_self c _).trans hchild
    · rw [if_neg hmerges, List.singleton_append]
      exact hchild

/-- All but the sequences stay. -/
theorem filter_unmerged {p : Node κ → Bool}
    (hp : ∀ m : Node κ, NodeKind.isSequence m.kind = true → p m = false) (n : Node κ) :
    n.unmerged.filter p = n.preorder.filter p := by
  induction n using Node.induction with
  | mk k a cs ih =>
    have hsame : ∀ c ∈ cs, ((if Merges k c then [] else [c]) ++ c.unmergedBelow).filter p =
        c.preorder.filter p := by
      intro c hc
      rw [← ih c hc, unmerged]
      by_cases hmerges : Merges k c
      · have hc : p c = false := hp c (hmerges.2 ▸ hmerges.1)
        simp [hmerges, hc]
      · simp [hmerges]
    rw [unmerged_mk, preorder_mk, preorderList_eq_flatMap, List.filter_cons, List.filter_cons,
      List.filter_flatMap, List.filter_flatMap, List.flatMap_congr hsame]

/-- What a condition picks that depends on the kind of a node and picks no sequence. -/
theorem filter_preorder_flatten {p : Node κ → Bool}
    (hp : ∀ m : Node κ, NodeKind.isSequence m.kind = true → p m = false)
    (hflat : ∀ m : Node κ, p m.flatten = p m) (n : Node κ) :
    n.flatten.preorder.filter p = (n.preorder.filter p).map flatten := by
  rw [preorder_flatten, List.filter_map, ← filter_unmerged hp]
  simp [Function.comp_def, hflat]

/-- `flat` has the nodes of `n` that do not merge, in preorder and with their kinds and values, and
nothing in it merges any more. -/
structure FlatForm (n flat : Node κ) : Prop where
  fixed : flat.flatten = flat
  merged : flat.Merged
  nodes : flat.preorder.map heading = n.unmerged.map heading
  kept : n.unmerged.Sublist n.preorder

theorem flatForm_flatten (n : Node κ) : FlatForm n n.flatten where
  fixed := (merged_flatten n).flatten_eq
  merged := merged_flatten n
  nodes := by rw [preorder_flatten, map_heading_flatten]
  kept := unmerged_sublist n

end Flat

end Node

/-! ## Plots and stories -/

section Views

theorem development?_of_isSequence {m : PlotNode} (h : NodeKind.isSequence m.kind = true) :
    m.development? = none ∧ m.isHole = false := by
  obtain ⟨k, a, cs⟩ := m
  cases k with
  | sequence => exact ⟨rfl, rfl⟩
  | hole | development => cases h

theorem event?_of_isSequence {m : StoryNode} (h : NodeKind.isSequence m.kind = true) :
    m.event? = none := by
  obtain ⟨k, a, cs⟩ := m
  cases k with
  | eventSequence | paragraph => rfl
  | story | scene | conjoined | event => cases h

@[simp]
theorem development?_flatten (m : PlotNode) : m.flatten.development? = m.development? := by
  simp [Node.development?]

@[simp]
theorem isHole_flatten (m : PlotNode) : m.flatten.isHole = m.isHole := by
  simp [Node.isHole]

theorem developments_flatten (plot : PlotNode) :
    plot.flatten.developments = plot.developments.map Node.flatten := by
  apply Node.filter_preorder_flatten
  · intro m hm
    simp [development?_of_isSequence hm]
  · simp

theorem holes_flatten (plot : PlotNode) : plot.flatten.holes = plot.holes.map Node.flatten := by
  apply Node.filter_preorder_flatten
  · intro m hm
    simp [development?_of_isSequence hm]
  · simp

theorem count_flatten (plot : PlotNode) (d : Development) : plot.flatten.count d = plot.count d := by
  have hpicked : plot.flatten.preorder.filter (·.development? = some d) =
      (plot.preorder.filter (·.development? = some d)).map Node.flatten := by
    apply Node.filter_preorder_flatten
    · intro m hm
      simp [development?_of_isSequence hm]
    · simp
  rw [Node.count, hpicked, List.length_map, Node.count]

theorem events_flatten (story : StoryNode) :
    story.flatten.events = story.events.map Node.flatten := by
  apply Node.filter_preorder_flatten
  · intro m hm
    simp [event?_of_isSequence hm]
  · simp [Node.event?]

end Views

/-- The flat form of a plot or a story is flat for good, with no sequence in a sequence of its own kind
and all other nodes in preorder with their kinds and values.  So the developments, the holes and the
events are the same, each with what is below it flat. -/
theorem flatten_keeps (plot : PlotNode) (story : StoryNode) :
    (Node.FlatForm plot plot.flatten ∧
      plot.flatten.developments.map Node.heading = plot.developments.map Node.heading ∧
      plot.flatten.developments = plot.developments.map Node.flatten ∧
      plot.flatten.holeCount = plot.holeCount ∧
      ∀ d, plot.flatten.count d = plot.count d) ∧
    (Node.FlatForm story story.flatten ∧
      story.flatten.events.map Node.heading = story.events.map Node.heading ∧
      story.flatten.events = story.events.map Node.flatten) := by
  have hdevelopments := developments_flatten plot
  have hevents := events_flatten story
  refine ⟨⟨Node.flatForm_flatten plot, ?_, hdevelopments, ?_, count_flatten plot⟩,
    Node.flatForm_flatten story, ?_, hevents⟩
  · rw [hdevelopments, Node.map_heading_flatten]
  · rw [Node.holeCount, holes_flatten, List.length_map, Node.holeCount]
  · rw [hevents, Node.map_heading_flatten]

/-- A paragraph keeps the sequence inside it from the one around it; two sequences directly merge. -/
example :
    let e := StoryNode.ofEvent .emote
    let inner := StoryNode.sequence [StoryNode.sequence [e]]
    let story := StoryNode.sequence [e, StoryNode.sequence [e, ⟨.paragraph, {}, [inner]⟩]]
    story.flatten.preorder.map Node.kind =
      [.eventSequence, .event .emote, .event .emote, .paragraph, .eventSequence, .event .emote] := by
  decide

end SpaceOpera
