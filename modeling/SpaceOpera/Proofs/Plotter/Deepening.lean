import Mathlib.Algebra.Group.Nat.Defs
import SpaceOpera.Proofs.Plotter.Writing

/-!
# Deeper plots

One more round only adds to a plot: no development is lost, changed or moved, since the rounds before it draw
the same whatever comes after them (`expandFrom_deepens`).  A subplot has at most two holes and two developments,
so the holes at most double in a round, and each hole adds at most two developments (`Within.grown`).
-/

namespace SpaceOpera

open Relation (ReflGen)

/-! ## Counting holes and developments -/

/-- No more holes and developments than so many rounds can have made. -/
structure Within (rounds : Nat) (ns : List PlotNode) : Prop where
  holes : ns.countP Node.isHole ≤ 2 ^ rounds
  developments : ns.countP (·.development?.isSome) ≤ 2 ^ (rounds + 1) + 1

section Counting

variable {p : Plotter} {away : Roster} {hole n : PlotNode} {cs ns ms : List PlotNode} {rounds : Nat}

theorem Node.development?_of_isHole (h : n.isHole = true) : n.development?.isSome = false := by
  obtain ⟨k, _, _⟩ := n
  cases k with
  | hole => rfl
  | sequence | development => cases h

theorem Rule.outlines_counts (r : Rule) :
    ∀ outline ∈ r.outlines, outline.countP Option.isNone ≤ 2 ∧ outline.countP Option.isSome ≤ 2 := by
  cases r <;> decide

/-- A subplot has at most two holes and at most two developments, whoever takes part. -/
theorem Stages.counts {w : World} {here : Object} {a : Assignment} (h : Stages w here a cs) :
    cs.countP Node.isHole ≤ 2 ∧ cs.countP (·.development?.isSome) ≤ 2 := by
  obtain ⟨hholes, hdevelopments⟩ := a.rule.outlines_counts _ h.outline
  rw [List.countP_map] at hholes hdevelopments
  refine ⟨Nat.le_trans (List.countP_mono_left fun c _ hhole => ?_) hholes, hdevelopments⟩
  exact Option.isSome_eq_false_iff.1 (Node.development?_of_isHole hhole)

theorem Fills.counts (h : Fills p away hole cs) :
    cs.countP Node.isHole ≤ 2 ∧ cs.countP (·.development?.isSome) ≤ 2 := by
  obtain ⟨_, _, _, -, -, -, -, -, hcs⟩ := h
  exact hcs.counts

/-- In a round each hole makes room for at most two. -/
theorem Grown.countP_isHole_le (h : Grown p away ns ms) :
    ms.countP Node.isHole ≤ 2 * ns.countP Node.isHole := by
  induction h with
  | nil => exact Nat.le_refl 0
  | keep =>
    simp only [List.countP_cons]
    omega
  | fill _ hcs _ ih =>
    have hfilling := hcs.counts.1
    rw [List.countP_append, List.countP_cons_of_pos hcs.isHole]
    omega

/-- In a round each hole adds at most two developments. -/
theorem Grown.countP_development_le (h : Grown p away ns ms) :
    ms.countP (·.development?.isSome) ≤
      ns.countP (·.development?.isSome) + 2 * ns.countP Node.isHole := by
  induction h with
  | nil => exact Nat.le_refl 0
  | keep =>
    simp only [List.countP_cons]
    omega
  | fill _ hcs _ ih =>
    have hfilling := hcs.counts.2
    have hnone := Node.development?_of_isHole hcs.isHole
    rw [List.countP_append, List.countP_cons_of_pos hcs.isHole,
      List.countP_cons_of_neg (by simp [hnone])]
    omega

theorem Within.grown (h : Within rounds ns) (g : Grown p away ns ms) : Within (rounds + 1) ms := by
  obtain ⟨hholes, hdevelopments⟩ := h
  have hmore := g.countP_isHole_le
  have htold := g.countP_development_le
  rw [Nat.pow_succ] at hdevelopments
  constructor
  · rw [Nat.pow_succ]
    omega
  · rw [Nat.pow_succ, Nat.pow_succ]
    omega

theorem Within.mono {more : Nat} (h : Within rounds ns) (hle : rounds ≤ more) : Within more ns := by
  refine ⟨h.holes.trans (Nat.pow_le_pow_right Nat.two_pos hle), h.developments.trans ?_⟩
  exact Nat.succ_le_succ (Nat.pow_le_pow_right Nat.two_pos (Nat.succ_le_succ hle))

theorem seedNodes_within (home : Object) (cast : Value) : Within 0 (seedNodes home cast) :=
  ⟨Nat.le_refl 1, Nat.le_refl 3⟩

/-- A round leaves the developments as they are and puts others between them. -/
theorem Grown.developments_sublist (h : Grown p away ns ms) :
    (ns.filter (·.development?.isSome)).Sublist (ms.filter (·.development?.isSome)) := by
  induction h with
  | nil => exact List.Sublist.refl _
  | @keep _ _ n _ _ _ _ ih =>
    simp only [List.filter_cons]
    split
    · exact ih.cons_cons n
    · exact ih
  | fill _ hcs _ ih =>
    have hnone := Node.development?_of_isHole hcs.isHole
    rw [List.filter_cons_of_neg (by simp [hnone]), List.filter_append]
    exact ih.trans (List.sublist_append_right _ _)

theorem holeCount_sequence (h : ∀ n ∈ ns, Staged n) :
    (PlotNode.sequence ns).holeCount = ns.countP Node.isHole := by
  rw [Node.holeCount, Node.holes, preorder_sequence h, List.filter_cons_of_neg Bool.false_ne_true,
    List.countP_eq_length_filter]

end Counting

/-! ## One more round -/

section Rounds

variable {p : Plotter} {ns : List PlotNode}

/-- What a round comes to does not depend on how many are left: either there are no holes and it is the
last, or the plot has grown and the others start from there. -/
theorem expandFrom_succ (hns : ∀ n ∈ ns, Staged n) (hnested : Nested {} ns) (round : Nat)
    (n : Narration) :
    (∃ after, ∀ rounds, (p.expandFrom round (rounds + 1) (PlotNode.sequence ns)).run.run n =
      (.ok (PlotNode.sequence ns), after)) ∨
    ∃ ms after, Grown p {} ns ms ∧ ∀ rounds,
      (p.expandFrom round (rounds + 1) (PlotNode.sequence ns)).run.run n =
        (p.expandFrom (round + 1) rounds (PlotNode.sequence ms)).run.run after := by
  by_cases hholes : (PlotNode.sequence ns).holeCount = 0
  · refine Or.inl ⟨⟨n.context, n.diagnostics ++ [Diagnostic.noHolesLeft round]⟩, fun rounds => ?_⟩
    rw [Plotter.expandFrom, if_pos hholes]
    exact run_bind_ok rfl
  · obtain ⟨⟨plot, away⟩, after, hrun, ⟨rfl, ms, hflat, hgrown⟩, -⟩ :=
      (round_ends (I := fun _ => True) (p := p) hns hnested).succeeds (s := n) trivial
    refine Or.inr ⟨ms, after, hgrown, fun rounds => ?_⟩
    rw [Plotter.expandFrom, if_neg hholes, run_bind_ok hrun, ← hflat]
    rfl

/-- The same rounds and one more, from the same narration: both give a plot, and the second is the first
after at most one round. -/
theorem expandFrom_deepens {d : Nat} (hns : ∀ n ∈ ns, Staged n) (hnested : Nested {} ns)
    (hwithin : Within d ns) (round rounds : Nat) (n : Narration) :
    ∃ ms ks,
      ((p.expandFrom round rounds (PlotNode.sequence ns)).run.run n).1 = .ok (PlotNode.sequence ms) ∧
      ((p.expandFrom round (rounds + 1) (PlotNode.sequence ns)).run.run n).1 =
        .ok (PlotNode.sequence ks) ∧
      (∀ m ∈ ms, Staged m) ∧ Within (d + rounds) ms ∧ ReflGen (Grown p {}) ms ks := by
  induction rounds generalizing d round ns n with
  | zero =>
    obtain ⟨after, hrun⟩ | ⟨ks, after, hgrown, hrun⟩ := expandFrom_succ (p := p) hns hnested round n
    · exact ⟨ns, ns, rfl, by rw [hrun], hns, hwithin, .refl⟩
    · exact ⟨ns, ks, rfl, by rw [hrun]; rfl, hns, hwithin, .single hgrown⟩
  | succ rounds ih =>
    obtain ⟨after, hrun⟩ | ⟨ms, after, hgrown, hrun⟩ := expandFrom_succ (p := p) hns hnested round n
    · exact ⟨ns, ns, by rw [hrun], by rw [hrun], hns, hwithin.mono (Nat.le_add_right ..), .refl⟩
    · -- Both runs begin with the same round, which leaves both at the same nodes and narration.
      have hcount : d + (rounds + 1) = d + 1 + rounds := by omega
      rw [hrun rounds, hrun (rounds + 1), hcount]
      exact ih (hgrown.staged hns) (hnested.grown hgrown) (hwithin.grown hgrown) (round + 1) after

end Rounds

/-- On a world with a setting and a protagonist, expanding by one more round with the same draws keeps every
development with all its roles, in the order in which they were, and adds others between them.  After so many
rounds there are at most as many holes as that power of two, and at most one development more than twice
as many. -/
theorem expand_deepens (p : Plotter) (hsettings : p.world.settings ≠ [])
    (hcast : p.world.protagonists ≠ []) (depth : Nat) (n : Narration) :
    ∃ plot deeper, ((p.expand depth).run.run n).1 = .ok plot ∧
      ((p.expand (depth + 1)).run.run n).1 = .ok deeper ∧
      plot.developments.Sublist deeper.developments ∧
      plot.holeCount ≤ 2 ^ depth ∧ plot.developments.length ≤ 2 ^ (depth + 1) + 1 := by
  obtain ⟨home, hhome⟩ := exists_home hsettings
  obtain ⟨ms, ks, hplot, hdeeper, hms, hwithin, hgrown⟩ := expandFrom_deepens (p := p)
    (seedNodes_staged home ⟨_, hcast⟩) (seedNodes_nested home _) (seedNodes_within home _) 0 depth n
  rw [Nat.zero_add] at hwithin
  have hexpand : ∀ rounds, p.expand rounds =
      p.expandFrom 0 rounds (PlotNode.sequence (seedNodes home (.group ⟨_, hcast⟩))) := by
    intro rounds
    rw [Plotter.expand, seedPlot_eq_ok hhome hcast]
    rfl
  refine ⟨_, _, by rw [hexpand, hplot], by rw [hexpand, hdeeper], ?_, ?_, ?_⟩
  · cases hgrown with
    | refl => exact List.Sublist.refl _
    | single hgrown =>
      rw [developments_sequence hms, developments_sequence (hgrown.staged hms)]
      exact hgrown.developments_sublist
  · rw [holeCount_sequence hms]
    exact hwithin.holes
  · rw [developments_sequence hms, ← List.countP_eq_length_filter]
    exact hwithin.developments

/-- Four rounds and a fifth among the namesakes, without the drones. -/
theorem expand_deepens_namesakes :
    namesakes.settings ≠ [] ∧ namesakes.protagonists ≠ [] ∧ ∃ plot deeper,
      (((⟨namesakes, [.drone]⟩ : Plotter).expand 4).run.run ⟨.ofSeed 7, #[]⟩).1 = .ok plot ∧
      (((⟨namesakes, [.drone]⟩ : Plotter).expand 5).run.run ⟨.ofSeed 7, #[]⟩).1 = .ok deeper ∧
      plot.developments.Sublist deeper.developments ∧
      plot.holeCount ≤ 16 ∧ plot.developments.length ≤ 33 := by
  have hsettings : namesakes.settings ≠ [] := List.cons_ne_nil _ _
  have hcast : namesakes.protagonists ≠ [] := List.cons_ne_nil _ _
  exact ⟨hsettings, hcast, expand_deepens ⟨namesakes, [.drone]⟩ hsettings hcast 4 ⟨.ofSeed 7, #[]⟩⟩

end SpaceOpera
