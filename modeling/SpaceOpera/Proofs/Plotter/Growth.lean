import Mathlib.Logic.Relation
import SpaceOpera.Proofs.Plotter.Subplots

/-!
# How a plot grows

A round of filling leaves every development where it is and puts subplots in place of some holes: `Grown`
is this relation between the nodes before and after a round.  Expansion never fails on a world with a home
and a cast, and what it returns has grown from the seed in rounds (`expand_ends`).  A property of single
nodes that subplots respect survives a round (`Along.grown`), and so does being nested (`Nested.grown`): a
subplot ends with whoever was away before it, so what stands behind it is not disturbed.
-/

namespace SpaceOpera

open Relation (ReflTransGen)

/-! ## One round -/

/-- A rule of the hole that is not disabled puts the nodes in its place. -/
def Fills (p : Plotter) (away : Roster) (hole : PlotNode) (cs : List PlotNode) : Prop :=
  ∃ rules here a, hole.kind = .hole rules ∧ a.rule ∈ rules ∧ p.disabled.contains a.rule = false ∧
    hole.setting? = some here ∧ Assigned p.world away hole here a ∧ Stages p.world here a cs

/-- The nodes before and after a round that starts with someone away: some holes are filled, and all
other nodes stay. -/
inductive Grown (p : Plotter) : Roster → List PlotNode → List PlotNode → Prop
  | nil {away : Roster} : Grown p away [] []
  | keep {away after : Roster} {n : PlotNode} {ns ms : List PlotNode}
      (ht : n.track away = .ok after) (h : Grown p after ns ms) : Grown p away (n :: ns) (n :: ms)
  | fill {away : Roster} {n : PlotNode} {cs ns ms : List PlotNode} (hn : n.Unmarked)
      (hcs : Fills p away n cs) (h : Grown p away ns ms) : Grown p away (n :: ns) (cs ++ ms)

section Grown

variable {p : Plotter} {away after : Roster} {hole n : PlotNode} {cs ns ms ks : List PlotNode}

theorem Fills.nested (h : Fills p away hole cs) : Nested away cs := by
  obtain ⟨_, _, _, -, -, -, -, ha, hcs⟩ := h
  exact hcs.nested ha

theorem Fills.staged (h : Fills p away hole cs) : ∀ c ∈ cs, Staged c := by
  obtain ⟨_, _, _, -, -, -, -, -, hcs⟩ := h
  exact hcs.staged

theorem Fills.isHole (h : Fills p away hole cs) : hole.isHole = true := by
  obtain ⟨rules, _, _, hkind, -⟩ := h
  simp [Node.isHole, hkind]

/-- A round on two lists is a round on the first and then one on the second. -/
theorem Grown.split (h : Grown p away (ns ++ ms) ks) (hr : replay ns away = .ok after) :
    ∃ ns' ms', ks = ns' ++ ms' ∧ Grown p away ns ns' ∧ Grown p after ms ms' := by
  induction ns generalizing away ks with
  | nil =>
    cases hr
    exact ⟨[], ks, rfl, .nil, h⟩
  | cons n ns ih =>
    cases h with
    | keep ht h =>
      rw [replay_cons_ok ht] at hr
      obtain ⟨ns', ms', rfl, hns, hms⟩ := ih h hr
      exact ⟨n :: ns', ms', rfl, .keep ht hns, hms⟩
    | @fill _ _ cs _ _ hn hcs h =>
      rw [replay_cons_ok hn.track] at hr
      obtain ⟨ns', ms', rfl, hns, hms⟩ := ih h hr
      exact ⟨cs ++ ns', ms', (List.append_assoc ..).symm, .fill hn hcs hns, hms⟩

/-- What every node has, and every filling of a hole with it, every node of the grown list has. -/
theorem Grown.forall_mem {P : PlotNode → Prop}
    (hfill : ∀ away hole cs, P hole → Fills p away hole cs → ∀ c ∈ cs, P c)
    (h : Grown p away ns ms) (hns : ∀ n ∈ ns, P n) : ∀ m ∈ ms, P m := by
  induction h with
  | nil => exact hns
  | keep _ _ ih =>
    obtain ⟨hn, hns⟩ := List.forall_mem_cons.1 hns
    exact List.forall_mem_cons.2 ⟨hn, ih hns⟩
  | fill _ hcs _ ih =>
    obtain ⟨hn, hns⟩ := List.forall_mem_cons.1 hns
    exact List.forall_mem_append.2 ⟨hfill _ _ _ hn hcs, ih hns⟩

theorem Grown.staged (h : Grown p away ns ms) (hns : ∀ n ∈ ns, Staged n) :
    ∀ m ∈ ms, Staged m :=
  h.forall_mem (fun _ _ _ _ hcs => hcs.staged) hns

/-- A first node that is no hole stays the first. -/
theorem Grown.head?_eq (h : Grown p away ns ms) (hn : ns.head? = some n)
    (hhole : n.isHole = false) : ms.head? = some n := by
  cases h with
  | nil => exact hn
  | keep => exact hn
  | fill _ hcs =>
    cases hn
    exact absurd (hhole.symm.trans hcs.isHole) Bool.false_ne_true

/-- A last node that is no hole stays the last. -/
theorem Grown.getLast?_eq (h : Grown p away ns ms) (hn : ns.getLast? = some n)
    (hhole : n.isHole = false) : ms.getLast? = some n := by
  induction h with
  | nil => exact hn
  | @keep _ _ m ns ms _ hms ih =>
    cases ns with
    | nil =>
      cases hms
      exact hn
    | cons k ns =>
      have hlast := ih (by rwa [List.getLast?_cons_cons] at hn)
      rw [List.getLast?_cons, hlast]
      rfl
  | @fill _ m cs ns ms _ hcs hms ih =>
    cases ns with
    | nil =>
      cases hn
      exact absurd (hhole.symm.trans hcs.isHole) Bool.false_ne_true
    | cons k ns =>
      have hlast := ih (by rwa [List.getLast?_cons_cons] at hn)
      rw [List.getLast?_append, hlast]
      rfl

/-- Filling holes leaves a nested list nested. -/
theorem Nested.grown (h : Nested away ns) (g : Grown p away ns ms) : Nested away ms := by
  induction h generalizing ms with
  | nil =>
    cases g
    exact .nil
  | beside hn _ ih =>
    cases g with
    | keep ht g =>
      rw [hn.track] at ht
      cases ht
      exact .beside hn (ih g)
    | fill _ hcs g => exact hcs.nested.append (ih g)
  | scope hn ho hinner hm hns ihinner ih =>
    cases g with
    | keep ht g =>
      rw [hn.track] at ht
      cases ht
      obtain ⟨inner', rest, rfl, ginner, g⟩ := g.split hinner.replay
      cases g with
      | keep ht g =>
        rw [hm.track (Roster.contains_insert_self _ _), Roster.erase_insert ho] at ht
        cases ht
        exact .scope hn ho (ihinner ginner) hm (ih g)
      | fill hu => exact absurd (hm.2.symm.trans hu.2) (Option.some_ne_none _)
    | fill hu => exact absurd (hn.1.symm.trans hu.1) (Option.some_ne_none _)

/-- What holds along a list holds along the grown list if every filling respects it. -/
theorem Along.grown {P : Roster → PlotNode → Prop}
    (hfill : ∀ away hole cs, P away hole → Fills p away hole cs → Along P away cs)
    (h : Along P away ns) (g : Grown p away ns ms) : Along P away ms := by
  induction g with
  | nil => exact h
  | keep ht _ ih =>
    obtain ⟨hn, after, ht', hns⟩ := h
    rw [ht] at ht'
    cases ht'
    exact Along.cons hn ht (ih hns)
  | fill hu hcs _ ih =>
    obtain ⟨hn, after, ht, hns⟩ := h
    rw [hu.track] at ht
    cases ht
    exact Along.append hcs.nested.replay (hfill _ _ _ hn hcs) (ih hns)

end Grown

/-! ## Filling never fails -/

section Filling

variable {I : Context → Prop} [Lasting I] {E : PlotError → Prop} (p : Plotter)

theorem applicable_yields (hole : PlotNode) (away : Roster) (rules : List Rule) :
    Yields I (fun as => ∀ a ∈ as, a.rule ∈ rules ∧
        ∃ here, hole.setting? = some here ∧ Assigned p.world away hole here a)
      (p.applicable hole away rules) := by
  induction rules with
  | nil => exact Yields.pure fun _ h => absurd h List.not_mem_nil
  | cons r rules ih =>
    refine Yields.bind (assign_yields p.world r hole away) fun o ho => ?_
    refine Yields.bind ih fun rest hrest => Yields.pure fun a ha => ?_
    rcases List.mem_append.1 ha with ha | ha
    · obtain ⟨hrule, h⟩ := ho a (Option.mem_toList.1 ha)
      exact ⟨hrule ▸ List.mem_cons_self, h⟩
    · obtain ⟨hrule, h⟩ := hrest a ha
      exact ⟨List.mem_cons_of_mem r hrule, h⟩

theorem generate_ends {w : World} {away : Roster} {hole : PlotNode} {here : Object}
    {a : Assignment} (hs : hole.setting? = some here) (ha : Assigned w away hole here a) :
    Ends I E (fun n => ∃ cs, Stages w here a cs ∧ n = PlotNode.sequence cs)
      (generate w a hole) := by
  unfold generate
  rw [hs]
  exact Ends.bind (subplotIn_ends ha) fun cs hcs => Ends.pure ⟨cs, hcs, rfl⟩

theorem fillWith_ends {hole : PlotNode} {rules : List Rule} (hkind : hole.kind = .hole rules)
    (away : Roster) :
    Ends (fun n : Narration => I n.context) E
      (fun n => n = hole ∨ ∃ cs, Fills p away hole cs ∧ n = PlotNode.sequence cs)
      (p.fillWith rules hole away) := by
  unfold Plotter.fillWith
  refine Ends.bind (Ends.rolled (applicable_yields p hole away _)) fun choices hchoices => ?_
  split
  · exact Ends.bind (report_ends _) fun _ _ => Ends.pure (Or.inl rfl)
  · refine Ends.bind (Ends.rolled (Roll.between_yields (Nat.zero_le _))) fun i _ => ?_
    cases hi : choices[i]? with
    | none => exact Ends.pure (Or.inl rfl)
    | some a =>
      obtain ⟨hrule, here, hs, ha⟩ := hchoices a (List.mem_of_getElem? hi)
      obtain ⟨hrule, hdisabled⟩ := List.mem_filter.1 hrule
      refine Ends.imp (Ends.narrated (generate_ends hs ha)) (fun _ h => h) fun n hn => ?_
      obtain ⟨cs, hcs, rfl⟩ := hn
      exact Or.inr ⟨cs, ⟨rules, here, a, hkind, hrule, by simpa using hdisabled, hs, ha, hcs⟩, rfl⟩

variable {p} {away after : Roster}

/-- One tree after a round, as its flat children: the node itself or what fills it. -/
theorem complicate_ends {n : PlotNode} (hn : Staged n) (ht : n.track away = .ok after) :
    Ends (fun n : Narration => I n.context) E
      (fun r => r.2 = after ∧ (Node.splice .sequence r.1.flatten = [n] ∨
        n.Unmarked ∧ Fills p away n (Node.splice .sequence r.1.flatten)))
      (p.complicate n away) := by
  have hflat : Node.splice .sequence n.flatten = [n] := by
    rw [hn.isLeaf.flatten, hn.isLeaf.splice]
  obtain ⟨k, a, cs⟩ := n
  obtain rfl : cs = [] := hn.children
  cases k with
  | sequence => exact absurd rfl hn.kind
  | hole rules =>
    have hu := hn.unmarked rfl
    rw [hu.track] at ht
    cases ht
    rw [Plotter.complicate]
    refine Ends.bind (fillWith_ends p rfl away) fun filled hfilled => Ends.pure ⟨rfl, ?_⟩
    rcases hfilled with rfl | ⟨cs, hcs, rfl⟩
    · exact Or.inl hflat
    · have hspliced : Node.splice .sequence (PlotNode.sequence cs).flatten = cs := by
        rw [PlotNode.sequence, Node.flatten, Node.splice, if_pos ⟨rfl, rfl⟩]
        exact flattenList_of_staged hcs.staged
      exact Or.inr ⟨hu, by rwa [hspliced]⟩
  | development d =>
    rw [Plotter.complicate]
    · refine Ends.bind (P := (· = after)) (Ends.liftExcept (by rw [ht]; rfl)) fun u hu => ?_
      subst hu
      rw [Plotter.complicateList]
      exact Ends.pure ⟨rfl, Or.inl hflat⟩
    · rintro rules ⟨⟩

theorem complicateList_ends {ns : List PlotNode} (hns : ∀ n ∈ ns, Staged n)
    (hr : replay ns away = .ok after) :
    Ends (fun n : Narration => I n.context) E
      (fun r => r.2 = after ∧ Grown p away ns (Node.flattenList .sequence r.1))
      (p.complicateList ns away) := by
  induction ns generalizing away with
  | nil =>
    cases hr
    rw [Plotter.complicateList]
    exact Ends.pure ⟨rfl, by rw [Node.flattenList]; exact .nil⟩
  | cons n ns ih =>
    obtain ⟨hn, hns⟩ := List.forall_mem_cons.1 hns
    obtain ⟨next, ht, hr⟩ := replay_cons_eq_ok hr
    rw [Plotter.complicateList]
    refine Ends.bind (complicate_ends hn ht) fun r hr' => ?_
    obtain ⟨c, u⟩ := r
    obtain ⟨rfl, hc⟩ := hr'
    refine Ends.bind (ih hns hr) fun rest hrest => Ends.pure ⟨hrest.1, ?_⟩
    rw [Node.flattenList]
    rcases hc with hc | ⟨hu, hc⟩
    · rw [hc]
      exact .keep ht hrest.2
    · rw [hu.track] at ht
      cases ht
      exact .fill hu hc hrest.2

/-- One round on nested nodes: they grow, and everyone is back in the end. -/
theorem round_ends {ns : List PlotNode} (hns : ∀ n ∈ ns, Staged n) (hnested : Nested {} ns) :
    Ends (fun n : Narration => I n.context) E
      (fun r => r.2 = {} ∧ ∃ ms, r.1.flatten = PlotNode.sequence ms ∧ Grown p {} ns ms)
      (p.complicate (PlotNode.sequence ns) {}) := by
  have hroot : Node.track (PlotNode.sequence ns) {} = .ok {} :=
    Node.Unmarked.track ⟨rfl, rfl⟩
  rw [PlotNode.sequence] at hroot ⊢
  rw [Plotter.complicate, hroot]
  · refine Ends.bind (P := (· = ({} : Roster))) (Ends.liftExcept rfl) fun u hu => ?_
    subst hu
    refine Ends.bind (complicateList_ends hns hnested.replay) fun r hr => ?_
    obtain ⟨hr, hgrown⟩ := hr
    exact Ends.pure ⟨hr, _, by rw [Node.flatten]; rfl, hgrown⟩
  · rintro rules ⟨⟩

theorem expandFrom_ends {ns : List PlotNode} (hns : ∀ n ∈ ns, Staged n) (hnested : Nested {} ns)
    (round rounds : Nat) :
    Ends (fun n : Narration => I n.context) E
      (fun plot => ∃ ms, plot = PlotNode.sequence ms ∧ ReflTransGen (Grown p {}) ns ms)
      (p.expandFrom round rounds (PlotNode.sequence ns)) := by
  induction rounds generalizing round ns with
  | zero => exact Ends.pure ⟨ns, rfl, .refl⟩
  | succ rounds ih =>
    rw [Plotter.expandFrom]
    split
    · exact Ends.bind (report_ends _) fun _ _ => Ends.pure ⟨ns, rfl, .refl⟩
    · refine Ends.bind (round_ends hns hnested) fun r hr => ?_
      obtain ⟨plot, u⟩ := r
      obtain ⟨rfl, ms, hflat, hgrown⟩ := hr
      refine Ends.bind (P := fun _ => True) (Ends.liftExcept trivial) fun _ _ => ?_
      dsimp only at hflat ⊢
      rw [hflat]
      refine Ends.imp (ih (hgrown.staged hns) (hnested.grown hgrown) _) (fun _ h => h) ?_
      rintro plot ⟨ks, rfl, hks⟩
      exact ⟨ks, rfl, .head hgrown hks⟩

end Filling

/-! ## Expansion -/

/-- The nodes of a fresh plot. -/
def seedNodes (home : Object) (cast : Value) : List PlotNode :=
  [(PlotNode.ofDevelopment .introduction home).set .subject cast,
    PlotNode.hole home Rule.atHome,
    (PlotNode.ofDevelopment .convalescence home).set .subject cast,
    (PlotNode.ofDevelopment .allLaugh home).set .subject cast]

/-- The nodes have grown in rounds from a fresh plot at home, with all protagonists there. -/
structure Expanded (p : Plotter) (home : Object) (cast : Group) (ms : List PlotNode) : Prop where
  home_eq : p.world.home? = some home
  cast_eq : cast.members = p.world.protagonists
  grown : ReflTransGen (Grown p {}) (seedNodes home (.group cast)) ms

section Expansion

variable {p : Plotter} {home : Object} {cast : Group} {ms : List PlotNode}

theorem seedNodes_staged (home : Object) (cast : Group) :
    ∀ n ∈ seedNodes home (.group cast), Staged n := by
  simp only [seedNodes, List.forall_mem_cons, List.not_mem_nil, false_implies, implies_true,
    and_true]
  have hcast := cast.nonempty
  refine ⟨?_, .hole _ _, ?_, ?_⟩
  · exact .told rfl rfl rfl rfl hcast rfl rfl
  · exact .told rfl rfl rfl rfl hcast rfl rfl
  · exact .told rfl rfl rfl rfl hcast rfl rfl

theorem seedNodes_nested (home : Object) (cast : Value) : Nested {} (seedNodes home cast) :=
  .beside ⟨rfl, rfl⟩ (.beside ⟨rfl, rfl⟩ (.beside ⟨rfl, rfl⟩ (.beside ⟨rfl, rfl⟩ .nil)))

namespace Expanded

/-- What every round keeps and a fresh plot has, an expanded plot has. -/
theorem invariant {P : List PlotNode → Prop} (h : Expanded p home cast ms)
    (hseed : P (seedNodes home (.group cast)))
    (hround : ∀ ns ks, P ns → Grown p {} ns ks → P ks) : P ms := by
  have hgrown := h.grown
  induction hgrown with
  | refl => exact hseed
  | tail hns hks ih => exact hround _ _ (ih ⟨h.home_eq, h.cast_eq, hns⟩) hks

/-- What the nodes of a fresh plot and those of every subplot have, those of an expanded plot have. -/
theorem forall_mem {P : PlotNode → Prop} (h : Expanded p home cast ms)
    (hseed : ∀ n ∈ seedNodes home (.group cast), P n)
    (hstages : ∀ here a cs, Stages p.world here a cs → ∀ c ∈ cs, P c) : ∀ m ∈ ms, P m := by
  refine h.invariant (P := fun ms => ∀ m ∈ ms, P m) hseed fun ns ks hns hks =>
    hks.forall_mem ?_ hns
  rintro away hole cs - ⟨_, _, _, -, -, -, -, -, hcs⟩
  exact hstages _ _ _ hcs

theorem staged (h : Expanded p home cast ms) : ∀ m ∈ ms, Staged m :=
  h.forall_mem (seedNodes_staged home cast) fun _ _ _ hcs => hcs.staged

theorem nested (h : Expanded p home cast ms) : Nested {} ms :=
  h.invariant (seedNodes_nested home _) fun _ _ hns hks => hns.grown hks

theorem along {P : Roster → PlotNode → Prop} (h : Expanded p home cast ms)
    (hseed : ∀ n ∈ seedNodes home (.group cast), P {} n)
    (hfill : ∀ away hole cs, P away hole → Fills p away hole cs → Along P away cs) :
    Along P {} ms := by
  refine h.invariant (P := Along P {}) ?_ fun _ _ hns hks => hns.grown hfill hks
  simp only [seedNodes, List.forall_mem_cons, List.not_mem_nil, false_implies, implies_true,
    and_true] at hseed
  obtain ⟨hintroduction, hhole, hconvalescence, hlaugh⟩ := hseed
  refine .beside hintroduction ⟨rfl, rfl⟩ (.beside hhole ⟨rfl, rfl⟩ ?_)
  exact .beside hconvalescence ⟨rfl, rfl⟩ (.beside hlaugh ⟨rfl, rfl⟩ trivial)

theorem head?_eq (h : Expanded p home cast ms) :
    ms.head? = some ((PlotNode.ofDevelopment .introduction home).set .subject (.group cast)) :=
  h.invariant (P := fun ms => ms.head? = some _) rfl fun _ _ hns hks => hks.head?_eq hns rfl

theorem getLast?_eq (h : Expanded p home cast ms) :
    ms.getLast? = some ((PlotNode.ofDevelopment .allLaugh home).set .subject (.group cast)) :=
  h.invariant (P := fun ms => ms.getLast? = some _) rfl
    fun _ _ hns hks => hks.getLast?_eq hns rfl

end Expanded

theorem seedPlot_eq_ok (hhome : p.world.home? = some home)
    (hcast : p.world.protagonists ≠ []) :
    p.seedPlot =
      .ok (PlotNode.sequence (seedNodes home (.group ⟨p.world.protagonists, hcast⟩))) := by
  unfold Plotter.seedPlot
  rw [hhome, formGroup_eq_ok hcast]
  rfl

theorem exists_home {w : World} (h : w.settings ≠ []) : ∃ home, w.home? = some home :=
  Option.isSome_iff_exists.1 (List.isSome_head?.2 h)

/-- With a setting and a protagonist there is a fresh plot. -/
theorem seedPlot_ne_error (hsettings : p.world.settings ≠ []) (hcast : p.world.protagonists ≠ [])
    (e : PlotError) : p.seedPlot ≠ .error e := by
  obtain ⟨home, hhome⟩ := exists_home hsettings
  rw [seedPlot_eq_ok hhome hcast]
  rintro ⟨⟩

/-- Expansion fails only where there is no fresh plot to expand. -/
theorem expand_ends {I : Context → Prop} [Lasting I] {E : PlotError → Prop}
    (hE : ∀ e, p.seedPlot = .error e → E e) (depth : Nat) :
    Ends (fun n : Narration => I n.context) E
      (fun plot => ∃ home cast ms, plot = PlotNode.sequence ms ∧ Expanded p home cast ms)
      (p.expand depth) := by
  have hseed : Outcome E (fun plot => ∃ home cast, p.world.home? = some home ∧
      cast.members = p.world.protagonists ∧
        plot = PlotNode.sequence (seedNodes home (.group cast))) p.seedPlot := by
    cases h : p.seedPlot with
    | error e => exact hE e h
    | ok plot =>
      unfold Plotter.seedPlot at h
      split at h
      · cases h
      · rename_i home hhome
        by_cases hcast : p.world.protagonists = []
        · rw [hcast] at h
          cases h
        · rw [formGroup_eq_ok hcast] at h
          cases h
          exact ⟨home, ⟨_, hcast⟩, hhome, rfl, rfl⟩
  refine Ends.bind (Ends.liftExcept hseed) fun plot hplot => ?_
  obtain ⟨home, cast, hhome, hcast, rfl⟩ := hplot
  refine Ends.imp (expandFrom_ends (seedNodes_staged home cast) (seedNodes_nested home _) 0 depth)
    (fun _ h => h) ?_
  rintro plot ⟨ms, rfl, hms⟩
  exact ⟨home, cast, ms, rfl, hhome, hcast, hms⟩

end Expansion

end SpaceOpera
