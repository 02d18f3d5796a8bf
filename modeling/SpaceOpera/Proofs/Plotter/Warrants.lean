import SpaceOpera.Proofs.Plotter.Upholding

/-!
# What developments presuppose

Nobody fights or is buried at home, drones come where there are drones, whoever is carried off is no heroine, and
what is lost, looked at or fought is the world's.  `Development.Warranted` says so of a development and the node
that it happens in.  The rules check it on holes, and a fight takes place in a hole that a skirmish has left, so
the goons of a hole are part of what every subplot takes over (`Stages.warranted`).
-/

namespace SpaceOpera

open PlotNode (ofDevelopment)

/-! ## Warrants -/

/-- The node takes place in a setting that does not go by the name of home. -/
def Node.Away (w : World) (n : PlotNode) : Prop :=
  ∃ here, n.setting? = some here ∧ w.isHome here = false

/-- The node takes place in a setting that is such a place. -/
def Node.InPlace (n : PlotNode) (P : Place Object → Prop) : Prop :=
  ∃ here place, n.setting? = some here ∧ here.place? = some place ∧ P place

/-- The role is played by one of the objects that fits. -/
def Node.Plays (n : PlotNode) (r : Role) (os : List Object) (P : Object → Prop) : Prop :=
  ∃ o ∈ os, n.get? r = some (.object o) ∧ P o

/-- What the development presupposes of the node that it happens in. -/
def Development.Warranted (w : World) (n : PlotNode) : Development → Prop
  | kidnapping => n.Plays .subject w.antagonists (fun _ => True) ∧
      n.Plays .object w.protagonists (·.isLead = false)
  | wayBlocked => n.InPlace (·.outside.isSome = true)
  | loseItem | recoverItem | itemForeshadowed | itemRecalled =>
    n.Plays .object w.macguffins fun _ => True
  | trappedInRubble => n.Away w ∧ n.Plays .subject w.protagonists (·.isLead = false)
  | extractedFromRubble => n.Away w
  | goonAmbush | goonEncounter | protagonistAttack | awkwardCombat | vanquished =>
    n.Away w ∧ n.Plays .object w.goons fun _ => True
  | drone => n.InPlace (·.hasDrones = true)
  | contemplateItem => n.InPlace fun place => n.Plays .object place.nearby (·.takeable = true)
  | _ => True

/-- The development of the node is warranted, and goons lie in wait only away from home. -/
structure Warranted (w : World) (n : PlotNode) : Prop where
  development : ∀ d, n.development? = some d → d.Warranted w n
  goons : ∀ g, n.objectIn .goons = some g → g ∈ w.goons ∧ n.Away w

section Warrants

variable {w : World} {n : PlotNode} {here goons : Object} {d : Development}

theorem Warranted.of_development (hd : n.development? = some d) (hgoons : n.objectIn .goons = none)
    (h : d.Warranted w n) : Warranted w n := by
  refine ⟨fun d' hd' => ?_, fun g hg => ?_⟩
  · exact Option.some.inj (hd.symm.trans hd') ▸ h
  · exact absurd (hgoons.symm.trans hg) (Option.some_ne_none g).symm

theorem Warranted.of_hole (hn : n.development? = none) (hgoons : n.objectIn .goons = none) :
    Warranted w n :=
  ⟨fun d hd => absurd (hn.symm.trans hd) (Option.some_ne_none d).symm,
    fun g hg => absurd (hgoons.symm.trans hg) (Option.some_ne_none g).symm⟩

theorem Warranted.hole (here : Object) (rules : List Rule) : Warranted w (PlotNode.hole here rules) :=
  .of_hole rfl rfl

theorem Warranted.hole_goons (hgoons : goons ∈ w.goons) (haway : w.isHome here = false)
    (rules : List Rule) : Warranted w ((PlotNode.hole here rules).set .goons (.object goons)) := by
  refine ⟨nofun, fun g hg => ?_⟩
  obtain rfl := Option.some.inj hg
  exact ⟨hgoons, here, rfl, haway⟩

/-- A subplot is warranted in the hole that its parts are assigned for. -/
theorem Stages.warranted {away : Roster} {hole : PlotNode} {a : Assignment} {cs : List PlotNode}
    (hhole : Warranted w hole) (hhere : hole.setting? = some here)
    (ha : Assigned w away hole here a) (h : Stages w here a cs) : ∀ c ∈ cs, Warranted w c := by
  -- A fight goes on with the goons of the hole, which is where a skirmish has left it.
  have hcombat : ∀ goons, hole.objectIn .goons = some goons → ∀ (d : Development) {party : Value},
      (d = .protagonistAttack ∨ d = .awkwardCombat) → ∀ c ∈ Subplot.combat d here goons party,
        Warranted w c := by
    intro goons hgoons d party hd
    obtain ⟨hgoons, here', hhere', haway⟩ := hhole.goons goons hgoons
    obtain rfl := Option.some.inj (hhere.symm.trans hhere')
    simp only [Subplot.combat, List.forall_mem_singleton, List.forall_mem_cons]
    refine ⟨.hole_goons hgoons haway _, ?_⟩
    rcases hd with rfl | rfl <;>
      exact .of_development rfl rfl ⟨⟨here, rfl, haway⟩, goons, hgoons, rfl, trivial⟩
  have hpresent : ∀ o, o ∈ w.present away → o ∈ w.protagonists := fun o ho => (mem_availableOf.1 ho).1
  cases a with
  | kidnapping villain abductee others lair =>
    obtain ⟨hvillain, -, hchosen, -⟩ := ha
    obtain ⟨_, _, rfl⟩ := h
    simp only [Subplot.kidnapping, List.forall_mem_singleton, List.forall_mem_cons]
    have habductee : abductee.isLead = false := by simpa using hchosen.fits
    exact ⟨.of_development rfl rfl ⟨⟨villain, hvillain, rfl, trivial⟩,
      abductee, hpresent _ hchosen.mem, rfl, habductee⟩, .of_hole rfl rfl, .hole _ _,
      .of_development rfl rfl trivial⟩
  | findAbductee protagonists abductee location =>
    obtain ⟨_, rfl⟩ := h
    simp only [Subplot.findAbductee, List.forall_mem_singleton, List.forall_mem_cons]
    exact ⟨.of_development rfl rfl trivial, .hole _ _⟩
  | findAnotherWay protagonists outside =>
    obtain ⟨-, -, place, hplace, houtside⟩ := ha
    obtain ⟨_, rfl⟩ := h
    simp only [Subplot.findAnotherWay, List.forall_mem_singleton, List.forall_mem_cons]
    exact ⟨.of_development rfl rfl ⟨here, place, rfl, hplace, Option.isSome_of_eq_some houtside⟩,
      .hole _ _⟩
  | lostItem loser protagonists item =>
    obtain ⟨-, -, hitem⟩ := ha
    obtain ⟨recoverer, _, _, -, rfl⟩ := h
    have hitem := (mem_availableOf.1 hitem).1
    simp only [Subplot.lostItem, List.forall_mem_singleton, List.forall_mem_cons]
    exact ⟨.of_development rfl rfl ⟨item, hitem, rfl, trivial⟩, .hole _ _,
      .of_development rfl rfl ⟨item, hitem, rfl, trivial⟩⟩
  | caveIn trapped others =>
    obtain ⟨haway, hchosen, -⟩ := ha
    obtain ⟨_, rfl⟩ := h
    simp only [Subplot.caveIn, List.forall_mem_singleton, List.forall_mem_cons]
    have htrapped : trapped.isLead = false := by simpa using hchosen.fits
    exact ⟨.of_development rfl rfl ⟨⟨here, rfl, haway⟩, trapped, hpresent _ hchosen.mem, rfl, htrapped⟩,
      .hole _ _, .of_development rfl rfl ⟨here, rfl, haway⟩, .hole _ _⟩
  | goonSkirmish protagonists goons =>
    obtain ⟨haway, -, -, -, hgoons⟩ := ha
    obtain ⟨met, _, sender, -, rfl⟩ := h
    simp only [Subplot.goonSkirmish, List.forall_mem_singleton, List.forall_mem_cons]
    refine ⟨?_, .hole_goons hgoons haway _,
      .of_development rfl rfl ⟨⟨here, rfl, haway⟩, goons, hgoons, rfl, trivial⟩⟩
    cases met <;>
      exact .of_development rfl rfl ⟨⟨here, rfl, haway⟩, goons, hgoons, rfl, trivial⟩
  | protagonistAttack protagonists goons =>
    obtain ⟨-, -, hgoons⟩ := ha
    obtain ⟨_, rfl⟩ := h
    exact hcombat goons hgoons _ (.inl rfl)
  | awkwardCombat lead dreamboat goons =>
    obtain ⟨-, hgoons⟩ := ha
    obtain ⟨_, rfl⟩ := h
    exact hcombat goons hgoons _ (.inr rfl)
  | awkwardTension lead dreamboat | romanticTension lead dreamboat =>
    obtain ⟨one, other, -, rfl⟩ := h
    simp only [Subplot.encounter, List.forall_mem_singleton, List.forall_mem_cons]
    exact ⟨.of_development rfl rfl trivial, .hole _ _⟩
  | romanticResolution lead dreamboat =>
    subst h
    simp only [Subplot.romanticResolution, List.forall_mem_singleton]
    exact .of_development rfl rfl trivial
  | contemplateItem contemplator item =>
    subst h
    obtain ⟨-, place, hplace, hitem, htakeable⟩ := ha
    simp only [Subplot.encounter, List.forall_mem_singleton, List.forall_mem_cons]
    exact ⟨.of_development rfl rfl ⟨here, place, rfl, hplace, item, hitem, rfl, htakeable⟩, .hole _ _⟩
  | drone startled =>
    subst h
    obtain ⟨-, place, hplace, hdrones⟩ := ha
    simp only [Subplot.drone, List.forall_mem_singleton, List.forall_mem_cons]
    exact ⟨.of_development rfl rfl ⟨here, place, rfl, hplace, hdrones⟩, .hole _ _⟩

theorem warranted_kept (w : World) (home : Object) : Kept w home (Warranted w) where
  journey _ _ _ _ _ _ := .of_development rfl rfl trivial
  arrival _ _ _ _ := .of_development rfl rfl trivial
  scene {n here item holder recalled d others} _ hlost hd _ _ := by
    obtain ⟨loss, hloss, hlosing, hitem⟩ := hlost.item
    obtain ⟨lost, hmem, hobject, -⟩ := hloss.development _ hlosing
    rw [Node.objectIn, hobject] at hitem
    obtain rfl : lost = item := Option.some.inj hitem
    rcases followUp?_eq_some hd with ⟨-, rfl⟩ | ⟨-, rfl⟩ <;>
      exact .of_development rfl rfl ⟨lost, hmem, rfl, trivial⟩

theorem warranted_upheld (p : Plotter) (home : Object) : Upheld p home (Warranted p.world) where
  toKept := warranted_kept p.world home
  seed _ := by
    simp only [seedNodes, List.forall_mem_singleton, List.forall_mem_cons]
    exact ⟨.of_development rfl rfl trivial, .hole _ _, .of_development rfl rfl trivial,
      .of_development rfl rfl trivial⟩
  fill hhole hcs := by
    obtain ⟨_, _, _, -, -, -, hhere, ha, hstages⟩ := hcs
    exact hstages.warranted hhole hhere ha

end Warrants

/-- Whatever happens in a written plot, the world has what it takes, and in the right place. -/
theorem writePlot_warranted (p : Plotter) (hsettings : p.world.settings ≠ [])
    (hcast : p.world.protagonists ≠ []) (depth : Nat) (n : Narration) :
    ∃ plot, ((p.writePlot depth).run.run n).1 = .ok plot ∧
      ∀ m ∈ plot.developments, ∀ d, m.development? = some d → d.Warranted p.world m := by
  obtain ⟨home, hhome⟩ := exists_home hsettings
  obtain ⟨plot, hplot, hwarranted⟩ := writePlot_upheld hhome hcast (warranted_upheld p home) depth n
  exact ⟨plot, hplot, fun m hm => (hwarranted m hm).development⟩

/-- So it is where half of the world shares a name. -/
theorem writePlot_warranted_namesakes :
    namesakes.settings ≠ [] ∧ namesakes.protagonists ≠ [] ∧ ∃ plot,
      (((⟨namesakes, []⟩ : Plotter).writePlot 4).run.run ⟨.ofSeed 7, #[]⟩).1 = .ok plot ∧
      ∀ m ∈ plot.developments, ∀ d, m.development? = some d → d.Warranted namesakes m := by
  have hsettings : namesakes.settings ≠ [] := List.cons_ne_nil _ _
  have hcast : namesakes.protagonists ≠ [] := List.cons_ne_nil _ _
  exact ⟨hsettings, hcast, writePlot_warranted ⟨namesakes, []⟩ hsettings hcast 4 ⟨.ofSeed 7, #[]⟩⟩

end SpaceOpera
