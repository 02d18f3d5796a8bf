import SpaceOpera.Proofs.Plotter.Upholding

/-!
# What disabled rules leave out

Most developments come of one rule only, the scenes of lost items included, which need an item that is lost.
Nothing happens that comes of a disabled rule.  Of the rules that may fill the hole of a fresh plot, and those that
may fill the holes they leave, only kidnappings lead away from home; without them everything happens there, and a
cave-in or a skirmish never does.
-/

namespace SpaceOpera

/-! ## Disabled rules -/

/-- The development of the node comes of no rule that is disabled. -/
def Enabled (p : Plotter) (n : PlotNode) : Prop :=
  ∀ d, n.development? = some d → ∀ r, d.rule? = some r → r ∉ p.disabled

theorem enabled_upheld (p : Plotter) (home : Object) : Upheld p home (Enabled p) where
  journey _ _ _ _ _ _ := by rintro _ ⟨⟩ r ⟨⟩
  arrival _ _ _ _ := by rintro _ ⟨⟩ r ⟨⟩
  scene {n here item holder recalled d others} _ hlost hd _ _ := by
    obtain ⟨loss, hloss, hlosing, -⟩ := hlost.item
    have hitems : Rule.lostItem ∉ p.disabled := hloss _ hlosing _ rfl
    rcases followUp?_eq_some hd with ⟨-, rfl⟩ | ⟨-, rfl⟩ <;>
    · rintro _ ⟨⟩ r ⟨⟩
      exact hitems
  seed _ := by
    simp only [seedNodes, List.forall_mem_singleton, List.forall_mem_cons]
    refine ⟨?_, ?_, ?_, ?_⟩ <;> rintro _ ⟨⟩ r ⟨⟩
  fill _ hcs := by
    obtain ⟨_, _, a, -, -, hdisabled, -, -, hstages⟩ := hcs
    intro c hc d hd r hr
    obtain rfl := Option.some.inj ((hstages.rule?_eq hc hd).symm.trans hr)
    simpa using hdisabled

/-! ## Staying at home -/

/-- The rules that may fill a hole at home, or one that they leave there. -/
def Rule.aroundHome : List Rule :=
  [kidnapping, lostItem, caveIn, goonSkirmish, awkwardTension, romanticTension, contemplateItem, drone]

/-- What happens in a plot that never leaves home. -/
def Development.aroundHome : List Development :=
  [introduction, convalescence, allLaugh, loseItem, recoverItem, itemForeshadowed, itemRecalled,
    awkwardTension, romanticTension, contemplateItem, drone]

/-- A node of a plot that never leaves home. -/
structure StaysHome (home : Object) (n : PlotNode) : Prop where
  setting : n.setting? = some home
  development : ∀ d, n.development? = some d → d ∈ Development.aroundHome
  rules : ∀ rules, n.kind = .hole rules → rules ⊆ Rule.aroundHome

section StaysHome

variable {w : World} {home : Object} {away : Roster} {a : Assignment} {cs : List PlotNode} {n : PlotNode}
  {d : Development}

theorem StaysHome.of_development (hkind : n.kind = .development d) (hhome : n.setting? = some home)
    (hd : d ∈ Development.aroundHome) : StaysHome home n := by
  refine ⟨hhome, fun d' hd' => ?_, fun rules hrules => ?_⟩
  · rw [Node.development?, hkind] at hd'
    exact Option.some.inj hd' ▸ hd
  · cases hkind.symm.trans hrules

theorem StaysHome.hole {rules : List Rule} (h : rules ⊆ Rule.aroundHome) :
    StaysHome home (PlotNode.hole home rules) := by
  refine ⟨rfl, nofun, fun rules' hrules => ?_⟩
  cases hrules
  exact h

/-- A subplot that is no kidnapping stays at home. -/
theorem Stages.staysHome {hole : PlotNode} (hhome : w.home? = some home) (hrule : a.rule ∈ Rule.aroundHome)
    (hkidnapping : a.rule ≠ .kidnapping) (ha : Assigned w away hole home a) (h : Stages w home a cs) :
    ∀ c ∈ cs, StaysHome home c := by
  have hathome : w.isHome home = true := by
    rw [World.isHome, hhome]
    exact BEq.rfl
  cases a with
  | kidnapping => exact absurd rfl hkidnapping
  | findAbductee | findAnotherWay | protagonistAttack | awkwardCombat | romanticResolution =>
    exact absurd hrule (by simp [Assignment.rule, Rule.aroundHome])
  | caveIn | goonSkirmish => exact absurd (ha.1.symm.trans hathome) Bool.false_ne_true
  | lostItem =>
    obtain ⟨_, _, _, -, rfl⟩ := h
    simp only [Subplot.lostItem, List.forall_mem_singleton, List.forall_mem_cons]
    exact ⟨.of_development rfl rfl (by decide), .hole (by decide), .of_development rfl rfl (by decide)⟩
  | awkwardTension | romanticTension =>
    obtain ⟨_, _, -, rfl⟩ := h
    simp only [Subplot.encounter, List.forall_mem_singleton, List.forall_mem_cons]
    exact ⟨.of_development rfl rfl (by decide), .hole (by decide)⟩
  | contemplateItem | drone =>
    subst h
    simp only [Subplot.encounter, Subplot.drone, List.forall_mem_singleton, List.forall_mem_cons]
    exact ⟨.of_development rfl rfl (by decide), .hole (by decide)⟩

theorem staysHome_upheld {p : Plotter} (hhome : p.world.home? = some home)
    (h : .kidnapping ∈ p.disabled ∨ p.world.antagonists = []) : Upheld p home (StaysHome home) where
  journey _ hlast hnext hhere hthere hway := by
    obtain rfl := Option.some.inj (hlast.setting.symm.trans hhere)
    obtain rfl := Option.some.inj (hnext.setting.symm.trans hthere)
    exact absurd (hway.symm.trans BEq.rfl) Bool.false_ne_true
  arrival hn hhere hnew _ := by
    obtain rfl := Option.some.inj (hn.setting.symm.trans hhere)
    exact absurd (hnew.symm.trans BEq.rfl) Bool.false_ne_true
  scene hn _ hd hhere _ := by
    obtain rfl := Option.some.inj (hn.setting.symm.trans hhere)
    rcases followUp?_eq_some hd with ⟨-, rfl⟩ | ⟨-, rfl⟩ <;>
      exact .of_development rfl rfl (by decide)
  seed _ := by
    simp only [seedNodes, List.forall_mem_singleton, List.forall_mem_cons]
    exact ⟨.of_development rfl rfl (by decide), .hole (by decide), .of_development rfl rfl (by decide),
      .of_development rfl rfl (by decide)⟩
  fill {away hole cs} hhole hcs := by
    obtain ⟨rules, here, a, hkind, hrule, hdisabled, hhere, ha, hstages⟩ := hcs
    obtain rfl := Option.some.inj (hhole.setting.symm.trans hhere)
    refine hstages.staysHome hhome (hhole.rules rules hkind hrule) (fun hkidnapping => ?_) ha
    rcases h with hmem | hnobody
    · rw [hkidnapping] at hdisabled
      simp [hmem] at hdisabled
    · cases a <;> cases hkidnapping
      exact List.not_mem_nil (hnobody ▸ ha.1)

end StaysHome

/-! ## Written plots -/

/-- Nothing in a written plot comes of a disabled rule.  Where kidnappings are disabled or there is nobody to
commit one, everything happens at home, and it is nothing but what happens there. -/
theorem writePlot_enabled (p : Plotter) (hsettings : p.world.settings ≠ [])
    (hcast : p.world.protagonists ≠ []) (depth : Nat) (n : Narration) :
    ∃ plot home, ((p.writePlot depth).run.run n).1 = .ok plot ∧ p.world.home? = some home ∧
      (∀ m ∈ plot.developments, ∀ d, m.development? = some d → ∀ r, d.rule? = some r →
        r ∉ p.disabled) ∧
      (.kidnapping ∈ p.disabled ∨ p.world.antagonists = [] → ∀ m ∈ plot.developments,
        m.setting? = some home ∧ ∃ d ∈ Development.aroundHome, m.development? = some d) := by
  obtain ⟨home, hhome⟩ := exists_home hsettings
  obtain ⟨plot, hplot, henabled⟩ := writePlot_upheld hhome hcast (enabled_upheld p home) depth n
  refine ⟨plot, home, hplot, hhome, henabled, fun hnobody m hm => ?_⟩
  obtain ⟨plot', hplot', hstays⟩ :=
    writePlot_upheld hhome hcast (staysHome_upheld hhome hnobody) depth n
  obtain rfl := Except.ok.inj (hplot.symm.trans hplot')
  obtain ⟨d, hd⟩ := Option.isSome_iff_exists.1 (List.mem_filter.1 hm).2
  exact ⟨(hstays m hm).setting, d, (hstays m hm).development d hd, hd⟩

/-- The namesakes stay on their bridge if nobody is carried off. -/
theorem writePlot_enabled_namesakes :
    namesakes.settings ≠ [] ∧ namesakes.protagonists ≠ [] ∧ ∃ plot home,
      (((⟨namesakes, [.kidnapping]⟩ : Plotter).writePlot 4).run.run ⟨.ofSeed 7, #[]⟩).1 = .ok plot ∧
      namesakes.home? = some home ∧ ∀ m ∈ plot.developments, m.setting? = some home := by
  have hsettings : namesakes.settings ≠ [] := List.cons_ne_nil _ _
  have hcast : namesakes.protagonists ≠ [] := List.cons_ne_nil _ _
  obtain ⟨plot, home, hplot, hhome, -, hstays⟩ :=
    writePlot_enabled ⟨namesakes, [.kidnapping]⟩ hsettings hcast 4 ⟨.ofSeed 7, #[]⟩
  have hdisabled := hstays (.inl (List.mem_singleton_self _))
  exact ⟨hsettings, hcast, plot, home, hplot, hhome, fun m hm => (hdisabled m hm).1⟩

end SpaceOpera
