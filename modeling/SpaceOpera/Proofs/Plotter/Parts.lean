import SpaceOpera.Proofs.Plotter.Upholding
import SpaceOpera.Proofs.World.Built

/-!
# Who takes which part

Every development needs its roles filled: some by the cast, some by whoever or whatever the world has for
them.  `Filled` says so of a node, and of the clues that a hole gives away; every subplot takes it over from the
hole it fills, and the normal form keeps it.
-/

namespace SpaceOpera

open PlotNode (ofDevelopment)

/-! ## Parts -/

/-- Who or what can take a role. -/
inductive Part where
  /-- Several, whoever they are. -/
  | party
  /-- Several of the protagonists. -/
  | crew
  | hero
  | villain
  | item
  /-- Anything that a story can mention. -/
  | thing
deriving DecidableEq, Repr

/-- The value can take the part. -/
def Part.Holds (w : World) : Part → Value → Prop
  | .party, v => ∃ g, v = .group g
  | .crew, v => ∃ g : Group, v = .group g ∧ ∀ o ∈ g.members, o ∈ w.protagonists
  | .hero, v => ∃ o ∈ w.protagonists, v = .object o
  | .villain, v => ∃ o ∈ w.antagonists, v = .object o
  | .item, v => ∃ o ∈ w.macguffins, v = .object o
  | .thing, v => ∃ o ∈ w.mentions, v = .object o

/-- The roles of a development, each with the part that it is. -/
def Development.parts : Development → List (Role × Part)
  | introduction | convalescence | allLaugh | wayBlocked | encounterNewSetting => [(.subject, .crew)]
  | itemForeshadowed | itemRecalled | loseItem | recoverItem =>
    [(.subject, .hero), (.object, .item), (.bystanders, .crew)]
  | kidnapping => [(.subject, .villain), (.object, .hero), (.bystanders, .crew)]
  | locateAbductee => [(.subject, .crew), (.object, .hero), (.object2, .thing)]
  | rescue | extractedFromRubble => [(.subject, .crew), (.object, .hero)]
  | trappedInRubble => [(.subject, .hero), (.bystanders, .crew)]
  | goonAmbush | goonEncounter | protagonistAttack | awkwardCombat =>
    [(.subject, .crew), (.object, .thing)]
  | vanquished => [(.subject, .crew), (.object, .thing), (.object2, .villain)]
  | awkwardTension | romanticTension | romanticResolution => [(.subject, .hero), (.object, .hero)]
  | drone => [(.subject, .hero)]
  | contemplateItem => [(.subject, .hero), (.object, .thing)]
  | journey => [(.subject, .party), (.object, .thing)]

/-- The role of the node is set, for someone who can take the part. -/
def Node.Fits (n : PlotNode) (w : World) (r : Role) (p : Part) : Prop :=
  ∃ v, n.get? r = some v ∧ p.Holds w v

/-- A node in one of the settings whose roles are filled, with nothing below it.  Whoever fights awkwardly
are two who are fit for it, and the clues of a hole are of the world. -/
structure Filled (w : World) (n : PlotNode) : Prop where
  children : n.children = []
  setting : ∃ s ∈ w.settings, n.setting? = some s
  parts : ∀ d, n.development? = some d → ∀ e ∈ d.parts, n.Fits w e.1 e.2
  couple : n.development? = some .awkwardCombat →
    ∃ lead dreamboat, Couple (n.membersOf .subject) lead dreamboat
  abductee : ∀ o, n.objectIn .abductee = some o → o ∈ w.protagonists
  location : ∀ o, n.objectIn .abducteeLocation = some o → o ∈ w.settings
  goons : ∀ o, n.objectIn .goons = some o → o ∈ w.goons

section Filled

variable {w : World} {n : PlotNode} {d : Development} {r : Role} {p : Part} {here : Object}

theorem Filled.fits (h : Filled w n) (hd : n.development? = some d) (hr : (r, p) ∈ d.parts) :
    n.Fits w r p :=
  h.parts d hd _ hr

theorem Filled.setting_mem (h : Filled w n) (hs : n.setting? = some here) : here ∈ w.settings := by
  obtain ⟨s, hmem, hsetting⟩ := h.setting
  exact Option.some.inj (hsetting.symm.trans hs) ▸ hmem

/-- The node gives no clue away. -/
def Node.Clueless (n : PlotNode) : Prop :=
  n.objectIn .abductee = none ∧ n.objectIn .abducteeLocation = none ∧ n.objectIn .goons = none

theorem Filled.of_development (hchildren : n.children = []) (hd : n.development? = some d)
    (hsetting : n.setting? = some here) (hhere : here ∈ w.settings) (hcombat : d ≠ .awkwardCombat)
    (hclueless : n.Clueless) (hparts : ∀ e ∈ d.parts, n.Fits w e.1 e.2) : Filled w n := by
  obtain ⟨habductee, hlocation, hgoons⟩ := hclueless
  refine ⟨hchildren, ⟨here, hhere, hsetting⟩, fun d' hd' => ?_, fun hd' => ?_, fun o ho => ?_, fun o ho => ?_,
    fun o ho => ?_⟩
  · obtain rfl := Option.some.inj (hd.symm.trans hd')
    exact hparts
  · exact absurd (Option.some.inj (hd.symm.trans hd')) hcombat
  · exact absurd (habductee.symm.trans ho) (Option.some_ne_none o).symm
  · exact absurd (hlocation.symm.trans ho) (Option.some_ne_none o).symm
  · exact absurd (hgoons.symm.trans ho) (Option.some_ne_none o).symm

theorem Filled.hole (hhere : here ∈ w.settings) (rules : List Rule) :
    Filled w (PlotNode.hole here rules) :=
  ⟨rfl, ⟨here, hhere, rfl⟩, nofun, nofun, nofun, nofun, nofun⟩

theorem Filled.hole_goons {goons : Object} (hhere : here ∈ w.settings) (hgoons : goons ∈ w.goons)
    (rules : List Rule) :
    Filled w ((PlotNode.hole here rules).set .goons (.object goons)) := by
  refine ⟨rfl, ⟨here, hhere, rfl⟩, nofun, nofun, nofun, nofun, fun o ho => ?_⟩
  obtain rfl := Option.some.inj ho
  exact hgoons

theorem Filled.hole_search {abductee lair : Object} (hhere : here ∈ w.settings)
    (habductee : abductee ∈ w.protagonists) (hlair : lair ∈ w.settings) (rules : List Rule) :
    Filled w (((PlotNode.hole here rules).set .abductee (.object abductee)).set .abducteeLocation
      (.object lair)) := by
  refine ⟨rfl, ⟨here, hhere, rfl⟩, nofun, nofun, fun o ho => ?_, fun o ho => ?_, nofun⟩
  · obtain rfl := Option.some.inj ho
    exact habductee
  · obtain rfl := Option.some.inj ho
    exact hlair

/-- A fight of a crew with a band of goons. -/
theorem Filled.fight {party : Group} {goons : Object}
    (hd : d.parts = [(.subject, .crew), (.object, .thing)]) (hcombat : d ≠ .awkwardCombat)
    (hhere : here ∈ w.settings) (hparty : ∀ o ∈ party.members, o ∈ w.protagonists)
    (hgoons : goons ∈ w.goons) :
    Filled w (((ofDevelopment d here).set .subject (.group party)).set .object (.object goons)) := by
  refine .of_development rfl rfl rfl hhere hcombat ⟨rfl, rfl, rfl⟩ ?_
  rw [hd]
  simp only [List.forall_mem_singleton, List.forall_mem_cons]
  exact ⟨⟨_, rfl, party, rfl, hparty⟩, ⟨_, rfl, goons, mentions_goons hgoons, rfl⟩⟩

end Filled

/-! ## Subplots -/

section Subplots

variable {w : World} {away : Roster} {hole : PlotNode} {here : Object} {a : Assignment}
  {cs : List PlotNode}

theorem mem_of_mem_present {o : Object} (h : o ∈ w.present away) : o ∈ w.protagonists :=
  (mem_availableOf.1 h).1

theorem mem_of_mem_others {o p : Object} (h : o ∈ without (w.present away) p) :
    o ∈ w.protagonists :=
  mem_of_mem_present (mem_without.1 h).1

/-- Parts that may be taken in a filled hole fill the roles of the subplot. -/
theorem Stages.filled (hw : w.Built) (hhole : Filled w hole) (hhere : hole.setting? = some here)
    (ha : Assigned w away hole here a) (h : Stages w here a cs) : ∀ c ∈ cs, Filled w c := by
  have hhere : here ∈ w.settings := hhole.setting_mem hhere
  cases a with
  | kidnapping villain abductee others lair =>
    obtain ⟨hvillain, rfl, hchosen, rfl⟩ := ha
    obtain ⟨_, _, rfl⟩ := h
    have habductee := mem_of_mem_present hchosen.mem
    have hlair : villain.home.getD here ∈ w.settings := by
      cases hhome : villain.home with
      | none => exact hhere
      | some home => exact (hw.dweller villain (List.mem_append_right _ hvillain)).home home hhome
    simp only [Subplot.kidnapping, List.forall_mem_singleton, List.forall_mem_cons]
    refine ⟨.of_development rfl rfl rfl hhere (by decide) ⟨rfl, rfl, rfl⟩ ?_,
      .hole_search hhere habductee hlair _, .hole hlair _,
      .of_development rfl rfl rfl hlair (by decide) ⟨rfl, rfl, rfl⟩ ?_⟩
    · simp only [Development.parts, List.forall_mem_singleton, List.forall_mem_cons]
      exact ⟨⟨_, rfl, _, hvillain, rfl⟩, ⟨_, rfl, _, habductee, rfl⟩,
        ⟨_, rfl, _, rfl, fun _ => mem_of_mem_others⟩⟩
    · simp only [Development.parts, List.forall_mem_singleton, List.forall_mem_cons]
      exact ⟨⟨_, rfl, _, rfl, fun _ => mem_of_mem_others⟩, ⟨_, rfl, _, habductee, rfl⟩⟩
  | findAbductee protagonists abductee location =>
    obtain ⟨rfl, -, habductee, hlocation⟩ := ha
    obtain ⟨_, rfl⟩ := h
    simp only [Subplot.findAbductee, List.forall_mem_singleton, List.forall_mem_cons]
    refine ⟨.of_development rfl rfl rfl hhere (by decide) ⟨rfl, rfl, rfl⟩ ?_, .hole hhere _⟩
    simp only [Development.parts, List.forall_mem_singleton, List.forall_mem_cons]
    exact ⟨⟨_, rfl, _, rfl, fun _ => mem_of_mem_present⟩,
      ⟨_, rfl, _, hhole.abductee _ habductee, rfl⟩,
      ⟨_, rfl, _, mentions_setting (hhole.location _ hlocation), rfl⟩⟩
  | findAnotherWay protagonists outside =>
    obtain ⟨rfl, -, place, hplace, houtside⟩ := ha
    obtain ⟨_, rfl⟩ := h
    have hleads : outside ∈ w.settings := by
      obtain ⟨p, hp, -, hout⟩ := hw.site here hhere
      obtain rfl := Option.some.inj (hp.symm.trans hplace)
      exact hout outside houtside
    simp only [Subplot.findAnotherWay, List.forall_mem_singleton, List.forall_mem_cons]
    refine ⟨.of_development rfl rfl rfl hhere (by decide) ⟨rfl, rfl, rfl⟩ ?_, .hole hleads _⟩
    simp only [Development.parts, List.forall_mem_singleton]
    exact ⟨_, rfl, _, rfl, fun _ => mem_of_mem_present⟩
  | lostItem loser protagonists item =>
    obtain ⟨rfl, hchosen, hitem⟩ := ha
    obtain ⟨recoverer, _, _, hrecovers, rfl⟩ := h
    have hloser := mem_of_mem_present hchosen.mem
    have hitem := (mem_availableOf.1 hitem).1
    have hrecoverer := mem_of_mem_present (hrecovers.mem hchosen.mem)
    simp only [Subplot.lostItem, List.forall_mem_singleton, List.forall_mem_cons]
    refine ⟨.of_development rfl rfl rfl hhere (by decide) ⟨rfl, rfl, rfl⟩ ?_, .hole hhere _,
      .of_development rfl rfl rfl hhere (by decide) ⟨rfl, rfl, rfl⟩ ?_⟩
    all_goals simp only [Development.parts, List.forall_mem_singleton, List.forall_mem_cons]
    · exact ⟨⟨_, rfl, _, hloser, rfl⟩, ⟨_, rfl, _, hitem, rfl⟩,
        ⟨_, rfl, _, rfl, fun _ => mem_of_mem_others⟩⟩
    · exact ⟨⟨_, rfl, _, hrecoverer, rfl⟩, ⟨_, rfl, _, hitem, rfl⟩,
        ⟨_, rfl, _, rfl, fun _ => mem_of_mem_others⟩⟩
  | caveIn trapped others =>
    obtain ⟨-, hchosen, rfl⟩ := ha
    obtain ⟨_, rfl⟩ := h
    have htrapped := mem_of_mem_present hchosen.mem
    simp only [Subplot.caveIn, List.forall_mem_singleton, List.forall_mem_cons]
    refine ⟨.of_development rfl rfl rfl hhere (by decide) ⟨rfl, rfl, rfl⟩ ?_, .hole hhere _,
      .of_development rfl rfl rfl hhere (by decide) ⟨rfl, rfl, rfl⟩ ?_, .hole hhere _⟩
    all_goals simp only [Development.parts, List.forall_mem_singleton, List.forall_mem_cons]
    · exact ⟨⟨_, rfl, _, htrapped, rfl⟩, ⟨_, rfl, _, rfl, fun _ => mem_of_mem_others⟩⟩
    · exact ⟨⟨_, rfl, _, rfl, fun _ => mem_of_mem_others⟩, ⟨_, rfl, _, htrapped, rfl⟩⟩
  | goonSkirmish protagonists goons =>
    obtain ⟨-, -, rfl, -, hgoons⟩ := ha
    obtain ⟨met, _, sender, hsender, rfl⟩ := h
    simp only [Subplot.goonSkirmish, List.forall_mem_singleton, List.forall_mem_cons]
    refine ⟨.fight ?_ ?_ hhere (fun _ => mem_of_mem_present) hgoons, .hole_goons hhere hgoons _,
      .of_development rfl rfl rfl hhere (by decide) ⟨rfl, rfl, rfl⟩ ?_⟩
    · cases met <;> rfl
    · cases met <;> decide
    · simp only [Development.parts, List.forall_mem_singleton, List.forall_mem_cons]
      exact ⟨⟨_, rfl, _, rfl, fun _ => mem_of_mem_present⟩,
        ⟨_, rfl, _, mentions_goons hgoons, rfl⟩, ⟨_, rfl, _, hsender, rfl⟩⟩
  | protagonistAttack protagonists goons =>
    obtain ⟨rfl, -, hgoons⟩ := ha
    obtain ⟨_, rfl⟩ := h
    have hgoons := hhole.goons _ hgoons
    simp only [Subplot.combat, List.forall_mem_singleton, List.forall_mem_cons]
    exact ⟨.hole_goons hhere hgoons _,
      .fight rfl (by decide) hhere (fun _ => mem_of_mem_present) hgoons⟩
  | awkwardCombat lead dreamboat goons =>
    obtain ⟨hcouple, hgoons⟩ := ha
    obtain ⟨_, rfl⟩ := h
    have hgoons := hhole.goons _ hgoons
    have hcrew : ∀ o ∈ [lead, dreamboat], o ∈ w.protagonists := by
      simp only [List.forall_mem_singleton, List.forall_mem_cons]
      exact ⟨mem_of_mem_present hcouple.lead_mem, mem_of_mem_present hcouple.dreamboat_mem⟩
    simp only [Subplot.combat, List.forall_mem_singleton, List.forall_mem_cons]
    refine ⟨.hole_goons hhere hgoons _, rfl, ⟨here, hhere, rfl⟩, ?_, fun _ => ?_,
      by rintro _ ⟨⟩, by rintro _ ⟨⟩, by rintro _ ⟨⟩⟩
    · rintro _ ⟨⟩
      simp only [Development.parts, List.forall_mem_singleton, List.forall_mem_cons]
      exact ⟨⟨_, rfl, _, rfl, hcrew⟩, ⟨_, rfl, _, mentions_goons hgoons, rfl⟩⟩
    · exact ⟨lead, dreamboat, List.mem_cons_self, hcouple.isLead,
        List.mem_cons_of_mem _ List.mem_cons_self, hcouple.isDreamboat⟩
  | awkwardTension lead dreamboat | romanticTension lead dreamboat =>
    obtain ⟨one, other, horder, rfl⟩ := h
    have ha : Couple (w.present away) lead dreamboat := ha
    obtain ⟨hone, hother⟩ := ha.mem_of_inSomeOrder horder
    simp only [Subplot.encounter, List.forall_mem_singleton, List.forall_mem_cons]
    refine ⟨.of_development rfl rfl rfl hhere (by decide) ⟨rfl, rfl, rfl⟩ ?_, .hole hhere _⟩
    simp only [Development.parts, List.forall_mem_singleton, List.forall_mem_cons]
    exact ⟨⟨_, rfl, _, mem_of_mem_present hone, rfl⟩, ⟨_, rfl, _, mem_of_mem_present hother, rfl⟩⟩
  | romanticResolution lead dreamboat =>
    subst h
    have ha : Couple (w.present away) lead dreamboat := ha
    simp only [Subplot.romanticResolution, List.forall_mem_singleton]
    refine .of_development rfl rfl rfl hhere (by decide) ⟨rfl, rfl, rfl⟩ ?_
    simp only [Development.parts, List.forall_mem_singleton, List.forall_mem_cons]
    exact ⟨⟨_, rfl, _, mem_of_mem_present ha.dreamboat_mem, rfl⟩,
      ⟨_, rfl, _, mem_of_mem_present ha.lead_mem, rfl⟩⟩
  | contemplateItem contemplator item =>
    subst h
    obtain ⟨hchosen, place, hplace, hitem, -⟩ := ha
    simp only [Subplot.encounter, List.forall_mem_singleton, List.forall_mem_cons]
    refine ⟨.of_development rfl rfl rfl hhere (by decide) ⟨rfl, rfl, rfl⟩ ?_, .hole hhere _⟩
    simp only [Development.parts, List.forall_mem_singleton, List.forall_mem_cons]
    exact ⟨⟨_, rfl, _, mem_of_mem_present hchosen.mem, rfl⟩,
      ⟨_, rfl, _, mentions_nearby hhere hplace hitem, rfl⟩⟩
  | drone startled =>
    subst h
    obtain ⟨hchosen, -⟩ := ha
    simp only [Subplot.drone, List.forall_mem_singleton, List.forall_mem_cons]
    refine ⟨.of_development rfl rfl rfl hhere (by decide) ⟨rfl, rfl, rfl⟩ ?_, .hole hhere _⟩
    simp only [Development.parts, List.forall_mem_singleton]
    exact ⟨_, rfl, _, mem_of_mem_present hchosen.mem, rfl⟩

end Subplots

/-! ## Plots -/

section Plots

variable {p : Plotter} {home : Object} {cast : Group}

theorem home_mem {w : World} (h : w.home? = some home) : home ∈ w.settings :=
  List.mem_of_head? h

theorem seedNodes_filled {w : World} (hhome : home ∈ w.settings)
    (hcast : cast.members = w.protagonists) :
    ∀ n ∈ seedNodes home (.group cast), Filled w n := by
  have hcrew : ∀ o ∈ cast.members, o ∈ w.protagonists := fun o ho => hcast ▸ ho
  simp only [seedNodes, List.forall_mem_singleton, List.forall_mem_cons]
  refine ⟨.of_development rfl rfl rfl hhome (by decide) ⟨rfl, rfl, rfl⟩ ?_, .hole hhome _,
    .of_development rfl rfl rfl hhome (by decide) ⟨rfl, rfl, rfl⟩ ?_,
    .of_development rfl rfl rfl hhome (by decide) ⟨rfl, rfl, rfl⟩ ?_⟩
  all_goals
    simp only [Development.parts, List.forall_mem_singleton]
    exact ⟨_, rfl, cast, rfl, hcrew⟩

theorem filled_kept (w : World) (home : Object) : Kept w home (Filled w) where
  journey party hlast hnext hhere hthere _ := by
    refine .of_development rfl rfl rfl (hlast.setting_mem hhere) (by decide) ⟨rfl, rfl, rfl⟩ ?_
    simp only [Development.parts, List.forall_mem_singleton, List.forall_mem_cons]
    exact ⟨⟨_, rfl, party, rfl⟩, ⟨_, rfl, _, mentions_setting (hnext.setting_mem hthere), rfl⟩⟩
  arrival {n here party} hn hhere _ hparty := by
    refine .of_development rfl rfl rfl (hn.setting_mem hhere) nofun ⟨rfl, rfl, rfl⟩ ?_
    simp only [Development.parts, List.forall_mem_singleton]
    exact ⟨_, rfl, party, rfl, hparty⟩
  scene {n here item holder recalled d others} hn hlost hd hhere hothers := by
    obtain ⟨loss, hloss, hlosing, hitem⟩ := hlost.item
    obtain ⟨loser, hloser, hlosing', hholder⟩ := hlost.holder
    have hitem : item ∈ w.macguffins := by
      obtain ⟨_, hobject, o, ho, rfl⟩ := hloss.fits (r := .object) (p := .item) hlosing (by decide)
      rw [Node.objectIn, hobject] at hitem
      exact Option.some.inj hitem ▸ ho
    have hholder : holder ∈ w.protagonists := by
      obtain ⟨_, hsubject, o, ho, rfl⟩ := hloser.fits (r := .subject) (p := .hero) hlosing' (by decide)
      rw [Node.objectIn, hsubject] at hholder
      exact Option.some.inj hholder ▸ ho
    have hcrew : n.Fits w .subject .crew ∧ d ≠ .awkwardCombat ∧
        d.parts = [(.subject, .hero), (.object, .item), (.bystanders, .crew)] := by
      rcases followUp?_eq_some hd with ⟨hintroduction, rfl⟩ | ⟨hconvalescence, rfl⟩
      · exact ⟨hn.fits hintroduction (by decide), nofun, rfl⟩
      · exact ⟨hn.fits hconvalescence (by decide), nofun, rfl⟩
    obtain ⟨⟨_, hsubject, g, rfl, hg⟩, hcombat, hparts⟩ := hcrew
    refine .of_development rfl rfl rfl (hn.setting_mem hhere) hcombat ⟨rfl, rfl, rfl⟩ ?_
    rw [hparts]
    simp only [List.forall_mem_singleton, List.forall_mem_cons]
    refine ⟨⟨_, rfl, holder, hholder, rfl⟩, ⟨_, rfl, item, hitem, rfl⟩, ⟨_, rfl, others, rfl, ?_⟩⟩
    intro o ho
    have hmember := hothers o ho
    rw [Node.membersOf, hsubject] at hmember
    exact hg o hmember

/-- However a plot grows, the roles of its developments are filled. -/
theorem filled_upheld (hw : p.world.Built) (hhome : p.world.home? = some home) :
    Upheld p home (Filled p.world) where
  toKept := filled_kept p.world home
  seed hcast := seedNodes_filled (home_mem hhome) hcast
  fill hhole hcs := by
    obtain ⟨_, _, _, -, -, -, hhere, ha, hstages⟩ := hcs
    exact hstages.filled hw hhole hhere ha

end Plots

/-! ## Written plots -/

section Written

variable {I : Context → Prop} [Lasting I] {p : Plotter}

/-- A plot of filled developments, as stories are told of. -/
def Played (w : World) (plot : PlotNode) : Prop :=
  ∃ ms, plot = PlotNode.sequence ms ∧
    ∀ m ∈ ms, Staged m ∧ m.development?.isSome = true ∧ Filled w m

theorem writePlot_played {E : PlotError → Prop} (hw : p.world.Built) (depth : Nat) :
    Ends (fun n : Narration => I n.context) E (Played p.world) (p.writePlot depth) := by
  obtain ⟨home, hhome⟩ := exists_home hw.settings
  exact writePlot_upholds hhome hw.protagonists (filled_upheld hw hhome) depth

end Written

end SpaceOpera
