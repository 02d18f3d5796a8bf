import SpaceOpera.Plotter.Assignment
import SpaceOpera.Proofs.Chance.Outcomes
import SpaceOpera.Proofs.Plot.Replay

/-!
# What an assignment promises

`Assigned` says for each rule who may take which part, in terms of the world, of who is away and of the
hole.  Whatever a rule is assigned, however the draws fall, is assigned in this sense (`assign_yields`).
-/

namespace SpaceOpera

/-! ## Parts -/

/-- Someone of the cast who fits, with at least one other beside. -/
structure Chosen (cast : List Object) (fits : Object → Bool) (o : Object) : Prop where
  mem : o ∈ cast
  fits : fits o = true
  others : without cast o ≠ []

/-- The heroine and someone to fall for, both of the cast. -/
structure Couple (cast : List Object) (lead dreamboat : Object) : Prop where
  lead_mem : lead ∈ cast
  isLead : lead.isLead = true
  dreamboat_mem : dreamboat ∈ cast
  isDreamboat : dreamboat.isDreamboat = true

/-- The protagonists who are there. -/
def World.present (w : World) (away : Roster) : List Object :=
  availableOf w.protagonists away

/-- Who may take which part in a hole in the setting `here`. -/
def Assigned (w : World) (away : Roster) (hole : PlotNode) (here : Object) : Assignment → Prop
  | .kidnapping villain abductee others lair =>
    villain ∈ w.antagonists ∧ lair = villain.home.getD here ∧
      Chosen (w.present away) (!·.isLead) abductee ∧ others = without (w.present away) abductee
  | .findAbductee protagonists abductee location =>
    protagonists = w.present away ∧ protagonists ≠ [] ∧
      hole.objectIn .abductee = some abductee ∧ hole.objectIn .abducteeLocation = some location
  | .findAnotherWay protagonists outside =>
    protagonists = w.present away ∧ protagonists ≠ [] ∧
      ∃ place, here.place? = some place ∧ place.outside = some outside
  | .lostItem loser protagonists item =>
    protagonists = w.present away ∧ Chosen (w.present away) (fun _ => true) loser ∧
      item ∈ availableOf w.macguffins away
  | .caveIn trapped others =>
    w.isHome here = false ∧ Chosen (w.present away) (!·.isLead) trapped ∧
      others = without (w.present away) trapped
  | .goonSkirmish protagonists goons =>
    w.isHome here = false ∧ w.antagonists ≠ [] ∧ protagonists = w.present away ∧
      protagonists ≠ [] ∧ goons ∈ w.goons
  | .protagonistAttack protagonists goons =>
    protagonists = w.present away ∧ protagonists ≠ [] ∧ hole.objectIn .goons = some goons
  | .awkwardCombat lead dreamboat goons =>
    Couple (w.present away) lead dreamboat ∧ hole.objectIn .goons = some goons
  | .awkwardTension lead dreamboat | .romanticTension lead dreamboat
  | .romanticResolution lead dreamboat => Couple (w.present away) lead dreamboat
  | .contemplateItem contemplator item =>
    Chosen (w.present away) (fun _ => true) contemplator ∧
      ∃ place, here.place? = some place ∧ item ∈ place.nearby ∧ item.takeable = true
  | .drone startled =>
    Chosen (w.present away) (fun _ => true) startled ∧
      ∃ place, here.place? = some place ∧ place.hasDrones = true

/-! ## Drawing the parts -/

section Drawing

variable {I : Context → Prop} {α : Type}

theorem present_finds (o : Option α) : Finds I (fun a => o = some a) (present o) :=
  Finds.mk (Yields.pure fun _ ha => ha)

theorem require_finds (b : Bool) : Finds I (fun _ => b = true) (require b) := by
  unfold require
  split
  · exact Finds.pure ‹_›
  · exact Finds.failure

theorem Pool.everyone_finds (p : Pool) :
    Finds I (fun os => os = p.protagonists ∧ os ≠ []) p.everyone := by
  unfold Pool.everyone
  split
  · exact Finds.failure
  · rename_i h
    refine Finds.pure ⟨rfl, fun he => h ?_⟩
    rw [he]
    rfl

variable [Lasting I]

theorem choose_finds (items : List α) : Finds I (· ∈ items) (OptionT.mk (Roll.choose items)) := by
  refine Finds.mk (Yields.imp (Roll.choose_yields items) fun o ho a ha => ?_)
  subst ha
  split at ho
  · cases ho
  · obtain ⟨b, hb, hab⟩ := ho
    cases hab
    exact hb

theorem Pool.protagonistAndOthers_finds (p : Pool) (fits : Object → Bool) :
    Finds I (fun r => Chosen p.protagonists fits r.1 ∧ r.2 = without p.protagonists r.1)
      (p.protagonistAndOthers fits) := by
  unfold Pool.protagonistAndOthers
  refine Finds.bind (choose_finds _) fun chosen hchosen => ?_
  obtain ⟨hmem, hfits⟩ := List.mem_filter.1 hchosen
  dsimp only
  split
  · exact Finds.failure
  · rename_i h
    refine Finds.pure ⟨⟨hmem, hfits, fun he => h ?_⟩, rfl⟩
    unfold without at he
    rw [he]
    rfl

theorem Pool.leadAndDreamboat_finds (p : Pool) :
    Finds I (fun r => Couple p.protagonists r.1 r.2) p.leadAndDreamboat := by
  unfold Pool.leadAndDreamboat
  have hpair : Finds I (fun r : Object × Object => Couple p.protagonists r.1 r.2) (do
      let lead ← OptionT.mk (Roll.choose (p.protagonists.filter Object.isLead))
      let dreamboat ← OptionT.mk (Roll.choose (p.protagonists.filter Object.isDreamboat))
      return (lead, dreamboat)) := by
    refine Finds.bind (choose_finds _) fun lead hlead => ?_
    refine Finds.bind (choose_finds _) fun dreamboat hdreamboat => ?_
    obtain ⟨hlead, hisLead⟩ := List.mem_filter.1 hlead
    obtain ⟨hdreamboat, hisDreamboat⟩ := List.mem_filter.1 hdreamboat
    exact Finds.pure ⟨hlead, hisLead, hdreamboat, hisDreamboat⟩
  dsimp only
  split
  · exact Finds.bind (P := fun _ => False) Finds.failure fun _ h => h.elim
  · exact hpair

theorem assignIn_finds (w : World) (away : Roster) (rule : Rule) (hole : PlotNode)
    (here : Object) :
    Finds I (fun a => Assigned w away hole here a ∧ a.rule = rule)
      (assignIn w rule hole here (Pool.of w away)) := by
  cases rule with
  | kidnapping =>
    refine Finds.bind (Pool.protagonistAndOthers_finds _ _) fun r hr => ?_
    obtain ⟨hchosen, hothers⟩ := hr
    refine Finds.bind (choose_finds _) fun villain hvillain => ?_
    exact Finds.pure ⟨⟨hvillain, rfl, hchosen, hothers⟩, rfl⟩
  | findAbductee =>
    refine Finds.bind (Pool.everyone_finds _) fun cast hcast => ?_
    refine Finds.bind (present_finds _) fun abductee habductee => ?_
    refine Finds.bind (present_finds _) fun location hlocation => ?_
    exact Finds.pure ⟨⟨hcast.1, hcast.2, habductee, hlocation⟩, rfl⟩
  | findAnotherWay =>
    refine Finds.bind (present_finds _) fun place hplace => ?_
    refine Finds.bind (present_finds _) fun outside houtside => ?_
    refine Finds.bind (Pool.everyone_finds _) fun cast hcast => ?_
    exact Finds.pure ⟨⟨hcast.1, hcast.2, place, hplace, houtside⟩, rfl⟩
  | lostItem =>
    refine Finds.bind (Pool.protagonistAndOthers_finds _ _) fun r hr => ?_
    refine Finds.bind (choose_finds _) fun item hitem => ?_
    exact Finds.pure ⟨⟨rfl, hr.1, hitem⟩, rfl⟩
  | caveIn =>
    refine Finds.bind (require_finds _) fun _ hhome => ?_
    refine Finds.bind (Pool.protagonistAndOthers_finds _ _) fun r hr => ?_
    exact Finds.pure ⟨⟨by simpa using hhome, hr.1, hr.2⟩, rfl⟩
  | goonSkirmish =>
    refine Finds.bind (require_finds _) fun _ hrequired => ?_
    refine Finds.bind (Pool.everyone_finds _) fun cast hcast => ?_
    refine Finds.bind (choose_finds _) fun goons hgoons => ?_
    have h : w.isHome here = false ∧ w.antagonists ≠ [] := by simpa using hrequired
    exact Finds.pure ⟨⟨h.1, h.2, hcast.1, hcast.2, hgoons⟩, rfl⟩
  | protagonistAttack =>
    refine Finds.bind (Pool.everyone_finds _) fun cast hcast => ?_
    refine Finds.bind (present_finds _) fun goons hgoons => ?_
    exact Finds.pure ⟨⟨hcast.1, hcast.2, hgoons⟩, rfl⟩
  | awkwardCombat =>
    refine Finds.bind (present_finds _) fun goons hgoons => ?_
    refine Finds.bind (Pool.leadAndDreamboat_finds _) fun r hr => ?_
    exact Finds.pure ⟨⟨hr, hgoons⟩, rfl⟩
  | awkwardTension | romanticTension | romanticResolution =>
    refine Finds.bind (Pool.leadAndDreamboat_finds _) fun r hr => ?_
    exact Finds.pure ⟨hr, rfl⟩
  | contemplateItem =>
    refine Finds.bind (Pool.protagonistAndOthers_finds _ _) fun r hr => ?_
    refine Finds.bind (present_finds _) fun place hplace => ?_
    refine Finds.bind (choose_finds _) fun item hitem => ?_
    obtain ⟨hnearby, htakeable⟩ := List.mem_filter.1 hitem
    exact Finds.pure ⟨⟨hr.1, place, hplace, hnearby, htakeable⟩, rfl⟩
  | drone =>
    refine Finds.bind (present_finds _) fun place hplace => ?_
    refine Finds.bind (require_finds _) fun _ hdrones => ?_
    refine Finds.bind (Pool.protagonistAndOthers_finds _ _) fun r hr => ?_
    exact Finds.pure ⟨⟨hr.1, place, hplace, hdrones⟩, rfl⟩

/-- A rule is assigned only parts that may be taken. -/
theorem assign_yields (w : World) (rule : Rule) (hole : PlotNode) (away : Roster) :
    Yields I (fun o => ∀ a, o = some a →
        a.rule = rule ∧ ∃ here, hole.setting? = some here ∧ Assigned w away hole here a)
      (assign w rule hole away) := by
  unfold assign
  cases hole.setting? with
  | none => exact Yields.pure fun _ ha => (Option.some_ne_none _ ha.symm).elim
  | some here =>
    refine Yields.imp (assignIn_finds w away rule hole here) fun o ho a ha => ?_
    obtain ⟨hassigned, hrule⟩ := ho a ha
    exact ⟨hrule, here, rfl, hassigned⟩

end Drawing

end SpaceOpera
