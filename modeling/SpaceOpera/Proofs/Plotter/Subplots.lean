import SpaceOpera.Plotter.Expansion
import SpaceOpera.Proofs.Plot.Staged
import SpaceOpera.Proofs.Plotter.Assignments

/-!
# What a subplot holds

`Stages` lists, for each assignment, the nodes that may take the place of the hole; which of them it is
only the draws decide.  Parts that may be taken are always staged (`subplotIn_ends`), and whoever a
subplot takes away was there before and is there again behind it (`Stages.nested`).  What a subplot tells,
whoever takes part, is one of the outlines of its rule (`Stages.outline`).
-/

namespace SpaceOpera

/-! ## Staging -/

/-- Who recovers an item: the heroine where she is there, and else the one who lost it. -/
def Recovers (protagonists : List Object) (loser recoverer : Object) : Prop :=
  recoverer ∈ protagonists.filter Object.isLead ∨
    protagonists.filter Object.isLead = [] ∧ recoverer = loser

/-- The two in one order or the other. -/
def InSomeOrder (lead dreamboat one other : Object) : Prop :=
  (one = lead ∧ other = dreamboat) ∨ (one = dreamboat ∧ other = lead)

/-- The nodes that may stand in the setting `here` for an assignment. -/
def Stages (w : World) (here : Object) : Assignment → List PlotNode → Prop
  | .kidnapping villain abductee others lair, cs =>
    ∃ h h', cs = Subplot.kidnapping here lair villain abductee (.group ⟨others, h⟩)
      (.group ⟨others ++ [abductee], h'⟩)
  | .findAbductee protagonists abductee location, cs =>
    ∃ h, cs = Subplot.findAbductee here abductee location (.group ⟨protagonists, h⟩)
  | .findAnotherWay protagonists outside, cs =>
    ∃ h, cs = Subplot.findAnotherWay here outside (.group ⟨protagonists, h⟩)
  | .lostItem loser protagonists item, cs =>
    ∃ recoverer h h', Recovers protagonists loser recoverer ∧
      cs = Subplot.lostItem here loser recoverer item (.group ⟨without protagonists loser, h⟩)
        (.group ⟨without protagonists recoverer, h'⟩)
  | .caveIn trapped others, cs => ∃ h, cs = Subplot.caveIn here trapped (.group ⟨others, h⟩)
  | .goonSkirmish protagonists goons, cs =>
    ∃ met h, ∃ sender ∈ w.antagonists,
      cs = Subplot.goonSkirmish here goons sender met (.group ⟨protagonists, h⟩)
  | .protagonistAttack protagonists goons, cs =>
    ∃ h, cs = Subplot.combat .protagonistAttack here goons (.group ⟨protagonists, h⟩)
  | .awkwardCombat lead dreamboat goons, cs =>
    ∃ h, cs = Subplot.combat .awkwardCombat here goons (.group ⟨[lead, dreamboat], h⟩)
  | .awkwardTension lead dreamboat, cs =>
    ∃ one other, InSomeOrder lead dreamboat one other ∧
      cs = Subplot.encounter .awkwardTension Rule.afterAwkwardness here one other
  | .romanticTension lead dreamboat, cs =>
    ∃ one other, InSomeOrder lead dreamboat one other ∧
      cs = Subplot.encounter .romanticTension Rule.afterRomance here one other
  | .romanticResolution lead dreamboat, cs =>
    cs = Subplot.romanticResolution here lead dreamboat
  | .contemplateItem contemplator item, cs =>
    cs = Subplot.encounter .contemplateItem Rule.afterContemplation here contemplator item
  | .drone startled, cs => cs = Subplot.drone here startled

theorem Recovers.mem {cast : List Object} {loser recoverer : Object} (h : Recovers cast loser recoverer)
    (hloser : loser ∈ cast) : recoverer ∈ cast := by
  rcases h with hlead | ⟨-, rfl⟩
  · exact (List.mem_filter.1 hlead).1
  · exact hloser

theorem Couple.mem_of_inSomeOrder {cast : List Object} {lead dreamboat one other : Object}
    (h : Couple cast lead dreamboat) (horder : InSomeOrder lead dreamboat one other) :
    one ∈ cast ∧ other ∈ cast := by
  rcases horder with ⟨rfl, rfl⟩ | ⟨rfl, rfl⟩
  · exact ⟨h.lead_mem, h.dreamboat_mem⟩
  · exact ⟨h.dreamboat_mem, h.lead_mem⟩

/-! ## Parts are always staged -/

/-- Where someone is not alone, nobody is. -/
theorem without_ne_nil {cast : List Object} {a b : Object} (ha : a ∈ cast)
    (hothers : without cast a ≠ []) : without cast b ≠ [] := by
  obtain ⟨c, hc⟩ := List.exists_mem_of_ne_nil _ hothers
  obtain ⟨hc, hca⟩ := mem_without.1 hc
  cases hab : a == b
  · exact List.ne_nil_of_mem (mem_without.2 ⟨ha, hab⟩)
  · refine List.ne_nil_of_mem (mem_without.2 ⟨hc, ?_⟩)
    rw [← BEq.congr_right hab]
    exact hca

section Staging

variable {I : Context → Prop} {E : PlotError → Prop} {w : World} {away : Roster}
  {hole : PlotNode} {here : Object} {a : Assignment}

theorem formGroup_ends {members : List Object} (h : members ≠ []) :
    Ends I E (· = .group ⟨members, h⟩) (liftM (formGroup members) : Attempt PlotError Value) :=
  Ends.liftExcept (by rw [formGroup_eq_ok h]; rfl)

variable [Lasting I]

theorem rollPair_yields (lead dreamboat : Object) :
    Yields I (fun r => InSomeOrder lead dreamboat r.1 r.2) (rollPair lead dreamboat) := by
  unfold rollPair
  refine Yields.bind (Roll.chance_yields 33) fun first _ => ?_
  split
  · exact Yields.pure (Or.inl ⟨rfl, rfl⟩)
  · exact Yields.pure (Or.inr ⟨rfl, rfl⟩)

theorem subplotIn_ends (h : Assigned w away hole here a) :
    Ends I E (Stages w here a) (subplotIn w here a) := by
  cases a with
  | kidnapping villain abductee others lair =>
    obtain ⟨-, -, hchosen, rfl⟩ := h
    refine Ends.bind (formGroup_ends hchosen.others) fun bystanders hbystanders => ?_
    refine Ends.bind (formGroup_ends (List.append_ne_nil_of_left_ne_nil hchosen.others _))
      fun everyone heveryone => ?_
    subst hbystanders heveryone
    exact Ends.pure ⟨_, _, rfl⟩
  | findAbductee protagonists abductee location =>
    refine Ends.bind (formGroup_ends h.2.1) fun party hparty => ?_
    subst hparty
    exact Ends.pure ⟨_, rfl⟩
  | findAnotherWay protagonists outside =>
    refine Ends.bind (formGroup_ends h.2.1) fun party hparty => ?_
    subst hparty
    exact Ends.pure ⟨_, rfl⟩
  | lostItem loser protagonists item =>
    obtain ⟨rfl, hloser, -⟩ := h
    refine Ends.bind (Ends.drawn (Roll.choose_yields _)) fun lead hlead => ?_
    have hrecovers : Recovers (w.present away) loser (lead.getD loser) := by
      split at hlead
      · subst hlead
        exact Or.inr ⟨‹_›, rfl⟩
      · obtain ⟨recoverer, hmem, rfl⟩ := hlead
        exact Or.inl hmem
    refine Ends.bind (formGroup_ends hloser.others) fun losing hlosing => ?_
    refine Ends.bind (formGroup_ends (without_ne_nil hloser.mem hloser.others))
      fun recovering hrecovering => ?_
    subst hlosing hrecovering
    exact Ends.pure ⟨_, _, _, hrecovers, rfl⟩
  | caveIn trapped others =>
    obtain ⟨-, hchosen, rfl⟩ := h
    refine Ends.bind (formGroup_ends hchosen.others) fun bystanders hbystanders => ?_
    subst hbystanders
    exact Ends.pure ⟨_, rfl⟩
  | goonSkirmish protagonists goons =>
    obtain ⟨-, hantagonists, -, hprotagonists, -⟩ := h
    refine Ends.bind (Ends.drawn (Roll.chance_yields 50)) fun met _ => ?_
    refine Ends.bind (Ends.drawn (Roll.choose_yields _)) fun sender hsender => ?_
    rw [if_neg hantagonists] at hsender
    obtain ⟨sender, hmem, rfl⟩ := hsender
    refine Ends.bind (formGroup_ends hprotagonists) fun party hparty => ?_
    subst hparty
    exact Ends.pure ⟨_, _, sender, hmem, rfl⟩
  | protagonistAttack protagonists goons =>
    refine Ends.bind (formGroup_ends h.2.1) fun party hparty => ?_
    subst hparty
    exact Ends.pure ⟨_, rfl⟩
  | awkwardCombat lead dreamboat goons =>
    refine Ends.bind (formGroup_ends (List.cons_ne_nil _ _)) fun pair hpair => ?_
    subst hpair
    exact Ends.pure ⟨_, rfl⟩
  | awkwardTension lead dreamboat | romanticTension lead dreamboat =>
    refine Ends.bind (Ends.drawn (rollPair_yields lead dreamboat)) fun r hr => ?_
    exact Ends.pure ⟨r.1, r.2, hr, rfl⟩
  | romanticResolution lead dreamboat | contemplateItem contemplator item | drone startled =>
    exact Ends.pure rfl

end Staging

/-! ## Markers of a subplot -/

/-- Either no node has markers, or one takes away someone or something that is there and one behind it brings
them back; some protagonist is left whatever else goes by that name. -/
inductive Bracketed (w : World) (away : Roster) : List PlotNode → Prop
  | unmarked {ns : List PlotNode} (h : ∀ n ∈ ns, n.Unmarked) : Bracketed w away ns
  | scope {o : Object} {n m : PlotNode} {inner ns : List PlotNode} (hn : n.Opens o)
      (ho : away.contains o = false) (hinner : ∀ k ∈ inner, k.Unmarked) (hm : m.Closes o)
      (hns : ∀ k ∈ ns, k.Unmarked) (hleft : w.present (away.insert o) ≠ []) :
      Bracketed w away (n :: (inner ++ m :: ns))

section Markers

variable {w : World} {away : Roster} {hole : PlotNode} {here o x : Object} {a : Assignment}
  {cs : List PlotNode}

theorem mem_present_insert (h : o ∈ w.present away) (hox : (o == x) = false) :
    o ∈ w.present (away.insert x) := by
  obtain ⟨hmem, hthere⟩ := mem_availableOf.1 h
  refine mem_availableOf.2 ⟨hmem, ?_⟩
  rw [Roster.contains_insert, hox, hthere]
  rfl

/-- Where one of several who are there is chosen, somebody is left whatever name is struck out. -/
theorem Chosen.present_insert {fits : Object → Bool} (h : Chosen (w.present away) fits o)
    (x : Object) : w.present (away.insert x) ≠ [] := by
  obtain ⟨b, hb⟩ := List.exists_mem_of_ne_nil _ h.others
  obtain ⟨hb, hbo⟩ := mem_without.1 hb
  cases hox : o == x with
  | false => exact List.ne_nil_of_mem (mem_present_insert h.mem hox)
  | true =>
    refine List.ne_nil_of_mem (mem_present_insert hb ?_)
    rw [← BEq.congr_right hox]
    exact hbo

theorem Stages.bracketed (ha : Assigned w away hole here a) (h : Stages w here a cs) :
    Bracketed w away cs := by
  cases a with
  | kidnapping villain abductee others lair =>
    obtain ⟨-, -, hchosen, -⟩ := ha
    obtain ⟨_, _, rfl⟩ := h
    have habductee := (mem_availableOf.1 hchosen.mem).2
    refine @Bracketed.scope w away abductee _ _ [_, _] _ ⟨rfl, rfl⟩ habductee ?_ ⟨rfl, rfl⟩ nofun
      (hchosen.present_insert abductee)
    exact List.forall_mem_cons.2 ⟨⟨rfl, rfl⟩, List.forall_mem_singleton.2 ⟨rfl, rfl⟩⟩
  | lostItem loser protagonists item =>
    obtain ⟨-, hchosen, hitem⟩ := ha
    obtain ⟨_, _, _, -, rfl⟩ := h
    have hthere := (mem_availableOf.1 hitem).2
    exact @Bracketed.scope w away item _ _ [_] _ ⟨rfl, rfl⟩ hthere
      (List.forall_mem_singleton.2 ⟨rfl, rfl⟩) ⟨rfl, rfl⟩ nofun (hchosen.present_insert item)
  | caveIn trapped others =>
    obtain ⟨-, hchosen, -⟩ := ha
    obtain ⟨_, rfl⟩ := h
    have htrapped := (mem_availableOf.1 hchosen.mem).2
    exact @Bracketed.scope w away trapped _ _ [_] _ ⟨rfl, rfl⟩ htrapped
      (List.forall_mem_singleton.2 ⟨rfl, rfl⟩) ⟨rfl, rfl⟩
      (List.forall_mem_singleton.2 ⟨rfl, rfl⟩) (hchosen.present_insert trapped)
  | findAbductee | findAnotherWay | protagonistAttack | awkwardCombat =>
    obtain ⟨_, rfl⟩ := h
    refine .unmarked (List.forall_mem_cons.2 ⟨⟨rfl, rfl⟩, ?_⟩)
    exact List.forall_mem_singleton.2 ⟨rfl, rfl⟩
  | goonSkirmish =>
    obtain ⟨_, _, _, -, rfl⟩ := h
    refine .unmarked (List.forall_mem_cons.2 ⟨⟨rfl, rfl⟩, ?_⟩)
    exact List.forall_mem_cons.2 ⟨⟨rfl, rfl⟩, List.forall_mem_singleton.2 ⟨rfl, rfl⟩⟩
  | awkwardTension | romanticTension =>
    obtain ⟨_, _, -, rfl⟩ := h
    refine .unmarked (List.forall_mem_cons.2 ⟨⟨rfl, rfl⟩, ?_⟩)
    exact List.forall_mem_singleton.2 ⟨rfl, rfl⟩
  | romanticResolution =>
    subst h
    exact .unmarked (List.forall_mem_singleton.2 ⟨rfl, rfl⟩)
  | contemplateItem | drone =>
    subst h
    refine .unmarked (List.forall_mem_cons.2 ⟨⟨rfl, rfl⟩, ?_⟩)
    exact List.forall_mem_singleton.2 ⟨rfl, rfl⟩

/-- Whoever a subplot takes away was there before it, and is there again behind it. -/
theorem Stages.nested (ha : Assigned w away hole here a) (h : Stages w here a cs) :
    Nested away cs := by
  cases h.bracketed ha with
  | unmarked h => exact .of_unmarked h
  | scope hn ho hinner hm hns _ => exact .scope hn ho (.of_unmarked hinner) hm (.of_unmarked hns)

end Markers

/-! ## Outlines -/

/-- What a subplot of the rule may tell, in order, with nothing for the holes that it leaves. -/
def Rule.outlines : Rule → List (List (Option Development))
  | kidnapping => [[some .kidnapping, none, none, some .rescue]]
  | findAbductee => [[some .locateAbductee, none]]
  | findAnotherWay => [[some .wayBlocked, none]]
  | lostItem => [[some .loseItem, none, some .recoverItem]]
  | caveIn => [[some .trappedInRubble, none, some .extractedFromRubble, none]]
  | goonSkirmish =>
    [[some .goonEncounter, none, some .vanquished], [some .goonAmbush, none, some .vanquished]]
  | protagonistAttack => [[none, some .protagonistAttack]]
  | awkwardCombat => [[none, some .awkwardCombat]]
  | awkwardTension => [[some .awkwardTension, none]]
  | romanticTension => [[some .romanticTension, none]]
  | romanticResolution => [[some .romanticResolution]]
  | contemplateItem => [[some .contemplateItem, none]]
  | drone => [[some .drone, none]]

/-- The rule that alone makes the development happen. -/
def Development.rule? : Development → Option Rule
  | kidnapping | rescue => some .kidnapping
  | locateAbductee => some .findAbductee
  | wayBlocked => some .findAnotherWay
  | loseItem | recoverItem | itemForeshadowed | itemRecalled => some .lostItem
  | trappedInRubble | extractedFromRubble => some .caveIn
  | goonAmbush | goonEncounter | vanquished => some .goonSkirmish
  | protagonistAttack => some .protagonistAttack
  | awkwardCombat => some .awkwardCombat
  | awkwardTension => some .awkwardTension
  | romanticTension => some .romanticTension
  | romanticResolution => some .romanticResolution
  | contemplateItem => some .contemplateItem
  | drone => some .drone
  | introduction | convalescence | allLaugh | journey | encounterNewSetting => none

theorem Rule.outlines_rule?_eq (r : Rule) :
    ∀ outline ∈ r.outlines, ∀ told ∈ outline, ∀ d ∈ told, d.rule? = some r := by
  cases r <;> decide

section Outlines

variable {w : World} {here : Object} {a : Assignment} {cs : List PlotNode} {c : PlotNode} {d : Development}

theorem Stages.outline (h : Stages w here a cs) : cs.map Node.development? ∈ a.rule.outlines := by
  cases a with
  | kidnapping =>
    obtain ⟨_, _, rfl⟩ := h
    exact List.mem_singleton_self _
  | findAbductee | findAnotherWay | caveIn | protagonistAttack | awkwardCombat =>
    obtain ⟨_, rfl⟩ := h
    exact List.mem_singleton_self _
  | lostItem =>
    obtain ⟨_, _, _, -, rfl⟩ := h
    exact List.mem_singleton_self _
  | goonSkirmish =>
    obtain ⟨met, _, _, -, rfl⟩ := h
    cases met with
    | true => exact List.mem_cons_self
    | false => exact List.mem_cons_of_mem _ (List.mem_singleton_self _)
  | awkwardTension | romanticTension =>
    obtain ⟨_, _, -, rfl⟩ := h
    exact List.mem_singleton_self _
  | romanticResolution | contemplateItem | drone =>
    subst h
    exact List.mem_singleton_self _

/-- The developments of a subplot come of its rule. -/
theorem Stages.rule?_eq (h : Stages w here a cs) (hc : c ∈ cs) (hd : c.development? = some d) :
    d.rule? = some a.rule :=
  a.rule.outlines_rule?_eq _ h.outline _ (List.mem_map_of_mem hc) d hd

end Outlines

/-! ## Beginnings -/

/-- A subplot begins in the setting of its hole, and so does the first thing that it tells. -/
theorem Stages.begins {w : World} {here : Object} {a : Assignment} {cs : List PlotNode}
    (h : Stages w here a cs) : ∃ c rest, cs = c :: rest ∧ c.setting? = some here ∧
      (c.isHole = true → ∃ d rest', rest = d :: rest' ∧ d.setting? = some here ∧ d.isHole = false) := by
  cases a with
  | kidnapping =>
    obtain ⟨_, _, rfl⟩ := h
    exact ⟨_, _, rfl, rfl, by rintro ⟨⟩⟩
  | findAbductee | findAnotherWay | caveIn =>
    obtain ⟨_, rfl⟩ := h
    exact ⟨_, _, rfl, rfl, by rintro ⟨⟩⟩
  | lostItem | goonSkirmish =>
    obtain ⟨_, _, _, -, rfl⟩ := h
    exact ⟨_, _, rfl, rfl, by rintro ⟨⟩⟩
  | protagonistAttack | awkwardCombat =>
    obtain ⟨_, rfl⟩ := h
    exact ⟨_, _, rfl, rfl, fun _ => ⟨_, _, rfl, rfl, rfl⟩⟩
  | awkwardTension | romanticTension =>
    obtain ⟨_, _, -, rfl⟩ := h
    exact ⟨_, _, rfl, rfl, by rintro ⟨⟩⟩
  | romanticResolution | contemplateItem | drone =>
    subst h
    exact ⟨_, _, rfl, rfl, by rintro ⟨⟩⟩

/-! ## Nodes of a subplot -/

theorem Stages.staged {w : World} {here : Object} {a : Assignment} {cs : List PlotNode}
    (h : Stages w here a cs) : ∀ c ∈ cs, Staged c := by
  cases a with
  | kidnapping villain abductee others lair =>
    obtain ⟨hothers, _, rfl⟩ := h
    simp only [Subplot.kidnapping, List.forall_mem_cons, List.not_mem_nil, false_implies,
      implies_true, and_true]
    refine ⟨?_, ?_, .hole _ _, ?_⟩
    · exact .told rfl rfl rfl rfl (List.cons_ne_nil _ _) rfl rfl
    · exact .of_hole rfl rfl rfl rfl ⟨rfl, rfl⟩
    · exact .of_development rfl rfl rfl rfl hothers (fun _ => ⟨abductee, rfl, rfl⟩) (by rintro ⟨⟩)
  | findAbductee protagonists abductee location =>
    obtain ⟨hparty, rfl⟩ := h
    simp only [Subplot.findAbductee, List.forall_mem_cons, List.not_mem_nil, false_implies,
      implies_true, and_true]
    exact ⟨.told rfl rfl rfl rfl hparty rfl rfl, .hole _ _⟩
  | findAnotherWay protagonists outside =>
    obtain ⟨hparty, rfl⟩ := h
    simp only [Subplot.findAnotherWay, List.forall_mem_cons, List.not_mem_nil, false_implies,
      implies_true, and_true]
    exact ⟨.told rfl rfl rfl rfl hparty rfl rfl, .hole _ _⟩
  | lostItem loser protagonists item =>
    obtain ⟨recoverer, _, _, -, rfl⟩ := h
    simp only [Subplot.lostItem, List.forall_mem_cons, List.not_mem_nil, false_implies,
      implies_true, and_true]
    refine ⟨?_, .hole _ _, ?_⟩
    · exact .told rfl rfl rfl rfl (List.cons_ne_nil _ _) rfl rfl
    · exact .of_development rfl rfl rfl rfl (List.cons_ne_nil _ _) (fun _ => ⟨item, rfl, rfl⟩)
        (by rintro ⟨⟩)
  | caveIn trapped others =>
    obtain ⟨hothers, rfl⟩ := h
    simp only [Subplot.caveIn, List.forall_mem_cons, List.not_mem_nil, false_implies,
      implies_true, and_true]
    refine ⟨?_, .hole _ _, ?_, .hole _ _⟩
    · exact .told rfl rfl rfl rfl (List.cons_ne_nil _ _) rfl rfl
    · exact .told rfl rfl rfl rfl hothers rfl rfl
  | goonSkirmish protagonists goons =>
    obtain ⟨met, hparty, sender, -, rfl⟩ := h
    simp only [Subplot.goonSkirmish, List.forall_mem_cons, List.not_mem_nil, false_implies,
      implies_true, and_true]
    refine ⟨?_, .hole_goons _ _ _, ?_⟩
    · cases met <;> exact .told rfl rfl rfl rfl hparty rfl rfl
    · exact .told rfl rfl rfl rfl hparty rfl rfl
  | protagonistAttack protagonists goons | awkwardCombat lead dreamboat goons =>
    obtain ⟨hparty, rfl⟩ := h
    simp only [Subplot.combat, List.forall_mem_cons, List.not_mem_nil, false_implies,
      implies_true, and_true]
    exact ⟨.hole_goons _ _ _, .told rfl rfl rfl rfl hparty rfl rfl⟩
  | awkwardTension lead dreamboat =>
    obtain ⟨one, other, -, rfl⟩ := h
    simp only [Subplot.encounter, List.forall_mem_cons, List.not_mem_nil, false_implies,
      implies_true, and_true]
    exact ⟨.of_development rfl rfl rfl rfl (List.cons_ne_nil _ _) (by rintro ⟨⟩) fun _ => ⟨rfl, rfl⟩,
      .hole _ _⟩
  | romanticTension lead dreamboat =>
    obtain ⟨one, other, -, rfl⟩ := h
    simp only [Subplot.encounter, List.forall_mem_cons, List.not_mem_nil, false_implies,
      implies_true, and_true]
    exact ⟨.told rfl rfl rfl rfl (List.cons_ne_nil _ _) rfl rfl, .hole _ _⟩
  | romanticResolution lead dreamboat =>
    subst h
    simp only [Subplot.romanticResolution, List.forall_mem_cons, List.not_mem_nil, false_implies,
      implies_true, and_true]
    exact .told rfl rfl rfl rfl (List.cons_ne_nil _ _) rfl rfl
  | contemplateItem contemplator item =>
    subst h
    simp only [Subplot.encounter, List.forall_mem_cons, List.not_mem_nil, false_implies,
      implies_true, and_true]
    exact ⟨.told rfl rfl rfl rfl (List.cons_ne_nil _ _) rfl rfl, .hole _ _⟩
  | drone startled =>
    subst h
    simp only [Subplot.drone, List.forall_mem_cons, List.not_mem_nil, false_implies,
      implies_true, and_true]
    exact ⟨.told rfl rfl rfl rfl (List.cons_ne_nil _ _) rfl rfl, .hole _ _⟩

end SpaceOpera
