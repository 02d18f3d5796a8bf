import Mathlib.Data.List.Pairwise
import SpaceOpera.Proofs.Plotter.Growth

/-!
# Who is there when a plot needs them

On a world whose names tell its objects apart, nobody acts or looks on in a development of an expanded plot
while they are away, the heroines are always there, and somebody is.  The scopes in which someone is away
are nested like brackets (`expand_staffed`).  The parts of a subplot are given out when it is put in; what
is put into its holes later brings everyone back before it ends, so the parts stay filled.
-/

namespace SpaceOpera

/-- The protagonists differ in names from each other and from whatever else may be taken away or act. -/
structure World.Distinct (w : World) : Prop where
  protagonists : w.protagonists.Pairwise fun a b => (a == b) = false
  others : ∀ o ∈ w.protagonists, ∀ x ∈ w.macguffins ++ w.antagonists, (o == x) = false

/-- Every heroine is there, and at least one of the protagonists is. -/
structure Staffed (w : World) (away : Roster) : Prop where
  leads : ∀ o ∈ w.protagonists, o.isLead = true → away.contains o = false
  someone : ∃ o ∈ w.protagonists, away.contains o = false

/-- No protagonist of this name is away. -/
def IsThere (w : World) (away : Roster) (m : Object) : Prop :=
  ∀ o ∈ w.protagonists, (o == m) = true → away.contains o = false

/-- At a staffed point, everyone who acts or looks on is there. -/
structure Fair (w : World) (away : Roster) (n : PlotNode) : Prop extends Staffed w away where
  subjects : ∀ m ∈ n.membersOf .subject, IsThere w away m
  bystanders : ∀ m ∈ n.membersOf .bystanders, IsThere w away m

section Presence

variable {w : World} {away : Roster} {o m x : Object}

theorem World.Distinct.eq_of_beq (hw : w.Distinct) (ho : o ∈ w.protagonists)
    (hm : m ∈ w.protagonists) (h : (o == m) = true) : o = m := by
  by_contra hne
  have : Std.Symm fun a b : Object => (a == b) = false := ⟨fun _ _ hab => BEq.comm.trans hab⟩
  have hapart := hw.protagonists.forall ho hm hne
  exact absurd (hapart.symm.trans h) Bool.false_ne_true

theorem isThere_of_present (hm : m ∈ w.present away) : IsThere w away m := by
  intro o _ hom
  rw [Roster.contains_congr away hom]
  exact (mem_availableOf.1 hm).2

theorem isThere_of_antagonist (hw : w.Distinct) (hm : m ∈ w.antagonists) : IsThere w away m := by
  intro o ho hom
  have hapart := hw.others o ho m (List.mem_append_right _ hm)
  exact absurd (hapart.symm.trans hom) Bool.false_ne_true

/-- Those who are left when one of those present is taken away. -/
theorem isThere_of_without (hm : m ∈ without (w.present away) x) :
    IsThere w (away.insert x) m := by
  intro o ho hom
  obtain ⟨hm, hmx⟩ := mem_without.1 hm
  rw [Roster.contains_insert, isThere_of_present hm o ho hom, BEq.congr_left hom, hmx]
  rfl

/-- An item that is lost takes nobody away. -/
theorem IsThere.insert_macguffin (hw : w.Distinct) (h : IsThere w away m)
    (hx : x ∈ w.macguffins) : IsThere w (away.insert x) m := by
  intro o ho hom
  rw [Roster.contains_insert, h o ho hom, hw.others o ho x (List.mem_append_left _ hx)]
  rfl

namespace Staffed

/-- Taking one away who is no heroine leaves the others. -/
theorem insert (hw : w.Distinct) (h : Staffed w away)
    (hx : Chosen (w.present away) (!·.isLead) x) : Staffed w (away.insert x) := by
  obtain ⟨hxmem, -⟩ := mem_availableOf.1 hx.mem
  constructor
  · intro o ho hlead
    have hox : (o == x) = false := by
      by_contra hsame
      rw [hw.eq_of_beq ho hxmem (by simpa using hsame)] at hlead
      simpa [hlead] using hx.fits
    rw [Roster.contains_insert, h.leads o ho hlead, hox]
    rfl
  · obtain ⟨m, hm⟩ := List.exists_mem_of_ne_nil _ hx.others
    obtain ⟨hpresent, -⟩ := mem_without.1 hm
    obtain ⟨hmem, -⟩ := mem_availableOf.1 hpresent
    exact ⟨m, hmem, isThere_of_without hm m hmem BEq.rfl⟩

theorem insert_macguffin (hw : w.Distinct) (h : Staffed w away) (hx : x ∈ w.macguffins) :
    Staffed w (away.insert x) := by
  have hkept : ∀ o ∈ w.protagonists, away.contains o = false →
      (away.insert x).contains o = false := by
    intro o ho haway
    rw [Roster.contains_insert, haway, hw.others o ho x (List.mem_append_left _ hx)]
    rfl
  obtain ⟨o, ho, haway⟩ := h.someone
  exact ⟨fun o ho hlead => hkept o ho (h.leads o ho hlead), o, ho, hkept o ho haway⟩

theorem empty (h : w.protagonists ≠ []) : Staffed w {} := by
  obtain ⟨o, ho⟩ := List.exists_mem_of_ne_nil _ h
  exact ⟨fun _ _ _ => rfl, o, ho, rfl⟩

/-- Nobody takes part in a hole. -/
theorem hole {n : PlotNode} (h : Staffed w away) (hs : n.membersOf .subject = [])
    (hb : n.membersOf .bystanders = []) : Fair w away n :=
  ⟨h, by simp [hs], by simp [hb]⟩

end Staffed

/-! ## Subplots are fair -/

theorem Fair.one {n : PlotNode} (h : Staffed w away) (hs : n.membersOf .subject = [m])
    (hm : IsThere w away m) (hb : ∀ k ∈ n.membersOf .bystanders, IsThere w away k) :
    Fair w away n :=
  ⟨h, by simpa [hs] using hm, hb⟩

theorem Stages.fair {hole : PlotNode} {here : Object} {a : Assignment} {cs : List PlotNode}
    (hw : w.Distinct) (hs : Staffed w away) (ha : Assigned w away hole here a)
    (h : Stages w here a cs) : Along (Fair w) away cs := by
  have hpresent : ∀ m ∈ w.present away, IsThere w away m := fun m => isThere_of_present
  have hnone : ∀ m ∈ ([] : List Object), IsThere w away m := nofun
  cases a with
  | kidnapping villain abductee others lair =>
    obtain ⟨hvillain, -, habductee, rfl⟩ := ha
    obtain ⟨_, _, rfl⟩ := h
    have hin := hs.insert hw habductee
    have hothers : ∀ m ∈ without (w.present away) abductee, IsThere w away m :=
      fun m hm => hpresent m (mem_without.1 hm).1
    refine Along.cons ?_ (Node.Opens.track (o := abductee) ⟨rfl, rfl⟩) ?_
    · exact .one hs rfl (isThere_of_antagonist hw hvillain) hothers
    refine .beside (hin.hole rfl rfl) ⟨rfl, rfl⟩ (.beside (hin.hole rfl rfl) ⟨rfl, rfl⟩ ?_)
    refine Along.cons ?_ (Node.Closes.track ⟨rfl, rfl⟩ (Roster.contains_insert_self _ _)) trivial
    exact ⟨hin, fun m => isThere_of_without, nofun⟩
  | findAbductee protagonists abductee location =>
    obtain ⟨rfl, -⟩ := ha
    obtain ⟨_, rfl⟩ := h
    refine .beside ⟨hs, hpresent, hnone⟩ ⟨rfl, rfl⟩ ?_
    exact .beside (hs.hole rfl rfl) ⟨rfl, rfl⟩ trivial
  | findAnotherWay protagonists outside =>
    obtain ⟨rfl, -⟩ := ha
    obtain ⟨_, rfl⟩ := h
    refine .beside ⟨hs, hpresent, hnone⟩ ⟨rfl, rfl⟩ ?_
    exact .beside (hs.hole rfl rfl) ⟨rfl, rfl⟩ trivial
  | lostItem loser protagonists item =>
    obtain ⟨rfl, hloser, hitem⟩ := ha
    obtain ⟨recoverer, _, _, hrecovers, rfl⟩ := h
    have hitem := (mem_availableOf.1 hitem).1
    have hin := hs.insert_macguffin hw hitem
    have hrecoverer := hrecovers.mem hloser.mem
    have hothers : ∀ x, ∀ m ∈ without (w.present away) x, IsThere w away m :=
      fun x m hm => hpresent m (mem_without.1 hm).1
    refine Along.cons ?_ (Node.Opens.track (o := item) ⟨rfl, rfl⟩) ?_
    · exact .one hs rfl (hpresent loser hloser.mem) (hothers loser)
    refine .beside (hin.hole rfl rfl) ⟨rfl, rfl⟩ ?_
    refine Along.cons ?_ (Node.Closes.track ⟨rfl, rfl⟩ (Roster.contains_insert_self _ _)) trivial
    refine .one hin rfl ((hpresent recoverer hrecoverer).insert_macguffin hw hitem) ?_
    exact fun m hm => (hothers recoverer m hm).insert_macguffin hw hitem
  | caveIn trapped others =>
    obtain ⟨-, htrapped, rfl⟩ := ha
    obtain ⟨_, rfl⟩ := h
    have hin := hs.insert hw htrapped
    refine Along.cons ?_ (Node.Opens.track (o := trapped) ⟨rfl, rfl⟩) ?_
    · exact .one hs rfl (hpresent trapped htrapped.mem)
        fun m hm => hpresent m (mem_without.1 hm).1
    refine .beside (hin.hole rfl rfl) ⟨rfl, rfl⟩ ?_
    refine Along.cons ?_ (Node.Closes.track ⟨rfl, rfl⟩ (Roster.contains_insert_self _ _)) ?_
    · exact ⟨hin, fun m => isThere_of_without, nofun⟩
    rw [Roster.erase_insert (mem_availableOf.1 htrapped.mem).2]
    exact .beside (hs.hole rfl rfl) ⟨rfl, rfl⟩ trivial
  | goonSkirmish protagonists goons =>
    obtain ⟨-, -, rfl, -⟩ := ha
    obtain ⟨met, _, _, -, rfl⟩ := h
    refine .beside ⟨hs, hpresent, hnone⟩ ⟨rfl, rfl⟩ ?_
    refine .beside (hs.hole rfl rfl) ⟨rfl, rfl⟩ ?_
    exact .beside ⟨hs, hpresent, hnone⟩ ⟨rfl, rfl⟩ trivial
  | protagonistAttack protagonists goons =>
    obtain ⟨rfl, -⟩ := ha
    obtain ⟨_, rfl⟩ := h
    refine .beside (hs.hole rfl rfl) ⟨rfl, rfl⟩ ?_
    exact .beside ⟨hs, hpresent, hnone⟩ ⟨rfl, rfl⟩ trivial
  | awkwardCombat lead dreamboat goons =>
    obtain ⟨hpair, -⟩ := ha
    obtain ⟨_, rfl⟩ := h
    refine .beside (hs.hole rfl rfl) ⟨rfl, rfl⟩ ?_
    refine .beside ⟨hs, fun m hm => hpresent m ?_, hnone⟩ ⟨rfl, rfl⟩ trivial
    rcases List.mem_pair.1 hm with rfl | rfl
    · exact hpair.lead_mem
    · exact hpair.dreamboat_mem
  | awkwardTension lead dreamboat | romanticTension lead dreamboat =>
    obtain ⟨one, other, horder, rfl⟩ := h
    have ha : Couple (w.present away) lead dreamboat := ha
    obtain ⟨hone, -⟩ := ha.mem_of_inSomeOrder horder
    refine .beside (.one hs rfl (hpresent one hone) hnone) ⟨rfl, rfl⟩ ?_
    exact .beside (hs.hole rfl rfl) ⟨rfl, rfl⟩ trivial
  | romanticResolution lead dreamboat =>
    subst h
    exact .beside (.one hs rfl (hpresent dreamboat ha.dreamboat_mem) hnone) ⟨rfl, rfl⟩ trivial
  | contemplateItem contemplator item =>
    subst h
    refine .beside (.one hs rfl (hpresent contemplator ha.1.mem) hnone) ⟨rfl, rfl⟩ ?_
    exact .beside (hs.hole rfl rfl) ⟨rfl, rfl⟩ trivial
  | drone startled =>
    subst h
    refine .beside (.one hs rfl (hpresent startled ha.1.mem) hnone) ⟨rfl, rfl⟩ ?_
    exact .beside (hs.hole rfl rfl) ⟨rfl, rfl⟩ trivial

end Presence

/-! ## Expanded plots are fair -/

theorem Expanded.fair {p : Plotter} {home : Object} {cast : Group} {ms : List PlotNode}
    (hw : p.world.Distinct) (h : Expanded p home cast ms) : Along (Fair p.world) {} ms := by
  have hempty : Staffed p.world {} := .empty (h.cast_eq ▸ cast.nonempty)
  refine h.along ?_ ?_
  · simp only [seedNodes, List.forall_mem_cons, List.not_mem_nil, false_implies, implies_true,
      and_true]
    have hnobody : ∀ m, IsThere p.world {} m := fun _ _ _ _ => rfl
    have hnone : ∀ m ∈ ([] : List Object), IsThere p.world {} m := fun m _ => hnobody m
    exact ⟨⟨hempty, fun m _ => hnobody m, hnone⟩, hempty.hole rfl rfl,
      ⟨hempty, fun m _ => hnobody m, hnone⟩, ⟨hempty, fun m _ => hnobody m, hnone⟩⟩
  · rintro away hole cs hhole ⟨_, _, _, -, -, -, -, ha, hcs⟩
    exact hcs.fair hw hhole.toStaffed ha

/-- The object acts or looks on in the node. -/
def Node.TakesPart (n : PlotNode) (o : Object) : Prop :=
  ∃ m ∈ n.membersOf .subject ++ n.membersOf .bystanders, (o == m) = true

theorem Fair.there {w : World} {away : Roster} {n : PlotNode} {o : Object} (h : Fair w away n)
    (ho : o ∈ w.protagonists) (htakes : n.TakesPart o) : away.contains o = false := by
  obtain ⟨m, hm, hom⟩ := htakes
  rcases List.mem_append.1 hm with hm | hm
  · exact h.subjects m hm o ho hom
  · exact h.bystanders m hm o ho hom

/-- In an expanded plot whoever is taken away was there, and is brought back once before they can be
taken away again; nobody takes part in anything while away; at every point the heroines are there, and
so is at least one of the protagonists. -/
theorem expand_staffed (p : Plotter) (hw : p.world.Distinct) (depth : Nat) (n : Narration) :
    (p.world.settings ≠ [] → p.world.protagonists ≠ [] →
      ∃ plot, ((p.expand depth).run.run n).1 = .ok plot) ∧
    ∀ plot, ((p.expand depth).run.run n).1 = .ok plot →
      Nested {} plot.preorder ∧
      (∀ pre m post o, plot.preorder = pre ++ m :: post → m.objectIn .disqualified = some o →
        ∃ away inner k rest, replay pre {} = .ok away ∧ away.contains o = false ∧
          post = inner ++ k :: rest ∧ Nested (away.insert o) inner ∧ k.Closes o ∧
          ∀ i ∈ inner, ¬i.Marks o) ∧
      (∀ pre m post, plot.preorder = pre ++ m :: post → ∃ away, replay pre {} = .ok away ∧
        ∀ o ∈ p.world.protagonists, m.TakesPart o → away.contains o = false) ∧
      ∀ pre post, plot.preorder = pre ++ post → ∃ away, replay pre {} = .ok away ∧
        Staffed p.world away := by
  constructor
  · intro hsettings hcast
    have hnever : ∀ e, p.seedPlot = .error e → False := seedPlot_ne_error hsettings hcast
    obtain ⟨plot, hplot, -⟩ :=
      (expand_ends (I := fun _ => True) hnever depth n trivial).1.ok_of_no_error
    exact ⟨plot, hplot⟩
  · intro plot hplot
    have hends := (expand_ends (I := fun _ => True) (E := fun _ => True) (p := p)
      (fun _ _ => trivial) depth n trivial).1
    rw [hplot] at hends
    obtain ⟨home, cast, ms, rfl, hms⟩ := hends
    have hempty : Staffed p.world {} := .empty (hms.cast_eq ▸ cast.nonempty)
    have hpreorder := preorder_sequence hms.staged
    have hnested : Nested {} (PlotNode.sequence ms).preorder := by
      rw [hpreorder]
      exact .beside ⟨rfl, rfl⟩ hms.nested
    have hfair : Along (Fair p.world) {} (PlotNode.sequence ms).preorder := by
      rw [hpreorder]
      exact .beside (hempty.hole rfl rfl) ⟨rfl, rfl⟩ (hms.fair hw)
    refine ⟨hnested, ?_, ?_, ?_⟩
    · intro pre m post o hsplit hm
      rw [hsplit] at hnested
      obtain ⟨away, inner, k, rest, hr, haway, hpost, hinner, hk⟩ :=
        hnested.scope_of_disqualified hm
      refine ⟨away, inner, k, rest, hr, haway, hpost, hinner, hk, ?_⟩
      exact hinner.not_marks (Roster.contains_insert_self away o)
    · intro pre m post hsplit
      rw [hsplit] at hfair
      obtain ⟨away, hr, -, hm, -⟩ := hfair.split
      exact ⟨away, hr, fun o ho htakes => hm.there ho htakes⟩
    · intro pre post hsplit
      cases post with
      | nil =>
        rw [List.append_nil] at hsplit
        exact ⟨{}, hsplit ▸ hnested.replay, hempty⟩
      | cons m post =>
        rw [hsplit] at hfair
        obtain ⟨away, hr, -, hm, -⟩ := hfair.split
        exact ⟨away, hr, hm.toStaffed⟩

/-- A heroine and a friend, a villain with a lair, and something to lose. -/
def outpost : World :=
  let console := Object.thing ["console"]
  let bridge := Object.ofPlace ["bridge"] { roof := .thing ["ceiling"], nearby := [console] }
  let cave := Object.ofPlace ["cave"]
    { roof := .thing ["roof"], nearby := [console], outside := some bridge }
  { protagonists :=
      [.ofCharacter ["Ada"] ⟨.feminine, .lead, .redhead⟩,
        .ofCharacter ["Bo"] ⟨.masculine, .plain, .redhead⟩]
    antagonists :=
      [{ Object.ofCharacter ["Count Vex"] ⟨.masculine, .villain, .redhead⟩ with home := some cave }]
    goons := [Object.plural (.thing ["space pirates"])]
    macguffins := [.thing ["crystal"]]
    settings := [bridge, cave] }

theorem outpost_distinct : outpost.Distinct :=
  ⟨by decide, by decide⟩

/-- Three rounds at the outpost, without the drones. -/
theorem expand_staffed_outpost :
    outpost.Distinct ∧ ∃ plot,
      (((⟨outpost, [.drone]⟩ : Plotter).expand 3).run.run ⟨.ofSeed 7, #[]⟩).1 = .ok plot ∧
      Nested {} plot.preorder ∧
      ∀ pre post, plot.preorder = pre ++ post → ∃ away, replay pre {} = .ok away ∧
        Staffed outpost away := by
  obtain ⟨hreturns, hplots⟩ :=
    expand_staffed ⟨outpost, [.drone]⟩ outpost_distinct 3 ⟨.ofSeed 7, #[]⟩
  obtain ⟨plot, hplot⟩ := hreturns (List.cons_ne_nil _ _) (List.cons_ne_nil _ _)
  obtain ⟨hnested, -, -, hstaffed⟩ := hplots plot hplot
  exact ⟨outpost_distinct, plot, hplot, hnested, hstaffed⟩

end SpaceOpera
