import SpaceOpera.Proofs.Editor.Lowering

/-!
# The editor keeps the beats of a story

Whatever the editor puts in, takes apart, delays and groups, the beats that a story comes with are told as
often as the story has them and in the order of the story: `edit_keeps_beats`.
-/

namespace SpaceOpera

open List (Forall₂)
open StoryNode (ofEvent scene sequence)

/-- A beat that the editor puts in. -/
def Node.isInserted (n : StoryNode) : Bool :=
  n.event?.any Event.isInserted

/-- A story as it comes to the editor: its scenes hold event sequences and events without anything below
them, over plain objects and groups, and none of the editor's own beats. -/
structure Draft (story : StoryNode) : Prop where
  scenes : StoryOf sequences story
  bare : story.Everywhere Bare
  plain : ∀ n ∈ story.events, n.isInserted = false

/-- The things that stay where they are in the settings of a story, by their names. -/
def SceneryIn (story : StoryNode) (o : Object) : Prop :=
  ∃ c ∈ story.children, SceneryOf c o

section Beats

variable {story out : StoryNode}

theorem Inserted.isInserted {P : State → Prop} {n : StoryNode} (h : Inserted P n) :
    n.isInserted = true := by
  obtain ⟨e, s, hkind, -, -, he⟩ := h.subject
  unfold Node.isInserted Node.event?
  rw [hkind]
  refine Bool.or_eq_true_iff.2 ?_
  exact he.imp And.left And.left

theorem sceneryIn_of_merged {c : StoryNode} {o : Object} (hstory : StoryOf sequences story)
    (hc : c ∈ (mergeAdjacentScenes story).children) (ho : SceneryOf c o) : SceneryIn story o := by
  obtain ⟨-, hfrom, -⟩ := mergeAdjacentScenes_story hstory
  obtain ⟨d, hd, hattributes⟩ := hfrom c hc
  refine ⟨d, hd, ?_⟩
  unfold SceneryOf Node.objectIn Node.get? at ho ⊢
  rwa [← hattributes]

/-- What the editor tells, with its own beats among what the story came with. -/
theorem padded_edit (hstory : StoryOf sequences story)
    (h : Lowered (fun c₀ => Finished (Ready (fun _ => True) c₀) c₀) (mergeAdjacentScenes story) out) :
    Padded (Carries (SceneryIn story) fun _ => True) (fun n => n.isInserted = true)
      (story.events.filter Node.isLasting) out.events := by
  obtain ⟨hmerged, -, hevents⟩ := mergeAdjacentScenes_story hstory
  have hout : StoryOf arrangement out := h.storyOf fun _ _ hc => hc.scene
  rw [← hevents, hmerged.events_eq, hout.events_eq, List.filter_flatMap]
  refine .flatMap (((List.forall₂_and_left _ _).2 ⟨fun c hc => hc, h.scenes⟩).imp fun c₀ c hc => ?_)
  refine hc.2.events.imp (fun n n' hn => ?_) fun n hn => hn.isInserted
  exact hn.imp (fun o => sceneryIn_of_merged hstory hc.1) fun _ _ => trivial

/-- If the editor comes to a story, its scenes are finished. -/
theorem finished_of_edit (e : Editor) (narration : Narration) (hscenes : StoryOf sequences story)
    (hbare : story.Everywhere Bare) (hout : ((e.edit story).run narration).1.1 = .ok out) :
    Lowered (fun c₀ => Finished (Ready (fun _ => True) c₀) c₀) (mergeAdjacentScenes story) out := by
  have hN := covered_any story
  have hedit : Outcome _ _ ((e.edit story).run narration).1.1 := (edit_yields (I := fun _ => True)
    (E := fun _ => True) e hscenes hbare hN
    (fun _ _ _ hc _ => openScene_ends hc (fun _ => trivial) fun _ _ _ => trivial)
    narration trivial).1
  rwa [hout] at hedit

/-- If the editor comes to a story, then without its own beats that story tells what it came with: one for
one and in order, with the same kind and the same objects and groups, the poses at scenery if at all. -/
theorem edit_keeps_beats (e : Editor) (narration : Narration) (hstory : Draft story)
    (hout : ((e.edit story).run narration).1.1 = .ok out) :
    Forall₂ (Carries (SceneryIn story) fun _ => True)
      (story.events.filter Node.isLasting) (out.events.filter (!·.isInserted)) := by
  have hedit := finished_of_edit e narration hstory.scenes hstory.bare hout
  have hkept := (padded_edit hstory.scenes hedit).filter (p := (!·.isInserted))
    (q := (!·.isInserted)) fun n n' hn => by
      rw [Node.isInserted, Node.isInserted, Node.event?, Node.event?, hn.kind]
  rw [List.filter_filter] at hkept
  have hplain : story.events.filter (fun n => !n.isInserted && n.isLasting) =
      story.events.filter Node.isLasting := by
    refine List.filter_congr fun n hn => ?_
    rw [hstory.plain n hn]
    rfl
  rw [hplain] at hkept
  refine hkept.forall₂ fun n hn hinserted => ?_
  obtain ⟨-, hnot⟩ := List.mem_filter.1 hn
  rw [hinserted] at hnot
  exact absurd hnot Bool.false_ne_true

/-- The editor comes to an end with a story if, by whatever object of its names it is known, every
setting has scenery. -/
theorem exists_edit (e : Editor) (narration : Narration) {N : Object → Prop}
    (hscenes : StoryOf sequences story) (hbare : story.Everywhere Bare)
    (hN : story.Everywhere (Covered N))
    (hsettings : ∀ c ∈ story.children, ∃ o, c.get? .setting = some (.object o) ∧
      ∀ o', N o' → (o' == o) = true → o'.place?.any Place.hasScenery = true) :
    ∃ out, ((e.edit story).run narration).1.1 = .ok out := by
  have hopen : ∀ c₀ ∈ (mergeAdjacentScenes story).children, ∀ c, SceneOf sequences c →
      Carried (Ready N c₀) Node.isLasting c₀ c →
      Ends (fun _ => True) (fun _ => False) (Opened c) (openScene c) := by
    intro c₀ hc₀ c hc hcarried
    obtain ⟨-, hfrom, -⟩ := mergeAdjacentScenes_story hscenes
    obtain ⟨d, hd, hattributes⟩ := hfrom c₀ hc₀
    obtain ⟨o, ho, hscenery⟩ := hsettings d hd
    have hsetting := hcarried.setting
    rw [Node.get?, hattributes, ← Node.get?, ho] at hsetting
    generalize hv : c.get? .setting = v at hsetting
    cases hsetting with
    | some hbecomes =>
      obtain ⟨s, rfl, hbeq, hready⟩ := hbecomes
      have hobject : c.objectIn .setting = some s.object := by
        rw [Node.objectIn, hv]
        rfl
      obtain ⟨p, hp, hplace⟩ := (Option.any_eq_true _ _).1 (hscenery s.object hready.placed.1 hbeq)
      refine openScene_ends hc (fun hnone => ?_) fun place hsome hbare => ?_
      · cases hobject.symm.trans hnone
      · obtain rfl := Option.some.inj (hobject.symm.trans hsome)
        exact Bool.false_ne_true ((hbare p hp).symm.trans hplace)
  have hedit : Outcome _ _ ((e.edit story).run narration).1.1 :=
    (edit_yields (I := fun _ => True) e hscenes hbare hN hopen narration trivial).1
  cases hout : ((e.edit story).run narration).1.1 with
  | error err =>
    rw [hout] at hedit
    exact hedit.elim
  | ok out => exact ⟨out, rfl⟩

end Beats

theorem bare_of_entries {k : StoryKind} {a : Attributes}
    (h : (a.entries.all fun e => e.2.state?.isNone) = true) : Bare k a := fun _ _ hv =>
  Option.isNone_iff_eq_none.1 (List.all_eq_true.1 h _ (mem_entries hv))

theorem covered_of_entries {N : Object → Bool} {k : StoryKind} {a : Attributes}
    (h : (a.entries.all fun e => e.2.object?.all fun o =>
      N o && o.place?.all fun p => p.nearby.all N) = true) : Covered (N · = true) k a := by
  simp only [List.all_eq_true, Option.all_eq_true, Bool.and_eq_true] at h
  refine ⟨fun r o ho => (h _ ho o rfl).1, fun _ o ho => ?_⟩
  obtain ⟨p, hp, hnearby, -⟩ := ho
  obtain ⟨place, hplace, hp⟩ := Option.bind_eq_some_iff.1 hp
  obtain ⟨v, hv, hvo⟩ := Option.bind_eq_some_iff.1 hplace
  exact (h _ (mem_entries hv) place hvo).2 p hp o hnearby

/-- Two scenes on a bridge. -/
def tableau : StoryNode :=
  let console := Object.thing ["console"]
  let bridge := Object.ofPlace ["bridge"] { roof := .thing ["ceiling"], nearby := [console] }
  let ada := Object.ofCharacter ["Ada"] ⟨.feminine, .lead, .redhead⟩
  let bo := Object.ofCharacter ["Bo"] ⟨.masculine, .optimist, .redhead⟩
  let beat (e : Event) (o : Object) := (ofEvent e).set .subject (.object o)
  { kind := .story, children := [
      scene bridge [beat .becomeSad bo, sequence [beat .lookAround ada, beat .poseDescription bo]],
      scene bridge [(ofEvent .allLaugh).set .subject (.group ⟨[ada, bo], List.cons_ne_nil _ _⟩)]] }

theorem tableau_draft : Draft tableau := by
  refine ⟨⟨rfl, fun c hc => ?_⟩, fun m hm => bare_of_entries ?_, by decide⟩
  · rcases List.mem_cons.1 hc with rfl | hc
    · refine ⟨rfl, fun m hm => ?_⟩
      rcases List.mem_cons.1 hm with rfl | hm
      · exact .beat _ _
      rw [List.mem_singleton.1 hm]
      refine .group List.mem_cons_self _ fun d hd => ?_
      rcases List.mem_cons.1 hd with rfl | hd
      · exact .beat _ _
      · exact List.mem_singleton.1 hd ▸ .beat _ _
    · rw [List.mem_singleton.1 hc]
      exact ⟨rfl, fun m hm => List.mem_singleton.1 hm ▸ .beat _ _⟩
  · have hall : (tableau.preorder.all fun m =>
        m.attributes.entries.all fun e => e.2.state?.isNone) = true := by decide
    exact List.all_eq_true.1 hall m hm

/-- A narration whose stream holds nothing but zeros. -/
def stillness : Narration :=
  ⟨⟨0, ⟨fun _ => Vector.replicate 16 0, 0, []⟩, {}⟩, #[]⟩

/-- Whatever is called a bridge is a place with scenery. -/
def furnished (o : Object) : Bool :=
  o.names != ["bridge"] || o.place?.any Place.hasScenery

theorem tableau_covered : tableau.Everywhere (Covered (furnished · = true)) := by
  have hall : (tableau.preorder.all fun m => m.attributes.entries.all fun e =>
      e.2.object?.all fun o => furnished o && o.place?.all fun p => p.nearby.all furnished) = true := by
    decide +kernel
  exact fun m hm => covered_of_entries (List.all_eq_true.1 hall m hm)

theorem tableau_settings : ∀ c ∈ tableau.children,
    ∃ o, c.get? .setting = some (.object o) ∧ o.names = ["bridge"] := by
  intro c hc
  rcases List.mem_cons.1 hc with rfl | hc
  · exact ⟨_, rfl, rfl⟩
  · exact List.mem_singleton.1 hc ▸ ⟨_, rfl, rfl⟩

/-- The two scenes go through any editor, whatever is drawn. -/
theorem exists_edit_tableau (e : Editor) (narration : Narration) :
    ∃ out, ((e.edit tableau).run narration).1.1 = .ok out := by
  refine exists_edit e narration tableau_draft.scenes tableau_draft.bare tableau_covered fun c hc => ?_
  obtain ⟨o, ho, hnames⟩ := tableau_settings c hc
  refine ⟨o, ho, fun o' ho' hbeq => ?_⟩
  rw [furnished, Object.beq_iff.1 hbeq, hnames, bne_self_eq_false, Bool.false_or] at ho'
  exact ho'

/-- The two scenes go through the editor and tell what they did. -/
theorem edit_keeps_beats_tableau :
    Draft tableau ∧ ∃ out, (((⟨50, {}⟩ : Editor).edit tableau).run stillness).1.1 = .ok out ∧
      Forall₂ (Carries (SceneryIn tableau) fun _ => True)
        (tableau.events.filter Node.isLasting) (out.events.filter (!·.isInserted)) := by
  obtain ⟨out, hout⟩ := exists_edit_tableau _ _
  exact ⟨tableau_draft, out, hout, edit_keeps_beats _ _ tableau_draft hout⟩

end SpaceOpera
