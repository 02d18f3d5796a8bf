import SpaceOpera.Proofs.Editor.Joining
import SpaceOpera.Proofs.Editor.Layout

/-!
# Which stories can be edited

The only thing that an editor can miss in a story of scenes is something to look at in a setting.  Everything else
that it checks, it has brought about itself by then: that a scene is one sequence of events in the end, whatever has
been put in on the way.  The settings are the ones that the story came with up to the point where they are
looked at (`settings_merged` and the passes after it), provided that names identify objects; so the verdict
can be read off the story (`edit_verdict`).
-/

namespace SpaceOpera

open List (Forall₂)

/-- The story has to do with the object: one of its values is the object or a state of it, or the object is
scenery of one of its scenes. -/
def Node.Features (story : StoryNode) (o : Object) : Prop :=
  (∃ m ∈ story.preorder, ∃ e ∈ m.attributes.entries, e.2.object? = some o) ∨
    ∃ c ∈ story.preorder, c.kind = .scene ∧ IsScenery (c.objectIn .setting) o

/-- Names identify the objects that the story has to do with. -/
def Node.Unambiguous (story : StoryNode) : Prop :=
  ∀ o o', story.Features o → story.Features o' → (o == o') = true → o = o'

/-- The setting is a place with something in it that stays where it is. -/
def Furnished (setting : Option Object) : Prop :=
  ∃ o, IsScenery setting o

/-- A story of scenes of one sequence each. -/
structure Sequential (n : StoryNode) : Prop where
  story : StoryOf sequences n
  sequence : ∀ c ∈ n.children, OneSequence c.children

/-! ## Merged settings -/

section Merging

variable {N : Object → Prop} {m n held : StoryNode} {ns : List StoryNode} {x y : Option Object}

theorem State.object_beq {s s' : State} (h : (s == s') = true) : (s.object == s'.object) = true := by
  obtain ⟨o, _⟩ := s
  obtain ⟨o', _⟩ := s'
  simp only [BEq.beq, instBEqState.beq] at h
  exact (Bool.and_eq_true_iff.1 h).1

theorem Value.object?_beq {v w : Value} (h : (v == w) = true) :
    (v.object? == w.object?) = true := by
  cases v <;> cases w
  case object.object => exact h
  case group.group => rfl
  case state.state => exact State.object_beq h
  all_goals exact Bool.noConfusion h

/-- A scene that goes on with another one is in a setting of the same names. -/
theorem objectIn_of_continues (h : continues m n = true) :
    (m.objectIn .setting == n.objectIn .setting) = true := by
  unfold continues at h
  obtain ⟨-, hbeq⟩ := Bool.and_eq_true_iff.1 h
  unfold Node.objectIn
  generalize m.get? .setting = v at hbeq
  generalize n.get? .setting = w at hbeq
  cases v <;> cases w
  case none.none => rfl
  case some.some => exact Value.object?_beq hbeq
  all_goals exact Bool.noConfusion hbeq

theorem eq_of_objects (hN : ∀ o o', N o → N o' → (o == o') = true → o = o')
    (hx : ∀ o, x = some o → N o) (hy : ∀ o, y = some o → N o) (h : (x == y) = true) : x = y := by
  cases x <;> cases y
  case none.none => rfl
  case some.some o o' => rw [hN o o' (hx o rfl) (hy o' rfl) h]
  all_goals exact Bool.noConfusion h

/-- Where names identify the settings, merging scenes leaves out none. -/
theorem mem_settings_mergeFrom (hN : ∀ o o', N o → N o' → (o == o') = true → o = o')
    (hns : ∀ n ∈ held :: ns, ∀ o, n.objectIn .setting = some o → N o) :
    x ∈ (mergeFrom held ns).map (·.objectIn .setting) ↔
      x ∈ (held :: ns).map (·.objectIn .setting) := by
  induction ns generalizing held with
  | nil => rfl
  | cons n ns ih =>
    obtain ⟨hheld, hrest⟩ := List.forall_mem_cons.1 hns
    obtain ⟨hn, hlater⟩ := List.forall_mem_cons.1 hrest
    rw [mergeFrom]
    by_cases h : continues held n = true
    · have hsame : held.objectIn .setting = n.objectIn .setting :=
        eq_of_objects hN hheld hn (objectIn_of_continues h)
      have hmerged : ∀ m ∈ held.withChildren (held.children ++ n.children) :: ns,
          ∀ o, m.objectIn .setting = some o → N o := List.forall_mem_cons.2 ⟨hheld, hlater⟩
      have hkept : (held.withChildren (held.children ++ n.children)).objectIn .setting =
          held.objectIn .setting := rfl
      rw [if_pos h, ih hmerged]
      simp only [List.map_cons, List.mem_cons, hkept, ← hsame, or_self_left]
    · rw [if_neg h, List.map_cons, List.mem_cons, ih hrest, List.map_cons (l := n :: ns),
        List.mem_cons]

theorem mem_settings_merged (hN : ∀ o o', N o → N o' → (o == o') = true → o = o')
    (hn : ∀ c ∈ n.children, ∀ o, c.objectIn .setting = some o → N o) :
    x ∈ (mergeAdjacentScenes n).settings ↔ x ∈ n.settings := by
  unfold mergeAdjacentScenes Node.settings
  cases hcs : n.children with
  | nil => simp only [hcs]
  | cons c cs =>
    rw [hcs] at hn
    exact mem_settings_mergeFrom hN hn

end Merging

/-! ## Settings that last -/

section Settings

variable {I : Context → Prop} [Lasting I] {N : Object → Prop} {n n' : StoryNode}

theorem settings_lowered {T : StoryNode → StoryNode → Prop} (h : Lowered T n n')
    (hT : ∀ c c', T c c' → c'.objectIn .setting = c.objectIn .setting) : n'.settings = n.settings :=
  map_eq_of_forall₂ h.scenes hT

theorem settings_posed
    (h : Lowered (fun c => Annotated sequences (Posed (c.objectIn .setting)) c) n n') :
    n'.settings = n.settings := by
  apply settings_lowered h
  intro c c' hc
  obtain ⟨hkept, -⟩ | ⟨hpose, -⟩ := hc.attributes
  · rw [Node.objectIn, Node.get?, hkept]
    rfl
  · cases hpose

theorem settings_updated {F : StoryNode → State → State → Prop}
    (hF : ∀ c s s', F c s s' → s'.object = s.object)
    (h : Lowered (fun c => Annotated sequences (fun _ => Attributes.Updated (F c)) c) n n') :
    n'.settings = n.settings := by
  apply settings_lowered h
  intro c c' hc
  exact objectIn_updated (hF c) hc.attributes .setting

theorem settings_rewritten {E : List StoryNode → List StoryNode → Prop}
    (h : Lowered (Rewritten sequences Eq E) n n') : n'.settings = n.settings := by
  apply settings_lowered h
  intro c c' hc
  rw [Node.objectIn, Node.get?, ← hc.attributes]
  rfl

/-- Where names identify the objects, a fresh state is of the object that it is for. -/
theorem settings_assignEmptyStates (hN : ∀ o o', N o → N o' → (o == o') = true → o = o')
    (hn : StoryOf sequences n)
    (hobjects : n.Everywhere fun _ a => ∀ r o, (r, Value.object o) ∈ a.entries → N o) :
    (assignEmptyStates n).settings = n.settings := by
  have hscenes := (List.forall₂_and_left _ _).2
    ⟨fun c hc => hc, (assignEmptyStates_lowered hn).scenes⟩
  apply map_eq_of_forall₂ hscenes
  rintro c c' ⟨hc, hfresh⟩
  have hmem : c ∈ n.preorder := Node.mem_preorder_iff.2 (.inr ⟨c, hc, c.mem_preorder_self⟩)
  have hget : c'.get? .setting = (c.get? .setting).map (Value.toState (firstGiven n)) := by
    rw [Node.get?, hfresh.attributes, Attributes.get?_map]
    rfl
  rw [Node.objectIn, Node.objectIn, hget]
  cases hv : c.get? .setting with
  | none => rfl
  | some v =>
    cases v with
    | group g => rfl
    | state s => rfl
    | object o =>
      obtain ⟨first, hfirst⟩ := Option.isSome_iff_exists.1 (isSome_firstGiven hmem (mem_bareObjects hv))
      obtain ⟨hbeq, m, hm, hbare⟩ := eq_of_firstGiven hfirst
      obtain ⟨r, hr⟩ := mem_bareObjects_iff.1 hbare
      have hsame : first = o :=
        hN first o (hobjects m hm r first hr) (hobjects c hmem .setting o (mem_entries hv)) hbeq
      simp only [Option.map_some, Option.bind_some, Value.toState, hfirst, hsame]
      rfl

end Settings

/-! ## The passes -/

section Passes

variable {I : Context → Prop} [Lasting I] {story n n' : StoryNode}

theorem Sequential.reworked {A : Attributes → Attributes → Prop}
    {E : StoryNode → List StoryNode → List StoryNode → Prop} (hn : Sequential n)
    (h : Lowered (fun c => Reworked sequences A (E c) c) n n') : Sequential n' := by
  constructor
  case story => exact h.storyOf fun _ _ hc => hc.scene
  case sequence =>
    intro c' hc'
    obtain ⟨c, hc, hcc⟩ := exists_of_mem_right ((List.forall₂_and_left _ _).2
      ⟨hn.sequence, h.scenes⟩) hc'
    exact hcc.2.sequence hcc.1

theorem Sequential.opened (h : Lowered Opened n n') : Sequential n' := by
  constructor
  case story => exact h.storyOf fun _ _ hc => hc.scene
  case sequence =>
    intro c' hc'
    obtain ⟨c, -, hcc⟩ := exists_of_mem_right h.scenes hc'
    exact hcc.sequence

/-- A story of scenes of one sequence each stays one while it is described. -/
theorem described_sequential (introduced : Roster) (hn : Sequential n) :
    Yields I (fun p => Sequential p.1) (Editor.described introduced n) := by
  unfold Editor.described
  refine (describeCharacters_yields _ hn.story hn.sequence).bind fun p hp => ?_
  have hp := hn.reworked hp
  refine (remindCharacters_yields _ hp.story hp.sequence).bind fun q hq => ?_
  have hq := hp.reworked hq
  refine (describeCostumes_yields hq.story hq.sequence {}).bind fun r hr => ?_
  have hr := hq.reworked hr
  exact Yields.pure (hr.reworked (assignFirstOccurrence_lowered {} hr.story))

/-- A story of scenes of one sequence each can be arranged. -/
theorem arranged_succeeds (chance : Nat) (hn : Sequential n) :
    Ends I (fun _ => False) (fun _ => True) (Editor.arranged chance n) := by
  obtain ⟨n₁, hsplit, -⟩ := splitIntoParagraphs_eq_ok hn.story hn.sequence
  refine arranged_parts (A := fun _ => True) (hsplit ▸ trivial) fun n₂ _ => ?_
  exact conjoin_induction (P := fun _ _ => True) (fun _ _ _ _ => trivial) (fun _ _ _ _ _ _ => trivial) _

/-- Opening the scenes fails where there is nothing to look at, and nowhere else. -/
theorem describeScenes_verdict (hn : StoryOf sequences n) :
    Ends I (fun _ => ∃ x ∈ n.settings, ¬Furnished x)
      (fun out => Sequential out ∧ ∀ x ∈ n.settings, Furnished x) (describeScenes n) := by
  have hmem : ∀ c ∈ n.children, c.objectIn .setting ∈ n.settings := fun c hc =>
    List.mem_map.2 ⟨c, hc, rfl⟩
  have hopen : ∀ c ∈ n.children,
      Ends I (fun _ => ∃ x ∈ n.settings, ¬Furnished x) (Opened c) (openScene c) := by
    intro c hc
    apply openScene_ends (hn.scenes c hc)
    · intro hnone
      refine ⟨none, hnone ▸ hmem c hc, ?_⟩
      rintro ⟨o, p, hp, -⟩
      cases hp
    · intro place hplace hbare
      refine ⟨some place, hplace ▸ hmem c hc, ?_⟩
      rintro ⟨o, p, hp, ho, htakeable⟩
      have hscenery : p.hasScenery = true := List.any_eq_true.2 ⟨o, ho, by rw [htakeable]; rfl⟩
      exact Bool.false_ne_true ((hbare p hp).symm.trans hscenery)
  refine (describeScenes_ends hn hopen).imp (fun _ he => he) fun out hout => ?_
  refine ⟨.opened hout, fun x hx => ?_⟩
  obtain ⟨c, hc, rfl⟩ := List.mem_map.1 hx
  obtain ⟨c', -, hcc⟩ := exists_of_mem_left hout.scenes hc
  obtain ⟨setting, place, o, hsetting, hplace, hscenery, -⟩ := hcc.events
  refine ⟨o, ?_⟩
  rw [Node.objectIn, hsetting, Option.bind_some, hplace]
  exact hscenery

/-- Annotating fails where there is nothing to look at in the setting of a scene, and nowhere else. -/
theorem annotated_verdict (hstory : StoryOf sequences story) (hnames : story.Unambiguous) :
    Ends (fun m : Narration => I m.context) (fun _ => ∃ x ∈ story.settings, ¬Furnished x)
      (fun out => Sequential out ∧ ∀ x ∈ story.settings, Furnished x)
      (Editor.annotated story) := by
  obtain ⟨hmerged, -, -⟩ := mergeAdjacentScenes_story hstory
  have hcovered : story.Everywhere (Covered story.Features) := fun m hm =>
    ⟨fun r o ho => .inl ⟨m, hm, _, ho, rfl⟩, fun hscene o ho => .inr ⟨m, hm, hscene, ho⟩⟩
  have hsame : ∀ x, x ∈ (mergeAdjacentScenes story).settings ↔ x ∈ story.settings := by
    intro x
    apply mem_settings_merged hnames
    intro c hc o ho
    obtain ⟨v, hv, hvo⟩ := Option.bind_eq_some_iff.1 ho
    exact .inl ⟨c, Node.mem_preorder_iff.2 (.inr ⟨c, hc, c.mem_preorder_self⟩), _, mem_entries hv, hvo⟩
  refine annotated_parts
    (B := fun n => StoryOf sequences n ∧ n.settings = (mergeAdjacentScenes story).settings)
    (C := fun n => StoryOf sequences n ∧ n.settings = (mergeAdjacentScenes story).settings)
    ((resolveScenery_yields hmerged).and
      (resolveScenery_everywhere (mergeAdjacentScenes_everywhere hcovered))) ?_ ?_ ?_
  · rintro n₁ ⟨hposed, hobjects⟩
    have hn₁ := hposed.storyOf fun _ _ h => h.scene
    have hempty := (assignEmptyStates_lowered hn₁).storyOf fun _ _ h => h.scene
    have hlocated := assignLocations_lowered hempty
    refine (assignCostumes_yields (hlocated.storyOf fun _ _ h => h.scene) {}).imp fun p hcostumes => ?_
    refine ⟨hcostumes.storyOf fun _ _ h => h.scene, ?_⟩
    rw [settings_updated (F := fun _ => State.Dressed) (fun _ _ _ h => h.1.object) hcostumes,
      settings_updated (fun _ _ _ h => h.1) hlocated,
      settings_assignEmptyStates hnames hn₁ hobjects, settings_posed hposed]
  · rintro n₂ ⟨hn₂, hsettings⟩
    have hmoods := assignMoods_lowered {} hn₂
    refine (removeMoodModifiers_yields (hmoods.storyOf fun _ _ h => h.scene)).imp fun n₃ hcalmed => ?_
    refine ⟨hcalmed.storyOf fun _ _ h => h.scene, ?_⟩
    rw [settings_rewritten hcalmed, settings_updated (F := fun _ => State.Tempered)
      (fun _ _ _ h => h.moody.1.object) hmoods, hsettings]
  · rintro n₃ ⟨hn₃, hsettings⟩
    have hduties := assignDuties_lowered {} hn₃
    have hdutiless := removeDutyEvents_lowered (hduties.storyOf fun _ _ h => h.scene)
    have hkept : (removeDutyEvents (assignDuties {} n₃).1).settings =
        (mergeAdjacentScenes story).settings := by
      rw [settings_rewritten hdutiless, settings_updated (F := fun _ => State.Burdened)
        (fun _ _ _ h => h.grows.object) hduties, hsettings]
    have hverdict := describeScenes_verdict (I := I) (hdutiless.storyOf fun _ _ h => h.scene)
    simpa only [hkept, hsame] using hverdict

end Passes

/-! ## The verdict -/

section Verdict

variable {story : StoryNode}

/-- A story of scenes is edited if and only if there is something to look at in every setting, whatever is
drawn, how likely events are joined and who has been introduced before. -/
theorem edit_verdict (hstory : StoryOf sequences story) (hnames : story.Unambiguous) (e : Editor)
    (narration : Narration) :
    (∃ out, ((e.edit story).run narration).1.1 = .ok out) ↔
      ∀ c ∈ story.children, Furnished (c.objectIn .setting) := by
  have hall : (∀ x ∈ story.settings, Furnished x) ↔
      ∀ c ∈ story.children, Furnished (c.objectIn .setting) := List.forall_mem_map
  have hedit : Outcome (fun _ => ∃ x ∈ story.settings, ¬Furnished x) _
      ((e.edit story).run narration).1.1 :=
    (edit_parts (I := fun _ => True) (D := fun _ p => Sequential p.1) (O := fun _ _ => True) e
      (annotated_verdict (I := fun _ => True) hstory hnames) (fun _ h => described_sequential _ h.1)
      (fun _ _ _ h => (arranged_succeeds _ h).imp (fun _ he => he.elim) fun _ h => h)
      narration trivial).1
  rw [← hall]
  cases hresult : ((e.edit story).run narration).1.1 with
  | error err =>
    rw [hresult] at hedit
    obtain ⟨x, hx, hbare⟩ := hedit
    constructor
    · rintro ⟨out, hout⟩
      cases hout
    · intro h
      exact absurd (h x hx) hbare
  | ok out =>
    rw [hresult] at hedit
    obtain ⟨_, _, ⟨-, hfurnished⟩, -⟩ := hedit
    exact ⟨fun _ => hfurnished, fun _ => ⟨out, rfl⟩⟩

/-- A galley with a stove in it. -/
def galley : Object :=
  .ofPlace ["galley"] { roof := .thing ["ceiling"], nearby := [.thing ["stove"]] }

/-- The one who cooks there. -/
def cook : Object :=
  .ofCharacter ["Ada"] ⟨.feminine, .lead, .redhead⟩

/-- The cook looks around in the galley. -/
def mealtime : StoryNode :=
  { kind := .story, children := [StoryNode.scene galley
    [(StoryNode.ofEvent .lookAround).set .subject (.object cook)]] }

theorem mealtime_scenes : StoryOf sequences mealtime := by
  refine ⟨rfl, fun c hc => ?_⟩
  obtain rfl := List.mem_singleton.1 hc
  exact ⟨rfl, fun m hm => List.mem_singleton.1 hm ▸ .beat _ _⟩

theorem mealtime_unambiguous : mealtime.Unambiguous := by
  have hvalues : (mealtime.preorder.flatMap fun m =>
      m.attributes.entries.filterMap (·.2.object?)) = [galley, cook] := rfl
  have hscenes : (mealtime.preorder.filter (·.kind = .scene)).map (·.objectIn .setting) =
      [some galley] := rfl
  have hfeatures : ∀ o, mealtime.Features o → o ∈ [galley, cook] ++ [.thing ["stove"]] := by
    rintro o (⟨m, hm, e, he, ho⟩ | ⟨c, hc, hkind, hscenery⟩)
    · rw [← hvalues]
      apply List.mem_append_left
      exact List.mem_flatMap.2 ⟨m, hm, List.mem_filterMap.2 ⟨e, he, ho⟩⟩
    · have hsetting : c.objectIn .setting ∈ [some galley] := by
        rw [← hscenes]
        exact List.mem_map.2 ⟨c, List.mem_filter.2 ⟨hc, decide_eq_true hkind⟩, rfl⟩
      rw [List.mem_singleton.1 hsetting] at hscenery
      obtain ⟨p, hp, ho, -⟩ := hscenery
      cases hp
      exact List.mem_append_right _ ho
  intro o o' ho ho' hbeq
  exact List.inj_on_of_nodup_map (f := Object.names) (by decide) (hfeatures o ho) (hfeatures o' ho')
    (Object.beq_iff.1 hbeq)

/-- The galley has its stove, so the scene can be edited. -/
theorem edit_verdict_mealtime :
    StoryOf sequences mealtime ∧ mealtime.Unambiguous ∧
      ∃ out, (((⟨50, {}⟩ : Editor).edit mealtime).run stillness).1.1 = .ok out := by
  refine ⟨mealtime_scenes, mealtime_unambiguous, ?_⟩
  apply (edit_verdict mealtime_scenes mealtime_unambiguous _ _).2
  intro c hc
  obtain rfl := List.mem_singleton.1 hc
  exact ⟨.thing ["stove"], _, rfl, List.mem_singleton_self _, rfl⟩

end Verdict

end SpaceOpera
