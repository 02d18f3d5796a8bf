import SpaceOpera.Editor.Basic
import SpaceOpera.Proofs.Editor.Openings
import SpaceOpera.Proofs.Editor.Paragraphs
import SpaceOpera.Proofs.Editor.Portraits

/-!
# The way of a story through the editor

The passes of the editor one after the other.  A story of scenes with plain values comes out, if it comes
out, with the events of its scenes in their order, every object in a state that has all that is told of it.
-/

namespace SpaceOpera

open List (Forall₂)

/-! ## What the states come to know -/

/-- The state is of an object in `N`, and a character is where its scene is. -/
def Placed (N : Object → Prop) (c₀ : StoryNode) (s : State) : Prop :=
  N s.object ∧ (s.object.isCharacter = true → ∀ o, c₀.objectIn .setting = some o →
    ∃ place, s.location = some place ∧ (place == o) = true ∧ N place)

/-- The state is placed, and a character is dressed. -/
structure Clothed (N : Object → Prop) (c₀ : StoryNode) (s : State) : Prop where
  placed : Placed N c₀ s
  clothes : s.object.isCharacter = true → s.torso.isSome = true ∧ s.feet.isSome = true

/-- The state has all that is told of it. -/
structure Ready (N : Object → Prop) (c₀ : StoryNode) (s : State) : Prop extends Clothed N c₀ s where
  mood : s.object.isCharacter = true → s.mood.isSome = true

section States

variable {N : Object → Prop} {c₀ : StoryNode} {s s' : State}

theorem Placed.grows (h : Placed N c₀ s) (k : s.Grows s') : Placed N c₀ s' := by
  refine ⟨k.object ▸ h.1, fun hc o ho => ?_⟩
  rw [k.location]
  exact h.2 (k.object ▸ hc) o ho

theorem Clothed.grows (h : Clothed N c₀ s) (k : s.Grows s') : Clothed N c₀ s' := by
  refine ⟨h.placed.grows k, fun hc => ?_⟩
  obtain ⟨htorso, hfeet⟩ := h.clothes (k.object ▸ hc)
  exact ⟨k.torso htorso, k.feet hfeet⟩

theorem Ready.imp {N' : Object → Prop} (h : Ready N c₀ s) (hN : ∀ o, N o → N' o) :
    Ready N' c₀ s := by
  refine ⟨⟨⟨hN _ h.placed.1, fun hc o ho => ?_⟩, h.clothes⟩, h.mood⟩
  obtain ⟨place, hplace, hbeq, hnamed⟩ := h.placed.2 hc o ho
  exact ⟨place, hplace, hbeq, hN place hnamed⟩

theorem Ready.grows (h : Ready N c₀ s) (k : s.Grows s') : Ready N c₀ s' :=
  ⟨h.toClothed.grows k, fun hc => k.mood (h.mood (k.object ▸ hc))⟩

theorem Placed.dressed (h : Placed N c₀ s) (k : s.Dressed s') : Clothed N c₀ s' :=
  ⟨h.grows k.1, fun hc => k.2 (k.1.object ▸ hc)⟩

theorem Clothed.moody (h : Clothed N c₀ s) (k : s.Moody s') : Ready N c₀ s' :=
  ⟨h.grows k.1, fun hc => k.2 (k.1.object ▸ hc)⟩

end States

/-- A story whose scenes are open, its states of the objects that stand for their names. -/
structure OpenStory (N : Object → Prop) (n₀ n : StoryNode) : Prop where
  story : StoryOf sequences n
  scenes : ∃ given, Lowered (fun c₀ => Presented (Ready (Standing N given) c₀) c₀) n₀ n

section Annotating

variable {I : Context → Prop} [Lasting I] {E : EditError → Prop} {N : Object → Prop}
  {n : StoryNode}

theorem Carried.moved {keep : StoryNode → Bool} {c₀ c : StoryNode} {s s' : State}
    (h : Carried (fun s => N s.object) keep c₀ c) (hs : N s.object)
    (hss : State.Moved (c.objectIn .setting) s s') : s'.object = s.object ∧ Placed N c₀ s' := by
  refine ⟨hss.1, hss.1 ▸ hs, fun hc o ho => ?_⟩
  obtain ⟨v, hv, hvo⟩ := Option.bind_eq_some_iff.1 ho
  have hsetting := h.setting
  rw [hv] at hsetting
  generalize hw : c.get? .setting = w at hsetting
  cases hsetting with
  | some hvw =>
    cases v with
    | object o' =>
      obtain rfl := Option.some.inj hvo
      obtain ⟨place, rfl, hbeq, hN⟩ := hvw
      refine ⟨place.object, hss.2 (hss.1 ▸ hc) _ ?_, hbeq, hN⟩
      rw [Node.objectIn, hw]
      rfl
    | group g => cases hvo
    | state t => exact hvw.elim

omit [Lasting I] in
/-- What annotating comes to, by what its passes come to. -/
theorem annotated_parts {A B C D : StoryNode → Prop}
    (hresolved : Yields I A (resolveScenery none (mergeAdjacentScenes n)))
    (hdressed : ∀ n, A n → Yields I (fun p => B p.1)
      ((assignCostumes (assignLocations none (assignEmptyStates n))).run {}))
    (hcalmed : ∀ n, B n → Yields I C (removeMoodModifiers (assignMoods {} n).1))
    (hopened : ∀ n, C n → Ends I E D (describeScenes (removeDutyEvents (assignDuties {} n).1))) :
    Ends (fun m : Narration => I m.context) E D (Editor.annotated n) := by
  unfold Editor.annotated
  refine (Ends.rolled hresolved).bind fun n₁ h₁ => ?_
  refine (Ends.rolled (hdressed n₁ h₁)).bind fun p hp => ?_
  refine (report_ends _).bind fun _ _ => (Ends.rolled (hcalmed p.1 hp)).bind fun n₂ h₂ => ?_
  exact (report_ends _).bind fun _ _ => Ends.narrated (hopened n₂ h₂)

/-- A story of scenes with plain values is annotated and opened, if its scenes can be opened. -/
theorem annotated_ends (hn : StoryOf sequences n) (hbare : n.Everywhere Bare)
    (hN : n.Everywhere (Covered N))
    (hopen : ∀ c₀ ∈ (mergeAdjacentScenes n).children, ∀ c, SceneOf sequences c →
      Carried (Ready N c₀) Node.isLasting c₀ c → Ends I E (Opened c) (openScene c)) :
    Ends (fun m : Narration => I m.context) E
      (fun out => OpenStory N (mergeAdjacentScenes n) out ∧
        Lowered Undescribed (mergeAdjacentScenes n) out)
      (Editor.annotated n) := by
  obtain ⟨hstory, -, -⟩ := mergeAdjacentScenes_story hn
  have hbare := mergeAdjacentScenes_everywhere hbare
  have hN := mergeAdjacentScenes_everywhere hN
  refine annotated_parts
    (B := fun n₂ => StoryOf sequences n₂ ∧ ∃ given, Lowered (fun c₀ =>
      Prepared (Clothed (Standing N given) c₀) (fun _ => true) c₀) (mergeAdjacentScenes n) n₂)
    (C := fun n₃ => StoryOf sequences n₃ ∧ ∃ given, Lowered (fun c₀ =>
      Prepared (Ready (Standing N given) c₀) (fun n => !n.changesMood && true) c₀)
      (mergeAdjacentScenes n) n₃)
    ((resolveScenery_yields hstory).and (resolveScenery_everywhere hN)) ?_ ?_ ?_
  · rintro n₁ ⟨hresolved, hnamed⟩
    have hempty := assignEmptyStates_lowered (hresolved.storyOf fun _ _ h => h.scene)
    have hfresh := lowered_fresh hbare hresolved (fun m hm => given_firstGiven hnamed hm) hempty
      fun _ _ _ _ => Prepared.fresh
    have hlocations := assignLocations_lowered (hempty.storyOf fun _ _ h => h.scene)
    have hplaced := hfresh.comp hlocations fun _ _ _ h k =>
      h.updated k.toRewritten fun _ _ hs hss => h.moved hs hss
    refine (assignCostumes_yields (hlocations.storyOf fun _ _ h => h.scene) {}).imp fun p hcostumes =>
      ⟨hcostumes.storyOf fun _ _ h => h.scene, firstGiven n₁, ?_⟩
    exact hplaced.comp hcostumes fun _ _ _ h k =>
      h.updated k.toRewritten fun s s' hs hss => ⟨hss.1.object, hs.dressed hss⟩
  · rintro n₂ ⟨hn₂, given, hdressed⟩
    have hmoods := assignMoods_lowered {} hn₂
    have hready : Lowered (fun c₀ => Prepared (Ready (Standing N given) c₀) (fun _ => true) c₀)
        (mergeAdjacentScenes n) (assignMoods {} n₂).1 := hdressed.comp hmoods fun _ _ _ h k =>
      h.updated k.toRewritten fun s s' hs hss => ⟨hss.moody.1.object, hs.moody hss.moody⟩
    refine (removeMoodModifiers_yields (hmoods.storyOf fun _ _ h => h.scene)).imp fun n₃ hmoodless =>
      ⟨hmoodless.storyOf fun _ _ h => h.scene, given, ?_⟩
    exact hready.comp hmoodless fun _ _ _ h k =>
      h.told ⟨k.scene, k.attributes, k.events.told⟩ fun m m' hm => by
        rw [Node.changesMood, Node.changesMood, Node.event?, Node.event?, hm]
  · rintro n₃ ⟨hn₃, given, hcalm⟩
    have hduties := assignDuties_lowered {} hn₃
    have hbusy := hcalm.comp hduties fun _ _ _ h k =>
      h.updated k.toRewritten fun s s' hs hss => ⟨hss.grows.object, hs.grows hss.grows⟩
    have hdutiless := removeDutyEvents_lowered (hduties.storyOf fun _ _ h => h.scene)
    have hlasting : Lowered (fun c₀ => Prepared (Ready (Standing N given) c₀) Node.isLasting c₀)
        (mergeAdjacentScenes n) (removeDutyEvents (assignDuties {} n₃).1) := by
      rw [← funext isLasting_eq]
      exact hbusy.comp hdutiless fun _ _ _ h k =>
        h.told ⟨k.scene, k.attributes, k.events.told⟩ fun m m' hm => by
          rw [isDutyEvent, isDutyEvent, Node.event?, Node.event?, hm]
    have hscenes := hdutiless.storyOf fun _ _ h => h.scene
    refine Ends.imp (describeScenes_ends hscenes fun c hc => ?_) (fun _ he => he)
      fun out hopened => ?_
    · obtain ⟨c₀, hc₀, hprepared⟩ := exists_of_mem_right hlasting.scenes hc
      refine hopen c₀ hc₀ c (hscenes.scenes c hc) ?_
      exact hprepared.toCarried.imp fun _ hs => hs.imp fun _ ho => ho.1
    · exact ⟨⟨hopened.storyOf fun _ _ h => h.scene, given,
        hlasting.comp hopened fun _ _ _ h k => h.opened k⟩,
        hlasting.comp hopened fun _ _ _ h k => h.undescribed k⟩

/-- Whatever the scenes are like, if the story is annotated, it is open then, and nobody is described. -/
theorem annotated_undescribed (hn : StoryOf sequences n) (hbare : n.Everywhere Bare) :
    Ends (fun _ => True) (fun _ => True)
      (fun out => OpenStory (fun _ => True) (mergeAdjacentScenes n) out ∧
        Lowered Undescribed (mergeAdjacentScenes n) out) (Editor.annotated n) :=
  annotated_ends (I := fun _ => True) (E := fun _ => True) hn hbare (covered_any n)
    fun _ _ _ hc _ => openScene_ends hc (fun _ => trivial) fun _ _ _ => trivial

theorem annotated_opens (hn : StoryOf sequences n) (hbare : n.Everywhere Bare) :
    Ends (fun _ => True) (fun _ => True) (OpenStory (fun _ => True) (mergeAdjacentScenes n))
      (Editor.annotated n) :=
  (annotated_undescribed hn hbare).imp (fun _ he => he) fun _ h => h.1

end Annotating

/-! ## Descriptions -/

section Describing

variable {I : Context → Prop} [Lasting I] {N : Object → Prop} {P : StoryNode → State → Prop}
  {n₀ n : StoryNode}

theorem sequence_of_presented (h : Lowered (fun c₀ => Presented (P c₀) c₀) n₀ n) :
    ∀ c ∈ n.children, OneSequence c.children := by
  intro c hc
  obtain ⟨c₀, -, hcc⟩ := exists_of_mem_right h.scenes hc
  exact hcc.sequence

omit [Lasting I] in
theorem alike_of_redrawn {F : State → State → Prop} {m m' : StoryNode}
    (h : Redrawn (fun _ => Attributes.Updated F) m m') (hF : ∀ s s', F s s' → s.Grows s') :
    Alike m m' :=
  ⟨h.kind, objectIn_updated (fun s s' hss => (hF s s' hss).object) h.attributes⟩

/-- What describing comes to, by what telling the costumes comes to in a story that stays open, its events in
blocks with descriptions and reminders. -/
theorem described_parts {C : Introductions → StoryNode → Prop} (introduced : Roster)
    (h : OpenStory N n₀ n)
    (hcostumes : ∀ (i : Introductions) (us vs : List (List StoryNode)) (r : Roster) (n' : StoryNode),
      OpenStory N n₀ n' → Blocks stages n'.children vs →
      Blockwise DescribesAlone { introduced, remaining := countSubjectAppearances n }
        (singly n.events) us i →
      Blockwise Reminds i.newly us vs r → Yields I (fun p => C i p.1) (describeCostumes {} n')) :
    Yields I (fun p => ∃ i n', C i n' ∧ p = ((assignFirstOccurrence {} n').1, i.introduced))
      (Editor.described introduced n) := by
  obtain ⟨hn, given, h⟩ := h
  unfold Editor.described
  refine ((describeCharacters_yields _ hn (sequence_of_presented h)).and
    (describeCharacters_blocks _ hn)).bind fun p hp => ?_
  obtain ⟨hdescribed, us, hus, hdescribes⟩ := hp
  have hn₁ := hdescribed.storyOf fun _ _ h => h.scene
  have h₁ := h.comp hdescribed fun _ _ _ h k => h.trailed k
  refine ((remindCharacters_yields _ hn₁ (sequence_of_presented h₁)).and
    (remindCharacters_blocks _ hn₁.kind hus (newly_of_describes hdescribes).2)).bind fun q hq => ?_
  obtain ⟨hreminded, vs, hvs, hreminds⟩ := hq
  have hn₂ := hreminded.storyOf fun _ _ h => h.scene
  have h₂ := h₁.comp hreminded fun _ _ _ h k => h.trailed k
  refine (hcostumes p.2 us vs q.2 q.1 ⟨hn₂, given, h₂⟩ hvs hdescribes hreminds).bind fun r hr => ?_
  exact Yields.pure ⟨p.2, r.1, hr, rfl⟩

/-- An open story stays open, and its events are portrayed, with marks on first mentions. -/
theorem described_yields (introduced : Roster) (h : OpenStory N n₀ n) :
    Yields I (fun p => OpenStory N n₀ p.1 ∧ ∃ es,
      Portrayed introduced n.events (countSubjectAppearances n) es p.2 ∧
        Forall₂ (Redrawn fun _ => Attributes.Updated State.Marked) es p.1.events)
      (Editor.described introduced n) := by
  refine (described_parts (C := fun i n' => OpenStory N n₀ n' ∧
    Portrayed introduced n.events (countSubjectAppearances n) n'.events i.introduced) introduced h
    fun i us vs r n₁ h₁ hvs hdescribes hreminds => ?_).imp fun p hp => ?_
  · obtain ⟨hn₁, given, h₁⟩ := h₁
    refine ((describeCostumes_yields hn₁ (sequence_of_presented h₁) {}).and
      (describeCostumes_blocks {} hn₁.kind hvs)).imp fun p hp => ?_
    obtain ⟨hcostumes, ws, hws, hdresses⟩ := hp
    have hn₂ := hcostumes.storyOf fun _ _ h => h.scene
    refine ⟨⟨hn₂, given, h₁.comp hcostumes fun _ _ _ h k => h.trailed k⟩, ?_⟩
    rw [hn₂.events_eq, hws]
    exact .mk hdescribes hreminds hdresses
  · obtain ⟨i, n', ⟨⟨hn', given, h'⟩, hportrayed⟩, rfl⟩ := hp
    have hfirst := assignFirstOccurrence_lowered {} hn'
    have hn'' := hfirst.storyOf fun _ _ h => h.scene
    refine ⟨⟨hn'', given, h'.comp hfirst fun _ _ _ h k => ?_⟩, n'.events, hportrayed, ?_⟩
    · exact h.updated k (fun _ _ hss => hss.grows.object) fun _ _ hs hss => hs.grows hss.grows
    · exact hfirst.events hn' hn'' fun _ _ h => h.events

end Describing

/-! ## Arrangement -/

/-- A scene that is ready to be told. -/
structure Finished (P : State → Prop) (c₀ c : StoryNode) : Prop
    extends Carried P Node.isLasting c₀ c where
  layout : LaidOut Sentence c
  opening : Opens c₀ c

/-- A scene before and after it is arranged: its events are told in their order, in paragraphs. -/
structure Printed (S : StoryNode → Prop) (c c' : StoryNode) : Prop where
  attributes : c.attributes.Updated State.Referred c'.attributes
  events : Forall₂ (Redrawn fun _ => Attributes.Updated State.Referred) c.events c'.events
  layout : LaidOut S c'

section Arranging

variable {I : Context → Prop} [Lasting I] {N : Object → Prop} {n₀ n n' c₀ c c' : StoryNode}

omit [Lasting I] in
theorem Finished.scene {P : State → Prop} (h : Finished P c₀ c) : SceneOf arrangement c :=
  h.layout.scene

theorem Finished.look {P : State → Prop} (h : Finished P c₀ c) : Look c :=
  h.opening.look

theorem Presented.printed (h : Presented (Ready N c₀) c₀ c) (k : Printed Sentence c c') :
    Finished (Ready N c₀) c₀ c' := by
  have hrewritten : Rewritten arrangement (Attributes.Updated State.Referred)
      (Forall₂ (Redrawn fun _ => Attributes.Updated State.Referred)) c c' :=
    ⟨k.layout.scene, k.attributes, k.events⟩
  exact ⟨h.toCarried.updated hrewritten fun _ _ hs hss => ⟨hss.grows.object, hs.grows hss.grows⟩,
    k.layout, h.opening.updated hrewritten fun _ _ hss => hss.grows.object⟩

theorem Arranged.referred {c c₁ c' : StoryNode} (h : Arranged Node.IsBeat c c₁)
    (k : Annotated paragraphed (fun _ => Attributes.Updated State.Referred) c₁ c')
    (hshaped : Node.Shaped c₁ c') : Printed Node.IsBeat c c' :=
  ⟨h.attributes ▸ k.attributes, h.events ▸ k.events, h.layout.shaped hshaped⟩

omit [Lasting I] in
theorem Printed.alike {S : StoryNode → Prop} (h : Printed S c c') : Forall₂ Alike c.events c'.events :=
  h.events.imp fun _ _ h => alike_of_redrawn h fun _ _ => State.Referred.grows

omit [Lasting I] in
/-- The events of a story that has been arranged are those from before, by their kinds and subjects. -/
theorem Lowered.alike (h : Lowered (Printed Sentence) n n') (hn : StoryOf sequences n) :
    Forall₂ Alike n.events n'.events :=
  h.events hn (h.storyOf fun _ _ h => h.layout.scene) fun _ _ h => h.alike

theorem Printed.joined {S S' : StoryNode → Prop} {c c₁ c' : StoryNode} (h : Printed S c c₁)
    (k : Arranged S' c₁ c') : Printed S' c c' :=
  ⟨k.attributes ▸ h.attributes, k.events ▸ h.events, k.layout⟩

omit [Lasting I] in
/-- What arranging comes to, by what its passes come to. -/
theorem arranged_parts {E : EditError → Prop} {A B : StoryNode → Prop} {chance : Nat}
    (hsplit : Outcome E A (splitIntoParagraphs n.flatten))
    (hjoined : ∀ n, A n → Yields I B (conjoin chance (assignReferents none n).1)) :
    Ends I E B (Editor.arranged chance n) := by
  unfold Editor.arranged
  exact (Ends.liftExcept hsplit).bind fun n₁ h₁ => Ends.drawn (hjoined n₁ h₁)

/-- The steps of arranging an open story: paragraphs, then referents, then sentences. -/
theorem arranged_steps (chance : Nat) (h : OpenStory N n₀ n) :
    Ends I (fun _ => False) (fun out => ∃ n₁, splitIntoParagraphs n.flatten = .ok n₁ ∧
      Lowered (Arranged Node.IsBeat) n n₁ ∧
        Lowered (Printed Node.IsBeat) n (assignReferents none n₁).1 ∧
          Lowered (Arranged Sentence) (assignReferents none n₁).1 out) (Editor.arranged chance n) := by
  obtain ⟨hn, given, h⟩ := h
  obtain ⟨n₁, hsplit, hparagraphs⟩ := splitIntoParagraphs_eq_ok hn (sequence_of_presented h)
  refine arranged_parts (A := fun n₂ => n₂ = n₁) (hsplit ▸ rfl) fun n₂ heq => ?_
  subst heq
  have hscene : ∀ c c', Arranged Node.IsBeat c c' → Rewritten paragraphed Eq Eq c c' := fun _ _ h =>
    h.rewritten (List.Subset.refl _) fun _ hm => hm.body
  have hreferents := assignReferents_lowered isGroup_of_mem_paragraphed none
    (hparagraphs.storyOf fun _ _ h => (hscene _ _ h).scene)
  have hshaped : Lowered Node.Shaped n₂ (assignReferents none n₂).1 :=
    ⟨hreferents.kind, (assignReferents_shaped none n₂).children⟩
  have hreferred := hparagraphs.comp (hreferents.and hshaped) fun _ _ _ h k => h.referred k.1 k.2
  refine (conjoin_yields chance hreferred.kind fun c' hc' => ?_).imp fun out hjoined =>
    ⟨n₂, hsplit, hparagraphs, hreferred, hjoined⟩
  obtain ⟨c, -, hcc⟩ := exists_of_mem_right hreferred.scenes hc'
  exact hcc.layout

/-- An open story can be arranged. -/
theorem arranged_ends (chance : Nat) (h : OpenStory N n₀ n) :
    Ends I (fun _ => False) (Lowered (Printed Sentence) n) (Editor.arranged chance n) := by
  refine (arranged_steps chance h).imp (fun _ he => he) fun out hout => ?_
  obtain ⟨_, -, -, hreferred, hjoined⟩ := hout
  exact hreferred.comp hjoined fun _ _ _ h k => h.joined k

end Arranging

/-! ## The editor -/

section Editing

variable {I : Context → Prop} [Lasting I] {E : EditError → Prop} {N : Object → Prop}
  {n : StoryNode}

omit [Lasting I] in
/-- What an edit comes to, by what its parts come to. -/
theorem edit_parts {A : StoryNode → Prop} {D : StoryNode → StoryNode × Roster → Prop}
    {O : StoryNode → StoryNode → Prop} (e : Editor)
    (hannotated : Ends (fun m : Narration => I m.context) E A (Editor.annotated n))
    (hdescribed : ∀ story, A story → Yields I (D story) (Editor.described e.introduced story))
    (harranged : ∀ story p, A story → D story p →
      Ends I E (O p.1) (Editor.arranged e.conjoinChance p.1)) :
    Yields (fun m : Narration => I m.context)
      (fun p => Outcome E (fun out => ∃ story d, A story ∧ D story d ∧ O d.1 out ∧
        p.2 = { e with introduced := d.2 }) p.1) (e.edit n) := by
  unfold Editor.edit
  refine Yields.bind hannotated fun result hresult => ?_
  cases result with
  | error err => exact Yields.pure hresult
  | ok story =>
    refine (hdescribed story hresult).narrate.bind fun d hd => ?_
    refine Yields.bind (Ends.narrate (harranged story d hresult hd)) fun out hout => ?_
    refine Yields.pure ?_
    cases out with
    | error err => exact hout
    | ok out => exact ⟨story, d, hresult, hd, hout, rfl⟩

omit [Lasting I] in
/-- If a story comes out of the editor, it went through all of its parts. -/
theorem exists_of_edit {A : StoryNode → Prop} {D : StoryNode → StoryNode × Roster → Prop}
    {O : StoryNode → StoryNode → Prop} {out : StoryNode} (e : Editor) (narration : Narration)
    (hannotated : Ends (fun _ => True) (fun _ => True) A (Editor.annotated n))
    (hdescribed : ∀ story, A story →
      Yields (fun _ => True) (D story) (Editor.described e.introduced story))
    (harranged : ∀ story p, A story → D story p →
      Ends (fun _ => True) (fun _ => True) (O p.1) (Editor.arranged e.conjoinChance p.1))
    (hout : ((e.edit n).run narration).1.1 = .ok out) :
    ∃ story d, A story ∧ D story d ∧ O d.1 out := by
  have hedit : Outcome (fun _ => True) _ ((e.edit n).run narration).1.1 :=
    (edit_parts (I := fun _ => True) e hannotated hdescribed harranged narration trivial).1
  rw [hout] at hedit
  obtain ⟨story, d, hstory, hd, ho, -⟩ := hedit
  exact ⟨story, d, hstory, hd, ho⟩

/-- A story of scenes with plain values comes out finished, if its scenes can be opened. -/
theorem edit_yields (e : Editor) (hn : StoryOf sequences n) (hbare : n.Everywhere Bare)
    (hN : n.Everywhere (Covered N))
    (hopen : ∀ c₀ ∈ (mergeAdjacentScenes n).children, ∀ c, SceneOf sequences c →
      Carried (Ready N c₀) Node.isLasting c₀ c → Ends I E (Opened c) (openScene c)) :
    Yields (fun m : Narration => I m.context)
      (fun p => Outcome E
        (Lowered (fun c₀ => Finished (Ready N c₀) c₀) (mergeAdjacentScenes n)) p.1)
      (e.edit n) := by
  refine (edit_parts (D := fun _ p => OpenStory N (mergeAdjacentScenes n) p.1)
    (O := Lowered (Printed Sentence)) e (annotated_ends hn hbare hN hopen)
    (fun _ h => (described_yields e.introduced h.1).imp fun _ => And.left)
    fun _ _ _ h => (arranged_ends e.conjoinChance h).imp (fun _ he => he.elim) fun _ h => h).imp
    fun p hp => hp.imp fun out hout => ?_
  obtain ⟨-, d, -, ⟨-, given, hopened⟩, hprinted, -⟩ := hout
  refine hopened.comp hprinted fun _ _ _ h k => ?_
  refine ⟨(h.printed k).toCarried.imp fun _ hs => hs.imp fun _ ho => ho.1, k.layout,
    (h.printed k).opening⟩

end Editing

end SpaceOpera
