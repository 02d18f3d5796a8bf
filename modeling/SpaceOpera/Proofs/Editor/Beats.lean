import SpaceOpera.Editor.Descriptions
import SpaceOpera.Editor.States
import SpaceOpera.Proofs.Editor.States
import SpaceOpera.Proofs.Retelling

/-!
# The beats that come and go

The editor takes the beats out that only carry a mood or a duty on, and puts beats in: openings of scenes,
and asides about a character who has just acted.  What else a scene tells stays as it is and in its order.
-/

namespace SpaceOpera

open List (Forall₂)
open StoryNode (ofEvent sequence)

/-! ## Beats of the editor's own -/

/-- A beat that opens a scene. -/
def Event.isOpening (e : Event) : Bool :=
  [settingDescription, nearbyDescription, genericSettingDescription].contains e

/-- A beat that the editor tells of a character on its own account. -/
def Event.isAside (e : Event) : Bool :=
  [characterDescription, characterFeaturesDescription, characterReminder, torsoCostumeDescription,
    torsoCostumeReminder, feetCostumeDescription, feetCostumeReminder,
    characterStaysHappy].contains e

/-- A beat that the editor puts in. -/
def Event.isInserted (e : Event) : Bool :=
  e.isOpening || e.isAside

theorem isTransient_of_inserted {e : Event} (h : e.isInserted = true) : e.isTransient = false := by
  cases e <;> first | rfl | cases h

/-- The second node is an aside about the subject of the first, a character. -/
def Echoes (n n' : StoryNode) : Prop :=
  ∃ v e, n.get? .subject = some v ∧ v.object?.any Object.isCharacter = true ∧
    Event.isAside e = true ∧ n' = (ofEvent e).set .subject v

/-- The events kept are told in order, and asides with `Q` among them. -/
def Told (keep : StoryNode → Bool) (Q : StoryNode → Prop) (es es' : List StoryNode) : Prop :=
  Padded Eq Q (es.filter keep) es'

section Told

theorem body_of_echoes {n n' : StoryNode} {ks : List StoryKind} (h : Echoes n n') : Body ks n' := by
  obtain ⟨v, e, -, -, -, rfl⟩ := h
  exact .beat e _

theorem echoes_of_characterSubject {n : StoryNode} {s : State} {e : Event}
    (h : n.characterSubject? = some s) (he : e.isAside = true) :
    Echoes n ((ofEvent e).set .subject (.state s)) := by
  unfold Node.characterSubject? at h
  split at h
  · cases h
  · obtain ⟨hs, hc⟩ := Option.filter_eq_some_iff.1 h
    obtain ⟨v, hv, hvs⟩ := Option.bind_eq_some_iff.1 hs
    cases v with
    | state s' =>
      obtain rfl := Option.some.inj hvs
      exact ⟨.state s', e, hv, hc, he, rfl⟩
    | _ => cases hvs

theorem events_of_echoes {n n' : StoryNode} (h : Echoes n n') : n'.events = [n'] := by
  obtain ⟨v, e, -, -, -, rfl⟩ := h
  exact events_beat e _

theorem flatMap_events_of_beats {es : List StoryNode} (h : ∀ e ∈ es, e.events = [e]) :
    es.flatMap Node.events = es := by
  induction es with
  | nil => rfl
  | cons e es ih =>
    obtain ⟨he, hes⟩ := List.forall_mem_cons.1 h
    rw [List.flatMap_cons, he, ih hes]
    rfl

theorem Object.isCharacter_of_plays {o : Object} {a : Archetype} (h : o.plays a = true) :
    o.isCharacter = true := by
  unfold Object.plays at h
  unfold Object.isCharacter
  cases hc : o.character? with
  | none => rw [hc] at h; exact absurd h Bool.false_ne_true
  | some c => rfl

end Told

/-! ## Moods and duties -/

/-- Does the event put its subject in a mood? -/
def Node.changesMood (n : StoryNode) : Bool :=
  (n.event?.bind Event.moodChange?).isSome

/-- The second event tells that the subject of the first, an optimist, stays happy all the same. -/
structure Refuses (n n' : StoryNode) : Prop where
  echoes : Echoes n n'
  kind : n'.kind = .event .characterStaysHappy
  mood : ∃ mood, n.event?.bind Event.moodChange? = some mood ∧ mood ≠ .happy
  optimist : n.subject?.any Object.isOptimist = true

/-- An event that changes no mood is told, and in place of one that does there may be a refusal. -/
abbrev Calmed : List StoryNode → List StoryNode → Prop :=
  Retold (fun n n' => n' = n ∧ n.changesMood = false ∨ Refuses n n') (fun n => n.changesMood = true)
    fun _ => False

/-- The duty events are dropped. -/
def Relieved (es es' : List StoryNode) : Prop :=
  es' = es.filter (!isDutyEvent ·)

/-- Refusals of those who act in a scene. -/
def RefusesIn (c n' : StoryNode) : Prop :=
  ∃ n ∈ c.events, Refuses n n'

/-- Asides about those who act in a scene. -/
def EchoesIn (c n' : StoryNode) : Prop :=
  ∃ n ∈ c.events, Echoes n n'

/-- A list of nodes before and after a pass. -/
structure Sifted (E : List StoryNode → List StoryNode → Prop) (cs cs' : List StoryNode) : Prop where
  body : ∀ c' ∈ cs', Body sequences c'
  events : E (cs.flatMap Node.events) (cs'.flatMap Node.events)

section Sifting

variable {E : List StoryNode → List StoryNode → Prop} {c c' : StoryNode}
  {cs cs' ds ds' : List StoryNode}

theorem Sifted.group (h : Sifted E cs cs') (a : Attributes) :
    Unfolded sequences E ⟨.eventSequence, a, cs⟩ ⟨.eventSequence, a, cs'⟩ := by
  refine ⟨.group List.mem_cons_self a h.body, ?_, id⟩
  rw [events_of_not_event rfl, events_of_not_event rfl]
  exact h.events

theorem Sifted.scene (h : Sifted E cs cs') (a : Attributes) :
    Rewritten sequences Eq E ⟨.scene, a, cs⟩ ⟨.scene, a, cs'⟩ := by
  refine ⟨⟨rfl, h.body⟩, rfl, ?_⟩
  rw [events_of_not_event rfl, events_of_not_event rfl]
  exact h.events

theorem Sifted.append (h : Sifted E cs cs') (k : Sifted E ds ds')
    (hE : ∀ {es es' fs fs'}, E es es' → E fs fs' → E (es ++ fs) (es' ++ fs')) :
    Sifted E (cs ++ ds) (cs' ++ ds') := by
  refine ⟨List.forall_mem_append.2 ⟨h.body, k.body⟩, ?_⟩
  rw [List.flatMap_append, List.flatMap_append]
  exact hE h.events k.events

theorem Sifted.of_unfolded (h : Unfolded sequences E c c') : Sifted E [c] [c'] := by
  refine ⟨fun d hd => List.mem_singleton.1 hd ▸ h.body, ?_⟩
  rw [List.flatMap_singleton, List.flatMap_singleton]
  exact h.events

end Sifting

section Moods

variable {I : Context → Prop} [Lasting I] {n c : StoryNode} {cs : List StoryNode}

theorem refusal_yields {mood : Mood} (hmood : n.event?.bind Event.moodChange? = some mood) :
    Yields I (fun kept => kept = [] ∨ ∃ e, kept = [e] ∧ Refuses n e) (refusal mood n) := by
  unfold refusal
  refine (Roll.chance_yields 10).bind fun told _ => ?_
  split
  · rename_i v hv
    refine Yields.ite (fun hcond => Yields.pure (Or.inr ⟨_, rfl, ?_⟩)) fun _ => Yields.pure (Or.inl rfl)
    simp only [Bool.and_eq_true, bne_iff_ne] at hcond
    obtain ⟨⟨-, hoptimist⟩, hunhappy⟩ := hcond
    refine ⟨⟨v, _, hv, ?_, rfl, rfl⟩, rfl, ⟨mood, hmood, hunhappy⟩, ?_⟩
    · rw [Option.any_eq_true] at hoptimist ⊢
      obtain ⟨o, ho, hplays⟩ := hoptimist
      exact ⟨o, ho, Object.isCharacter_of_plays hplays⟩
    · rw [Node.subject?, Node.objectIn, hv]
      exact hoptimist
  · exact Yields.pure (Or.inl rfl)

theorem Calmed.told {es es' : List StoryNode} (h : Calmed es es') :
    Told (!·.changesMood) (fun n' => ∃ n ∈ es, Refuses n n') es es' := by
  have hmore : ∀ {n} {es es' : List StoryNode}, Padded Eq (fun n' => ∃ n ∈ es, Refuses n n')
      (es.filter (!·.changesMood)) es' → Padded Eq (fun n' => ∃ m ∈ n :: es, Refuses m n')
      (es.filter (!·.changesMood)) es' := fun h => h.imp (fun _ _ => id) fun _ ⟨m, hm, hrefuses⟩ =>
    ⟨m, List.mem_cons_of_mem _ hm, hrefuses⟩
  unfold Told
  induction h with
  | nil => exact .nil
  | @keep n n' _ _ hn _ ih =>
    rcases hn with ⟨rfl, hmood⟩ | hrefuses
    · rw [List.filter_cons_of_pos (by rw [hmood]; rfl)]
      exact .keep rfl (hmore ih)
    · obtain ⟨mood, hmood, -⟩ := hrefuses.mood
      rw [List.filter_cons_of_neg (by rw [Node.changesMood, hmood]; exact Bool.false_ne_true)]
      exact .put ⟨n, List.mem_cons_self, hrefuses⟩ (hmore ih)
  | drop hn _ ih =>
    rw [List.filter_cons_of_neg (by rw [hn]; exact Bool.false_ne_true)]
    exact hmore ih
  | put hn => exact hn.elim

/-- An event that changes a mood is dropped or refused. -/
theorem Sifted.of_refusal {e : Event} {a : Attributes} {kept : List StoryNode}
    (hmood : Node.changesMood ⟨.event e, a, []⟩ = true)
    (h : kept = [] ∨ ∃ n, kept = [n] ∧ Refuses ⟨.event e, a, []⟩ n) :
    Sifted Calmed [⟨.event e, a, []⟩] kept := by
  rcases h with rfl | ⟨n, rfl, hrefuses⟩
  · refine ⟨nofun, ?_⟩
    rw [List.flatMap_singleton, events_beat, List.flatMap_nil]
    exact .drop hmood .nil
  · refine ⟨fun m hm => List.mem_singleton.1 hm ▸ body_of_echoes hrefuses.echoes, ?_⟩
    rw [List.flatMap_singleton, events_beat, List.flatMap_singleton, events_of_echoes hrefuses.echoes]
    exact .keep (Or.inr hrefuses) .nil

theorem removeMoodModifiersList_yields (hcs : ∀ c ∈ cs, Body sequences c)
    (h : ∀ c ∈ cs, c.changesMood = false →
      Yields I (Unfolded sequences Calmed c) (removeMoodModifiers c)) :
    Yields I (Sifted Calmed cs) (removeMoodModifiersList cs) := by
  induction cs with
  | nil =>
    rw [removeMoodModifiersList]
    exact Yields.pure ⟨nofun, .nil⟩
  | cons c cs ih =>
    obtain ⟨hc, hcs⟩ := List.forall_mem_cons.1 hcs
    obtain ⟨hfirst, hrest⟩ := List.forall_mem_cons.1 h
    rw [removeMoodModifiersList]
    have htail : ∀ kept, Sifted Calmed [c] kept → Yields I (Sifted Calmed (c :: cs)) (do
        let rest ← removeMoodModifiersList cs
        pure (kept ++ rest)) := fun kept hkept =>
      (ih hcs hrest).bind fun rest hrest => Yields.pure (hkept.append hrest Retold.append)
    split
    · rename_i mood hmood
      refine (refusal_yields hmood).bind fun kept hkept => htail kept ?_
      cases hc with
      | beat e a => exact .of_refusal (by rw [Node.changesMood, hmood]; rfl) hkept
      | group hk => cases List.mem_singleton.1 hk; cases hmood
    · rename_i hmood
      refine (hfirst (by rw [Node.changesMood, hmood]; rfl)).bind fun c' hc' => ?_
      exact (Yields.pure (.of_unfolded hc')).bind htail

theorem removeMoodModifiers_body (hn : Body sequences n) (hmood : n.changesMood = false) :
    Yields I (Unfolded sequences Calmed n) (removeMoodModifiers n) := by
  induction hn with
  | beat e a =>
    rw [removeMoodModifiers, removeMoodModifiersList]
    refine Yields.pure ⟨.beat e a, ?_, id⟩
    rw [events_beat]
    exact .keep (Or.inl ⟨rfl, hmood⟩) .nil
  | @group k cs hk a h ih =>
    obtain rfl := List.mem_singleton.1 hk
    rw [removeMoodModifiers]
    exact (removeMoodModifiersList_yields h ih).bind fun cs' hcs' => Yields.pure (hcs'.group a)

theorem removeMoodModifiers_scene (hc : SceneOf sequences c) :
    Yields I (Rewritten sequences Eq Calmed c) (removeMoodModifiers c) := by
  have hcs := hc.body
  obtain ⟨k, a, cs⟩ := c
  obtain rfl : k = .scene := hc.kind
  rw [removeMoodModifiers]
  refine (removeMoodModifiersList_yields hcs fun m hm hmood => ?_).bind fun cs' hcs' =>
    Yields.pure (hcs'.scene a)
  exact removeMoodModifiers_body (hcs m hm) hmood

theorem removeMoodModifiersList_scenes (hcs : ∀ c ∈ cs, SceneOf sequences c) :
    Yields I (Forall₂ (Rewritten sequences Eq Calmed) cs) (removeMoodModifiersList cs) := by
  induction cs with
  | nil =>
    rw [removeMoodModifiersList]
    exact Yields.pure .nil
  | cons c cs ih =>
    obtain ⟨hc, hcs⟩ := List.forall_mem_cons.1 hcs
    have hevent : c.event? = none := by rw [Node.event?, hc.kind]; rfl
    rw [removeMoodModifiersList, hevent]
    refine (removeMoodModifiers_scene hc).bind fun c' hc' => ?_
    exact (ih hcs).bind fun cs' hcs' => Yields.pure (.cons hc' hcs')

theorem removeMoodModifiers_yields (hn : StoryOf sequences n) :
    Yields I (Lowered (Rewritten sequences Eq Calmed) n) (removeMoodModifiers n) := by
  obtain ⟨k, a, cs⟩ := n
  rw [removeMoodModifiers]
  exact (removeMoodModifiersList_scenes hn.scenes).bind fun cs' hcs' =>
    Yields.pure ⟨hn.kind, hcs'⟩

end Moods

section Duties

variable {n c : StoryNode} {cs : List StoryNode}

theorem Relieved.append {es es' fs fs' : List StoryNode} (h : Relieved es es') (k : Relieved fs fs') :
    Relieved (es ++ fs) (es' ++ fs') := by
  unfold Relieved at h k ⊢
  rw [List.filter_append, h, k]

theorem Relieved.told {Q : StoryNode → Prop} {es es' : List StoryNode} (h : Relieved es es') :
    Told (!isDutyEvent ·) Q es es' := by
  rw [h]
  exact .refl _ _

theorem removeDutyEventsList_sifted (hcs : ∀ c ∈ cs, Body sequences c)
    (h : ∀ c ∈ cs, isDutyEvent c = false → Unfolded sequences Relieved c (removeDutyEvents c)) :
    Sifted Relieved cs (removeDutyEventsList cs) := by
  induction cs with
  | nil =>
    rw [removeDutyEventsList]
    exact ⟨nofun, rfl⟩
  | cons c cs ih =>
    obtain ⟨hc, hbody⟩ := List.forall_mem_cons.1 hcs
    obtain ⟨hfirst, hrest⟩ := List.forall_mem_cons.1 h
    rw [removeDutyEventsList]
    by_cases hduty : isDutyEvent c = true
    · rw [if_pos hduty]
      have hdropped : Sifted Relieved [c] [] := by
        cases hc with
        | beat e a =>
          refine ⟨nofun, ?_⟩
          rw [Relieved, List.flatMap_singleton, events_beat,
            List.filter_cons_of_neg (by rw [hduty]; exact Bool.false_ne_true)]
          rfl
        | group hk =>
          cases List.mem_singleton.1 hk
          exact absurd hduty (by simp [isDutyEvent, Node.event?, StoryKind.event?])
      exact hdropped.append (ih hbody hrest) Relieved.append
    · rw [if_neg hduty]
      exact Sifted.append (.of_unfolded (hfirst (Bool.eq_false_iff.2 hduty))) (ih hbody hrest)
        Relieved.append

theorem removeDutyEvents_body (hn : Body sequences n) (hduty : isDutyEvent n = false) :
    Unfolded sequences Relieved n (removeDutyEvents n) := by
  induction hn with
  | beat e a =>
    rw [removeDutyEvents, removeDutyEventsList]
    refine ⟨.beat e a, ?_, id⟩
    rw [Relieved, events_beat, List.filter_cons_of_pos (by rw [hduty]; rfl)]
    rfl
  | @group k cs hk a h ih =>
    obtain rfl := List.mem_singleton.1 hk
    rw [removeDutyEvents]
    exact (removeDutyEventsList_sifted h ih).group a

theorem removeDutyEventsList_scenes (hcs : ∀ c ∈ cs, SceneOf sequences c) :
    Forall₂ (Rewritten sequences Eq Relieved) cs (removeDutyEventsList cs) := by
  induction cs with
  | nil =>
    rw [removeDutyEventsList]
    exact .nil
  | cons c cs ih =>
    obtain ⟨hc, hrest⟩ := List.forall_mem_cons.1 hcs
    have hbody := hc.body
    obtain ⟨k, a, ms⟩ := c
    obtain rfl : k = .scene := hc.kind
    rw [removeDutyEventsList, if_neg (by simp [isDutyEvent, Node.event?, StoryKind.event?]),
      removeDutyEvents]
    refine .cons (Sifted.scene ?_ a) (ih hrest)
    exact removeDutyEventsList_sifted hbody fun m hm => removeDutyEvents_body (hbody m hm)

theorem removeDutyEvents_lowered (hn : StoryOf sequences n) :
    Lowered (Rewritten sequences Eq Relieved) n (removeDutyEvents n) := by
  obtain ⟨k, a, cs⟩ := n
  rw [removeDutyEvents]
  exact ⟨hn.kind, removeDutyEventsList_scenes hn.scenes⟩

end Duties

/-! ## Openings -/

/-- A scene before and after it is opened: a look at its setting stands in front of what it tells. -/
structure Opened (c c' : StoryNode) : Prop where
  scene : SceneOf sequences c'
  sequence : OneSequence c'.children
  attributes : c'.attributes = c.attributes
  events : ∃ setting place o, c.get? .setting = some setting ∧ setting.object? = some place ∧
    IsScenery (some place) o ∧
    c'.events = openingBeats setting { object := o, location := some place } ++ c.events

/-- The node is a look at the setting: a beat that opens a scene, and one at what is nearby is at the scenery. -/
structure LooksAt (setting : Value) (scenery : State) (n : StoryNode) : Prop where
  opening : ∃ e, n.kind = .event e ∧ e.isOpening = true
  children : n.children = []
  subject : n.get? .subject = some setting
  object : n.kind = .event .nearbyDescription → n.get? .object = some (.state scenery)

section Openings

variable {I : Context → Prop} [Lasting I] {E : EditError → Prop} {n c : StoryNode}
  {cs : List StoryNode} {setting : Value} {scenery : State}

omit [Lasting I] in
theorem looksAt_of_mem (hn : n ∈ openingBeats setting scenery) : LooksAt setting scenery n := by
  simp only [openingBeats, List.mem_cons, List.not_mem_nil, or_false] at hn
  rcases hn with rfl | rfl | rfl
  · exact ⟨⟨_, rfl, rfl⟩, rfl, rfl, by rintro ⟨⟩⟩
  · exact ⟨⟨_, rfl, rfl⟩, rfl, rfl, fun _ => rfl⟩
  · exact ⟨⟨_, rfl, rfl⟩, rfl, rfl, by rintro ⟨⟩⟩

omit [Lasting I] in
theorem LooksAt.body {ks : List StoryKind} (h : LooksAt setting scenery n) : Body ks n := by
  obtain ⟨_, a, _⟩ := n
  obtain ⟨⟨e, rfl, -⟩, rfl, -, -⟩ := h
  exact .beat e a

theorem openScene_ends (hc : SceneOf sequences c)
    (hmalformed : c.objectIn .setting = none → E (.malformedScene c.summary))
    (hscenery : ∀ place, c.objectIn .setting = some place →
      (∀ p, place.place? = some p → p.hasScenery = false) → E (.noScenery place.name)) :
    Ends I E (Opened c) (openScene c) := by
  unfold Node.objectIn at hmalformed hscenery
  unfold openScene
  split
  · rename_i hsetting
    rw [hsetting] at hmalformed
    exact Ends.throw (hmalformed rfl)
  · rename_i setting hsetting
    rw [hsetting] at hmalformed hscenery
    split
    · rename_i hobject
      exact Ends.throw (hmalformed hobject)
    · rename_i place hplace
      refine (Ends.drawn (pickSceneryOf_yields (some place))).bind fun scenery hpicked => ?_
      cases scenery with
      | none => exact Ends.throw (hscenery place hplace (hpicked.2 rfl))
      | some o =>
        have hbody : Body sequences (sequence c.children) := .group List.mem_cons_self {} hc.body
        have hbeats : (openingBeats setting { object := o, location := some place }).flatMap
          Node.events = openingBeats setting { object := o, location := some place } := rfl
        have hscene : SceneOf sequences (c.withChildren [sequence
            (openingBeats setting { object := o, location := some place }
              ++ [sequence c.children])]) := by
          refine ⟨hc.kind, fun m hm => ?_⟩
          rw [List.mem_singleton.1 hm]
          refine .group List.mem_cons_self {} fun d hd => ?_
          rcases List.mem_append.1 hd with hd | hd
          · exact (looksAt_of_mem hd).body
          · exact List.mem_singleton.1 hd ▸ hbody
        refine Ends.pure ⟨hscene, ⟨_, rfl, rfl⟩, rfl, setting, place, o, hsetting, hplace,
          hpicked.1 o rfl, ?_⟩
        rw [hscene.events_eq, hc.events_eq, Node.withChildren, List.flatMap_singleton,
          events_sequence, List.flatMap_append, hbeats, List.flatMap_singleton, events_sequence]

omit [Lasting I] in
theorem describeScenesList_ends (hcs : ∀ c ∈ cs, SceneOf sequences c)
    (h : ∀ c ∈ cs, Ends I E (Opened c) (openScene c)) :
    Ends I E (Forall₂ Opened cs) (describeScenesList cs) := by
  induction cs with
  | nil =>
    rw [describeScenesList]
    exact Ends.pure .nil
  | cons c cs ih =>
    obtain ⟨hc, hrest⟩ := List.forall_mem_cons.1 hcs
    obtain ⟨hfirst, hopen⟩ := List.forall_mem_cons.1 h
    obtain ⟨k, a, ms⟩ := c
    obtain rfl : k = .scene := hc.kind
    rw [describeScenesList, describeScenes, if_pos rfl]
    exact hfirst.bind fun c' hc' => (ih hrest hopen).bind fun cs' hcs' => Ends.pure (.cons hc' hcs')

omit [Lasting I] in
theorem describeScenes_ends (hn : StoryOf sequences n)
    (h : ∀ c ∈ n.children, Ends I E (Opened c) (openScene c)) :
    Ends I E (Lowered Opened n) (describeScenes n) := by
  obtain ⟨k, a, cs⟩ := n
  obtain rfl : k = .story := hn.kind
  rw [describeScenes, if_neg nofun]
  exact (describeScenesList_ends hn.scenes h).bind fun cs' hcs' => Ends.pure ⟨rfl, hcs'⟩

end Openings

end SpaceOpera
