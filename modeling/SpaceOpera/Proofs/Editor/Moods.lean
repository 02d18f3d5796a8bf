import SpaceOpera.Proofs.Editor.Wardrobes

/-!
# Moods

The ledger of moods is carried through a story event by event: at each event a character whom nothing makes
an optimist is in the mood of the last event so far that put it in one (`moodAfter`).  The events that only
change moods are dropped afterwards, or an optimist refuses them in their place, and all that is told later
of a character copies the mood of an event that is there: `edit_moods`.
-/

namespace SpaceOpera

open List (Forall₂)
open StoryNode (ofEvent sequence)

/-! ## The mood at an event -/

/-- The mood that the event puts the character in. -/
def Node.moodFor (n : StoryNode) (who : Object) : Option Mood :=
  if n.subject?.any (· == who) then n.event?.bind Event.moodChange? else none

/-- The mood of a character after the events: the last one that it was put in, or a happy one. -/
def moodAfter (es : List StoryNode) (who : Object) : Mood :=
  (es.filterMap (·.moodFor who)).getLast?.getD .happy

/-- In the events so far the ledger is right about everyone who stands for a name and is no optimist. -/
def MoodsAfter (given : Ledger Object) (es : List StoryNode) (r : MoodRecord) : Prop :=
  ∀ who, given.get? who = some who → who.isOptimist = false →
    (r.moods.get? who).getD .happy = moodAfter es who

/-- A character that is no optimist is in the mood of the events so far. -/
def State.Feels (es : List StoryNode) (s : State) : Prop :=
  s.object.isCharacter = true → s.object.isOptimist = false → s.mood = some (moodAfter es s.object)

/-- The table of the node is in order, and its states are of the objects that stand for their names. -/
def Represented (given : Ledger Object) (k : StoryKind) (a : Attributes) : Prop :=
  WellFormed k a ∧ a.EachState fun s => given.get? s.object = some s.object

section Steps

variable {given : Ledger Object} {es fs before : List StoryNode} {n n' : StoryNode} {k : StoryKind}
  {a a' : Attributes} {who : Object} {r : MoodRecord}

theorem moodAfter_concat :
    moodAfter (es ++ [n]) who = (n.moodFor who).getD (moodAfter es who) := by
  unfold moodAfter
  rw [List.filterMap_append, List.filterMap_cons, List.filterMap_nil]
  cases n.moodFor who with
  | none => simp
  | some m => simp

theorem moodAfter_eq {R : StoryNode → StoryNode → Prop} (h : Forall₂ R es fs)
    (hR : ∀ n n', R n n' → n'.moodFor who = n.moodFor who) : moodAfter fs who = moodAfter es who := by
  have hmoods := congrArg (List.filterMap id) (map_eq_of_forall₂ h hR)
  rw [List.filterMap_map, List.filterMap_map] at hmoods
  exact congrArg (·.getLast?.getD .happy) hmoods

theorem Node.moodFor_eq (hkind : n'.kind = n.kind) (hsubject : n'.subject? = n.subject?) :
    n'.moodFor who = n.moodFor who := by
  rw [Node.moodFor, Node.moodFor, Node.event?, Node.event?, hkind, hsubject]

/-- A mood event writes down the mood that it puts its subject in. -/
theorem getD_recordMood (k : StoryKind) (a : Attributes) (r : MoodRecord) :
    ((((recordMood k a).run r).2.moods.get? who).getD .happy) =
      (Node.moodFor ⟨k, a, []⟩ who).getD ((r.moods.get? who).getD .happy) := by
  unfold recordMood Node.moodFor Node.subject? Node.objectIn Node.get? Node.event?
  cases k.event?.bind Event.moodChange? with
  | none => simp; rfl
  | some mood =>
    cases (a.get? .subject).bind Value.object? with
    | none => rfl
    | some o =>
      change (((r.moods.insert o mood).get? who).getD .happy) = _
      rw [Ledger.get?_insert, Option.any_some, BEq.comm]
      split <;> rfl

theorem MoodsAfter.record (h : MoodsAfter given es r) (k : StoryKind) (a : Attributes) :
    MoodsAfter given (es ++ [⟨k, a, []⟩]) ((recordMood k a).run r).2 := by
  intro who hwho hplain
  rw [getD_recordMood, moodAfter_concat, h who hwho hplain]

/-- Whoever is asked for the mood is in the last one so far. -/
theorem moodOf_yields {o : Object} (ho : given.get? o = some o) :
    Yields (MoodsAfter given es) (fun mood => o.isOptimist = false → mood = moodAfter es o)
      (moodOf o) := by
  intro r hr
  obtain ⟨r', hrun, hmoods⟩ := moodOf_run o r
  have hr' : MoodsAfter given es r' := by
    intro who hwho hplain
    rw [hmoods, if_neg, hr who hwho hplain]
    rintro ⟨hoptimist, hbeq⟩
    -- an optimist of the same name would be the same object
    rw [Ledger.get?_congr given hbeq, ho] at hwho
    obtain rfl := Option.some.inj hwho
    exact absurd (hplain.symm.trans hoptimist) Bool.false_ne_true
  rw [hrun]
  exact ⟨hr' o ho, hr'⟩

/-- All states of a node feel as the events so far leave them, and nothing about the moods changes. -/
theorem states_feel (ha : Represented given k a) (es : List StoryNode) :
    Yields (MoodsAfter given es) (a.Matched fun _ => Value.Updated fun s s' =>
        s'.object = s.object ∧ s'.Feels es)
      (a.mapM fun _ => Value.mapCharacterM fun s => do
        let mood ← moodOf s.object
        return { s with mood := some mood }) := by
  refine Attributes.mapM_matched (Judgement.yields (MoodsAfter given es)) fun e he => ?_
  refine Value.updated_mapCharacterM (Judgement.yields (MoodsAfter given es)) (fun s hs _ => ?_)
    fun s hother => ⟨rfl, fun hc => absurd (hother.symm.trans hc) Bool.false_ne_true⟩
  have hstands := ha.2 e.1 s (ha.1.get?_of_mem (by rw [← hs]; exact he))
  change Yields (MoodsAfter given es) (fun s' : State => s'.object = s.object ∧ s'.Feels es) _
  exact (moodOf_yields hstands).bind fun mood hmood =>
    Yields.pure ⟨rfl, fun _ hplain => congrArg some (hmood hplain)⟩

theorem moodFor_of_matched {F : State → State → Prop} (ha : a.Matched (fun _ => Value.Updated F) a')
    (hF : ∀ s s', F s s' → s'.object = s.object) (cs ds : List StoryNode) :
    Node.moodFor ⟨k, a', cs⟩ who = Node.moodFor ⟨k, a, ds⟩ who :=
  Node.moodFor_eq rfl (objectIn_updated hF ha.changed .subject)

/-- What the pass does at one node: a mood event counts first, then the states are asked for. -/
abbrev moodStep (k : StoryKind) (a : Attributes) : StateM MoodRecord Attributes := do
  recordMood k a
  a.mapM fun _ => Value.mapCharacterM fun s => do
    let mood ← moodOf s.object
    return { s with mood := some mood }

/-- All states of an event feel as the events up to it leave them. -/
theorem stepsAlong_moods (ha : Represented given k a) :
    Node.StepsAlong (·.event?.isSome) (MoodsAfter given)
      (fun before n => n.attributes.EachState (State.Feels (before ++ [n]))) k (moodStep k a) := by
  intro before r hr
  rw [Node.run_bind]
  split
  · have hafter : ∀ p : Attributes × MoodRecord, a.Matched (fun _ => Value.Updated fun s s' =>
          s'.object = s.object ∧ s'.Feels (before ++ [⟨k, a, []⟩])) p.1 →
        MoodsAfter given (before ++ [⟨k, a, []⟩]) p.2 → ∀ cs,
          p.1.EachState (State.Feels (before ++ [⟨k, p.1, cs⟩])) ∧
            MoodsAfter given (before ++ [⟨k, p.1, cs⟩]) p.2 := by
      intro p hmatched hp cs
      have hsame : ∀ who, moodAfter (before ++ [⟨k, p.1, cs⟩]) who =
          moodAfter (before ++ [⟨k, a, []⟩]) who := by
        intro who
        rw [moodAfter_concat, moodAfter_concat, moodFor_of_matched hmatched (fun _ _ h => h.1) cs []]
      refine ⟨ha.2.updated hmatched.changed fun s s' _ h => ?_, fun who hwho hplain => ?_⟩
      · unfold State.Feels
        rw [hsame]
        exact h.2
      · rw [hsame, hp who hwho hplain]
    obtain ⟨hmatched, hr'⟩ := states_feel ha (before ++ [⟨k, a, []⟩]) _ (hr.record k a)
    exact hafter _ hmatched hr'
  · rename_i hevent
    have hrecord : ((recordMood k a).run r).2 = r := by
      unfold recordMood
      rw [Option.not_isSome_iff_eq_none.1 hevent]
      rfl
    rw [hrecord]
    exact (states_feel ha before r hr).2

/-- With moods, every event has its characters feel as the events up to it leave them. -/
theorem assignMoods_following {n : StoryNode} (hn : n.Everywhere (Represented given)) :
    Following (fun before n => n.attributes.EachState (State.Feels (before ++ [n]))) []
      (assignMoods {} n).1.events :=
  (Node.annotate_along (f := fun _ => moodStep) (V := Represented given)
    (fun _ _ _ ha => stepsAlong_moods ha) () [] {} (fun _ _ _ => rfl) n hn).1

end Steps

/-! ## Events with their past -/

/-- In place of an event that puts an optimist in a mood, it is told that the optimist stays happy. -/
structure Renounces (n n' : StoryNode) : Prop where
  kind : n'.kind = .event .characterStaysHappy
  mood : ∃ mood, n.event?.bind Event.moodChange? = some mood ∧ mood ≠ .happy
  optimist : ∃ s, n'.get? .subject = some (.state s) ∧ s.object.isOptimist = true ∧
    n.subject?.any (· == s.object) = true

/-- An event that comes with its past is carried over, its characters feeling as the events up to it leave
them, or it is renounced. -/
def Recounts (story : StoryNode) (keep : StoryNode → Bool) (p : List StoryNode × StoryNode)
    (n : StoryNode) : Prop :=
  Carries (SceneryIn story) (State.Feels (p.1 ++ [p.2])) p.2 n ∧ keep p.2 = true ∨ Renounces p.2 n

/-- A beat of the editor's own that stands in no event's place. -/
def Node.Incidental (n : StoryNode) : Prop :=
  n.isInserted = true ∧ n.kind ≠ .event .characterStaysHappy

/-- The events to keep are told, with the moods of their characters; what is told besides is a renunciation
in place of an event or one of the editor's other beats. -/
abbrev Recounted (story : StoryNode) (keep : StoryNode → Bool) : List StoryNode → Prop :=
  Retold (Recounts story keep) (fun p => keep p.2 = false) Node.Incidental (withPast [] story.events)

section Telling

variable {scenery : Object → Prop} {P P' : State → Prop} {F : State → State → Prop}
  {story n n' : StoryNode} {keep : StoryNode → Bool} {es es' : List StoryNode} {who : Object}

theorem Carries.of_eachState (h : Carries scenery P n n') (k : n'.attributes.EachState P') :
    Carries scenery P' n n' := by
  refine ⟨h.kind, fun r => ?_⟩
  rcases h.roles r with hr | ⟨hpose, rfl, s, hs, hscenery, -⟩
  · have hk : ∀ s, n'.get? r = some (.state s) → P' s := k r
    generalize n.get? r = v at hr
    generalize n'.get? r = v' at hr hk
    cases hr with
    | none => exact Or.inl .none
    | @some v v' hv =>
      cases v with
      | object o =>
        obtain ⟨s, rfl, ho, -⟩ := hv
        exact Or.inl (.some ⟨s, rfl, ho, hk s rfl⟩)
      | group g => exact Or.inl (.some hv)
      | state s => exact hv.elim
  · exact Or.inr ⟨hpose, rfl, s, hs, hscenery, k .object s hs⟩

theorem Carries.subject?_any (h : Carries scenery P n n') (who : Object) :
    n'.subject?.any (· == who) = n.subject?.any (· == who) := by
  unfold Node.subject? Node.objectIn
  rcases h.roles .subject with hr | ⟨-, hrole, -⟩
  · generalize n.get? .subject = v at hr
    generalize n'.get? .subject = v' at hr
    cases hr with
    | none => rfl
    | @some v v' hv =>
      cases v with
      | object o =>
        obtain ⟨s, rfl, ho, -⟩ := hv
        exact BEq.congr_left ho
      | group g =>
        obtain rfl : v' = .group g := hv
        rfl
      | state s => exact hv.elim
  · cases hrole

theorem Carries.event?_eq (h : Carries scenery P n n') : n'.event? = n.event? :=
  congrArg StoryKind.event? h.kind

theorem Carries.changesMood_eq (h : Carries scenery P n n') : n'.changesMood = n.changesMood := by
  rw [Node.changesMood, Node.changesMood, h.event?_eq]

theorem Carries.isDutyEvent_eq (h : Carries scenery P n n') : isDutyEvent n' = isDutyEvent n := by
  rw [isDutyEvent, isDutyEvent, h.event?_eq]

theorem Carries.moodFor_eq (h : Carries scenery P n n') : n'.moodFor who = n.moodFor who := by
  rw [Node.moodFor, Node.moodFor, h.subject?_any, h.event?_eq]

/-- Once moods are assigned, all events are carried over as their characters feel. -/
theorem forall₂_feels (h : Forall₂ (Carries scenery P) es es')
    (k : Following (fun before n => n.attributes.EachState (State.Feels (before ++ [n]))) [] es') :
    Forall₂ (fun p => Carries scenery (State.Feels (p.1 ++ [p.2])) p.2) (withPast [] es) es' := by
  refine forall₂_withPast h .nil k fun past past' n n' hpast hn hfeels => ?_
  refine hn.of_eachState (hfeels.imp fun s hs => ?_)
  have hsame : moodAfter (past' ++ [n']) s.object = moodAfter (past ++ [n]) s.object :=
    moodAfter_eq (List.rel_append hpast (.cons hn .nil)) fun _ _ h => h.moodFor_eq
  unfold State.Feels at hs ⊢
  rwa [hsame] at hs

theorem Renounces.of_refuses {e : StoryNode} (h : Carries scenery P n e) (k : Refuses e n') :
    Renounces n n' := by
  obtain ⟨v, e', hv, -, -, rfl⟩ := k.echoes
  obtain ⟨mood, hmood, hunhappy⟩ := k.mood
  obtain ⟨o, ho, hoptimist⟩ := (Option.any_eq_true _ _).1 k.optimist
  rw [Node.subject?, Node.objectIn, hv] at ho
  obtain ⟨s, rfl, rfl, -⟩ := h.eq_state hv ho
  refine ⟨k.kind, ⟨mood, by rw [← h.event?_eq, hmood], hunhappy⟩, s, get?_set_self _ _ _, hoptimist, ?_⟩
  rw [← h.subject?_any, Node.subject?, Node.objectIn, hv]
  exact BEq.rfl

/-- Where mood events are dropped or refused, the others are told with the moods of their characters. -/
theorem recounted_of_calmed (h : Forall₂ (fun p : List StoryNode × StoryNode =>
      Carries (SceneryIn story) (State.Feels (p.1 ++ [p.2])) p.2) (withPast [] story.events) es)
    (k : Calmed es es') : Recounted story (!·.changesMood) es' := by
  refine (Retold.of_forall₂ (D := fun _ => False) (Q := fun _ => False) h).comp k ?_ ?_ ?_ ?_ ?_
  · -- what is told changes no mood itself, or it refuses one
    rintro p n n' hn (⟨rfl, hmood⟩ | hrefuses)
    · exact Or.inl ⟨hn, congrArg not (hn.changesMood_eq.symm.trans hmood)⟩
    · exact Or.inr (.of_refuses hn hrefuses)
  · exact fun _ h => h.elim
  · exact fun p n hn hmood => congrArg not (hn.changesMood_eq.symm.trans hmood)
  · exact fun _ _ h => h.elim
  · exact fun _ h => h.elim

/-- Where states are changed but for their moods, the events are told as before. -/
theorem Recounted.updated (h : Recounted story keep es)
    (k : Forall₂ (Redrawn fun _ => Attributes.Updated F) es es')
    (hF : ∀ s s', F s s' → s'.object = s.object ∧ s'.mood = s.mood) : Recounted story keep es' := by
  refine h.comp (Retold.of_forall₂ (D := fun _ => False) (Q := fun _ => False) k) ?_
    (fun _ h => h) (fun _ _ _ h => h.elim) ?_ fun _ h => h.elim
  · rintro p n n' (⟨hn, hkeep⟩ | hn) hnn
    · refine Or.inl ⟨hn.updated hnn fun s s' hs hss => ⟨(hF s s' hss).1, ?_⟩, hkeep⟩
      obtain ⟨hobject, hmood⟩ := hF s s' hss
      unfold State.Feels at hs ⊢
      rwa [hobject, hmood]
    · obtain ⟨s, hs, hoptimist, hsubject⟩ := hn.optimist
      obtain ⟨s', hs', hss⟩ := updated_state hnn.attributes hs
      obtain ⟨hobject, -⟩ := hF s s' hss
      exact Or.inr ⟨hnn.kind.trans hn.kind, hn.mood, s', hs', hobject ▸ hoptimist, hobject ▸ hsubject⟩
  · rintro n n' ⟨hinserted, hkind⟩ hnn
    rw [Node.isInserted, Node.event?, ← hnn.kind] at hinserted
    exact ⟨hinserted, hnn.kind ▸ hkind⟩

/-- Beats of the editor's own may be put in, as long as they are no renunciations. -/
theorem Recounted.padded {Q : StoryNode → Prop} (h : Recounted story keep es) (k : Padded Eq Q es es')
    (hQ : ∀ n, Q n → n.Incidental) : Recounted story keep es' :=
  h.comp (Retold.of_padded (D := fun _ => False) (k.imp (fun _ _ h => h) hQ)) (fun _ _ _ h heq => heq ▸ h)
    (fun _ h => h) (fun _ _ _ h => h.elim) (fun _ _ h heq => heq ▸ h) fun _ h => h

/-- With the duty events, the last ones that are not to be told are dropped. -/
theorem Recounted.relieved (h : Recounted story (!·.changesMood) es) (k : Relieved es es') :
    Recounted story Node.isLasting es' := by
  rw [k]
  refine h.comp (Retold.filter (!isDutyEvent ·) (fun _ => False) es) ?_ ?_ ?_ ?_ fun _ h => h.elim
  · rintro p n n' (⟨hn, hkeep⟩ | hn) ⟨rfl, hduty⟩
    · rw [hn.isDutyEvent_eq] at hduty
      have hkeep : (!p.2.changesMood) = true := hkeep
      exact Or.inl ⟨hn, by rw [← isLasting_eq, hduty, hkeep]; rfl⟩
    · exact Or.inr hn
  · intro p hmood
    have hmood : (!p.2.changesMood) = false := hmood
    rw [← isLasting_eq, hmood, Bool.false_and, Bool.and_false]
  · rintro p n (⟨hn, -⟩ | hn) hduty
    · rw [hn.isDutyEvent_eq] at hduty
      rw [← isLasting_eq, hduty, Bool.false_and]
    · -- a renunciation is no duty event
      rw [isDutyEvent, Node.event?, hn.kind] at hduty
      cases hduty
  · rintro n n' h ⟨rfl, -⟩
    exact h

end Telling

/-! ## The editor -/

theorem steady_represented {given : Ledger Object} : Steady (Represented given) := fun _ _ _ h ha =>
  ⟨h.1.matched ha, h.2.updated ha.changed fun s s' hs hss => by rw [hss.1]; exact hs⟩

/-- The story has states for its objects, of those that stand for their names, and tells event by event what
it came with. -/
structure Stated (story : StoryNode) (given : Ledger Object) (n : StoryNode) : Prop where
  scenes : StoryOf sequences n
  represented : n.Everywhere (Represented given)
  events : Forall₂ (Carries (SceneryIn story) fun s => given.get? s.object = some s.object)
    story.events n.events

section Stating

variable {I : Context → Prop} [Lasting I] {story n n' : StoryNode} {given : Ledger Object}
  {k : StoryKind} {a a' : Attributes} {s s' : State}

theorem stated_yields (hscenes : StoryOf sequences story) (hbare : story.Everywhere Bare)
    (htables : story.Everywhere WellFormed) :
    Yields I (fun n => ∃ given, Stated story given (assignEmptyStates n))
      (resolveScenery none (mergeAdjacentScenes story)) := by
  obtain ⟨hmerged, -, hevents⟩ := mergeAdjacentScenes_story hscenes
  have hN := covered_any story
  have hfreshened := freshened_yields (I := I) (E := Node.Alone WellFormed)
    (fun _ _ => posable_wellFormed)
    (Node.everywhere_iff_conforms.1 (mergeAdjacentScenes_everywhere htables)) hbare hN
  refine (((resolveScenery_yields hmerged).and
    (resolveScenery_everywhere (mergeAdjacentScenes_everywhere hN))).and hfreshened).imp fun n hn => ?_
  obtain ⟨⟨hresolved, hnamed⟩, hfresh⟩ := hn
  have hempty := assignEmptyStates_lowered (hresolved.storyOf fun _ _ h => h.scene)
  have hstates := hempty.storyOf fun _ _ h => h.scene
  refine ⟨firstGiven n, hstates, ?_, ?_⟩
  · exact hfresh.everywhere fun k a _ ha => ⟨⟨ha.wellFormed, ha.eachState.imp fun _ hs => hs.2.2⟩, rfl⟩
  · have hcarried : Lowered (fun c₀ c => Forall₂ (Carries (SceneryIn story)
        fun s => (firstGiven n).get? s.object = some s.object) c₀.events c.events)
        (mergeAdjacentScenes story) (assignEmptyStates n) :=
      lowered_fresh (mergeAdjacentScenes_everywhere hbare) hresolved
        (fun m hm => given_firstGiven hnamed hm) hempty fun c₀ _ _ hc₀ hbare h hgiven h' =>
          (forall₂_fresh hbare h hgiven h').imp fun _ _ hn =>
            hn.imp (fun _ => sceneryIn_of_merged hscenes hc₀) fun _ hs => hs.2
    rw [← hevents]
    exact hcarried.events hmerged hstates fun _ _ h => h

/-- States change but stay those of their objects. -/
theorem Stated.updated {F : StoryNode → State → State → Prop} (h : Stated story given n)
    (k : Lowered (fun c => Annotated sequences (fun _ => Attributes.Updated (F c)) c) n n')
    (hF : ∀ c s s', F c s s' → s'.object = s.object) (hn' : n'.Everywhere (Represented given)) :
    Stated story given n' := by
  have hscenes := k.storyOf fun _ _ h => h.scene
  have hsame : Forall₂ (Redrawn fun _ => Attributes.Updated fun s s' => s'.object = s.object)
      n.events n'.events := k.events h.scenes hscenes fun c _ h => h.events.imp fun _ _ hn =>
    ⟨hn.kind, hn.attributes.imp fun _ _ _ hv => hv.imp (hF c)⟩
  refine ⟨hscenes, hn', forall₂_comp h.events hsame fun _ _ _ hn hnn => ?_⟩
  exact hn.updated hnn fun s s' hs hss => ⟨hss, by rw [hss]; exact hs⟩

theorem stated_of_locations (h : Stated story given n) : Stated story given (assignLocations none n) :=
  h.updated (assignLocations_lowered h.scenes) (fun _ _ _ hss => hss.1)
    (steady_represented.located h.represented)

theorem stated_of_costumes (h : Stated story given n) :
    Yields I (fun p => Stated story given p.1) ((assignCostumes n).run {}) :=
  ((assignCostumes_yields h.scenes {}).and (steady_represented.dressed h.represented)).imp
    fun _ hp => h.updated hp.1 (fun _ _ _ hss => hss.1.object) hp.2

/-- With moods, the events are carried over as their characters feel. -/
theorem Stated.feels (h : Stated story given n) :
    Forall₂ (fun p => Carries (SceneryIn story) (State.Feels (p.1 ++ [p.2])) p.2)
      (withPast [] story.events) (assignMoods {} n).1.events := by
  have hmoods := assignMoods_lowered {} h.scenes
  have hredrawn := hmoods.events h.scenes (hmoods.storyOf fun _ _ h => h.scene) fun _ _ h => h.events
  have hcarried : Forall₂ (Carries (SceneryIn story) fun _ => True) story.events
      (assignMoods {} n).1.events := forall₂_comp h.events hredrawn fun _ _ _ hn hnn =>
    hn.updated hnn fun _ _ _ hss => ⟨hss.moody.1.object, trivial⟩
  exact forall₂_feels hcarried (assignMoods_following h.represented)

end Stating

section Recounting

variable {I : Context → Prop} [Lasting I] {story n n' : StoryNode}

theorem incidental_of_event? {p : Event → Bool} (h : n.event?.any p = true)
    (hp : ∀ e, p e = true → e.isInserted = true ∧ e ≠ .characterStaysHappy) : n.Incidental := by
  obtain ⟨e, he, hpe⟩ := (Option.any_eq_true _ _).1 h
  refine ⟨(Option.any_eq_true _ _).2 ⟨e, he, (hp e hpe).1⟩, fun hkind => (hp e hpe).2 ?_⟩
  rw [Node.event?, hkind] at he
  exact (Option.some.inj he).symm

theorem incidental_of_portrait (h : n.isPortrait = true) : n.Incidental :=
  incidental_of_event? h fun e he => by
    cases e <;> first | exact ⟨rfl, by decide⟩ | cases he

theorem incidental_of_opening (h : n.isOpening = true) : n.Incidental :=
  incidental_of_event? h fun e he => by
    cases e <;> first | exact ⟨rfl, by decide⟩ | cases he

theorem padded_of_opened {c c' : StoryNode} (h : Opened c c') :
    Padded Eq Node.Incidental c.events c'.events := by
  obtain ⟨setting, place, o, -, -, -, hevents⟩ := h.events
  rw [hevents]
  exact .putAll (fun m hm => incidental_of_opening (looksAt_of_mem hm).isOpening) (.refl _ _)

/-- The annotated story tells the one that it was, with the moods of its characters. -/
theorem annotated_recounts (hscenes : StoryOf sequences story) (hbare : story.Everywhere Bare)
    (htables : story.Everywhere WellFormed) :
    Ends (fun _ => True) (fun _ => True) (fun n => Recounted story Node.isLasting n.events)
      (Editor.annotated story) := by
  refine annotated_parts (I := fun _ => True)
    (A := fun n => ∃ given, Stated story given (assignEmptyStates n))
    (B := fun n => ∃ given, Stated story given n)
    (C := fun n => StoryOf sequences n ∧ Recounted story (!·.changesMood) n.events)
    (stated_yields hscenes hbare htables) ?_ ?_ ?_
  · rintro n ⟨given, hn⟩
    exact (stated_of_costumes (stated_of_locations hn)).imp fun _ hp => ⟨given, hp⟩
  · rintro n ⟨given, hn⟩
    have hmoods := (assignMoods_lowered {} hn.scenes).storyOf fun _ _ h => h.scene
    refine (removeMoodModifiers_yields hmoods).imp fun n' hn' => ?_
    have hscenes' := hn'.storyOf fun _ _ h => h.scene
    refine ⟨hscenes', recounted_of_calmed hn.feels ?_⟩
    exact hn'.told hmoods hscenes' (fun _ _ h => h.events) .nil Retold.append
  · rintro n ⟨hn, hrecounted⟩
    have hduties := assignDuties_lowered {} hn
    have hduties' := hduties.storyOf fun _ _ h => h.scene
    have hburdened := hrecounted.updated (hduties.events hn hduties' fun _ _ h => h.events)
      fun s s' hss => by
        obtain ⟨duties, rfl⟩ := hss
        exact ⟨rfl, rfl⟩
    have hremoved := removeDutyEvents_lowered hduties'
    have hremoved' := hremoved.storyOf fun _ _ h => h.scene
    have hrelieved := hburdened.relieved
      (hremoved.told hduties' hremoved' (fun _ _ h => h.events) rfl Relieved.append)
    refine (describeScenes_ends hremoved' fun c hc => openScene_ends (hremoved'.scenes c hc)
      (fun _ => trivial) fun _ _ _ => trivial).imp (fun _ he => he) fun n' hn' => ?_
    exact hrelieved.padded (hn'.told hremoved' (hn'.storyOf fun _ _ h => h.scene)
      (fun _ _ => padded_of_opened) .nil Padded.append) fun _ h => h

theorem described_recounts {N : Object → Prop} {n₀ : StoryNode} (introduced : Roster)
    (hn : OpenStory N n₀ n) (h : Recounted story Node.isLasting n.events) :
    Yields I (fun p => OpenStory N n₀ p.1 ∧ Recounted story Node.isLasting p.1.events)
      (Editor.described introduced n) := by
  refine (described_yields introduced hn).imp fun p hp => ?_
  obtain ⟨hopen, es, hportrayed, hmarked⟩ := hp
  refine ⟨hopen, (h.padded hportrayed.padded fun _ => incidental_of_portrait).updated hmarked ?_⟩
  rintro s _ ⟨firstOccurrence, rfl⟩
  exact ⟨rfl, rfl⟩

theorem arranged_recounts {N : Object → Prop} {n₀ : StoryNode} (chance : Nat) (hn : OpenStory N n₀ n)
    (h : Recounted story Node.isLasting n.events) :
    Ends I (fun _ => True) (fun out => Recounted story Node.isLasting out.events)
      (Editor.arranged chance n) := by
  refine (arranged_ends chance hn).imp (fun _ he => he.elim) fun out hprinted => ?_
  have hscenes : StoryOf arrangement out := hprinted.storyOf fun _ _ h => h.layout.scene
  refine h.updated (hprinted.events hn.story hscenes fun _ _ h => h.events) ?_
  rintro s _ ⟨isReferent, rfl⟩
  exact ⟨rfl, rfl⟩

/-- The edited story tells the one that came, with the moods of its characters. -/
theorem recounted_of_edit {out : StoryNode} (e : Editor) (narration : Narration)
    (hscenes : StoryOf sequences story) (hbare : story.Everywhere Bare)
    (htables : story.Everywhere WellFormed)
    (hout : ((e.edit story).run narration).1.1 = .ok out) :
    Recounted story Node.isLasting out.events := by
  obtain ⟨-, d, -, -, hrecounted⟩ := exists_of_edit
    (O := fun _ out => Recounted story Node.isLasting out.events) e narration
    ((annotated_opens hscenes hbare).and (annotated_recounts hscenes hbare htables))
    (fun _ hn => described_recounts e.introduced hn.1 hn.2)
    (fun _ _ _ hp => arranged_recounts e.conjoinChance hp.1 hp.2) hout
  exact hrecounted

end Recounting

/-! ## Everybody's mood -/

/-- A character has a mood, and an optimist is happy. -/
def State.InMood (s : State) : Prop :=
  s.object.isCharacter = true → ∃ m, s.mood = some m ∧ (s.object.isOptimist = true → m = .happy)

/-- Nobody is near the setting of a scene. -/
def Deserted (k : StoryKind) (a : Attributes) : Prop :=
  k = .scene → ∀ place, (a.get? .setting).bind Value.object? = some place → Unpeopled place

/-- All states of the node are in their moods, and nobody is there whom no event brings along. -/
structure Spirited (k : StoryKind) (a : Attributes) : Prop where
  setting : Deserted k a
  moods : a.EachState State.InMood

section Spirits

variable {story n : StoryNode} {k : StoryKind} {a a' : Attributes} {s s' : State}

theorem Deserted.updated {F : State → State → Prop} (h : Deserted k a) (ha : a.Updated F a')
    (hF : ∀ s s', F s s' → s'.object = s.object) : Deserted k a' := by
  intro hk place hplace
  rw [objectIn_updated hF ha] at hplace
  exact h hk place hplace

theorem steady_deserted : Steady Deserted := fun _ _ _ h ha => h.updated ha.changed fun _ _ hss => hss.1

theorem Spirited.updated {F : State → State → Prop} (h : Spirited k a)
    (ha : a.Updated F a')
    (hF : ∀ s s', F s s' → s'.object = s.object ∧ s'.mood = s.mood) : Spirited k a' := by
  refine ⟨h.setting.updated ha fun s s' hss => (hF s s' hss).1,
    h.moods.updated ha fun s s' hs hss => ?_⟩
  obtain ⟨hobject, hmood⟩ := hF s s' hss
  rw [State.InMood, hobject, hmood]
  exact hs

theorem State.Tempered.inMood (h : s.Tempered s') : s'.object = s.object ∧ s'.InMood := by
  rcases h with ⟨hother, rfl⟩ | ⟨m, rfl, hm⟩
  · exact ⟨rfl, fun hc => absurd (hother.symm.trans hc) Bool.false_ne_true⟩
  · exact ⟨rfl, fun _ => ⟨m, rfl, hm⟩⟩

theorem Deserted.tempered (h : Deserted k a) (ha : a.Matched (fun _ => Value.Updated State.Tempered) a') :
    Spirited k a' := by
  refine ⟨h.updated ha.changed fun _ _ hss => hss.inMood.1, ?_⟩
  have hany : a.EachState fun _ => True := fun _ _ _ => trivial
  exact hany.updated ha.changed fun _ _ _ hss => hss.inMood.2

theorem stable_spirited : Stable (Node.Alone Spirited) where
  same _ _ := rfl
  group _ _ hk := ⟨fun h => absurd h (StoryKind.ne_scene_of_isGroup hk), Attributes.eachState_empty⟩
  aside ha hv _ _ := ⟨nofun, ha.moods.aside hv⟩

/-- Whoever is seen when a scene opens has been there before. -/
theorem opening_spirited : Opening (Node.Alone Spirited) (Node.Alone Spirited) := by
  intro x a y v place o ha hv hplace ho
  have hthing := isCharacter_of_unpeopled (ha.setting rfl place (by rw [hv]; exact hplace)) ho
  have hscenery : State.InMood { object := o, location := some place } := fun hc =>
    absurd (hthing.symm.trans hc) Bool.false_ne_true
  refine ⟨ha, fun _ hc => hc, fun m hm => ?_⟩
  obtain ⟨⟨e, he⟩, hmoods⟩ := eachState_of_opening (ha.moods.of_value hv) hscenery m hm
  exact ⟨fun hk => absurd hk (he ▸ StoryKind.event_ne_scene e), hmoods⟩

/-- Once the story is annotated, everyone in it is in a mood. -/
theorem annotated_spirited (hbare : story.Everywhere Bare)
    (hdeserted : story.Everywhere (DesertedIn story)) :
    Ends (fun _ => True) (fun _ => True) (Node.Conforms (Node.Alone Spirited) ())
      (Editor.annotated story) := by
  have hmerged := Node.everywhere_iff_conforms.1 (mergeAdjacentScenes_everywhere hdeserted)
  refine annotated_parts (I := fun _ => True)
    (A := fun n => (assignEmptyStates n).Everywhere Deserted) (B := Node.Everywhere Deserted)
    (C := Node.Conforms (Node.Alone Spirited) ()) ?_ ?_ ?_ ?_
  · have hposable : Posable (DesertedIn story) := posable_of_scene fun _ _ hk h => absurd h hk
    refine (freshened_yields (E := Node.Alone (DesertedIn story)) (fun _ _ => hposable) hmerged hbare
      (covered_knows story)).imp fun n hn => ?_
    exact hn.everywhere fun k a _ ha => ⟨fun hk _ => ha.unpeopled (fun _ h => h) hk, rfl⟩
  · exact fun n hn => steady_deserted.dressed (steady_deserted.located hn)
  · exact fun n hn => removeMoodModifiers_conforms stable_spirited _ (assignMoods_conforms {}
      (fun _ _ _ _ _ ha ha' => ha.tempered ha') (Node.everywhere_iff_conforms.1 hn))
  · intro n hn
    refine describeScenes_conforms stable_spirited stable_spirited opening_spirited
      (fun _ _ _ _ ha => ha) _
      (removeDutyEvents_conforms _ (assignDuties_conforms {} (fun _ k a a' _ ha ha' => ?_) hn))
    refine ha.updated ha'.changed ?_
    rintro s _ ⟨duties, rfl⟩
    exact ⟨rfl, rfl⟩

end Spirits

section Editing

variable {story out : StoryNode}

/-- In what comes out of the editor every character has a mood and optimists are happy; the events that came
with the story are told with the moods that it leaves the others in; and whoever stays happy in place of a
mood of its own is an optimist.  Nobody may be near what the story knows by the names of a setting. -/
theorem edit_moods (e : Editor) (narration : Narration) (hscenes : StoryOf sequences story)
    (hbare : story.Everywhere Bare) (htables : story.Everywhere WellFormed)
    (hdeserted : story.Everywhere (DesertedIn story))
    (hout : ((e.edit story).run narration).1.1 = .ok out) :
    (∀ s, out.Shows s → s.InMood) ∧ Recounted story Node.isLasting out.events := by
  refine ⟨?_, recounted_of_edit e narration hscenes hbare htables hout⟩
  have hreliable : Reliable (Node.Alone Spirited) := by
    refine fun _ k a a' _ ha ha' => ha.updated ha' ?_
    rintro s _ ⟨isReferent, firstOccurrence, rfl⟩
    exact ⟨rfl, rfl⟩
  have hspirited := Node.everywhere_iff_conforms.2 (conforms_of_edit stable_spirited hreliable e narration
    (annotated_spirited hbare hdeserted) hout)
  rintro s ⟨m, hm, r, hs⟩
  exact (hspirited m hm).moods r s hs

end Editing

section Runs

theorem mockUp_wellFormed : mockUp.Everywhere WellFormed := by
  have hall : ∀ m ∈ mockUp.preorder, WellFormed m.kind m.attributes := by decide
  exact hall

/-- On the bridge the heroine is happy like her friend, who takes nothing to heart. -/
theorem edit_moods_tableau :
    StoryOf sequences tableau ∧ tableau.Everywhere Bare ∧ tableau.Everywhere WellFormed ∧
      tableau.Everywhere (DesertedIn tableau) ∧
      ∃ out, (((⟨50, {}⟩ : Editor).edit tableau).run stillness).1.1 = .ok out ∧
        (∀ s, out.Shows s → s.InMood) ∧ Recounted tableau Node.isLasting out.events := by
  obtain ⟨out, hout⟩ := exists_edit_tableau _ _
  exact ⟨tableau_draft.scenes, tableau_draft.bare, tableau_wellFormed, tableau_deserted, out, hout,
    edit_moods _ _ tableau_draft.scenes tableau_draft.bare tableau_wellFormed tableau_deserted hout⟩

/-- That nobody is near the settings of the scenes themselves is not enough: the captain of the model is in
no mood. -/
theorem mockUp_moodless :
    StoryOf sequences mockUp ∧ mockUp.Everywhere Bare ∧ mockUp.Everywhere WellFormed ∧
      (∀ c ∈ mockUp.children, ∀ place, c.objectIn .setting = some place → Unpeopled place) ∧
      ¬∀ out, (((⟨15, {}⟩ : Editor).edit mockUp).run ⟨.ofSeed 0, #[]⟩).1.1 = .ok out →
        ∀ s, out.Shows s → s.object.isCharacter = true → s.mood.isSome = true := by
  refine ⟨mockUp_scenes, mockUp_bare, mockUp_wellFormed, mockUp_settings, fun h => ?_⟩
  obtain ⟨out, hout, c, hc, -, s, ⟨m, hm, hs⟩, hcharacter, -, hmood⟩ := exists_apparition
  have hsome := h out hout s ⟨m, Node.preorder_subset hc hm, hs⟩ hcharacter
  rw [hmood] at hsome
  exact Bool.false_ne_true hsome

end Runs

end SpaceOpera
