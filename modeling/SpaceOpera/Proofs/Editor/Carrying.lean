import SpaceOpera.Proofs.Editor.Blocks
import SpaceOpera.Proofs.Success

/-!
# What a story carries through the editor

`Carried P keep c₀ c` compares a scene `c` on its way through the editor with the scene `c₀` that it began
as: the events of `c₀` that `keep` keeps stand in `c` in their order, each with its kind and with the same
groups and objects in its roles, the objects in states that satisfy `P`; between them stand the editor's own
beats.  There is one lemma for each sort of pass: what it does to the scene is done to the comparison.
-/

namespace SpaceOpera

open List (Forall₂)
open StoryNode (ofEvent)

/-! ## Values -/

/-- What has become of a plain value: a group has stayed, and an object has got a state that satisfies `P`. -/
def Value.Becomes (P : State → Prop) : Value → Value → Prop
  | .object o, v' => ∃ s, v' = .state s ∧ (s.object == o) = true ∧ P s
  | .group g, v' => v' = .group g
  | .state _, _ => False

section Values

variable {P P' : State → Prop} {F : State → State → Prop} {v v' v'' : Value}

theorem rel_comp {α β γ : Type} {R : α → β → Prop} {S : β → γ → Prop} {T : α → γ → Prop}
    {a : Option α} {b : Option β} {c : Option γ} (h : Option.Rel R a b) (k : Option.Rel S b c)
    (hT : ∀ a b c, R a b → S b c → T a c) : Option.Rel T a c := by
  cases h with
  | none =>
    cases k
    exact .none
  | some hab =>
    cases k with
    | some hbc => exact .some (hT _ _ _ hab hbc)

theorem Value.Becomes.updated (h : v.Becomes P v') (k : v'.Updated F v'')
    (hF : ∀ s s', P s → F s s' → s'.object = s.object ∧ P' s') : v.Becomes P' v'' := by
  cases v with
  | object o =>
    obtain ⟨s, rfl, ho, hs⟩ := h
    obtain ⟨s', rfl, hss⟩ := k
    obtain ⟨hobject, hs'⟩ := hF s s' hs hss
    exact ⟨s', rfl, hobject ▸ ho, hs'⟩
  | group g =>
    obtain rfl : v' = .group g := h
    exact k
  | state s => exact h

theorem Value.Becomes.imp (h : v.Becomes P v') (hP : ∀ s, P s → P' s) : v.Becomes P' v' := by
  cases v with
  | object o =>
    obtain ⟨s, hv, ho, hs⟩ := h
    exact ⟨s, hv, ho, hP s hs⟩
  | group g => exact h
  | state s => exact h

/-- What has become of a value and has an object is a state. -/
theorem Value.Becomes.eq_state (h : v.Becomes P v') {o : Object} (ho : v'.object? = some o) :
    ∃ s, v' = .state s ∧ s.object = o ∧ P s := by
  cases v with
  | object o' =>
    obtain ⟨s, rfl, -, hs⟩ := h
    exact ⟨s, rfl, Option.some.inj ho, hs⟩
  | group g =>
    obtain rfl : v' = .group g := h
    cases ho
  | state s => exact h.elim

end Values

/-! ## Events -/

/-- The things that stay where they are in the setting of a scene, by their names. -/
def SceneryOf (c : StoryNode) (o : Object) : Prop :=
  ∃ o', IsScenery (c.objectIn .setting) o' ∧ (o == o') = true

/-- The second event is the first on its way through the editor: only a pose may be at a piece of scenery
instead. -/
structure Carries (scenery : Object → Prop) (P : State → Prop) (n n' : StoryNode) : Prop where
  kind : n'.kind = n.kind
  roles : ∀ r, Option.Rel (Value.Becomes P) (n.get? r) (n'.get? r) ∨
    (n.kind = .event .poseDescription ∧ r = .object ∧
      ∃ s, n'.get? .object = some (.state s) ∧ scenery s.object ∧ P s)

/-- A beat of the editor's own, about a setting with scenery or a character in a state that satisfies `P`. -/
structure Inserted (P : State → Prop) (n : StoryNode) : Prop where
  subject : ∃ e s, n.kind = .event e ∧ n.get? .subject = some (.state s) ∧ P s ∧
    (e.isOpening = true ∧ (∃ p, s.object.place? = some p ∧ p.hasScenery = true) ∨
      e.isAside = true ∧ s.object.isCharacter = true)
  object : n.kind = .event .nearbyDescription → ∃ s, n.get? .object = some (.state s)

section Events

theorem get?_set_self (n : StoryNode) (r : Role) (v : Value) : (n.set r v).get? r = some v := by
  rw [Node.get?, Node.set, Attributes.get?_set, if_pos rfl]

variable {scenery : Object → Prop} {P P' : State → Prop} {F : State → State → Prop}
  {n n' n'' : StoryNode}

theorem updated_state {a a' : Attributes} {r : Role} {s : State} (h : a.Updated F a')
    (hs : a.get? r = some (.state s)) : ∃ s', a'.get? r = some (.state s') ∧ F s s' := by
  have hr := h r
  rw [hs] at hr
  generalize hv : a'.get? r = o at hr
  cases hr with
  | some hv' =>
    obtain ⟨s', rfl, hss⟩ := hv'
    exact ⟨s', rfl, hss⟩

theorem exists_of_updated {a a' : Attributes} {r : Role} {s' : State} (h : a.Updated F a')
    (hs' : a'.get? r = some (.state s')) : ∃ s, a.get? r = some (.state s) ∧ F s s' := by
  have hr := h r
  rw [hs'] at hr
  generalize a.get? r = o at hr
  cases hr with
  | @some v _ hv =>
    cases v with
    | state s =>
      obtain ⟨_, heq, hss⟩ := hv
      cases heq
      exact ⟨s, rfl, hss⟩
    | _ => cases hv

theorem Carries.updated (h : Carries scenery P n n') (k : Redrawn (fun _ => Attributes.Updated F) n' n'')
    (hF : ∀ s s', P s → F s s' → s'.object = s.object ∧ P' s') : Carries scenery P' n n'' := by
  refine ⟨k.kind.trans h.kind, fun r => ?_⟩
  rcases h.roles r with hr | ⟨hpose, rfl, s, hs, hscenery, hP⟩
  · exact Or.inl (rel_comp hr (k.attributes r) fun _ _ _ hv hv' => hv.updated hv' hF)
  · obtain ⟨s', hs', hss⟩ := updated_state k.attributes hs
    obtain ⟨hobject, hP'⟩ := hF s s' hP hss
    exact Or.inr ⟨hpose, rfl, s', hs', hobject.symm ▸ hscenery, hP'⟩

theorem Carries.imp {scenery' : Object → Prop} (h : Carries scenery P n n')
    (hscenery : ∀ o, scenery o → scenery' o) (hP : ∀ s, P s → P' s) :
    Carries scenery' P' n n' := by
  refine ⟨h.kind, fun r => ?_⟩
  rcases h.roles r with hr | ⟨hpose, hrole, s, hs, hsc, hPs⟩
  · exact Or.inl (rel_imp hr fun _ _ hv => hv.imp hP)
  · exact Or.inr ⟨hpose, hrole, s, hs, hscenery _ hsc, hP s hPs⟩

theorem Inserted.imp (h : Inserted P n) (hP : ∀ s, P s → P' s) : Inserted P' n := by
  obtain ⟨e, s, hkind, hs, hPs, hsubject⟩ := h.subject
  exact ⟨⟨e, s, hkind, hs, hP s hPs, hsubject⟩, h.object⟩

theorem Inserted.updated (h : Inserted P n) (k : Redrawn (fun _ => Attributes.Updated F) n n')
    (hF : ∀ s s', P s → F s s' → s'.object = s.object ∧ P' s') : Inserted P' n' := by
  obtain ⟨e, s, hkind, hs, hP, hsubject⟩ := h.subject
  obtain ⟨s', hs', hss⟩ := updated_state k.attributes hs
  obtain ⟨hobject, hP'⟩ := hF s s' hP hss
  refine ⟨⟨e, s', k.kind.trans hkind, hs', hP', by rwa [hobject]⟩, fun hnearby => ?_⟩
  obtain ⟨o, ho⟩ := h.object (k.kind ▸ hnearby)
  obtain ⟨o', ho', -⟩ := updated_state k.attributes ho
  exact ⟨o', ho'⟩

/-- The character that a carried event is about is in a state that satisfies `P`. -/
theorem Carries.eq_state (h : Carries scenery P n n') {v : Value} {o : Object}
    (hv : n'.get? .subject = some v) (ho : v.object? = some o) :
    ∃ s, v = .state s ∧ s.object = o ∧ P s := by
  rcases h.roles .subject with hr | ⟨-, hrole, -⟩
  · rw [hv] at hr
    generalize n.get? .subject = w at hr
    cases hr with
    | some hw => exact hw.eq_state ho
  · cases hrole

theorem Inserted.eq_state (h : Inserted P n) {v : Value} {o : Object}
    (hv : n.get? .subject = some v) (ho : v.object? = some o) :
    ∃ s, v = .state s ∧ s.object = o ∧ P s := by
  obtain ⟨e, s, -, hs, hP, -⟩ := h.subject
  obtain rfl := Option.some.inj (hs.symm.trans hv)
  exact ⟨s, rfl, Option.some.inj ho, hP⟩

end Events

/-! ## Scenes -/

/-- Every pose below the node is at something. -/
def Propped (c : StoryNode) : Prop :=
  ∀ m ∈ c.events, m.kind = .event .poseDescription → ∃ s, m.get? .object = some (.state s)

/-- The second scene is the first on its way through the editor.  Where there is scenery, poses are at some
of it. -/
structure Carried (P : State → Prop) (keep : StoryNode → Bool) (c₀ c : StoryNode) : Prop where
  setting : Option.Rel (Value.Becomes P) (c₀.get? .setting) (c.get? .setting)
  events : Padded (Carries (SceneryOf c₀) P) (Inserted P) (c₀.events.filter keep) c.events
  propped : (∃ o, IsScenery (c₀.objectIn .setting) o) → Propped c

section Scenes

variable {ks : List StoryKind} {P P' : State → Prop} {F : State → State → Prop}
  {keep keep' : StoryNode → Bool} {c₀ c c' : StoryNode}

theorem Carried.imp (h : Carried P keep c₀ c) (hP : ∀ s, P s → P' s) : Carried P' keep c₀ c :=
  ⟨rel_imp h.setting fun _ _ hv => hv.imp hP,
    h.events.imp (fun _ _ hn => hn.imp (fun _ ho => ho) hP) fun _ hn => hn.imp hP, h.propped⟩

/-- The states are changed. -/
theorem Carried.updated (h : Carried P keep c₀ c)
    (k : Rewritten ks (Attributes.Updated F)
      (Forall₂ (Redrawn fun _ => Attributes.Updated F)) c c')
    (hF : ∀ s s', P s → F s s' → s'.object = s.object ∧ P' s') : Carried P' keep c₀ c' := by
  refine ⟨rel_comp h.setting (k.attributes .setting) fun _ _ _ hv hv' => hv.updated hv' hF, ?_,
    fun hscenery m' hm' hpose => ?_⟩
  · exact h.events.comp (P := fun _ => False) (.of_forall₂ k.events)
      (fun _ _ _ hn hn' => hn.updated hn' hF) (fun _ _ hn hn' => hn.updated hn' hF) fun _ hf => hf.elim
  · obtain ⟨m, hm, hmm⟩ := exists_of_mem_right k.events hm'
    obtain ⟨s, hs⟩ := h.propped hscenery m hm (hmm.kind ▸ hpose)
    obtain ⟨s', hs', -⟩ := updated_state hmm.attributes hs
    exact ⟨s', hs'⟩

/-- The one that an event of the scene is about is in a state that satisfies `P`. -/
theorem Carried.eq_state (h : Carried P keep c₀ c) {n : StoryNode} (hn : n ∈ c.events) {v : Value}
    {o : Object} (hv : n.get? .subject = some v) (ho : v.object? = some o) :
    ∃ s, v = .state s ∧ s.object = o ∧ P s := by
  rcases h.events.mem hn with ⟨n₀, -, hcarries⟩ | hinserted
  · exact hcarries.eq_state hv ho
  · exact hinserted.eq_state hv ho

/-- Asides about those who act in the scene satisfy what their states do. -/
theorem Carried.inserted_of_echoesIn (h : Carried P keep c₀ c) {n : StoryNode} (hn : EchoesIn c n) :
    Inserted P n := by
  obtain ⟨m, hm, v, e, hv, hcharacter, he, rfl⟩ := hn
  rw [Option.any_eq_true] at hcharacter
  obtain ⟨o, ho, hcharacter⟩ := hcharacter
  obtain ⟨s, rfl, rfl, hP⟩ := h.eq_state hm hv ho
  refine ⟨⟨e, s, rfl, get?_set_self _ _ _, hP, Or.inr ⟨he, hcharacter⟩⟩, fun hnearby => ?_⟩
  obtain rfl : e = .nearbyDescription := StoryKind.event.inj hnearby
  exact absurd he (by decide)

/-- Beats are taken out, and asides are put in. -/
theorem Carried.told (h : Carried P keep c₀ c)
    (k : Rewritten ks Eq (Told keep' (EchoesIn c)) c c')
    (hkeep : ∀ n n' : StoryNode, n'.kind = n.kind → keep' n = keep' n') :
    Carried P (fun n => keep' n && keep n) c₀ c' := by
  refine ⟨?_, ?_, fun hscenery m' hm' hpose => ?_⟩
  · have hsame : c'.get? .setting = c.get? .setting := congrArg (·.get? .setting) k.attributes.symm
    exact hsame ▸ h.setting
  · have hkept := h.events.filter (p := keep') (q := keep') fun n n' hn => hkeep n n' hn.kind
    rw [List.filter_filter] at hkept
    refine hkept.comp k.events (fun n m m' hn hm => hm ▸ hn) (fun m m' hm hmm => hmm ▸ hm)
      fun n hn => h.inserted_of_echoesIn hn
  · rcases k.events.mem hm' with ⟨m, hm, rfl⟩ | ⟨_, _, _, e, -, -, he, rfl⟩
    · exact h.propped hscenery m (List.mem_filter.1 hm).1 hpose
    · obtain rfl : e = .poseDescription := StoryKind.event.inj hpose
      cases he

/-- Asides are put behind the events. -/
theorem Carried.trailed (h : Carried P keep c₀ c)
    (k : Rewritten ks Eq (Trailed (EchoesIn c)) c c') : Carried P keep c₀ c' :=
  h.told ⟨k.scene, k.attributes, k.events.told⟩ fun _ _ _ => rfl

/-- The scene is opened. -/
theorem Carried.opened (h : Carried P keep c₀ c) (k : Opened c c') : Carried P keep c₀ c' := by
  obtain ⟨setting, place, o, hsetting, hplace, hscenery, hevents⟩ := k.events
  have hsame : c'.get? .setting = c.get? .setting := congrArg (·.get? .setting) k.attributes
  refine ⟨hsame ▸ h.setting, ?_, fun hprops m hm hpose => ?_⟩
  · have hstate := h.setting
    rw [hsetting] at hstate
    generalize c₀.get? .setting = w at hstate
    cases hstate with
    | some hw =>
      obtain ⟨s, rfl, rfl, hP⟩ := hw.eq_state hplace
      obtain ⟨p, hp, hmem, htakeable⟩ := hscenery
      have hplace : ∃ p, s.object.place? = some p ∧ p.hasScenery = true :=
        ⟨p, hp, List.any_eq_true.2 ⟨o, hmem, by rw [htakeable]; rfl⟩⟩
      rw [hevents]
      refine .putAll (fun n hn => ?_) h.events
      have hlook := looksAt_of_mem hn
      obtain ⟨e, hkind, he⟩ := hlook.opening
      exact ⟨⟨e, s, hkind, hlook.subject, hP, Or.inl ⟨he, hplace⟩⟩,
        fun hnearby => ⟨_, hlook.object hnearby⟩⟩
  · rw [hevents] at hm
    rcases List.mem_append.1 hm with hm | hm
    · obtain ⟨e, hkind, he⟩ := (looksAt_of_mem hm).opening
      obtain rfl : e = .poseDescription := StoryKind.event.inj (hkind.symm.trans hpose)
      cases he
    · exact h.propped hprops m hm hpose

end Scenes

end SpaceOpera
