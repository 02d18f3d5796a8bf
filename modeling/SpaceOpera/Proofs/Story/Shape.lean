import SpaceOpera.Proofs.Insertion
import SpaceOpera.Proofs.Tree.Annotation
import SpaceOpera.Story.Kind

/-!
# The shape of stories

A story is a list of scenes, and a scene is a body of events, in groups that only hold them together.  A
pass over a story takes its scenes one by one; what it does is said scene by scene, by a relation between
the values of the scene and one between its events (`Reworked`).
-/

namespace SpaceOpera

open List (Forall₂)

/-! ## Bodies and scenes -/

/-- A kind that only holds events together. -/
def StoryKind.isGroup : StoryKind → Bool
  | eventSequence | paragraph | conjoined => true
  | _ => false

/-- What a scene holds: events with nothing below them, in groups of the kinds given. -/
inductive Body (ks : List StoryKind) : StoryNode → Prop
  | beat (e : Event) (a : Attributes) : Body ks ⟨.event e, a, []⟩
  | group {k : StoryKind} {cs : List StoryNode} (hk : k ∈ ks) (a : Attributes)
      (h : ∀ c ∈ cs, Body ks c) : Body ks ⟨k, a, cs⟩

/-- A scene with a body. -/
structure SceneOf (ks : List StoryKind) (c : StoryNode) : Prop where
  kind : c.kind = .scene
  body : ∀ m ∈ c.children, Body ks m

/-- A story of scenes. -/
structure StoryOf (ks : List StoryKind) (n : StoryNode) : Prop where
  kind : n.kind = .story
  scenes : ∀ c ∈ n.children, SceneOf ks c

/-! ## Events -/

section Events

theorem events_mk (k : StoryKind) (a : Attributes) (cs : List StoryNode) :
    Node.events ⟨k, a, cs⟩ =
      (if k.event?.isSome then [⟨k, a, cs⟩] else []) ++ cs.flatMap Node.events := by
  unfold Node.events
  rw [Node.preorder_mk, List.filter_cons, Node.preorderList_eq_flatMap, List.filter_flatMap]
  cases k with
  | event e => rfl
  | _ => rfl

@[simp]
theorem events_beat (e : Event) (a : Attributes) :
    Node.events ⟨.event e, a, []⟩ = [⟨.event e, a, []⟩] := by
  rw [events_mk]
  rfl

theorem events_of_not_event {n : StoryNode} (h : n.event? = none) :
    n.events = n.children.flatMap Node.events := by
  obtain ⟨k, a, cs⟩ := n
  have hk : k.event? = none := h
  rw [events_mk, hk]
  rfl

@[simp]
theorem events_sequence (cs : List StoryNode) :
    (StoryNode.sequence cs).events = cs.flatMap Node.events :=
  events_of_not_event rfl

theorem StoryKind.event?_of_isGroup {k : StoryKind} (h : k.isGroup = true) : k.event? = none := by
  cases k with
  | event e => exact absurd h Bool.false_ne_true
  | _ => rfl

theorem StoryKind.event_ne_scene (e : Event) : StoryKind.event e ≠ .scene := nofun

theorem StoryKind.ne_scene_of_isGroup {k : StoryKind} (h : k.isGroup = true) : k ≠ .scene := by
  rintro rfl
  exact absurd h Bool.false_ne_true

theorem isSome_event?_of_mem_events {n m : StoryNode} (h : m ∈ n.events) : m.event?.isSome = true :=
  (List.mem_filter.1 h).2

theorem Body.mono {ks ks' : List StoryKind} {n : StoryNode} (h : ks ⊆ ks') (hn : Body ks n) :
    Body ks' n := by
  induction hn with
  | beat e a => exact .beat e a
  | group hk a _ ih => exact .group (h hk) a ih

/-- The events of a body have nothing below them. -/
theorem Body.exists_beat {ks : List StoryKind} {n m : StoryNode} (hks : ∀ k ∈ ks, k.isGroup = true)
    (hn : Body ks n) (hm : m ∈ n.events) : ∃ e a, m = ⟨.event e, a, []⟩ := by
  induction hn with
  | beat e a =>
    rw [events_beat] at hm
    exact ⟨e, a, List.mem_singleton.1 hm⟩
  | group hk a _ ih =>
    rw [events_of_not_event (StoryKind.event?_of_isGroup (hks _ hk))] at hm
    obtain ⟨c, hc, hm⟩ := List.mem_flatMap.1 hm
    exact ih c hc hm

theorem SceneOf.events_eq {ks : List StoryKind} {c : StoryNode} (h : SceneOf ks c) :
    c.events = c.children.flatMap Node.events :=
  events_of_not_event (by rw [Node.event?, h.kind]; rfl)

theorem SceneOf.exists_beat {ks : List StoryKind} {c m : StoryNode}
    (hks : ∀ k ∈ ks, k.isGroup = true) (h : SceneOf ks c) (hm : m ∈ c.events) :
    ∃ e a, m = ⟨.event e, a, []⟩ := by
  rw [h.events_eq] at hm
  obtain ⟨d, hd, hm⟩ := List.mem_flatMap.1 hm
  exact (h.body d hd).exists_beat hks hm

theorem StoryOf.events_eq {ks : List StoryKind} {n : StoryNode} (h : StoryOf ks n) :
    n.events = n.children.flatMap Node.events :=
  events_of_not_event (by rw [Node.event?, h.kind]; rfl)

end Events

/-- Somewhere below the node its setting is described. -/
def Look (c : StoryNode) : Prop :=
  ∃ n ∈ c.events, n.kind = .event .settingDescription

/-! ## Passes -/

/-- The nodes are one sequence. -/
def OneSequence (cs : List StoryNode) : Prop :=
  ∃ m : StoryNode, cs = [m] ∧ m.kind = .eventSequence

/-- A part of a scene before and after a pass. -/
structure Unfolded (ks : List StoryKind) (E : List StoryNode → List StoryNode → Prop)
    (m m' : StoryNode) : Prop where
  body : Body ks m'
  events : E m.events m'.events
  sequence : m.kind = .eventSequence → m'.kind = .eventSequence

/-- A scene before and after a pass. -/
structure Rewritten (ks : List StoryKind) (A : Attributes → Attributes → Prop)
    (E : List StoryNode → List StoryNode → Prop) (c c' : StoryNode) : Prop where
  scene : SceneOf ks c'
  attributes : A c.attributes c'.attributes
  events : E c.events c'.events

/-- A scene before and after a pass that leaves it one sequence if it was. -/
structure Reworked (ks : List StoryKind) (A : Attributes → Attributes → Prop)
    (E : List StoryNode → List StoryNode → Prop) (c c' : StoryNode) : Prop
    extends Rewritten ks A E c c' where
  sequence : OneSequence c.children → OneSequence c'.children

/-- A story before and after a pass, scene by scene. -/
structure Lowered (T : StoryNode → StoryNode → Prop) (n n' : StoryNode) : Prop where
  kind : n'.kind = .story
  scenes : Forall₂ T n.children n'.children

section Passes

variable {ks ks' : List StoryKind} {A : Attributes → Attributes → Prop}
  {E : List StoryNode → List StoryNode → Prop} {n n' c c' : StoryNode}

/-- A pass that takes the parts of a scene one by one. -/
theorem Reworked.of_children (hc : SceneOf ks c) (hkind : c'.kind = .scene)
    (hattributes : A c.attributes c'.attributes)
    (hE : ∀ ms ms', Forall₂ (fun m m' => E (Node.events m) (Node.events m')) ms ms' →
      E (ms.flatMap Node.events) (ms'.flatMap Node.events))
    (hcs : Forall₂ (Unfolded ks' E) c.children c'.children) : Reworked ks' A E c c' := by
  have hc' : SceneOf ks' c' := by
    refine ⟨hkind, fun m' hm' => ?_⟩
    obtain ⟨m, -, hmm⟩ := exists_of_mem_right hcs hm'
    exact hmm.body
  refine ⟨⟨hc', hattributes, ?_⟩, ?_⟩
  · rw [hc.events_eq, hc'.events_eq]
    exact hE _ _ (hcs.imp fun _ _ => Unfolded.events)
  · rintro ⟨m, hm, hmk⟩
    rw [hm] at hcs
    obtain ⟨m', ms', hmm, hms, hm'⟩ := List.forall₂_cons_left_iff.1 hcs
    obtain rfl := List.forall₂_nil_left_iff.1 hms
    exact ⟨m', hm', hmm.sequence hmk⟩

theorem Lowered.storyOf {T : StoryNode → StoryNode → Prop} (h : Lowered T n n')
    (hT : ∀ c c', T c c' → SceneOf ks c') : StoryOf ks n' := by
  refine ⟨h.kind, fun c' hc' => ?_⟩
  obtain ⟨c, -, hcc⟩ := exists_of_mem_right h.scenes hc'
  exact hT c c' hcc

theorem Lowered.comp {T U V : StoryNode → StoryNode → Prop} {n₀ : StoryNode}
    (h : Lowered T n₀ n) (k : Lowered U n n')
    (hT : ∀ c₀ c c', T c₀ c → U c c' → V c₀ c') : Lowered V n₀ n' :=
  ⟨k.kind, forall₂_comp h.scenes k.scenes hT⟩

theorem Lowered.events {T R : StoryNode → StoryNode → Prop} (h : Lowered T n n')
    (hn : StoryOf ks n) (hn' : StoryOf ks' n')
    (hT : ∀ c c', T c c' → Forall₂ R (Node.events c) (Node.events c')) :
    Forall₂ R n.events n'.events := by
  rw [hn.events_eq, hn'.events_eq]
  exact List.rel_flatMap h.scenes fun {_ _} => hT _ _

/-- What is so of the events of the scenes side by side is so of those of the stories, if it adds up. -/
theorem Lowered.told {T : StoryNode → StoryNode → Prop} {E : List StoryNode → List StoryNode → Prop}
    (h : Lowered T n n') (hn : StoryOf ks n) (hn' : StoryOf ks' n')
    (hT : ∀ c c', T c c' → E (Node.events c) (Node.events c')) (hnil : E [] [])
    (happend : ∀ {es es' fs fs'}, E es es' → E fs fs' → E (es ++ fs) (es' ++ fs')) :
    E n.events n'.events := by
  rw [hn.events_eq, hn'.events_eq]
  have hscenes := h.scenes
  generalize n.children = cs at hscenes
  generalize n'.children = cs' at hscenes
  induction hscenes with
  | nil => exact hnil
  | cons hc _ ih =>
    rw [List.flatMap_cons, List.flatMap_cons]
    exact happend (hT _ _ hc) ih

theorem Lowered.and {T U : StoryNode → StoryNode → Prop} (h : Lowered T n n')
    (k : Lowered U n n') : Lowered (fun c c' => T c c' ∧ U c c') n n' :=
  ⟨h.kind, List.Forall₂.mp (fun _ _ => And.intro) h.scenes k.scenes⟩

end Passes

/-! ## Annotations -/

/-- A node before and after its values are changed. -/
structure Redrawn (A : StoryKind → Attributes → Attributes → Prop) (n n' : StoryNode) : Prop where
  kind : n'.kind = n.kind
  attributes : A n.kind n.attributes n'.attributes

/-- A scene before and after its values are changed, and those of its events. -/
abbrev Annotated (ks : List StoryKind) (A : StoryKind → Attributes → Attributes → Prop) :
    StoryNode → StoryNode → Prop :=
  Reworked ks (A .scene) (Forall₂ (Redrawn A))

section Annotation

variable {ρ : Type} {m : Type → Type} [Monad m] [LawfulMonad m] (J : Judgement m)
  {ks : List StoryKind} {n c : StoryNode} {r : ρ}
  {enter : StoryKind → Attributes → ρ → ρ} {f : ρ → StoryKind → Attributes → m Attributes}

theorem annotate_body {A : StoryKind → Attributes → Attributes → Prop}
    (hks : ∀ k ∈ ks, k.isGroup = true) (henter : ∀ k a r, k ≠ .scene → enter k a r = r)
    (hf : ∀ k a, J.Holds (A k a) (f r k a)) (hn : Body ks n) :
    J.Holds (Unfolded ks (Forall₂ (Redrawn A)) n) (n.annotate enter f r) := by
  induction hn with
  | beat e a =>
    refine J.imp (Node.annotate_holds (S := fun _ _ => True) J (henter _ _ _ nofun) (hf _ _)
      fun _ hc => absurd hc List.not_mem_nil) ?_
    rintro ⟨k', a', cs'⟩ ⟨rfl, ha, hcs⟩
    obtain rfl := List.forall₂_nil_left_iff.1 hcs
    refine ⟨.beat e a', ?_, id⟩
    rw [events_beat, events_beat]
    exact .cons ⟨rfl, ha⟩ .nil
  | @group k cs hk a h ih =>
    have hg := hks k hk
    refine J.imp (Node.annotate_holds J (henter _ _ _ (StoryKind.ne_scene_of_isGroup hg)) (hf _ _)
      ih) ?_
    rintro ⟨k', a', cs'⟩ ⟨hk', -, hcs⟩
    obtain rfl : k' = k := hk'
    have hcs : Forall₂ _ cs cs' := hcs
    refine ⟨.group hk a' fun c' hc' => ?_, ?_, id⟩
    · obtain ⟨c, -, hcc⟩ := exists_of_mem_right hcs hc'
      exact hcc.body
    · rw [events_of_not_event (StoryKind.event?_of_isGroup hg),
        events_of_not_event (StoryKind.event?_of_isGroup hg)]
      exact List.rel_flatMap hcs fun _ _ => Unfolded.events

variable {A : ρ → StoryKind → Attributes → Attributes → Prop}

/-- An annotation of a scene, by what the scene hands down. -/
theorem annotate_scene (hks : ∀ k ∈ ks, k.isGroup = true)
    (henter : ∀ k a r, k ≠ .scene → enter k a r = r) (hf : ∀ r k a, J.Holds (A r k a) (f r k a))
    (hc : SceneOf ks c) :
    J.Holds (Annotated ks (A (enter .scene c.attributes r)) c) (c.annotate enter f r) := by
  refine J.imp (Node.annotate_holds J (t := enter .scene c.attributes r) (by rw [hc.kind])
    (hf _ _ _) fun m hm => annotate_body J hks henter (hf _) (hc.body m hm)) ?_
  rintro c' ⟨hkind, hattributes, hcs⟩
  exact .of_children hc (hkind.trans hc.kind) (hc.kind ▸ hattributes)
    (fun _ _ h => List.rel_flatMap h fun _ _ h => h) hcs

/-- An annotation of a story, by what each scene hands down. -/
theorem annotate_story (hks : ∀ k ∈ ks, k.isGroup = true)
    (henter : ∀ k a r, k ≠ .scene → enter k a r = r) (hf : ∀ r k a, J.Holds (A r k a) (f r k a))
    (hn : StoryOf ks n) :
    J.Holds (Lowered (fun c => Annotated ks (A (enter .scene c.attributes r)) c) n)
      (n.annotate enter f r) := by
  refine J.imp (Node.annotate_holds J (t := r) (henter _ _ _ (by rw [hn.kind]; nofun)) (hf _ _ _)
    fun c hc => annotate_scene J hks henter hf (hn.scenes c hc)) ?_
  rintro n' ⟨hkind, -, hcs⟩
  exact ⟨hkind.trans hn.kind, hcs⟩

/-- An annotation of a story with nothing handed down. -/
theorem annotateAll_story {A : StoryKind → Attributes → Attributes → Prop}
    {f : StoryKind → Attributes → m Attributes} (hks : ∀ k ∈ ks, k.isGroup = true)
    (hf : ∀ k a, J.Holds (A k a) (f k a)) (hn : StoryOf ks n) :
    J.Holds (Lowered (Annotated ks A) n) (n.annotateAll f) :=
  annotate_story (A := fun _ => A) J hks (fun _ _ _ _ => rfl) (fun _ => hf) hn

end Annotation

end SpaceOpera
