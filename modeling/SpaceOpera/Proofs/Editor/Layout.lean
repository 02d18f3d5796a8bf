import Mathlib.Data.List.Destutter
import SpaceOpera.Proofs.Editor.Preservation

/-!
# The layout of an edited story

What the text of a story relies on without looking: the story that the editor comes to is laid out in one
way, however its scenes were nested and whatever was drawn (`edit_layout`).
-/

namespace SpaceOpera

open List (Forall₂)

/-! ## Settings -/

/-- The settings of the scenes of a story, in order. -/
def Node.settings (story : StoryNode) : List (Option Object) :=
  story.children.map (·.objectIn .setting)

/-- The two settings differ. -/
def Elsewhere (o o' : Option Object) : Prop :=
  (o == o') = false

instance : DecidableRel Elsewhere := fun o o' => inferInstanceAs (Decidable ((o == o') = false))

section Settings

variable {story held : StoryNode} {ns : List StoryNode} {o o' : Object}

theorem elsewhere_some : Elsewhere (some o) (some o') ↔ (o == o') = false := Iff.rfl

theorem objectIn_eq (h : held.get? .setting = some (.object o)) :
    held.objectIn .setting = some o := by
  rw [Node.objectIn, h]
  rfl

/-- A scene goes on in the setting of the one before it unless their settings differ. -/
theorem continues_iff {n : StoryNode} (hheld : held.kind = .scene) (hn : n.kind = .scene)
    (hsetting : held.get? .setting = some (.object o)) (hbare : Bare n.kind n.attributes) :
    continues held n = true ↔ ¬Elsewhere (held.objectIn .setting) (n.objectIn .setting) := by
  unfold continues Node.isScene Elsewhere
  rw [hheld, hn, objectIn_eq hsetting, hsetting, Node.objectIn, decide_eq_true rfl, Bool.true_and,
    Bool.true_and, Bool.not_eq_false]
  cases hv : n.get? .setting with
  | none => exact Iff.rfl
  | some v =>
    cases v with
    | object | group => exact Iff.rfl
    | state s => exact absurd (hbare .setting _ hv) (Option.some_ne_none s)

theorem exists_mergeFrom_eq (held : StoryNode) (ns : List StoryNode) :
    ∃ c cs, mergeFrom held ns = c :: cs ∧ c.attributes = held.attributes := by
  induction ns generalizing held with
  | nil => exact ⟨held, [], rfl, rfl⟩
  | cons n ns ih =>
    rw [mergeFrom]
    split
    · exact ih (held.withChildren (held.children ++ n.children))
    · exact ⟨held, mergeFrom n ns, rfl, rfl⟩

theorem settings_mergeFrom (held : StoryNode) (hheld : held.kind = .scene) (hns : ∀ n ∈ ns, n.kind = .scene)
    (hbare : ∀ n ∈ ns, Bare n.kind n.attributes)
    (hplaces : ∀ c ∈ mergeFrom held ns, ∃ o, c.get? .setting = some (.object o)) :
    (mergeFrom held ns).map (·.objectIn .setting) =
      (ns.map (·.objectIn .setting)).destutter' Elsewhere (held.objectIn .setting) := by
  induction ns generalizing held with
  | nil => rfl
  | cons n ns ih =>
    obtain ⟨hn, hrest⟩ := List.forall_mem_cons.1 hns
    obtain ⟨hbaren, hbare⟩ := List.forall_mem_cons.1 hbare
    have hsetting : ∃ o, held.get? .setting = some (.object o) := by
      obtain ⟨c, cs, heq, hattributes⟩ := exists_mergeFrom_eq held (n :: ns)
      obtain ⟨o, ho⟩ := hplaces c (heq ▸ List.mem_cons_self)
      exact ⟨o, by rw [Node.get?, ← hattributes]; exact ho⟩
    obtain ⟨o, hsetting⟩ := hsetting
    have hcontinues := continues_iff hheld hn hsetting hbaren
    rw [mergeFrom] at hplaces ⊢
    rw [List.map_cons, List.destutter'_cons]
    by_cases h : continues held n = true
    · rw [if_pos h] at hplaces ⊢
      rw [if_neg (hcontinues.1 h)]
      exact ih (held.withChildren (held.children ++ n.children)) hheld hrest hbare hplaces
    · rw [if_neg h] at hplaces ⊢
      rw [if_pos (not_not.1 fun hnot => h (hcontinues.2 hnot)), List.map_cons]
      rw [ih n hn hrest hbare fun c hc => hplaces c (List.mem_cons_of_mem _ hc)]

/-- Merging collapses neighbouring scenes in one setting into one. -/
theorem settings_mergeAdjacentScenes (hstory : StoryOf sequences story)
    (hbare : story.Everywhere Bare)
    (hplaces : ∀ c ∈ (mergeAdjacentScenes story).children,
      ∃ o, c.get? .setting = some (.object o)) :
    (mergeAdjacentScenes story).settings = story.settings.destutter Elsewhere := by
  have hkinds : ∀ c ∈ story.children, c.kind = .scene := fun c hc => (hstory.scenes c hc).kind
  have hbares : ∀ c ∈ story.children, Bare c.kind c.attributes := fun c hc =>
    hbare.of_mem hc c c.mem_preorder_self
  unfold mergeAdjacentScenes Node.settings at *
  cases hcs : story.children with
  | nil =>
    simp only [hcs]
    rfl
  | cons c cs =>
    rw [hcs] at hkinds hbares
    simp only [hcs] at hplaces ⊢
    obtain ⟨hc, hrest⟩ := List.forall_mem_cons.1 hkinds
    exact settings_mergeFrom c hc hrest (List.forall_mem_cons.1 hbares).2 hplaces

end Settings

/-! ## Stories -/

/-- The setting is the one of a scene as it came, by its names. -/
def SameSetting (o o' : Option Object) : Prop :=
  ∃ p p', o = some p ∧ o' = some p' ∧ (p == p') = true

/-- An edited story as it is handed on to be told. -/
structure Layout (story out : StoryNode) : Prop where
  kind : out.kind = .story
  scenes : ∀ c ∈ out.children, LaidOut Sentence c
  settings : Forall₂ SameSetting (story.settings.destutter Elsewhere) out.settings
  apart : out.settings.IsChain Elsewhere
  opening : ∀ c ∈ out.children, ∃ os es, c.events = os ++ es ∧ os.map (·.kind) = openings ∧
    ((∀ n ∈ story.events, n.isOpening = false) → ∀ n ∈ es, n.isOpening = false)
  lasting : ∀ n ∈ out.preorder, n.isLasting = true

section Layout

variable {story out c₀ c n : StoryNode} {P : State → Prop}

/-- The setting of a finished scene is the plain place that it came with, in a state. -/
theorem Finished.place_eq (h : Finished P c₀ c) : ∃ o s, c₀.get? .setting = some (.object o) ∧
    c.get? .setting = some (.state s) ∧ (s.object == o) = true := by
  obtain ⟨o, ho⟩ := Option.isSome_iff_exists.1 h.opening.place
  obtain ⟨v, hv, hvo⟩ := Option.bind_eq_some_iff.1 ho
  have hv : c.get? .setting = some v := hv
  have hrel := h.setting
  rw [hv] at hrel ⊢
  generalize c₀.get? .setting = w at hrel
  cases hrel with
  | @some w v hbecomes =>
    cases w with
    | object o' =>
      obtain ⟨s, rfl, hbeq, -⟩ := hbecomes
      exact ⟨o', s, rfl, rfl, hbeq⟩
    | group g =>
      obtain rfl : v = .group g := hbecomes
      cases hvo
    | state s => exact hbecomes.elim

/-- Whatever a finished scene tells is told: what is not told has been taken out. -/
theorem Finished.isLasting (h : Finished P c₀ c) (hn : n ∈ c.events) : n.isLasting = true := by
  unfold Node.isLasting Node.event?
  rcases h.events.mem hn with ⟨m, hm, hcarries⟩ | hinserted
  · rw [hcarries.kind]
    exact (List.mem_filter.1 hm).2
  · obtain ⟨e, s, hkind, -, -, he⟩ := hinserted.subject
    have hinserted : e.isInserted = true := Bool.or_eq_true_iff.2 (he.imp And.left And.left)
    rw [hkind, StoryKind.event?, Option.any_some, isTransient_of_inserted hinserted]
    rfl

/-- Whatever the editor comes to is laid out. -/
theorem edit_layout (e : Editor) (narration : Narration) (hscenes : StoryOf sequences story)
    (hbare : story.Everywhere Bare) (hout : ((e.edit story).run narration).1.1 = .ok out) :
    Layout story out := by
  have hfinished := finished_of_edit e narration hscenes hbare hout
  obtain ⟨hstory, -, hevents⟩ := mergeAdjacentScenes_story hscenes
  have hmerged : (mergeAdjacentScenes story).settings = story.settings.destutter Elsewhere := by
    refine settings_mergeAdjacentScenes hscenes hbare fun c₀ hc₀ => ?_
    obtain ⟨c, -, hc⟩ := (Padded.of_forall₂ (Q := fun _ => False) hfinished.scenes).mem_left hc₀
    obtain ⟨o, -, ho, -⟩ := hc.place_eq
    exact ⟨o, ho⟩
  have hsettings : Forall₂ SameSetting (story.settings.destutter Elsewhere) out.settings := by
    rw [← hmerged]
    unfold Node.settings
    rw [List.forall₂_map_left_iff, List.forall₂_map_right_iff]
    refine hfinished.scenes.imp fun c₀ c hc => ?_
    obtain ⟨o, s, ho, hs, hbeq⟩ := hc.place_eq
    exact ⟨o, s.object, objectIn_eq ho, by rw [Node.objectIn, hs]; rfl, BEq.symm hbeq⟩
  constructor
  case kind => exact hfinished.kind
  case scenes =>
    intro c hc
    obtain ⟨c₀, -, hcc⟩ := exists_of_mem_right hfinished.scenes hc
    exact hcc.layout
  case settings => exact hsettings
  case apart =>
    refine isChain_of_forall₂ hsettings ?_ (List.isChain_destutter _ _)
    rintro _ _ _ _ ⟨o, p, rfl, rfl, hop⟩ ⟨o', p', rfl, rfl, hop'⟩ hapart
    rw [elsewhere_some, ← BEq.congr_left hop, ← BEq.congr_right hop']
    exact hapart
  case opening =>
    intro c hc
    obtain ⟨c₀, hc₀, hcc⟩ := exists_of_mem_right hfinished.scenes hc
    obtain ⟨os, es, hcevents, hkinds, -, hother⟩ := hcc.opening.front
    refine ⟨os, es, hcevents, hkinds, fun hplain => hother fun n hn => hplain n ?_⟩
    rw [← hevents, hstory.events_eq]
    exact List.mem_flatMap.2 ⟨c₀, hc₀, hn⟩
  case lasting =>
    intro n hn
    cases he : n.event? with
    | none =>
      unfold Node.isLasting
      rw [he]
      rfl
    | some e =>
      have hmem : n ∈ out.events := List.mem_filter.2 ⟨hn, by rw [he]; rfl⟩
      rw [(hfinished.storyOf fun _ _ h => h.scene).events_eq] at hmem
      obtain ⟨c, hc, hnc⟩ := List.mem_flatMap.1 hmem
      obtain ⟨c₀, -, hcc⟩ := exists_of_mem_right hfinished.scenes hc
      exact hcc.isLasting hnc

/-- The scenes on the bridge come out laid out. -/
theorem edit_layout_tableau :
    StoryOf sequences tableau ∧ tableau.Everywhere Bare ∧
      ∃ out, (((⟨50, {}⟩ : Editor).edit tableau).run stillness).1.1 = .ok out ∧
        Layout tableau out := by
  obtain ⟨out, hout⟩ := exists_edit_tableau ⟨50, {}⟩ stillness
  obtain ⟨hscenes, hbare, -⟩ := tableau_draft
  exact ⟨hscenes, hbare, out, hout, edit_layout _ _ hscenes hbare hout⟩

end Layout

end SpaceOpera
