import SpaceOpera.Proofs.Editor.Carrying
import SpaceOpera.Proofs.Tree.Conforming

/-!
# Stories as they come in

A story comes to the editor as scenes over plain objects and groups.  Neighbouring scenes in one setting
are merged, and every object gets a fresh state, of the one object that stands for all of its names.
-/

namespace SpaceOpera

open List (Forall₂)

/-- No role holds a state. -/
def Bare (_ : StoryKind) (a : Attributes) : Prop :=
  ∀ r v, a.get? r = some v → v.state? = none

/-- Whatever the values name is in `N`, and so is the scenery of the scenes. -/
structure Covered (N : Object → Prop) (k : StoryKind) (a : Attributes) : Prop where
  objects : ∀ r o, (r, Value.object o) ∈ a.entries → N o
  scenery : k = .scene → ∀ o, IsScenery ((a.get? .setting).bind Value.object?) o → N o

theorem covered_any (n : StoryNode) : n.Everywhere (Covered fun _ => True) := fun _ _ =>
  ⟨fun _ _ _ => trivial, fun _ _ _ => trivial⟩

/-! ## Merging -/

section Merging

variable {n held : StoryNode} {ns : List StoryNode}

theorem mergeFrom_everywhere {P : StoryKind → Attributes → Prop} (hheld : held.Everywhere P)
    (hns : ∀ n ∈ ns, n.Everywhere P) : ∀ c ∈ mergeFrom held ns, c.Everywhere P := by
  induction ns generalizing held with
  | nil =>
    intro c hc
    exact List.mem_singleton.1 hc ▸ hheld
  | cons n ns ih =>
    obtain ⟨hn, hrest⟩ := List.forall_mem_cons.1 hns
    rw [mergeFrom]
    split
    · refine ih ?_ hrest
      obtain ⟨k, a, cs⟩ := held
      obtain ⟨hkind, hcs⟩ := Node.everywhere_mk.1 hheld
      refine Node.everywhere_mk.2 ⟨hkind, fun c hc => ?_⟩
      rcases List.mem_append.1 hc with hc | hc
      · exact hcs c hc
      · exact hn.of_mem hc
    · exact List.forall_mem_cons.2 ⟨hheld, ih hn hrest⟩

theorem mergeFrom_scenes (hheld : SceneOf sequences held) (hns : ∀ n ∈ ns, SceneOf sequences n) :
    ∀ c ∈ mergeFrom held ns,
      SceneOf sequences c ∧ ∃ d ∈ held :: ns, c.attributes = d.attributes := by
  induction ns generalizing held with
  | nil =>
    intro c hc
    obtain rfl := List.mem_singleton.1 hc
    exact ⟨hheld, c, List.mem_cons_self, rfl⟩
  | cons n ns ih =>
    obtain ⟨hn, hrest⟩ := List.forall_mem_cons.1 hns
    rw [mergeFrom]
    split
    · intro c hc
      have hmerged : SceneOf sequences (held.withChildren (held.children ++ n.children)) :=
        ⟨hheld.kind, List.forall_mem_append.2 ⟨hheld.body, hn.body⟩⟩
      obtain ⟨hscene, d, hd, hattributes⟩ := ih hmerged hrest c hc
      rcases List.mem_cons.1 hd with rfl | hd
      · exact ⟨hscene, held, List.mem_cons_self, hattributes⟩
      · exact ⟨hscene, d, List.mem_cons_of_mem _ (List.mem_cons_of_mem _ hd), hattributes⟩
    · refine List.forall_mem_cons.2 ⟨⟨hheld, held, List.mem_cons_self, rfl⟩, fun c hc => ?_⟩
      obtain ⟨hscene, d, hd, hattributes⟩ := ih hn hrest c hc
      exact ⟨hscene, d, List.mem_cons_of_mem _ hd, hattributes⟩

theorem flatMap_events_mergeFrom (hheld : SceneOf sequences held)
    (hns : ∀ n ∈ ns, SceneOf sequences n) :
    (mergeFrom held ns).flatMap Node.events = held.events ++ ns.flatMap Node.events := by
  induction ns generalizing held with
  | nil => rw [mergeFrom, List.flatMap_singleton, List.flatMap_nil, List.append_nil]
  | cons n ns ih =>
    obtain ⟨hn, hrest⟩ := List.forall_mem_cons.1 hns
    rw [mergeFrom, List.flatMap_cons]
    split
    · have hmerged : SceneOf sequences (held.withChildren (held.children ++ n.children)) :=
        ⟨hheld.kind, List.forall_mem_append.2 ⟨hheld.body, hn.body⟩⟩
      rw [ih hmerged hrest, hmerged.events_eq, hheld.events_eq, hn.events_eq, Node.withChildren,
        List.flatMap_append, List.append_assoc]
    · rw [List.flatMap_cons, ih hn hrest]

theorem mergeFrom_ne_nil (held : StoryNode) (ns : List StoryNode) : mergeFrom held ns ≠ [] := by
  induction ns generalizing held with
  | nil => exact List.cons_ne_nil held []
  | cons n ns ih =>
    rw [mergeFrom]
    split
    · exact ih _
    · exact List.cons_ne_nil held _

/-- Merging leaves a scene where there is one. -/
theorem mergeAdjacentScenes_ne_nil (h : n.children ≠ []) : (mergeAdjacentScenes n).children ≠ [] := by
  unfold mergeAdjacentScenes
  split
  · exact h
  · exact mergeFrom_ne_nil _ _

theorem mergeAdjacentScenes_story (hn : StoryOf sequences n) :
    StoryOf sequences (mergeAdjacentScenes n) ∧
      (∀ c ∈ (mergeAdjacentScenes n).children, ∃ d ∈ n.children, c.attributes = d.attributes) ∧
      (mergeAdjacentScenes n).events = n.events := by
  have hevents := hn.events_eq
  have hscenes := hn.scenes
  unfold mergeAdjacentScenes
  split
  · rename_i hnil
    exact ⟨hn, fun c hc => ⟨c, hc, rfl⟩, rfl⟩
  · rename_i c cs hcs
    rw [hcs] at hscenes hevents
    obtain ⟨hc, hrest⟩ := List.forall_mem_cons.1 hscenes
    have hstory : StoryOf sequences (n.withChildren (mergeFrom c cs)) :=
      ⟨hn.kind, fun d hd => (mergeFrom_scenes hc hrest d hd).1⟩
    refine ⟨hstory, fun d hd => ?_, ?_⟩
    · rw [hcs]
      exact (mergeFrom_scenes hc hrest d hd).2
    · rw [hstory.events_eq, hevents, List.flatMap_cons]
      exact flatMap_events_mergeFrom hc hrest

theorem mergeAdjacentScenes_everywhere {P : StoryKind → Attributes → Prop} (h : n.Everywhere P) :
    (mergeAdjacentScenes n).Everywhere P := by
  unfold mergeAdjacentScenes
  split
  · exact h
  · rename_i c cs hcs
    obtain ⟨k, a, ds⟩ := n
    obtain rfl : ds = c :: cs := hcs
    obtain ⟨hroot, hds⟩ := Node.everywhere_mk.1 h
    obtain ⟨hc, hrest⟩ := List.forall_mem_cons.1 hds
    exact Node.everywhere_mk.2 ⟨hroot, mergeFrom_everywhere hc hrest⟩

end Merging

/-! ## Fresh states -/

section FreshStates

variable {I : Context → Prop} [Lasting I] {N : Object → Prop} {n : StoryNode}

theorem mem_bareObjects_iff {o : Object} :
    o ∈ bareObjects n ↔ ∃ r, (r, Value.object o) ∈ n.attributes.entries := by
  unfold bareObjects
  rw [List.mem_filterMap]
  constructor
  · rintro ⟨⟨r, v⟩, hmem, hv⟩
    cases v with
    | object o' =>
      obtain rfl := Option.some.inj hv
      exact ⟨r, hmem⟩
    | _ => cases hv
  · rintro ⟨r, hmem⟩
    exact ⟨_, hmem, rfl⟩

theorem mem_setEntry {r : Role} {v : Value} {es : List (Role × Value)} {e : Role × Value}
    (h : e ∈ Attributes.setEntry r v es) : e = (r, v) ∨ e ∈ es := by
  induction es with
  | nil => exact Or.inl (List.mem_singleton.1 h)
  | cons d es ih =>
    rw [Attributes.setEntry] at h
    split at h
    · exact (List.mem_cons.1 h).imp_right (List.mem_cons_of_mem _)
    · split at h
      · exact List.mem_cons.1 h
      · rcases List.mem_cons.1 h with rfl | h
        · exact Or.inr List.mem_cons_self
        · exact (ih h).imp_right (List.mem_cons_of_mem _)

theorem resolveScenery_everywhere (hN : n.Everywhere (Covered N)) :
    Yields I (Node.Everywhere fun _ a => ∀ r o, (r, Value.object o) ∈ a.entries → N o)
      (resolveScenery none n) := by
  refine Node.annotate_everywhere (Judgement.yields I) (R := fun r => ∀ o, IsScenery r o → N o)
    (fun k a r ha hr => ?_) (fun k a r ha hr => ?_) (fun o ho => ?_) hN
  · unfold enterScene
    split
    · exact ha.scenery ‹_›
    · exact hr
  · refine (Judgement.yields I).imp (poseAt_yields r k a) fun a' ha' => ?_
    rcases ha' with ⟨rfl, -⟩ | ⟨-, o, ho, rfl⟩
    · exact ha.objects
    · intro r' o' hmem
      rcases mem_setEntry hmem with heq | hmem
      · cases heq
        exact hr o ho
      · exact ha.objects r' o' hmem
  · obtain ⟨p, hp, -⟩ := ho
    cases hp

/-- Every object of a node is given with its names, and given one that is named in the story. -/
def Given (N : Object → Prop) (given : Ledger Object) (m : StoryNode) : Prop :=
  ∀ r o, m.get? r = some (.object o) →
    ∃ first, given.get? o = some first ∧ (first == o) = true ∧ N first

/-- The object that stands for all objects of its names is named in the story. -/
def Standing (N : Object → Prop) (given : Ledger Object) (o : Object) : Prop :=
  N o ∧ given.get? o = some o

theorem given_firstGiven
    (hN : n.Everywhere fun _ a => ∀ r o, (r, Value.object o) ∈ a.entries → N o) {m : StoryNode}
    (hm : m ∈ n.preorder) : Given (Standing N (firstGiven n)) (firstGiven n) m := by
  intro r o ho
  have hsome := isSome_firstGiven hm (mem_bareObjects ho)
  obtain ⟨first, hfirst⟩ := Option.isSome_iff_exists.1 hsome
  obtain ⟨hbeq, m', hm', hmem⟩ := eq_of_firstGiven hfirst
  obtain ⟨r', hr'⟩ := mem_bareObjects_iff.1 hmem
  exact ⟨first, hfirst, hbeq, hN m' hm' r' first hr', (Ledger.get?_congr _ hbeq).trans hfirst⟩

variable {given : Ledger Object} {m m' : StoryNode}

theorem rel_toState {v? : Option Value} (hbare : ∀ v, v? = some v → v.state? = none)
    (hgiven : ∀ o, v? = some (.object o) →
      ∃ first, given.get? o = some first ∧ (first == o) = true ∧ N first) :
    Option.Rel (Value.Becomes fun s => N s.object) v? (v?.map (Value.toState given)) := by
  cases v? with
  | none => exact .none
  | some v =>
    cases v with
    | object o =>
      obtain ⟨first, hfirst, hbeq, hN⟩ := hgiven o rfl
      refine .some ⟨{ object := first }, ?_, hbeq, hN⟩
      simp only [Value.toState, hfirst]
    | group g => exact .some rfl
    | state s => exact absurd (hbare _ rfl) (Option.some_ne_none s)

theorem carries_fresh {c n₀ : StoryNode} (hbare : Bare n₀.kind n₀.attributes)
    (h : Redrawn (Posed (c.objectIn .setting)) n₀ m) (hgiven : Given N given m)
    (h' : Redrawn (fun _ a a' => a' = a.map fun _ v => v.toState given) m m') :
    Carries (SceneryOf c) (fun s => N s.object) n₀ m' := by
  have hget : ∀ r, m'.get? r = (m.get? r).map (Value.toState given) := by
    intro r
    rw [Node.get?, h'.attributes, Attributes.get?_map]
    rfl
  have hsame : ∀ r, m.get? r = n₀.get? r →
      Option.Rel (Value.Becomes fun s => N s.object) (n₀.get? r) (m'.get? r) := by
    intro r hr
    rw [hget r, ← hr]
    exact rel_toState (fun v hv => hbare r v (hr.symm.trans hv)) (hgiven r)
  refine ⟨h'.kind.trans h.kind, fun r => ?_⟩
  rcases h.attributes with ⟨hkept, -⟩ | ⟨hpose, o, ho, hset⟩
  · exact Or.inl (hsame r (by rw [Node.get?, hkept]; rfl))
  by_cases hr : r = .object
  · have hobject : m.get? .object = some (.object o) := by
      rw [Node.get?, hset, Attributes.get?_set, if_pos rfl]
    obtain ⟨first, hfirst, hbeq, hN⟩ := hgiven .object o hobject
    refine Or.inr ⟨hpose, hr, { object := first }, ?_, ⟨o, ho, hbeq⟩, hN⟩
    simp only [hget, hobject, Option.map_some, Value.toState, hfirst]
  · refine Or.inl (hsame r ?_)
    rw [Node.get?, hset, Attributes.get?_set, if_neg hr]
    rfl

/-- With fresh states, a scene tells what it came with. -/
theorem forall₂_fresh {c₀ c c' : StoryNode} (hbare : c₀.Everywhere Bare)
    (h : Annotated sequences (Posed (c₀.objectIn .setting)) c₀ c)
    (hgiven : ∀ m ∈ c.preorder, Given N given m)
    (h' : Annotated sequences (fun _ a a' => a' = a.map fun _ v => v.toState given) c c') :
    Forall₂ (Carries (SceneryOf c₀) fun s => N s.object) c₀.events c'.events := by
  have hevents : ∀ {m e : StoryNode}, e ∈ m.events → e ∈ m.preorder := fun he =>
    (List.mem_filter.1 he).1
  have hfirst := (List.forall₂_and_left _ _).2
    ⟨fun e he => hbare e (hevents he), h.events⟩
  have hsecond := (List.forall₂_and_left _ _).2
    ⟨fun e he => hgiven e (hevents he), h'.events⟩
  exact forall₂_comp hfirst hsecond fun _ _ _ hn hm => carries_fresh hn.1 hn.2 hm.1 hm.2

theorem Carried.fresh {c₀ c c' : StoryNode} (hbare : c₀.Everywhere Bare)
    (h : Annotated sequences (Posed (c₀.objectIn .setting)) c₀ c)
    (hgiven : ∀ m ∈ c.preorder, Given N given m)
    (h' : Annotated sequences (fun _ a a' => a' = a.map fun _ v => v.toState given) c c') :
    Carried (fun s => N s.object) (fun _ => true) c₀ c' := by
  have hevents : ∀ {m e : StoryNode}, e ∈ m.events → e ∈ m.preorder := fun he =>
    (List.mem_filter.1 he).1
  constructor
  · have hsame : c.get? .setting = c₀.get? .setting := by
      rcases h.attributes with ⟨hkept, -⟩ | ⟨hpose, -⟩
      · rw [Node.get?, hkept]
        rfl
      · cases hpose
    have hget : c'.get? .setting = (c.get? .setting).map (Value.toState given) := by
      rw [Node.get?, h'.attributes, Attributes.get?_map]
      rfl
    rw [hget, ← hsame]
    exact rel_toState (fun v hv => hbare c₀ c₀.mem_preorder_self .setting v (hsame.symm.trans hv))
      (hgiven c c.mem_preorder_self .setting)
  · rw [List.filter_true]
    exact .of_forall₂ (forall₂_fresh hbare h hgiven h')
  · rintro ⟨o, ho⟩ m' hm' hpose
    obtain ⟨m, hm, hmm⟩ := exists_of_mem_right h'.events hm'
    obtain ⟨n₀, -, hnm⟩ := exists_of_mem_right h.events hm
    have hpose : n₀.kind = .event .poseDescription := (hmm.kind.trans hnm.kind).symm.trans hpose
    rcases hnm.attributes with ⟨-, hnone⟩ | ⟨-, o', -, hset⟩
    · exact absurd ho (hnone hpose o)
    have hobject : m.get? .object = some (.object o') := by
      rw [Node.get?, hset, Attributes.get?_set, if_pos rfl]
    obtain ⟨first, hfirst, -⟩ := hgiven m (hevents hm) .object o' hobject
    refine ⟨{ object := first }, ?_⟩
    rw [Node.get?, hmm.attributes, Attributes.get?_map]
    unfold Node.get? at hobject
    simp only [hobject, Option.map_some, Value.toState, hfirst]

/-- With fresh states, a story is scene by scene what fresh states make of it. -/
theorem lowered_fresh {T : StoryNode → StoryNode → Prop} {n₀ n n' : StoryNode}
    (hbare : n₀.Everywhere Bare)
    (h : Lowered (fun c => Annotated sequences (Posed (c.objectIn .setting)) c) n₀ n)
    (hgiven : ∀ m ∈ n.preorder, Given N given m)
    (h' : Lowered (Annotated sequences fun _ a a' => a' = a.map fun _ v => v.toState given) n n')
    (hT : ∀ c₀ c c', c₀ ∈ n₀.children → c₀.Everywhere Bare →
      Annotated sequences (Posed (c₀.objectIn .setting)) c₀ c → (∀ m ∈ c.preorder, Given N given m) →
        Annotated sequences (fun _ a a' => a' = a.map fun _ v => v.toState given) c c' → T c₀ c') :
    Lowered T n₀ n' := by
  have hfirst := (List.forall₂_and_left (p := fun c => c ∈ n₀.children ∧ c.Everywhere Bare) _ _).2
    ⟨fun c hc => ⟨hc, hbare.of_mem hc⟩, h.scenes⟩
  have hscene : ∀ c ∈ n.children, ∀ m ∈ c.preorder, Given N given m := by
    intro c hc m hm
    exact hgiven m (Node.mem_preorder_iff.2 (.inr ⟨c, hc, hm⟩))
  have hsecond := (List.forall₂_and_left _ _).2 ⟨hscene, h'.scenes⟩
  exact ⟨h'.kind, forall₂_comp hfirst hsecond fun c₀ c c' hc hd =>
    hT c₀ c c' hc.1.1 hc.1.2 hc.2 hd.1 hd.2⟩

end FreshStates

end SpaceOpera
