import SpaceOpera.Proofs.Editor.Lowering
import SpaceOpera.Proofs.Tree.Conforming

/-!
# What the editor keeps throughout a story

The passes of the editor that add and drop nodes put them where they find what they are made of: groups
around nodes that are there, asides beside the event that they are about.  So a condition on the nodes of a
tree, be it handed down from the scenes, is kept by all of them if groups and asides satisfy it (`Stable`),
whatever the shape of the tree.
-/

namespace SpaceOpera

open List (Forall₂)
open StoryNode (ofEvent sequence)

variable {X : Type} {E E' : X → StoryKind → Attributes → X → Prop} {x y : X} {I : Context → Prop}

/-- A condition that only scenes hand something new down for, and that the editor's own groups and asides
satisfy beside the nodes that they are made of. -/
structure Stable (E : X → StoryKind → Attributes → X → Prop) : Prop where
  same : ∀ {x k a y}, E x k a y → k ≠ .scene → y = x
  group : ∀ x {k}, k.isGroup = true → E x k {} x
  aside : ∀ {x e a v}, E x (.event e) a x → a.get? .subject = some v →
    ∀ e', Event.isAside e' = true → E x (.event e') (({} : Attributes).set .subject v) x

section Nodes

variable {n n' : StoryNode} {u ns : List StoryNode} {k : StoryKind} {a : Attributes}

theorem Stable.children (hE : Stable E) (h : Node.Conforms E x ⟨k, a, ns⟩) (hk : k ≠ .scene) :
    E x k a x ∧ ∀ n ∈ ns, n.Conforms E x := by
  obtain ⟨y, ha, hns⟩ := Node.conforms_mk.1 h
  obtain rfl := hE.same ha hk
  exact ⟨ha, hns⟩

theorem Stable.of_group (hE : Stable E) (hk : k.isGroup = true) (hns : ∀ n ∈ ns, n.Conforms E x) :
    Node.Conforms E x ⟨k, {}, ns⟩ :=
  .mk (hE.group x hk) hns

theorem Stable.of_echoes (hE : Stable E) (hn : n.Conforms E x) (hevent : n.event?.isSome = true)
    (h : Echoes n n') : n'.Conforms E x := by
  obtain ⟨v, e', hv, -, he', rfl⟩ := h
  obtain ⟨k, a, cs⟩ := n
  cases k with
  | event e =>
    obtain ⟨ha, -⟩ := hE.children hn nofun
    exact .mk (hE.aside ha hv e' he') nofun
  | _ => cases hevent

theorem Stable.of_bundle (hE : Stable E) (hu : ∀ n ∈ u, n.Conforms E x) : (bundle u).Conforms E x := by
  unfold bundle
  split
  · exact hu _ List.mem_cons_self
  · exact hE.of_group rfl hu

theorem isSome_event?_of_characterSubject {s : State} (h : n.characterSubject? = some s) :
    n.event?.isSome = true := by
  unfold Node.characterSubject? at h
  split at h
  · cases h
  · rename_i he
    rw [he]
    rfl

end Nodes

/-! ## Moods and duties -/

section Removal

mutual

theorem removeMoodModifiers_conforms [Lasting I] (hE : Stable E) {x : X} :
    ∀ n : StoryNode, n.Conforms E x → Yields I (Node.Conforms E x) (removeMoodModifiers n)
  | ⟨k, a, cs⟩, h => by
    obtain ⟨y, ha, hcs⟩ := Node.conforms_mk.1 h
    rw [removeMoodModifiers]
    exact (removeMoodModifiersList_conforms hE cs hcs).bind fun cs' hcs' => Yields.pure (.mk ha hcs')

theorem removeMoodModifiersList_conforms [Lasting I] (hE : Stable E) {x : X} :
    ∀ cs : List StoryNode, (∀ c ∈ cs, c.Conforms E x) →
      Yields I (fun cs' => ∀ c ∈ cs', Node.Conforms E x c) (removeMoodModifiersList cs)
  | [], _ => by
    rw [removeMoodModifiersList]
    exact Yields.pure nofun
  | c :: cs, h => by
    obtain ⟨hc, hcs⟩ := List.forall_mem_cons.1 h
    rw [removeMoodModifiersList]
    have htail : ∀ kept : List StoryNode, (∀ m ∈ kept, Node.Conforms E x m) →
        Yields I (fun cs' => ∀ c ∈ cs', Node.Conforms E x c) (do
          let rest ← removeMoodModifiersList cs
          pure (kept ++ rest)) := fun kept hkept =>
      (removeMoodModifiersList_conforms hE cs hcs).bind fun rest hrest =>
        Yields.pure (P := fun cs' => ∀ c ∈ cs', Node.Conforms E x c)
          (List.forall_mem_append.2 ⟨hkept, hrest⟩)
    split
    · rename_i mood hmood
      obtain ⟨e, he, -⟩ := Option.bind_eq_some_iff.1 hmood
      refine (refusal_yields hmood).bind fun kept hkept => htail kept ?_
      rcases hkept with rfl | ⟨m, rfl, hrefuses⟩
      · exact nofun
      · exact List.forall_mem_singleton.2 (hE.of_echoes hc (by rw [he]; rfl) hrefuses.echoes)
    · refine (removeMoodModifiers_conforms hE c hc).bind fun c' hc' => ?_
      rw [pure_bind]
      exact htail [c'] fun m hm => List.mem_singleton.1 hm ▸ hc'

end

mutual

theorem removeDutyEvents_conforms {x : X} :
    ∀ n : StoryNode, n.Conforms E x → (removeDutyEvents n).Conforms E x
  | ⟨k, a, cs⟩, h => by
    obtain ⟨y, ha, hcs⟩ := Node.conforms_mk.1 h
    rw [removeDutyEvents]
    exact .mk ha (removeDutyEventsList_conforms cs hcs)

theorem removeDutyEventsList_conforms {x : X} :
    ∀ cs : List StoryNode, (∀ c ∈ cs, c.Conforms E x) → ∀ c ∈ removeDutyEventsList cs, c.Conforms E x
  | [], _ => by
    rw [removeDutyEventsList]
    exact nofun
  | c :: cs, h => by
    obtain ⟨hc, hcs⟩ := List.forall_mem_cons.1 h
    rw [removeDutyEventsList]
    split
    · exact removeDutyEventsList_conforms cs hcs
    · exact List.forall_mem_cons.2 ⟨removeDutyEvents_conforms c hc, removeDutyEventsList_conforms cs hcs⟩

end

end Removal

/-! ## Openings -/

section Openings

/-- What opening the scenes asks of conditions before and after it: those of a scene and of what it holds
stay, and its opening satisfies them. -/
def Opening (E E' : X → StoryKind → Attributes → X → Prop) : Prop :=
  ∀ {x a y v place o}, E x .scene a y → a.get? .setting = some v → v.object? = some place →
    IsScenery (some place) o → E' x .scene a y ∧ (∀ c : StoryNode, c.Conforms E y → c.Conforms E' y) ∧
      ∀ m ∈ openingBeats v { object := o, location := some place }, E' y m.kind m.attributes y

theorem openScene_conforms [Lasting I] (hE' : Stable E') (hopen : Opening E E') {a : Attributes}
    {cs : List StoryNode} (h : Node.Conforms E x ⟨.scene, a, cs⟩) :
    Ends I (fun _ => True) (Node.Conforms E' x) (openScene ⟨.scene, a, cs⟩) := by
  obtain ⟨y, ha, hcs⟩ := Node.conforms_mk.1 h
  unfold openScene
  split
  · exact Ends.throw trivial
  · rename_i v hv
    split
    · exact Ends.throw trivial
    · rename_i place hplace
      refine (Ends.drawn (pickSceneryOf_yields (some place))).bind fun scenery hpicked => ?_
      cases scenery with
      | none => exact Ends.throw trivial
      | some o =>
        obtain ⟨ha', hinside, hbeats⟩ := hopen ha hv hplace (hpicked.1 o rfl)
        refine Ends.pure (.mk ha' fun m hm => ?_)
        rw [List.mem_singleton.1 hm]
        refine hE'.of_group rfl fun d hd => ?_
        rcases List.mem_append.1 hd with hd | hd
        · have hd' := hbeats d hd
          obtain ⟨k, b, _⟩ := d
          obtain rfl := (looksAt_of_mem hd).children
          exact .mk hd' fun _ hc => absurd hc List.not_mem_nil
        · rw [List.mem_singleton.1 hd]
          exact hE'.of_group rfl fun c hc => hinside c (hcs c hc)

mutual

theorem describeScenes_conforms [Lasting I] (hE : Stable E) (hE' : Stable E') (hopen : Opening E E')
    (hother : ∀ x k a, k ≠ .scene → E x k a x → E' x k a x) {x : X} :
    ∀ n : StoryNode, n.Conforms E x →
      Ends I (fun _ => True) (Node.Conforms E' x) (describeScenes n)
  | ⟨k, a, cs⟩, h => by
    rw [describeScenes]
    split
    · rename_i hk
      subst hk
      exact openScene_conforms hE' hopen h
    · rename_i hk
      obtain ⟨ha, hcs⟩ := hE.children h hk
      exact (describeScenesList_conforms hE hE' hopen hother cs hcs).bind fun cs' hcs' =>
        Ends.pure (.mk (hother x k a hk ha) hcs')

theorem describeScenesList_conforms [Lasting I] (hE : Stable E) (hE' : Stable E') (hopen : Opening E E')
    (hother : ∀ x k a, k ≠ .scene → E x k a x → E' x k a x) {x : X} :
    ∀ cs : List StoryNode, (∀ c ∈ cs, c.Conforms E x) →
      Ends I (fun _ => True) (fun cs' => ∀ c ∈ cs', Node.Conforms E' x c) (describeScenesList cs)
  | [], _ => by
    rw [describeScenesList]
    exact Ends.pure nofun
  | c :: cs, h => by
    obtain ⟨hc, hcs⟩ := List.forall_mem_cons.1 h
    rw [describeScenesList]
    refine (describeScenes_conforms hE hE' hopen hother c hc).bind fun c' hc' => ?_
    refine (describeScenesList_conforms hE hE' hopen hother cs hcs).bind fun cs' hcs' => ?_
    exact Ends.pure (List.forall_mem_cons.2 ⟨hc', hcs'⟩)

end

end Openings

/-! ## Descriptions -/

section Descriptions

variable {σ : Type} {tell : StoryNode → State → StateT σ Roll StoryNode}

/-- What is told of an event that fits fits in its place. -/
def TellsConforming (I : Context → Prop) (E : X → StoryKind → Attributes → X → Prop)
    (tell : StoryNode → State → StateT σ Roll StoryNode) : Prop :=
  ∀ {x : X} {n : StoryNode} {s : State}, n.characterSubject? = some s → n.Conforms E x → ∀ i,
    Yields I (fun p => Node.Conforms E x p.1) ((tell n s).run i)

mutual

theorem tellSubjects_conforms (htell : TellsConforming I E tell) {x : X} :
    ∀ (n : StoryNode) (i : σ), n.Conforms E x →
      Yields I (fun p => Node.Conforms E x p.1) ((tellSubjects tell n).run i)
  | ⟨k, a, cs⟩, i, h => by
    rw [tellSubjects]
    split
    · exact htell ‹_› h i
    · obtain ⟨y, ha, hcs⟩ := Node.conforms_mk.1 h
      simp only [StateT.run_bind, StateT.run_pure]
      exact (tellSubjectsList_conforms htell cs i hcs).bind fun p hp => Yields.pure (.mk ha hp)

theorem tellSubjectsList_conforms (htell : TellsConforming I E tell) {x : X} :
    ∀ (cs : List StoryNode) (i : σ), (∀ c ∈ cs, c.Conforms E x) →
      Yields I (fun p => ∀ c ∈ p.1, Node.Conforms E x c) ((tellSubjectsList tell cs).run i)
  | [], _, _ => by
    rw [tellSubjectsList]
    exact Yields.pure nofun
  | c :: cs, i, h => by
    obtain ⟨hc, hcs⟩ := List.forall_mem_cons.1 h
    rw [tellSubjectsList]
    simp only [StateT.run_bind, StateT.run_pure]
    refine (tellSubjects_conforms htell c i hc).bind fun p hp => ?_
    refine (tellSubjectsList_conforms htell cs p.2 hcs).bind fun q hq => ?_
    exact Yields.pure (List.forall_mem_cons.2 ⟨hp, hq⟩)

end

theorem Stable.of_depictions (hE : Stable E) {n : StoryNode} {s : State} {ms : List StoryNode}
    (hs : n.characterSubject? = some s) (hn : n.Conforms E x) (hms : ∀ m ∈ ms, Depiction s m) :
    (bundle (n :: ms)).Conforms E x :=
  hE.of_bundle (List.forall_mem_cons.2 ⟨hn, fun m hm => hE.of_echoes hn
    (isSome_event?_of_characterSubject hs) (echoes_of_depiction hs (hms m hm))⟩)

theorem describeSubject_conforms [Lasting I] (hE : Stable E) : TellsConforming I E describeSubject := by
  intro x n s hs hn i
  refine (describeSubject_yields hs i).imp fun p hp => ?_
  obtain ⟨u, hu, h⟩ := hp
  rw [hu]
  rcases h.exists_eq with rfl | ⟨t, ht, rfl⟩
  · exact hE.of_depictions hs hn nofun
  · exact hE.of_depictions ht hn (depiction_portrait t)

theorem remindSubject_conforms [Lasting I] (hE : Stable E) : TellsConforming I E remindSubject := by
  intro x n s hs hn r
  refine (remindSubject_yields hs r).imp fun p hp => ?_
  obtain ⟨u, hu, h, -⟩ := hp
  rw [hu]
  generalize p.2 = r' at h
  cases h with
  | silent => exact hE.of_depictions hs hn nofun
  | @told _ t ht =>
    exact hE.of_depictions ht hn fun m hm => List.mem_singleton.1 hm ▸ depiction_reminder t

theorem costumeAfter_conforms [Lasting I] (hE : Stable E) {n : StoryNode} (hn : n.Conforms E x)
    (described : Roster) : Yields I (Waits (Node.Conforms E x)) (costumeAfter n described) :=
  (costumeAfter_yields described fun _ hs _ he => hE.of_echoes hn
    (isSome_event?_of_characterSubject hs)
    (echoes_of_characterSubject hs (Event.isAside_of_isCostume he))).imp fun _ => And.left

mutual

theorem describeCostumes_conforms [Lasting I] (hE : Stable E) {x : X} :
    ∀ (n : StoryNode) (described : Roster), n.Conforms E x →
      Yields I (fun p => Node.Conforms E x p.1) (describeCostumes described n)
  | ⟨k, a, cs⟩, described, h => by
    obtain ⟨y, ha, hcs⟩ := Node.conforms_mk.1 h
    rw [describeCostumes]
    exact (describeCostumesList_conforms hE cs _ none waits_none hcs).bind fun p hp =>
      Yields.pure (.mk ha hp)

theorem describeCostumesList_conforms [Lasting I] (hE : Stable E) {x : X} :
    ∀ (cs : List StoryNode) (described : Roster) (pending : Option PendingBeats),
      Waits (Node.Conforms E x) pending → (∀ c ∈ cs, c.Conforms E x) →
        Yields I (fun p => ∀ c ∈ p.1, Node.Conforms E x c) (describeCostumesList described pending cs)
  | [], described, pending, hpending, _ => by
    rw [describeCostumesList]
    exact Yields.pure fun m hm => (hpending.of_mem hm).2
  | c :: cs, described, pending, hpending, h => by
    obtain ⟨hc, hcs⟩ := List.forall_mem_cons.1 h
    obtain ⟨hreleased, hwaits, -⟩ := hpending.release c
    rw [describeCostumesList]
    generalize release c pending = result at hreleased hwaits
    obtain ⟨released, pending'⟩ := result
    have hfront : ∀ m ∈ released, Node.Conforms E x m := fun m hm =>
      (hpending.of_mem (hreleased m hm)).2
    have htold : ∀ (c' : StoryNode) (rest : List StoryNode), c'.Conforms E x →
        (∀ m ∈ rest, Node.Conforms E x m) → ∀ m ∈ released ++ c' :: rest, Node.Conforms E x m :=
      fun c' rest hc' hrest => List.forall_mem_append.2 ⟨hfront, List.forall_mem_cons.2 ⟨hc', hrest⟩⟩
    dsimp only
    refine Yields.ite (fun _ => ?_) fun _ => ?_
    · refine (costumeAfter_conforms hE hc described).bind fun p? hp => ?_
      cases p? with
      | none =>
        exact (describeCostumesList_conforms hE cs _ pending' hwaits hcs).bind fun q hq =>
          Yields.pure (htold c q.1 hc hq)
      | some p =>
        exact (describeCostumesList_conforms hE cs _ (some p) hp hcs).bind fun q hq =>
          Yields.pure (htold c q.1 hc hq)
    · refine (describeCostumes_conforms hE c described hc).bind fun p hp => ?_
      exact (describeCostumesList_conforms hE cs _ none waits_none hcs).bind fun q hq =>
        Yields.pure (htold p.1 q.1 hp hq)

end

/-- All that is told of characters fits; in the end first mentions are marked. -/
theorem described_conforms [Lasting I] (hE : Stable E) {n : StoryNode} (introduced : Roster)
    (h : n.Conforms E x) : Yields I (fun p => ∃ n' : StoryNode, n'.Conforms E x ∧ p.1 = (assignFirstOccurrence {} n').1)
      (Editor.described introduced n) := by
  unfold Editor.described
  refine (tellSubjects_conforms (describeSubject_conforms hE) n _ h).bind fun p hp => ?_
  refine (tellSubjects_conforms (remindSubject_conforms hE) p.1 _ hp).bind fun q hq => ?_
  refine (describeCostumes_conforms hE q.1 {} hq).bind fun r hr => ?_
  exact Yields.pure ⟨r.1, hr, rfl⟩

end Descriptions

/-! ## Arrangement -/

section Arrangement

mutual

theorem flatten_conforms (hE : Stable E) {x : X} :
    ∀ n : StoryNode, n.Conforms E x → n.flatten.Conforms E x
  | ⟨k, a, cs⟩, h => by
    obtain ⟨y, ha, hcs⟩ := Node.conforms_mk.1 h
    rw [Node.flatten]
    exact .mk ha (flattenList_conforms hE k cs hcs)

theorem flattenList_conforms (hE : Stable E) {x : X} (k : StoryKind) :
    ∀ cs : List StoryNode, (∀ c ∈ cs, c.Conforms E x) → ∀ c ∈ Node.flattenList k cs, c.Conforms E x
  | [], _ => by
    rw [Node.flattenList]
    exact nofun
  | c :: cs, h => by
    obtain ⟨hc, hcs⟩ := List.forall_mem_cons.1 h
    have hflat := flatten_conforms hE c hc
    rw [Node.flattenList]
    refine List.forall_mem_append.2 ⟨?_, flattenList_conforms hE k cs hcs⟩
    generalize c.flatten = c' at hflat
    obtain ⟨k', a, ds⟩ := c'
    unfold Node.splice
    split
    · rename_i hk
      obtain ⟨hsequence, rfl⟩ := hk
      refine (hE.children hflat ?_).2
      rintro rfl
      cases hsequence
    · exact fun m hm => List.mem_singleton.1 hm ▸ hflat

end

theorem splitScene_conforms (hE : Stable E) {n : StoryNode} (h : n.Conforms E x) :
    Outcome (fun _ => True) (Node.Conforms E x) (splitScene n) := by
  obtain ⟨k, a, cs⟩ := n
  obtain ⟨y, ha, hcs⟩ := Node.conforms_mk.1 h
  unfold splitScene
  split
  · rename_i events hevents
    obtain rfl : cs = [events] := hevents
    obtain ⟨k', b, es⟩ := events
    split
    · rename_i hk
      obtain rfl : k' = .eventSequence := hk
      obtain ⟨-, hes⟩ := hE.children (hcs _ (List.mem_singleton_self _)) nofun
      split
      · trivial
      · refine .mk ha fun m hm => ?_
        rw [List.mem_singleton.1 hm]
        refine hE.of_group rfl fun q hq => ?_
        obtain ⟨p, hp, rfl⟩ := List.mem_map.1 hq
        refine hE.of_group rfl fun e he => hes e ?_
        have hmem := List.mem_flatten_of_mem hp he
        rwa [paragraphsOf, flatten_paragraphsFrom] at hmem
    · trivial
  · trivial

mutual

theorem splitIntoParagraphs_conforms (hE : Stable E) {x : X} :
    ∀ n : StoryNode, n.Conforms E x →
      Outcome (fun _ => True) (Node.Conforms E x) (splitIntoParagraphs n)
  | ⟨k, a, cs⟩, h => by
    rw [splitIntoParagraphs]
    split
    · exact splitScene_conforms hE h
    · obtain ⟨y, ha, hcs⟩ := Node.conforms_mk.1 h
      exact (splitIntoParagraphsList_conforms hE cs hcs).bind fun cs' hcs' => .mk ha hcs'

theorem splitIntoParagraphsList_conforms (hE : Stable E) {x : X} :
    ∀ cs : List StoryNode, (∀ c ∈ cs, c.Conforms E x) →
      Outcome (fun _ => True) (fun cs' => ∀ c ∈ cs', Node.Conforms E x c) (splitIntoParagraphsList cs)
  | [], _ => by
    rw [splitIntoParagraphsList]
    exact fun _ hc => absurd hc List.not_mem_nil
  | c :: cs, h => by
    obtain ⟨hc, hcs⟩ := List.forall_mem_cons.1 h
    rw [splitIntoParagraphsList]
    refine (splitIntoParagraphs_conforms hE c hc).bind fun c' hc' => ?_
    refine (splitIntoParagraphsList_conforms hE cs hcs).bind fun cs' hcs' => ?_
    exact List.forall_mem_cons.2 ⟨hc', hcs'⟩

end

theorem conjoinFrom_conforms [Lasting I] (hE : Stable E) (chance : Nat) {held : StoryNode}
    {cs : List StoryNode} (hheld : held.Conforms E x) (hcs : ∀ c ∈ cs, c.Conforms E x) :
    Yields I (fun cs' => ∀ c ∈ cs', Node.Conforms E x c) (conjoinFrom chance held cs) := by
  induction cs generalizing held with
  | nil =>
    rw [conjoinFrom]
    exact Yields.pure fun m hm => List.mem_singleton.1 hm ▸ hheld
  | cons c cs ih =>
    obtain ⟨hc, hcs⟩ := List.forall_mem_cons.1 hcs
    rw [conjoinFrom]
    have hstep : ∀ joins : Bool, Yields I (fun cs' => ∀ c ∈ cs', Node.Conforms E x c)
        (if joins then conjoinFrom chance (conjoined held c) cs
        else do
          let rest ← conjoinFrom chance c cs
          return held :: rest) := by
      refine fun joins => Yields.ite (fun _ => ih (hE.of_group rfl fun m hm => ?_) hcs) fun _ => ?_
      · rcases List.mem_cons.1 hm with rfl | hm
        · exact hheld
        · exact List.mem_singleton.1 hm ▸ hc
      · exact (ih hc hcs).bind fun rest hrest => Yields.pure (List.forall_mem_cons.2 ⟨hheld, hrest⟩)
    refine Yields.ite (fun _ => ?_) fun _ => hstep false
    exact (Roll.chance_yields chance).bind fun joins _ => hstep joins

mutual

theorem conjoin_conforms [Lasting I] (hE : Stable E) (chance : Nat) {x : X} :
    ∀ n : StoryNode, n.Conforms E x → Yields I (Node.Conforms E x) (conjoin chance n)
  | ⟨k, a, cs⟩, h => by
    obtain ⟨y, ha, hcs⟩ := Node.conforms_mk.1 h
    rw [conjoin]
    refine Yields.ite (fun _ => ?_) fun _ => ?_
    · cases cs with
      | nil => exact Yields.pure (.mk ha nofun)
      | cons c cs =>
        obtain ⟨hc, hcs⟩ := List.forall_mem_cons.1 hcs
        exact (conjoinFrom_conforms hE chance hc hcs).bind fun cs' hcs' => Yields.pure (.mk ha hcs')
    · exact (conjoinList_conforms hE chance cs hcs).bind fun cs' hcs' => Yields.pure (.mk ha hcs')

theorem conjoinList_conforms [Lasting I] (hE : Stable E) (chance : Nat) {x : X} :
    ∀ cs : List StoryNode, (∀ c ∈ cs, c.Conforms E x) →
      Yields I (fun cs' => ∀ c ∈ cs', Node.Conforms E x c) (conjoinList chance cs)
  | [], _ => by
    rw [conjoinList]
    exact Yields.pure nofun
  | c :: cs, h => by
    obtain ⟨hc, hcs⟩ := List.forall_mem_cons.1 h
    rw [conjoinList]
    refine (conjoin_conforms hE chance c hc).bind fun c' hc' => ?_
    refine (conjoinList_conforms hE chance cs hcs).bind fun cs' hcs' => ?_
    exact Yields.pure (List.forall_mem_cons.2 ⟨hc', hcs'⟩)

end

end Arrangement

end SpaceOpera
