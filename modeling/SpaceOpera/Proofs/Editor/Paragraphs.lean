import SpaceOpera.Editor.Paragraphs
import SpaceOpera.Proofs.Story.Shape
import SpaceOpera.Proofs.Editor.Asides

/-!
# The arrangement in paragraphs

Flattening a scene leaves one sequence of its events, breaking the sequence into paragraphs and joining
events in pairs only put groups around them: no event is lost, told twice or moved.  In the end every scene
is laid out as one sequence of paragraphs, of events and of pairs of events (`LaidOut Sentence`).
-/

namespace SpaceOpera

open List (Forall₂)

/-- The groups of a story in paragraphs. -/
abbrev paragraphed : List StoryKind := [.eventSequence, .paragraph]

/-- The groups of a story that has been arranged. -/
abbrev arrangement : List StoryKind := [.eventSequence, .paragraph, .conjoined]

theorem isGroup_of_mem_paragraphed : ∀ k ∈ paragraphed, k.isGroup = true := by decide

theorem isGroup_of_mem_arrangement : ∀ k ∈ arrangement, k.isGroup = true := by decide

/-! ## Layout -/

/-- What stands in a paragraph: an event, or two in one sentence. -/
inductive Sentence : StoryNode → Prop
  | beat {n : StoryNode} (hn : n.IsBeat) : Sentence n
  | joined {n m : StoryNode} (hn : n.IsBeat) (hm : m.IsBeat) (a : Attributes) :
      Sentence ⟨.conjoined, a, [n, m]⟩

/-- A paragraph with something in it, all of it with `S`. -/
structure ParagraphOf (S : StoryNode → Prop) (n : StoryNode) : Prop where
  kind : n.kind = .paragraph
  nonempty : n.children ≠ []
  parts : ∀ m ∈ n.children, S m

/-- A scene of one sequence of paragraphs. -/
structure LaidOut (S : StoryNode → Prop) (c : StoryNode) : Prop where
  kind : c.kind = .scene
  paragraphs : ∃ m, c.children = [m] ∧ m.kind = .eventSequence ∧ ∀ p ∈ m.children, ParagraphOf S p

/-- A scene before and after it is laid out. -/
structure Arranged (S : StoryNode → Prop) (c c' : StoryNode) : Prop where
  attributes : c.attributes = c'.attributes
  events : c.events = c'.events
  layout : LaidOut S c'

variable {n c : StoryNode} {cs es : List StoryNode}

section Layout

variable {ks : List StoryKind} {S : StoryNode → Prop} {c' : StoryNode}

theorem Sentence.body (h : Sentence n) : Body arrangement n := by
  cases h with
  | beat hn => exact hn.body
  | joined hn hm a =>
    refine .group (by decide) a fun d hd => ?_
    rcases List.mem_cons.1 hd with rfl | hd
    · exact hn.body
    · exact List.mem_singleton.1 hd ▸ hm.body

theorem LaidOut.sceneOf (hks : paragraphed ⊆ ks) (h : LaidOut S c) (hS : ∀ m, S m → Body ks m) :
    SceneOf ks c := by
  obtain ⟨⟨k, a, ps⟩, hc, hk, hps⟩ := h.paragraphs
  obtain rfl : k = .eventSequence := hk
  refine ⟨h.kind, fun m hm => ?_⟩
  rw [hc] at hm
  rw [List.mem_singleton.1 hm]
  refine .group (hks (by decide)) a fun p hp => ?_
  obtain ⟨hkind, -, hparts⟩ := hps p hp
  obtain ⟨k, b, ms⟩ := p
  obtain rfl : k = .paragraph := hkind
  exact .group (hks (by decide)) b fun m hm => hS m (hparts m hm)

theorem LaidOut.scene (h : LaidOut Sentence c) : SceneOf arrangement c :=
  h.sceneOf (by decide) fun _ hm => hm.body

theorem Arranged.rewritten (hks : paragraphed ⊆ ks) (h : Arranged S c c')
    (hS : ∀ m, S m → Body ks m) : Rewritten ks Eq Eq c c' :=
  ⟨h.layout.sceneOf hks hS, h.attributes, h.events⟩

theorem isBeat_of_shaped {n' : StoryNode} (h : Node.Shaped n n') (hn : n.IsBeat) : n'.IsBeat := by
  obtain ⟨e, a, rfl⟩ := hn
  cases h with
  | @mk _ _ a' _ cs' hcs =>
    obtain rfl := List.forall₂_nil_left_iff.1 hcs
    exact ⟨e, a', rfl⟩

theorem ParagraphOf.shaped {n' : StoryNode} (hn : ParagraphOf Node.IsBeat n)
    (h : Node.Shaped n n') : ParagraphOf Node.IsBeat n' := by
  obtain ⟨hkind, hnonempty, hparts⟩ := hn
  cases h with
  | @mk k _ a' cs cs' hcs =>
    refine ⟨hkind, ?_, fun m' hm' => ?_⟩
    · rintro (rfl : cs' = [])
      exact hnonempty (List.forall₂_nil_right_iff.1 hcs)
    · obtain ⟨m, hm, hmm⟩ := exists_of_mem_right hcs hm'
      exact isBeat_of_shaped hmm (hparts m hm)

/-- The layout is a matter of kinds and shape. -/
theorem LaidOut.shaped (hc : LaidOut Node.IsBeat c) (h : Node.Shaped c c') :
    LaidOut Node.IsBeat c' := by
  obtain ⟨hkind, m, hchildren, hm, hps⟩ := hc
  cases h with
  | @mk k _ a' cs cs' hcs =>
    obtain rfl : cs = [m] := hchildren
    obtain ⟨m', ms', hmm, hms, rfl⟩ := List.forall₂_cons_left_iff.1 hcs
    obtain rfl := List.forall₂_nil_left_iff.1 hms
    refine ⟨hkind, m', rfl, ?_⟩
    cases hmm with
    | mk hps' =>
      refine ⟨hm, fun p' hp' => ?_⟩
      obtain ⟨p, hp, hpp⟩ := exists_of_mem_right hps' hp'
      exact (hps p hp).shaped hpp

end Layout

/-! ## Flat scenes -/

section Flat

theorem splice_flatten (hn : Body sequences n) : Node.splice .eventSequence n.flatten = n.events := by
  induction hn with
  | beat e a =>
    rw [Node.flatten, Node.flattenList, events_beat, Node.splice, if_neg (by simp)]
  | @group k cs hk a h ih =>
    obtain rfl := List.mem_singleton.1 hk
    rw [Node.flatten, Node.splice, if_pos ⟨rfl, rfl⟩, events_of_not_event rfl,
      Node.flattenList_eq_flatMap]
    exact List.flatMap_congr ih

/-- A flat scene holds one sequence of its events. -/
theorem flatten_scene (hc : SceneOf sequences c) (hone : OneSequence c.children) :
    ∃ b, c.flatten = ⟨.scene, c.attributes, [⟨.eventSequence, b, c.events⟩]⟩ := by
  obtain ⟨k, a, cs⟩ := c
  obtain rfl : k = .scene := hc.kind
  obtain ⟨⟨km, b, ms⟩, rfl, hm⟩ := hone
  obtain rfl : km = .eventSequence := hm
  have hbody : ∀ m ∈ ms, Body sequences m := by
    cases hc.body _ (List.mem_singleton_self _) with
    | group _ _ h => exact h
  have hflat : Node.flattenList .eventSequence ms = ms.flatMap Node.events :=
    (Node.flattenList_eq_flatMap _ ms).trans
      (List.flatMap_congr fun m hm => splice_flatten (hbody m hm))
  have hevents : Node.events ⟨.scene, a, [⟨.eventSequence, b, ms⟩]⟩ = ms.flatMap Node.events := by
    rw [hc.events_eq, List.flatMap_singleton, events_of_not_event rfl]
  refine ⟨b, ?_⟩
  rw [hevents, Node.flatten, Node.flattenList_eq_flatMap, List.flatMap_singleton, Node.flatten,
    Node.splice, if_neg (by simp [NodeKind.isSequence]), hflat]

end Flat

/-! ## Paragraphs -/

section Paragraphs

theorem flatten_paragraphsFrom (subject : Option Object) (current ns : List StoryNode) :
    (paragraphsFrom subject current ns).flatten = current ++ ns := by
  induction ns generalizing subject current with
  | nil =>
    rw [paragraphsFrom]
    by_cases hc : current = []
    · subst hc
      rfl
    · rw [if_neg (by simpa using hc)]
      rfl
  | cons n ns ih =>
    rw [paragraphsFrom]
    split
    · by_cases hc : current = []
      · subst hc
        simp [ih]
      · simp [hc, ih]
    · rw [ih, List.append_assoc, List.singleton_append]

theorem ne_nil_of_mem_paragraphsFrom {subject : Option Object} {current ns p : List StoryNode}
    (hp : p ∈ paragraphsFrom subject current ns) : p ≠ [] := by
  induction ns generalizing subject current with
  | nil =>
    rw [paragraphsFrom] at hp
    split at hp
    · exact absurd hp List.not_mem_nil
    · rename_i hcurrent
      exact List.mem_singleton.1 hp ▸ fun h => hcurrent (List.isEmpty_iff.2 h)
  | cons n ns ih =>
    rw [paragraphsFrom] at hp
    split at hp
    · split at hp
      · exact ih hp
      · rename_i hcurrent
        rcases List.mem_cons.1 hp with rfl | hp
        · exact fun h => hcurrent (List.isEmpty_iff.2 h)
        · exact ih hp
    · exact ih hp

theorem splitScene_eq_ok {a b : Attributes} (hes : ∀ e ∈ es, e.event?.isSome = true) :
    splitScene ⟨.scene, a, [⟨.eventSequence, b, es⟩]⟩ = .ok ⟨.scene, a, [StoryNode.sequence
      ((paragraphsOf es).map fun p => { kind := .paragraph, children := p })]⟩ := by
  have hnone : es.find? (·.event?.isNone) = none := by
    rw [List.find?_eq_none]
    intro e he
    rw [Option.isNone_iff_eq_none, ← Option.not_isSome_iff_eq_none, hes e he]
    simp
  simp only [splitScene, ↓reduceIte, hnone]
  rfl

/-- The scene in paragraphs. -/
theorem splitIntoParagraphs_scene (hc : SceneOf sequences c) (hone : OneSequence c.children) :
    ∃ c', splitIntoParagraphs c.flatten = .ok c' ∧ Arranged Node.IsBeat c c' := by
  obtain ⟨b, hflat⟩ := flatten_scene hc hone
  have hbeat : ∀ e ∈ c.events, e.IsBeat := fun e he => hc.exists_beat isGroup_of_mem_sequences he
  rw [hflat, splitIntoParagraphs, if_pos rfl,
    splitScene_eq_ok fun e he => isSome_event?_of_mem_events he]
  have hmem : ∀ p ∈ paragraphsOf c.events, ∀ e ∈ p, e ∈ c.events := by
    intro p hp e he
    have h := List.mem_flatten_of_mem hp he
    rwa [paragraphsOf, flatten_paragraphsFrom, List.nil_append] at h
  have hlayout : LaidOut Node.IsBeat ⟨.scene, c.attributes, [StoryNode.sequence
      ((paragraphsOf c.events).map fun p => { kind := .paragraph, children := p })]⟩ := by
    refine ⟨rfl, _, rfl, rfl, fun d hd => ?_⟩
    obtain ⟨p, hp, rfl⟩ := List.mem_map.1 hd
    exact ⟨rfl, ne_nil_of_mem_paragraphsFrom hp, fun e he => hbeat e (hmem p hp e he)⟩
  refine ⟨_, rfl, rfl, ?_, hlayout⟩
  have hparagraph : ∀ p ∈ paragraphsOf c.events,
      Node.events { kind := .paragraph, children := p } = p := by
    intro p hp
    rw [events_of_not_event rfl]
    exact flatMap_events_of_beats fun e he => (hbeat e (hmem p hp e he)).events
  rw [(hlayout.sceneOf (List.Subset.refl _) fun _ h => h.body).events_eq, List.flatMap_singleton,
    events_sequence, List.flatMap_map, List.flatMap_congr hparagraph, List.flatMap_id',
    paragraphsOf, flatten_paragraphsFrom, List.nil_append]

theorem splitIntoParagraphsList_scenes (hcs : ∀ c ∈ cs, SceneOf sequences c)
    (hone : ∀ c ∈ cs, OneSequence c.children) :
    ∃ cs', splitIntoParagraphsList (Node.flattenList .story cs) = .ok cs' ∧
      Forall₂ (Arranged Node.IsBeat) cs cs' := by
  induction cs with
  | nil => exact ⟨[], by rw [Node.flattenList, splitIntoParagraphsList]; rfl, .nil⟩
  | cons c cs ih =>
    obtain ⟨hc, hrest⟩ := List.forall_mem_cons.1 hcs
    obtain ⟨hfirst, hones⟩ := List.forall_mem_cons.1 hone
    obtain ⟨c', hc', hcc⟩ := splitIntoParagraphs_scene hc hfirst
    obtain ⟨cs', hcs', hrel⟩ := ih hrest hones
    refine ⟨c' :: cs', ?_, .cons hcc hrel⟩
    rw [Node.flattenList, Node.splice, if_neg (by simp [NodeKind.isSequence]),
      List.singleton_append, splitIntoParagraphsList, hc', hcs']
    rfl

/-- Scenes that hold one sequence can be broken into paragraphs. -/
theorem splitIntoParagraphs_eq_ok (hn : StoryOf sequences n)
    (hone : ∀ c ∈ n.children, OneSequence c.children) :
    ∃ n', splitIntoParagraphs n.flatten = .ok n' ∧ Lowered (Arranged Node.IsBeat) n n' := by
  obtain ⟨k, a, cs⟩ := n
  obtain rfl : k = .story := hn.kind
  obtain ⟨cs', hcs', hrel⟩ := splitIntoParagraphsList_scenes hn.scenes hone
  refine ⟨⟨.story, a, cs'⟩, ?_, rfl, hrel⟩
  rw [Node.flatten, splitIntoParagraphs, if_neg (by decide), hcs']
  rfl

end Paragraphs

theorem assignReferents_shaped (referent : Option Object) (n : StoryNode) :
    Node.Shaped n (assignReferents referent n).1 :=
  (Node.annotate_shaped (Judgement.yields fun _ => True)
    (fun _ _ a => Yields.anything (flagReferents a)) () n referent trivial).1

/-! ## Joined events -/

section Joining

variable {I : Context → Prop}

theorem conjoinList_yields (chance : Nat) {S : StoryNode → StoryNode → Prop}
    (h : ∀ c ∈ cs, Yields I (S c) (conjoin chance c)) :
    Yields I (Forall₂ S cs) (conjoinList chance cs) := by
  induction cs with
  | nil =>
    rw [conjoinList]
    exact Yields.pure .nil
  | cons c cs ih =>
    rw [conjoinList]
    refine (h c List.mem_cons_self).bind fun c' hc' => ?_
    refine (ih fun d hd => h d (List.mem_cons_of_mem c hd)).bind fun cs' hcs' => ?_
    exact Yields.pure (.cons hc' hcs')

theorem flatMap_events_congr {cs cs' : List StoryNode}
    (h : Forall₂ (fun m m' => Node.events m = Node.events m') cs cs') :
    cs.flatMap Node.events = cs'.flatMap Node.events := by
  induction h with
  | nil => rfl
  | cons hab _ ih => rw [List.flatMap_cons, List.flatMap_cons, hab, ih]

variable [Lasting I]

omit [Lasting I] in
/-- Only an event can be joined to another one; a pair has no place for a third. -/
theorem Sentence.isBeat (h : Sentence n) (hn : n.isConjoinable = true) : n.IsBeat := by
  cases h with
  | beat hn => exact hn
  | joined => exact absurd hn Bool.false_ne_true

/-- The events from one on, some of them in pairs. -/
theorem conjoinFrom_yields (chance : Nat) {held : StoryNode} (hheld : Sentence held)
    (hcs : ∀ c ∈ cs, c.IsBeat) :
    Yields I (fun cs' => cs' ≠ [] ∧ (∀ c ∈ cs', Sentence c) ∧
      held.events ++ cs.flatMap Node.events = cs'.flatMap Node.events)
      (conjoinFrom chance held cs) := by
  induction cs generalizing held with
  | nil =>
    rw [conjoinFrom]
    exact Yields.pure ⟨List.cons_ne_nil _ _, fun d hd => List.mem_singleton.1 hd ▸ hheld, by
      rw [List.flatMap_singleton, List.flatMap_nil, List.append_nil]⟩
  | cons c cs ih =>
    obtain ⟨hc, hrest⟩ := List.forall_mem_cons.1 hcs
    rw [conjoinFrom]
    have hstep : ∀ joins : Bool, (joins = true → held.IsBeat) →
        Yields I (fun cs' => cs' ≠ [] ∧ (∀ c ∈ cs', Sentence c) ∧
          held.events ++ (c :: cs).flatMap Node.events = cs'.flatMap Node.events)
        (if joins then conjoinFrom chance (conjoined held c) cs
        else do
          let rest ← conjoinFrom chance c cs
          return held :: rest) := by
      intro joins hjoins
      refine Yields.ite (fun hpair => ?_) fun _ => ?_
      · have hevents : (conjoined held c).events = held.events ++ c.events := by
          rw [conjoined, events_of_not_event rfl, List.flatMap_cons, List.flatMap_singleton]
        refine (ih (.joined (hjoins hpair) hc {}) hrest).imp fun cs' hcs' =>
          ⟨hcs'.1, hcs'.2.1, ?_⟩
        rw [List.flatMap_cons, ← List.append_assoc, ← hevents]
        exact hcs'.2.2
      · refine (ih (.beat hc) hrest).bind fun cs' hcs' => Yields.pure ⟨List.cons_ne_nil _ _,
          List.forall_mem_cons.2 ⟨hheld, hcs'.2.1⟩, ?_⟩
        rw [List.flatMap_cons, List.flatMap_cons, hcs'.2.2]
    refine Yields.ite (fun hboth => ?_) fun _ => ?_
    · refine (Roll.chance_yields chance).bind fun joins _ => hstep joins fun _ => ?_
      exact hheld.isBeat (Bool.and_eq_true_iff.1 hboth).1
    · exact (Yields.pure (P := fun joins => joins = false) rfl).bind fun joins hjoins =>
        hstep joins fun h => absurd (hjoins.symm.trans h) Bool.false_ne_true

theorem conjoin_paragraph (chance : Nat) (hn : ParagraphOf Node.IsBeat n) :
    Yields I (fun n' => ParagraphOf Sentence n' ∧ Node.events n = n'.events)
      (conjoin chance n) := by
  obtain ⟨hkind, hnonempty, hparts⟩ := hn
  obtain ⟨k, a, cs⟩ := n
  obtain rfl : k = .paragraph := hkind
  cases cs with
  | nil => exact absurd rfl hnonempty
  | cons c cs =>
    obtain ⟨hc, hrest⟩ := List.forall_mem_cons.1 hparts
    rw [conjoin, if_pos rfl, conjoinChildren]
    refine (conjoinFrom_yields chance (.beat hc) hrest).bind fun cs' hcs' => Yields.pure ?_
    refine ⟨⟨rfl, hcs'.1, hcs'.2.1⟩, ?_⟩
    rw [events_of_not_event rfl, events_of_not_event rfl, List.flatMap_cons]
    exact hcs'.2.2

theorem conjoin_scene (chance : Nat) (hc : LaidOut Node.IsBeat c) :
    Yields I (Arranged Sentence c) (conjoin chance c) := by
  obtain ⟨hkind, ⟨k', b, ps⟩, hchildren, hm, hps⟩ := hc
  obtain ⟨k, a, cs⟩ := c
  obtain rfl : k = .scene := hkind
  obtain rfl : cs = [⟨k', b, ps⟩] := hchildren
  obtain rfl : k' = .eventSequence := hm
  rw [conjoin, if_neg nofun, conjoinList, conjoin, if_neg nofun, conjoinList]
  simp only [bind_assoc, pure_bind]
  refine (conjoinList_yields chance fun p hp => conjoin_paragraph chance (hps p hp)).bind
    fun ps' hps' => Yields.pure ⟨rfl, ?_, rfl, _, rfl, rfl, fun p' hp' => ?_⟩
  · rw [events_oneSequence, events_oneSequence]
    exact flatMap_events_congr (hps'.imp fun _ _ => And.right)
  · obtain ⟨p, -, hpp⟩ := exists_of_mem_right hps' hp'
    exact hpp.1

theorem conjoin_yields (chance : Nat) (hkind : n.kind = .story)
    (hn : ∀ c ∈ n.children, LaidOut Node.IsBeat c) :
    Yields I (Lowered (Arranged Sentence) n) (conjoin chance n) := by
  obtain ⟨k, a, cs⟩ := n
  obtain rfl : k = .story := hkind
  rw [conjoin, if_neg nofun]
  exact (conjoinList_yields chance fun c hc => conjoin_scene chance (hn c hc)).bind
    fun cs' hcs' => Yields.pure ⟨rfl, hcs'⟩

end Joining

end SpaceOpera
