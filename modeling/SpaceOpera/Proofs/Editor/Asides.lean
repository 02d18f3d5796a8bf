import SpaceOpera.Proofs.Editor.Blocks

/-!
# Descriptions and reminders

What the editor tells of someone stands in one sequence with the event that the character acts in, right
behind it (`Describes`, `Reminds`).  These are asides about those who act in the scene, and the events of
the scene stay in their order.
-/

namespace SpaceOpera

open List (Forall₂)
open StoryNode (ofEvent sequence)

variable {I : Context → Prop} {n c : StoryNode} {ns cs : List StoryNode} {ks : List StoryKind}
  {us : List (List StoryNode)} {Q : StoryNode → Prop}

/-! ## Scenes of one sequence -/

section Scenes

variable {E : List StoryNode → List StoryNode → Prop} {a b : Attributes} {ms ms' : List StoryNode}

theorem events_oneSequence :
    Node.events ⟨.scene, a, [⟨.eventSequence, b, ms⟩]⟩ = ms.flatMap Node.events := by
  rw [events_of_not_event rfl, List.flatMap_singleton, events_of_not_event rfl]

theorem echoesIn_oneSequence {n m : StoryNode} (hn : n ∈ ms.flatMap Node.events) (h : Echoes n m) :
    EchoesIn ⟨.scene, a, [⟨.eventSequence, b, ms⟩]⟩ m :=
  ⟨n, by rwa [events_oneSequence], h⟩

theorem OneSequence.exists_eq (hc : SceneOf sequences c) (h : OneSequence c.children) :
    ∃ a b ms, c = ⟨.scene, a, [⟨.eventSequence, b, ms⟩]⟩ ∧ ∀ m ∈ ms, Body sequences m := by
  obtain ⟨k, a, cs⟩ := c
  obtain rfl : k = .scene := hc.kind
  obtain ⟨⟨k, b, ms⟩, rfl, hk⟩ := h
  obtain rfl : k = .eventSequence := hk
  refine ⟨a, b, ms, rfl, ?_⟩
  cases hc.body _ (List.mem_singleton_self _) with
  | group _ _ h => exact h

/-- A pass that takes the sequence of a scene. -/
theorem Reworked.of_oneSequence (h : Sifted E ms ms') :
    Reworked sequences Eq E ⟨.scene, a, [⟨.eventSequence, b, ms⟩]⟩
      ⟨.scene, a, [⟨.eventSequence, b, ms'⟩]⟩ := by
  refine ⟨⟨⟨rfl, fun m hm => ?_⟩, rfl, ?_⟩, fun _ => ⟨_, rfl, rfl⟩⟩
  · exact List.mem_singleton.1 hm ▸ .group List.mem_cons_self b h.body
  · rw [events_oneSequence, events_oneSequence]
    exact h.events

end Scenes

theorem event?_of_mem_sequences : ∀ k ∈ sequences, k.event? = none := by decide

/-! ## Telling of subjects -/

section Telling

variable {σ : Type} {tell : StoryNode → State → StateT σ Roll StoryNode} {i : σ}

theorem tellSubjects_beat {P : StoryNode × σ → Prop} (hn : n.IsBeat)
    (htell : ∀ s, n.characterSubject? = some s → Yields I P ((tell n s).run i))
    (hnone : n.characterSubject? = none → P (n, i)) : Yields I P ((tellSubjects tell n).run i) := by
  obtain ⟨e, a, rfl⟩ := hn
  rw [tellSubjects]
  split
  · exact htell _ ‹_›
  · rw [tellSubjectsList]
    exact Yields.pure (hnone ‹_›)

theorem tellSubjects_group {k : StoryKind} (hk : k.event? = none) (a : Attributes) :
    tellSubjects tell ⟨k, a, cs⟩ = do
      let cs ← tellSubjectsList tell cs
      return ⟨k, a, cs⟩ := by
  have hnone : Node.characterSubject? ⟨k, a, cs⟩ = none := by
    unfold Node.characterSubject? Node.event?
    rw [hk]
  rw [tellSubjects, hnone]

/-- Blocks are told one after the other, if each is told as a block. -/
theorem tellSubjectsList_blocks {J : σ → Prop}
    {T : σ → List StoryNode → List StoryNode → σ → Prop} (hks : ∀ k ∈ ks, k.event? = none)
    (h : Blocks ks ns us)
    (htell : ∀ u ∈ us, ∀ i, J i → Yields I
      (fun p => ∃ u', p.1 = bundle u' ∧ Block u' ∧ T i u u' p.2 ∧ J p.2)
      ((tellSubjects tell (bundle u)).run i)) (hi : J i) :
    Yields I (fun p => ∃ us', Blocks ks p.1 us' ∧ Blockwise T i us us' p.2 ∧ J p.2)
      ((tellSubjectsList tell ns).run i) := by
  induction h generalizing i with
  | nil =>
    rw [tellSubjectsList]
    exact Yields.pure ⟨[], .nil, .nil, hi⟩
  | @block u ns us _ _ ih =>
    obtain ⟨hfirst, hrest⟩ := List.forall_mem_cons.1 htell
    rw [tellSubjectsList]
    simp only [StateT.run_bind]
    refine (hfirst i hi).bind fun p hp => ?_
    obtain ⟨u', hu', hblock, hT, hj⟩ := hp
    refine (ih hrest hj).bind fun q hq => Yields.pure ?_
    obtain ⟨us', hus', hpasses, hk⟩ := hq
    exact ⟨u' :: us', hu' ▸ .block hblock hus', .cons hT hpasses, hk⟩
  | @group k a cs ns us us' hk _ _ ih ih' =>
    obtain ⟨hfirst, hrest⟩ := List.forall_mem_append.1 htell
    rw [tellSubjectsList, tellSubjects_group (hks k hk)]
    simp only [StateT.run_bind, StateT.run_pure, bind_assoc, pure_bind]
    refine (ih hfirst hi).bind fun p hp => ?_
    obtain ⟨vs, hvs, hpasses, hj⟩ := hp
    refine (ih' hrest hj).bind fun q hq => Yields.pure ?_
    obtain ⟨vs', hvs', hpasses', hk'⟩ := hq
    exact ⟨vs ++ vs', .group hk hvs hvs', hpasses.append hpasses', hk'⟩

/-- An event is told as a block. -/
def TellsBlock (I : Context → Prop) (tell : StoryNode → State → StateT σ Roll StoryNode) : Prop :=
  ∀ n s i, n.IsBeat → n.characterSubject? = some s →
    Yields I (fun p => ∃ u', p.1 = bundle u' ∧ Block u' ∧ Extended (Echoes n) [n] u')
      ((tell n s).run i)

theorem extended_self (Q : StoryNode → Prop) (u : List StoryNode) : Extended Q u u :=
  ⟨[], (List.append_nil u).symm, nofun⟩

theorem Extended.imp {Q' : StoryNode → Prop} {u u' : List StoryNode} (h : Extended Q u u')
    (hQ : ∀ m, Q m → Q' m) : Extended Q' u u' := by
  obtain ⟨ms, rfl, hms⟩ := h
  exact ⟨ms, rfl, fun m hm => ⟨hQ m (hms m hm).1, (hms m hm).2⟩⟩

theorem tellSubjectsList_sifted (htell : TellsBlock I tell) (hns : ∀ n ∈ ns, Body sequences n)
    (hQ : ∀ n ∈ ns.flatMap Node.events, ∀ m, Echoes n m → Q m) (i : σ) :
    Yields I (fun p => Sifted (Trailed Q) ns p.1) ((tellSubjectsList tell ns).run i) := by
  have hbeats : ∀ n ∈ ns.flatMap Node.events, n.IsBeat := by
    intro n hn
    obtain ⟨m, hm, hn⟩ := List.mem_flatMap.1 hn
    exact (hns m hm).exists_beat isGroup_of_mem_sequences hn
  refine (tellSubjectsList_blocks (J := fun _ => True) (T := fun _ u u' _ => Extended Q u u')
    event?_of_mem_sequences (blocks_flatMap fun m hm => (hns m hm).blocks event?_of_mem_sequences)
    (fun u hu i _ => ?_) trivial).imp fun p hp => ?_
  · obtain ⟨n, hn, rfl⟩ := List.mem_map.1 hu
    refine tellSubjects_beat (hbeats n hn) (fun s hs => ?_) fun _ =>
      ⟨[n], rfl, block_singleton (hbeats n hn), extended_self _ _, trivial⟩
    refine (htell n s i (hbeats n hn) hs).imp fun p hp => ?_
    obtain ⟨u', hu', hblock, hextended⟩ := hp
    exact ⟨u', hu', hblock, hextended.imp fun m hm => hQ n hn m hm, trivial⟩
  · obtain ⟨us', hus', hpasses, -⟩ := hp
    exact ⟨hus'.body List.mem_cons_self, us', hpasses.forall₂ fun _ _ _ _ h => h,
      hus'.flatMap_events event?_of_mem_sequences⟩

theorem tellSubjects_scene (htell : TellsBlock I tell) (hc : SceneOf sequences c)
    (hone : OneSequence c.children) (i : σ) :
    Yields I (fun p => Reworked sequences Eq (Trailed (EchoesIn c)) c p.1)
      ((tellSubjects tell c).run i) := by
  obtain ⟨a, b, ms, rfl, hms⟩ := hone.exists_eq hc
  rw [tellSubjects_group rfl, tellSubjectsList, tellSubjects_group rfl, tellSubjectsList]
  simp only [StateT.run_bind, StateT.run_pure, bind_assoc, pure_bind]
  exact (tellSubjectsList_sifted htell hms (fun _ hn _ => echoesIn_oneSequence hn) i).bind
    fun p hp => Yields.pure (.of_oneSequence hp)

theorem tellSubjectsList_yields {S : StoryNode → StoryNode → Prop}
    (h : ∀ c ∈ cs, ∀ i, Yields I (fun p => S c p.1) ((tellSubjects tell c).run i)) (i : σ) :
    Yields I (fun p => Forall₂ S cs p.1) ((tellSubjectsList tell cs).run i) := by
  induction cs generalizing i with
  | nil =>
    rw [tellSubjectsList]
    exact Yields.pure .nil
  | cons c cs ih =>
    obtain ⟨hfirst, hrest⟩ := List.forall_mem_cons.1 h
    rw [tellSubjectsList]
    simp only [StateT.run_bind]
    exact (hfirst i).bind fun p hp => (ih hrest p.2).bind fun q hq => Yields.pure (.cons hp hq)

/-- The scenes of a story in which every event about a character is told as a block. -/
theorem tellSubjects_story (htell : TellsBlock I tell) (hn : StoryOf sequences n)
    (hone : ∀ c ∈ n.children, OneSequence c.children) (i : σ) :
    Yields I (fun p => Lowered (fun c => Reworked sequences Eq (Trailed (EchoesIn c)) c) n p.1)
      ((tellSubjects tell n).run i) := by
  have hscenes := hn.scenes
  obtain ⟨k, a, cs⟩ := n
  obtain rfl : k = .story := hn.kind
  rw [tellSubjects_group rfl]
  simp only [StateT.run_bind]
  exact (tellSubjectsList_yields (fun c hc => tellSubjects_scene htell (hscenes c hc) (hone c hc))
    i).bind fun p hp => Yields.pure ⟨rfl, hp⟩

end Telling

/-! ## Descriptions and reminders -/

/-- The beats that describe someone. -/
def portrait (s : State) : List StoryNode :=
  [(ofEvent .characterDescription).set .subject (.state s),
    (ofEvent .characterFeaturesDescription).set .subject (.state s)]

/-- The beat that reminds of someone. -/
def reminder (s : State) : StoryNode :=
  (ofEvent .characterReminder).set .subject (.state s)

/-- What becomes of an event when characters are described. -/
inductive Describes (i : Introductions) (n : StoryNode) : List StoryNode → Introductions → Prop
  | silent (h : n.characterSubject? = none) : Describes i n [n] i
  | passed {s : State} (h : n.characterSubject? = some s)
      (hdue : i.introduced.contains s.object = true ∨
        s.object.isLead = false ∧ (i.countOff s.object).2 ≠ 0) :
      Describes i n [n] (i.countOff s.object).1
  | told {s : State} (h : n.characterSubject? = some s)
      (hnew : i.introduced.contains s.object = false) :
      Describes i n (n :: portrait s) ((i.countOff s.object).1.describe s.object)

/-- What becomes of a block when there are reminders. -/
inductive Reminds (r : Roster) : List StoryNode → List StoryNode → Roster → Prop
  | silent (u : List StoryNode) : Reminds r u u r
  | told {n : StoryNode} {s : State} (h : n.characterSubject? = some s)
      (hnew : r.contains s.object = false) : Reminds r [n] [n, reminder s] (r.insert s.object)

/-- A beat of a costume. -/
def Event.isCostume (e : Event) : Bool :=
  [torsoCostumeDescription, torsoCostumeReminder, feetCostumeDescription,
    feetCostumeReminder].contains e

/-- A beat about how someone looks. -/
def Depiction (s : State) (m : StoryNode) : Prop :=
  ∃ e, Event.isAppearance e = true ∧ m = (ofEvent e).set .subject (.state s)

section Descriptions

variable {s : State} {e : Event} {i j : Introductions} {r r' : Roster} {u ms : List StoryNode}

theorem isCharacter_of_characterSubject (h : n.characterSubject? = some s) :
    s.object.isCharacter = true := by
  unfold Node.characterSubject? at h
  split at h
  · cases h
  · exact (Option.filter_eq_some_iff.1 h).2

theorem characterSubject?_aside (e : Event) (hs : s.object.isCharacter = true) :
    Node.characterSubject? ((ofEvent e).set .subject (.state s)) = some s := by
  change Option.filter (fun s => s.object.isCharacter) (some s) = some s
  exact Option.filter_eq_some_iff.2 ⟨rfl, hs⟩

theorem sameSubject_aside (h : n.characterSubject? = some s) (e : Event) :
    SameSubject n ((ofEvent e).set .subject (.state s)) :=
  ⟨s, s, h, characterSubject?_aside e (isCharacter_of_characterSubject h), BEq.rfl⟩

theorem Event.isAside_of_isAppearance (h : e.isAppearance = true) : e.isAside = true := by
  cases e <;> first | rfl | cases h

theorem Event.isAside_of_isCostume (h : e.isCostume = true) : e.isAside = true := by
  cases e <;> first | rfl | cases h

theorem depiction_portrait (s : State) : ∀ m ∈ portrait s, Depiction s m := by
  intro m hm
  rcases List.mem_cons.1 hm with rfl | hm
  · exact ⟨.characterDescription, rfl, rfl⟩
  · exact ⟨.characterFeaturesDescription, rfl, List.mem_singleton.1 hm⟩

theorem depiction_reminder (s : State) : Depiction s (reminder s) :=
  ⟨.characterReminder, rfl, rfl⟩

theorem block_of_depictions (hn : n.IsBeat) (h : n.characterSubject? = some s)
    (hms : ∀ m ∈ ms, Depiction s m) : Block (n :: ms) := by
  refine .mk hn fun m hm => ?_
  obtain ⟨e, he, rfl⟩ := hms m hm
  refine ⟨isBeat_aside e _, s, h, ?_⟩
  unfold depicts
  rw [characterSubject?_aside e (isCharacter_of_characterSubject h), Option.any_some, BEq.rfl,
    Bool.and_true]
  exact he

theorem echoes_of_depiction {m : StoryNode} (h : n.characterSubject? = some s)
    (hm : Depiction s m) : Echoes n m := by
  obtain ⟨e, he, rfl⟩ := hm
  exact echoes_of_characterSubject h (Event.isAside_of_isAppearance he)

theorem extended_of_depictions (h : n.characterSubject? = some s) (hms : ∀ m ∈ ms, Depiction s m)
    (hQ : ∀ m ∈ ms, Q m) : Extended Q [n] (n :: ms) := by
  refine ⟨ms, rfl, fun m hm => ⟨hQ m hm, n, List.mem_singleton_self n, ?_⟩⟩
  obtain ⟨e, -, rfl⟩ := hms m hm
  exact sameSubject_aside h e

/-- A described event is a block: the event and beats about how its subject looks. -/
theorem Describes.exists_eq (h : Describes i n u j) :
    u = [n] ∨ ∃ s, n.characterSubject? = some s ∧ u = n :: portrait s := by
  cases h with
  | silent | passed => exact Or.inl rfl
  | told h => exact Or.inr ⟨_, h, rfl⟩

theorem Describes.block (hn : n.IsBeat) (h : Describes i n u j) : Block u := by
  rcases h.exists_eq with rfl | ⟨s, hs, rfl⟩
  · exact block_singleton hn
  · exact block_of_depictions hn hs (depiction_portrait s)

theorem Describes.extended (h : Describes i n u j)
    (hQ : ∀ s, n.characterSubject? = some s → ∀ m ∈ portrait s, Q m) : Extended Q [n] u := by
  rcases h.exists_eq with rfl | ⟨s, hs, rfl⟩
  · exact extended_self _ _
  · exact extended_of_depictions hs (depiction_portrait s) (hQ s hs)

theorem Reminds.block (hu : Block u) {u' : List StoryNode} (h : Reminds r u u' r') : Block u' := by
  cases h with
  | silent => exact hu
  | @told n s h =>
    refine block_of_depictions (hu.isBeat n List.mem_cons_self) h fun m hm => ?_
    exact List.mem_singleton.1 hm ▸ depiction_reminder s

theorem Reminds.extended {u' : List StoryNode} (h : Reminds r u u' r')
    (hQ : ∀ n ∈ u, ∀ s, n.characterSubject? = some s → Q (reminder s)) : Extended Q u u' := by
  cases h with
  | silent => exact extended_self _ _
  | @told n s h =>
    refine extended_of_depictions h (fun m hm => ?_) fun m hm => ?_
    · exact List.mem_singleton.1 hm ▸ depiction_reminder s
    · exact List.mem_singleton.1 hm ▸ hQ n (List.mem_singleton_self n) s h

variable [Lasting I]

theorem describedNow_yields (i : Introductions) (who : Object) (left : Nat) :
    Yields I (fun now => if now then i.introduced.contains who = false
      else i.introduced.contains who = true ∨ who.isLead = false ∧ left ≠ 0)
      (describedNow i who left) := by
  unfold describedNow
  refine Yields.ite (fun hknown => Yields.pure (Or.inl hknown)) fun hnew => ?_
  have hnew := Bool.eq_false_iff.2 hnew
  refine Yields.ite (fun _ => Yields.pure hnew) fun hlater => ?_
  refine (Roll.chance_yields 50).imp fun now _ => ?_
  rw [Bool.or_eq_true, decide_eq_true_eq, not_or, Bool.not_eq_true] at hlater
  cases now with
  | false => exact Or.inr hlater
  | true => exact hnew

theorem describeSubject_yields (hs : n.characterSubject? = some s) (i : Introductions) :
    Yields I (fun p => ∃ u, p.1 = bundle u ∧ Describes i n u p.2) (describeSubject n s i) := by
  unfold describeSubject
  refine (describedNow_yields (i.countOff s.object).1 s.object (i.countOff s.object).2).bind
    fun now hnow => ?_
  cases now with
  | false => exact Yields.pure ⟨[n], rfl, .passed hs hnow⟩
  | true => exact Yields.pure ⟨n :: portrait s, rfl, .told hs hnow⟩

theorem remindSubject_yields (hs : n.characterSubject? = some s) (r : Roster) :
    Yields I (fun p => ∃ u, p.1 = bundle u ∧ Reminds r [n] u p.2 ∧
      (r.contains s.object = true → p = (n, r))) (remindSubject n s r) := by
  unfold remindSubject
  refine Yields.ite (fun _ => Yields.pure ⟨[n], rfl, .silent _, fun _ => rfl⟩) fun hnew => ?_
  refine (Roll.chance_yields 20).bind fun _ _ => ?_
  refine Yields.ite (fun _ => Yields.pure ⟨[n, reminder s], rfl, ?_, fun hknown => ?_⟩) fun _ =>
    Yields.pure ⟨[n], rfl, .silent _, fun _ => rfl⟩
  · exact .told hs (Bool.eq_false_iff.2 hnew)
  · exact absurd hknown hnew

theorem describeSubject_tellsBlock : TellsBlock I describeSubject := by
  intro n s i hn hs
  refine (describeSubject_yields hs i).imp fun p hp => ?_
  obtain ⟨u, hu, h⟩ := hp
  exact ⟨u, hu, h.block hn,
    h.extended fun s hs m hm => echoes_of_depiction hs (depiction_portrait s m hm)⟩

theorem remindSubject_tellsBlock : TellsBlock I remindSubject := by
  intro n s r hn hs
  refine (remindSubject_yields hs r).imp fun p hp => ?_
  obtain ⟨u, hu, h, -⟩ := hp
  refine ⟨u, hu, h.block (block_singleton hn), h.extended fun m hm s hs => ?_⟩
  rw [List.mem_singleton.1 hm] at hs
  exact echoes_of_depiction hs (depiction_reminder s)

theorem describeCharacters_yields (i : Introductions) (hn : StoryOf sequences n)
    (hone : ∀ c ∈ n.children, OneSequence c.children) :
    Yields I (fun p => Lowered (fun c => Reworked sequences Eq (Trailed (EchoesIn c)) c) n p.1)
      (describeCharacters i n) :=
  tellSubjects_story describeSubject_tellsBlock hn hone i

theorem remindCharacters_yields (reminded : Roster) (hn : StoryOf sequences n)
    (hone : ∀ c ∈ n.children, OneSequence c.children) :
    Yields I (fun p => Lowered (fun c => Reworked sequences Eq (Trailed (EchoesIn c)) c) n p.1)
      (remindCharacters reminded n) :=
  tellSubjects_story remindSubject_tellsBlock hn hone reminded

end Descriptions

end SpaceOpera
