import SpaceOpera.Proofs.Editor.Asides

/-!
# Costumes

What someone wears is told behind the event that the character acts in, once nothing more is told of how
they look.  So costumes never stand inside of a block (`describeCostumesList_blocks`): they wait until the
block is over.
-/

namespace SpaceOpera

open List (Forall₂)
open StoryNode (ofEvent sequence)

variable {I : Context → Prop} {n c : StoryNode} {ns cs : List StoryNode} {ks : List StoryKind}
  {us : List (List StoryNode)} {Q : StoryNode → Prop}

/-! ## Beats that wait -/

/-- Beats that wait are costumes of someone, with `Q`. -/
def Waits (Q : StoryNode → Prop) (pending : Option PendingBeats) : Prop :=
  ∀ p, pending = some p → ∀ m ∈ p.beats, m.IsBeat ∧ Q m ∧
    ∃ s, m.characterSubject? = some s ∧ (s.object == p.who) = true

/-- The beats that wait. -/
def waiting (pending : Option PendingBeats) : List StoryNode :=
  (pending.map (·.beats)).getD []

section Costumes

variable {pending : Option PendingBeats} {s : State} {u ms : List StoryNode}

theorem waits_none : Waits Q none := nofun

theorem Waits.of_mem (h : Waits Q pending) {m : StoryNode} (hm : m ∈ waiting pending) :
    m.IsBeat ∧ Q m := by
  cases pending with
  | none => exact absurd hm List.not_mem_nil
  | some p => exact ⟨(h p rfl m hm).1, (h p rfl m hm).2.1⟩

/-- Whatever waits is about the character that the event is about. -/
def Aimed (n : StoryNode) (pending : Option PendingBeats) : Prop :=
  ∀ p, pending = some p → ∃ s, n.characterSubject? = some s ∧ (s.object == p.who) = true

theorem Waits.sameSubject (h : Waits Q pending) (hn : Aimed n pending) {m : StoryNode}
    (hm : m ∈ waiting pending) : SameSubject n m := by
  cases pending with
  | none => exact absurd hm List.not_mem_nil
  | some p =>
    obtain ⟨s, hs, hwho⟩ := hn p rfl
    obtain ⟨-, -, t, ht, hwho'⟩ := h p rfl m hm
    exact ⟨s, t, hs, ht, BEq.trans hwho' (BEq.symm hwho)⟩

/-- Before an event, what waits is told or waits on; if it waits on, the event is about the same
character. -/
theorem Waits.release (h : Waits Q pending) (n : StoryNode) :
    (∀ m ∈ (release n pending).1, m ∈ waiting pending) ∧ Waits Q (release n pending).2 ∧
      Aimed n (release n pending).2 := by
  unfold SpaceOpera.release
  cases pending with
  | none => exact ⟨nofun, nofun, nofun⟩
  | some p =>
    by_cases hp : depicts n p.who = true
    · simp only [hp, ↓reduceIte]
      refine ⟨nofun, h, fun q hq => ?_⟩
      obtain rfl := Option.some.inj hq
      exact (Option.any_eq_true _ _).1 (Bool.and_eq_true_iff.1 hp).2
    · simp only [hp]
      exact ⟨fun _ hm => hm, waits_none, nofun⟩

theorem release_of_not_event (h : n.event? = none) (pending : Option PendingBeats) :
    release n pending = (waiting pending, none) := by
  unfold release depicts
  rw [h]
  cases pending with
  | none => rfl
  | some p => rfl

/-- What waits is told in front of a group, and nothing waits behind it. -/
theorem describeCostumesList_group {k : StoryKind} {a : Attributes} {cs ns : List StoryNode}
    (hk : Node.event? (⟨k, a, cs⟩ : StoryNode) = none) (r : Roster) (pending : Option PendingBeats) :
    describeCostumesList r pending (⟨k, a, cs⟩ :: ns) = (do
      let p ← describeCostumesList (if k = .scene then {} else r) none cs
      let q ← describeCostumesList (if k = .scene then r else p.2) none ns
      return (waiting pending ++ ⟨k, a, p.1⟩ :: q.1, q.2)) := by
  rw [describeCostumesList, release_of_not_event hk, describeCostumes]
  simp only [hk, Option.isSome_none, Bool.false_eq_true, ↓reduceIte, bind_assoc, pure_bind]

theorem costumeAfter_of_isAppearance (h : n.event?.any Event.isAppearance = true)
    (described : Roster) : costumeAfter n described = pure none := by
  unfold costumeAfter costumeDue
  split
  · rfl
  · rw [h, Bool.true_or, if_pos rfl]
    rfl

/-- While nothing but the looks of someone is told of, the beats wait. -/
theorem describeCostumesList_depictions
    (h : ∀ m ∈ ms, m.IsBeat ∧ m.event?.any Event.isAppearance = true ∧
      ∀ p, pending = some p → depicts m p.who = true) (described : Roster) :
    describeCostumesList described pending ms = pure (ms ++ waiting pending, described) := by
  induction ms with
  | nil => rw [describeCostumesList]; rfl
  | cons m ms ih =>
    obtain ⟨⟨hm, hlooks, hdepicts⟩, hrest⟩ := List.forall_mem_cons.1 h
    have hrelease : release m pending = ([], pending) := by
      cases pending with
      | none => rfl
      | some p => exact if_pos (hdepicts p rfl)
    have hevent : m.event?.isSome = true := by
      obtain ⟨e, a, rfl⟩ := hm
      rfl
    rw [describeCostumesList, hrelease]
    simp only [hevent, ↓reduceIte, costumeAfter_of_isAppearance hlooks, pure_bind, ih hrest]
    rfl

variable [Lasting I]

theorem costumeAfter_yields (described : Roster)
    (hQ : ∀ s, n.characterSubject? = some s → ∀ e, Event.isCostume e = true →
      Q ((ofEvent e).set .subject (.state s))) :
    Yields I (fun pending => Waits Q pending ∧ Aimed n pending) (costumeAfter n described) := by
  unfold costumeAfter costumeDue costumeBeats
  split
  · exact Yields.pure ⟨waits_none, nofun⟩
  · rename_i s hs
    refine Yields.bind (P := fun _ => True) ?_ fun due _ => ?_
    · refine Yields.ite (fun _ => Yields.pure trivial) fun _ => ?_
      exact Yields.ite (fun _ => Yields.pure trivial) fun _ => Roll.chance_yields _
    refine Yields.ite (fun _ => ?_) fun _ => Yields.pure ⟨waits_none, nofun⟩
    refine Yields.bind (P := fun beats => ∀ m ∈ beats, ∃ e, Event.isCostume e = true ∧
      m = (ofEvent e).set .subject (.state s)) ?_ fun beats hbeats => Yields.pure ⟨?_, ?_⟩
    · refine (Roll.chance_yields 10).bind fun torso _ => ?_
      refine (Roll.chance_yields 10).bind fun feet _ => Yields.pure fun m hm => ?_
      simp only [List.mem_cons, List.not_mem_nil, or_false] at hm
      rcases hm with rfl | rfl
      · exact ⟨_, by cases torso <;> rfl, rfl⟩
      · exact ⟨_, by cases feet <;> rfl, rfl⟩
    · intro p hp m hm
      obtain rfl := Option.some.inj hp
      obtain ⟨e, he, rfl⟩ := hbeats m hm
      exact ⟨isBeat_aside e _, hQ s hs e he, s,
        characterSubject?_aside e (isCharacter_of_characterSubject hs), BEq.rfl⟩
    · intro p hp
      obtain rfl := Option.some.inj hp
      exact ⟨s, hs, BEq.rfl⟩

omit [Lasting I] in
/-- Beats about how the subject of an event looks are told before anything that waits behind it. -/
theorem looks_of_portrays (hms : ∀ m ∈ ms, m.IsBeat ∧ Portrays n m) (haimed : Aimed n pending) :
    ∀ m ∈ ms, m.IsBeat ∧ m.event?.any Event.isAppearance = true ∧
      ∀ p, pending = some p → depicts m p.who = true := by
  intro m hm
  obtain ⟨hbeat, s, hs, hdepicts⟩ := hms m hm
  obtain ⟨hlooks, hwho⟩ := Bool.and_eq_true_iff.1 hdepicts
  refine ⟨hbeat, hlooks, fun p hp => ?_⟩
  obtain ⟨t, ht, htwho⟩ := haimed p hp
  obtain rfl := Option.some.inj (hs.symm.trans ht)
  obtain ⟨o, ho, hos⟩ := (Option.any_eq_true _ _).1 hwho
  refine Bool.and_eq_true_iff.2 ⟨hlooks, (Option.any_eq_true _ _).2 ⟨o, ho, ?_⟩⟩
  exact BEq.trans hos htwho

theorem describeCostumesList_block (hu : Block u)
    (hQ : ∀ n ∈ u, ∀ s, n.characterSubject? = some s → ∀ e, Event.isCostume e = true →
      Q ((ofEvent e).set .subject (.state s))) (described : Roster) :
    Yields I (fun p => ∃ ms, p.1 = u ++ ms ∧ ∀ m ∈ ms, m.IsBeat ∧ Q m ∧ ∃ n ∈ u, SameSubject n m)
      (describeCostumesList described none u) := by
  cases hu with
  | @mk n ms hn hms =>
    have hevent : n.event?.isSome = true := by
      obtain ⟨e, a, rfl⟩ := hn
      rfl
    rw [describeCostumesList]
    simp only [release, hevent, ↓reduceIte, List.nil_append]
    refine (costumeAfter_yields described (hQ n List.mem_cons_self)).bind fun pending hp => ?_
    obtain ⟨hwaits, haimed⟩ := hp
    have hlooks := looks_of_portrays hms haimed
    have hbehind : ∀ m ∈ waiting pending, m.IsBeat ∧ Q m ∧ ∃ n' ∈ n :: ms, SameSubject n' m :=
      fun m hm => ⟨(hwaits.of_mem hm).1, (hwaits.of_mem hm).2, n, List.mem_cons_self,
        hwaits.sameSubject haimed hm⟩
    cases pending with
    | none | some =>
      simp only [describeCostumesList_depictions hlooks, pure_bind]
      exact Yields.pure ⟨_, rfl, hbehind⟩

/-- Blocks with costumes: what waited before them is told first, or behind one of them. -/
structure Clad (ks : List StoryKind) (Q : StoryNode → Prop) (pending : Option PendingBeats)
    (us : List (List StoryNode)) (cs : List StoryNode) : Prop where
  body : ∀ c ∈ cs, Body ks c
  events : ∃ released us', cs.flatMap Node.events = released ++ us'.flatten ∧
    Forall₂ (Extended Q) us us' ∧ ∀ m ∈ released, m ∈ waiting pending

omit [Lasting I] in
theorem Clad.flatMap_events (h : Clad ks Q none us cs) :
    ∃ us', cs.flatMap Node.events = us'.flatten ∧ Forall₂ (Extended Q) us us' := by
  obtain ⟨released, us', hevents, hus, hreleased⟩ := h.events
  obtain rfl := List.eq_nil_iff_forall_not_mem.2 fun m hm => List.not_mem_nil (hreleased m hm)
  exact ⟨us', hevents, hus⟩

theorem Clad.nil (h : Waits Q pending) : Clad ks Q pending [] (waiting pending) := by
  have hevents : (waiting pending).flatMap Node.events = waiting pending :=
    flatMap_events_of_beats fun m hm => (h.of_mem hm).1.events
  exact ⟨fun m hm => (h.of_mem hm).1.body, waiting pending, [],
    hevents.trans (List.append_nil _).symm, .nil, fun _ hm => hm⟩

/-- An event on its own; what waits behind it is about the same character. -/
theorem Clad.beat {pending' : Option PendingBeats} {released : List StoryNode}
    (hpending : Waits Q pending) (hreleased : ∀ m ∈ released, m ∈ waiting pending)
    (hn : n.IsBeat) (hwaits : Waits Q pending') (haimed : Aimed n pending')
    (h : Clad ks Q pending' us cs) : Clad ks Q pending ([n] :: us) (released ++ n :: cs) := by
  obtain ⟨behind, us', hevents, hus, hbehind⟩ := h.events
  have hbeats : ∀ m ∈ released, m.IsBeat := fun m hm => (hpending.of_mem (hreleased m hm)).1
  refine ⟨List.forall_mem_append.2 ⟨fun m hm => (hbeats m hm).body,
    List.forall_mem_cons.2 ⟨hn.body, h.body⟩⟩, released, (n :: behind) :: us', ?_,
    .cons ⟨behind, rfl, fun m hm => ?_⟩ hus, hreleased⟩
  · rw [List.flatMap_append, flatMap_events_of_beats fun m hm => (hbeats m hm).events,
      List.flatMap_cons, hn.events, hevents, List.flatten_cons, List.singleton_append,
      List.cons_append]
  · exact ⟨(hwaits.of_mem (hbehind m hm)).2, n, List.mem_cons_self,
      hwaits.sameSubject haimed (hbehind m hm)⟩

/-- A node of several events; nothing waits beyond it. -/
theorem Clad.node {vs vs' : List (List StoryNode)} (hpending : Waits Q pending) (hc : Body ks c)
    (hevents : c.events = vs'.flatten) (hvs : Forall₂ (Extended Q) vs vs')
    (h : Clad ks Q none us cs) : Clad ks Q pending (vs ++ us) (waiting pending ++ c :: cs) := by
  obtain ⟨us', hus', hus⟩ := h.flatMap_events
  have hbeats : ∀ m ∈ waiting pending, m.IsBeat := fun m hm => (hpending.of_mem hm).1
  refine ⟨List.forall_mem_append.2 ⟨fun m hm => (hbeats m hm).body,
    List.forall_mem_cons.2 ⟨hc, h.body⟩⟩, waiting pending, vs' ++ us', ?_,
    List.rel_append hvs hus, fun _ hm => hm⟩
  rw [List.flatMap_append, flatMap_events_of_beats fun m hm => (hbeats m hm).events,
    List.flatMap_cons, hevents, hus', List.flatten_append]

/-- Costumes are told behind the blocks: nothing stands between the beats of a block, and what waits is
told behind the block before, or waits on behind this one, which is about the same character. -/
theorem describeCostumesList_blocks (hks : ∀ k ∈ ks, k.event? = none)
    (hsequence : .eventSequence ∈ ks) (h : Blocks ks ns us)
    (hQ : ∀ n ∈ us.flatten, ∀ s, n.characterSubject? = some s → ∀ e, Event.isCostume e = true →
      Q ((ofEvent e).set .subject (.state s)))
    (described : Roster) (hpending : Waits Q pending) :
    Yields I (fun p => Clad ks Q pending us p.1) (describeCostumesList described pending ns) := by
  induction h generalizing described pending with
  | nil =>
    rw [describeCostumesList]
    exact Yields.pure (.nil hpending)
  | @block u ns us hu _ ih =>
    rw [List.flatten_cons, List.forall_mem_append] at hQ
    cases hu with
    | @mk n ms hn hms =>
      cases ms with
      | nil =>
        obtain ⟨hreleased, hwaits, haimed⟩ := hpending.release n
        have hevent : n.event?.isSome = true := by
          obtain ⟨e, a, rfl⟩ := hn
          rfl
        have hbundle : bundle [n] = n := rfl
        rw [hbundle, describeCostumesList]
        generalize release n pending = result at hreleased hwaits haimed
        obtain ⟨released, pending'⟩ := result
        simp only [hevent, ↓reduceIte]
        refine (costumeAfter_yields described (hQ.1 n List.mem_cons_self)).bind fun p? hp => ?_
        cases p? with
        | none =>
          refine (ih hQ.2 described hwaits).bind fun q hq => Yields.pure ?_
          exact hq.beat hpending hreleased hn hwaits haimed
        | some p =>
          refine (ih hQ.2 (described.insert p.who) hp.1).bind fun q hq => Yields.pure ?_
          exact hq.beat hpending hreleased hn hp.1 hp.2
      | cons m ms =>
        have hu : Block (n :: m :: ms) := .mk hn hms
        rw [bundle_cons_cons, StoryNode.sequence, describeCostumesList_group rfl]
        refine (describeCostumesList_block hu hQ.1 described).bind fun p hp => ?_
        obtain ⟨vs, hvs, hbehind⟩ := hp
        refine (ih hQ.2 _ waits_none).bind fun q hq => Yields.pure ?_
        have hbeats : ∀ m ∈ p.1, m.IsBeat := by
          rw [hvs]
          exact List.forall_mem_append.2 ⟨hu.isBeat, fun m hm => (hbehind m hm).1⟩
        have hextended : Forall₂ (Extended Q) [n :: m :: ms] [p.1] :=
          .cons ⟨vs, hvs, fun m hm => (hbehind m hm).2⟩ .nil
        refine hq.node hpending (.group hsequence {} fun m hm => (hbeats m hm).body) ?_ hextended
        rw [events_of_not_event rfl, flatMap_events_of_beats fun m hm => (hbeats m hm).events,
          List.flatten_singleton]
  | @group k a cs ns us us' hk _ _ ih ih' =>
    rw [List.flatten_append, List.forall_mem_append] at hQ
    rw [describeCostumesList_group (hks k hk)]
    refine (ih hQ.1 _ waits_none).bind fun p hp => ?_
    obtain ⟨vs', hvs', hvs⟩ := hp.flatMap_events
    refine (ih' hQ.2 _ waits_none).bind fun q hq => Yields.pure ?_
    refine hq.node hpending (.group hk a hp.body) ?_ hvs
    exact (events_of_not_event (n := ⟨k, a, p.1⟩) (hks k hk)).trans hvs'

/-- The costumes of one sequence. -/
theorem describeCostumesList_sifted (hns : ∀ n ∈ ns, Body sequences n)
    (hQ : ∀ n ∈ ns.flatMap Node.events, ∀ m, Echoes n m → Q m) (described : Roster) :
    Yields I (fun p => Sifted (Trailed Q) ns p.1) (describeCostumesList described none ns) := by
  refine (describeCostumesList_blocks (Q := Q) event?_of_mem_sequences List.mem_cons_self
    (blocks_flatMap fun m hm => (hns m hm).blocks event?_of_mem_sequences) (fun n hn s hs e he => ?_)
    described waits_none).imp fun p hp => ⟨hp.body, ?_⟩
  · rw [flatten_singly] at hn
    exact hQ n hn _ (echoes_of_characterSubject hs (Event.isAside_of_isCostume he))
  · obtain ⟨us', hevents, hus⟩ := hp.flatMap_events
    exact ⟨us', hus, hevents⟩

theorem describeCostumes_scene (hc : SceneOf sequences c) (hone : OneSequence c.children)
    (described : Roster) :
    Yields I (fun p => Reworked sequences Eq (Trailed (EchoesIn c)) c p.1)
      (describeCostumes described c) := by
  obtain ⟨a, b, ms, rfl, hms⟩ := hone.exists_eq hc
  rw [describeCostumes, describeCostumesList_group rfl]
  simp only [reduceCtorEq, ↓reduceIte, bind_assoc, pure_bind, describeCostumesList]
  exact (describeCostumesList_sifted hms (fun _ hn _ => echoesIn_oneSequence hn) {}).bind
    fun p hp => Yields.pure (.of_oneSequence hp)

omit [Lasting I] in
/-- The costumes of scenes, one scene after the other. -/
theorem describeCostumesList_each {T : StoryNode → StoryNode → Prop}
    (h : ∀ c ∈ cs, c.kind = .scene ∧ ∀ described, Yields I (fun p => T c p.1) (describeCostumes described c))
    (described : Roster) :
    Yields I (fun p => Forall₂ T cs p.1) (describeCostumesList described none cs) := by
  induction cs generalizing described with
  | nil =>
    rw [describeCostumesList]
    exact Yields.pure .nil
  | cons c cs ih =>
    obtain ⟨⟨hkind, hc⟩, hrest⟩ := List.forall_mem_cons.1 h
    have hevent : c.event? = none := by rw [Node.event?, hkind]; rfl
    rw [describeCostumesList, release, hevent]
    refine (hc described).bind fun q hq => ?_
    exact (ih hrest q.2).bind fun p hp => Yields.pure (.cons hq hp)

theorem describeCostumes_yields (hn : StoryOf sequences n)
    (hone : ∀ c ∈ n.children, OneSequence c.children) (described : Roster) :
    Yields I (fun p => Lowered (fun c => Reworked sequences Eq (Trailed (EchoesIn c)) c) n p.1)
      (describeCostumes described n) := by
  obtain ⟨k, a, cs⟩ := n
  obtain rfl : k = .story := hn.kind
  rw [describeCostumes]
  refine (describeCostumesList_each (fun c hc => ⟨(hn.scenes c hc).kind, fun r => ?_⟩) _).bind
    fun p hp => Yields.pure ⟨rfl, hp⟩
  exact describeCostumes_scene (hn.scenes c hc) (hone c hc) r

end Costumes

end SpaceOpera
