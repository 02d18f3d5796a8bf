import SpaceOpera.Proofs.Editor.Acquaintance

/-!
# Descriptions, reminders and costumes, block by block

What someone wears is told in two beats, from top to toe.  They wait while something is told of how the one who
wears it looks, and they go in front of anything else; what they wait behind is a block, so each block gets the
costume of its own subject or none (`Dresses`).  The blocks come from the passes before: an event, with a
description of its subject behind it, or a reminder, or neither (`Vignette`); and a heroine does not act before
the block in which she is described (`Precedes`).
-/

namespace SpaceOpera

open List (Forall₂)
open StoryNode (ofEvent sequence)

/-- A beat of a costume, down to the waist. -/
def Event.isTorso (e : Event) : Bool :=
  [torsoCostumeDescription, torsoCostumeReminder].contains e

/-- A beat of a costume, about the feet. -/
def Event.isFeet (e : Event) : Bool :=
  [feetCostumeDescription, feetCostumeReminder].contains e

/-- Is the node a beat of a costume? -/
def Node.isCostume (n : StoryNode) : Bool :=
  n.event?.any Event.isCostume

/-- The beats of a costume. -/
def costume (torso feet : Event) (s : State) : List StoryNode :=
  [(ofEvent torso).set .subject (.state s), (ofEvent feet).set .subject (.state s)]

/-- What becomes of a block when costumes are told: that of its subject comes behind it, if it has not been
told of; whoever else it is not told of, a heroine has been told of before. -/
inductive Dresses (r : Roster) : List StoryNode → List StoryNode → Roster → Prop
  | bare {n : StoryNode} {ms : List StoryNode}
      (hdue : ∀ s, n.characterSubject? = some s → s.object.isLead = true →
        r.contains s.object = true) : Dresses r (n :: ms) (n :: ms) r
  | told {n : StoryNode} {ms : List StoryNode} {s : State} {torso feet : Event}
      (hs : n.characterSubject? = some s) (hnew : r.contains s.object = false)
      (htorso : torso.isTorso = true) (hfeet : feet.isFeet = true) :
      Dresses r (n :: ms) (n :: ms ++ costume torso feet s) (r.insert s.object)

variable {I : Context → Prop} {n m c : StoryNode} {ns ms cs es es' u u' : List StoryNode}
  {us us' vs : List (List StoryNode)} {who : Object} {s : State} {r r' : Roster}
  {pending : Option PendingBeats}

/-! ## Telling costumes -/

section Telling

theorem depicts_of_plain (h : n.isPortrait = false) (who : Object) : depicts n who = false := by
  unfold depicts
  rw [(plain_of_not_portrait h).1, Bool.false_and]

/-- Whatever waits is told in front of an event that is not about looks. -/
theorem release_of_plain (h : n.isPortrait = false) (pending : Option PendingBeats) :
    release n pending = (waiting pending, none) := by
  unfold release
  cases pending with
  | none => rfl
  | some p =>
    simp only [depicts_of_plain h, Bool.false_eq_true, ↓reduceIte]
    rfl

theorem isBeat_of_mem_costume {torso feet : Event} (hm : m ∈ costume torso feet s) : m.IsBeat := by
  obtain rfl | rfl := List.mem_pair.1 hm
  · exact isBeat_aside torso _
  · exact isBeat_aside feet _

variable [Lasting I]

/-- Who is told of once the beats that wait are. -/
def toldBy (r : Roster) (pending : Option PendingBeats) : Roster :=
  pending.elim r fun p => r.insert p.who

/-- The costume that an event calls for dresses the block that begins with it. -/
theorem costumeAfter_dresses (h : n.isPortrait = false) (ms : List StoryNode) (r : Roster) :
    Yields I (fun pending => Dresses r (n :: ms) (n :: ms ++ waiting pending) (toldBy r pending) ∧
      Aimed n pending ∧ ∀ m ∈ waiting pending, m.IsBeat) (costumeAfter n r) := by
  obtain ⟨hplain, -⟩ := plain_of_not_portrait h
  unfold costumeAfter costumeDue
  cases hs : n.characterSubject? with
  | none =>
    refine Yields.pure ⟨?_, nofun, nofun⟩
    rw [waiting, Option.map_none, Option.getD_none, List.append_nil]
    apply Dresses.bare
    intro s hsome
    cases hs.symm.trans hsome
  | some s =>
    simp only [hplain, Bool.false_or]
    refine Yields.bind (P := fun due => if due then r.contains s.object = false else
      s.object.isLead = true → r.contains s.object = true) ?_ fun due hdue => ?_
    · refine Yields.ite (fun hknown => Yields.pure fun _ => hknown) fun hnew => ?_
      have hnew := Bool.eq_false_iff.2 hnew
      refine Yields.ite (fun _ => Yields.pure hnew) fun hother => ?_
      refine (Roll.chance_yields 50).imp fun due _ => ?_
      cases due with
      | false => exact fun hlead => absurd hlead hother
      | true => exact hnew
    · cases due with
      | false =>
        refine Yields.pure ⟨?_, nofun, nofun⟩
        rw [waiting, Option.map_none, Option.getD_none, List.append_nil]
        apply Dresses.bare
        intro t ht hlead
        obtain rfl := Option.some.inj (hs.symm.trans ht)
        exact hdue hlead
      | true =>
        unfold costumeBeats
        simp only [↓reduceIte, bind_assoc, pure_bind]
        refine (Roll.chance_yields 10).bind fun torso _ => ?_
        refine (Roll.chance_yields 10).bind fun feet _ => Yields.pure ⟨?_, ?_, ?_⟩
        · apply Dresses.told hs hdue
          · cases torso <;> rfl
          · cases feet <;> rfl
        · intro p hp
          obtain rfl := Option.some.inj hp
          exact ⟨s, hs, BEq.rfl⟩
        · intro m hm
          exact isBeat_of_mem_costume hm

/-- While nothing but the looks of its subject is told of, the costume of a block waits. -/
theorem describeCostumesList_dresses_block (hn : n.IsBeat) (h : n.isPortrait = false)
    (hms : ∀ m ∈ ms, m.IsBeat ∧ Portrays n m) (r : Roster) :
    Yields I (fun p => Dresses r (n :: ms) p.1 p.2 ∧ ∀ m ∈ p.1, m.IsBeat)
      (describeCostumesList r none (n :: ms)) := by
  have hevent : n.event?.isSome = true := by
    obtain ⟨e, a, rfl⟩ := hn
    rfl
  rw [describeCostumesList, release_of_plain h]
  simp only [hevent, ↓reduceIte]
  refine (costumeAfter_dresses h ms r).bind fun pending hp => ?_
  obtain ⟨hdresses, haimed, hbeats⟩ := hp
  have hlooks := looks_of_portrays hms haimed
  have hall : ∀ m ∈ n :: ms ++ waiting pending, m.IsBeat :=
    List.forall_mem_append.2 ⟨List.forall_mem_cons.2 ⟨hn, fun m hm => (hms m hm).1⟩, hbeats⟩
  cases pending with
  | none | some =>
    simp only [describeCostumesList_depictions hlooks, pure_bind]
    exact Yields.pure ⟨hdresses, hall⟩

/-- Block by block costumes are told, with what waits in front of them. -/
theorem describeCostumesList_dresses (h : Blocks sequences ns us)
    (hplain : ∀ n ms, n :: ms ∈ us → n.isPortrait = false) (r : Roster)
    (hpending : ∀ m ∈ waiting pending, m.IsBeat) :
    Yields I (fun p => ∃ us', p.1.flatMap Node.events = waiting pending ++ us'.flatten ∧
      Blockwise Dresses r us us' p.2) (describeCostumesList r pending ns) := by
  have hwaiting {pending : Option PendingBeats} (h : ∀ m ∈ waiting pending, m.IsBeat) :
      (waiting pending).flatMap Node.events = waiting pending :=
    flatMap_events_of_beats fun m hm => (h m hm).events
  have hnone : ∀ m ∈ waiting none, m.IsBeat := nofun
  induction h generalizing r pending with
  | nil =>
    rw [describeCostumesList]
    refine Yields.pure ⟨[], ?_, .nil⟩
    rw [List.flatten_nil, List.append_nil]
    exact hwaiting hpending
  | @block u ns us hu _ ih =>
    cases hu with
    | @mk n ms hn hms =>
      have hhead := hplain n ms List.mem_cons_self
      have hrest : ∀ n ms, n :: ms ∈ us → n.isPortrait = false := fun n ms hmem =>
        hplain n ms (List.mem_cons_of_mem _ hmem)
      cases ms with
      | nil =>
        have hevent : n.event?.isSome = true := by
          obtain ⟨e, a, rfl⟩ := hn
          rfl
        have hbundle : bundle [n] = n := rfl
        rw [hbundle, describeCostumesList, release_of_plain hhead]
        simp only [hevent, ↓reduceIte]
        refine (costumeAfter_dresses hhead [] r).bind fun p? hp => ?_
        obtain ⟨hdresses, -, hbeats⟩ := hp
        cases p? with
        | none | some =>
          refine (ih hrest _ hbeats).bind fun q hq => Yields.pure ?_
          obtain ⟨us', hevents, hblocks⟩ := hq
          refine ⟨_ :: us', ?_, .cons hdresses hblocks⟩
          rw [List.flatMap_append, hwaiting hpending, List.flatMap_cons, hn.events, hevents,
            List.flatten_cons, List.append_assoc]
      | cons m ms =>
        rw [bundle_cons_cons, StoryNode.sequence, describeCostumesList_group rfl]
        refine (describeCostumesList_dresses_block hn hhead hms r).bind fun p hp => ?_
        obtain ⟨hdresses, hbeats⟩ := hp
        refine (ih hrest _ hnone).bind fun q hq => Yields.pure ?_
        obtain ⟨us', hevents, hblocks⟩ := hq
        refine ⟨p.1 :: us', ?_, .cons hdresses hblocks⟩
        have hblock : Node.events ⟨.eventSequence, {}, p.1⟩ = p.1 :=
          (events_sequence p.1).trans (flatMap_events_of_beats fun m hm => (hbeats m hm).events)
        rw [List.flatMap_append, hwaiting hpending, List.flatMap_cons, hblock, hevents,
          List.flatten_cons]
        rfl
  | @group k a cs ns us us' hk _ _ ih ih' =>
    obtain rfl := List.mem_singleton.1 hk
    rw [describeCostumesList_group rfl]
    refine (ih (fun n ms hmem => hplain n ms (List.mem_append_left _ hmem)) r hnone).bind fun p hp => ?_
    obtain ⟨vs, hvs, hblocks⟩ := hp
    refine (ih' (fun n ms hmem => hplain n ms (List.mem_append_right _ hmem)) _ hnone).bind
      fun q hq => Yields.pure ?_
    obtain ⟨ws, hws, hblocks'⟩ := hq
    refine ⟨vs ++ ws, ?_, hblocks.append hblocks'⟩
    have hgroup : Node.events ⟨.eventSequence, a, p.1⟩ = vs.flatten :=
      (events_of_not_event rfl).trans hvs
    rw [List.flatMap_append, hwaiting hpending, List.flatMap_cons, hgroup, hws, List.flatten_append]
    rfl

end Telling

/-! ## Blocks to dress -/

/-- An event that is not about looks or clothes; whoever it is about stands in a state. -/
structure Unadorned (n : StoryNode) : Prop where
  plain : n.isPortrait = false
  states : n.characterSubject? = none → ∀ who, n.isOf who = false

/-- An event, with a description or a reminder of its subject behind it at most. -/
inductive Vignette : List StoryNode → Prop
  | alone {n : StoryNode} (hn : Unadorned n) : Vignette [n]
  | described {n : StoryNode} {s : State} (hn : Unadorned n) (hs : n.characterSubject? = some s) :
      Vignette (n :: portrait s)
  | reminded {n : StoryNode} {s : State} (hn : Unadorned n) (hs : n.characterSubject? = some s) :
      Vignette [n, reminder s]

/-- A heroine who is described in the second block does not act in the first. -/
def Precedes (u u' : List StoryNode) : Prop :=
  ∀ n s, u' = n :: portrait s → s.object.isLead = true → ∀ m ∈ u, m.isOf s.object = false

section Vignettes

theorem Vignette.head (h : Vignette (n :: ms)) : Unadorned n := by
  cases h with
  | alone hn => exact hn
  | described hn => exact hn
  | reminded hn => exact hn

theorem Vignette.depictions (h : Vignette (n :: ms)) :
    ∀ m ∈ ms, ∃ s, n.characterSubject? = some s ∧ Depiction s m := by
  cases h with
  | alone => exact fun _ hm => absurd hm List.not_mem_nil
  | described _ hs => exact fun m hm => ⟨_, hs, depiction_portrait _ m hm⟩
  | reminded _ hs => exact fun m hm => ⟨_, hs, List.mem_singleton.1 hm ▸ depiction_reminder _⟩

theorem isOfLead_of_characterSubject (h : n.characterSubject? = some s) :
    n.isOfLead = s.object.isLead := by
  rw [Node.isOfLead, objectIn_of_characterSubject h, Option.any_some]

/-- Whoever an event of a block is about, the event in front is about, in the same state. -/
theorem Vignette.subject (h : Vignette (n :: ms)) (hm : m ∈ n :: ms) (hwho : m.isOf who = true) :
    ∃ s, n.characterSubject? = some s ∧ (s.object == who) = true ∧
      m.isOfLead = s.object.isLead := by
  obtain rfl | hm := List.mem_cons.1 hm
  · cases hs : m.characterSubject? with
    | none => exact absurd hwho (Bool.eq_false_iff.1 (h.head.states hs who))
    | some s =>
      exact ⟨s, rfl, (isOf_of_characterSubject hs who).symm.trans hwho,
        isOfLead_of_characterSubject hs⟩
  · obtain ⟨s, hs, e, -, rfl⟩ := h.depictions m hm
    have haside := characterSubject?_aside e (isCharacter_of_characterSubject hs)
    exact ⟨s, hs, (isOf_of_characterSubject haside who).symm.trans hwho,
      isOfLead_of_characterSubject haside⟩

theorem Event.isCostume_of_isAppearance {e : Event} (h : e.isAppearance = true) :
    e.isCostume = false := by
  cases e <;> first | rfl | cases h

theorem Vignette.not_isCostume (h : Vignette u) : ∀ m ∈ u, m.isCostume = false := by
  intro m hm
  cases u with
  | nil => cases hm
  | cons n ms =>
    obtain rfl | hm := List.mem_cons.1 hm
    · exact (plain_of_not_portrait h.head.plain).2
    · obtain ⟨s, -, e, he, rfl⟩ := h.depictions m hm
      exact Event.isCostume_of_isAppearance he

theorem Unadorned.event?_ne (h : Unadorned n) : n.event? ≠ some .characterFeaturesDescription := by
  intro hfeatures
  have hplain := h.plain
  rw [Node.isPortrait, hfeatures] at hplain
  cases hplain

/-- The features of someone are described at the end of a description. -/
theorem Vignette.eq_portrait (h : Vignette (n :: ms)) (hm : m ∈ n :: ms)
    (hfeatures : m.event? = some .characterFeaturesDescription) :
    ∃ s, n.characterSubject? = some s ∧ ms = portrait s ∧ m ∈ portrait s := by
  obtain rfl | hm := List.mem_cons.1 hm
  · exact absurd hfeatures h.head.event?_ne
  cases h with
  | alone => cases hm
  | described _ hs => exact ⟨_, hs, rfl, hm⟩
  | reminded =>
    obtain rfl := List.mem_singleton.1 hm
    cases hfeatures

end Vignettes

/-! ## Descriptions in blocks -/

section Descriptions

variable {i j : Introductions}

theorem portrait_inj {s t : State} (h : portrait s = portrait t) : s = t := by
  have hsubject := congrArg (fun ms => (ms.head?.bind fun m => Node.stateIn m .subject)) h
  exact Option.some.inj hsubject

theorem described_of_mem (h : Blockwise DescribesAlone i vs us j) (hu : n :: portrait s ∈ us) :
    [n] ∈ vs ∧ n.characterSubject? = some s := by
  have hall : Forall₂ (fun v u => ∃ i j, DescribesAlone i v u j) vs us :=
    h.forall₂ fun i u u' j hT => ⟨i, j, hT⟩
  obtain ⟨v, hv, i, j, m, rfl, hdescribes⟩ := exists_of_mem_right hall hu
  generalize hw : n :: portrait s = w at hdescribes
  cases hdescribes with
  | silent | passed => cases hw
  | told hs =>
    obtain ⟨rfl, hsame⟩ := List.cons_eq_cons.1 hw
    rw [portrait_inj hsame]
    exact ⟨hv, hs⟩

theorem Describes.contains (h : Describes i n u j) (hknown : i.introduced.contains who = true) :
    j.introduced.contains who = true := by
  cases h with
  | silent => exact hknown
  | passed => exact hknown
  | told =>
    have hinsert : ∀ o, (i.introduced.insert o).contains who = true := by
      intro o
      rw [Roster.contains_insert, hknown, Bool.or_true]
    exact hinsert _

/-- Whoever is known is not described any more. -/
theorem not_described_of_known (h : Blockwise DescribesAlone i vs us j)
    (hknown : i.introduced.contains who = true) (hu : n :: portrait s ∈ us) :
    (s.object == who) = false := by
  induction h with
  | nil => cases hu
  | cons hfirst _ ih =>
    obtain ⟨m, -, hdescribes⟩ := hfirst
    obtain hu | hu := List.mem_cons.1 hu
    · generalize hw : n :: portrait s = w at hu
      subst hu
      cases hdescribes with
      | silent | passed => cases hw
      | @told t _ hnew =>
        obtain ⟨-, hsame⟩ := List.cons_eq_cons.1 hw
        rw [portrait_inj hsame]
        apply Bool.eq_false_iff.2
        intro hwho
        rw [Roster.contains_congr _ hwho, hknown] at hnew
        cases hnew
    · exact ih (hdescribes.contains hknown) hu

/-- All that becomes of an event is about the subject of the event. -/
theorem Describes.isOf_eq (h : Describes i n u j) (hm : m ∈ u) (who : Object) :
    m.isOf who = n.isOf who := by
  obtain rfl | ⟨s, hs, rfl⟩ := h.exists_eq
  · rw [List.mem_singleton.1 hm]
  · obtain rfl | hm := List.mem_cons.1 hm
    · rfl
    · rw [isOf_portrait (isCharacter_of_characterSubject hs) who m hm, isOf_of_characterSubject hs]

/-- A heroine who acts is known from then on. -/
theorem Describes.introduces (h : Describes i n u j)
    (hstate : n.characterSubject? = none → ∀ who, n.isOf who = false) (hacts : n.isOf who = true)
    (hlead : n.isOfLead = true) : j.introduced.contains who = true := by
  cases h with
  | silent hnone => exact absurd hacts (Bool.eq_false_iff.1 (hstate hnone who))
  | @passed t ht hdue =>
    obtain hknown | ⟨hother, -⟩ := hdue
    · rw [isOf_of_characterSubject ht] at hacts
      exact (Roster.contains_congr _ hacts).symm.trans hknown
    · rw [isOfLead_of_characterSubject ht, hother] at hlead
      cases hlead
  | @told t ht =>
    rw [isOf_of_characterSubject ht] at hacts
    have hinsert : (i.introduced.insert t.object).contains who = true := by
      rw [Roster.contains_insert, BEq.symm hacts, Bool.true_or]
    exact hinsert

/-- A heroine acts for the first time where she is described. -/
theorem precedes_of_describes
    (hstates : ∀ n ∈ es, n.characterSubject? = none → ∀ who, n.isOf who = false)
    (hleads : ∀ who, ∃ lead, ∀ n ∈ es, n.isOf who = true → n.isOfLead = lead)
    (h : Blockwise DescribesAlone i (singly es) us j) : us.Pairwise Precedes := by
  induction es generalizing i us with
  | nil =>
    cases h
    exact .nil
  | cons n es ih =>
    cases h with
    | @cons _ i' _ _ u _ us hfirst hrest =>
      obtain ⟨n', hn', hdescribes⟩ := hfirst
      obtain rfl := List.singleton_inj.1 hn'
      obtain ⟨hstate, hstates⟩ := List.forall_mem_cons.1 hstates
      have hleads' : ∀ who, ∃ lead, ∀ n ∈ es, n.isOf who = true → n.isOfLead = lead := by
        intro who
        obtain ⟨lead, hlead⟩ := hleads who
        exact ⟨lead, fun m hm => hlead m (List.mem_cons_of_mem n hm)⟩
      refine List.pairwise_cons.2 ⟨?_, ih hstates hleads' hrest⟩
      rintro _ hlater m s rfl hheroine d hd
      rw [hdescribes.isOf_eq hd]
      apply Bool.eq_false_iff.2
      intro hacts
      obtain ⟨hm, hs⟩ := described_of_mem hrest hlater
      obtain ⟨m', hm', heq⟩ := List.mem_map.1 hm
      obtain rfl := List.singleton_inj.1 heq
      have hlead : n.isOfLead = true := by
        obtain ⟨lead, hlead⟩ := hleads s.object
        have hsame := hlead m' (List.mem_cons_of_mem n hm')
          ((isOf_of_characterSubject hs s.object).trans (BEq.refl s.object))
        rw [isOfLead_of_characterSubject hs, hheroine] at hsame
        rw [hlead n List.mem_cons_self hacts, ← hsame]
      have hknown := hdescribes.introduces hstate hacts hlead
      cases (BEq.refl s.object).symm.trans (not_described_of_known hrest hknown hlater)

/-- What becomes of the blocks when there are reminders, one by one. -/
theorem forall₂_of_reminds (h : Blockwise Reminds r us vs r') :
    Forall₂ (fun u v => v = u ∨ ∃ n s, u = [n] ∧ n.characterSubject? = some s ∧
      v = [n, reminder s]) us vs := by
  apply h.forall₂
  intro r u v r' hreminds
  cases hreminds with
  | silent => exact .inl rfl
  | told hs => exact .inr ⟨_, _, rfl, hs, rfl⟩

/-- Reminders do not come between a heroine and her description. -/
theorem precedes_of_reminds (h : Blockwise Reminds r us vs r') (hus : us.Pairwise Precedes) :
    vs.Pairwise Precedes := by
  refine pairwise_of_forall₂ (forall₂_of_reminds h) (fun u u' v v' hu hu' hprecedes => ?_) hus
  intro n s hv' hheroine m hm
  have hsame : u' = n :: portrait s := by
    obtain rfl | ⟨n', s', -, -, hpair⟩ := hu'
    · exact hv'
    · cases hpair.symm.trans hv'
  obtain rfl | ⟨n', s', rfl, hs', rfl⟩ := hu
  · exact hprecedes n s hsame hheroine m hm
  have hfirst := hprecedes n s hsame hheroine n' (List.mem_singleton_self n')
  obtain rfl | hm := List.mem_cons.1 hm
  · exact hfirst
  · rw [List.mem_singleton.1 hm, reminder, isOf_of_characterSubject
      (characterSubject?_aside _ (isCharacter_of_characterSubject hs'))]
    rwa [isOf_of_characterSubject hs'] at hfirst

/-- Described and reminded of, events stand in blocks of a few beats. -/
theorem vignette_of_passes (hes : ∀ n ∈ es, Unadorned n)
    (h : Blockwise DescribesAlone i (singly es) us j) (h' : Blockwise Reminds r us vs r') :
    ∀ v ∈ vs, Vignette v := by
  have hus : ∀ u ∈ us, (∃ n ∈ es, u = [n]) ∨
      ∃ n ∈ es, ∃ s, n.characterSubject? = some s ∧ u = n :: portrait s := by
    intro u hu
    have hall : Forall₂ (fun v u => ∃ i j, DescribesAlone i v u j) (singly es) us :=
      h.forall₂ fun i u u' j hT => ⟨i, j, hT⟩
    obtain ⟨w, hw, i, j, n, rfl, hdescribes⟩ := exists_of_mem_right hall hu
    obtain ⟨n', hn', heq⟩ := List.mem_map.1 hw
    obtain rfl := List.singleton_inj.1 heq
    obtain rfl | ⟨s, hs, rfl⟩ := hdescribes.exists_eq
    · exact .inl ⟨n', hn', rfl⟩
    · exact .inr ⟨n', hn', s, hs, rfl⟩
  intro v hv
  obtain ⟨u, hu, hreminds⟩ := exists_of_mem_right (forall₂_of_reminds h') hv
  obtain rfl | ⟨n, s, rfl, hs, rfl⟩ := hreminds
  · obtain ⟨n, hn, rfl⟩ | ⟨n, hn, s, hs, rfl⟩ := hus v hu
    · exact .alone (hes n hn)
    · exact .described (hes n hn) hs
  · obtain ⟨n', hn', heq⟩ | ⟨n', -, s', -, heq⟩ := hus [n] hu
    · obtain rfl := List.singleton_inj.1 heq
      exact .reminded (hes n hn') hs
    · cases heq

end Descriptions

end SpaceOpera
