import SpaceOpera.Proofs.Editor.Introductions

/-!
# Portraits

The three passes that tell how characters look, from the first description to the costumes.  What they
come to for the memory of the editor is its account of a story (`Account`): who is known after it, and
that whoever came to be known in it has been described, once and in time.
-/

namespace SpaceOpera

open List (Forall₂)
open StoryNode (ofEvent sequence)

/-! ## Reminders and costumes -/

section Behind

variable {r r' : Roster} {n m : StoryNode} {u u' : List StoryNode} {us us' : List (List StoryNode)}
  {Q : StoryNode → Prop} {who : Object} {lead : Bool}

theorem mem_flatten_of_extended (h : Forall₂ (Extended Q) us us') (hm : m ∈ us'.flatten) :
    m ∈ us.flatten ∨ ∃ n ∈ us.flatten, SameSubject n m := by
  induction h with
  | nil => exact absurd hm List.not_mem_nil
  | @cons u u' us us' hu _ ih =>
    obtain ⟨ms, rfl, hms⟩ := hu
    simp only [List.flatten_cons, List.mem_append] at hm ⊢
    rcases hm with (hm | hm) | hm
    · exact Or.inl (Or.inl hm)
    · obtain ⟨-, n, hn, hsame⟩ := hms m hm
      exact Or.inr ⟨n, Or.inl hn, hsame⟩
    · rcases ih hm with hm | ⟨n, hn, hsame⟩
      · exact Or.inl (Or.inr hm)
      · exact Or.inr ⟨n, Or.inr hn, hsame⟩

/-- What is put behind the blocks is about those who act in them. -/
theorem any_isOf_of_extended (h : Forall₂ (Extended Q) us us') (who : Object) :
    us'.flatten.any (·.isOf who) = us.flatten.any (·.isOf who) := by
  rw [Bool.eq_iff_iff, List.any_eq_true, List.any_eq_true]
  constructor
  · rintro ⟨m, hm, hwho⟩
    rcases mem_flatten_of_extended h hm with hm | ⟨n, hn, hsame⟩
    · exact ⟨m, hm, hwho⟩
    · exact ⟨n, hn, (hsame.isOf_eq who).symm.trans hwho⟩
  · rintro ⟨n, hn, hwho⟩
    obtain ⟨m, hm, rfl⟩ := (padded_of_extended h).mem_left hn
    exact ⟨n, hm, hwho⟩

theorem countP_of_extended {p : StoryNode → Bool} (h : Forall₂ (Extended Q) us us')
    (hQ : ∀ m, Q m → p m = false) : us'.flatten.countP p = us.flatten.countP p := by
  induction h with
  | nil => rfl
  | cons hu _ ih =>
    obtain ⟨ms, rfl, hms⟩ := hu
    have hzero : ms.countP p = 0 :=
      List.countP_eq_zero.2 fun m hm => Bool.eq_false_iff.1 (hQ m (hms m hm).1)
    rw [List.flatten_cons, List.flatten_cons, List.countP_append, List.countP_append,
      List.countP_append, hzero, ih, Nat.add_zero]

theorem MetIn.extended (h : MetIn who lead us) (k : Forall₂ (Extended Q) us us') :
    MetIn who lead us' := by
  obtain ⟨vs, n, d, f, ms, ws, rfl, hlead, hgreets⟩ := h
  obtain ⟨vs', xs, rfl, hvs, hxs⟩ := exists_append_of_forall₂ k
  obtain ⟨u', ws', hu, -, rfl⟩ := List.forall₂_cons_left_iff.1 hxs
  obtain ⟨ms', rfl, -⟩ := hu
  refine ⟨vs', n, d, f, ms ++ ms', ws', rfl, hlead, { hgreets with first := fun hn => ?_ }⟩
  have hsilent : vs.flatten.any (·.isOf who) = false :=
    List.any_eq_false.2 fun m hm => Bool.eq_false_iff.1 (hgreets.first hn m hm)
  rw [← any_isOf_of_extended hvs who] at hsilent
  exact fun m hm => Bool.eq_false_iff.2 (List.any_eq_false.1 hsilent m hm)

theorem MetIn.met (h : MetIn who lead us) : Met who us.flatten := by
  obtain ⟨vs, n, d, f, ms, ws, rfl, -, hgreets⟩ := h
  refine ⟨vs.flatten, n, d, f, ms ++ ws.flatten, ?_, hgreets⟩
  rw [List.flatten_append, List.flatten_cons]
  rfl

theorem event?_of_mem_portrait {s : State} (hm : m ∈ portrait s) :
    m.event? ≠ some .characterReminder := by
  simp only [portrait, List.mem_cons, List.not_mem_nil, or_false] at hm
  rcases hm with rfl | rfl
  · exact nofun
  · exact nofun

theorem Reminds.contains (h : Reminds r u u' r') {o : Object} (ho : r.contains o = true) :
    r'.contains o = true := by
  cases h with
  | silent => exact ho
  | told => rw [Roster.contains_insert, ho, Bool.or_true]

/-- Nobody is reminded of twice, and nobody who is on the roster. -/
theorem countP_of_reminds (h : Blockwise Reminds r us us' r')
    (hus : ∀ n ∈ us.flatten, n.tells .characterReminder who = false) :
    us'.flatten.countP (·.tells .characterReminder who) + (r.contains who).toNat ≤ 1 := by
  induction h with
  | nil => exact (Nat.zero_add _).trans_le (Bool.toNat_le _)
  | @cons r _ _ u u' us us' hu _ ih =>
    rw [List.flatten_cons, List.forall_mem_append] at hus
    have hnone : u.countP (·.tells .characterReminder who) = 0 :=
      List.countP_eq_zero.2 fun m hm => Bool.eq_false_iff.1 (hus.1 m hm)
    have hrest := ih hus.2
    rw [List.flatten_cons, List.countP_append]
    cases hu with
    | silent => omega
    | @told n s hs hnew =>
      have hpair : [n, reminder s].countP (·.tells .characterReminder who) =
          if s.object == who then 1 else 0 := by
        have hreminder : (reminder s).tells .characterReminder who = (s.object == who) :=
          tells_aside (isCharacter_of_characterSubject hs) _ _ who
        rw [← List.singleton_append, List.countP_append, hnone, List.countP_singleton, hreminder,
          Nat.zero_add]
      rw [Roster.contains_insert] at hrest
      rw [hpair]
      by_cases hwho : (s.object == who) = true
      · rw [BEq.symm hwho, Bool.true_or, Bool.toNat_true] at hrest
        rw [if_pos hwho, Roster.contains_congr r (BEq.symm hwho), hnew, Bool.toNat_false]
        omega
      · have hother : (who == s.object) = false := Bool.eq_false_iff.2 fun h => hwho (BEq.symm h)
        rw [hother, Bool.false_or] at hrest
        rw [if_neg hwho]
        omega

end Behind

/-! ## The passes -/

/-- The groups of a story that stand for the stages of telling it. -/
abbrev stages : List StoryKind := [.eventSequence, .scene]

theorem event?_of_mem_stages : ∀ k ∈ stages, k.event? = none := by decide

/-- The events with descriptions, reminders and costumes among them, and who is introduced by then. -/
inductive Portrayed (introduced : Roster) (es : List StoryNode) (counts : Ledger Nat) :
    List StoryNode → Roster → Prop
  | mk {i : Introductions} {r : Roster} {us vs ws : List (List StoryNode)}
      (describes : Blockwise DescribesAlone { introduced, remaining := counts } (singly es) us i)
      (reminds : Blockwise Reminds i.newly us vs r)
      (dresses : Forall₂ (Extended fun m => m.event?.any Event.isCostume = true) vs ws) :
      Portrayed introduced es counts ws.flatten i.introduced

section Passes

variable {I : Context → Prop} {n : StoryNode} {cs ns : List StoryNode}
  {us : List (List StoryNode)}

theorem StoryOf.blocks (hn : StoryOf sequences n) : Blocks stages n.children (singly n.events) := by
  rw [hn.events_eq]
  refine blocks_flatMap fun c hc => Body.blocks event?_of_mem_stages ?_
  obtain ⟨hkind, hbody⟩ := hn.scenes c hc
  obtain ⟨k, a, ms⟩ := c
  obtain rfl : k = .scene := hkind
  exact .group (by decide) a fun m hm => (hbody m hm).mono (by decide)

/-- Nobody is reminded of who is on the roster. -/
theorem tellSubjectsList_of_contains {r : Roster} (h : ∀ n ∈ ns, ∃ s, n.characterSubject? = some s ∧
    r.contains s.object = true) : (tellSubjectsList remindSubject ns).run r = pure (ns, r) := by
  induction ns with
  | nil => rw [tellSubjectsList]; rfl
  | cons n ns ih =>
    obtain ⟨⟨s, hs, hknown⟩, hrest⟩ := List.forall_mem_cons.1 h
    have hn : (tellSubjects remindSubject n).run r = pure (n, r) := by
      obtain ⟨k, a, cs⟩ := n
      rw [tellSubjects, hs]
      exact if_pos hknown
    rw [tellSubjectsList]
    simp only [StateT.run_bind, hn, ih hrest, pure_bind]
    rfl

theorem tellSubjects_portrait {r : Roster} {s : State} (hs : n.characterSubject? = some s)
    (hknown : r.contains s.object = true) :
    (tellSubjects remindSubject (bundle (n :: portrait s))).run r =
      pure (bundle (n :: portrait s), r) := by
  have hall : ∀ m ∈ n :: portrait s, ∃ t, m.characterSubject? = some t ∧
      r.contains t.object = true := by
    intro m hm
    rcases List.mem_cons.1 hm with rfl | hm
    · exact ⟨s, hs, hknown⟩
    · obtain ⟨e, -, rfl⟩ := depiction_portrait s m hm
      exact ⟨s, characterSubject?_aside e (isCharacter_of_characterSubject hs), hknown⟩
  have hbundle : bundle (n :: portrait s) = sequence (n :: portrait s) := rfl
  rw [hbundle, StoryNode.sequence, tellSubjects_group rfl]
  simp only [StateT.run_bind, tellSubjectsList_of_contains hall, pure_bind]
  rfl

variable [Lasting I]

/-- The blocks of a story once characters are described. -/
theorem describeCharacters_blocks (i : Introductions) (hn : StoryOf sequences n) :
    Yields I (fun p => ∃ us, Blocks stages p.1.children us ∧
      Blockwise DescribesAlone i (singly n.events) us p.2)
      (describeCharacters i n) := by
  have hblocks := hn.blocks
  have hbeats : ∀ m ∈ n.events, m.IsBeat := by
    intro m hm
    rw [hn.events_eq] at hm
    obtain ⟨c, hc, hm⟩ := List.mem_flatMap.1 hm
    exact (hn.scenes c hc).exists_beat isGroup_of_mem_sequences hm
  generalize n.events = es at hblocks hbeats
  obtain ⟨k, a, cs⟩ := n
  obtain rfl : k = .story := hn.kind
  unfold describeCharacters
  rw [tellSubjects_group rfl]
  simp only [StateT.run_bind]
  refine (tellSubjectsList_blocks (J := fun _ => True) (T := DescribesAlone) event?_of_mem_stages
    hblocks (fun u hu i _ => ?_) trivial).bind fun p hp => Yields.pure ?_
  · obtain ⟨n, hn, rfl⟩ := List.mem_map.1 hu
    refine tellSubjects_beat (hbeats n hn) (fun s hs => ?_) fun hnone =>
      ⟨[n], rfl, block_singleton (hbeats n hn), ⟨n, rfl, .silent hnone⟩, trivial⟩
    refine (describeSubject_yields hs i).imp fun p hp => ?_
    obtain ⟨u', hu', hdescribes⟩ := hp
    exact ⟨u', hu', hdescribes.block (hbeats n hn), ⟨n, rfl, hdescribes⟩, trivial⟩
  · obtain ⟨us, hus, hdescribes, -⟩ := hp
    exact ⟨us, hus, hdescribes⟩

/-- Of its blocks once characters are reminded of, those with a description staying as they are. -/
theorem remindCharacters_blocks (reminded : Roster) (hn : n.kind = .story)
    (h : Blocks stages n.children us)
    (hknown : ∀ u ∈ us, (∃ n, u = [n]) ∨ ∃ n s, u = n :: portrait s ∧
      n.characterSubject? = some s ∧ reminded.contains s.object = true) :
    Yields I (fun p => ∃ us', Blocks stages p.1.children us' ∧ Blockwise Reminds reminded us us' p.2)
      (remindCharacters reminded n) := by
  obtain ⟨k, a, cs⟩ := n
  obtain rfl : k = .story := hn
  unfold remindCharacters
  rw [tellSubjects_group rfl]
  simp only [StateT.run_bind]
  -- Whoever is on the roster at first stays there.
  refine (tellSubjectsList_blocks (T := Reminds)
    (J := fun r => ∀ o, reminded.contains o = true → r.contains o = true) event?_of_mem_stages h
    (fun u hu r hr => ?_) fun _ => id).bind fun p hp => Yields.pure ?_
  · rcases hknown u hu with ⟨n, rfl⟩ | ⟨n, s, rfl, hs, hcontains⟩
    · have hn := (h.forall_block _ hu).isBeat n List.mem_cons_self
      refine tellSubjects_beat hn (fun s hs => ?_) fun _ =>
        ⟨[n], rfl, h.forall_block _ hu, .silent _, hr⟩
      refine (remindSubject_yields hs r).imp fun p hp => ?_
      obtain ⟨u', hu', hreminds, -⟩ := hp
      exact ⟨u', hu', hreminds.block (h.forall_block _ hu), hreminds,
        fun o ho => hreminds.contains (hr o ho)⟩
    · rw [tellSubjects_portrait hs (hr _ hcontains)]
      exact Yields.pure ⟨n :: portrait s, rfl, h.forall_block _ hu, .silent _, hr⟩
  · obtain ⟨us', hus', hreminds, -⟩ := hp
    exact ⟨us', hus', hreminds⟩

/-- Of its blocks once costumes are told: the beats of each follow it. -/
theorem describeCostumes_blocks (described : Roster) (hn : n.kind = .story)
    (h : Blocks stages n.children us) :
    Yields I (fun p => ∃ us', p.1.children.flatMap Node.events = us'.flatten ∧
      Forall₂ (Extended fun m => m.event?.any Event.isCostume = true) us us')
      (describeCostumes described n) := by
  obtain ⟨k, a, cs⟩ := n
  obtain rfl : k = .story := hn
  rw [describeCostumes]
  exact (describeCostumesList_blocks event?_of_mem_stages List.mem_cons_self h
    (fun _ _ _ _ _ he => he) _ waits_none).bind fun p hp => Yields.pure hp.flatMap_events

end Passes

/-- A beat about how a character looks or what it wears. -/
def Node.isPortrait (n : StoryNode) : Bool :=
  n.event?.any fun e => e.isAppearance || e.isCostume

/-- What is not about looks or clothes is about neither. -/
theorem plain_of_not_portrait {n : StoryNode} (h : n.isPortrait = false) :
    n.event?.any Event.isAppearance = false ∧ n.event?.any Event.isCostume = false := by
  unfold Node.isPortrait at h
  cases he : n.event? with
  | none => exact ⟨rfl, rfl⟩
  | some e =>
    rw [he, Option.any_some, Bool.or_eq_false_iff] at h
    exact h

theorem Depiction.isPortrait {s : State} {n : StoryNode} (h : Depiction s n) : n.isPortrait = true := by
  obtain ⟨e, he, rfl⟩ := h
  exact Bool.or_eq_true_iff.2 (Or.inl he)

/-- What is told of characters stands among the events, which stay in order. -/
theorem Portrayed.padded {introduced introduced' : Roster} {es fs : List StoryNode} {counts : Ledger Nat}
    (h : Portrayed introduced es counts fs introduced') :
    Padded Eq (fun n => n.isPortrait = true) es fs := by
  cases h with
  | @mk i r us vs ws hdescribes hreminds hdresses =>
    have hdescriptions : Forall₂ (Extended fun n => n.isPortrait = true) (singly es) us :=
      hdescribes.forall₂ fun _ _ _ _ ⟨_, hn, h⟩ =>
        hn ▸ h.extended fun s _ m hm => (depiction_portrait s m hm).isPortrait
    have hreminders : Forall₂ (Extended fun n => n.isPortrait = true) us vs :=
      hreminds.forall₂ fun _ _ _ _ h => h.extended fun _ _ s _ => (depiction_reminder s).isPortrait
    have hcostumes : ∀ n : StoryNode, n.event?.any Event.isCostume = true → n.isPortrait = true := by
      intro n hn
      obtain ⟨e, he, hcostume⟩ := (Option.any_eq_true _ _).1 hn
      exact (Option.any_eq_true _ _).2 ⟨e, he, Bool.or_eq_true_iff.2 (Or.inr hcostume)⟩
    have htrans : ∀ {as bs cs : List StoryNode}, Padded Eq (fun n => n.isPortrait = true) as bs →
        Padded Eq (fun n => n.isPortrait = true) bs cs →
        Padded Eq (fun n => n.isPortrait = true) as cs := fun h k =>
      h.comp k (fun _ _ _ h k => h.trans k) (fun _ _ hn heq => heq ▸ hn) fun _ hn => hn
    rw [← flatten_singly es]
    exact htrans (htrans (padded_of_extended hdescriptions) (padded_of_extended hreminders))
      ((padded_of_extended hdresses).imp (fun _ _ h => h) hcostumes)

/-! ## The account of a story -/

/-- What the editor knows before a story and after it, by the events that are told. -/
structure Account (introduced : Roster) (es : List StoryNode) (introduced' : Roster) : Prop where
  known : ∀ who, introduced'.contains who = (introduced.contains who || es.any (·.isOf who))
  once : ∀ who, es.countP (·.tells .characterDescription who) =
    (!introduced.contains who && es.any (·.isOf who)).toNat
  met : ∀ who, introduced.contains who = false → es.any (·.isOf who) = true → Met who es
  characters : ∀ n ∈ es, n.event? = some .characterDescription → ∃ who, n.isOf who = true
  reminders : ∀ who, es.countP (·.tells .characterReminder who) +
    es.countP (·.tells .characterDescription who) ≤ 1

section Accounts

variable {introduced introduced' : Roster} {es es' fs : List StoryNode} {counts : Ledger Nat}

/-- The passes keep the account, if it was begun with the right count. -/
theorem Portrayed.account (h : Portrayed introduced es counts fs introduced') (hes : Describable es)
    (hcounts : Introductions.Counts { introduced, remaining := counts } es) :
    Account introduced fs introduced' := by
  obtain ⟨hstates, hplain, hleads⟩ := hes
  cases h with
  | @mk i r us vs ws hdescribes hreminds hdresses =>
    have hdescriptions : Forall₂ (Extended (·.event? ≠ some .characterReminder)) (singly es) us :=
      hdescribes.forall₂ fun _ _ _ _ ⟨_, hn, h⟩ =>
        hn ▸ h.extended fun _ _ _ => event?_of_mem_portrait
    have hreminders : Forall₂ (Extended (·.event? = some .characterReminder)) us vs :=
      hreminds.forall₂ fun _ _ _ _ h => h.extended fun _ _ _ _ => rfl
    have hany : ∀ who, ws.flatten.any (·.isOf who) = es.any (·.isOf who) := by
      intro who
      rw [any_isOf_of_extended hdresses, any_isOf_of_extended hreminders,
        any_isOf_of_extended hdescriptions, flatten_singly]
    have hcount : ∀ who, ws.flatten.countP (·.tells .characterDescription who) =
        us.flatten.countP (·.tells .characterDescription who) := by
      intro who
      rw [countP_of_extended hdresses fun m hm => tells_of_isCostume hm rfl who,
        countP_of_extended hreminders fun m hm => tells_of_event?_ne (by rw [hm]; nofun) who]
    have hintroduced : ∀ who, ∃ lead,
        Introduced who lead { introduced, remaining := counts } es us i := by
      intro who
      obtain ⟨lead, hlead⟩ := hleads who
      exact ⟨lead, introduced_of_describes hstates hplain hlead hdescribes hcounts⟩
    constructor
    case known =>
      intro who
      obtain ⟨lead, h⟩ := hintroduced who
      rw [hany, h.known]
    case once =>
      intro who
      obtain ⟨lead, h⟩ := hintroduced who
      rw [hcount, hany, h.once]
      rfl
    case met =>
      intro who hnew hacts
      obtain ⟨lead, h⟩ := hintroduced who
      have hdue : Introductions.due { introduced, remaining := counts } who es = true := by
        rw [Introductions.due, hnew, ← hany, hacts]
        rfl
      exact (((h.met hdue).extended hreminders).extended hdresses).met
    case characters =>
      intro m hm hevent
      rcases mem_flatten_of_extended hdresses hm with hm | ⟨n, -, hsame⟩
      · rcases mem_flatten_of_extended hreminders hm with hm | ⟨n, -, hsame⟩
        · rcases mem_flatten_of_extended hdescriptions hm with hm | ⟨n, -, hsame⟩
          · rw [flatten_singly] at hm
            have hnone := hplain m hm
            rw [hevent] at hnone
            cases hnone
          · exact hsame.exists_isOf
        · exact hsame.exists_isOf
      · exact hsame.exists_isOf
    case reminders =>
      intro who
      obtain ⟨lead, h⟩ := hintroduced who
      have hnewly : i.newly.contains who = Introductions.due { introduced, remaining := counts } who es :=
        h.newly
      have hsilent : ∀ m ∈ us.flatten, m.tells .characterReminder who = false := by
        intro m hm
        rcases (padded_of_extended hdescriptions).mem hm with ⟨n, hn, rfl⟩ | hne
        · rw [flatten_singly] at hn
          exact tells_of_plain (hplain n hn) rfl who
        · exact tells_of_event?_ne hne who
      have hle := countP_of_reminds hreminds hsilent
      rw [hnewly, ← h.once, ← hcount] at hle
      rwa [countP_of_extended hdresses fun m hm => tells_of_isCostume hm rfl who]

theorem Alike.event?_eq {n n' : StoryNode} (h : Alike n n') : n'.event? = n.event? := by
  unfold Node.event?
  rw [h.kind]

theorem Alike.isOf_eq {n n' : StoryNode} (h : Alike n n') (who : Object) :
    n'.isOf who = n.isOf who := by
  rw [Node.isOf, Node.isOf, h.objectIn]

theorem Alike.tells_eq {n n' : StoryNode} (h : Alike n n') (e : Event) (who : Object) :
    n'.tells e who = n.tells e who := by
  rw [Node.tells, Node.tells, h.event?_eq, h.isOf_eq]

theorem Met.alike {who : Object} (h : Met who es) (k : Forall₂ Alike es es') : Met who es' := by
  obtain ⟨pre, n, d, f, post, rfl, hgreets⟩ := h
  obtain ⟨pre', xs, rfl, hpre, hxs⟩ := exists_append_of_forall₂ k
  obtain ⟨n', ys, hn, hys, rfl⟩ := List.forall₂_cons_left_iff.1 hxs
  obtain ⟨d', zs, hd, hzs, rfl⟩ := List.forall₂_cons_left_iff.1 hys
  obtain ⟨f', post', hf, -, rfl⟩ := List.forall₂_cons_left_iff.1 hzs
  refine ⟨pre', n', d', f', post', rfl, (hn.isOf_eq who).trans hgreets.acts, hn.event?_eq ▸ hgreets.plain,
    (hd.tells_eq _ who).trans hgreets.description, (hf.tells_eq _ who).trans hgreets.features,
    fun hlead m' hm' => ?_⟩
  obtain ⟨m, hm, hmm⟩ := exists_of_mem_right hpre hm'
  rw [hmm.isOf_eq]
  refine hgreets.first ?_ m hm
  rwa [Node.isOfLead, ← hn.objectIn]

theorem countP_of_alike (k : Forall₂ Alike es es') (e : Event) (who : Object) :
    es'.countP (·.tells e who) = es.countP (·.tells e who) := by
  have hmap := map_eq_of_forall₂ (f := (·.tells e who)) (g := (·.tells e who)) k
    fun _ _ h => h.tells_eq e who
  have hcount := congrArg (List.countP id) hmap
  rwa [List.countP_map, List.countP_map] at hcount

theorem any_isOf_of_alike (k : Forall₂ Alike es es') (who : Object) :
    es'.any (·.isOf who) = es.any (·.isOf who) := by
  have hmap := map_eq_of_forall₂ (f := (·.isOf who)) (g := (·.isOf who)) k
    fun _ _ h => h.isOf_eq who
  have hany := congrArg (List.any · id) hmap
  simp only [List.any_map] at hany
  exact hany

/-- The account is one of kinds and subjects. -/
theorem Account.alike (h : Account introduced es introduced') (k : Forall₂ Alike es es') :
    Account introduced es' introduced' := by
  constructor
  case known => exact fun who => by rw [h.known, any_isOf_of_alike k]
  case once => exact fun who => by rw [countP_of_alike k, h.once, any_isOf_of_alike k]
  case met =>
    exact fun who hnew hacts => (h.met who hnew ((any_isOf_of_alike k who).symm.trans hacts)).alike k
  case characters =>
    intro n' hn' hevent
    obtain ⟨n, hn, hnn⟩ := exists_of_mem_right k hn'
    obtain ⟨who, hwho⟩ := h.characters n hn (hnn.event?_eq.symm.trans hevent)
    exact ⟨who, (hnn.isOf_eq who).trans hwho⟩
  case reminders => exact fun who => by rw [countP_of_alike k, countP_of_alike k]; exact h.reminders who

end Accounts

end SpaceOpera
