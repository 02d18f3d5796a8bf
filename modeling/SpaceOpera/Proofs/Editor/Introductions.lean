import SpaceOpera.Proofs.Editor.Costumes

/-!
# Introductions

Who acts in a story is described in it, if not in one before: once, with one of the events that the
character acts in.  The countdown of appearances is what settles that it is not forgotten: whenever a
description is put off, the character still has to act (`Describes.cue`).  Reminders and costumes are
told behind the blocks that the descriptions stand in, and so never come between.
-/

namespace SpaceOpera

open List (Forall₂)
open StoryNode (ofEvent sequence)

/-! ## Who acts -/

/-- The event is about the character. -/
def Node.isOf (n : StoryNode) (who : Object) : Bool :=
  (n.objectIn .subject).any fun o => o.isCharacter && o == who

/-- The event is of this kind and about the character. -/
def Node.tells (n : StoryNode) (e : Event) (who : Object) : Bool :=
  n.event? == some e && n.isOf who

/-- Is the event about a heroine? -/
def Node.isOfLead (n : StoryNode) : Bool :=
  (n.objectIn .subject).any Object.isLead

/-- Events to describe characters with: a character stands in a state, nobody is described yet, and a
character is a heroine in all of the events or in none. -/
structure Describable (es : List StoryNode) : Prop where
  states : ∀ n ∈ es, n.characterSubject? = none → ∀ who, n.isOf who = false
  plain : ∀ n ∈ es, n.event?.any Event.isAppearance = false
  leads : ∀ who, ∃ lead, ∀ n ∈ es, n.isOf who = true → n.isOfLead = lead

section Subjects

variable {n m : StoryNode} {s : State} {e : Event} {who : Object} {es : List StoryNode}

theorem objectIn_of_characterSubject (h : n.characterSubject? = some s) :
    n.objectIn .subject = some s.object := by
  unfold Node.characterSubject? at h
  split at h
  · cases h
  · obtain ⟨hs, -⟩ := Option.filter_eq_some_iff.1 h
    obtain ⟨v, hv, hvs⟩ := Option.bind_eq_some_iff.1 hs
    rw [Node.objectIn, hv]
    cases v with
    | state t =>
      obtain rfl := Option.some.inj hvs
      rfl
    | _ => cases hvs

theorem isOf_of_characterSubject (h : n.characterSubject? = some s) (who : Object) :
    n.isOf who = (s.object == who) := by
  rw [Node.isOf, objectIn_of_characterSubject h, Option.any_some,
    isCharacter_of_characterSubject h, Bool.true_and]

theorem SameSubject.isOf_eq (h : SameSubject n m) (who : Object) : m.isOf who = n.isOf who := by
  obtain ⟨s, t, hs, ht, hbeq⟩ := h
  rw [isOf_of_characterSubject hs, isOf_of_characterSubject ht, BEq.congr_left hbeq]

theorem SameSubject.exists_isOf (h : SameSubject n m) : ∃ who, m.isOf who = true := by
  obtain ⟨s, t, -, ht, -⟩ := h
  exact ⟨t.object, (isOf_of_characterSubject ht t.object).trans BEq.rfl⟩

theorem isOf_congr {who' : Object} (h : (who == who') = true) (n : StoryNode) :
    n.isOf who = n.isOf who' := by
  unfold Node.isOf
  simp only [BEq.congr_right h]

theorem tells_of_isOf_eq_false (h : n.isOf who = false) (e : Event) : n.tells e who = false := by
  rw [Node.tells, h, Bool.and_false]

theorem countP_tells_of_isOf_eq_false (h : ∀ m ∈ es, m.isOf who = false) (e : Event) :
    es.countP (·.tells e who) = 0 :=
  List.countP_eq_zero.2 fun m hm => Bool.eq_false_iff.1 (tells_of_isOf_eq_false (h m hm) e)

theorem tells_of_event?_ne (h : n.event? ≠ some e) (who : Object) : n.tells e who = false := by
  rw [Node.tells, beq_eq_false_iff_ne.2 h, Bool.false_and]

theorem tells_of_plain (h : n.event?.any Event.isAppearance = false) (he : e.isAppearance = true)
    (who : Object) : n.tells e who = false := by
  refine tells_of_event?_ne (fun hn => ?_) who
  rw [hn, Option.any_some, he] at h
  cases h

theorem tells_of_isCostume (h : n.event?.any Event.isCostume = true) (he : e.isCostume = false)
    (who : Object) : n.tells e who = false := by
  refine tells_of_event?_ne (fun hn => ?_) who
  rw [hn, Option.any_some, he] at h
  cases h

theorem tells_aside (hs : s.object.isCharacter = true) (e e' : Event) (who : Object) :
    ((ofEvent e).set .subject (.state s)).tells e' who =
      (some e == some e' && s.object == who) := by
  rw [Node.tells, isOf_of_characterSubject (characterSubject?_aside e hs)]
  rfl

end Subjects

/-! ## The countdown -/

/-- For every character there is written down how many of the events are about it. -/
def Introductions.Counts (i : Introductions) (es : List StoryNode) : Prop :=
  ∀ who, (i.remaining.get? who).getD 0 = es.countP (·.isOf who)

section Countdown

variable {i : Introductions} {n : StoryNode} {es : List StoryNode} {who : Object} {s : State}

theorem get?_foldl_counts (ss : List State) (counts : Ledger Nat) (who : Object) :
    ((ss.foldl (fun counts s => counts.insert s.object ((counts.get? s.object).getD 0 + 1))
      counts).get? who).getD 0 = (counts.get? who).getD 0 + ss.countP (·.object == who) := by
  induction ss generalizing counts with
  | nil => rfl
  | cons s ss ih =>
    rw [List.foldl_cons, ih, Ledger.get?_insert, List.countP_cons]
    by_cases hs : (who == s.object) = true
    · rw [if_pos hs, if_pos (BEq.symm hs), Ledger.get?_congr counts hs, Option.getD_some]
      omega
    · rw [if_neg hs, if_neg fun h => hs (BEq.symm h), Nat.add_zero]

/-- What is counted before anybody is described is how often each character acts. -/
theorem counts_countSubjectAppearances {story : StoryNode} (h : Describable story.events)
    (introduced newly : Roster) :
    Introductions.Counts ⟨introduced, newly, countSubjectAppearances story⟩ story.events := by
  intro who
  have hevents : story.preorder.filterMap Node.characterSubject? =
      story.events.filterMap Node.characterSubject? := by
    unfold Node.events
    rw [List.filterMap_filter]
    refine List.filterMap_congr fun n _ => ?_
    unfold Node.characterSubject?
    cases n.event? with
    | none => rfl
    | some e => rfl
  have hcounts := get?_foldl_counts (story.events.filterMap Node.characterSubject?) {} who
  rw [Ledger.get?_empty, Option.getD_none, Nat.zero_add, List.countP_filterMap] at hcounts
  unfold countSubjectAppearances
  rw [hevents, hcounts]
  refine List.countP_congr fun n hn => ?_
  cases hs : n.characterSubject? with
  | none => simp [h.states n hn hs who]
  | some s => simp [isOf_of_characterSubject hs]

/-- Counting an event off leaves the events behind it. -/
theorem Introductions.Counts.countOff (h : i.Counts (n :: es)) (hs : n.characterSubject? = some s) :
    (i.countOff s.object).1.Counts es ∧
      (i.countOff s.object).2 = es.countP (·.isOf s.object) := by
  have hleft : (i.countOff s.object).2 = es.countP (·.isOf s.object) := by
    have hcount := h s.object
    rw [List.countP_cons, isOf_of_characterSubject hs, if_pos BEq.rfl] at hcount
    unfold Introductions.countOff
    cases hget : i.remaining.get? s.object with
    | none =>
      rw [hget, Option.getD_none] at hcount
      omega
    | some k =>
      rw [hget, Option.getD_some] at hcount
      rw [Option.getD_some, hcount]
      rfl
  refine ⟨fun who => ?_, hleft⟩
  have hremaining : (i.countOff s.object).1.remaining =
      i.remaining.insert s.object (i.countOff s.object).2 := rfl
  rw [hremaining, Ledger.get?_insert]
  by_cases hwho : (who == s.object) = true
  · rw [if_pos hwho, Option.getD_some, hleft]
    simp only [isOf_congr hwho]
  · rw [if_neg hwho, h who, List.countP_cons, isOf_of_characterSubject hs,
      if_neg fun h => hwho (BEq.symm h), Nat.add_zero]

theorem Introductions.Counts.of_no_subject (h : i.Counts (n :: es)) (hn : ∀ who, n.isOf who = false) :
    i.Counts es := by
  intro who
  rw [h who, List.countP_cons, hn who, if_neg Bool.false_ne_true, Nat.add_zero]

end Countdown

/-! ## Descriptions -/

/-- An event about the character with the description behind it; a heroine did not act before. -/
structure Greets (who : Object) (before : List StoryNode) (n d f : StoryNode) : Prop where
  acts : n.isOf who = true
  plain : n.event?.any Event.isAppearance = false
  description : d.tells .characterDescription who = true
  features : f.tells .characterFeaturesDescription who = true
  first : n.isOfLead = true → ∀ m ∈ before, m.isOf who = false

/-- Somewhere in the blocks the character is described, at the front of one. -/
def MetIn (who : Object) (lead : Bool) (us : List (List StoryNode)) : Prop :=
  ∃ vs n d f ms ws, us = vs ++ (n :: d :: f :: ms) :: ws ∧ n.isOfLead = lead ∧
    Greets who vs.flatten n d f

/-- Somewhere in the events the character acts and is described. -/
def Met (who : Object) (es : List StoryNode) : Prop :=
  ∃ pre n d f post, es = pre ++ n :: d :: f :: post ∧ Greets who pre n d f

/-- What an event means for one character: it is about somebody else, the character is passed by,
known or still to act, or it is described here. -/
inductive Cue (who : Object) (i : Introductions) (n : StoryNode) (es : List StoryNode) :
    List StoryNode → Introductions → Prop
  | away {u : List StoryNode} {j : Introductions} (hn : n.isOf who = false)
      (hu : ∀ m ∈ u, m.isOf who = false)
      (hknown : j.introduced.contains who = i.introduced.contains who)
      (hnewly : j.newly.contains who = i.newly.contains who) : Cue who i n es u j
  | passed {j : Introductions} (hn : n.isOf who = true)
      (hdue : i.introduced.contains who = true ∨
        n.isOfLead = false ∧ es.any (·.isOf who) = true)
      (hknown : j.introduced.contains who = i.introduced.contains who)
      (hnewly : j.newly.contains who = i.newly.contains who) : Cue who i n es [n] j
  | told {d f : StoryNode} {j : Introductions} (hn : n.isOf who = true)
      (hnew : i.introduced.contains who = false)
      (hd : d.tells .characterDescription who = true)
      (hf : f.tells .characterFeaturesDescription who = true)
      (hfeatures : f.tells .characterDescription who = false)
      (hknown : j.introduced.contains who = true) (hnewly : j.newly.contains who = true) :
      Cue who i n es [n, d, f] j

section Describing

variable {i j : Introductions} {n : StoryNode} {es u : List StoryNode}
  {us us' : List (List StoryNode)} {who : Object} {s : State} {lead : Bool}

theorem isOf_portrait (hs : s.object.isCharacter = true) (who : Object) :
    ∀ m ∈ portrait s, m.isOf who = (s.object == who) := by
  intro m hm
  obtain ⟨e, -, rfl⟩ := depiction_portrait s m hm
  exact isOf_of_characterSubject (characterSubject?_aside e hs) who

theorem cue_of_passed (hs : n.characterSubject? = some s)
    (hdue : i.introduced.contains s.object = true ∨
      s.object.isLead = false ∧ es.countP (·.isOf s.object) ≠ 0) (who : Object) :
    Cue who i n es [n] (i.countOff s.object).1 := by
  have hisOf := isOf_of_characterSubject hs who
  by_cases hwho : (s.object == who) = true
  · refine .passed (hisOf.trans hwho) (hdue.imp (fun hknown => ?_) fun hlater => ?_) rfl rfl
    · exact (Roster.contains_congr _ hwho).symm.trans hknown
    · obtain ⟨hother, hcount⟩ := hlater
      rw [← Nat.pos_iff_ne_zero, List.countP_pos_iff, ← List.any_eq_true] at hcount
      simp only [isOf_congr hwho] at hcount
      refine ⟨?_, hcount⟩
      rw [Node.isOfLead, objectIn_of_characterSubject hs, Option.any_some]
      exact hother
  · have hn := hisOf.trans (Bool.eq_false_iff.2 hwho)
    exact .away hn (fun m hm => List.mem_singleton.1 hm ▸ hn) rfl rfl

theorem cue_of_told (hs : n.characterSubject? = some s)
    (hnew : i.introduced.contains s.object = false) (who : Object) :
    Cue who i n es (n :: portrait s) ((i.countOff s.object).1.describe s.object) := by
  have hisOf := isOf_of_characterSubject hs who
  have hcharacter := isCharacter_of_characterSubject hs
  by_cases hwho : (s.object == who) = true
  · have hinsert : ∀ r : Roster, (r.insert s.object).contains who = true := by
      intro r
      rw [Roster.contains_insert, BEq.symm hwho, Bool.true_or]
    refine .told (hisOf.trans hwho) ?_ ?_ ?_ ?_ (hinsert _) (hinsert _)
    · exact (Roster.contains_congr _ (BEq.symm hwho)).trans hnew
    · rw [tells_aside hcharacter, hwho]
      rfl
    · rw [tells_aside hcharacter, hwho]
      rfl
    · rw [tells_aside hcharacter]
      rfl
  · have hother : (s.object == who) = false := Bool.eq_false_iff.2 hwho
    have hinsert : ∀ r : Roster, (r.insert s.object).contains who = r.contains who := by
      intro r
      rw [Roster.contains_insert, BEq.comm, hother, Bool.false_or]
    refine .away (hisOf.trans hother) (fun m hm => ?_) (hinsert _) (hinsert _)
    rcases List.mem_cons.1 hm with rfl | hm
    · exact hisOf.trans hother
    · exact (isOf_portrait hcharacter who m hm).trans hother

/-- What one event means for a character, by the count of those that come after it. -/
theorem Describes.cue (h : Describes i n u j) (hcounts : i.Counts (n :: es))
    (hstates : n.characterSubject? = none → ∀ who, n.isOf who = false) (who : Object) :
    j.Counts es ∧ Cue who i n es u j := by
  cases h with
  | silent hn =>
    have hnone := hstates hn
    exact ⟨hcounts.of_no_subject hnone,
      .away (hnone who) (fun m hm => List.mem_singleton.1 hm ▸ hnone who) rfl rfl⟩
  | passed hs hdue =>
    obtain ⟨hrest, hleft⟩ := hcounts.countOff hs
    rw [hleft] at hdue
    exact ⟨hrest, cue_of_passed hs hdue who⟩
  | told hs hnew =>
    obtain ⟨hrest, -⟩ := hcounts.countOff hs
    exact ⟨hrest, cue_of_told hs hnew who⟩

/-- The character is still to be described: not known, and acting in the events. -/
def Introductions.due (i : Introductions) (who : Object) (es : List StoryNode) : Bool :=
  !i.introduced.contains who && es.any (·.isOf who)

/-- What becomes of an event that is a block on its own. -/
def DescribesAlone (i : Introductions) (u u' : List StoryNode) (j : Introductions) : Prop :=
  ∃ n, u = [n] ∧ Describes i n u' j

/-- The events once everybody is described who is to be: what has become of one character. -/
structure Introduced (who : Object) (lead : Bool) (i : Introductions) (es : List StoryNode)
    (us : List (List StoryNode)) (j : Introductions) : Prop where
  known : j.introduced.contains who = (i.introduced.contains who || es.any (·.isOf who))
  newly : j.newly.contains who = (i.newly.contains who || i.due who es)
  once : us.flatten.countP (·.tells .characterDescription who) = (i.due who es).toNat
  met : i.due who es = true → MetIn who lead us

theorem MetIn.cons (h : MetIn who lead us) (hu : lead = true → ∀ m ∈ u, m.isOf who = false) :
    MetIn who lead (u :: us) := by
  obtain ⟨vs, n, d, f, ms, ws, rfl, hlead, hgreets⟩ := h
  refine ⟨u :: vs, n, d, f, ms, ws, rfl, hlead, { hgreets with first := fun hn => ?_ }⟩
  rw [List.flatten_cons, List.forall_mem_append]
  exact ⟨hu (hlead.symm.trans hn), hgreets.first hn⟩

/-- What one more event in front comes to for a character. -/
theorem Cue.introduced {k : Introductions} (ht : Cue who i n es u j)
    (h : Introduced who lead j es us k) (hplain : n.event?.any Event.isAppearance = false)
    (hlead : n.isOf who = true → n.isOfLead = lead) :
    Introduced who lead i (n :: es) (u :: us) k := by
  obtain ⟨hknown, hnewly, honce, hmet⟩ := h
  have hsilent := tells_of_plain hplain (e := .characterDescription) rfl who
  cases ht with
  | away hn hu hknown' hnewly' =>
    have hdue : i.due who (n :: es) = j.due who es := by
      rw [Introductions.due, Introductions.due, List.any_cons, hn, Bool.false_or, hknown']
    constructor
    case known => rw [hknown, hknown', List.any_cons, hn, Bool.false_or]
    case newly => rw [hnewly, hnewly', hdue]
    case once =>
      rw [List.flatten_cons, List.countP_append, countP_tells_of_isOf_eq_false hu, honce, hdue,
        Nat.zero_add]
    case met => exact fun h => (hmet (hdue.symm.trans h)).cons fun _ => hu
  | passed hn hdue hknown' hnewly' =>
    have hany : (i.introduced.contains who || es.any (·.isOf who)) = true :=
      hdue.elim (fun h => by rw [h, Bool.true_or]) fun h => by rw [h.2, Bool.or_true]
    have hdue' : i.due who (n :: es) = j.due who es := by
      rw [Introductions.due, Introductions.due, List.any_cons, hn, Bool.true_or, hknown']
      rcases hdue with hi | ⟨-, hlater⟩
      · rw [hi]
        rfl
      · rw [hlater]
    constructor
    case known => rw [hknown, hknown', hany, List.any_cons, hn, Bool.true_or, Bool.or_true]
    case newly => rw [hnewly, hnewly', hdue']
    case once =>
      rw [List.flatten_cons, List.countP_append, List.countP_singleton, hsilent, honce, hdue',
        if_neg Bool.false_ne_true, Nat.zero_add]
    case met =>
      -- A heroine is never passed by unless she is known.
      intro h
      refine (hmet (hdue'.symm.trans h)).cons fun hheroine => ?_
      rcases hdue with hi | ⟨hother, -⟩
      · rw [Introductions.due, hi] at h
        cases h
      · cases hother.symm.trans ((hlead hn).trans hheroine)
  | @told d f j hn hnew hd hf hfeatures hknown' hnewly' =>
    have hdue : i.due who (n :: es) = true := by
      rw [Introductions.due, hnew, List.any_cons, hn]
      rfl
    have hdue' : j.due who es = false := by
      rw [Introductions.due, hknown']
      rfl
    constructor
    case known => rw [hknown, hknown', List.any_cons, hn, Bool.true_or, Bool.or_true]
    case newly => rw [hnewly, hnewly', hdue, Bool.true_or, Bool.or_true]
    case once =>
      rw [List.flatten_cons, List.countP_append, honce, hdue, hdue']
      simp [hsilent, hd, hfeatures]
    case met => exact fun _ => ⟨[], n, d, f, [], us, rfl, hlead hn, hn, hplain, hd, hf, fun _ => nofun⟩

/-- What becomes of a character over a whole row of events. -/
theorem introduced_of_describes
    (hstates : ∀ n ∈ es, n.characterSubject? = none → ∀ who, n.isOf who = false)
    (hplain : ∀ n ∈ es, n.event?.any Event.isAppearance = false)
    (hlead : ∀ n ∈ es, n.isOf who = true → n.isOfLead = lead)
    (h : Blockwise DescribesAlone i (singly es) us j)
    (hcounts : i.Counts es) : Introduced who lead i es us j := by
  induction es generalizing i us with
  | nil =>
    cases h
    refine ⟨?_, ?_, ?_, ?_⟩ <;> simp [Introductions.due]
  | cons n es ih =>
    cases h with
    | cons hu h =>
      obtain ⟨_, hn, hdescribes⟩ := hu
      obtain rfl := List.singleton_inj.1 hn
      rw [List.forall_mem_cons] at hstates hplain hlead
      obtain ⟨hcounts, hcue⟩ := hdescribes.cue hcounts hstates.1 who
      exact hcue.introduced (ih hstates.2 hplain.2 hlead.2 h hcounts) hplain.1 hlead.1

/-- A block of several beats is a description of someone who is newly described. -/
theorem newly_of_describes {vs : List (List StoryNode)}
    (h : Blockwise DescribesAlone i vs us j) :
    (∀ who, i.newly.contains who = true → j.newly.contains who = true) ∧
      ∀ u ∈ us, (∃ n, u = [n]) ∨ ∃ n s, u = n :: portrait s ∧ n.characterSubject? = some s ∧
        j.newly.contains s.object = true := by
  induction h with
  | nil => exact ⟨fun _ => id, nofun⟩
  | @cons i j k u u' us us' hu _ ih =>
    obtain ⟨hmono, hblocks⟩ := ih
    obtain ⟨n, rfl, hdescribes⟩ := hu
    cases hdescribes with
    | silent | passed =>
      exact ⟨hmono, List.forall_mem_cons.2 ⟨Or.inl ⟨n, rfl⟩, hblocks⟩⟩
    | @told s hs _ =>
      have hinsert : ∀ who, (i.newly.insert s.object).contains who = true →
          k.newly.contains who = true := fun who h => hmono who h
      simp only [Roster.contains_insert] at hinsert
      refine ⟨fun who hwho => hinsert who (by rw [hwho, Bool.or_true]),
        List.forall_mem_cons.2 ⟨Or.inr ⟨n, s, rfl, hs, hinsert _ ?_⟩, hblocks⟩⟩
      rw [BEq.rfl, Bool.true_or]

end Describing

end SpaceOpera
