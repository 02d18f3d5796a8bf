import SpaceOpera.Proofs.Editor.Preservation

/-!
# Acquaintance

Stories come to one editor, one after the other and in any order.  Whoever acts in them is introduced the
first time, is never introduced again, and may be reminded of once in every story after that
(`edits_acquainted`).  The editor keeps one account for all stories, and each story adds to it.
-/

namespace SpaceOpera

open List (Forall₂)

/-! ## One story -/

section Story

variable {story n c₀ c m : StoryNode}

theorem Event.isAside_of_isPortrait {e : Event} (h : (e.isAppearance || e.isCostume) = true) :
    e.isAside = true ∧ e.isOpening = false := by
  cases e <;> first | exact ⟨rfl, rfl⟩ | cases h

/-- Before anybody is described, no event is about looks or clothes. -/
theorem Undescribed.plain (h : Undescribed c₀ c) (hplain : ∀ n₀ ∈ c₀.events, n₀.isInserted = false) :
    ∀ m ∈ c.events, m.isPortrait = false := by
  intro m hm
  refine Bool.eq_false_iff.2 fun hportrait => ?_
  obtain ⟨e, he, hportrait⟩ := (Option.any_eq_true _ _).1 hportrait
  obtain ⟨haside, hother⟩ := Event.isAside_of_isPortrait hportrait
  rcases h m hm with hopening | hkind | ⟨n₀, hn₀, hkind⟩
  · rw [Node.isOpening, he, Option.any_some, hother] at hopening
    cases hopening
  · rw [Node.event?, hkind] at he
    cases he
    cases hportrait
  · have hn₀ := hplain n₀ hn₀
    rw [Node.isInserted, Node.event?, ← hkind] at hn₀
    rw [Node.event?] at he
    rw [he, Option.any_some, Event.isInserted, haside, Bool.or_true] at hn₀
    cases hn₀

/-- Whoever an event of a scene is about is in a state of the object that stands for all of its names. -/
theorem Presented.exists_subject {N : Object → Prop} {given : Ledger Object} {who : Object}
    (h : Presented (Ready (Standing N given) c₀) c₀ c) (hm : m ∈ c.events)
    (hwho : m.isOf who = true) : ∃ s, m.characterSubject? = some s ∧ (s.object == who) = true ∧
      given.get? s.object = some s.object := by
  obtain ⟨o, ho, hcond⟩ := (Option.any_eq_true _ _).1 hwho
  obtain ⟨hcharacter, hbeq⟩ := Bool.and_eq_true_iff.1 hcond
  obtain ⟨v, hv, hvo⟩ := Option.bind_eq_some_iff.1 ho
  obtain ⟨s, rfl, rfl, hready⟩ := h.eq_state hm hv hvo
  refine ⟨s, ?_, hbeq, hready.placed.1.2⟩
  obtain ⟨e, he⟩ := Option.isSome_iff_exists.1 (isSome_event?_of_mem_events hm)
  unfold Node.characterSubject? Node.stateIn
  rw [he, hv]
  exact Option.filter_eq_some_iff.2 ⟨rfl, hcharacter⟩

section Opened

variable {N : Object → Prop}

/-- In an open story the events about one character are in states of one object. -/
theorem OpenStory.exists_subjects {n₀ : StoryNode} (h : OpenStory N n₀ n) : ∃ given : Ledger Object,
    ∀ m ∈ n.events, ∀ who, m.isOf who = true → ∃ s, m.characterSubject? = some s ∧
      (s.object == who) = true ∧ given.get? s.object = some s.object := by
  obtain ⟨hn, given, hscenes⟩ := h
  refine ⟨given, fun m hm who hwho => ?_⟩
  rw [hn.events_eq] at hm
  obtain ⟨c, hc, hmc⟩ := List.mem_flatMap.1 hm
  obtain ⟨c₀, -, hcc⟩ := exists_of_mem_right hscenes.scenes hc
  exact hcc.exists_subject hmc hwho

/-- A character is a heroine in all of the events of an open story or in none. -/
theorem OpenStory.leads {n₀ : StoryNode} (h : OpenStory N n₀ n) (who : Object) :
    ∃ lead, ∀ m ∈ n.events, m.isOf who = true → m.isOfLead = lead := by
  obtain ⟨given, hsubjects⟩ := h.exists_subjects
  refine ⟨(given.get? who).any Object.isLead, fun m hm hwho => ?_⟩
  obtain ⟨s, hs, hbeq, hgiven⟩ := hsubjects m hm who hwho
  rw [Node.isOfLead, objectIn_of_characterSubject hs, ← hgiven, Ledger.get?_congr _ hbeq]

variable (hstory : Draft story) (h : OpenStory N (mergeAdjacentScenes story) n)
  (hundescribed : Lowered Undescribed (mergeAdjacentScenes story) n)

include hstory h hundescribed

/-- Nothing is told in an open story yet of how anyone looks or what they wear. -/
theorem OpenStory.plain : ∀ m ∈ n.events, m.isPortrait = false := by
  intro m hm
  obtain ⟨hmerged, -, hevents⟩ := mergeAdjacentScenes_story hstory.scenes
  rw [h.story.events_eq] at hm
  obtain ⟨c, hc, hmc⟩ := List.mem_flatMap.1 hm
  obtain ⟨c₀, hc₀, hcc⟩ := exists_of_mem_right hundescribed.scenes hc
  refine hcc.plain (fun n₀ hn₀ => hstory.plain n₀ ?_) m hmc
  rw [← hevents, hmerged.events_eq]
  exact List.mem_flatMap.2 ⟨c₀, hc₀, hn₀⟩

/-- The events of an open story can be described. -/
theorem OpenStory.describable : Describable n.events := by
  constructor
  case states =>
    intro m hm hnone who
    obtain ⟨given, hsubjects⟩ := h.exists_subjects
    refine Bool.eq_false_iff.2 fun hwho => ?_
    obtain ⟨s, hs, -⟩ := hsubjects m hm who hwho
    cases hs.symm.trans hnone
  case plain => exact fun m hm => (plain_of_not_portrait (h.plain hstory hundescribed m hm)).1
  case leads => exact h.leads

end Opened

/-- Whom the editor describes in a story that is open. -/
theorem described_account (r : Roster) (hstory : Draft story)
    (hopen : OpenStory (fun _ => True) (mergeAdjacentScenes story) n)
    (hundescribed : Lowered Undescribed (mergeAdjacentScenes story) n) :
    Yields (fun _ => True) (fun p => OpenStory (fun _ => True) (mergeAdjacentScenes story) p.1 ∧
      Account r p.1.events p.2) (Editor.described r n) := by
  refine (described_yields r hopen).imp fun p hp => ?_
  obtain ⟨hopen', es, hportrayed, hmarked⟩ := hp
  have halike : Forall₂ Alike es p.1.events := hmarked.imp fun _ _ h =>
    alike_of_redrawn h fun _ _ => State.Marked.grows
  have hdescribable := hopen.describable hstory hundescribed
  have hcounts := counts_countSubjectAppearances hdescribable r {}
  exact ⟨hopen', (hportrayed.account hdescribable hcounts).alike halike⟩

/-- The editor's account of one story. -/
theorem edit_account (e : Editor) (narration : Narration) {out : StoryNode} {e' : Editor}
    (hstory : Draft story) (hout : ((e.edit story).run narration).1 = (.ok out, e')) :
    Account e.introduced out.events e'.introduced := by
  have hannotated := annotated_undescribed hstory.scenes hstory.bare
  have hedit := (edit_parts (I := fun _ => True) e hannotated
    (fun _ hn => described_account e.introduced hstory hn.1 hn.2)
    (fun _ _ _ h => (arranged_ends e.conjoinChance h.1).imp (fun _ he => he.elim) fun _ h => h)
    narration trivial).1
  rw [hout] at hedit
  obtain ⟨-, d, -, ⟨hopen, haccount⟩, hprinted, rfl⟩ := hedit
  exact haccount.alike (hprinted.alike hopen.story)

end Story

/-! ## Many stories -/

/-- The editor takes the stories one after the other and comes to an end with each, whatever is drawn
for it. -/
inductive Edits : Editor → List StoryNode → List StoryNode → Editor → Prop
  | nil {e : Editor} : Edits e [] [] e
  | cons {e e' e'' : Editor} {story out : StoryNode} {stories outs : List StoryNode}
      (narration : Narration) (hout : ((e.edit story).run narration).1 = (.ok out, e'))
      (h : Edits e' stories outs e'') : Edits e (story :: stories) (out :: outs) e''

/-- The character acts in the stories. -/
def ActsIn (who : Object) (outs : List StoryNode) : Prop :=
  ∃ out ∈ outs, ∃ n ∈ out.events, n.isOf who = true

/-- In stories told one after the other, whoever acts is met once: described in the first story to act in
and in no other.  Only characters are described; nobody is reminded of twice in one story, nor where they
are described. -/
structure Acquainted (outs : List StoryNode) : Prop where
  once : ∀ who, ActsIn who outs →
    (outs.flatMap Node.events).countP (·.tells .characterDescription who) = 1
  met : ∀ who, ActsIn who outs → ∃ before out after, outs = before ++ out :: after ∧
    ¬ActsIn who before ∧ Met who out.events
  characters : ∀ out ∈ outs, ∀ n ∈ out.events, n.event? = some .characterDescription →
    ∃ who, n.isOf who = true
  reminders : ∀ out ∈ outs, ∀ who, out.events.countP (·.tells .characterReminder who) ≤ 1 ∧
    (0 < out.events.countP (·.tells .characterDescription who) →
      out.events.countP (·.tells .characterReminder who) = 0)

section Stories

variable {e e' : Editor} {stories outs : List StoryNode} {who : Object}

theorem actsIn_iff : ActsIn who outs ↔ (outs.flatMap Node.events).any (·.isOf who) = true := by
  unfold ActsIn
  simp only [List.any_eq_true, List.mem_flatMap]
  exact ⟨fun ⟨out, hout, n, hn, h⟩ => ⟨n, ⟨out, hout, hn⟩, h⟩,
    fun ⟨n, ⟨out, hout, hn⟩, h⟩ => ⟨out, hout, n, hn, h⟩⟩

/-- Over several stories the account stays one: whoever acts is described once, unless known before. -/
theorem Edits.countP_descriptions (h : Edits e stories outs e')
    (hstories : ∀ story ∈ stories, Draft story) (who : Object) :
    (outs.flatMap Node.events).countP (·.tells .characterDescription who) =
      (!e.introduced.contains who && (outs.flatMap Node.events).any (·.isOf who)).toNat := by
  induction h with
  | nil => simp
  | @cons e e' _ story out stories outs narration hout _ ih =>
    obtain ⟨hstory, hrest⟩ := List.forall_mem_cons.1 hstories
    have haccount := edit_account e narration hstory hout
    rw [List.flatMap_cons, List.countP_append, List.any_append, haccount.once, ih hrest,
      haccount.known]
    cases e.introduced.contains who <;> cases out.events.any (·.isOf who) <;>
      cases (outs.flatMap Node.events).any (·.isOf who) <;> rfl

/-- Whoever is not known is met in the first story to act in. -/
theorem Edits.met (h : Edits e stories outs e') (hstories : ∀ story ∈ stories, Draft story)
    (hnew : e.introduced.contains who = false) (hacts : ActsIn who outs) :
    ∃ before out after, outs = before ++ out :: after ∧ ¬ActsIn who before ∧
      Met who out.events := by
  induction h with
  | nil =>
    obtain ⟨out, hout, -⟩ := hacts
    cases hout
  | @cons e e' _ story out stories outs narration hout _ ih =>
    obtain ⟨hstory, hrest⟩ := List.forall_mem_cons.1 hstories
    have haccount := edit_account e narration hstory hout
    by_cases hfirst : out.events.any (·.isOf who) = true
    · exact ⟨[], out, outs, rfl, fun ⟨_, hmem, _⟩ => absurd hmem List.not_mem_nil,
        haccount.met who hnew hfirst⟩
    · have hknown := haccount.known who
      rw [hnew, Bool.eq_false_iff.2 hfirst] at hknown
      rw [actsIn_iff, List.flatMap_cons, List.any_append, Bool.eq_false_iff.2 hfirst,
        Bool.false_or, ← actsIn_iff] at hacts
      obtain ⟨before, later, after, rfl, hbefore, hmet⟩ := ih hrest hknown hacts
      refine ⟨out :: before, later, after, rfl, ?_, hmet⟩
      rwa [actsIn_iff, List.flatMap_cons, List.any_append, Bool.eq_false_iff.2 hfirst,
        Bool.false_or, ← actsIn_iff]

theorem Edits.exists_account (h : Edits e stories outs e')
    (hstories : ∀ story ∈ stories, Draft story) :
    ∀ out ∈ outs, ∃ known known', Account known out.events known' := by
  induction h with
  | nil => exact nofun
  | cons narration hout _ ih =>
    obtain ⟨hstory, hrest⟩ := List.forall_mem_cons.1 hstories
    exact List.forall_mem_cons.2 ⟨⟨_, _, edit_account _ narration hstory hout⟩, ih hrest⟩

/-- Stories that any editor comes to an end with can be told in a row. -/
theorem exists_edits (e : Editor) (h : ∀ story ∈ stories, ∀ e : Editor, ∃ narration out,
    ((e.edit story).run narration).1.1 = .ok out) : ∃ outs e', Edits e stories outs e' := by
  induction stories generalizing e with
  | nil => exact ⟨[], e, .nil⟩
  | cons story stories ih =>
    obtain ⟨hstory, hrest⟩ := List.forall_mem_cons.1 h
    obtain ⟨narration, out, hout⟩ := hstory e
    generalize hresult : ((e.edit story).run narration).1 = result at hout
    obtain ⟨result, e'⟩ := result
    obtain rfl : result = .ok out := hout
    obtain ⟨outs, e'', hedits⟩ := ih e' hrest
    exact ⟨out :: outs, e'', .cons narration hresult hedits⟩

/-- A fresh editor makes the reader acquainted with everyone who acts. -/
theorem edits_acquainted (chance : Nat) (h : Edits ⟨chance, {}⟩ stories outs e)
    (hstories : ∀ story ∈ stories, Draft story) : Acquainted outs := by
  constructor
  case once =>
    intro who hacts
    rw [h.countP_descriptions hstories, actsIn_iff.1 hacts]
    rfl
  case met => exact fun who hacts => h.met hstories rfl hacts
  case characters =>
    intro out hout n hn hevent
    obtain ⟨known, known', haccount⟩ := h.exists_account hstories out hout
    exact haccount.characters n hn hevent
  case reminders =>
    intro out hout who
    obtain ⟨known, known', haccount⟩ := h.exists_account hstories out hout
    have hle := haccount.reminders who
    exact ⟨by omega, fun hdescribed => by omega⟩

/-- Whoever acts in the scenes on the bridge is met in them once, though they are told twice. -/
theorem edits_acquainted_tableau : ∃ outs e, Edits ⟨50, {}⟩ [tableau, tableau] outs e ∧
    (∀ story ∈ [tableau, tableau], Draft story) ∧ Acquainted outs := by
  have htwice : ∀ story ∈ [tableau, tableau], story = tableau := by
    simp only [List.mem_cons, List.not_mem_nil, or_false, or_self, imp_self, implies_true]
  have hstories : ∀ story ∈ [tableau, tableau], Draft story := fun story hstory =>
    htwice story hstory ▸ tableau_draft
  obtain ⟨outs, e, h⟩ := exists_edits ⟨50, {}⟩ fun story hstory e =>
    ⟨stillness, htwice story hstory ▸ exists_edit_tableau e stillness⟩
  exact ⟨outs, e, h, hstories, edits_acquainted 50 h hstories⟩

end Stories

end SpaceOpera
