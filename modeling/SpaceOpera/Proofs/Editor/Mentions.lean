import SpaceOpera.Proofs.Editor.Dressing

/-!
# Mentions

Two passes of the editor say how the text may refer to an object.  One marks its first mention among the
subjects and objects of the events; the other, once the scenes are in paragraphs, flags the states that are
of the last subject so far.  What each carries along is right for the events in the order in which they are
told, and nothing changes that order afterwards.  So no pronoun ever takes the place of a first mention:
`edit_mentions`.
-/

namespace SpaceOpera

open List (Forall₂)
open StoryNode (ofEvent)

/-! ## What events mention -/

/-- The states that an event mentions, the subject before the object. -/
def Node.mentioned (n : StoryNode) : List State :=
  (n.stateIn .subject).toList ++ (n.stateIn .object).toList

/-- What is mentioned in events, in reading order. -/
def mentions (es : List StoryNode) : List State :=
  es.flatMap Node.mentioned

/-- The last subject that has a state. -/
def lastSubject (es : List StoryNode) : Option Object :=
  (es.filterMap (·.stateIn .subject)).getLast?.map (·.object)

/-- The state is marked if nothing before mentions its object, and only then. -/
def FirstAfter (before : List State) (s : State) : Prop :=
  s.firstOccurrence = !before.any (·.object == s.object)

/-- First mentions are marked in the event, and no states but its subject and its object. -/
structure MarkedAfter (before : List StoryNode) (n : StoryNode) : Prop where
  first : Following FirstAfter (mentions before) n.mentioned
  elsewhere : ∀ r s, n.get? r = some (.state s) → s.firstOccurrence = true → r = .subject ∨ r = .object

/-- The states that are of the last subject before the event are flagged, and only these. -/
def ReferredAfter (before : List StoryNode) (n : StoryNode) : Prop :=
  n.attributes.EachState fun s => s.isReferent = (lastSubject before).any (· == s.object)

/-- A state that goes by its first name, with no pronoun in its place. -/
structure State.ByName (s : State) : Prop where
  name : s.mentionName = pure s.object.name
  pronoun : s.pronoun = pure (s.object.definiteOf s.object.name)
  accusative : s.accusative = pure (s.object.definiteOf s.object.name)
  possessive : s.possessive = pure (s.object.definiteOf s.object.name ++ "'s")

/-- It is clear what the events refer to: of all mentions of an object the first is marked and no other, a
state is flagged if it is of the last subject before its event, and what is marked goes by its first name. -/
structure Clear (es : List StoryNode) : Prop where
  first : ∀ before s after, mentions es = before ++ s :: after →
    (s.firstOccurrence = true ↔ ∀ t ∈ before, (t.object == s.object) = false)
  once : ∀ s ∈ mentions es,
    (mentions es).countP (fun t => t.firstOccurrence && t.object == s.object) = 1
  referent : ∀ before n after, es = before ++ n :: after → ∀ r s, n.get? r = some (.state s) →
    (s.isReferent = true ↔ ∃ o, lastSubject before = some o ∧ (o == s.object) = true)
  named : ∀ n ∈ es, ∀ r s, n.get? r = some (.state s) → s.firstOccurrence = true →
    (r = .subject ∨ r = .object) ∧ s.isReferent = false ∧ s.ByName

section Clarity

variable {es fs before after : List StoryNode} {n : StoryNode} {ms : List State} {s : State}

theorem lastSubject_concat :
    lastSubject (es ++ [n]) = ((n.stateIn .subject).map (·.object)).or (lastSubject es) := by
  unfold lastSubject
  rw [List.filterMap_append, List.filterMap_cons, List.filterMap_nil]
  cases n.stateIn .subject with
  | none => simp
  | some s => simp

/-- The last subject is mentioned. -/
theorem exists_of_lastSubject {o : Object} (h : lastSubject es = some o) :
    ∃ s ∈ mentions es, s.object = o := by
  obtain ⟨s, hs, rfl⟩ := Option.map_eq_some_iff.1 h
  obtain ⟨n, hn, hsubject⟩ := List.mem_filterMap.1 (List.mem_of_getLast? hs)
  refine ⟨s, List.mem_flatMap.2 ⟨n, hn, List.mem_append_left _ ?_⟩, rfl⟩
  exact Option.mem_toList.2 hsubject

theorem mem_mentioned {r : Role} (hs : n.get? r = some (.state s)) (hr : r = .subject ∨ r = .object) :
    s ∈ n.mentioned := by
  have hstate : n.stateIn r = some s := by rw [Node.stateIn, hs]; rfl
  rcases hr with rfl | rfl
  · exact List.mem_append_left _ (Option.mem_toList.2 hstate)
  · exact List.mem_append_right _ (Option.mem_toList.2 hstate)

/-- Of all mentions of an object one is marked, if it was not mentioned before. -/
theorem countP_of_first {before : List State} (h : Following FirstAfter before ms) (o : Object) :
    ms.countP (fun t => t.firstOccurrence && t.object == o) =
      (!before.any (·.object == o) && ms.any (·.object == o)).toNat := by
  induction ms generalizing before with
  | nil => simp
  | cons s ms ih =>
    obtain ⟨hs, h⟩ := h
    have hrest := ih h
    rw [List.any_append, List.any_cons, List.any_nil, Bool.or_false] at hrest
    rw [List.countP_cons, hrest, List.any_cons]
    by_cases ho : (s.object == o) = true
    · have hs : s.firstOccurrence = !before.any (·.object == o) := by
        rw [hs]
        exact congrArg (!before.any ·) (funext fun t => BEq.congr_right ho)
      rw [ho, hs]
      cases before.any (·.object == o) <;> simp
    · rw [Bool.not_eq_true] at ho
      simp [ho]

theorem byName_of_first (hfirst : s.firstOccurrence = true) (hreferent : s.isReferent = false) :
    s.ByName := by
  have hname : s.mentionName = pure s.object.name := by
    unfold State.mentionName
    simp [hfirst]
  have hdefinite : s.definite = pure (s.object.definiteOf s.object.name) := by
    rw [State.definite, hname, pure_bind]
  refine ⟨hname, ?_, ?_, ?_⟩
  · rw [State.pronoun, hreferent, hdefinite]
    rfl
  · rw [State.accusative, hreferent, hdefinite]
    rfl
  · rw [State.possessive, hreferent, hdefinite]
    rfl

/-- Events with marks and flags that are right for those before them are clear. -/
theorem clear_of_following (hmarked : Following MarkedAfter [] es)
    (hreferred : Following ReferredAfter [] es) : Clear es := by
  have hfirst : Following FirstAfter [] (mentions es) := (hmarked.imp fun _ _ h => h.first).flatMap
  constructor
  · intro before s after hes
    have hs : FirstAfter before s := hfirst.of_append hes
    rw [hs]
    simp
  · intro s hs
    rw [countP_of_first hfirst]
    have hany : (mentions es).any (·.object == s.object) = true :=
      List.any_eq_true.2 ⟨s, hs, BEq.rfl⟩
    rw [hany]
    rfl
  · intro before n after hes r s hs
    have hflag : s.isReferent = (lastSubject before).any (· == s.object) :=
      hreferred.of_append hes r s hs
    rw [hflag, Option.any_eq_true]
  · intro n hn r s hs hmark
    obtain ⟨before, after, hes⟩ := List.append_of_mem hn
    have hn : MarkedAfter before n := hmarked.of_append hes
    have hr := hn.elsewhere r s hs hmark
    obtain ⟨front, back, hmentioned⟩ := List.append_of_mem (mem_mentioned hs hr)
    have hnone : FirstAfter (mentions before ++ front) s := hn.first.of_append hmentioned
    have hflag : s.isReferent = (lastSubject before).any (· == s.object) :=
      hreferred.of_append hes r s hs
    have hreferent : s.isReferent = false := by
      rw [hflag, Option.any_eq_false]
      intro o ho
      obtain ⟨t, ht, rfl⟩ := exists_of_lastSubject ho
      -- the last subject has been mentioned, so it is not the object that is mentioned now
      rw [FirstAfter, hmark, eq_comm, Bool.not_eq_true', List.any_eq_false] at hnone
      exact Bool.eq_false_iff.2 (hnone t (List.mem_append_left _ ht))
    exact ⟨hr, hreferent, byName_of_first hmark hreferent⟩

end Clarity

/-! ## Marks -/

/-- The table of the node is in order, and no state in it is marked yet. -/
structure Unmarked (k : StoryKind) (a : Attributes) : Prop where
  wellFormed : WellFormed k a
  unmarked : a.EachState fun s => s.firstOccurrence = false

/-- The state that an entry of an event mentions. -/
def mention? (e : Role × Value) : Option State :=
  if e.1 = .subject ∨ e.1 = .object then e.2.state? else none

/-- The roster holds what has been mentioned. -/
def Noted (ms : List State) (occurred : Roster) : Prop :=
  ∀ o, occurred.contains o = ms.any (·.object == o)

section Marking

variable {es : List (Role × Value)} {e : Role × Value} {ms : List State} {occurred : Roster}
  {k : StoryKind} {a : Attributes} {cs : List StoryNode}

theorem lookup_of_index_lt {r : Role} (h : ∀ e ∈ es, r.index < e.1.index) : es.lookup r = none :=
  List.lookup_eq_none_iff.2 fun e he => bne_iff_ne.2 fun hr => Nat.lt_irrefl _ (hr ▸ h e he)

/-- A table in order lists what it mentions in reading order. -/
theorem filterMap_mention? (h : es.Pairwise fun e e' => e.1.index < e'.1.index) :
    es.filterMap mention? = ((es.lookup .subject).bind Value.state?).toList ++
      ((es.lookup .object).bind Value.state?).toList := by
  induction es with
  | nil => rfl
  | cons e es ih =>
    obtain ⟨he, hes⟩ := List.pairwise_cons.1 h
    have hrest := ih hes
    obtain ⟨r, v⟩ := e
    by_cases hsubject : r = .subject
    · subst hsubject
      have hother : (Role.object == Role.subject) = false := rfl
      rw [lookup_of_index_lt he] at hrest
      rw [List.filterMap_cons, hrest, List.lookup_cons_self, List.lookup_cons, hother]
      cases hv : v.state? <;> simp [mention?, hv]
    by_cases hobject : r = .object
    · subst hobject
      have hother : (Role.subject == Role.object) = false := rfl
      have hbefore : Role.subject.index < Role.object.index := by decide
      have hlater := lookup_of_index_lt fun e' he' => Nat.lt_trans hbefore (he e' he')
      rw [lookup_of_index_lt he, hlater] at hrest
      rw [List.filterMap_cons, hrest, List.lookup_cons, hother, hlater, List.lookup_cons_self]
      cases hv : v.state? <;> simp [mention?, hv]
    · have hskip : mention? (r, v) = none := if_neg fun h => h.elim hsubject hobject
      rw [List.filterMap_cons, hskip, hrest, List.lookup_cons, List.lookup_cons,
        beq_false_of_ne (Ne.symm hsubject), beq_false_of_ne (Ne.symm hobject)]

theorem mentioned_eq (h : WellFormed k a) :
    Node.mentioned ⟨k, a, cs⟩ = a.entries.filterMap mention? :=
  (filterMap_mention? h.ordered).symm

/-- What has been marked of entries after the mentions before them. -/
structure MarkedEntries (ms : List State) (p : List (Role × Value) × Roster) : Prop where
  first : Following FirstAfter ms (p.1.filterMap mention?)
  elsewhere : ∀ e ∈ p.1, ∀ s, e.2 = .state s → s.firstOccurrence = true →
    e.1 = .subject ∨ e.1 = .object
  noted : Noted (ms ++ p.1.filterMap mention?) p.2

theorem MarkedEntries.append {es' : List (Role × Value)} {occurred' : Roster}
    (h : MarkedEntries ms (es, occurred)) (k : MarkedEntries (ms ++ es.filterMap mention?) (es', occurred')) :
    MarkedEntries ms (es ++ es', occurred') := by
  refine ⟨?_, List.forall_mem_append.2 ⟨h.elsewhere, k.elsewhere⟩, ?_⟩
  · rw [List.filterMap_append]
    exact following_append.2 ⟨h.first, k.first⟩
  · rw [List.filterMap_append, ← List.append_assoc]
    exact k.noted

theorem MarkedEntries.silent (hnoted : Noted ms occurred) (hmention : mention? e = none)
    (he : ∀ s, e.2 = .state s → s.firstOccurrence = false) : MarkedEntries ms ([e], occurred) := by
  refine ⟨?_, fun e' he' s hs hmark => ?_, ?_⟩
  · rw [List.filterMap_cons, hmention]
    trivial
  · rw [List.mem_singleton.1 he'] at hs
    exact absurd ((he s hs).symm.trans hmark) Bool.false_ne_true
  · rw [List.filterMap_cons, hmention, List.filterMap_nil, List.append_nil]
    exact hnoted

theorem MarkedEntries.mention {r : Role} {s : State} (hr : r = .subject ∨ r = .object)
    (hfirst : FirstAfter ms s) (hnoted : Noted (ms ++ [s]) occurred) :
    MarkedEntries ms ([(r, .state s)], occurred) := by
  have hmention : [(r, Value.state s)].filterMap mention? = [s] := by
    rw [List.filterMap_cons, mention?, if_pos hr]
    rfl
  refine ⟨?_, fun e he _ _ _ => List.mem_singleton.1 he ▸ hr, ?_⟩
  · rw [hmention]
    exact ⟨hfirst, trivial⟩
  · rw [hmention]
    exact hnoted

/-- A state that is mentioned for the first time is marked, and its object is known from then on. -/
theorem markFirst_run (r : Role) (s : State) (occurred : Roster) :
    (markFirst r (.state s)).run occurred =
      if (r = .subject ∨ r = .object) ∧ occurred.contains s.object = false then
        (.state { s with firstOccurrence := true }, occurred.insert s.object)
      else (.state s, occurred) := by
  by_cases hr : r = .subject ∨ r = .object
  · cases hs : occurred.contains s.object <;> simp [markFirst, hr, hs] <;> rfl
  · simp [markFirst, hr]
    rfl

theorem markFirst_marks (r : Role) (v : Value) (hnoted : Noted ms occurred)
    (hv : ∀ s, v = .state s → s.firstOccurrence = false) :
    MarkedEntries ms ([(r, ((markFirst r v).run occurred).1)], ((markFirst r v).run occurred).2) := by
  cases v with
  | state s =>
    rw [markFirst_run]
    by_cases hr : r = .subject ∨ r = .object
    · by_cases hs : occurred.contains s.object = true
      · rw [if_neg fun h => Bool.false_ne_true (h.2.symm.trans hs)]
        have hold := hs
        rw [hnoted] at hold
        refine .mention hr ?_ fun o => ?_
        · rw [FirstAfter, hv s rfl, hold]
          rfl
        · rw [hnoted, List.any_append, List.any_cons, List.any_nil, Bool.or_false]
          by_cases ho : (s.object == o) = true
          · rw [← hnoted, ← Roster.contains_congr occurred ho, hs, Bool.true_or]
          · rw [Bool.not_eq_true] at ho
            rw [ho, Bool.or_false]
      · rw [Bool.not_eq_true] at hs
        rw [if_pos ⟨hr, hs⟩]
        refine .mention hr ?_ fun o => ?_
        · rw [FirstAfter, ← hnoted, hs]
          rfl
        · rw [Roster.contains_insert, hnoted, List.any_append, List.any_cons, List.any_nil,
            Bool.or_false, Bool.or_comm, BEq.comm]
    · rw [if_neg fun h => hr h.1]
      exact .silent hnoted (if_neg hr) hv
  | object o => exact .silent hnoted (ite_self none) hv
  | group g => exact .silent hnoted (ite_self none) hv

theorem marks_of_entries (hnoted : Noted ms occurred)
    (hes : ∀ e ∈ es, ∀ s, e.2 = .state s → s.firstOccurrence = false) :
    MarkedEntries ms ((es.mapM fun e : Role × Value => do
      let v ← markFirst e.1 e.2
      return (e.1, v)).run occurred) := by
  induction es generalizing ms occurred with
  | nil =>
    change MarkedEntries ms ([], occurred)
    refine ⟨trivial, fun _ he => absurd he List.not_mem_nil, ?_⟩
    rwa [List.filterMap_nil, List.append_nil]
  | cons e es ih =>
    obtain ⟨he, hes⟩ := List.forall_mem_cons.1 hes
    have hfirst := markFirst_marks e.1 e.2 hnoted he
    rw [List.mapM_cons]
    exact hfirst.append (ih hfirst.noted hes)

theorem stepsAlong_marks (ha : Unmarked k a) :
    Node.StepsAlong (·.event?.isSome) (fun before occurred => Noted (mentions before) occurred)
      MarkedAfter k (if k.event?.isSome then a.mapM markFirst else pure a) := by
  intro before occurred hoccurred
  have hmatched : a.Matched (fun _ => Value.Updated State.Marked)
    ((if k.event?.isSome then a.mapM markFirst else pure a : StateM Roster _).run occurred).1 :=
    (marks_matched k a occurred trivial).1
  have hentries := marks_of_entries hoccurred fun e he s hs =>
    ha.unmarked e.1 s (ha.wellFormed.get?_of_mem (by rw [← hs]; exact he))
  by_cases hevent : k.event?.isSome = true
  · simp only [hevent, ↓reduceIte] at hmatched ⊢
    intro cs
    have hmentioned : Node.mentioned ⟨k, _, cs⟩ = _ := mentioned_eq (ha.wellFormed.matched hmatched)
    refine ⟨⟨?_, fun r s hs => hentries.elsewhere (r, .state s) (mem_entries hs) s rfl⟩, ?_⟩
    · rw [hmentioned]
      exact hentries.first
    · rw [mentions, List.flatMap_append, List.flatMap_singleton, hmentioned]
      exact hentries.noted
  · simp only [hevent, Bool.false_eq_true, ↓reduceIte]
    exact hoccurred

end Marking

/-! ## Referents -/

section Referring

variable {k : StoryKind} {a : Attributes} {s s' : State} {n n' : StoryNode} {es es' : List StoryNode}
  {ms ms' : List State} {previous : Option Object}

/-- Flags do not change who is told of. -/
theorem object_flagged (a : Attributes) (r : Role) :
    (((a.map fun _ => Value.flagged previous).get? r).bind Value.state?).map (·.object) =
      ((a.get? r).bind Value.state?).map (·.object) := by
  rw [Attributes.get?_map]
  cases a.get? r with
  | none => rfl
  | some v => cases v <;> rfl

theorem eachState_flagged (a : Attributes) :
    (a.map fun _ => Value.flagged previous).EachState fun s =>
      s.isReferent = previous.any (· == s.object) := by
  intro r s hs
  rw [Attributes.get?_map] at hs
  obtain ⟨v, -, hv⟩ := Option.map_eq_some_iff.1 hs
  cases v with
  | state t =>
    cases hv
    rfl
  | _ => cases hv

/-- Only events have subjects. -/
theorem WellFormed.subject_eq_none (h : WellFormed k a) (hk : k.event? = none) :
    a.get? .subject = none := by
  cases hv : a.get? .subject with
  | none => rfl
  | some v =>
    have hdeclared : Role.subject ∈ NodeKind.roles k := h.declared _ (mem_entries hv)
    cases k with
    | event e => cases hk
    | _ => exact absurd hdeclared (by decide)

theorem stepsAlong_referents (ha : WellFormed k a) :
    Node.StepsAlong (·.event?.isSome) (fun before previous => previous = lastSubject before)
      ReferredAfter k (flagReferents a) := by
  rintro before _ rfl
  rw [flagReferents_run]
  split
  · intro cs
    refine ⟨eachState_flagged a, ?_⟩
    change _ = lastSubject _
    rw [lastSubject_concat]
    exact congrArg (·.or (lastSubject before)) (object_flagged a .subject).symm
  · rename_i hevent
    rw [ha.subject_eq_none (Option.not_isSome_iff_eq_none.1 hevent)]
    rfl

theorem updated_mentioned {F : State → State → Prop} (h : Redrawn (fun _ => Attributes.Updated F) n n') :
    Forall₂ F n.mentioned n'.mentioned := by
  have htoList : ∀ {x y : Option State}, Option.Rel F x y → Forall₂ F x.toList y.toList := by
    rintro x y (hss | -)
    · exact .cons hss .nil
    · exact .nil
  exact List.rel_append (htoList (stateIn_updated h .subject)) (htoList (stateIn_updated h .object))

theorem FirstAfter.referred (h : FirstAfter ms s) (hms : Forall₂ State.Referred ms ms')
    (hs : s.Referred s') : FirstAfter ms' s' := by
  obtain ⟨isReferent, rfl⟩ := hs
  have hobjects : ms'.map (·.object) = ms.map (·.object) := map_eq_of_forall₂ hms fun _ _ ht => by
    obtain ⟨_, rfl⟩ := ht
    rfl
  have hsame : ms'.any (·.object == s.object) = ms.any (·.object == s.object) := by
    have hany := congrArg (List.any · (· == s.object)) hobjects
    rwa [List.any_map, List.any_map] at hany
  exact h.trans (congrArg not hsame.symm)

/-- Flags do not change what is marked. -/
theorem MarkedAfter.referred (h : MarkedAfter es n)
    (hes : Forall₂ (Redrawn fun _ => Attributes.Updated State.Referred) es es')
    (hn : Redrawn (fun _ => Attributes.Updated State.Referred) n n') : MarkedAfter es' n' := by
  have hbefore : Forall₂ State.Referred (mentions es) (mentions es') :=
    List.rel_flatMap hes fun _ _ hm => updated_mentioned hm
  refine ⟨h.first.of_forall₂ (updated_mentioned hn) hbefore fun _ _ _ _ hpast hs hfirst =>
    hfirst.referred hpast hs, fun r s' hs' hmark => ?_⟩
  obtain ⟨s, hs, isReferent, rfl⟩ := exists_of_updated hn.attributes hs'
  exact h.elsewhere r s hs hmark

end Referring

/-! ## The editor -/

section Editing

variable {I : Context → Prop} [Lasting I] {story n out : StoryNode} {k : StoryKind} {a a' : Attributes}

theorem steady_unmarked : Steady Unmarked := fun _ _ _ h ha =>
  ⟨h.wellFormed.matched ha, h.unmarked.updated ha.changed fun _ _ hs hss => hss.2.trans hs⟩

theorem Unmarked.aside {e : Event} {v : Value} (h : Unmarked (.event e) a) (hv : a.get? .subject = some v)
    (e' : Event) : Unmarked (.event e') (({} : Attributes).set .subject v) :=
  ⟨wellFormed_empty.set List.mem_cons_self v, h.unmarked.aside hv⟩

theorem stable_unmarked : Stable (Node.Alone Unmarked) where
  same _ _ := rfl
  group _ _ _ := ⟨wellFormed_empty, Attributes.eachState_empty⟩
  aside ha hv e' _ := ha.aside hv e'

theorem opening_unmarked : Opening (Node.Alone Unmarked) (Node.Alone Unmarked) :=
  fun ha hv _ _ => ⟨ha, fun _ hc => hc, fun m hm => ⟨wellFormed_of_opening m hm,
    (eachState_of_opening (ha.unmarked.of_value hv) rfl m hm).2⟩⟩

theorem annotated_unmarked (hbare : story.Everywhere Bare) (htables : story.Everywhere WellFormed) :
    Ends (fun _ => True) (fun _ => True) (Node.Conforms (Node.Alone Unmarked) ())
      (Editor.annotated story) := by
  have hmerged := Node.everywhere_iff_conforms.1 (mergeAdjacentScenes_everywhere htables)
  have hN := covered_any story
  refine annotated_parts (I := fun _ => True)
    (A := fun n => (assignEmptyStates n).Everywhere Unmarked) (B := Node.Everywhere Unmarked)
    (C := Node.Conforms (Node.Alone Unmarked) ()) ?_ ?_ ?_ ?_
  · refine (freshened_yields (E := Node.Alone WellFormed) (fun _ _ => posable_wellFormed) hmerged hbare
      hN).imp fun n hn => ?_
    refine hn.everywhere fun k a _ ha => ⟨⟨ha.wellFormed, ha.eachState.imp fun s hs => ?_⟩, rfl⟩
    rw [hs.1]
  · exact fun n hn => steady_unmarked.dressed (steady_unmarked.located hn)
  · exact fun n hn => removeMoodModifiers_conforms stable_unmarked _ (assignMoods_conforms {}
      (fun _ k a a' _ ha ha' => steady_unmarked k a a' ha
        (ha'.imp fun _ _ _ hv => hv.imp fun _ _ => State.Tempered.akin))
      (Node.everywhere_iff_conforms.1 hn))
  · exact fun n hn => describeScenes_conforms stable_unmarked stable_unmarked opening_unmarked
      (fun _ _ _ _ ha => ha) _
      (removeDutyEvents_conforms _ (assignDuties_conforms {}
        (fun _ k a a' _ ha ha' => steady_unmarked k a a' ha
          (ha'.imp fun _ _ _ hv => hv.imp fun _ _ => State.Burdened.akin)) hn))

theorem described_marks (introduced : Roster) (h : n.Conforms (Node.Alone Unmarked) ()) :
    Yields I (fun p => p.1.Everywhere WellFormed ∧ Following MarkedAfter [] p.1.events)
      (Editor.described introduced n) := by
  refine (described_conforms stable_unmarked introduced h).imp fun p hp => ?_
  obtain ⟨n', hn', hp⟩ := hp
  rw [hp]
  constructor
  · exact Node.everywhere_iff_conforms.2 (assignFirstOccurrence_conforms {}
      (fun _ _ _ _ _ ha ha' => ha.wellFormed.matched ha') hn')
  · exact (Node.annotate_along (V := Unmarked) (fun _ _ _ ha => stepsAlong_marks ha) () [] {}
      (fun _ => rfl) n' (Node.everywhere_iff_conforms.2 hn')).1

theorem stable_wellFormed : Stable (Node.Alone WellFormed) where
  same _ _ := rfl
  group _ _ _ := wellFormed_empty
  aside _ _ _ _ := wellFormed_empty.set List.mem_cons_self _

theorem arranged_clear {N : Object → Prop} {n₀ : StoryNode} (chance : Nat) (hn : OpenStory N n₀ n)
    (htables : n.Everywhere WellFormed) (hmarked : Following MarkedAfter [] n.events) :
    Ends I (fun _ => False) (fun out => Clear out.events) (Editor.arranged chance n) := by
  refine (arranged_steps chance hn).imp (fun _ he => he) fun out hout => ?_
  obtain ⟨n₁, hsplit, hparagraphs, hprinted, hjoined⟩ := hout
  have htables₁ : Outcome (fun _ => True) _ (splitIntoParagraphs n.flatten) :=
    splitIntoParagraphs_conforms stable_wellFormed _
      (flatten_conforms stable_wellFormed n (Node.everywhere_iff_conforms.1 htables))
  rw [hsplit] at htables₁
  have hreferred : Following ReferredAfter [] (assignReferents none n₁).1.events :=
    (Node.annotate_along (V := WellFormed) (fun _ _ _ ha => stepsAlong_referents ha) () [] none
      rfl n₁ (Node.everywhere_iff_conforms.2 htables₁)).1
  have hscenes : StoryOf arrangement (assignReferents none n₁).1 := hprinted.storyOf fun _ _ h =>
    h.layout.sceneOf (by decide) fun _ hm => hm.body
  have hout : StoryOf arrangement out := hjoined.storyOf fun _ _ h => h.layout.scene
  have hevents : (assignReferents none n₁).1.events = out.events :=
    hjoined.told hscenes hout (fun _ _ h => h.events) rfl fun h k => by rw [h, k]
  have hflagged := hprinted.events hn.story hscenes fun _ _ h => h.events
  rw [← hevents]
  exact clear_of_following (hmarked.of_forall₂ hflagged .nil fun _ _ _ _ hpast hm h =>
    h.referred hpast hm) hreferred

/-- What comes out of the editor refers clearly. -/
theorem edit_mentions (e : Editor) (narration : Narration) (hscenes : StoryOf sequences story)
    (hbare : story.Everywhere Bare) (htables : story.Everywhere WellFormed)
    (hout : ((e.edit story).run narration).1.1 = .ok out) : Clear out.events := by
  have hannotated := (annotated_opens hscenes hbare).and (annotated_unmarked hbare htables)
  have hdescribed : ∀ n : StoryNode, OpenStory (fun _ => True) (mergeAdjacentScenes story) n ∧
      n.Conforms (Node.Alone Unmarked) () → Yields (fun _ => True)
        (fun p => OpenStory (fun _ => True) (mergeAdjacentScenes story) p.1 ∧
          p.1.Everywhere WellFormed ∧ Following MarkedAfter [] p.1.events)
        (Editor.described e.introduced n) := fun n hn =>
    ((described_yields e.introduced hn.1).and (described_marks e.introduced hn.2)).imp fun _ hp =>
      ⟨hp.1.1, hp.2⟩
  obtain ⟨-, d, -, -, hclear⟩ := exists_of_edit (O := fun _ out => Clear out.events) e narration
    hannotated hdescribed (fun _ p _ hp => (arranged_clear e.conjoinChance hp.1 hp.2.1 hp.2.2).imp
      (fun _ he => he.elim) fun _ h => h) hout
  exact hclear

/-- In the two scenes on the bridge the heroine and her friend are named when they first act. -/
theorem edit_mentions_tableau :
    StoryOf sequences tableau ∧ tableau.Everywhere Bare ∧ tableau.Everywhere WellFormed ∧
      ∃ out, (((⟨50, {}⟩ : Editor).edit tableau).run stillness).1.1 = .ok out ∧ Clear out.events := by
  obtain ⟨out, hout⟩ := exists_edit_tableau _ _
  exact ⟨tableau_draft.scenes, tableau_draft.bare, tableau_wellFormed, out, hout,
    edit_mentions _ _ tableau_draft.scenes tableau_draft.bare tableau_wellFormed hout⟩

end Editing

end SpaceOpera
