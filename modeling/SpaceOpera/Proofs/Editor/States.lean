import SpaceOpera.Editor.States
import SpaceOpera.Proofs.Story.Shape

/-!
# What the annotations of the editor do

Every annotation of the editor leaves groups alone, turns a plain object into a state of it at most, and
changes a state of an object into another one of the same object.  The exact change is said by a relation
between states for each of them; from the costumes on, what a state knows already it keeps (`State.Grows`).
-/

namespace SpaceOpera

open List (Forall₂)

/-- The groups of a story that is not in paragraphs yet. -/
abbrev sequences : List StoryKind := [.eventSequence]

theorem isGroup_of_mem_sequences : ∀ k ∈ sequences, k.isGroup = true := by decide

/-! ## Changes of states -/

/-- A state becomes another one that `F` relates to it; any other value stays. -/
def Value.Updated (F : State → State → Prop) : Value → Value → Prop
  | .state s, v' => ∃ s', v' = .state s' ∧ F s s'
  | v, v' => v' = v

/-- The values of a node, with every state changed as `F` says. -/
def Attributes.Updated (F : State → State → Prop) (a a' : Attributes) : Prop :=
  a.Changed (fun _ => Value.Updated F) a'

/-- The second state is of the same object and knows all that the first does. -/
structure State.Grows (s s' : State) : Prop where
  object : s'.object = s.object
  location : s'.location = s.location
  torso : s.torso.isSome = true → s'.torso.isSome = true
  feet : s.feet.isSome = true → s'.feet.isSome = true
  mood : s.mood.isSome = true → s'.mood.isSome = true

/-- A character is moved to the place, if there is one. -/
def State.Moved (place : Option Object) (s s' : State) : Prop :=
  s'.object = s.object ∧
    (s.object.isCharacter = true → ∀ o, place = some o → s'.location = some o)

/-- A character gets clothes. -/
def State.Dressed (s s' : State) : Prop :=
  s.Grows s' ∧
    (s.object.isCharacter = true → s'.torso.isSome = true ∧ s'.feet.isSome = true)

/-- A character gets a mood. -/
def State.Moody (s s' : State) : Prop :=
  s.Grows s' ∧ (s.object.isCharacter = true → s'.mood.isSome = true)

/-- Nothing but the location changes, and a character gets the place for it, if there is one. -/
def State.Located (place : Option Object) (s s' : State) : Prop :=
  ∃ location, s' = { s with location } ∧
    (s.object.isCharacter = true → ∀ o, place = some o → location = some o)

/-- A character gets a mood, an optimist no other than a happy one, and nothing else changes. -/
def State.Tempered (s s' : State) : Prop :=
  s.object.isCharacter = false ∧ s' = s ∨
    ∃ m, s' = { s with mood := some m } ∧ (s.object.isOptimist = true → m = .happy)

/-- Nothing but the duties changes. -/
def State.Burdened (s s' : State) : Prop :=
  ∃ duties, s' = { s with duties }

/-- Nothing but the mark of a first mention changes. -/
def State.Marked (s s' : State) : Prop :=
  ∃ firstOccurrence, s' = { s with firstOccurrence }

/-- Nothing but the flag of a referent changes. -/
def State.Referred (s s' : State) : Prop :=
  ∃ isReferent, s' = { s with isReferent }

/-- The value with a state flagged if it is of the subject before. -/
def Value.flagged (previous : Option Object) : Value → Value
  | .state s => .state { s with isReferent := previous.any (· == s.object) }
  | v => v

/-- Events of one kind with the same objects, be they plain or in states. -/
structure Alike (n n' : StoryNode) : Prop where
  kind : n'.kind = n.kind
  objectIn : ∀ r, n'.objectIn r = n.objectIn r

theorem State.Grows.refl (s : State) : s.Grows s :=
  ⟨rfl, rfl, id, id, id⟩

section Changes

variable {s s' : State}

theorem State.Located.moved {place : Option Object} (h : s.Located place s') : s.Moved place s' := by
  obtain ⟨location, rfl, hplace⟩ := h
  exact ⟨rfl, hplace⟩

theorem State.Tempered.moody (h : s.Tempered s') : s.Moody s' := by
  rcases h with ⟨hs, rfl⟩ | ⟨m, rfl, -⟩
  · exact ⟨.refl _, fun hc => absurd hc (by rw [hs]; exact Bool.false_ne_true)⟩
  · exact ⟨⟨rfl, rfl, id, id, fun _ => rfl⟩, fun _ => rfl⟩

theorem State.Burdened.grows (h : s.Burdened s') : s.Grows s' := by
  obtain ⟨duties, rfl⟩ := h
  exact ⟨rfl, rfl, id, id, id⟩

theorem State.Marked.grows (h : s.Marked s') : s.Grows s' := by
  obtain ⟨firstOccurrence, rfl⟩ := h
  exact ⟨rfl, rfl, id, id, id⟩

theorem State.Referred.grows (h : s.Referred s') : s.Grows s' := by
  obtain ⟨isReferent, rfl⟩ := h
  exact ⟨rfl, rfl, id, id, id⟩

end Changes

section Values

variable {F : State → State → Prop}

theorem Value.updated_refl (h : ∀ s, F s s) (v : Value) : v.Updated F v := by
  cases v with
  | state s => exact ⟨s, rfl, h s⟩
  | _ => rfl

theorem Value.Updated.imp {G : State → State → Prop} {v v' : Value} (h : v.Updated F v')
    (hFG : ∀ s s', F s s' → G s s') : v.Updated G v' := by
  cases v with
  | state s =>
    obtain ⟨s', hv, hss⟩ := h
    exact ⟨s', hv, hFG s s' hss⟩
  | _ => exact h

theorem Value.updated_mapCharacter {f : State → State}
    (h : ∀ s, s.object.isCharacter = true → F s (f s))
    (h' : ∀ s, s.object.isCharacter = false → F s s) (v : Value) :
    v.Updated F (v.mapCharacter f) := by
  cases v with
  | state s =>
    unfold Value.mapCharacter
    by_cases hs : s.object.isCharacter = true
    · exact ⟨f s, if_pos hs, h s hs⟩
    · exact ⟨s, if_neg hs, h' s (Bool.eq_false_iff.2 hs)⟩
  | _ => rfl

theorem Value.updated_mapCharacterM {m : Type → Type} [Monad m] [LawfulMonad m] (J : Judgement m)
    {f : State → m State} {v : Value}
    (h : ∀ s, v = .state s → s.object.isCharacter = true → J.Holds (F s) (f s))
    (h' : ∀ s, s.object.isCharacter = false → F s s) : J.Holds (v.Updated F) (v.mapCharacterM f) := by
  cases v with
  | state s =>
    unfold Value.mapCharacterM
    by_cases hs : s.object.isCharacter = true
    · simp only [hs, ↓reduceIte, map_eq_pure_bind]
      exact J.bind (h s rfl hs) fun s' hs' => J.pure ⟨s', rfl, hs'⟩
    · simp only [hs]
      exact J.pure ⟨s, rfl, h' s (Bool.eq_false_iff.2 hs)⟩
  | _ => exact J.pure rfl

end Values

/-! ## Scenery -/

/-- One of the things in a setting that stay where they are. -/
def IsScenery (setting : Option Object) (o : Object) : Prop :=
  ∃ p, setting.bind Object.place? = some p ∧ o ∈ p.nearby ∧ o.takeable = false

/-- A pose is at a piece of scenery now; nothing else has changed, nor has a pose without any scenery. -/
def Posed (setting : Option Object) (k : StoryKind) (a a' : Attributes) : Prop :=
  a' = a ∧ (k = .event .poseDescription → ∀ o, ¬IsScenery setting o) ∨
    k = .event .poseDescription ∧ ∃ o, IsScenery setting o ∧ a' = a.set .object (.object o)

section Scenery

variable {I : Context → Prop} [Lasting I] {ks : List StoryKind} {n : StoryNode}

/-- What is picked is scenery, and where there is some, some is picked. -/
theorem pickSceneryOf_yields (setting : Option Object) :
    Yields I (fun x => (∀ o, x = some o → IsScenery setting o) ∧
      (x = none → ∀ p, setting.bind Object.place? = some p → p.hasScenery = false))
      (pickSceneryOf setting) := by
  unfold pickSceneryOf
  cases hp : setting.bind Object.place? with
  | none => exact Yields.pure ⟨nofun, nofun⟩
  | some p =>
    refine (Roll.choose_yields (I := I) (p.nearby.filter (!·.takeable))).imp fun x hx => ?_
    split at hx
    · rename_i hnone
      subst hx
      refine ⟨nofun, fun _ q hq => ?_⟩
      obtain rfl := Option.some.inj hq
      unfold Place.hasScenery
      rw [List.any_eq_false]
      exact List.filter_eq_nil_iff.1 hnone
    · obtain ⟨o, ho, rfl⟩ := hx
      obtain ⟨hmem, htakeable⟩ := List.mem_filter.1 ho
      refine ⟨fun o' ho' => ?_, nofun⟩
      obtain rfl := Option.some.inj ho'
      exact ⟨p, hp, hmem, by simpa using htakeable⟩

theorem enterScene_of_ne {k : StoryKind} (a : Attributes) (r : Option Object) (h : k ≠ .scene) :
    enterScene k a r = r :=
  if_neg h

theorem poseAt_yields (setting : Option Object) (k : StoryKind) (a : Attributes) :
    Yields I (Posed setting k a) (poseAt setting k a) := by
  unfold poseAt
  split
  · rename_i hk
    refine (pickSceneryOf_yields setting).bind fun x hx => Yields.pure ?_
    cases x with
    | none =>
      refine Or.inl ⟨rfl, fun _ o ho => ?_⟩
      obtain ⟨p, hp, hmem, htakeable⟩ := ho
      have hnone := hx.2 rfl p hp
      unfold Place.hasScenery at hnone
      rw [List.any_eq_false] at hnone
      exact hnone o hmem (by rw [htakeable]; rfl)
    | some o => exact Or.inr ⟨hk, o, hx.1 o rfl, rfl⟩
  · exact Yields.pure (Or.inl ⟨rfl, fun hk => absurd hk ‹_›⟩)

theorem resolveScenery_yields (hn : StoryOf sequences n) :
    Yields I (Lowered (fun c => Annotated sequences (Posed (c.objectIn .setting)) c) n)
      (resolveScenery none n) :=
  annotate_story (A := Posed) (Judgement.yields I) isGroup_of_mem_sequences
    (fun _ a r h => enterScene_of_ne a r h) poseAt_yields hn

end Scenery

/-! ## Empty states -/

section EmptyStates

variable {n : StoryNode}

theorem mem_entries {a : Attributes} {r : Role} {v : Value} (h : a.get? r = some v) :
    (r, v) ∈ a.entries := by
  obtain ⟨front, back, hsplit, -⟩ := List.lookup_eq_some_iff.1 h
  rw [hsplit]
  exact List.mem_append_right front List.mem_cons_self

theorem mem_bareObjects {n : StoryNode} {r : Role} {o : Object} (h : n.get? r = some (.object o)) :
    o ∈ bareObjects n :=
  List.mem_filterMap.2 ⟨(r, .object o), mem_entries h, rfl⟩

/-- What a ledger of first objects holds is one of the objects, with the names that it is asked for. -/
theorem first_of_foldl {os : List Object} {given : Ledger Object} {S : Object → Prop}
    (hos : ∀ o ∈ os, S o)
    (hgiven : ∀ o first, given.get? o = some first → (first == o) = true ∧ S first) (o : Object) :
    let given' := os.foldl
      (fun given o => if (given.get? o).isSome then given else given.insert o o) given
    (∀ first, given'.get? o = some first → (first == o) = true ∧ S first) ∧
      ((given.get? o).isSome = true ∨ o ∈ os → (given'.get? o).isSome = true) := by
  induction os generalizing given with
  | nil => exact ⟨hgiven o, fun h => h.elim id fun hm => absurd hm List.not_mem_nil⟩
  | cons p os ih =>
    obtain ⟨hp, hos⟩ := List.forall_mem_cons.1 hos
    rw [List.foldl_cons]
    by_cases hs : (given.get? p).isSome = true
    · simp only [hs, ↓reduceIte]
      obtain ⟨hfirst, hsome⟩ := ih hos hgiven
      refine ⟨hfirst, fun h => hsome ?_⟩
      rcases h with h | h
      · exact Or.inl h
      rcases List.mem_cons.1 h with rfl | h
      · exact Or.inl hs
      · exact Or.inr h
    · simp only [hs, Bool.false_eq_true, ↓reduceIte]
      have hinserted : ∀ o first, (given.insert p p).get? o = some first →
          (first == o) = true ∧ S first := by
        intro o first ho
        rw [Ledger.get?_insert] at ho
        split at ho
        · rename_i hop
          obtain rfl := Option.some.inj ho
          exact ⟨BEq.symm hop, hp⟩
        · exact hgiven o first ho
      obtain ⟨hfirst, hsome⟩ := ih hos hinserted
      refine ⟨hfirst, fun h => hsome ?_⟩
      rw [Ledger.get?_insert]
      by_cases hop : (o == p) = true
      · exact Or.inl (by rw [if_pos hop]; rfl)
      · rw [if_neg hop]
        refine h.imp_right fun hm => ?_
        rcases List.mem_cons.1 hm with rfl | hm
        · exact absurd BEq.rfl hop
        · exact hm

/-- What is first given for an object has its names and is a plain object of the story. -/
theorem eq_of_firstGiven {o first : Object} (h : (firstGiven n).get? o = some first) :
    (first == o) = true ∧ ∃ m ∈ n.preorder, first ∈ bareObjects m :=
  (first_of_foldl (S := fun o => ∃ m ∈ n.preorder, o ∈ bareObjects m)
    (fun _ ho => List.mem_flatMap.1 ho) (fun _ _ h => nomatch (Ledger.get?_empty _).symm.trans h) o).1 first h

theorem isSome_firstGiven {m : StoryNode} {o : Object} (hm : m ∈ n.preorder)
    (ho : o ∈ bareObjects m) : ((firstGiven n).get? o).isSome = true :=
  (first_of_foldl (S := fun _ => True) (fun _ _ => trivial) (fun _ _ h => nomatch (Ledger.get?_empty _).symm.trans h) o).2
    (Or.inr (List.mem_flatMap.2 ⟨m, hm, ho⟩))

theorem assignEmptyStates_lowered (hn : StoryOf sequences n) :
    Lowered (Annotated sequences fun _ a a' => a' = a.map fun _ v => v.toState (firstGiven n)) n
      (assignEmptyStates n) :=
  annotateAll_story Judgement.plain isGroup_of_mem_sequences (fun _ _ => rfl) hn

end EmptyStates

/-! ## Locations, moods and duties -/

section Annotations

variable {ks : List StoryKind} {n : StoryNode}

theorem locations_matched (place : Option Object) (a : Attributes) :
    a.Matched (fun _ => Value.Updated (State.Located place)) (match place with
      | some o => a.map fun _ => Value.mapCharacter fun s => { s with location := some o }
      | none => a) := by
  cases place with
  | none =>
    have hrefl : ∀ s : State, s.Located none s := fun s => ⟨s.location, rfl, nofun⟩
    exact .refl (fun _ => Value.updated_refl hrefl) a
  | some o =>
    have hmoved : ∀ s : State, s.object.isCharacter = true →
        s.Located (some o) { s with location := some o } := fun s _ => ⟨some o, rfl, fun _ _ => id⟩
    refine Attributes.matched_map (fun _ => Value.updated_mapCharacter hmoved fun s hs => ?_) a
    exact ⟨s.location, rfl, fun h => absurd h (by rw [hs]; exact Bool.false_ne_true)⟩

theorem assignLocations_lowered (hn : StoryOf sequences n) :
    Lowered (fun c => Annotated sequences
      (fun _ => Attributes.Updated (State.Moved (c.objectIn .setting))) c) n
      (assignLocations none n) :=
  annotate_story (A := fun place _ => Attributes.Updated (State.Moved place)) Judgement.plain
    isGroup_of_mem_sequences (fun _ a r h => enterScene_of_ne a r h) (fun place _ a =>
      ((locations_matched place a).imp fun _ _ _ h => h.imp fun _ _ => State.Located.moved).changed) hn

/-- Whoever is asked for the mood is in the one that is written down, or happy; an optimist is written down
to be happy. -/
theorem moodOf_run (o : Object) (r : MoodRecord) : ∃ r' : MoodRecord,
    (moodOf o).run r = ((r'.moods.get? o).getD .happy, r') ∧ ∀ who,
      (r'.moods.get? who).getD .happy = if o.isOptimist = true ∧ (who == o) = true then .happy
        else (r.moods.get? who).getD .happy := by
  refine ⟨_, rfl, fun who => ?_⟩
  have hassumed : ∀ moods : Ledger Mood, moods.get? o = none →
      ((moods.insert o .happy).get? who).getD .happy = (moods.get? who).getD .happy := by
    intro moods hnone
    rw [Ledger.get?_insert]
    split
    · rename_i hwho
      rw [Ledger.get?_congr moods hwho, hnone]
      rfl
    · rfl
  cases ho : o.isOptimist <;> cases hmood : r.moods.get? o
  · simp [hassumed _ hmood]
  · simp
  · simp only [↓reduceIte, Ledger.get?_insert]
    by_cases hwho : (who == o) = true <;> simp [hwho]
  · simp only [↓reduceIte, Ledger.get?_insert]
    by_cases hwho : (who == o) = true <;> simp [hwho]

theorem moods_matched (k : StoryKind) (a : Attributes) :
    Yields (fun _ => True) (a.Matched fun _ => Value.Updated State.Tempered) (do
      recordMood k a
      a.mapM fun _ => Value.mapCharacterM fun s => do
        let mood ← moodOf s.object
        return { s with mood := some mood }) := by
  refine (Yields.anything _).bind fun _ _ => ?_
  refine Attributes.mapM_matched (Judgement.yields fun _ => True) fun e _ => ?_
  have hother : ∀ s : State, s.object.isCharacter = false → s.Tempered s := fun s hs =>
    Or.inl ⟨hs, rfl⟩
  refine Value.updated_mapCharacterM (Judgement.yields fun _ => True) (fun s _ _ => ?_) hother
  refine Yields.bind (P := fun mood => s.object.isOptimist = true → mood = .happy) ?_ fun mood hmood =>
    Yields.pure (Or.inr ⟨mood, rfl, hmood⟩)
  intro r _
  obtain ⟨r', hr', hmood⟩ := moodOf_run s.object r
  refine ⟨fun hs => ?_, trivial⟩
  rw [hr']
  exact (hmood s.object).trans (if_pos ⟨hs, BEq.rfl⟩)

theorem assignMoods_lowered (moods : Ledger Mood) (hn : StoryOf sequences n) :
    Lowered (Annotated sequences fun _ => Attributes.Updated State.Tempered) n
      (assignMoods moods n).1 :=
  (annotateAll_story (Judgement.yields fun _ => True) isGroup_of_mem_sequences
    (fun k a => (moods_matched k a).imp fun _ => Attributes.Matched.changed) hn
    (MoodRecord.mk moods []) trivial).1

theorem duties_matched (k : StoryKind) (a : Attributes) :
    Yields (fun _ => True) (a.Matched fun _ => Value.Updated State.Burdened) (do
      recordDuty k a
      let record ← get
      return a.map fun _ => Value.mapCharacter fun s =>
        { s with duties := record.openOf s.object }) := by
  refine (Yields.anything _).bind fun _ _ => (Yields.anything _).bind fun record _ => ?_
  refine Yields.pure (Attributes.matched_map (fun _ => ?_) a)
  exact Value.updated_mapCharacter (fun s _ => ⟨_, rfl⟩) fun s _ => ⟨s.duties, rfl⟩

theorem assignDuties_lowered (duties : Ledger Roster) (hn : StoryOf sequences n) :
    Lowered (Annotated sequences fun _ => Attributes.Updated State.Burdened) n
      (assignDuties duties n).1 :=
  (annotateAll_story (Judgement.yields fun _ => True) isGroup_of_mem_sequences
    (fun k a => (duties_matched k a).imp fun _ => Attributes.Matched.changed) hn
    (DutyRecord.mk duties []) trivial).1

theorem marks_matched (k : StoryKind) (a : Attributes) :
    Yields (fun _ => True) (a.Matched fun _ => Value.Updated State.Marked)
      (if k.event?.isSome then a.mapM markFirst else pure a) := by
  have hrefl : ∀ s : State, s.Marked s := fun s => ⟨s.firstOccurrence, rfl⟩
  refine Yields.ite (fun _ => ?_) fun _ =>
    Yields.pure (.refl (fun _ => Value.updated_refl hrefl) a)
  refine Attributes.mapM_matched (Judgement.yields fun _ => True) fun e _ => ?_
  obtain ⟨role, v⟩ := e
  cases v with
  | state s =>
    refine (Yields.anything _).bind fun occurred _ => Yields.ite (fun _ => ?_) fun _ => ?_
    · exact (Yields.anything _).bind fun _ _ => Yields.pure ⟨_, rfl, true, rfl⟩
    · exact Yields.pure ⟨s, rfl, hrefl s⟩
  | _ => exact Yields.pure rfl

theorem assignFirstOccurrence_lowered (occurred : Roster) (hn : StoryOf sequences n) :
    Lowered (Annotated sequences fun _ => Attributes.Updated State.Marked) n
      (assignFirstOccurrence occurred n).1 :=
  (annotateAll_story (Judgement.yields fun _ => True) isGroup_of_mem_sequences
    (fun k a => (marks_matched k a).imp fun _ => Attributes.Matched.changed) hn occurred trivial).1

theorem flagReferents_run (a : Attributes) (previous : Option Object) :
    (flagReferents a).run previous = (a.map fun _ => Value.flagged previous,
      (((a.get? .subject).bind Value.state?).map (·.object)).or previous) := by
  unfold flagReferents
  cases (a.get? .subject).bind Value.state? with
  | none => rfl
  | some s => rfl

theorem referents_matched (a : Attributes) :
    Yields (fun _ => True) (a.Matched fun _ => Value.Updated State.Referred) (flagReferents a) := by
  have hflagged : ∀ (previous : Option Object) (v : Value),
      v.Updated State.Referred (v.flagged previous) := by
    intro previous v
    cases v with
    | state s => exact ⟨_, rfl, _, rfl⟩
    | _ => rfl
  intro previous _
  rw [flagReferents_run]
  exact ⟨Attributes.matched_map (fun _ => hflagged previous) a, trivial⟩

theorem assignReferents_lowered (hks : ∀ k ∈ ks, k.isGroup = true) (referent : Option Object)
    (hn : StoryOf ks n) :
    Lowered (Annotated ks fun _ => Attributes.Updated State.Referred) n
      (assignReferents referent n).1 :=
  (annotateAll_story (Judgement.yields fun _ => True) hks
    (fun _ a => (referents_matched a).imp fun _ => Attributes.Matched.changed) hn referent trivial).1

end Annotations

/-! ## Costumes -/

section Costumes

variable {I : Context → Prop} [Lasting I] {ks : List StoryKind} {n c : StoryNode}

/-- Whatever clothes the ledger holds. -/
abbrev wearing (I : Context → Prop) : Judgement (StateT (Ledger Outfit) Roll) :=
  Judgement.drawing I (Ledger Outfit)

theorem Garment.roll_yields (g : Garment) (c : Character) :
    Yields I (fun _ => True) (Garment.roll g c) := by
  unfold Garment.roll Wardrobe.rollAdjective Wardrobe.rollDecoration
  refine Yields.bind (P := fun _ => True) ?_ fun _ _ => ?_
  · refine (Roll.chance_yields _).bind fun _ _ => ?_
    refine Yields.ite (fun _ => Yields.pure trivial) fun _ => ?_
    refine (Roll.chance_yields _).bind fun _ _ => ?_
    refine Yields.ite (fun _ => ?_) fun _ => Yields.pure trivial
    exact (Roll.word_yields _).bind fun _ _ => Yields.pure trivial
  refine (Roll.word_yields _).bind fun _ _ => ?_
  refine (Roll.word_yields _).bind fun _ _ => ?_
  refine (Roll.choose_yields _).bind fun _ _ => ?_
  refine Yields.bind (P := fun _ => True) ?_ fun _ _ => Yields.pure trivial
  refine (Roll.chance_yields _).bind fun _ _ => ?_
  refine Yields.ite (fun _ => ?_) fun _ => Yields.pure trivial
  refine (Roll.word_yields _).bind fun _ _ => ?_
  refine (Roll.word_yields _).bind fun _ _ => ?_
  refine (Roll.word_yields _).bind fun _ _ => ?_
  exact (Roll.word_yields _).bind fun _ _ => Yields.pure trivial

theorem Outfit.roll_yields (c : Character) : Yields I (fun _ => True) (Outfit.roll c) := by
  unfold Outfit.roll
  refine (Garment.roll_yields _ c).bind fun _ _ => ?_
  refine (Roll.chance_yields _).bind fun _ _ => Yields.ite (fun _ => ?_) fun _ => ?_
  · refine (Garment.roll_yields _ c).bind fun _ _ => ?_
    exact (Garment.roll_yields _ c).bind fun _ _ => Yields.pure trivial
  · exact (Garment.roll_yields _ c).bind fun _ _ => Yields.pure trivial

theorem outfitOf_holds (o : Object) (c : Character) :
    (wearing I).Holds (fun _ => True) (outfitOf o c) := by
  have hroll : (Judgement.yields I).Holds (fun _ => True) (Outfit.roll c) := Outfit.roll_yields c
  unfold outfitOf
  refine (wearing I).bind (Judgement.carrying_get _) fun outfits _ => ?_
  split
  · exact (wearing I).pure trivial
  · refine (wearing I).bind (Judgement.carrying_lift _ hroll) fun outfit _ => ?_
    exact (wearing I).bind (Judgement.carrying_set _ _) fun _ _ => (wearing I).pure trivial

theorem dress_holds (v : Value) : (wearing I).Holds (v.Updated State.Dressed) (dress v) := by
  unfold dress
  cases v with
  | state s =>
    cases hc : s.object.character? with
    | none =>
      simp only [hc]
      refine (wearing I).pure ⟨s, rfl, .refl s, fun h => ?_⟩
      rw [Object.isCharacter, hc] at h
      exact absurd h Bool.false_ne_true
    | some c =>
      simp only [hc]
      refine (wearing I).bind (outfitOf_holds _ c) fun outfit _ => (wearing I).pure ?_
      exact ⟨_, rfl, ⟨rfl, rfl, fun _ => rfl, fun _ => rfl, id⟩, fun _ => ⟨rfl, rfl⟩⟩
  | _ => exact (wearing I).pure rfl

theorem dressed_holds (a : Attributes) :
    (wearing I).Holds (a.Updated State.Dressed) (a.mapM fun _ => dress) :=
  (wearing I).imp (Attributes.mapM_matched (wearing I) fun e _ => dress_holds e.2)
    fun _ => Attributes.Matched.changed

theorem assignCostumesList_eq {cs : List StoryNode} {f : StoryKind → Attributes →
    StateT (Ledger Outfit) Roll Attributes}
    (h : ∀ c ∈ cs, assignCostumes c = Node.annotate (fun _ _ r => r) (fun _ => f) () c) :
    assignCostumesList cs = Node.annotateList (fun _ _ r => r) (fun _ => f) () cs := by
  induction cs with
  | nil => rw [assignCostumesList, Node.annotateList]
  | cons c cs ih =>
    rw [assignCostumesList, Node.annotateList, h c List.mem_cons_self,
      ih fun d hd => h d (List.mem_cons_of_mem c hd)]

/-- Within a scene, the costumes are an annotation. -/
theorem assignCostumes_eq_annotate (hks : ∀ k ∈ ks, k.isGroup = true) (hn : Body ks n) :
    assignCostumes n = n.annotateAll fun _ a => a.mapM fun _ => dress := by
  unfold Node.annotateAll
  induction hn with
  | beat e a =>
    rw [assignCostumes, assignCostumesList, Node.annotate, Node.annotateList]
    simp
  | @group k cs hk a h ih =>
    have hs := StoryKind.ne_scene_of_isGroup (hks k hk)
    rw [assignCostumes, assignCostumesList_eq ih, Node.annotate]
    simp [hs]

theorem assignCostumes_scene (hc : SceneOf sequences c) :
    (wearing I).Holds (Annotated sequences (fun _ => Attributes.Updated State.Dressed) c)
      (assignCostumes c) := by
  have hks := isGroup_of_mem_sequences
  obtain ⟨k, a, cs⟩ := c
  obtain rfl : k = .scene := hc.kind
  have hcs := hc.body
  rw [assignCostumes, assignCostumesList_eq fun m hm => assignCostumes_eq_annotate hks (hcs m hm)]
  simp only [↓reduceIte]
  refine (wearing I).bind (Judgement.carrying_get _) fun outer _ => ?_
  refine (wearing I).bind (Judgement.carrying_set _ _) fun _ _ => ?_
  refine (wearing I).bind (dressed_holds a) fun a' ha' => ?_
  refine (wearing I).bind (Node.annotateList_holds (wearing I) fun m hm =>
    annotate_body (A := fun _ => Attributes.Updated State.Dressed) (wearing I) hks
      (fun _ _ _ _ => rfl) (fun _ => dressed_holds)
      (hcs m hm)) fun cs' hcs' => ?_
  refine (wearing I).bind (Judgement.carrying_set _ _) fun _ _ => (wearing I).pure ?_
  exact .of_children hc rfl ha' (fun _ _ h => List.rel_flatMap h fun _ _ h => h) hcs'

theorem assignCostumesList_holds {cs : List StoryNode} (hcs : ∀ c ∈ cs, SceneOf sequences c) :
    (wearing I).Holds
      (Forall₂ (Annotated sequences fun _ => Attributes.Updated State.Dressed) cs)
      (assignCostumesList cs) := by
  induction cs with
  | nil =>
    rw [assignCostumesList]
    exact (wearing I).pure .nil
  | cons c cs ih =>
    obtain ⟨hc, hcs⟩ := List.forall_mem_cons.1 hcs
    rw [assignCostumesList]
    refine (wearing I).bind (assignCostumes_scene hc) fun c' hc' => ?_
    refine (wearing I).bind (ih hcs) fun cs' hcs' => ?_
    exact (wearing I).pure (.cons hc' hcs')

theorem assignCostumes_holds (hn : StoryOf sequences n) :
    (wearing I).Holds (Lowered (Annotated sequences fun _ => Attributes.Updated State.Dressed) n)
      (assignCostumes n) := by
  obtain ⟨k, a, cs⟩ := n
  obtain rfl : k = .story := hn.kind
  rw [assignCostumes]
  simp only [reduceCtorEq, ↓reduceIte]
  refine (wearing I).bind (Judgement.carrying_get _) fun outer _ => ?_
  refine (wearing I).bind (dressed_holds a) fun a' _ => ?_
  refine (wearing I).bind (assignCostumesList_holds hn.scenes) fun cs' hcs' => ?_
  exact (wearing I).pure ⟨rfl, hcs'⟩

theorem assignCostumes_yields (hn : StoryOf sequences n) (outfits : Ledger Outfit) :
    Yields I (fun p => Lowered (Annotated sequences fun _ => Attributes.Updated State.Dressed) n p.1)
      ((assignCostumes n).run outfits) :=
  assignCostumes_holds hn outfits

end Costumes

end SpaceOpera
