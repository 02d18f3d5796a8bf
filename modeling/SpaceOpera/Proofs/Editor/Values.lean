import SpaceOpera.Proofs.Editor.Preservation
import SpaceOpera.Proofs.Editor.Throughout

/-!
# The values of all nodes

A story comes with plain objects and groups in tables that list the roles of a node in their order
(`WellFormed`).  Once every plain object has become a state, the states are fresh ones, of the objects that
stand for their names (`Freshened`); from then on the annotations change states in their places.
-/

namespace SpaceOpera

open List (Forall₂)
open StoryNode (ofEvent sequence)

variable {X : Type} {E E' : X → StoryKind → Attributes → X → Prop} {x : X} {N : Object → Prop}
  {given : Ledger Object} {S S' : State → Prop} {F : State → State → Prop}

/-! ## States -/

/-- Every state in a role is as `S` says. -/
def Attributes.EachState (S : State → Prop) (a : Attributes) : Prop :=
  ∀ r s, a.get? r = some (.state s) → S s

section States

variable {a a' : Attributes} {v : Value}

theorem Attributes.eachState_empty : ({} : Attributes).EachState S := fun _ s hs =>
  absurd hs.symm (Option.some_ne_none (Value.state s))

theorem Attributes.EachState.imp (h : a.EachState S) (hS : ∀ s, S s → S' s) : a.EachState S' :=
  fun r s hs => hS s (h r s hs)

theorem Attributes.EachState.set (h : a.EachState S) {r : Role} (hv : ∀ s, v = .state s → S s) :
    (a.set r v).EachState S := by
  intro r' s hs
  rw [Attributes.get?_set] at hs
  split at hs
  · exact hv s (Option.some.inj hs)
  · exact h r' s hs

theorem Attributes.EachState.of_value (h : a.EachState S) {r : Role} (hv : a.get? r = some v) :
    ∀ s, v = .state s → S s := fun s hs => h r s (hs ▸ hv)

/-- The beats that open a scene are about its setting and a thing in it. -/
theorem eachState_of_opening {scenery : State} (hv : ∀ s, v = .state s → S s) (hscenery : S scenery) :
    ∀ m ∈ openingBeats v scenery, (∃ e, m.kind = .event e) ∧ m.attributes.EachState S := by
  have hbeat : (({} : Attributes).set .subject v).EachState S := Attributes.eachState_empty.set hv
  intro m hm
  simp only [openingBeats, List.mem_cons, List.not_mem_nil, or_false] at hm
  rcases hm with rfl | rfl | rfl
  · exact ⟨⟨_, rfl⟩, hbeat⟩
  · refine ⟨⟨_, rfl⟩, hbeat.set fun s hs => ?_⟩
    cases hs
    exact hscenery
  · exact ⟨⟨_, rfl⟩, hbeat⟩

/-- The values of an aside are as those of the event that it is about. -/
theorem Attributes.EachState.aside (h : a.EachState S) (hv : a.get? .subject = some v) :
    (({} : Attributes).set .subject v).EachState S :=
  eachState_empty.set (h.of_value hv)

theorem Attributes.EachState.updated (h : a.EachState S) (k : a.Updated F a')
    (hF : ∀ s s', S s → F s s' → S' s') : a'.EachState S' := by
  intro r s' hs'
  obtain ⟨s, hs, hss⟩ := exists_of_updated k hs'
  exact hF s s' (h r s hs) hss

end States

/-! ## Tables in order -/

/-- The table of a node has its roles in their order, and no role that its kind does not declare; so has
every table that values are assigned to (`WellFormed.assign`). -/
structure WellFormed (k : StoryKind) (a : Attributes) : Prop where
  ordered : a.entries.Pairwise fun e e' => e.1.index < e'.1.index
  declared : ∀ e ∈ a.entries, e.1 ∈ NodeKind.roles k

instance (k : StoryKind) (a : Attributes) : Decidable (WellFormed k a) :=
  decidable_of_iff ((a.entries.Pairwise fun e e' => e.1.index < e'.1.index) ∧
    ∀ e ∈ a.entries, e.1 ∈ NodeKind.roles k) ⟨fun h => ⟨h.1, h.2⟩, fun h => ⟨h.1, h.2⟩⟩

section Tables

variable {k : StoryKind} {a a' : Attributes} {r : Role} {v : Value} {es : List (Role × Value)}

theorem Role.index_injective {r r' : Role} (h : r.index = r'.index) : r = r' := by
  cases r <;> cases r' <;> first | rfl | cases h

theorem pairwise_setEntry (h : es.Pairwise fun e e' => e.1.index < e'.1.index) :
    (Attributes.setEntry r v es).Pairwise fun e e' => e.1.index < e'.1.index := by
  induction es with
  | nil => exact List.pairwise_singleton _ _
  | cons e es ih =>
    obtain ⟨he, hes⟩ := List.pairwise_cons.1 h
    rw [Attributes.setEntry]
    split
    · rename_i hr
      exact List.pairwise_cons.2 ⟨fun e' he' => hr ▸ he e' he', hes⟩
    split
    · rename_i hlt
      refine List.pairwise_cons.2 ⟨fun e' he' => ?_, h⟩
      rcases List.mem_cons.1 he' with rfl | he'
      · exact hlt
      · exact Nat.lt_trans hlt (he e' he')
    · rename_i hne hle
      refine List.pairwise_cons.2 ⟨fun e' he' => ?_, ih hes⟩
      rcases mem_setEntry he' with rfl | he'
      · exact Nat.lt_of_le_of_ne (Nat.le_of_not_lt hle) fun heq => hne (Role.index_injective heq.symm)
      · exact he e' he'

theorem wellFormed_empty : WellFormed k {} := ⟨.nil, fun _ he => absurd he List.not_mem_nil⟩

theorem WellFormed.set (h : WellFormed k a) (hr : r ∈ NodeKind.roles k) (v : Value) :
    WellFormed k (a.set r v) := by
  refine ⟨pairwise_setEntry h.ordered, fun e he => ?_⟩
  rcases mem_setEntry he with rfl | he
  · exact hr
  · exact h.declared e he

theorem wellFormed_of_opening {scenery : State} :
    ∀ m ∈ openingBeats v scenery, WellFormed m.kind m.attributes := by
  have hbeat : ∀ e, WellFormed (.event e) (({} : Attributes).set .subject v) := fun _ =>
    wellFormed_empty.set List.mem_cons_self v
  intro m hm
  simp only [openingBeats, List.mem_cons, List.not_mem_nil, or_false] at hm
  rcases hm with rfl | rfl | rfl
  · exact hbeat _
  · exact (hbeat _).set (List.mem_cons_of_mem _ List.mem_cons_self) _
  · exact hbeat _

/-- Whatever a node is assigned, its table stays well formed. -/
theorem WellFormed.assign {n n' : StoryNode} (h : WellFormed n.kind n.attributes)
    (hn : n.assign r v = .ok n') : WellFormed n'.kind n'.attributes := by
  unfold Node.assign Node.declares at hn
  split at hn
  · rename_i hr
    obtain rfl := Except.ok.inj hn
    exact h.set (List.contains_iff_mem.1 hr) v
  · cases hn

theorem WellFormed.matched {V : Role → Value → Value → Prop} (h : WellFormed k a)
    (hV : a.Matched V a') : WellFormed k a' := by
  have hindices : a'.entries.map (·.1.index) = a.entries.map (·.1.index) :=
    map_eq_of_forall₂ hV fun _ _ he => congrArg Role.index he.1
  constructor
  · have hordered : (a.entries.map (·.1.index)).Pairwise (· < ·) := List.pairwise_map.2 h.ordered
    rw [← hindices] at hordered
    exact List.pairwise_map.1 hordered
  · intro e he
    obtain ⟨e₀, he₀, hr, -⟩ := exists_of_mem_right hV he
    exact hr ▸ h.declared e₀ he₀

/-- In a table in order, every entry is the value of its role. -/
theorem WellFormed.get?_of_mem (h : WellFormed k a) (hv : (r, v) ∈ a.entries) :
    a.get? r = some v := by
  obtain ⟨es⟩ := a
  obtain ⟨hordered, -⟩ := h
  change es.Pairwise _ at hordered
  change (r, v) ∈ es at hv
  change es.lookup r = some v
  induction es with
  | nil => cases hv
  | cons e es ih =>
    obtain ⟨he, hes⟩ := List.pairwise_cons.1 hordered
    obtain ⟨r', v'⟩ := e
    rcases List.mem_cons.1 hv with hv | hv
    · cases hv
      exact List.lookup_cons_self
    · have hne : (r == r') = false := beq_false_of_ne fun hr => Nat.lt_irrefl r'.index (hr ▸ he _ hv)
      rw [List.lookup_cons, hne]
      exact ih hes hv

theorem tableau_wellFormed : tableau.Everywhere WellFormed := by
  have hall : ∀ m ∈ tableau.preorder, WellFormed m.kind m.attributes := by decide
  exact hall

end Tables

/-! ## Fresh states -/

/-- The values of a node once each plain object has a fresh state, of the object that stands for its names:
what they were satisfies `P`. -/
structure Freshened (N : Object → Prop) (given : Ledger Object) (P : StoryKind → Attributes → Prop)
    (k : StoryKind) (a' : Attributes) : Prop where
  before : ∃ a, P k a ∧ Bare k a ∧ Given (Standing N given) given ⟨k, a, []⟩ ∧
    a' = a.map fun _ v => v.toState given

/-- Values that stay as they should when a pose is put at something. -/
def Posable (P : StoryKind → Attributes → Prop) : Prop :=
  ∀ k a o, P k a → k = .event .poseDescription → P k (a.set .object (.object o))

section FreshStates

variable {P : StoryKind → Attributes → Prop} {k : StoryKind} {a : Attributes} {n : StoryNode}

theorem posable_bare : Posable Bare := by
  intro k a o h _ r v hv
  rw [Attributes.get?_set] at hv
  split at hv
  · obtain rfl := Option.some.inj hv
    rfl
  · exact h r v hv

theorem posable_wellFormed : Posable WellFormed := by
  rintro k a o h rfl
  exact h.set (by decide) _

/-- Every state is fresh, of the object that stands for its names. -/
theorem Freshened.eachState (h : Freshened N given P k a) :
    a.EachState fun s => s = { object := s.object } ∧ Standing N given s.object := by
  obtain ⟨a, -, hbare, hgiven, rfl⟩ := h
  intro r s hs
  rw [Attributes.get?_map] at hs
  obtain ⟨v, hv, hvs⟩ := Option.map_eq_some_iff.1 hs
  cases v with
  | object o =>
    obtain ⟨first, hfirst, -, hstanding⟩ := hgiven r o hv
    rw [Value.toState, hfirst] at hvs
    cases hvs
    exact ⟨rfl, hstanding⟩
  | group g => cases hvs
  | state t => exact absurd (hbare r _ hv) (Option.some_ne_none t)

/-- What has a role is what stands for the names of what had it. -/
theorem Freshened.objectIn (h : Freshened N given P k a) : ∃ a₀, P k a₀ ∧ ∀ r o,
    (a.get? r).bind Value.object? = some o →
      ∃ o₀, (a₀.get? r).bind Value.object? = some o₀ ∧ (o == o₀) = true ∧ Standing N given o := by
  obtain ⟨a, hP, hbare, hgiven, rfl⟩ := h
  refine ⟨a, hP, fun r o ho => ?_⟩
  rw [Attributes.get?_map] at ho
  obtain ⟨v', hv', hvo⟩ := Option.bind_eq_some_iff.1 ho
  obtain ⟨v, hv, rfl⟩ := Option.map_eq_some_iff.1 hv'
  rw [hv]
  cases v with
  | object o₀ =>
    obtain ⟨first, hfirst, hbeq, hstanding⟩ := hgiven r o₀ hv
    rw [Value.toState, hfirst] at hvo
    cases hvo
    exact ⟨o₀, rfl, hbeq, hstanding⟩
  | group g => cases hvo
  | state t => exact absurd (hbare r _ hv) (Option.some_ne_none t)

theorem Freshened.wellFormed (h : Freshened N given WellFormed k a) : WellFormed k a := by
  obtain ⟨a, hwf, -, -, rfl⟩ := h
  exact hwf.matched (Attributes.matched_map (V := fun _ _ _ => True) (fun _ _ => trivial) a)

/-- Once its scenery is there, every plain object of a story gets a fresh state. -/
theorem freshened_yields {I : Context → Prop} [Lasting I] (hE : ∀ x y, Posable fun k a => E x k a y)
    (hn : (mergeAdjacentScenes n).Conforms E x) (hbare : n.Everywhere Bare) (hN : n.Everywhere (Covered N)) :
    Yields I (fun n₁ => Node.Conforms
        (fun x k a y => Freshened N (firstGiven n₁) (fun k a => E x k a y) k a) x (assignEmptyStates n₁))
      (resolveScenery none (mergeAdjacentScenes n)) := by
  have hposed : ∀ x k a y r, E x k a y ∧ Bare k a →
      Yields I (fun a' => E x k a' y ∧ Bare k a') (poseAt r k a) := by
    refine fun x k a y r h => (poseAt_yields r k a).imp fun a' ha' => ?_
    rcases ha' with ⟨rfl, -⟩ | ⟨hk, o, -, rfl⟩
    · exact h
    · exact ⟨hE x y k a o h.1 hk, posable_bare k a o h.2 hk⟩
  have hresolved : Yields I (Node.Conforms (fun x k a y => E x k a y ∧ Bare k a) x)
      (resolveScenery none (mergeAdjacentScenes n)) :=
    Node.annotate_conforms (f := poseAt) (G := fun x k a y => E x k a y ∧ Bare k a)
      (R := fun _ _ => True) (Judgement.yields I) (fun _ _ _ _ _ _ _ => trivial)
      (fun x k a y r h _ => hposed x k a y r h) trivial _
      (hn.and_everywhere (mergeAdjacentScenes_everywhere hbare))
  refine (hresolved.and (resolveScenery_everywhere (mergeAdjacentScenes_everywhere hN))).imp
    fun n₁ h₁ => ?_
  have hgiven : n₁.Everywhere fun k a => Given (Standing N (firstGiven n₁)) (firstGiven n₁) ⟨k, a, []⟩ :=
    fun m hm r o => given_firstGiven h₁.2 hm r o
  exact Node.annotateAll_conforms Judgement.plain
    (fun x k a y ha => ⟨a, ha.1.1, ha.1.2, ha.2, rfl⟩) (h₁.1.and_everywhere hgiven)

end FreshStates

/-! ## Deserted settings -/

/-- An object of a story: one that a node names or that is scenery of a scene. -/
def Node.Knows (story : StoryNode) (o : Object) : Prop :=
  ∃ m ∈ story.preorder, (∃ r, (r, Value.object o) ∈ m.attributes.entries) ∨
    m.kind = .scene ∧ IsScenery (m.objectIn .setting) o

/-- No character is among the things nearby. -/
def Unpeopled (o : Object) : Prop :=
  ∀ p, o.place? = some p → ∀ q ∈ p.nearby, q.isCharacter = false

/-- No object of the story that goes by the names of the setting has a character nearby. -/
def DesertedIn (story : StoryNode) (k : StoryKind) (a : Attributes) : Prop :=
  k = .scene → ∀ place, (a.get? .setting).bind Value.object? = some place →
    ∀ o, story.Knows o → (o == place) = true → Unpeopled o

section Settings

variable {story : StoryNode} {P : StoryKind → Attributes → Prop} {k : StoryKind} {a : Attributes}

theorem covered_knows (story : StoryNode) : story.Everywhere (Covered story.Knows) := fun m hm =>
  ⟨fun r _ ho => ⟨m, hm, Or.inl ⟨r, ho⟩⟩, fun hk _ ho => ⟨m, hm, Or.inr ⟨hk, ho⟩⟩⟩

theorem posable_of_scene (hP : ∀ k a, k ≠ .scene → P k a) : Posable P := fun k a o _ hk =>
  hP k _ (by rw [hk]; nofun)

theorem isCharacter_of_unpeopled {place o : Object} (h : Unpeopled place)
    (ho : IsScenery (some place) o) : o.isCharacter = false := by
  obtain ⟨p, hp, hmem, -⟩ := ho
  exact h p hp o hmem

/-- Where every plain object has become a state, the setting of a scene is deserted if it was one before. -/
theorem Freshened.unpeopled (h : Freshened story.Knows given P k a)
    (hP : ∀ a, P k a → DesertedIn story k a) (hk : k = .scene) {place : Object}
    (hplace : (a.get? .setting).bind Value.object? = some place) : Unpeopled place := by
  obtain ⟨a₀, ha₀, hobjects⟩ := h.objectIn
  obtain ⟨place₀, hplace₀, hbeq, hknown, -⟩ := hobjects .setting place hplace
  exact hP a₀ ha₀ hk place₀ hplace₀ place hknown hbeq

end Settings

/-! ## Annotations -/

section Annotations

variable {n : StoryNode}

theorem assignLocations_conforms {R : X → Option Object → Prop} {place : Option Object}
    (henter : ∀ x k a y r, E x k a y → R x r → R y (enterScene k a r))
    (hE : ∀ x k a a' y r, E x k a y → R y r →
      a.Matched (fun _ => Value.Updated (State.Located r)) a' → E' x k a' y)
    (hplace : R x place) (h : n.Conforms E x) : (assignLocations place n).Conforms E' x :=
  Node.annotate_conforms Judgement.plain henter
    (fun x k a y r ha hr => hE x k a _ y r ha hr (locations_matched r a)) hplace n h

theorem assignMoods_conforms (moods : Ledger Mood)
    (hE : ∀ x k a a' y, E x k a y → a.Matched (fun _ => Value.Updated State.Tempered) a' →
      E' x k a' y) (h : n.Conforms E x) : (assignMoods moods n).1.Conforms E' x :=
  (Node.annotateAll_conforms (Judgement.yields fun _ => True) (fun x k a y ha =>
    (moods_matched k a).imp fun a' ha' => hE x k a a' y ha ha') h (MoodRecord.mk moods []) trivial).1

theorem assignDuties_conforms (duties : Ledger Roster)
    (hE : ∀ x k a a' y, E x k a y → a.Matched (fun _ => Value.Updated State.Burdened) a' →
      E' x k a' y) (h : n.Conforms E x) : (assignDuties duties n).1.Conforms E' x :=
  (Node.annotateAll_conforms (Judgement.yields fun _ => True) (fun x k a y ha =>
    (duties_matched k a).imp fun a' ha' => hE x k a a' y ha ha') h (DutyRecord.mk duties []) trivial).1

theorem assignFirstOccurrence_conforms (occurred : Roster)
    (hE : ∀ x k a a' y, E x k a y → a.Matched (fun _ => Value.Updated State.Marked) a' →
      E' x k a' y) (h : n.Conforms E x) : (assignFirstOccurrence occurred n).1.Conforms E' x :=
  (Node.annotateAll_conforms (Judgement.yields fun _ => True) (fun x k a y ha =>
    (marks_matched k a).imp fun a' ha' => hE x k a a' y ha ha') h occurred trivial).1

theorem assignReferents_conforms (referent : Option Object)
    (hE : ∀ x k a a' y, E x k a y → a.Matched (fun _ => Value.Updated State.Referred) a' →
      E' x k a' y) (h : n.Conforms E x) : (assignReferents referent n).1.Conforms E' x :=
  (Node.annotateAll_conforms (Judgement.yields fun _ => True) (fun x k a y ha =>
    (referents_matched a).imp fun a' ha' => hE x k a a' y ha ha') h referent trivial).1

end Annotations

/-! ## Edited stories -/

/-- The second state differs from the first at most in how the text may refer to it. -/
def State.Retold (s s' : State) : Prop :=
  ∃ isReferent firstOccurrence, s' = { s with isReferent, firstOccurrence }

section Editing

variable {I : Context → Prop} [Lasting I] {n story out : StoryNode} {s s' : State}

theorem State.Marked.retold (h : s.Marked s') : s.Retold s' := by
  obtain ⟨firstOccurrence, rfl⟩ := h
  exact ⟨s.isReferent, firstOccurrence, rfl⟩

theorem State.Referred.retold (h : s.Referred s') : s.Retold s' := by
  obtain ⟨isReferent, rfl⟩ := h
  exact ⟨isReferent, s.firstOccurrence, rfl⟩

/-- A condition that does not depend on how the text may refer to states. -/
def Reliable (E : X → StoryKind → Attributes → X → Prop) : Prop :=
  ∀ x k a a' y, E x k a y → a.Updated State.Retold a' → E x k a' y

theorem arranged_conforms (hE : Stable E) (hreliable : Reliable E) (chance : Nat) (h : n.Conforms E x) :
    Ends I (fun _ => True) (Node.Conforms E x) (Editor.arranged chance n) := by
  refine arranged_parts (splitIntoParagraphs_conforms hE _ (flatten_conforms hE n h)) fun n₁ h₁ =>
    conjoin_conforms hE chance _ (assignReferents_conforms none (fun x k a a' y ha ha' => ?_) h₁)
  exact hreliable x k a a' y ha (ha'.changed.imp fun _ _ _ hv => hv.imp fun _ _ => State.Referred.retold)

/-- What the annotated story fits, the edited one fits. -/
theorem conforms_of_edit (hE : Stable E) (hreliable : Reliable E) (e : Editor) (narration : Narration)
    (hannotated : Ends (fun _ => True) (fun _ => True) (Node.Conforms E x) (Editor.annotated story))
    (hout : ((e.edit story).run narration).1.1 = .ok out) : out.Conforms E x := by
  have hdescribed : ∀ n : StoryNode, n.Conforms E x →
      Yields (fun _ => True) (fun d => d.1.Conforms E x) (Editor.described e.introduced n) := by
    refine fun n hn => (described_conforms hE e.introduced hn).imp fun d hd => ?_
    obtain ⟨n', hn', hd⟩ := hd
    rw [hd]
    refine assignFirstOccurrence_conforms {} (fun x k a a' y ha ha' => ?_) hn'
    exact hreliable x k a a' y ha
      (ha'.changed.imp fun _ _ _ hv => hv.imp fun _ _ => State.Marked.retold)
  obtain ⟨-, d, -, -, h⟩ := exists_of_edit (O := fun _ out => out.Conforms E x) e narration hannotated
    hdescribed (fun _ d _ h => arranged_conforms hE hreliable e.conjoinChance h) hout
  exact h

end Editing

end SpaceOpera
