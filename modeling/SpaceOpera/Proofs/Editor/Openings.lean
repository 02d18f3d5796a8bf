import SpaceOpera.Proofs.Editor.Asides
import SpaceOpera.Proofs.Editor.Incoming

/-!
# Openings

A scene begins with a look at its setting.  No pass before that puts such a beat in (`Prepared`), and no
pass after that puts anything between these beats or in front of them, as they are about a place and not
about a character (`Opens`).
-/

namespace SpaceOpera

open List (Forall₂)

/-- An event that is told. -/
def Node.isLasting (n : StoryNode) : Bool :=
  !n.event?.any Event.isTransient

theorem isLasting_eq (n : StoryNode) :
    (!isDutyEvent n && (!n.changesMood && true)) = n.isLasting := by
  unfold isDutyEvent Node.changesMood Node.isLasting Event.isTransient
  cases n.event? with
  | none => rfl
  | some e => cases e <;> rfl

/-- The kinds of the beats that open a scene. -/
def openings : List StoryKind :=
  [.event .settingDescription, .event .nearbyDescription, .event .genericSettingDescription]

/-- Is the node a beat that opens a scene? -/
def Node.isOpening (n : StoryNode) : Bool :=
  n.event?.any Event.isOpening

/-- The event is of a kind that the scene came with, or a refusal of a mood. -/
def Owns (c₀ n : StoryNode) : Prop :=
  n.kind = .event .characterStaysHappy ∨ ∃ n₀ ∈ c₀.events, n.kind = n₀.kind

/-- A scene on its way to being opened: it has no beats of the editor's own but refusals of moods. -/
structure Prepared (P : State → Prop) (keep : StoryNode → Bool) (c₀ c : StoryNode) : Prop
    extends Carried P keep c₀ c where
  own : ∀ n ∈ c.events, Owns c₀ n

/-- Nobody is described yet: the events are openings or the scene's own. -/
def Undescribed (c₀ c : StoryNode) : Prop :=
  ∀ n ∈ c.events, n.isOpening = true ∨ Owns c₀ n

/-- The scene has a place for its setting and opens with a look at it; nothing is told of a character
before that, and no other opening stands in the scene but those it came with. -/
structure Opens (c₀ c : StoryNode) : Prop where
  place : (c.objectIn .setting).isSome = true
  front : ∃ os es, c.events = os ++ es ∧ os.map (·.kind) = openings ∧
    (∀ n ∈ os, n.characterSubject? = none) ∧
      ((∀ n ∈ c₀.events, n.isOpening = false) → ∀ n ∈ es, n.isOpening = false)

/-- A scene that is open: it is one sequence and begins with its opening. -/
structure Presented (P : State → Prop) (c₀ c : StoryNode) : Prop
    extends Carried P Node.isLasting c₀ c where
  sequence : OneSequence c.children
  opening : Opens c₀ c

section Openings

variable {ks : List StoryKind} {P P' : State → Prop} {F : State → State → Prop}
  {keep keep' : StoryNode → Bool} {c₀ c c' n n' : StoryNode}

theorem isOpening_of_kind (h : n'.kind = n.kind) : n'.isOpening = n.isOpening := by
  unfold Node.isOpening Node.event?
  rw [h]

theorem isOpening_of_echoes (h : Echoes n n') : n'.isOpening = false := by
  obtain ⟨v, e, -, -, he, rfl⟩ := h
  have hopening : e.isOpening = false := by
    cases e <;> first | rfl | cases he
  exact hopening

theorem Owns.of_kind (h : Owns c₀ n) (hkind : n'.kind = n.kind) : Owns c₀ n' := by
  unfold Owns at *
  rwa [hkind]

theorem Owns.isOpening (h : Owns c₀ n) (hplain : ∀ n₀ ∈ c₀.events, n₀.isOpening = false) :
    n.isOpening = false := by
  rcases h with hkind | ⟨n₀, hn₀, hkind⟩
  · unfold Node.isOpening Node.event?
    rw [hkind]
    rfl
  · exact (isOpening_of_kind hkind).trans (hplain n₀ hn₀)

theorem Prepared.updated (h : Prepared P keep c₀ c)
    (k : Rewritten ks (Attributes.Updated F)
      (Forall₂ (Redrawn fun _ => Attributes.Updated F)) c c')
    (hF : ∀ s s', P s → F s s' → s'.object = s.object ∧ P' s') : Prepared P' keep c₀ c' := by
  refine ⟨h.toCarried.updated k hF, fun m' hm' => ?_⟩
  obtain ⟨m, hm, hmm⟩ := exists_of_mem_right k.events hm'
  exact (h.own m hm).of_kind hmm.kind

theorem Prepared.told (h : Prepared P keep c₀ c)
    (k : Rewritten ks Eq (Told keep' (RefusesIn c)) c c')
    (hkeep : ∀ n n' : StoryNode, n'.kind = n.kind → keep' n = keep' n') :
    Prepared P (fun n => keep' n && keep n) c₀ c' := by
  have htold : Told keep' (EchoesIn c) c.events c'.events :=
    k.events.imp (fun _ _ hn => hn) fun _ ⟨m, hm, hrefuses⟩ => ⟨m, hm, hrefuses.1⟩
  refine ⟨h.toCarried.told ⟨k.scene, k.attributes, htold⟩ hkeep, fun m' hm' => ?_⟩
  rcases k.events.mem hm' with ⟨m, hm, rfl⟩ | ⟨m, -, hrefuses⟩
  · exact h.own m (List.mem_filter.1 hm).1
  · exact Or.inl hrefuses.2

/-- With fresh states, a scene carries what it tells. -/
theorem Prepared.fresh {N : Object → Prop} {given : Ledger Object} (hbare : c₀.Everywhere Bare)
    (h : Annotated sequences (Posed (c₀.objectIn .setting)) c₀ c)
    (hgiven : ∀ m ∈ c.preorder, Given N given m)
    (h' : Annotated sequences (fun _ a a' => a' = a.map fun _ v => v.toState given) c c') :
    Prepared (fun s => N s.object) (fun _ => true) c₀ c' := by
  refine ⟨.fresh hbare h hgiven h', fun m' hm' => ?_⟩
  obtain ⟨m, hm, hmm⟩ := exists_of_mem_right h'.events hm'
  obtain ⟨m₀, hm₀, hm₀m⟩ := exists_of_mem_right h.events hm
  exact Or.inr ⟨m₀, hm₀, hmm.kind.trans hm₀m.kind⟩

theorem stateIn_updated (h : Redrawn (fun _ => Attributes.Updated F) n n') (r : Role) :
    Option.Rel F (n.stateIn r) (n'.stateIn r) := by
  have hrel := h.attributes r
  unfold Node.stateIn Node.get?
  generalize n.attributes.get? r = v at hrel
  generalize n'.attributes.get? r = v' at hrel
  cases hrel with
  | none => exact .none
  | @some v v' hv =>
    cases v with
    | state s =>
      obtain ⟨s', rfl, hs⟩ := hv
      exact .some hs
    | object o =>
      obtain rfl : v' = .object o := hv
      exact .none
    | group g =>
      obtain rfl : v' = .group g := hv
      exact .none

/-- The event is about the same character before and after, if it is about one. -/
theorem characterSubject?_updated (hF : ∀ s s', F s s' → s'.object = s.object)
    (h : Redrawn (fun _ => Attributes.Updated F) n n') :
    n'.characterSubject?.map (·.object) = n.characterSubject?.map (·.object) := by
  have hsubject := stateIn_updated h .subject
  unfold Node.characterSubject? Node.event?
  rw [h.kind]
  cases n.kind.event? with
  | none => rfl
  | some e =>
    generalize n.stateIn .subject = s at hsubject
    generalize n'.stateIn .subject = s' at hsubject
    cases hsubject with
    | none => rfl
    | some hs =>
      simp only [Option.filter_some, hF _ _ hs]
      split
      · exact congrArg some (hF _ _ hs)
      · rfl

theorem objectIn_updated {a a' : Attributes} (hF : ∀ s s', F s s' → s'.object = s.object)
    (h : a.Updated F a') (r : Role) :
    (a'.get? r).bind Value.object? = (a.get? r).bind Value.object? := by
  have hrel := h r
  generalize a.get? r = v at hrel
  generalize a'.get? r = v' at hrel
  cases hrel with
  | none => rfl
  | @some v v' hv =>
    cases v with
    | state s =>
      obtain ⟨s', rfl, hs⟩ := hv
      exact congrArg some (hF s s' hs)
    | object o =>
      obtain rfl : v' = .object o := hv
      rfl
    | group g =>
      obtain rfl : v' = .group g := hv
      rfl

/-- An event that is about a place is about no character. -/
theorem characterSubject?_of_place {v : Value} {o : Object} (hv : n.get? .subject = some v)
    (ho : v.object? = some o) (hplace : o.place?.isSome = true) : n.characterSubject? = none := by
  cases hn : n.characterSubject? with
  | none => rfl
  | some s =>
    have hcharacter := isCharacter_of_characterSubject hn
    have hs : n.stateIn .subject = some s := by
      unfold Node.characterSubject? at hn
      split at hn
      · cases hn
      · exact (Option.filter_eq_some_iff.1 hn).1
    rw [Node.stateIn, hv] at hs
    cases v with
    | state t =>
      obtain rfl : t = s := Option.some.inj hs
      obtain rfl : t.object = o := Option.some.inj ho
      unfold Object.isCharacter Object.character? at hcharacter
      unfold Object.place? at hplace
      cases hnature : t.object.nature <;> simp [hnature] at hcharacter hplace
    | _ => cases hs

theorem Opens.updated (h : Opens c₀ c)
    (k : Rewritten ks (Attributes.Updated F)
      (Forall₂ (Redrawn fun _ => Attributes.Updated F)) c c')
    (hF : ∀ s s', F s s' → s'.object = s.object) : Opens c₀ c' := by
  obtain ⟨os, es, hevents, hkinds, hsilent, hother⟩ := h.front
  have hredrawn := k.events
  rw [hevents] at hredrawn
  obtain ⟨os', es', hevents', hos, hes⟩ := exists_append_of_forall₂ hredrawn
  refine ⟨?_, os', es', hevents', ?_, fun m' hm' => ?_, fun hplain m' hm' => ?_⟩
  · exact (congrArg Option.isSome (objectIn_updated hF k.attributes .setting)).trans h.place
  · exact (map_eq_of_forall₂ hos fun _ _ hn => hn.kind).trans hkinds
  · obtain ⟨m, hm, hmm⟩ := exists_of_mem_right hos hm'
    have hsame := characterSubject?_updated hF hmm
    rw [hsilent m hm] at hsame
    exact Option.map_eq_none_iff.1 hsame
  · obtain ⟨m, hm, hmm⟩ := exists_of_mem_right hes hm'
    exact (isOpening_of_kind hmm.kind).trans (hother hplain m hm)

theorem Opens.trailed (h : Opens c₀ c)
    (k : Rewritten ks Eq (Trailed (EchoesIn c)) c c') : Opens c₀ c' := by
  obtain ⟨os, es, hevents, hkinds, hsilent, hother⟩ := h.front
  have htrailed := k.events
  rw [hevents] at htrailed
  obtain ⟨fs, hfs, hbehind⟩ := htrailed.append_of_no_subject hsilent
  have hsame : c'.objectIn .setting = c.objectIn .setting :=
    congrArg (fun a : Attributes => (a.get? .setting).bind Value.object?) k.attributes.symm
  refine ⟨hsame ▸ h.place, os, fs, hfs, hkinds, hsilent, fun hplain m' hm' => ?_⟩
  rcases hbehind.padded.mem hm' with ⟨m, hm, rfl⟩ | ⟨m, -, hechoes⟩
  · exact hother hplain m hm
  · exact isOpening_of_echoes hechoes

theorem Opens.look (h : Opens c₀ c) : Look c := by
  obtain ⟨os, es, hevents, hkinds, -⟩ := h.front
  cases os with
  | nil => cases hkinds
  | cons m os =>
    refine ⟨m, ?_, (List.cons.inj hkinds).1⟩
    rw [hevents]
    exact List.mem_cons_self

theorem LooksAt.isOpening {setting : Value} {scenery : State} {n : StoryNode}
    (h : LooksAt setting scenery n) : n.isOpening = true := by
  obtain ⟨e, hkind, he⟩ := h.opening
  unfold Node.isOpening Node.event?
  rw [hkind]
  exact he

/-- A scene that can be opened is open then. -/
theorem Prepared.opened (h : Prepared P Node.isLasting c₀ c) (k : Opened c c') :
    Presented P c₀ c' := by
  obtain ⟨setting, place, o, hsetting, hplace, hscenery, hevents⟩ := k.events
  have hplaced : place.place?.isSome = true := by
    obtain ⟨p, hp, -⟩ := hscenery
    exact Option.isSome_iff_exists.2 ⟨p, hp⟩
  refine ⟨h.toCarried.opened k, k.sequence, ?_, _, c.events, hevents, rfl, fun m hm =>
    characterSubject?_of_place (looksAt_of_mem hm).subject hplace hplaced, fun hplain m hm =>
      (h.own m hm).isOpening hplain⟩
  have hsame : c'.get? .setting = c.get? .setting := congrArg (·.get? .setting) k.attributes
  rw [Node.objectIn, hsame, hsetting, Option.bind_some, hplace]
  rfl

theorem Prepared.undescribed (h : Prepared P keep c₀ c) (k : Opened c c') : Undescribed c₀ c' := by
  obtain ⟨setting, place, o, -, -, -, hevents⟩ := k.events
  intro m hm
  rw [hevents] at hm
  rcases List.mem_append.1 hm with hm | hm
  · exact Or.inl (looksAt_of_mem hm).isOpening
  · exact Or.inr (h.own m hm)

theorem Presented.trailed (h : Presented P c₀ c)
    (k : Reworked sequences Eq (Trailed (EchoesIn c)) c c') : Presented P c₀ c' :=
  ⟨h.toCarried.trailed k.toRewritten, k.sequence h.sequence, h.opening.trailed k.toRewritten⟩

theorem Presented.updated (h : Presented P c₀ c) (k : Annotated sequences (fun _ => Attributes.Updated F) c c')
    (hF : ∀ s s', F s s' → s'.object = s.object) (hP : ∀ s s', P s → F s s' → P s') :
    Presented P c₀ c' :=
  ⟨h.toCarried.updated k.toRewritten fun s s' hs hss => ⟨hF s s' hss, hP s s' hs hss⟩,
    k.sequence h.sequence, h.opening.updated k.toRewritten hF⟩

end Openings

end SpaceOpera
