import SpaceOpera.Proofs.Prose.Words
import SpaceOpera.Proofs.Story.Beats

/-!
# What the editor hands over can be told

A scene comes to the editor with the plain things of a world and leaves it with states.  Where names tell
apart what the world can mention, a state is of the very object that the plot put there, and it knows
enough: every beat of the scene, whether it came with the story or the editor put it in, stands with its
roles in the guises that its templates ask for.
-/

namespace SpaceOpera

open List (Forall₂)
open Template (Guise Casts)

/-! ## Stories as they come in -/

section Incoming

variable {w : World} {k : StoryKind} {a : Attributes} {n c : StoryNode} {r : Role} {v : Value}

/-- What the values of a node are, whatever its kind. -/
theorem Acted.suits (h : Acted w k a) {x : Role × Value} (hx : x ∈ a.entries) :
    Guise.party.Suits w x.2 := by
  cases k with
  | event e =>
    have h : Enacted w e a := h
    exact h.values x hx
  | scene =>
    obtain ⟨s, hs, hentries⟩ := h
    rw [hentries] at hx
    rw [List.mem_singleton.1 hx]
    exact Or.inr ⟨s, mentions_setting hs, rfl⟩
  | story | eventSequence | paragraph | conjoined =>
    have h : a.entries = [] := h
    rw [h] at hx
    exact absurd hx List.not_mem_nil

theorem Acted.bare (h : Acted w k a) : Bare k a := by
  intro r v hv
  rcases h.suits (mem_entries hv) with ⟨g, rfl⟩ | ⟨o, -, rfl⟩
  · rfl
  · rfl

theorem Acted.covered (h : Acted w k a) : Covered (· ∈ w.mentions) k a := by
  refine ⟨fun r o ho => ?_, fun hk o ho => ?_⟩
  · rcases h.suits ho with ⟨g, heq⟩ | ⟨o', ho', heq⟩
    · cases heq
    · cases heq
      exact ho'
  · subst hk
    obtain ⟨s, hs, hentries⟩ := h
    obtain ⟨p, hp, hnearby, -⟩ := ho
    have hsetting : a.get? .setting = some (.object s) := by
      unfold Attributes.get?
      rw [hentries]
      rfl
    rw [hsetting] at hp
    exact mentions_nearby hs hp hnearby

/-- A scene of a story takes place in one of the settings. -/
theorem setting_of_acted (h : n.Everywhere (Acted w)) (hscene : c ∈ n.children)
    (hc : c.kind = .scene) : ∃ s ∈ w.settings, c.get? .setting = some (.object s) := by
  have hself : c ∈ c.preorder := by
    obtain ⟨k, a, cs⟩ := c
    rw [Node.preorder_mk]
    exact List.mem_cons_self
  have hacted := h.of_mem hscene c hself
  rw [hc] at hacted
  obtain ⟨s, hs, hentries⟩ := hacted
  refine ⟨s, hs, ?_⟩
  unfold Node.get? Attributes.get?
  rw [hentries]
  rfl

end Incoming

/-! ## States -/

section States

variable {w : World} {c₀ : StoryNode} {s : State} {here : Object} {g : Guise} {v v' : Value}

/-- A character that is ready has all that is told of it. -/
theorem Ready.complete (hw : w.Built) (hid : w.Identified) (hhere : here ∈ w.settings)
    (hsetting : c₀.objectIn .setting = some here) (h : Ready (· ∈ w.mentions) c₀ s)
    (hs : s.object.isCharacter = true) : s.Complete := by
  obtain ⟨place, hplace, hbeq, hmem⟩ := h.placed.2 hs here hsetting
  obtain rfl : place = here := hid.eq_of_beq hmem (mentions_setting hhere) hbeq
  obtain ⟨p, hp, hscenery, -⟩ := hw.site place hhere
  exact ⟨hs, h.mood hs, ⟨place, p, hplace, hp, hscenery⟩, (h.clothes hs).1, (h.clothes hs).2⟩

/-- What suits a guise comes to stand in it. -/
theorem Value.Becomes.of_suits (hw : w.Built) (hid : w.Identified) (hhere : here ∈ w.settings)
    (hsetting : c₀.objectIn .setting = some here)
    (h : v.Becomes (Ready (· ∈ w.mentions) c₀) v') (hg : g.Suits w v) :
    g.Of (Template.Term.ofValue v') := by
  have hobject : ∀ o ∈ w.mentions, v = .object o → ∃ s, v' = .state s ∧ s.object = o ∧
      Ready (· ∈ w.mentions) c₀ s := by
    rintro o ho rfl
    obtain ⟨s, rfl, hbeq, hs⟩ := h
    exact ⟨s, rfl, hid.eq_of_beq hs.placed.1 ho hbeq, hs⟩
  cases g with
  | text | place | suited => exact hg.elim
  | party =>
    rcases hg with ⟨g, rfl⟩ | ⟨o, ho, heq⟩
    · obtain rfl : v' = .group g := h
      exact nofun
    · obtain ⟨s, rfl, -, -⟩ := hobject o ho heq
      exact nofun
  | thing =>
    obtain ⟨o, ho, heq⟩ := hg
    obtain ⟨s, rfl, -, -⟩ := hobject o ho heq
    exact rfl
  | character =>
    obtain ⟨o, ho, heq, hcharacter⟩ := hg
    obtain ⟨s, rfl, rfl, hs⟩ := hobject o ho heq
    exact ⟨s, rfl, hs.complete hw hid hhere hsetting hcharacter⟩
  | officer =>
    obtain ⟨o, ho, heq, hcharacter, hrank⟩ := hg
    obtain ⟨s, rfl, rfl, hs⟩ := hobject o ho heq
    exact ⟨s, rfl, hs.complete hw hid hhere hsetting hcharacter, hrank⟩

end States

/-! ## Beats -/

section Beats

variable {w : World} {c₀ n n' : StoryNode} {e : Event} {here : Object}

theorem declares_of_cast {legs : Bool} {r : Role} {g : Guise} (hkind : n.kind = .event e)
    (h : e.cast legs r = some g) : n.declares r = true := by
  unfold Node.declares
  rw [hkind]
  cases r with
  | subject | object | object2 => rfl
  | _ => cases h

/-- A beat that came with the story can be told. -/
theorem Carries.performs {scenery : Object → Prop} (hw : w.Built) (hid : w.Identified)
    (hhere : here ∈ w.settings) (hsetting : c₀.objectIn .setting = some here)
    (hkind : n.kind = .event e) (hn : Enacted w e n.attributes) (hlasting : e.isTransient = false)
    (h : Carries scenery (Ready (· ∈ w.mentions) c₀) n n')
    (hpose : e = .poseDescription → ∃ s, n'.get? .object = some (.state s)) : Performs e n' := by
  have hkind' : n'.kind = .event e := h.kind.trans hkind
  refine ⟨hlasting, fun r g hg => ⟨declares_of_cast hkind' hg, ?_⟩⟩
  have hcast : e.cast false r = some g := by
    cases hlegs : n'.hasLegs with
    | false => exact hlegs ▸ hg
    | true =>
      rw [cast_eq_of_onePieceTemplates hn.pieces]
      exact hlegs ▸ hg
  rcases hn.roles r g hcast with ⟨rfl, rfl⟩ | ⟨v, hv, hsuits⟩
  · obtain ⟨s, hs⟩ := hpose rfl
    obtain rfl : Guise.party = g := Option.some.inj hcast
    exact ⟨_, hs, nofun⟩
  · rcases h.roles r with hrel | ⟨hkind'', rfl, s, hs, -, -⟩
    · have hv : n.get? r = some v := hv
      rw [hv] at hrel
      generalize hv' : n'.get? r = o at hrel
      cases hrel with
      | some hbecomes => exact ⟨_, rfl, hbecomes.of_suits hw hid hhere hsetting hsuits⟩
    · obtain rfl : e = .poseDescription := StoryKind.event.inj (hkind.symm.trans hkind'')
      obtain rfl : Guise.party = g := Option.some.inj hcast
      exact ⟨_, hs, nofun⟩

theorem cast_opening {legs : Bool} {r : Role} {g : Guise} (he : e.isOpening = true)
    (h : e.cast legs r = some g) :
    r = .subject ∧ g = .place ∨ e = .nearbyDescription ∧ r = .object ∧ g = .party := by
  simp only [Event.isOpening, List.contains_iff_mem, List.mem_cons, List.not_mem_nil,
    or_false] at he
  cases r with
  | subject =>
    rcases he with rfl | rfl | rfl
    · exact Or.inl ⟨rfl, (Option.some.inj h).symm⟩
    · cases h
    · exact Or.inl ⟨rfl, (Option.some.inj h).symm⟩
  | object =>
    rcases he with rfl | rfl | rfl
    · cases h
    · exact Or.inr ⟨rfl, rfl, (Option.some.inj h).symm⟩
    · cases h
  | object2 => rcases he with rfl | rfl | rfl <;> cases h
  | _ => cases h

theorem cast_aside {legs : Bool} {r : Role} {g : Guise} (he : e.isAside = true)
    (h : e.cast legs r = some g) : r = .subject ∧ (g = .character ∨ legs = true ∧ g = .suited) := by
  simp only [Event.isAside, List.contains_iff_mem, List.mem_cons, List.not_mem_nil, or_false] at he
  cases r with
  | subject =>
    refine ⟨rfl, ?_⟩
    cases legs with
    | false =>
      rcases he with rfl | rfl | rfl | rfl | rfl | rfl | rfl | rfl
      all_goals exact Or.inl (Option.some.inj h).symm
    | true =>
      rcases he with rfl | rfl | rfl | rfl | rfl | rfl | rfl | rfl
      case inr.inr.inr.inl | inr.inr.inr.inr.inl => exact Or.inr ⟨rfl, (Option.some.inj h).symm⟩
      all_goals exact Or.inl (Option.some.inj h).symm
  | object | object2 => rcases he with rfl | rfl | rfl | rfl | rfl | rfl | rfl | rfl <;> cases h
  | _ => cases h

/-- A beat that the editor put in can be told. -/
theorem Inserted.performs (hw : w.Built) (hid : w.Identified) (hhere : here ∈ w.settings)
    (hsetting : c₀.objectIn .setting = some here) (h : Inserted (Ready (· ∈ w.mentions) c₀) n) :
    ∃ e, n.kind = .event e ∧ Performs e n := by
  obtain ⟨e, s, hkind, hs, hready, hsubject⟩ := h.subject
  have hlegs : n.hasLegs = s.legs.isSome := by
    unfold Node.hasLegs Node.stateIn
    rw [hs]
    rfl
  have hinserted : e.isInserted = true := by
    unfold Event.isInserted
    rw [Bool.or_eq_true]
    exact hsubject.imp And.left And.left
  refine ⟨e, hkind, isTransient_of_inserted hinserted, fun r g hg =>
    ⟨declares_of_cast hkind hg, ?_⟩⟩
  rcases hsubject with ⟨hopening, p, hp, hscenery⟩ | ⟨haside, hcharacter⟩
  · rcases cast_opening hopening hg with ⟨rfl, rfl⟩ | ⟨rfl, rfl, rfl⟩
    · exact ⟨_, hs, s.object, p, rfl, hp, hscenery⟩
    · obtain ⟨o, ho⟩ := h.object hkind
      exact ⟨_, ho, nofun⟩
  · have hcomplete := hready.complete hw hid hhere hsetting hcharacter
    obtain ⟨rfl, hguise⟩ := cast_aside haside hg
    rcases hguise with rfl | ⟨hsuited, rfl⟩
    · exact ⟨_, hs, s, rfl, hcomplete⟩
    · exact ⟨_, hs, s, rfl, hcomplete, hlegs ▸ hsuited⟩

end Beats

/-! ## Scenes -/

section Scenes

variable {w : World} {c₀ c : StoryNode} {here : Object} {I : Context → Prop} [Lasting I]

omit [Lasting I] in
/-- A scene that is finished can be told. -/
theorem Finished.tellable (hw : w.Built) (hid : w.Identified) (hhere : here ∈ w.settings)
    (hsetting : c₀.objectIn .setting = some here) (hacted : c₀.Everywhere (Acted w))
    (h : Finished (Ready (· ∈ w.mentions) c₀) c₀ c) : Tellable c := by
  intro m hm
  rcases h.events.mem hm with ⟨n, hn, hcarries⟩ | hinserted
  · obtain ⟨hn, hlasting⟩ := List.mem_filter.1 hn
    obtain ⟨e, he⟩ := Option.isSome_iff_exists.1 (isSome_event?_of_mem_events hn)
    have hkind : n.kind = .event e := by
      unfold Node.event? StoryKind.event? at he
      split at he
      · rename_i e' hkind
        rw [hkind, Option.some.inj he]
      · cases he
    have henacted : Acted w n.kind n.attributes := hacted n (List.mem_filter.1 hn).1
    rw [hkind] at henacted
    unfold Node.isLasting at hlasting
    rw [he, Option.any_some, Bool.not_eq_true'] at hlasting
    refine ⟨e, hcarries.kind.trans hkind,
      hcarries.performs hw hid hhere hsetting hkind henacted hlasting fun hpose => ?_⟩
    obtain ⟨p, hp, hscenery, -⟩ := hw.site here hhere
    obtain ⟨o, ho, hfixed⟩ := List.any_eq_true.1 hscenery
    have hprop : IsScenery (c₀.objectIn .setting) o := by
      rw [hsetting]
      exact ⟨p, hp, ho, by simpa using hfixed⟩
    exact h.propped ⟨o, hprop⟩ m hm (hcarries.kind.trans (hpose ▸ hkind))
  · exact hinserted.performs hw hid hhere hsetting

/-- A scene in one of the settings can be opened. -/
theorem Carried.opens {keep : StoryNode → Bool} (hw : w.Built) (hid : w.Identified)
    (hhere : here ∈ w.settings) (hsetting : c₀.get? .setting = some (.object here))
    (hc : SceneOf sequences c) (h : Carried (Ready (· ∈ w.mentions) c₀) keep c₀ c) :
    Ends I (fun _ => False) (Opened c) (openScene c) := by
  have hplace : c.objectIn .setting = some here := by
    have hrel := h.setting
    rw [hsetting] at hrel
    unfold Node.objectIn
    generalize c.get? .setting = v at hrel
    cases hrel with
    | some hbecomes =>
      obtain ⟨s, rfl, hbeq, hs⟩ := hbecomes
      obtain rfl := hid.eq_of_beq hs.placed.1 (mentions_setting hhere) hbeq
      rfl
  refine openScene_ends hc (fun hnone => ?_) fun place hsome hbare => ?_
  · exact absurd (hplace.symm.trans hnone) (Option.some_ne_none here)
  · obtain rfl := Option.some.inj (hplace.symm.trans hsome)
    obtain ⟨p, hp, hscenery, -⟩ := hw.site here hhere
    exact Bool.false_ne_true ((hbare p hp).symm.trans hscenery)

end Scenes

/-! ## Stories -/

section Stories

variable {w : World} {n : StoryNode} {I : Context → Prop} [Lasting I]

/-- A story whose scenes can all be told, each with a look at its setting. -/
structure Readable (n : StoryNode) : Prop extends StoryOf arrangement n where
  tellable : ∀ c ∈ n.children, Tellable c
  look : ∀ c ∈ n.children, Look c

/-- The editor makes a readable story of what a world is told by, with a scene where there is one. -/
theorem edit_readable (e : Editor) (hw : w.Built) (hid : w.Identified)
    (hn : StoryOf sequences n) (hacted : n.Everywhere (Acted w)) :
    Yields (fun m : Narration => I m.context)
      (fun p => Outcome (fun _ => False)
        (fun out => Readable out ∧ (n.children ≠ [] → out.children ≠ [])) p.1) (e.edit n) := by
  have hmerged := (mergeAdjacentScenes_story hn).1
  have hacted' := mergeAdjacentScenes_everywhere hacted
  have hbare : n.Everywhere Bare := fun m hm => (hacted m hm).bare
  have hcovered : n.Everywhere (Covered (· ∈ w.mentions)) := fun m hm => (hacted m hm).covered
  have hopens : ∀ c₀ ∈ (mergeAdjacentScenes n).children, ∀ c, SceneOf sequences c →
      Carried (Ready (· ∈ w.mentions) c₀) Node.isLasting c₀ c →
      Ends I (fun _ => False) (Opened c) (openScene c) := by
    intro c₀ hc₀ c hc hcarried
    obtain ⟨here, hhere, hsetting⟩ := setting_of_acted hacted' hc₀ (hmerged.scenes c₀ hc₀).kind
    exact hcarried.opens hw hid hhere hsetting hc
  refine (edit_yields e hn hbare hcovered hopens).imp fun p hp => hp.imp fun out hout => ?_
  refine ⟨⟨hout.storyOf fun _ _ h => h.scene, fun c hc => ?_, fun c hc => ?_⟩, fun hscenes hnone => ?_⟩
  · obtain ⟨c₀, hc₀, hfinished⟩ := exists_of_mem_right hout.scenes hc
    obtain ⟨here, hhere, hsetting⟩ := setting_of_acted hacted' hc₀ (hmerged.scenes c₀ hc₀).kind
    have hobject : c₀.objectIn .setting = some here := by
      unfold Node.objectIn
      rw [hsetting]
      rfl
    exact hfinished.tellable hw hid hhere hobject (hacted'.of_mem hc₀)
  · obtain ⟨c₀, -, hfinished⟩ := exists_of_mem_right hout.scenes hc
    exact hfinished.look
  · have hlength := hout.scenes.length_eq
    rw [hnone, List.length_nil, List.length_eq_zero_iff] at hlength
    exact mergeAdjacentScenes_ne_nil hscenes hlength

end Stories

end SpaceOpera
