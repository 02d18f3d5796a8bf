import SpaceOpera.Proofs.Editor.Dressing
import SpaceOpera.Proofs.Editor.Preservation
import SpaceOpera.Proofs.Editor.Values

/-!
# One outfit for a scene

Scenes that do not nest hand their settings and their outfits down to all that is in them (`Dressed`), and
every pass of the editor keeps what is handed down.  So all states of a character in one scene are in its
setting and wear the same: `edit_attires`.
-/

namespace SpaceOpera

open StoryNode (ofEvent scene sequence)

/-! ## Scenes apart -/

/-- No scene stands in another one. -/
def Node.Unnested (n : StoryNode) : Prop :=
  ∀ c ∈ n.preorder, c.kind = .scene → ∀ d ∈ c.children, d.Everywhere fun k _ => k ≠ .scene

/-- Where scenes do not nest, they satisfy `C`, and all states in them what `S` says for what `C` found;
outside of scenes there is nothing to say. -/
inductive InScene {Z : Type} (C : Attributes → Z → Prop) (S : Z → State → Prop) :
    Option Z → StoryKind → Attributes → Option Z → Prop
  | outside {k : StoryKind} {a : Attributes} (hk : k ≠ .scene) : InScene C S none k a none
  | scene {a : Attributes} {z : Z} (hC : C a z) (ha : a.EachState (S z)) :
      InScene C S none .scene a (some z)
  | inside {k : StoryKind} {a : Attributes} {z : Z} (hk : k ≠ .scene) (ha : a.EachState (S z)) :
      InScene C S (some z) k a (some z)

section Scenes

variable {Z : Type} {C : Attributes → Z → Prop} {S : Z → State → Prop} {n : StoryNode}
  {k : StoryKind} {a a' : Attributes} {cs ns : List StoryNode} {held : StoryNode}

theorem unnested_mk : Node.Unnested ⟨k, a, cs⟩ ↔
    (k = .scene → ∀ d ∈ cs, d.Everywhere fun k _ => k ≠ .scene) ∧ ∀ c ∈ cs, c.Unnested := by
  unfold Node.Unnested
  rw [Node.preorder_mk, List.forall_mem_cons, Node.preorderList_eq_flatMap]
  refine and_congr_right fun _ => ?_
  simp only [List.mem_flatMap, forall_exists_index, and_imp]
  exact ⟨fun h c hc d hd => h d c hc hd, fun h d c hc hd => h c hc d hd⟩

theorem mergeFrom_unnested (hheld : held.Unnested) (hns : ∀ n ∈ ns, n.Unnested) :
    ∀ c ∈ mergeFrom held ns, c.Unnested := by
  induction ns generalizing held with
  | nil => exact fun c hc => List.mem_singleton.1 hc ▸ hheld
  | cons n ns ih =>
    obtain ⟨hn, hrest⟩ := List.forall_mem_cons.1 hns
    rw [mergeFrom]
    split
    · rename_i hcontinues
      unfold continues at hcontinues
      simp only [Node.isScene, Bool.and_eq_true, decide_eq_true_eq] at hcontinues
      obtain ⟨⟨-, hscene⟩, -⟩ := hcontinues
      obtain ⟨k, a, cs⟩ := held
      obtain ⟨k', a', ds⟩ := n
      obtain ⟨hcs, hbelow⟩ := unnested_mk.1 hheld
      obtain ⟨hds, hbelow'⟩ := unnested_mk.1 hn
      exact ih (unnested_mk.2 ⟨fun hk => List.forall_mem_append.2 ⟨hcs hk, hds hscene⟩,
        List.forall_mem_append.2 ⟨hbelow, hbelow'⟩⟩) hrest
    · exact List.forall_mem_cons.2 ⟨hheld, ih hn hrest⟩

theorem mergeAdjacentScenes_unnested (h : n.Unnested) : (mergeAdjacentScenes n).Unnested := by
  unfold mergeAdjacentScenes
  split
  · exact h
  · rename_i c cs hcs
    obtain ⟨k, a, ds⟩ := n
    obtain rfl : ds = c :: cs := hcs
    obtain ⟨hroot, hds⟩ := unnested_mk.1 h
    obtain ⟨hc, hrest⟩ := List.forall_mem_cons.1 hds
    refine unnested_mk.2 ⟨fun hk => ?_, mergeFrom_unnested hc hrest⟩
    obtain ⟨hfirst, hlater⟩ := List.forall_mem_cons.1 (hroot hk)
    exact mergeFrom_everywhere hfirst hlater

mutual

theorem conforms_of_unnested {C : Attributes → Unit → Prop} : ∀ n : StoryNode, n.Unnested →
    (n.Everywhere fun k a => k = .scene → C a ()) → n.Conforms (InScene C fun _ _ => True) none
  | ⟨k, a, cs⟩, h, hC => by
    obtain ⟨hroot, hcs⟩ := unnested_mk.1 h
    obtain ⟨ha, hbelow⟩ := Node.everywhere_mk.1 hC
    by_cases hk : k = .scene
    · subst hk
      exact .mk (.scene (ha rfl) fun _ _ _ => trivial) fun c hc =>
        Node.Everywhere.conforms (fun _ _ hk => .inside hk fun _ _ _ => trivial) c (hroot rfl c hc)
    · exact .mk (.outside hk) (conforms_of_unnestedList cs hcs hbelow)

theorem conforms_of_unnestedList {C : Attributes → Unit → Prop} : ∀ cs : List StoryNode,
    (∀ c ∈ cs, c.Unnested) → (∀ c ∈ cs, c.Everywhere fun k a => k = .scene → C a ()) →
      ∀ c ∈ cs, c.Conforms (InScene C fun _ _ => True) none
  | [], _, _ => nofun
  | c :: cs, h, hC => by
    obtain ⟨hc, hcs⟩ := List.forall_mem_cons.1 h
    obtain ⟨hCc, hCcs⟩ := List.forall_mem_cons.1 hC
    exact List.forall_mem_cons.2 ⟨conforms_of_unnested c hc hCc, conforms_of_unnestedList cs hcs hCcs⟩

end

theorem everywhere_of_inside {z : Z} (h : n.Conforms (InScene C S) (some z)) :
    n.Everywhere fun k a => k ≠ .scene ∧ a.EachState (S z) := by
  refine h.everywhere fun k a y ha => ?_
  cases ha with
  | inside hk ha => exact ⟨⟨hk, ha⟩, rfl⟩

/-- What is said of scenes is so of every scene and of every state in it. -/
theorem exists_of_scene (h : n.Conforms (InScene C S) none) : ∀ c ∈ n.preorder, c.kind = .scene →
    ∃ z, C c.attributes z ∧ c.Everywhere fun _ a => a.EachState (S z) := by
  generalize hx : (none : Option Z) = x at h
  induction h with
  | @mk x y k a cs ha hcs ih =>
    subst hx
    intro c hc hk
    cases ha with
    | outside hk' =>
      obtain rfl | ⟨d, hd, hc⟩ := Node.mem_preorder_iff.1 hc
      · exact absurd hk hk'
      · exact ih d hd rfl c hc hk
    | @scene _ z hC ha =>
      have hinside := fun d hd => everywhere_of_inside (hcs d hd)
      obtain rfl | ⟨d, hd, hc⟩ := Node.mem_preorder_iff.1 hc
      · exact ⟨z, hC, Node.everywhere_mk.2 ⟨ha, fun d hd m hm => (hinside d hd m hm).2⟩⟩
      · exact absurd hk (hinside d hd c hc).1

theorem inScene_stable : Stable (InScene C S) where
  same ha hk := by
    cases ha with
    | outside => rfl
    | scene => exact absurd rfl hk
    | inside => rfl
  group x k hk := by
    cases x with
    | none => exact .outside (StoryKind.ne_scene_of_isGroup hk)
    | some z => exact .inside (StoryKind.ne_scene_of_isGroup hk) Attributes.eachState_empty
  aside ha hv e' _ := by
    cases ha with
    | outside => exact .outside nofun
    | inside _ ha => exact .inside nofun (ha.aside hv)

/-- States are changed in their places, and so what is said of scenes changes with them. -/
theorem InScene.updated {C' : Attributes → Z → Prop} {S' : Z → State → Prop} {F : State → State → Prop}
    {x y : Option Z} (h : InScene C S x k a y) (ha : a.Updated F a')
    (hC : ∀ z, C a z → C' a' z) (hS : ∀ z s s', y = some z → S z s → F s s' → S' z s') :
    InScene C' S' x k a' y := by
  cases h with
  | outside hk => exact .outside hk
  | @scene _ z hCa hstates => exact .scene (hC z hCa) (hstates.updated ha fun s s' => hS z s s' rfl)
  | @inside _ _ z hk hstates => exact .inside hk (hstates.updated ha fun s s' => hS z s s' rfl)

end Scenes

/-! ## Attire -/

/-- The second state is of the same object in the same place and in the same clothes. -/
structure State.Stays (s s' : State) : Prop where
  object : s'.object = s.object
  location : s'.location = s.location
  torso : s'.torso = s.torso
  legs : s'.legs = s.legs
  feet : s'.feet = s.feet

/-- A character is in the place and wears what the ledger has for it. -/
structure State.Attired (place : Option Object) (outfits : Ledger Outfit) (s : State) : Prop where
  located : s.object.isCharacter = true → ∀ o, place = some o → s.location = some o
  dressed : s.object.isCharacter = true → ∃ outfit, outfits.get? s.object = some outfit ∧
    s.torso = some outfit.torso ∧ s.legs = outfit.legs ∧ s.feet = some outfit.feet

/-- The scene is in the setting, and nobody is there whom no event brings along. -/
def Setting (a : Attributes) (setting : Option Object) : Prop :=
  (a.get? .setting).bind Value.object? = setting ∧ ∀ place, setting = some place → Unpeopled place

/-- Scenes with their settings, which are as `P` says, and the outfits in them. -/
abbrev Dressed (P : Option Object → Prop) : Option (Option Object × Ledger Outfit) → StoryKind →
    Attributes → Option (Option Object × Ledger Outfit) → Prop :=
  InScene (fun a z => Setting a z.1 ∧ P z.1) fun z s => s.Attired z.1 z.2

section Attire

variable {s s' : State} {place : Option Object} {outfits : Ledger Outfit} {k : StoryKind}
  {a a' : Attributes} {n story out : StoryNode}

theorem State.Tempered.stays (h : s.Tempered s') : s.Stays s' := by
  rcases h with ⟨-, rfl⟩ | ⟨m, rfl, -⟩
  · exact ⟨rfl, rfl, rfl, rfl, rfl⟩
  · exact ⟨rfl, rfl, rfl, rfl, rfl⟩

theorem State.Burdened.stays (h : s.Burdened s') : s.Stays s' := by
  obtain ⟨duties, rfl⟩ := h
  exact ⟨rfl, rfl, rfl, rfl, rfl⟩

theorem State.Retold.stays (h : s.Retold s') : s.Stays s' := by
  obtain ⟨isReferent, firstOccurrence, rfl⟩ := h
  exact ⟨rfl, rfl, rfl, rfl, rfl⟩

theorem State.Attired.stays (h : s.Attired place outfits) (k : s.Stays s') :
    s'.Attired place outfits := by
  obtain ⟨hobject, hlocation, htorso, hlegs, hfeet⟩ := k
  refine ⟨?_, ?_⟩
  · rw [hobject, hlocation]
    exact h.located
  · rw [hobject, htorso, hlegs, hfeet]
    exact h.dressed

theorem Setting.updated {F : State → State → Prop} {setting : Option Object} (h : Setting a setting)
    (ha : a.Updated F a') (hF : ∀ s s', F s s' → s'.object = s.object) : Setting a' setting :=
  ⟨(objectIn_updated hF ha .setting).trans h.1, h.2⟩

theorem Dressed.stays {P : Option Object → Prop} {F : State → State → Prop}
    {x y : Option (Option Object × Ledger Outfit)} (h : Dressed P x k a y) (ha : a.Updated F a')
    (hF : ∀ s s', F s s' → s.Stays s') : Dressed P x k a' y :=
  InScene.updated h ha (fun _ hz => ⟨hz.1.updated ha fun s s' hss => (hF s s' hss).object, hz.2⟩)
    fun _ s s' _ hs hss => hs.stays (hF s s' hss)

/-- Once every plain object is a state, the scenes have their settings. -/
theorem setting_of_freshened
    (h : n.Conforms (fun x k a y => Freshened story.Knows given
      (fun k a => InScene (fun a _ => DesertedIn story .scene a) (fun _ _ => True) x k a y) k a)
      (none : Option Unit)) :
    n.Conforms (InScene Setting fun _ _ => True) none := by
  refine h.translate (T := fun x z => x.isSome = z.isSome) rfl fun x z k a y hx ha => ?_
  obtain ⟨a₀, h₀, -⟩ := ha.before
  cases h₀ with
  | outside hk =>
    obtain rfl := Option.isNone_iff_eq_none.1 (by simpa using hx.symm)
    exact ⟨none, rfl, .outside hk⟩
  | scene =>
    obtain rfl := Option.isNone_iff_eq_none.1 (by simpa using hx.symm)
    refine ⟨some _, rfl, .scene ⟨rfl, fun place hplace => ?_⟩ fun _ _ _ => trivial⟩
    refine ha.unpeopled (fun a₁ h₁ => ?_) rfl hplace
    cases h₁ with
    | scene hC => exact hC
  | inside hk =>
    obtain ⟨z, rfl⟩ := Option.isSome_iff_exists.1 hx.symm
    exact ⟨some z, rfl, .inside hk fun _ _ _ => trivial⟩

/-- Wherever a scene has a setting, its characters are there. -/
theorem located_of_setting (h : n.Conforms (InScene Setting fun _ _ => True) none) :
    (assignLocations none n).Conforms (InScene Setting fun place s =>
      s.object.isCharacter = true → ∀ o, place = some o → s.location = some o) none := by
  refine assignLocations_conforms (R := fun x r => ∀ place, x = some place → r = place)
    (fun x k a y r ha hr => ?_) (fun x k a a' y r ha hr ha' => ?_) nofun h
  · cases ha with
    | outside => exact nofun
    | scene hC =>
      rintro place hplace
      obtain rfl := Option.some.inj hplace
      exact hC.1
    | inside hk =>
      rw [enterScene_of_ne a r hk]
      exact hr
  · refine ha.updated ha'.changed (fun _ hz => hz.updated ha'.changed ?_) fun place s s' hy _ hss => ?_
    · exact fun s s' hss => hss.moved.1
    · obtain rfl := hr place hy
      obtain ⟨location, rfl, hlocated⟩ := hss
      exact hlocated

theorem attiring_dressed : Attiring
    (InScene Setting fun place s =>
      s.object.isCharacter = true → ∀ o, place = some o → s.location = some o)
    (Dressed fun _ => True) fun x outfits => x.map fun place => (place, outfits) := by
  have hworn : ∀ {place outfits} {a a' : Attributes},
      (a.EachState fun s => s.object.isCharacter = true → ∀ o, place = some o → s.location = some o) →
      (a.Matched fun _ => Value.Updated (State.Wears outfits)) a' →
      a'.EachState (State.Attired place outfits) := by
    intro place outfits a a' ha ha'
    refine ha.updated ha'.changed fun s s' hs hss => ?_
    rcases hss with ⟨hother, rfl⟩ | ⟨outfit, houtfit, rfl⟩
    · exact ⟨hs, fun hc => absurd (hother.symm.trans hc) Bool.false_ne_true⟩
    · exact ⟨hs, fun _ => ⟨outfit, houtfit, rfl, rfl, rfl⟩⟩
  have hobject : ∀ {outfits} (s s' : State), s.Wears outfits s' → s'.object = s.object := by
    rintro outfits s s' (⟨-, rfl⟩ | ⟨-, -, rfl⟩)
    · rfl
    · rfl
  intro x k a a' y around inside ha hinside ha'
  cases ha with
  | outside hk => exact .outside hk
  | scene hC hstates => exact .scene ⟨hC.updated ha'.changed hobject, trivial⟩ (hworn hstates ha')
  | inside hk hstates =>
    obtain rfl := hinside hk
    exact .inside hk (hworn hstates ha')

/-- Opening a scene shows its setting and a thing in it. -/
theorem opening_dressed : Opening (Dressed fun _ => True) (Dressed fun place => place.isSome = true) := by
  intro x a y v place o ha hv hplace ho
  cases ha with
  | @scene _ z hC hstates =>
    obtain ⟨⟨hsetting, hdeserted⟩, -⟩ := hC
    have hz : z.1 = some place := by
      rw [← hsetting, hv]
      exact hplace
    have hthing := isCharacter_of_unpeopled (hdeserted place hz) ho
    have hscenery : State.Attired z.1 z.2 { object := o, location := some place } :=
      ⟨fun hc => absurd (hthing.symm.trans hc) Bool.false_ne_true,
        fun hc => absurd (hthing.symm.trans hc) Bool.false_ne_true⟩
    refine ⟨.scene ⟨⟨hsetting, hdeserted⟩, by rw [hz]; rfl⟩ hstates, fun c hc => ?_, fun m hm => ?_⟩
    · exact Node.Everywhere.conforms (fun _ _ h => .inside h.1 h.2) c (everywhere_of_inside hc)
    · obtain ⟨⟨e, he⟩, hattired⟩ := eachState_of_opening (hstates.of_value hv) hscenery m hm
      exact .inside (he ▸ StoryKind.event_ne_scene e) hattired
  | outside hk => exact absurd rfl hk
  | inside hk => exact absurd rfl hk

/-- What the editor has annotated is dressed scene by scene. -/
theorem annotated_dressed (hnested : story.Unnested) (hbare : story.Everywhere Bare)
    (hdeserted : story.Everywhere (DesertedIn story)) :
    Ends (fun _ => True) (fun _ => True) (Node.Conforms (Dressed fun place => place.isSome = true) none)
      (Editor.annotated story) := by
  have hmerged := conforms_of_unnested _ (mergeAdjacentScenes_unnested hnested)
    (C := fun a _ => DesertedIn story .scene a)
    fun m hm hk => hk ▸ mergeAdjacentScenes_everywhere hdeserted m hm
  refine annotated_parts (I := fun _ => True)
    (A := fun n₁ => (assignEmptyStates n₁).Conforms (InScene Setting fun _ _ => True) none)
    (B := Node.Conforms (Dressed fun _ => True) none) (C := Node.Conforms (Dressed fun _ => True) none)
    ?_ ?_ ?_ ?_
  · refine (freshened_yields (fun x y k a o ha hk => ?_) hmerged hbare (covered_knows story)).imp
      fun n₁ h₁ => setting_of_freshened h₁
    subst hk
    cases ha with
    | outside => exact .outside nofun
    | inside => exact .inside nofun fun _ _ _ => trivial
  · intro n₁ h₁
    refine (assignCostumes_dressing attiring_dressed _ (located_of_setting h₁) {}).imp fun p hp => ?_
    exact hp.2 p.2 (.refl _)
  · intro n₂ h₂
    refine removeMoodModifiers_conforms inScene_stable _
      (assignMoods_conforms {} (fun x k a a' y ha ha' => ?_) h₂)
    exact Dressed.stays ha ha'.changed fun _ _ => State.Tempered.stays
  · intro n₃ h₃
    refine describeScenes_conforms inScene_stable inScene_stable opening_dressed (fun x k a hk ha => ?_) _
      (removeDutyEvents_conforms _ (assignDuties_conforms {} (fun x k a a' y ha ha' => ?_) h₃))
    · cases ha with
      | outside => exact .outside hk
      | inside _ hstates => exact .inside hk hstates
    · exact Dressed.stays ha ha'.changed fun _ _ => State.Burdened.stays

end Attire

/-- The state is in a role of the node or of one below it. -/
def Node.Shows (n : StoryNode) (s : State) : Prop :=
  ∃ m ∈ n.preorder, ∃ r, m.get? r = some (.state s)

/-- Every character in the scene is in its setting and dressed, and always the same. -/
structure Attired (c : StoryNode) : Prop where
  located : ∃ place, c.objectIn .setting = some place ∧
    ∀ s, c.Shows s → s.object.isCharacter = true → s.location = some place
  dressed : ∀ s, c.Shows s → s.object.isCharacter = true →
    s.torso.isSome = true ∧ s.feet.isSome = true
  unchanged : ∀ s s', c.Shows s → c.Shows s' → s.object.isCharacter = true →
    s'.object.isCharacter = true → (s.object == s'.object) = true →
      s.torso = s'.torso ∧ s.legs = s'.legs ∧ s.feet = s'.feet

/-- In every scene that comes out of the editor, all states of a character are in its setting and in the same
clothes, in whatever role of whatever beat, if no object of the story that goes by the names of the setting
has a character nearby. -/
theorem edit_attires {story out : StoryNode} (e : Editor) (narration : Narration)
    (hnested : story.Unnested) (hbare : story.Everywhere Bare)
    (hdeserted : story.Everywhere (DesertedIn story))
    (hout : ((e.edit story).run narration).1.1 = .ok out) :
    ∀ c ∈ out.preorder, c.kind = .scene → Attired c := by
  have hconforms := conforms_of_edit (E := Dressed fun place => place.isSome = true) inScene_stable
    (fun x k a a' y ha ha' => Dressed.stays ha ha' fun _ _ => State.Retold.stays) e narration
    (annotated_dressed hnested hbare hdeserted) hout
  intro c hc hk
  obtain ⟨⟨place, outfits⟩, ⟨⟨hsetting, -⟩, hsome⟩, hstates⟩ := exists_of_scene hconforms c hc hk
  obtain ⟨place, rfl⟩ := Option.isSome_iff_exists.1 hsome
  have hattired : ∀ s, c.Shows s → s.Attired (some place) outfits := by
    rintro s ⟨m, hm, r, hs⟩
    exact hstates m hm r s hs
  refine ⟨⟨place, hsetting, fun s hs hc => (hattired s hs).located hc place rfl⟩, fun s hs hc => ?_,
    fun s s' hs hs' hc hc' hbeq => ?_⟩
  · obtain ⟨outfit, -, htorso, -, hfeet⟩ := (hattired s hs).dressed hc
    rw [htorso, hfeet]
    exact ⟨rfl, rfl⟩
  · obtain ⟨outfit, houtfit, htorso, hlegs, hfeet⟩ := (hattired s hs).dressed hc
    obtain ⟨outfit', houtfit', htorso', hlegs', hfeet'⟩ := (hattired s' hs').dressed hc'
    -- the ledger has one outfit for all objects of one name
    rw [← Ledger.get?_congr outfits hbeq, houtfit] at houtfit'
    obtain rfl := Option.some.inj houtfit'
    rw [htorso, htorso', hlegs, hlegs', hfeet, hfeet']
    exact ⟨rfl, rfl, rfl⟩

section Runs

theorem Body.everywhere {ks : List StoryKind} {n : StoryNode} (hks : ∀ k ∈ ks, k.isGroup = true)
    (h : Body ks n) : n.Everywhere fun k _ => k ≠ .scene := by
  induction h with
  | beat e a => exact Node.everywhere_mk.2 ⟨nofun, fun _ hc => absurd hc List.not_mem_nil⟩
  | group hk a _ ih => exact Node.everywhere_mk.2 ⟨StoryKind.ne_scene_of_isGroup (hks _ hk), ih⟩

/-- In a story of scenes that hold events in groups, no scene stands in another one. -/
theorem StoryOf.unnested {n : StoryNode} (h : StoryOf sequences n) : n.Unnested := by
  obtain ⟨k, a, cs⟩ := n
  refine unnested_mk.2 ⟨fun hk => absurd (h.kind.symm.trans hk) nofun, fun c hc => ?_⟩
  have hbody : ∀ d ∈ c.children, d.Everywhere fun k _ => k ≠ .scene := fun d hd =>
    ((h.scenes c hc).body d hd).everywhere isGroup_of_mem_sequences
  obtain ⟨k', a', ds⟩ := c
  refine unnested_mk.2 ⟨fun _ => hbody, fun d hd m hm hk => ?_⟩
  exact absurd hk (hbody d hd m hm)

theorem Node.Knows.of_covered {N : Object → Prop} {story : StoryNode} (h : story.Everywhere (Covered N))
    {o : Object} (ho : story.Knows o) : N o := by
  obtain ⟨m, hm, ⟨r, ho⟩ | ⟨hk, ho⟩⟩ := ho
  · exact (h m hm).objects r o ho
  · exact (h m hm).scenery hk o ho

/-- Nobody is near whatever is called a bridge. -/
def abandoned (o : Object) : Bool :=
  o.names != ["bridge"] || o.place?.all fun p => p.nearby.all (!·.isCharacter)

theorem tableau_deserted : tableau.Everywhere (DesertedIn tableau) := by
  have hall : (tableau.preorder.all fun m => m.attributes.entries.all fun e =>
      e.2.object?.all fun o => abandoned o && o.place?.all fun p => p.nearby.all abandoned) = true := by
    decide +kernel
  have hcovered : tableau.Everywhere (Covered (abandoned · = true)) := fun m hm =>
    covered_of_entries (List.all_eq_true.1 hall m hm)
  have hbridge : (tableau.preorder.all fun m => m.kind ≠ .scene ||
      (m.objectIn .setting).all (·.names = ["bridge"])) = true := by
    decide +kernel
  intro c hc hk place hplace o ho hbeq p hp q hq
  have hnames := List.all_eq_true.1 hbridge c hc
  rw [hk, Node.objectIn, Node.get?, hplace] at hnames
  have habandoned := ho.of_covered hcovered
  rw [abandoned, Object.beq_iff.1 hbeq, of_decide_eq_true hnames, bne_self_eq_false, Bool.false_or, hp,
    Option.all_some, List.all_eq_true] at habandoned
  simpa using habandoned q hq

/-- In the two scenes on the bridge the heroine and her friend keep their clothes on. -/
theorem edit_attires_tableau :
    tableau.Unnested ∧ tableau.Everywhere Bare ∧ tableau.Everywhere (DesertedIn tableau) ∧
      ∃ out, (((⟨50, {}⟩ : Editor).edit tableau).run stillness).1.1 = .ok out ∧
        ∀ c ∈ out.preorder, c.kind = .scene → Attired c := by
  obtain ⟨out, hout⟩ := exists_edit_tableau _ _
  have hnested := tableau_draft.scenes.unnested
  exact ⟨hnested, tableau_draft.bare, tableau_deserted, out, hout,
    edit_attires _ _ hnested tableau_draft.bare tableau_deserted hout⟩

/-- Someone poses in a cave at the model of a bridge with a captain in it, and then the scene is the bridge
itself. -/
def mockUp : StoryNode :=
  let captain := Object.ofCharacter ["Bo"] ⟨.masculine, .plain, .redhead⟩
  let model := Object.ofPlace ["bridge"] { roof := .thing ["ceiling"], nearby := [captain] }
  let cave := Object.ofPlace ["cave"] { roof := .thing ["ceiling"], nearby := [model] }
  let bridge := Object.ofPlace ["bridge"] { roof := .thing ["ceiling"], nearby := [.thing ["console"]] }
  { kind := .story, children := [
      scene cave [(ofEvent .poseDescription).set .subject (.object (.thing ["robot"]))],
      scene bridge []] }

theorem mockUp_scenes : StoryOf sequences mockUp := by
  refine ⟨rfl, fun c hc => ?_⟩
  rcases List.mem_cons.1 hc with rfl | hc
  · exact ⟨rfl, fun m hm => List.mem_singleton.1 hm ▸ .beat _ _⟩
  · rw [List.mem_singleton.1 hc]
    exact ⟨rfl, nofun⟩

theorem mockUp_bare : mockUp.Everywhere Bare := by
  have hall : (mockUp.preorder.all fun m => m.attributes.entries.all fun e => e.2.state?.isNone) = true := by
    decide
  exact fun m hm => bare_of_entries (List.all_eq_true.1 hall m hm)

theorem mockUp_settings : ∀ c ∈ mockUp.children, ∀ place, c.objectIn .setting = some place →
    Unpeopled place := by
  have hall : (mockUp.children.all fun c => (c.objectIn .setting).all fun place =>
      place.place?.all fun p => p.nearby.all (!·.isCharacter)) = true := by
    decide
  intro c hc place hplace p hp q hq
  have hnearby := List.all_eq_true.1 hall c hc
  rw [hplace, Option.all_some, hp, Option.all_some, List.all_eq_true] at hnearby
  simpa using hnearby q hq

/-- The captain of the model turns up on the bridge, with no clothes and in no mood. -/
theorem exists_apparition :
    ∃ out, (((⟨15, {}⟩ : Editor).edit mockUp).run ⟨.ofSeed 0, #[]⟩).1.1 = .ok out ∧
      ∃ c ∈ out.preorder, c.kind = .scene ∧ ∃ s, c.Shows s ∧ s.object.isCharacter = true ∧
        s.torso = none ∧ s.mood = none := by
  have hrun : ((((⟨15, {}⟩ : Editor).edit mockUp).run ⟨.ofSeed 0, #[]⟩).1.1.toOption.any fun out =>
      out.preorder.any fun c => c.isScene && c.preorder.any fun m => (m.stateIn .object).any fun s =>
        s.object.isCharacter && s.torso.isNone && s.mood.isNone) = true := by
    decide +kernel
  obtain ⟨out, hout, hscene⟩ := any_toOption.1 hrun
  obtain ⟨c, hc, hshown⟩ := List.any_eq_true.1 hscene
  obtain ⟨hkind, hshown⟩ := Bool.and_eq_true_iff.1 hshown
  obtain ⟨m, hm, hstate⟩ := List.any_eq_true.1 hshown
  obtain ⟨s, hs, hbare⟩ := (Option.any_eq_true _ _).1 hstate
  simp only [Bool.and_eq_true, Option.isNone_iff_eq_none] at hbare
  obtain ⟨v, hv, hvs⟩ := Option.bind_eq_some_iff.1 hs
  cases v with
  | state t =>
    obtain rfl := Option.some.inj hvs
    exact ⟨out, hout, c, hc, of_decide_eq_true hkind, t, ⟨m, hm, .object, hv⟩, hbare.1.1, hbare.1.2,
      hbare.2⟩
  | _ => cases hvs

/-- That nobody is near the settings of the scenes themselves is not enough: the captain stands in the scene
on the bridge without any clothes. -/
theorem mockUp_undressed :
    StoryOf sequences mockUp ∧ mockUp.Everywhere Bare ∧
      (∀ c ∈ mockUp.children, ∀ place, c.objectIn .setting = some place → Unpeopled place) ∧
      ¬∀ out, (((⟨15, {}⟩ : Editor).edit mockUp).run ⟨.ofSeed 0, #[]⟩).1.1 = .ok out →
        ∀ c ∈ out.preorder, c.kind = .scene → Attired c := by
  refine ⟨mockUp_scenes, mockUp_bare, mockUp_settings, fun h => ?_⟩
  obtain ⟨out, hout, c, hc, hk, s, hs, hcharacter, htorso, -⟩ := exists_apparition
  obtain ⟨hdressed, -⟩ := (h out hout c hc hk).dressed s hs hcharacter
  rw [htorso] at hdressed
  exact Bool.false_ne_true hdressed

end Runs

end SpaceOpera
