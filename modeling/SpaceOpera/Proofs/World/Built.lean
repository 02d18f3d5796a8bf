import SpaceOpera.Proofs.Chance.Outcomes
import SpaceOpera.Proofs.Insertion
import SpaceOpera.World.Spec

/-!
# What the worlds that are built have in common

Whatever description a world is built from, it has a home and a cast; its settings are places with scenery
that lead to settings of the world; and those who play in it are characters who live in its settings.
-/

namespace SpaceOpera

/-- A place with scenery; the way outside leads to one of the settings. -/
def Object.IsSite (settings : List Object) (o : Object) : Prop :=
  ∃ p, o.place? = some p ∧ p.hasScenery = true ∧ ∀ out, p.outside = some out → out ∈ settings

/-- A character who lives, if anywhere, in one of the settings. -/
structure Object.Dwells (settings : List Object) (o : Object) : Prop where
  character : o.isCharacter = true
  home : ∀ h, o.home = some h → h ∈ settings

/-- A world as descriptions make it. -/
structure World.Built (w : World) : Prop where
  settings : w.settings ≠ []
  protagonists : w.protagonists ≠ []
  site : ∀ o ∈ w.settings, o.IsSite w.settings
  dweller : ∀ o ∈ w.protagonists ++ w.antagonists, o.Dwells w.settings

/-- The settings keyed so far. -/
def Keyed.settings (keyed : Keyed) : List Object :=
  keyed.map (·.2)

/-- Every setting leads to one of the settings. -/
def Keyed.Laid (keyed : Keyed) : Prop :=
  ∀ o ∈ keyed.settings, o.IsSite keyed.settings

section Building

variable {E : WorldError → Prop} {keyed : Keyed}

theorem Keyed.find_outcome (hE : ∀ e, E e) (key referrer : String) :
    Outcome E (· ∈ keyed.settings) (keyed.find key referrer) := by
  unfold Keyed.find
  cases hfound : keyed.lookup key with
  | none => exact hE _
  | some o =>
    obtain ⟨front, back, hsplit, -⟩ := List.lookup_eq_some_iff.1 hfound
    refine List.mem_map.2 ⟨(key, o), ?_, rfl⟩
    rw [hsplit]
    exact List.mem_append_right front List.mem_cons_self

theorem SettingSpec.build_outcome (hE : ∀ e, E e) (s : SettingSpec) :
    Outcome E (Object.IsSite keyed.settings) (s.build keyed) := by
  unfold SettingSpec.build
  dsimp only
  split
  · exact hE _
  refine Outcome.bind (Outcome.anything hE _) fun _ _ => ?_
  refine Outcome.bind (Outcome.anything hE _) fun nearby _ => ?_
  refine Outcome.bind (Outcome.anything hE _) fun roof _ => ?_
  split
  · exact hE _
  rename_i hscenery
  refine Outcome.bind (P := fun out => ∀ o, out = some o → o ∈ keyed.settings) ?_ fun out hout => ?_
  · cases s.outside with
    | none => exact nofun
    | some key =>
      refine Outcome.bind (Keyed.find_outcome hE key s.key) fun o ho => ?_
      exact fun o' ho' => Option.some.inj ho' ▸ ho
  refine ⟨_, rfl, ?_, hout⟩
  simpa [Place.hasScenery] using hscenery

theorem buildSettings_outcome (hE : ∀ e, E e) (specs : List SettingSpec) (h : keyed.Laid) :
    Outcome E (fun keyed' => keyed'.Laid ∧ (specs ≠ [] ∨ keyed.settings ≠ [] → keyed'.settings ≠ []))
      (buildSettings specs keyed) := by
  induction specs generalizing keyed with
  | nil => exact ⟨h, fun hne => hne.elim (absurd rfl) id⟩
  | cons s specs ih =>
    rw [buildSettings]
    refine Outcome.bind (SettingSpec.build_outcome hE s) fun o ho => ?_
    have hsettings : Keyed.settings (keyed ++ [(s.key, o)]) = keyed.settings ++ [o] :=
      List.map_append
    have hwider : ∀ o' : Object, o'.IsSite keyed.settings → o'.IsSite (keyed.settings ++ [o]) := by
      rintro o' ⟨p, hp, hscenery, hout⟩
      exact ⟨p, hp, hscenery, fun out h => List.mem_append_left _ (hout out h)⟩
    have hlaid : Keyed.Laid (keyed ++ [(s.key, o)]) := by
      unfold Keyed.Laid
      rw [hsettings]
      refine List.forall_mem_append.2 ⟨fun o' ho' => hwider o' (h o' ho'), fun o' ho' => ?_⟩
      rw [List.mem_singleton.1 ho']
      exact hwider o ho
    refine (ih hlaid).imp fun keyed' hkeyed' => ⟨hkeyed'.1, fun _ => hkeyed'.2 (Or.inr ?_)⟩
    rw [hsettings]
    exact List.append_ne_nil_of_right_ne_nil _ (List.cons_ne_nil _ _)

variable {I : Context → Prop} [Lasting I]

theorem Traits.roll_yields (archetype : Archetype) (gender : Gender) :
    Yields I (fun _ => True) (Traits.roll archetype gender) := by
  unfold Traits.roll
  refine (Roll.word_yields _).bind fun _ _ => ?_
  refine (Roll.word_yields _).bind fun _ _ => ?_
  refine (Roll.word_yields _).bind fun _ _ => ?_
  refine (Roll.word_yields _).bind fun _ _ => ?_
  refine (Roll.word_yields _).bind fun _ _ => ?_
  refine (Roll.word_yields _).bind fun _ _ => ?_
  refine (Roll.word_yields _).bind fun _ _ => ?_
  exact (Roll.word_yields _).bind fun _ _ => Yields.pure trivial

theorem CharacterSpec.rollTraits_yields (c : CharacterSpec) :
    Yields I (fun _ => True) c.rollTraits := by
  unfold CharacterSpec.rollTraits
  split
  · exact Yields.pure trivial
  · exact Traits.roll_yields _ _

theorem CharacterSpec.build_ends (hE : ∀ e, E e) (c : CharacterSpec) :
    Ends I E (Object.Dwells keyed.settings) (c.build keyed) := by
  unfold CharacterSpec.build
  refine Ends.bind (Ends.liftExcept (Outcome.anything hE _)) fun _ _ => ?_
  refine Ends.bind (Ends.drawn c.rollTraits_yields) fun traits _ => ?_
  refine Ends.bind (Ends.liftExcept (Keyed.find_outcome hE _ _)) fun home hhome => ?_
  refine Ends.bind (P := fun _ => True) ?_ fun weapon _ => Ends.pure ⟨rfl, ?_⟩
  · cases c.weapon with
    | none => exact Ends.pure trivial
    | some t => exact Ends.bind (Ends.liftExcept (Outcome.anything hE _)) fun _ _ => Ends.pure trivial
  · exact fun h hh => Option.some.inj hh ▸ hhome

theorem buildAll_ends (hE : ∀ e, E e) (specs : List CharacterSpec) :
    Ends I E (fun os => (∀ o ∈ os, o.Dwells keyed.settings) ∧ os.length = specs.length)
      (specs.mapM (·.build keyed)) := by
  have hdwells := Ends.mapM (I := I) (S := fun _ o => Object.Dwells keyed.settings o) specs
    fun c _ => CharacterSpec.build_ends hE c
  refine hdwells.imp (fun _ h => h) fun os hos => ⟨fun o ho => ?_, hos.length_eq.symm⟩
  obtain ⟨-, -, hdweller⟩ := exists_of_mem_right hos ho
  exact hdweller

theorem ThingSpec.build_outcome (hE : ∀ e, E e) (t : ThingSpec) (entry : Entry) :
    Outcome E (fun o => o.isCharacter = false) (t.build entry) := by
  unfold ThingSpec.build
  refine Outcome.bind (Outcome.anything hE _) fun _ _ => ?_
  dsimp only
  cases t.plural <;> cases t.proper <;> rfl

/-- A description that is accepted makes a world of settings with scenery, of characters who live in
them, and of items that are no characters. -/
theorem build_made (spec : WorldSpec) :
    Ends I (fun _ => True) (fun w => w.Built ∧ ∀ o ∈ w.macguffins, o.isCharacter = false)
      spec.build := by
  have hE : ∀ e : WorldError, True := fun _ => trivial
  unfold WorldSpec.build
  dsimp only
  split
  · exact Ends.throw trivial
  rename_i hsettings
  split
  · exact Ends.throw trivial
  rename_i hprotagonists
  have hnone : Keyed.Laid [] := fun o ho => absurd ho List.not_mem_nil
  refine Ends.bind (Ends.liftExcept (buildSettings_outcome hE spec.settings hnone))
    fun keyed hkeyed => ?_
  refine Ends.bind (buildAll_ends hE spec.protagonists) fun protagonists hcast => ?_
  refine Ends.bind (buildAll_ends hE spec.antagonists) fun antagonists hothers => ?_
  have hthings : ∀ (entry : Entry) (specs : List ThingSpec), Ends I (fun _ : WorldError => True)
      (List.Forall₂ (fun _ o => Object.isCharacter o = false) specs)
      (specs.mapM fun t => (liftM (t.build entry) : Attempt WorldError Object)) := fun entry specs =>
    Ends.mapM specs fun t _ => Ends.liftExcept (t.build_outcome hE entry)
  refine Ends.bind (hthings .goons spec.goons) fun goons _ => ?_
  refine Ends.bind (hthings .macguffin spec.macguffins) fun macguffins hitems => Ends.pure ⟨?_, ?_⟩
  · refine ⟨hkeyed.2 (Or.inl ?_), ?_, hkeyed.1, List.forall_mem_append.2 ⟨hcast.1, hothers.1⟩⟩
    · exact fun hnone => hsettings (List.isEmpty_iff.2 hnone)
    · rintro rfl
      exact hprotagonists (List.isEmpty_iff.2 (List.length_eq_zero_iff.1 hcast.2.symm))
  · intro o ho
    obtain ⟨-, -, hitem⟩ := exists_of_mem_right hitems ho
    exact hitem

theorem build_ends (spec : WorldSpec) : Ends I (fun _ => True) World.Built spec.build :=
  (build_made spec).imp (fun _ h => h) fun _ h => h.1

end Building

/-! ## What a story can mention -/

/-- A setting with what is in it. -/
def Object.furnished (o : Object) : List Object :=
  o :: (o.place?.map fun p => p.roof :: p.nearby).getD []

/-- Everything that a story set in the world can mention: the settings with what is in them, the cast with
their weapons, the goons and items, and the duties that come of losing someone or something. -/
def World.mentions (w : World) : List Object :=
  w.settings.flatMap Object.furnished
    ++ (w.protagonists ++ w.antagonists)
    ++ (w.protagonists ++ w.antagonists).filterMap Object.weapon
    ++ w.goons ++ w.macguffins
    ++ w.protagonists.map Object.rescueDuty ++ w.macguffins.map Object.retrieveDuty

/-- Names tell apart whatever a story can mention. -/
def World.Identified (w : World) : Prop :=
  ∀ a ∈ w.mentions, ∀ b ∈ w.mentions, a.names = b.names → a = b

section Mentions

variable {w : World} {s o : Object}

theorem mem_mentions_iff : o ∈ w.mentions ↔
    (∃ s ∈ w.settings, o ∈ s.furnished) ∨ o ∈ w.protagonists ++ w.antagonists ∨
      (∃ m ∈ w.protagonists ++ w.antagonists, m.weapon = some o) ∨ o ∈ w.goons ∨
      o ∈ w.macguffins ∨ (∃ m ∈ w.protagonists, m.rescueDuty = o) ∨
      ∃ m ∈ w.macguffins, m.retrieveDuty = o := by
  simp only [World.mentions, List.mem_append, List.mem_flatMap, List.mem_filterMap, List.mem_map,
    or_assoc]

theorem mentions_setting (h : s ∈ w.settings) : s ∈ w.mentions :=
  mem_mentions_iff.2 (Or.inl ⟨s, h, List.mem_cons_self⟩)

theorem mentions_roof {p : Place Object} (h : s ∈ w.settings) (hp : s.place? = some p) :
    p.roof ∈ w.mentions := by
  refine mem_mentions_iff.2 (Or.inl ⟨s, h, List.mem_cons_of_mem _ ?_⟩)
  rw [hp]
  exact List.mem_cons_self

theorem mentions_nearby {p : Place Object} (h : s ∈ w.settings) (hp : s.place? = some p)
    (ho : o ∈ p.nearby) : o ∈ w.mentions := by
  refine mem_mentions_iff.2 (Or.inl ⟨s, h, List.mem_cons_of_mem _ ?_⟩)
  rw [hp]
  exact List.mem_cons_of_mem _ ho

theorem mentions_protagonist (h : o ∈ w.protagonists) : o ∈ w.mentions :=
  mem_mentions_iff.2 (Or.inr (Or.inl (List.mem_append_left _ h)))

theorem mentions_antagonist (h : o ∈ w.antagonists) : o ∈ w.mentions :=
  mem_mentions_iff.2 (Or.inr (Or.inl (List.mem_append_right _ h)))

theorem mentions_weapon {m : Object} (h : m ∈ w.protagonists) (ho : m.weapon = some o) :
    o ∈ w.mentions :=
  mem_mentions_iff.2 (Or.inr (Or.inr (Or.inl ⟨m, List.mem_append_left _ h, ho⟩)))

theorem mentions_goons (h : o ∈ w.goons) : o ∈ w.mentions :=
  mem_mentions_iff.2 (Or.inr (Or.inr (Or.inr (Or.inl h))))

theorem mentions_macguffin (h : o ∈ w.macguffins) : o ∈ w.mentions :=
  mem_mentions_iff.2 (Or.inr (Or.inr (Or.inr (Or.inr (Or.inl h)))))

theorem mentions_rescueDuty (h : o ∈ w.protagonists) : o.rescueDuty ∈ w.mentions :=
  mem_mentions_iff.2 (Or.inr (Or.inr (Or.inr (Or.inr (Or.inr (Or.inl ⟨o, h, rfl⟩))))))

theorem mentions_retrieveDuty (h : o ∈ w.macguffins) : o.retrieveDuty ∈ w.mentions :=
  mem_mentions_iff.2 (Or.inr (Or.inr (Or.inr (Or.inr (Or.inr (Or.inr ⟨o, h, rfl⟩))))))

theorem World.Identified.eq_of_beq (h : w.Identified) {a b : Object} (ha : a ∈ w.mentions)
    (hb : b ∈ w.mentions) (hab : (a == b) = true) : a = b :=
  h a ha b hb (Object.beq_iff.1 hab)

end Mentions

end SpaceOpera
