import SpaceOpera.Proofs.Success
import SpaceOpera.Proofs.World.Built

/-!
# Which descriptions make a world, and which world

A description is `Acceptable` if everything in it is named, its settings have scenery and keys of their own, and
every key that is referred to is declared in time.  Building succeeds on exactly these, whatever the draws are,
and the world lists what is described in the order of the description; nothing is drawn but the traits that are
not given (`build_describes`).
-/

namespace SpaceOpera

open List (Forall₂)

/-! ## Things -/

/-- The thing as it stands in the world. -/
def ThingSpec.object (t : ThingSpec) : Object :=
  { names := t.names
    noun := if t.proper then .proper else if t.plural then .plural else .common
    pronouns := if t.plural then .theyThem else .itIts
    takeable := t.takeable }

section Things

variable {entry : Entry} {t : ThingSpec} {ts : List ThingSpec} {o : Object} {os : List Object}

theorem checkNames_eq_ok_iff {names : List String} {u : Unit} :
    checkNames names entry = .ok u ↔ WellNamed names := by
  unfold checkNames
  split
  · exact iff_of_true rfl ‹_›
  · exact iff_of_false nofun ‹_›

theorem ThingSpec.build_eq (t : ThingSpec) (entry : Entry) :
    t.build entry = (checkNames t.names entry).map fun _ => t.object := by
  unfold ThingSpec.build ThingSpec.object
  cases checkNames t.names entry <;> cases t.plural <;> cases t.proper <;> rfl

theorem ThingSpec.build_eq_ok_iff : t.build entry = .ok o ↔ WellNamed t.names ∧ o = t.object := by
  rw [ThingSpec.build_eq, map_eq_ok]
  constructor
  · rintro ⟨_, hnames, rfl⟩
    exact ⟨checkNames_eq_ok_iff.1 hnames, rfl⟩
  · rintro ⟨hnames, rfl⟩
    exact ⟨(), checkNames_eq_ok_iff.2 hnames, rfl⟩

theorem buildThings_eq_ok_iff :
    ts.mapM (·.build entry) = .ok os ↔ (∀ t ∈ ts, WellNamed t.names) ∧ os = ts.map (·.object) := by
  simp only [mapM_eq_ok_iff, ThingSpec.build_eq_ok_iff]
  induction ts generalizing os with
  | nil => simp
  | cons t ts ih =>
    constructor
    · rintro (_ | ⟨⟨ht, rfl⟩, hts⟩)
      obtain ⟨hnames, rfl⟩ := ih.1 hts
      exact ⟨List.forall_mem_cons.2 ⟨ht, hnames⟩, rfl⟩
    · rintro ⟨hnames, rfl⟩
      obtain ⟨ht, hts⟩ := List.forall_mem_cons.1 hnames
      exact .cons ⟨ht, rfl⟩ (ih.2 ⟨hts, rfl⟩)

end Things

/-! ## Settings -/

/-- The names that the description of a setting gives. -/
def SettingSpec.nameLists (s : SettingSpec) : List (List String) :=
  s.names :: s.roof.names :: s.nearby.map (·.names)

/-- Everything in the setting is named, and something in it stays where it is. -/
structure SettingSpec.Sound (s : SettingSpec) : Prop where
  named : ∀ names ∈ s.nameLists, WellNamed names
  scenery : ∃ t ∈ s.nearby, t.takeable = false

/-- The setting as it stands in the world, with the setting outside it. -/
def SettingSpec.object (s : SettingSpec) (outside : Option Object) : Object :=
  Object.ofPlace s.names
    { roof := s.roof.object, nearby := s.nearby.map (·.object), indoors := s.indoors, outside
      preposition := s.preposition, hasDrones := s.hasDrones, light := s.light }

/-- Every setting brings a new key, and refers to no key that is not known before it. -/
def DeclaredInTime (known : List String) : List SettingSpec → Prop
  | [] => True
  | s :: specs => s.key ∉ known ∧ (∀ key ∈ s.outside, key ∈ known) ∧
      DeclaredInTime (known ++ [s.key]) specs

instance decidableDeclaredInTime (known : List String) (specs : List SettingSpec) :
    Decidable (DeclaredInTime known specs) :=
  match specs with
  | [] => .isTrue trivial
  | s :: specs =>
    have := decidableDeclaredInTime (known ++ [s.key]) specs
    inferInstanceAs (Decidable (_ ∧ _ ∧ _))

/-- The entry of a setting, with what its link comes to among the settings. -/
def Keyed.Holds (keyed : Keyed) (s : SettingSpec) (e : String × Object) : Prop :=
  e.1 = s.key ∧ ∃ outside, Option.Rel (fun key o => keyed.lookup key = some o) s.outside outside ∧
    e.2 = s.object outside

/-- The object stands in the place of the setting that is declared with the key. -/
def Names (specs : List SettingSpec) (os : List Object) (key : String) (o : Object) : Prop :=
  ∃ s, (s, o) ∈ specs.zip os ∧ s.key = key

section Settings

variable {s : SettingSpec} {specs : List SettingSpec} {keyed keyed' : Keyed} {o : Object}
  {key referrer : String}

theorem SettingSpec.named_iff : (∀ names ∈ s.nameLists, WellNamed names) ↔
    WellNamed s.names ∧ WellNamed s.roof.names ∧ ∀ t ∈ s.nearby, WellNamed t.names := by
  simp only [nameLists, List.forall_mem_cons, List.forall_mem_map]

theorem SettingSpec.sound_iff : s.Sound ↔ WellNamed s.names ∧ WellNamed s.roof.names ∧
    (∀ t ∈ s.nearby, WellNamed t.names) ∧ ∃ t ∈ s.nearby, t.takeable = false := by
  constructor
  · rintro ⟨h, hscenery⟩
    obtain ⟨hnames, hroof, hnearby⟩ := SettingSpec.named_iff.1 h
    exact ⟨hnames, hroof, hnearby, hscenery⟩
  · rintro ⟨hnames, hroof, hnearby, hscenery⟩
    exact ⟨SettingSpec.named_iff.2 ⟨hnames, hroof, hnearby⟩, hscenery⟩

theorem all_takeable_eq_false_iff {ts : List ThingSpec} :
    (ts.map (·.object)).all (·.takeable) = false ↔ ∃ t ∈ ts, t.takeable = false := by
  rw [List.all_map, List.all_eq_false]
  simp [ThingSpec.object]

theorem Keyed.find_eq_ok_iff : keyed.find key referrer = .ok o ↔ keyed.lookup key = some o := by
  unfold Keyed.find
  cases keyed.lookup key <;> simp

theorem SettingSpec.build_eq_ok_iff : s.build keyed = .ok o ↔ keyed.lookup s.key = none ∧ s.Sound ∧
    ∃ outside, Option.Rel (fun key o => keyed.lookup key = some o) s.outside outside ∧
      o = s.object outside := by
  have hlink : ∀ {outside}, (s.outside.mapM fun key => keyed.find key s.key) = .ok outside ↔
      Option.Rel (fun key o => keyed.lookup key = some o) s.outside outside := by
    simp only [option_mapM_eq_ok_iff, Keyed.find_eq_ok_iff, implies_true]
  rw [SettingSpec.sound_iff, ← all_takeable_eq_false_iff]
  unfold SettingSpec.build
  cases hkey : keyed.lookup s.key with
  | some other =>
    refine iff_of_false ?_ nofun
    rintro ⟨⟩
  | none =>
    simp only [Option.isSome_none, Bool.false_eq_true, ↓reduceIte, bind_eq_ok,
      checkNames_eq_ok_iff, buildThings_eq_ok_iff, ThingSpec.build_eq_ok_iff, true_and]
    constructor
    · rintro ⟨_, hnames, _, ⟨hnearby, rfl⟩, _, ⟨hroof, rfl⟩, h⟩
      split at h
      · cases h
      rename_i hscenery
      obtain ⟨outside, houtside, h⟩ := bind_eq_ok.1 h
      cases h
      exact ⟨⟨hnames, hroof, hnearby, by simpa using hscenery⟩, outside, hlink.1 houtside, rfl⟩
    · rintro ⟨⟨hnames, hroof, hnearby, hscenery⟩, outside, houtside, rfl⟩
      refine ⟨(), hnames, _, ⟨hnearby, rfl⟩, _, ⟨hroof, rfl⟩, ?_⟩
      rw [hscenery]
      exact bind_eq_ok.2 ⟨outside, hlink.2 houtside, rfl⟩

theorem Keyed.lookup_eq_none_iff : keyed.lookup key = none ↔ key ∉ keyed.map (·.1) := by
  rw [List.lookup_eq_none_iff]
  simp only [List.mem_map, not_exists, not_and, bne_iff_ne, ne_eq]
  exact ⟨fun h e he hkey => h e he hkey.symm, fun h e he hkey => h e he hkey.symm⟩

theorem Keyed.exists_lookup_iff : (∃ o, keyed.lookup key = some o) ↔ key ∈ keyed.map (·.1) := by
  rw [← Option.isSome_iff_exists, ← not_iff_not, Bool.not_eq_true, Option.isSome_eq_false_iff,
    Option.isNone_iff_eq_none, Keyed.lookup_eq_none_iff]

theorem SettingSpec.build_ok_iff : (∃ o, s.build keyed = .ok o) ↔ s.Sound ∧
    s.key ∉ keyed.map (·.1) ∧ ∀ key, s.outside = some key → key ∈ keyed.map (·.1) := by
  simp only [SettingSpec.build_eq_ok_iff, Keyed.lookup_eq_none_iff]
  constructor
  · rintro ⟨_, hkey, hsound, outside, hlink, rfl⟩
    refine ⟨hsound, hkey, fun key houtside => Keyed.exists_lookup_iff.1 ?_⟩
    rw [houtside] at hlink
    cases hlink with
    | some h => exact ⟨_, h⟩
  · rintro ⟨hsound, hkey, houtside⟩
    cases hs : s.outside with
    | none => exact ⟨_, hkey, hsound, none, .none, rfl⟩
    | some key =>
      obtain ⟨out, hout⟩ := Keyed.exists_lookup_iff.2 (houtside key hs)
      exact ⟨_, hkey, hsound, some out, .some hout, rfl⟩

theorem buildSettings_cons_eq_ok_iff : buildSettings (s :: specs) keyed = .ok keyed' ↔
    ∃ o, s.build keyed = .ok o ∧ buildSettings specs (keyed ++ [(s.key, o)]) = .ok keyed' := by
  rw [buildSettings, bind_eq_ok]

theorem buildSettings_ok_iff : (∃ keyed', buildSettings specs keyed = .ok keyed') ↔
    (∀ s ∈ specs, s.Sound) ∧ DeclaredInTime (keyed.map (·.1)) specs := by
  induction specs generalizing keyed with
  | nil => exact iff_of_true ⟨keyed, rfl⟩ ⟨nofun, trivial⟩
  | cons s specs ih =>
    have hrest : ∀ o, (∃ keyed', buildSettings specs (keyed ++ [(s.key, o)]) = .ok keyed') ↔
        (∀ s ∈ specs, s.Sound) ∧ DeclaredInTime (keyed.map (·.1) ++ [s.key]) specs := by
      intro o
      rw [ih, List.map_append]
      rfl
    simp only [buildSettings_cons_eq_ok_iff]
    constructor
    · rintro ⟨keyed', o, ho, hkeyed'⟩
      obtain ⟨hsound, hkey, houtside⟩ := SettingSpec.build_ok_iff.1 ⟨o, ho⟩
      obtain ⟨hsounds, hlater⟩ := (hrest o).1 ⟨keyed', hkeyed'⟩
      exact ⟨List.forall_mem_cons.2 ⟨hsound, hsounds⟩, hkey, houtside, hlater⟩
    · rintro ⟨hsounds, hkey, houtside, hlater⟩
      obtain ⟨hsound, hsounds⟩ := List.forall_mem_cons.1 hsounds
      obtain ⟨o, ho⟩ := SettingSpec.build_ok_iff.2 ⟨hsound, hkey, houtside⟩
      obtain ⟨keyed', hkeyed'⟩ := (hrest o).2 ⟨hsounds, hlater⟩
      exact ⟨keyed', o, ho, hkeyed'⟩

/-- What is known when a setting is declared is known in the end. -/
theorem buildSettings_holds (h : buildSettings specs keyed = .ok keyed') :
    ∃ added, keyed' = keyed ++ added ∧ Forall₂ keyed'.Holds specs added := by
  induction specs generalizing keyed with
  | nil =>
    cases h
    exact ⟨[], (List.append_nil _).symm, .nil⟩
  | cons s specs ih =>
    obtain ⟨o, ho, h⟩ := buildSettings_cons_eq_ok_iff.1 h
    obtain ⟨added, hkeyed', hadded⟩ := ih h
    obtain ⟨-, -, outside, hlink, rfl⟩ := SettingSpec.build_eq_ok_iff.1 ho
    rw [List.append_assoc, List.singleton_append] at hkeyed'
    refine ⟨_, hkeyed', .cons ⟨rfl, outside, rel_imp hlink fun key out hout => ?_, rfl⟩ hadded⟩
    rw [hkeyed', List.lookup_append, hout]
    rfl

theorem declaredInTime_iff {known : List String} : DeclaredInTime known specs ↔
    (specs.map (·.key)).Nodup ∧ (∀ s ∈ specs, s.key ∉ known) ∧
      ∀ earlier s later, specs = earlier ++ s :: later → ∀ key, s.outside = some key →
        key ∈ known ∨ ∃ t ∈ earlier, t.key = key := by
  induction specs generalizing known with
  | nil => simp [DeclaredInTime]
  | cons s specs ih =>
    rw [DeclaredInTime, ih]
    constructor
    · rintro ⟨hkey, houtside, hnodup, hknown, hlater⟩
      refine ⟨List.nodup_cons.2 ⟨fun hmem => ?_, hnodup⟩, List.forall_mem_cons.2 ⟨hkey, ?_⟩, ?_⟩
      · obtain ⟨t, ht, htkey⟩ := List.mem_map.1 hmem
        exact hknown t ht (List.mem_append_right _ (List.mem_singleton.2 htkey))
      · exact fun t ht hmem => hknown t ht (List.mem_append_left _ hmem)
      · rintro (_ | ⟨_, earlier⟩) t later ⟨⟩ key hout
        · exact .inl (houtside key hout)
        · rcases hlater earlier t later rfl key hout with hmem | ⟨u, hu, hukey⟩
          · refine (List.mem_append.1 hmem).imp_right fun hmem => ⟨s, List.mem_cons_self, ?_⟩
            exact (List.mem_singleton.1 hmem).symm
          · exact .inr ⟨u, List.mem_cons_of_mem s hu, hukey⟩
    · rintro ⟨hnodup, hknown, hlater⟩
      obtain ⟨hfresh, hnodup⟩ := List.nodup_cons.1 hnodup
      obtain ⟨hkey, hknown⟩ := List.forall_mem_cons.1 hknown
      refine ⟨hkey, fun key hout => ?_, hnodup, fun t ht hmem => ?_, ?_⟩
      · exact (hlater [] s specs rfl key hout).resolve_right (by simp)
      · refine (List.mem_append.1 hmem).elim (hknown t ht) fun hmem => hfresh ?_
        exact List.mem_map.2 ⟨t, ht, List.mem_singleton.1 hmem⟩
      · rintro earlier t later rfl key hout
        rcases hlater (s :: earlier) t later rfl key hout with hmem | ⟨u, hu, rfl⟩
        · exact .inl (List.mem_append_left _ hmem)
        · rcases List.mem_cons.1 hu with rfl | hu
          · exact .inl (List.mem_append_right _ (List.mem_singleton_self _))
          · exact .inr ⟨u, hu, rfl⟩

theorem names_of_lookup (h : Forall₂ (fun s e => e.1 = SettingSpec.key s) specs keyed)
    (hkey : keyed.lookup key = some o) : Names specs (keyed.map (·.2)) key o := by
  induction h with
  | nil => cases hkey
  | @cons s e specs keyed he _ ih =>
    rw [List.lookup_cons] at hkey
    split at hkey
    · rename_i hsame
      obtain rfl := Option.some.inj hkey
      exact ⟨s, List.mem_cons_self, he.symm.trans (eq_of_beq hsame).symm⟩
    · obtain ⟨t, ht, htkey⟩ := ih hkey
      exact ⟨t, List.mem_cons_of_mem _ ht, htkey⟩

end Settings

/-! ## Characters -/

/-- The names that the description of a character gives. -/
def CharacterSpec.nameLists (c : CharacterSpec) : List (List String) :=
  c.names :: (c.weapon.map (·.names)).toList

/-- The character as it stands in the world, with its home and traits. -/
def CharacterSpec.object (c : CharacterSpec) (home : Object) (traits : Traits) : Object :=
  { names := c.names
    noun := .proper
    pronouns := c.gender.pronouns
    home := some home
    rank := c.rank
    weapon := c.weapon.map (·.object)
    nature := .character ⟨c.gender, c.archetype, traits⟩ }

/-- The traits that are not given, each rolled in its turn. -/
def rollMissing (cs : List CharacterSpec) : Roll (List Traits) :=
  (cs.filter (·.traits.isNone)).mapM fun c => Traits.roll c.archetype c.gender

/-- The characters as they stand in the world, each in the home that it names: those with traits keep them,
and the others take the next of the traits that are rolled. -/
inductive Enlisted (names : String → Object → Prop) :
    List CharacterSpec → List Traits → List Object → Prop
  | nil : Enlisted names [] [] []
  | given {c : CharacterSpec} {cs : List CharacterSpec} {t : Traits} {ts : List Traits} {home : Object}
      {os : List Object} (ht : c.traits = some t) (hhome : names c.home home)
      (h : Enlisted names cs ts os) : Enlisted names (c :: cs) ts (c.object home t :: os)
  | rolled {c : CharacterSpec} {cs : List CharacterSpec} {t : Traits} {ts : List Traits} {home : Object}
      {os : List Object} (ht : c.traits = none) (hhome : names c.home home)
      (h : Enlisted names cs ts os) : Enlisted names (c :: cs) (t :: ts) (c.object home t :: os)

section Characters

variable {c : CharacterSpec} {cs ds : List CharacterSpec} {keyed : Keyed} {o : Object}
  {os ps : List Object} {ts us : List Traits} {draws left : Context} {names : String → Object → Prop}

theorem CharacterSpec.named_iff : (∀ names ∈ c.nameLists, WellNamed names) ↔
    WellNamed c.names ∧ ∀ t, c.weapon = some t → WellNamed t.names := by
  cases h : c.weapon <;> simp [nameLists, h]

theorem buildWeapon_eq_ok_iff {weapon : Option ThingSpec} {made : Option Object} :
    weapon.mapM (·.build .weapon) = .ok made ↔
      (∀ t, weapon = some t → WellNamed t.names) ∧ made = weapon.map (·.object) := by
  rw [option_mapM_eq_ok_iff]
  constructor
  · rintro (h | -)
    · obtain ⟨hnames, rfl⟩ := ThingSpec.build_eq_ok_iff.1 h
      exact ⟨fun t ht => Option.some.inj ht ▸ hnames, rfl⟩
    · exact ⟨nofun, rfl⟩
  · rintro ⟨hnames, rfl⟩
    cases weapon with
    | none => exact .none
    | some t => exact .some (ThingSpec.build_eq_ok_iff.2 ⟨hnames t rfl, rfl⟩)

theorem CharacterSpec.build_eq_ok_iff : (c.build keyed).run.run draws = (.ok o, left) ↔
    (∀ names ∈ c.nameLists, WellNamed names) ∧ ∃ home traits, keyed.lookup c.home = some home ∧
      c.rollTraits.run draws = (traits, left) ∧ o = c.object home traits := by
  rw [CharacterSpec.named_iff]
  unfold CharacterSpec.build
  simp only [run_bind_eq_ok, run_liftExcept_eq_ok, run_lift_eq_ok, run_pure_eq_ok, checkNames_eq_ok_iff,
    Keyed.find_eq_ok_iff, option_mapM_liftExcept, buildWeapon_eq_ok_iff]
  constructor
  · rintro ⟨_, _, ⟨hnames, rfl⟩, traits, _, htraits, home, _, ⟨hhome, rfl⟩, _, _,
      ⟨⟨hweapon, rfl⟩, rfl⟩, rfl, rfl⟩
    exact ⟨⟨hnames, hweapon⟩, home, traits, hhome, htraits, rfl⟩
  · rintro ⟨⟨hnames, hweapon⟩, home, traits, hhome, htraits, rfl⟩
    exact ⟨(), draws, ⟨hnames, rfl⟩, traits, left, htraits, home, left, ⟨hhome, rfl⟩, _, left,
      ⟨⟨hweapon, rfl⟩, rfl⟩, rfl, rfl⟩

/-- A named character with a home is made, whatever the draws. -/
theorem CharacterSpec.build_ends_ok (hnamed : ∀ names ∈ c.nameLists, WellNamed names)
    (hhome : c.home ∈ keyed.map (·.1)) :
    Ends (fun _ => True) (fun _ => False) (fun _ => True) (c.build keyed) := by
  obtain ⟨home, hhome⟩ := Keyed.exists_lookup_iff.2 hhome
  intro draws _
  have hbuild : ((c.build keyed).run.run draws).1 = .ok (c.object home (c.rollTraits.run draws).1) :=
    congrArg Prod.fst (CharacterSpec.build_eq_ok_iff.2 ⟨hnamed, home, _, hhome, rfl, rfl⟩)
  rw [hbuild]
  exact ⟨trivial, trivial⟩

theorem rollMissing_cons_of_given {t : Traits} (h : c.traits = some t) :
    rollMissing (c :: cs) = rollMissing cs := by
  unfold rollMissing
  rw [List.filter_cons_of_neg (by simp [h])]

theorem rollMissing_cons_of_missing (h : c.traits = none) :
    rollMissing (c :: cs) = do
      let t ← Traits.roll c.archetype c.gender
      let ts ← rollMissing cs
      return t :: ts := by
  unfold rollMissing
  rw [List.filter_cons_of_pos (by simp [h]), List.mapM_cons]

theorem rollMissing_append : rollMissing (cs ++ ds) = do
    let ts ← rollMissing cs
    let us ← rollMissing ds
    return ts ++ us := by
  unfold rollMissing
  rw [List.filter_append, List.mapM_append]

/-- Only the traits that are not given are drawn, each in its turn. -/
theorem buildCast_eq_ok
    (h : (cs.mapM (·.build keyed) : Attempt WorldError (List Object)).run.run draws =
      (.ok os, left)) :
    (∀ c ∈ cs, ∀ names ∈ c.nameLists, WellNamed names) ∧ ∃ ts,
      Enlisted (fun key o => keyed.lookup key = some o) cs ts os ∧
        (rollMissing cs).run draws = (ts, left) := by
  induction cs generalizing draws os with
  | nil =>
    cases h
    exact ⟨List.forall_mem_nil _, [], .nil, rfl⟩
  | cons c cs ih =>
    simp only [List.mapM_cons, run_bind_eq_ok, run_pure_eq_ok] at h
    obtain ⟨_, next, hc, _, _, hcs, rfl, rfl⟩ := h
    obtain ⟨hnamed, home, t, hhome, ht, rfl⟩ := CharacterSpec.build_eq_ok_iff.1 hc
    obtain ⟨hnameds, ts, hlist, hts⟩ := ih hcs
    refine ⟨List.forall_mem_cons.2 ⟨hnamed, hnameds⟩, ?_⟩
    unfold CharacterSpec.rollTraits at ht
    cases htraits : c.traits with
    | some given =>
      rw [htraits] at ht
      cases ht
      rw [rollMissing_cons_of_given htraits]
      exact ⟨ts, .given htraits hhome hlist, hts⟩
    | none =>
      rw [htraits] at ht
      dsimp only at ht
      refine ⟨t :: ts, .rolled htraits hhome hlist, ?_⟩
      rw [rollMissing_cons_of_missing htraits, StateT.run_bind, ht]
      change (rollMissing cs >>= fun ts => pure (t :: ts)).run next = _
      rw [StateT.run_bind, hts]
      rfl

namespace Enlisted

theorem append (h : Enlisted names cs ts os) (k : Enlisted names ds us ps) :
    Enlisted names (cs ++ ds) (ts ++ us) (os ++ ps) := by
  induction h with
  | nil => exact k
  | given ht hhome _ ih => exact .given ht hhome ih
  | rolled ht hhome _ ih => exact .rolled ht hhome ih

theorem imp {names' : String → Object → Prop} (h : Enlisted names cs ts os)
    (himp : ∀ key o, names key o → names' key o) : Enlisted names' cs ts os := by
  induction h with
  | nil => exact .nil
  | given ht hhome _ ih => exact .given ht (himp _ _ hhome) ih
  | rolled ht hhome _ ih => exact .rolled ht (himp _ _ hhome) ih

theorem length_eq (h : Enlisted names cs ts os) : os.length = cs.length := by
  induction h with
  | nil => rfl
  | given _ _ _ ih | rolled _ _ _ ih => rw [List.length_cons, List.length_cons, ih]

theorem exists_home (h : Enlisted names cs ts os) : ∀ c ∈ cs, ∃ o, names c.home o := by
  induction h with
  | nil => exact List.forall_mem_nil _
  | given _ hhome _ ih | rolled _ hhome _ ih => exact List.forall_mem_cons.2 ⟨⟨_, hhome⟩, ih⟩

end Enlisted

end Characters

/-! ## Worlds -/

/-- Everyone described, the protagonists first. -/
def WorldSpec.cast (spec : WorldSpec) : List CharacterSpec :=
  spec.protagonists ++ spec.antagonists

/-- The names that the description of a world gives. -/
def WorldSpec.nameLists (spec : WorldSpec) : List (List String) :=
  spec.settings.flatMap (·.nameLists) ++ spec.cast.flatMap (·.nameLists)
    ++ (spec.goons ++ spec.macguffins).map (·.names)

/-- A description that a world can be made from. -/
structure WorldSpec.Acceptable (spec : WorldSpec) : Prop where
  settings : spec.settings ≠ []
  protagonists : spec.protagonists ≠ []
  keys : (spec.settings.map (·.key)).Nodup
  named : ∀ names ∈ spec.nameLists, WellNamed names
  scenery : ∀ s ∈ spec.settings, ∃ t ∈ s.nearby, t.takeable = false
  outside : ∀ earlier s later, spec.settings = earlier ++ s :: later →
    ∀ key, s.outside = some key → ∃ t ∈ earlier, t.key = key
  homes : ∀ c ∈ spec.cast, ∃ s ∈ spec.settings, s.key = c.home

/-- The world lists what is described in the order of the description, with every link resolved and with the
rolled traits where none are given. -/
structure WorldSpec.Describes (spec : WorldSpec) (rolled : List Traits) (w : World) : Prop where
  settings : Forall₂ (fun s o => ∃ outside,
    Option.Rel (Names spec.settings w.settings) s.outside outside ∧ o = s.object outside)
    spec.settings w.settings
  cast : Enlisted (Names spec.settings w.settings) spec.cast rolled (w.protagonists ++ w.antagonists)
  protagonists : w.protagonists.length = spec.protagonists.length
  goons : w.goons = spec.goons.map (·.object)
  macguffins : w.macguffins = spec.macguffins.map (·.object)

section Worlds

variable {spec : WorldSpec} {w : World} {draws left : Context}

theorem WorldSpec.named_iff : (∀ names ∈ spec.nameLists, WellNamed names) ↔
    (∀ s ∈ spec.settings, ∀ names ∈ s.nameLists, WellNamed names) ∧
      (∀ c ∈ spec.cast, ∀ names ∈ c.nameLists, WellNamed names) ∧
        (∀ t ∈ spec.goons, WellNamed t.names) ∧ ∀ t ∈ spec.macguffins, WellNamed t.names := by
  simp only [nameLists, List.forall_mem_append, List.forall_mem_flatMap, List.forall_mem_map,
    and_assoc]

/-- The conditions in the order in which they are met on building. -/
theorem WorldSpec.acceptable_iff : spec.Acceptable ↔ spec.settings ≠ [] ∧ spec.protagonists ≠ [] ∧
    ((∀ s ∈ spec.settings, s.Sound) ∧ DeclaredInTime [] spec.settings) ∧
      (∀ c ∈ spec.cast, (∀ names ∈ c.nameLists, WellNamed names) ∧
        c.home ∈ spec.settings.map (·.key)) ∧
        (∀ t ∈ spec.goons, WellNamed t.names) ∧ ∀ t ∈ spec.macguffins, WellNamed t.names := by
  rw [declaredInTime_iff]
  constructor
  · rintro ⟨hsettings, hprotagonists, hkeys, hnamed, hscenery, houtside, hhomes⟩
    obtain ⟨hplaces, hcast, hgoons, hmacguffins⟩ := WorldSpec.named_iff.1 hnamed
    refine ⟨hsettings, hprotagonists, ⟨fun s hs => ⟨hplaces s hs, hscenery s hs⟩, hkeys, ?_, ?_⟩, ?_,
      hgoons, hmacguffins⟩
    · exact fun _ _ => List.not_mem_nil
    · exact fun earlier s later hsplit key hkey => .inr (houtside earlier s later hsplit key hkey)
    · exact fun c hc => ⟨hcast c hc, List.mem_map.2 (hhomes c hc)⟩
  · rintro ⟨hsettings, hprotagonists, ⟨hsound, hkeys, -, houtside⟩, hcast, hgoons, hmacguffins⟩
    refine ⟨hsettings, hprotagonists, hkeys, ?_, fun s hs => (hsound s hs).scenery, ?_, ?_⟩
    · exact WorldSpec.named_iff.2
        ⟨fun s hs => (hsound s hs).named, fun c hc => (hcast c hc).1, hgoons, hmacguffins⟩
    · exact fun earlier s later hsplit key hkey =>
        (houtside earlier s later hsplit key hkey).resolve_left List.not_mem_nil
    · exact fun c hc => List.mem_map.1 (hcast c hc).2

instance (s : SettingSpec) : Decidable s.Sound :=
  decidable_of_iff _ SettingSpec.sound_iff.symm

instance (spec : WorldSpec) : Decidable spec.Acceptable :=
  decidable_of_iff _ WorldSpec.acceptable_iff.symm

theorem Keyed.Holds.keys_eq {keyed other : Keyed} {specs : List SettingSpec}
    (h : Forall₂ keyed.Holds specs other) : other.map (·.1) = specs.map (·.key) := by
  induction h with
  | nil => rfl
  | cons he _ ih => rw [List.map_cons, List.map_cons, he.1, ih]

theorem WorldSpec.build_eq_ok (h : spec.build.run.run draws = (.ok w, left)) :
    spec.Acceptable ∧ ∃ rolled, spec.Describes rolled w ∧
      (rollMissing spec.cast).run draws = (rolled, left) := by
  unfold WorldSpec.build at h
  dsimp only at h
  split at h
  · cases h
  rename_i hsettings
  split at h
  · cases h
  rename_i hprotagonists
  simp only [run_bind_eq_ok, run_liftExcept_eq_ok, run_pure_eq_ok, mapM_liftExcept,
    buildThings_eq_ok_iff] at h
  obtain ⟨keyed, _, ⟨hkeyed, rfl⟩, protagonists, next, hheroes, antagonists, _, hvillains, goons, _,
    ⟨⟨hgoons, rfl⟩, rfl⟩, macguffins, _, ⟨⟨hmacguffins, rfl⟩, rfl⟩, rfl, rfl⟩ := h
  obtain ⟨_, rfl, hholds⟩ := buildSettings_holds hkeyed
  obtain ⟨hnamed, ts, hcast, hts⟩ := buildCast_eq_ok hheroes
  obtain ⟨hnamed', us, hothers, hus⟩ := buildCast_eq_ok hvillains
  have hnames : ∀ key o, keyed.lookup key = some o → Names spec.settings (keyed.map (·.2)) key o :=
    fun key o => names_of_lookup (hholds.imp fun _ _ he => he.1)
  have hall := hcast.append hothers
  refine ⟨WorldSpec.acceptable_iff.2 ⟨by simpa using hsettings, by simpa using hprotagonists,
    buildSettings_ok_iff.1 ⟨keyed, hkeyed⟩, fun c hc => ⟨?_, ?_⟩, hgoons, hmacguffins⟩,
    ts ++ us, ⟨?_, hall.imp hnames, hcast.length_eq, rfl, rfl⟩, ?_⟩
  · exact List.forall_mem_append.2 ⟨hnamed, hnamed'⟩ c hc
  · rw [← Keyed.Holds.keys_eq hholds]
    exact Keyed.exists_lookup_iff.1 (hall.exists_home c hc)
  · refine List.forall₂_map_right_iff.2 (hholds.imp fun s e he => ?_)
    obtain ⟨-, outside, hlink, hobject⟩ := he
    exact ⟨outside, rel_imp hlink hnames, hobject⟩
  · change (rollMissing (spec.protagonists ++ spec.antagonists)).run _ = _
    rw [rollMissing_append, StateT.run_bind, hts]
    change (rollMissing spec.antagonists >>= fun us => pure (ts ++ us)).run next = _
    rw [StateT.run_bind, hus]
    rfl

/-- Nothing goes wrong with an acceptable description. -/
theorem WorldSpec.Acceptable.build_ends (h : spec.Acceptable) :
    Ends (fun _ => True) (fun _ => False) (fun _ => True) spec.build := by
  obtain ⟨hsettings, hprotagonists, hplaces, hcast, hgoons, hmacguffins⟩ :=
    WorldSpec.acceptable_iff.1 h
  obtain ⟨keyed, hkeyed⟩ : ∃ keyed, buildSettings spec.settings [] = .ok keyed :=
    buildSettings_ok_iff.2 hplaces
  obtain ⟨_, rfl, hholds⟩ := buildSettings_holds hkeyed
  have hall : ∀ c ∈ spec.cast, Ends (fun _ => True) (fun _ => False) (fun _ => True)
      (c.build keyed) := fun c hc => by
    refine CharacterSpec.build_ends_ok (hcast c hc).1 ?_
    rw [Keyed.Holds.keys_eq hholds]
    exact (hcast c hc).2
  obtain ⟨hheroes, hvillains⟩ := List.forall_mem_append.1 hall
  unfold WorldSpec.build
  simp only [mapM_liftExcept, buildThings_eq_ok_iff.2 ⟨hgoons, rfl⟩,
    buildThings_eq_ok_iff.2 ⟨hmacguffins, rfl⟩, hkeyed]
  rw [if_neg (by simpa using hsettings), if_neg (by simpa using hprotagonists)]
  refine Ends.bind (P := (· = keyed)) (Ends.liftExcept rfl) fun _ hkeyed => ?_
  subst hkeyed
  refine (Ends.mapM (S := fun _ _ => True) _ hheroes).bind fun protagonists _ => ?_
  refine (Ends.mapM (S := fun _ _ => True) _ hvillains).bind fun antagonists _ => ?_
  refine Ends.bind (P := fun _ => True) (Ends.liftExcept trivial) fun goons _ => ?_
  refine Ends.bind (P := fun _ => True) (Ends.liftExcept trivial) fun macguffins _ => ?_
  exact Ends.pure trivial

/-- A world is made of exactly the acceptable descriptions.  It lists the settings, the cast, the goons and
the items in the order of the description, and the traits that are missing, the protagonists' first, are all
that is drawn. -/
theorem build_describes (spec : WorldSpec) (draws : Context) :
    ((∃ w, (spec.build.run.run draws).1 = .ok w) ↔ spec.Acceptable) ∧
      ∀ w left, spec.build.run.run draws = (.ok w, left) →
        ∃ rolled, spec.Describes rolled w ∧ (rollMissing spec.cast).run draws = (rolled, left) := by
  refine ⟨⟨?_, fun h => ?_⟩, fun w left h => (WorldSpec.build_eq_ok h).2⟩
  · rintro ⟨w, hw⟩
    exact (WorldSpec.build_eq_ok (Prod.ext hw rfl)).1
  · obtain ⟨w, hw, -⟩ := (h.build_ends draws trivial).1.ok_of_no_error
    exact ⟨w, hw⟩

/-- A dock with a bay beside it, where a mechanic without traits is after a stowaway's wrench. -/
def drydock : WorldSpec :=
  { settings :=
      [{ key := "dock", names := ["dry dock", "dock"], roof := { names := ["dome"] }
         nearby := [{ names := ["crane"] }] },
        { key := "bay", names := ["bay"], roof := { names := ["gantry"] }
          nearby := [{ names := ["bolts"], plural := true }], outside := some "dock" }]
    protagonists :=
      [{ names := ["Tamsin"], gender := .feminine, archetype := .lead, home := "dock"
         weapon := some { names := ["torch"] } }]
    antagonists :=
      [{ names := ["Gorst"], gender := .masculine, archetype := .villain, home := "bay" }]
    macguffins := [{ names := ["wrench"], takeable := true }] }

/-- It makes a world, for which both of them get their traits rolled. -/
theorem build_describes_drydock : drydock.Acceptable ∧ ∃ w left rolled,
    drydock.build.run.run (.ofSeed 7) = (.ok w, left) ∧ drydock.Describes rolled w ∧
      (rollMissing drydock.cast).run (.ofSeed 7) = (rolled, left) := by
  have hacceptable : drydock.Acceptable := by decide +kernel
  have hdraws := build_describes drydock (.ofSeed 7)
  -- The run stays closed: what is drawn is never computed.
  generalize drydock.build.run.run (.ofSeed 7) = run at hdraws ⊢
  obtain ⟨result, left⟩ := run
  obtain ⟨w, rfl⟩ := hdraws.1.2 hacceptable
  obtain ⟨rolled, hmade, hrolled⟩ := hdraws.2 w left rfl
  exact ⟨hacceptable, w, left, rolled, rfl, hmade, hrolled⟩

end Worlds

end SpaceOpera
