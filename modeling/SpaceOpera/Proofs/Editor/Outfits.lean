import SpaceOpera.Proofs.Editor.Vignettes

/-!
# What is told of costumes

Who has been told of is kept in a roster, one for each scene.  So in one scene nobody's costume is told twice, and
that of a heroine is never left out; where she is described, which is where she acts first, it comes right behind
the description (`edit_costumes`).
-/

namespace SpaceOpera

open List (Forall₂)
open StoryNode (ofEvent)

/-- The two beats tell what the character wears. -/
structure TellsCostume (who : Object) (t f : StoryNode) : Prop where
  torso : t.event?.any Event.isTorso = true
  feet : f.event?.any Event.isFeet = true
  torsoOf : t.isOf who = true
  feetOf : f.isOf who = true

/-- Nothing is told of what the character wears. -/
def Uncostumed (who : Object) (es : List StoryNode) : Prop :=
  ∀ m ∈ es, m.isOf who = true → m.isCostume = false

/-- What the character wears is told once: the torso, and the feet right behind it. -/
def CostumedOnce (who : Object) (es : List StoryNode) : Prop :=
  ∃ pre t f post, es = pre ++ t :: f :: post ∧ TellsCostume who t f ∧ Uncostumed who (pre ++ post)

/-- Whenever the features of a heroine are described, what she wears is told next. -/
def Followed (es : List StoryNode) : Prop :=
  ∀ pre m post, es = pre ++ m :: post → m.event? = some .characterFeaturesDescription →
    m.isOfLead = true → ∃ who t f rest, m.isOf who = true ∧ TellsCostume who t f ∧
      post = t :: f :: rest

/-- What is told of costumes in one scene. -/
structure Costumed (es : List StoryNode) : Prop where
  leads : ∀ who, (∃ n ∈ es, n.isOf who = true ∧ n.isOfLead = true) → CostumedOnce who es
  once : ∀ who, Uncostumed who es ∨ CostumedOnce who es
  followed : Followed es
  subjects : ∀ m ∈ es, m.isCostume = true →
    ∃ n ∈ es, n.isPortrait = false ∧ ∃ who, m.isOf who = true ∧ n.isOf who = true

variable {I : Context → Prop} {n m c : StoryNode} {ns cs es es' u u' : List StoryNode}
  {us us' : List (List StoryNode)} {who : Object} {s : State} {r r' : Roster} {torso feet : Event}

/-! ## One block -/

section Blocks

theorem Event.isCostume_of_isTorso {e : Event} (h : e.isTorso = true) : e.isCostume = true := by
  cases e <;> first | rfl | cases h

theorem Event.isCostume_of_isFeet {e : Event} (h : e.isFeet = true) : e.isCostume = true := by
  cases e <;> first | rfl | cases h

theorem isCostume_of_mem_costume (htorso : torso.isTorso = true) (hfeet : feet.isFeet = true)
    (hm : m ∈ costume torso feet s) : m.isCostume = true := by
  obtain rfl | rfl := List.mem_pair.1 hm
  · exact Event.isCostume_of_isTorso htorso
  · exact Event.isCostume_of_isFeet hfeet

theorem isOf_of_mem_costume (hs : s.object.isCharacter = true) (hm : m ∈ costume torso feet s)
    (who : Object) : m.isOf who = (s.object == who) := by
  obtain rfl | rfl := List.mem_pair.1 hm
  · exact isOf_of_characterSubject (characterSubject?_aside torso hs) who
  · exact isOf_of_characterSubject (characterSubject?_aside feet hs) who

theorem tellsCostume_costume (htorso : torso.isTorso = true) (hfeet : feet.isFeet = true)
    (hs : s.object.isCharacter = true) (hwho : (s.object == who) = true) :
    TellsCostume who ((ofEvent torso).set .subject (.state s)) ((ofEvent feet).set .subject (.state s)) where
  torso := htorso
  feet := hfeet
  torsoOf := (isOf_of_characterSubject (characterSubject?_aside torso hs) who).trans hwho
  feetOf := (isOf_of_characterSubject (characterSubject?_aside feet hs) who).trans hwho

theorem Vignette.uncostumed (h : Vignette u) (who : Object) : Uncostumed who u := fun m hm _ =>
  h.not_isCostume m hm

/-- What a block means for the costume of one character: nothing is told of it, and the character is no
heroine or has been told of; or it is told here. -/
inductive Donned (who : Object) (r : Roster) (u : List StoryNode) (r' : Roster) : Prop
  | passed (hsame : r'.contains who = r.contains who) (hnone : Uncostumed who u)
      (hdue : r.contains who = false → ∀ m ∈ u, m.isOf who = true → m.isOfLead = false)
  | told (hnew : r.contains who = false) (hknown : r'.contains who = true)
      (honce : CostumedOnce who u)

/-- What dressing a block means for one character. -/
theorem Dresses.donned (h : Dresses r u u' r') (hu : Vignette u) (who : Object) :
    Donned who r u' r' := by
  cases h with
  | @bare n ms hdue =>
    refine .passed rfl (hu.uncostumed who) fun hnew m hm hwho => ?_
    obtain ⟨s, hs, hswho, hlead⟩ := hu.subject hm hwho
    rw [hlead]
    apply Bool.eq_false_iff.2
    intro hheroine
    have hknown := hdue s hs hheroine
    rw [Roster.contains_congr r hswho, hnew] at hknown
    cases hknown
  | @told n ms s torso feet hs hnew htorso hfeet =>
    have hcharacter := isCharacter_of_characterSubject hs
    by_cases hwho : (s.object == who) = true
    · refine .told ((Roster.contains_congr r (BEq.symm hwho)).trans hnew) ?_ ?_
      · rw [Roster.contains_insert, BEq.symm hwho, Bool.true_or]
      · refine ⟨n :: ms, _, _, [], rfl, tellsCostume_costume htorso hfeet hcharacter hwho, ?_⟩
        rw [List.append_nil]
        exact hu.uncostumed who
    · rw [Bool.not_eq_true] at hwho
      have hother : ∀ m ∈ n :: ms ++ costume torso feet s, m.isOf who = false := by
        intro m hm
        obtain hm | hm := List.mem_append.1 hm
        · apply Bool.eq_false_iff.2
          intro hacts
          obtain ⟨t, ht, htwho, -⟩ := hu.subject hm hacts
          obtain rfl := Option.some.inj (hs.symm.trans ht)
          exact Bool.false_ne_true (hwho.symm.trans htwho)
        · rw [isOf_of_mem_costume hcharacter hm, hwho]
      refine .passed ?_ (fun m hm hacts => ?_) fun _ m hm hacts => ?_
      · rw [Roster.contains_insert, BEq.comm, hwho, Bool.false_or]
      · exact absurd hacts (Bool.eq_false_iff.1 (hother m hm))
      · exact absurd hacts (Bool.eq_false_iff.1 (hother m hm))

/-- Whoever a costume is told of acts in front of it. -/
theorem Dresses.subjects (h : Dresses r u u' r') (hu : Vignette u) (hm : m ∈ u')
    (hcostume : m.isCostume = true) :
    ∃ n ∈ u', n.isPortrait = false ∧ ∃ who, m.isOf who = true ∧ n.isOf who = true := by
  cases h with
  | bare => exact absurd hcostume (Bool.eq_false_iff.1 (hu.not_isCostume m hm))
  | @told n ms s torso feet hs =>
    obtain hm | hm := List.mem_append.1 hm
    · exact absurd hcostume (Bool.eq_false_iff.1 (hu.not_isCostume m hm))
    · refine ⟨n, List.mem_cons_self, hu.head.plain, s.object, ?_, ?_⟩
      · rw [isOf_of_mem_costume (isCharacter_of_characterSubject hs) hm, BEq.rfl]
      · rw [isOf_of_characterSubject hs, BEq.rfl]

end Blocks

/-! ## Behind a description -/

section Following

theorem Followed.append (h : Followed es) (h' : Followed es') : Followed (es ++ es') := by
  intro pre m post heq hfeatures hlead
  obtain ⟨as, -, hbehind⟩ | ⟨bs, hfront, hbehind⟩ := List.append_eq_append_iff.1 heq
  · exact h' as m post hbehind hfeatures hlead
  · cases bs with
    | nil => exact h' [] m post hbehind.symm hfeatures hlead
    | cons b bs =>
      obtain ⟨rfl, rfl⟩ := List.cons_eq_cons.1 hbehind
      obtain ⟨who, t, f, rest, hwho, htells, rfl⟩ := h pre m bs hfront hfeatures hlead
      exact ⟨who, t, f, rest ++ es', hwho, htells, rfl⟩

/-- Without a heroine's features nothing has to follow. -/
theorem followed_of_forall (h : ∀ m ∈ es, m.event? = some .characterFeaturesDescription →
    m.isOfLead = false) : Followed es := by
  rintro pre m post rfl hfeatures hlead
  have hother := h m (List.mem_append_right pre List.mem_cons_self) hfeatures
  exact absurd hlead (Bool.eq_false_iff.1 hother)

theorem Followed.cons (h : Followed es)
    (hm : m.event? = some .characterFeaturesDescription → ∃ who t f rest, m.isOf who = true ∧
      TellsCostume who t f ∧ es = t :: f :: rest) : Followed (m :: es) := by
  intro pre m' post heq hfeatures hlead
  cases pre with
  | nil =>
    obtain ⟨rfl, rfl⟩ := List.cons_eq_cons.1 heq
    exact hm hfeatures
  | cons a pre =>
    obtain ⟨rfl, rfl⟩ := List.cons_eq_cons.1 heq
    exact h pre m' post rfl hfeatures hlead

/-- A heroine who is described in the block has not been told of. -/
def Fresh (r : Roster) (u : List StoryNode) : Prop :=
  ∀ n s, u = n :: portrait s → s.object.isLead = true → r.contains s.object = false

/-- What is told of a heroine's features is followed by what she wears. -/
theorem Dresses.followed (h : Dresses r u u' r') (hu : Vignette u) (hfresh : Fresh r u) :
    Followed u' := by
  cases h with
  | @bare n ms hdue =>
    apply followed_of_forall
    intro m hm hfeatures
    obtain ⟨s, hs, rfl, hlast⟩ := hu.eq_portrait hm hfeatures
    obtain ⟨e, -, rfl⟩ := depiction_portrait s m hlast
    have haside := characterSubject?_aside e (isCharacter_of_characterSubject hs)
    rw [isOfLead_of_characterSubject haside]
    apply Bool.eq_false_iff.2
    intro hheroine
    have hknown := hdue s hs hheroine
    rw [hfresh n s rfl hheroine] at hknown
    cases hknown
  | @told n ms s torso feet hs hnew htorso hfeet =>
    have hcostume : Followed (costume torso feet s) := by
      apply followed_of_forall
      intro m hm hfeatures
      have hbeat := isCostume_of_mem_costume htorso hfeet hm
      rw [Node.isCostume, hfeatures] at hbeat
      cases hbeat
    cases hu with
    | alone hn => exact hcostume.cons fun h => absurd h hn.event?_ne
    | reminded hn =>
      refine (hcostume.cons fun h => ?_).cons fun h => absurd h hn.event?_ne
      cases h
    | described hn hs' =>
      obtain rfl := Option.some.inj (hs.symm.trans hs')
      have hcharacter := isCharacter_of_characterSubject hs
      have htells := tellsCostume_costume htorso hfeet hcharacter BEq.rfl
      have hfeatures := isOf_of_characterSubject
        (characterSubject?_aside .characterFeaturesDescription hcharacter) s.object
      refine ((hcostume.cons fun _ => ?_).cons fun h => ?_).cons fun h => absurd h hn.event?_ne
      · exact ⟨s.object, _, _, [], hfeatures.trans BEq.rfl, htells, rfl⟩
      · cases h

theorem Fresh.dressed {v : List StoryNode} (h : Fresh r v) (hdresses : Dresses r u u' r')
    (hprecedes : Precedes u v) : Fresh r' v := by
  intro n s hv hlead
  cases hdresses with
  | bare => exact h n s hv hlead
  | @told m ms t _ _ ht =>
    have hother := hprecedes n s hv hlead m List.mem_cons_self
    rw [isOf_of_characterSubject ht] at hother
    rw [Roster.contains_insert, BEq.comm, hother, h n s hv hlead, Bool.or_self]

end Following

/-! ## One scene -/

section Scenes

theorem Uncostumed.append (h : Uncostumed who es) (h' : Uncostumed who es') :
    Uncostumed who (es ++ es') :=
  List.forall_mem_append.2 ⟨h, h'⟩

theorem CostumedOnce.append_left (h : CostumedOnce who es') (hes : Uncostumed who es) :
    CostumedOnce who (es ++ es') := by
  obtain ⟨pre, t, f, post, rfl, htells, hother⟩ := h
  refine ⟨es ++ pre, t, f, post, (List.append_assoc ..).symm, htells, ?_⟩
  rw [List.append_assoc]
  exact hes.append hother

theorem CostumedOnce.append_right (h : CostumedOnce who es) (hes' : Uncostumed who es') :
    CostumedOnce who (es ++ es') := by
  obtain ⟨pre, t, f, post, rfl, htells, hother⟩ := h
  refine ⟨pre, t, f, post ++ es', ?_, htells, ?_⟩
  · rw [List.append_assoc, List.cons_append, List.cons_append]
  · rw [← List.append_assoc]
    exact hother.append hes'

theorem Donned.append {r'' : Roster} (h : Donned who r es r') (h' : Donned who r' es' r'') :
    Donned who r (es ++ es') r'' := by
  cases h with
  | passed hsame hnone hdue =>
    cases h' with
    | passed hsame' hnone' hdue' =>
      refine .passed (hsame'.trans hsame) (hnone.append hnone') fun hnew => ?_
      exact List.forall_mem_append.2 ⟨hdue hnew, hdue' (hsame.trans hnew)⟩
    | told hnew hknown honce => exact .told (hsame.symm.trans hnew) hknown (honce.append_left hnone)
  | told hnew hknown honce =>
    cases h' with
    | passed hsame hnone => exact .told hnew (hsame.trans hknown) (honce.append_right hnone)
    | told hnew' => cases hnew'.symm.trans hknown

/-- What dressing a row of blocks means for one character. -/
theorem donned_of_dresses (h : Blockwise Dresses r us us' r') (hus : ∀ u ∈ us, Vignette u)
    (who : Object) : Donned who r us'.flatten r' := by
  induction h with
  | nil => exact .passed rfl nofun nofun
  | cons hu _ ih =>
    obtain ⟨hfirst, hrest⟩ := List.forall_mem_cons.1 hus
    rw [List.flatten_cons]
    exact (hu.donned hfirst who).append (ih hrest)

/-- Along a row of blocks nobody is told of before she is described. -/
theorem followed_of_dresses (h : Blockwise Dresses r us us' r') (hus : ∀ u ∈ us, Vignette u)
    (hprecedes : us.Pairwise Precedes) (hfresh : ∀ u ∈ us, Fresh r u) : Followed us'.flatten := by
  induction h with
  | nil => exact followed_of_forall nofun
  | cons hu _ ih =>
    obtain ⟨hfirst, hrest⟩ := List.forall_mem_cons.1 hus
    obtain ⟨hbefore, hprecedes⟩ := List.pairwise_cons.1 hprecedes
    obtain ⟨hnew, hlater⟩ := List.forall_mem_cons.1 hfresh
    rw [List.flatten_cons]
    refine (hu.followed hfirst hnew).append (ih hrest hprecedes fun v hv => ?_)
    exact (hlater v hv).dressed hu (hbefore v hv)

theorem subjects_of_dresses (h : Blockwise Dresses r us us' r') (hus : ∀ u ∈ us, Vignette u) :
    ∀ m ∈ us'.flatten, m.isCostume = true →
      ∃ n ∈ us'.flatten, n.isPortrait = false ∧ ∃ who, m.isOf who = true ∧ n.isOf who = true := by
  intro m hm hcostume
  obtain ⟨u', hu', hm⟩ := List.mem_flatten.1 hm
  have hall : Forall₂ (fun u u' => ∃ r r', Dresses r u u' r') us us' :=
    h.forall₂ fun r u u' r' hdresses => ⟨r, r', hdresses⟩
  obtain ⟨u, hu, r, r', hdresses⟩ := exists_of_mem_right hall hu'
  obtain ⟨n, hn, hacts⟩ := hdresses.subjects (hus u hu) hm hcostume
  exact ⟨n, List.mem_flatten.2 ⟨u', hu', hn⟩, hacts⟩

/-- Blocks that are dressed with a roster of their own. -/
theorem costumed_of_dresses (h : Blockwise Dresses {} us us' r') (hus : ∀ u ∈ us, Vignette u)
    (hprecedes : us.Pairwise Precedes) : Costumed us'.flatten := by
  constructor
  case leads =>
    rintro who ⟨n, hn, hwho, hlead⟩
    cases donned_of_dresses h hus who with
    | passed _ _ hdue => cases (hdue rfl n hn hwho).symm.trans hlead
    | told _ _ honce => exact honce
  case once =>
    intro who
    cases donned_of_dresses h hus who with
    | passed _ hnone => exact .inl hnone
    | told _ _ honce => exact .inr honce
  case followed => exact followed_of_dresses h hus hprecedes fun _ _ _ _ _ _ => rfl
  case subjects => exact subjects_of_dresses h hus

end Scenes

section Alikeness

theorem Alike.isOfLead_eq {n n' : StoryNode} (h : Alike n n') : n'.isOfLead = n.isOfLead := by
  rw [Node.isOfLead, Node.isOfLead, h.objectIn]

theorem Alike.isCostume_eq {n n' : StoryNode} (h : Alike n n') : n'.isCostume = n.isCostume := by
  rw [Node.isCostume, Node.isCostume, h.event?_eq]

theorem Alike.isPortrait_eq {n n' : StoryNode} (h : Alike n n') : n'.isPortrait = n.isPortrait := by
  rw [Node.isPortrait, Node.isPortrait, h.event?_eq]

theorem TellsCostume.alike {t t' f f' : StoryNode} (h : TellsCostume who t f) (ht : Alike t t')
    (hf : Alike f f') : TellsCostume who t' f' where
  torso := ht.event?_eq ▸ h.torso
  feet := hf.event?_eq ▸ h.feet
  torsoOf := (ht.isOf_eq who).trans h.torsoOf
  feetOf := (hf.isOf_eq who).trans h.feetOf

theorem Uncostumed.alike (h : Uncostumed who es) (k : Forall₂ Alike es es') :
    Uncostumed who es' := by
  intro m' hm' hwho
  obtain ⟨m, hm, hmm⟩ := exists_of_mem_right k hm'
  rw [hmm.isOf_eq] at hwho
  rw [hmm.isCostume_eq, h m hm hwho]

theorem CostumedOnce.alike (h : CostumedOnce who es) (k : Forall₂ Alike es es') :
    CostumedOnce who es' := by
  obtain ⟨pre, t, f, post, rfl, htells, hother⟩ := h
  obtain ⟨pre', xs, rfl, hpre, hxs⟩ := exists_append_of_forall₂ k
  obtain ⟨t', ys, ht, hys, rfl⟩ := List.forall₂_cons_left_iff.1 hxs
  obtain ⟨f', post', hf, hpost, rfl⟩ := List.forall₂_cons_left_iff.1 hys
  exact ⟨pre', t', f', post', rfl, htells.alike ht hf, hother.alike (List.rel_append hpre hpost)⟩

theorem Followed.alike (h : Followed es) (k : Forall₂ Alike es es') : Followed es' := by
  rintro pre' m' post' rfl hfeatures hlead
  obtain ⟨pre, xs, rfl, -, hxs⟩ := exists_append_of_forall₂ k.flip
  obtain ⟨m, post, hm, hpost, rfl⟩ := List.forall₂_cons_left_iff.1 hxs
  have hm : Alike m m' := hm
  rw [hm.event?_eq] at hfeatures
  rw [hm.isOfLead_eq] at hlead
  obtain ⟨who, t, f, rest, hwho, htells, rfl⟩ := h pre m post rfl hfeatures hlead
  obtain ⟨t', ys, ht, hys, rfl⟩ := List.forall₂_cons_right_iff.1 hpost
  obtain ⟨f', rest', hf, -, rfl⟩ := List.forall₂_cons_right_iff.1 hys
  exact ⟨who, t', f', rest', (hm.isOf_eq who).trans hwho, htells.alike ht hf, rfl⟩

/-- What is told of costumes is a matter of kinds and subjects. -/
theorem Costumed.alike (h : Costumed es) (k : Forall₂ Alike es es') : Costumed es' := by
  constructor
  case leads =>
    rintro who ⟨n', hn', hwho, hlead⟩
    obtain ⟨n, hn, hnn⟩ := exists_of_mem_right k hn'
    rw [hnn.isOf_eq] at hwho
    rw [hnn.isOfLead_eq] at hlead
    exact (h.leads who ⟨n, hn, hwho, hlead⟩).alike k
  case once => exact fun who => (h.once who).imp (·.alike k) (·.alike k)
  case followed => exact h.followed.alike k
  case subjects =>
    intro m' hm' hcostume
    obtain ⟨m, hm, hmm⟩ := exists_of_mem_right k hm'
    rw [hmm.isCostume_eq] at hcostume
    obtain ⟨n, hn, hplain, who, hmwho, hnwho⟩ := h.subjects m hm hcostume
    obtain ⟨n', hn', hnn⟩ := exists_of_mem_left k hn
    refine ⟨n', hn', hnn.isPortrait_eq.trans hplain, who, ?_, ?_⟩
    · exact (hmm.isOf_eq who).trans hmwho
    · exact (hnn.isOf_eq who).trans hnwho

end Alikeness

/-! ## One story -/

section Stories

variable {N : Object → Prop} {n₀ story out : StoryNode}

/-- The blocks of scenes are the blocks of each. -/
theorem Blocks.scenes (h : Blocks stages cs us) (hcs : ∀ c ∈ cs, c.kind = .scene) :
    ∃ uss, us = uss.flatten ∧ Forall₂ (fun c us => Blocks stages c.children us) cs uss := by
  induction h with
  | nil => exact ⟨[], rfl, .nil⟩
  | @block u ns us hu _ _ =>
    have hscene := hcs _ List.mem_cons_self
    have hbody : Body sequences (bundle u) := hu.body_bundle List.mem_cons_self
    generalize bundle u = n at hscene hbody
    cases hbody with
    | beat => cases hscene
    | group hk =>
      obtain rfl := List.mem_singleton.1 hk
      cases hscene
  | @group k a cs ns us us' hk hfirst _ _ ih =>
    obtain ⟨uss, rfl, hrest⟩ := ih (List.forall_mem_cons.1 hcs).2
    exact ⟨us :: uss, rfl, .cons hfirst hrest⟩

/-- What a scene holds stands in sequences. -/
theorem Blocks.sequences (h : Blocks stages ns us) (hns : ∀ n ∈ ns, Body sequences n) :
    Blocks sequences ns us := by
  induction h with
  | nil => exact .nil
  | block hu _ ih => exact .block hu (ih (List.forall_mem_cons.1 hns).2)
  | group hk _ _ ih ih' =>
    obtain ⟨hn, hrest⟩ := List.forall_mem_cons.1 hns
    cases hn with
    | beat => cases event?_of_mem_stages _ hk
    | group hk' _ hbody => exact .group hk' (ih hbody) (ih' hrest)

variable [Lasting I]

theorem describeCostumes_costumed (hc : SceneOf sequences c) (h : Blocks stages c.children us)
    (hus : ∀ u ∈ us, Vignette u) (hprecedes : us.Pairwise Precedes) (described : Roster) :
    Yields I (fun p => Costumed p.1.events) (describeCostumes described c) := by
  obtain ⟨k, a, cs⟩ := c
  obtain rfl : k = .scene := hc.kind
  have hnone : ∀ m ∈ waiting none, m.IsBeat := nofun
  rw [describeCostumes]
  refine (describeCostumesList_dresses (h.sequences hc.body) (fun n ms hu => (hus _ hu).head.plain) {}
    hnone).bind fun p hp => Yields.pure ?_
  obtain ⟨us', hevents, hdresses⟩ := hp
  have hscene : Node.events ⟨.scene, a, p.1⟩ = us'.flatten := (events_of_not_event rfl).trans hevents
  rw [hscene]
  exact costumed_of_dresses hdresses hus hprecedes

/-- Each scene of a story is dressed with a roster of its own. -/
theorem describeCostumes_story (hn : StoryOf sequences n) (h : Blocks stages n.children us)
    (hus : ∀ u ∈ us, Vignette u) (hprecedes : us.Pairwise Precedes) (described : Roster) :
    Yields I (fun p => ∀ c ∈ p.1.children, Costumed c.events) (describeCostumes described n) := by
  obtain ⟨k, a, cs⟩ := n
  obtain rfl : k = .story := hn.kind
  obtain ⟨uss, rfl, hscenes⟩ := h.scenes fun c hc => (hn.scenes c hc).kind
  rw [List.pairwise_flatten] at hprecedes
  rw [describeCostumes]
  refine (describeCostumesList_each (T := fun _ c' => Costumed c'.events)
    (fun c hc => ⟨(hn.scenes c hc).kind, fun r => ?_⟩) _).bind fun p hp => Yields.pure fun c' hc' => ?_
  · obtain ⟨us, hmem, hblocks⟩ := exists_of_mem_left hscenes hc
    refine describeCostumes_costumed (hn.scenes c hc) hblocks (fun u hu => ?_) (hprecedes.1 us hmem) r
    exact hus u (List.mem_flatten.2 ⟨us, hmem, hu⟩)
  · obtain ⟨c, -, hcc⟩ := exists_of_mem_right hp hc'
    exact hcc

/-- What describing an open story comes to for the costumes, scene by scene. -/
theorem described_costumed (introduced : Roster) (h : OpenStory N n₀ n)
    (hplain : ∀ m ∈ n.events, m.isPortrait = false) (hdescribable : Describable n.events) :
    Yields I (fun p => ∀ c ∈ p.1.children, Costumed c.events) (Editor.described introduced n) := by
  have hes : ∀ m ∈ n.events, Unadorned m := fun m hm => ⟨hplain m hm, hdescribable.states m hm⟩
  refine (described_parts (C := fun _ n' => StoryOf sequences n' ∧ ∀ c ∈ n'.children, Costumed c.events)
    introduced h fun i us vs r n₁ h₁ hvs hdescribes hreminds => ?_).imp fun p hp => ?_
  · obtain ⟨hn₁, given, hpresented⟩ := h₁
    have hprecedes := precedes_of_reminds hreminds
      (precedes_of_describes hdescribable.states hdescribable.leads hdescribes)
    refine ((describeCostumes_yields hn₁ (sequence_of_presented hpresented) {}).and
      (describeCostumes_story hn₁ hvs (vignette_of_passes hes hdescribes hreminds) hprecedes {})).imp
      fun p hp => ⟨hp.1.storyOf fun _ _ h => h.scene, hp.2⟩
  · obtain ⟨i, n', ⟨hn', hcostumed⟩, rfl⟩ := hp
    have hfirst := assignFirstOccurrence_lowered {} hn'
    intro c' hc'
    obtain ⟨c, hc, hcc⟩ := exists_of_mem_right hfirst.scenes hc'
    exact (hcostumed c hc).alike (hcc.events.imp fun _ _ h =>
      alike_of_redrawn h fun _ _ => State.Marked.grows)

end Stories

/-! ## The editor -/

/-- What is told of costumes in a story: scene by scene, and of a heroine whom nobody knew right behind her
description. -/
structure Outfitted (known : Roster) (out : StoryNode) : Prop where
  scenes : ∀ c ∈ out.children, Costumed c.events
  described : ∀ who, known.contains who = false →
    (∃ n ∈ out.events, n.isOf who = true ∧ n.isOfLead = true) →
      ∃ c ∈ out.children, ∃ pre d t f post, c.events = pre ++ d :: t :: f :: post ∧
        d.tells .characterFeaturesDescription who = true ∧ TellsCostume who t f

section Editing

variable {story out : StoryNode}

theorem beq_of_isOf {who' : Object} (h : n.isOf who = true) (h' : n.isOf who' = true) :
    (who == who') = true := by
  obtain ⟨o, ho, hwho⟩ := (Option.any_eq_true _ _).1 h
  obtain ⟨o', ho', hwho'⟩ := (Option.any_eq_true _ _).1 h'
  obtain rfl := Option.some.inj (ho.symm.trans ho')
  exact BEq.trans (BEq.symm (Bool.and_eq_true_iff.1 hwho).2) (Bool.and_eq_true_iff.1 hwho').2

theorem TellsCostume.congr {who' : Object} {t f : StoryNode} (h : TellsCostume who t f)
    (hwho : (who == who') = true) : TellsCostume who' t f :=
  { h with
    torsoOf := (isOf_congr hwho t).symm.trans h.torsoOf
    feetOf := (isOf_congr hwho f).symm.trans h.feetOf }

/-- Whether a character is a heroine is a matter of kinds and subjects. -/
theorem leads_of_alike (h : ∃ lead, ∀ m ∈ es, m.isOf who = true → m.isOfLead = lead)
    (k : Forall₂ Alike es es') : ∃ lead, ∀ m ∈ es', m.isOf who = true → m.isOfLead = lead := by
  obtain ⟨lead, hlead⟩ := h
  refine ⟨lead, fun m' hm' hwho => ?_⟩
  obtain ⟨m, hm, hmm⟩ := exists_of_mem_right k hm'
  rw [hmm.isOf_eq] at hwho
  rw [hmm.isOfLead_eq, hlead m hm hwho]

/-- Whoever is met and is a heroine is dressed right behind her description. -/
theorem Met.dressed {cs : List StoryNode} (h : Met who (cs.flatMap Node.events))
    (hcs : ∀ c ∈ cs, Costumed c.events)
    (hlead : ∀ m ∈ cs.flatMap Node.events, m.isOf who = true → m.isOfLead = true) :
    ∃ c ∈ cs, ∃ pre d t f post, c.events = pre ++ d :: t :: f :: post ∧
      d.tells .characterFeaturesDescription who = true ∧ TellsCostume who t f := by
  obtain ⟨pre, n, d, f, post, hevents, hgreets⟩ := h
  have hf : f ∈ cs.flatMap Node.events := by
    rw [hevents]
    simp only [List.mem_append, List.mem_cons, true_or, or_true]
  obtain ⟨c, hc, hfc⟩ := List.mem_flatMap.1 hf
  obtain ⟨before, behind, hsplit⟩ := List.append_of_mem hfc
  obtain ⟨hkind, hwho⟩ := Bool.and_eq_true_iff.1 hgreets.features
  obtain ⟨who', t, g, rest, hwho', htells, rfl⟩ :=
    (hcs c hc).followed before f behind hsplit (beq_iff_eq.1 hkind) (hlead f hf hwho)
  exact ⟨c, hc, before, f, t, g, rest, hsplit, hgreets.features, htells.congr (beq_of_isOf hwho' hwho)⟩

/-- Nobody's costume is told twice in a scene; a heroine's is never left out, and it comes right behind her
description. -/
theorem edit_costumes (e : Editor) (narration : Narration) (hstory : Draft story)
    (hout : ((e.edit story).run narration).1.1 = .ok out) : Outfitted e.introduced out := by
  have haccount := edit_account e narration hstory (Prod.ext hout rfl)
  have hdescribed : ∀ n, OpenStory (fun _ => True) (mergeAdjacentScenes story) n ∧
      Lowered Undescribed (mergeAdjacentScenes story) n → Yields (fun _ => True)
        (fun p => OpenStory (fun _ => True) (mergeAdjacentScenes story) p.1 ∧
          ∀ c ∈ p.1.children, Costumed c.events) (Editor.described e.introduced n) := by
    rintro n ⟨hopen, hundescribed⟩
    have hdescribable := hopen.describable hstory hundescribed
    exact ((described_yields e.introduced hopen).and (described_costumed e.introduced hopen
      (hopen.plain hstory hundescribed) hdescribable)).imp fun p hp => ⟨hp.1.1, hp.2⟩
  obtain ⟨-, d, -, ⟨hopen, hcostumed⟩, hprinted⟩ := exists_of_edit e narration
    (annotated_undescribed hstory.scenes hstory.bare) hdescribed
    (fun _ _ _ h => (arranged_ends e.conjoinChance h.1).imp (fun _ he => he.elim) fun _ h => h) hout
  have hprose : StoryOf arrangement out := hprinted.storyOf fun _ _ h => h.layout.scene
  have hscenes : ∀ c ∈ out.children, Costumed c.events := by
    intro c' hc'
    obtain ⟨c, hc, hcc⟩ := exists_of_mem_right hprinted.scenes hc'
    exact (hcostumed c hc).alike hcc.alike
  refine ⟨hscenes, fun who hnew hacts => ?_⟩
  obtain ⟨n, hn, hwho, hheroine⟩ := hacts
  obtain ⟨lead, hlead⟩ := leads_of_alike (hopen.leads who) (hprinted.alike hopen.story)
  have hmet := haccount.met who hnew (List.any_eq_true.2 ⟨n, hn, hwho⟩)
  rw [hprose.events_eq] at hmet hlead hn
  refine hmet.dressed hscenes fun m hm hmwho => ?_
  rw [hlead m hm hmwho, ← hlead n hn hwho, hheroine]

/-- What the heroine on the bridge wears is told behind her description. -/
theorem edit_costumes_tableau :
    Draft tableau ∧ ∃ out, (((⟨50, {}⟩ : Editor).edit tableau).run stillness).1.1 = .ok out ∧
      Outfitted {} out := by
  obtain ⟨out, hout⟩ := exists_edit_tableau ⟨50, {}⟩ stillness
  exact ⟨tableau_draft, out, hout, edit_costumes ⟨50, {}⟩ stillness tableau_draft hout⟩

end Editing

end SpaceOpera
