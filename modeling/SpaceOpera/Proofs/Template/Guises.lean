import SpaceOpera.Proofs.Chance.Outcomes
import SpaceOpera.Proofs.Insertion

/-!
# What a slot can ask for

A guise says what is known of a term on the way of a slot, from whoever takes the role to the text in the
end: whether it may be several, whether it is a character with all that is told of one, and so on.
`Guise.ask` computes the guise of what a property comes to, and where it comes to a guise the property is
there (`property_ends`).  A template whose slots all come to text, from the guises of the roles that they
start at, can be filled in (`render_ends`).
-/

namespace SpaceOpera

/-- The state of a character that has all that is told of it. -/
structure State.Complete (s : State) : Prop where
  character : s.object.isCharacter = true
  mood : s.mood.isSome = true
  location : ∃ o p, s.location = some o ∧ o.place? = some p ∧ p.hasScenery = true
  torso : s.torso.isSome = true
  feet : s.feet.isSome = true

namespace Template

/-! ## Guises -/

/-- What is known of a term. -/
inductive Guise where
  | text
  /-- One or several. -/
  | party
  | thing
  /-- A setting with scenery. -/
  | place
  | character
  /-- A character with something on the legs. -/
  | suited
  /-- A character with a rank above their own. -/
  | officer
deriving DecidableEq, Repr

/-- The object that a term is or is a state of. -/
def Term.object? : Term → Option Object
  | .object o => some o
  | .state s => some s.object
  | _ => none

/-- The term stands in the guise. -/
def Guise.Of : Guise → Term → Prop
  | .text, t => ∃ s, t = .text s
  | .party, t => ∀ s, t ≠ .text s
  | .thing, t => t.object?.isSome = true
  | .place, t => ∃ o p, t.object? = some o ∧ o.place? = some p ∧ p.hasScenery = true
  | .character, t => ∃ s, t = .state s ∧ s.Complete
  | .suited, t => ∃ s, t = .state s ∧ s.Complete ∧ s.legs.isSome = true
  | .officer, t => ∃ s, t = .state s ∧ s.Complete ∧ (s.object.rank.bind Rank.next?).isSome = true

/-- The guises that whatever stands in this one stands in. -/
def Guise.lineage : Guise → List Guise
  | .text => [.text]
  | .party => [.party]
  | .thing => [.thing, .party]
  | .place => [.place, .thing, .party]
  | .character => [.character, .thing, .party]
  | .suited => [.suited, .character, .thing, .party]
  | .officer => [.officer, .character, .thing, .party]

theorem Guise.Of.lineage {g g' : Guise} {t : Term} (h : g.Of t) (hg : g' ∈ g.lineage) :
    g'.Of t := by
  have hparty : t.object?.isSome = true → Guise.party.Of t := by
    rintro ho s rfl
    cases ho
  cases g with
  | text | party => exact List.mem_singleton.1 hg ▸ h
  | thing =>
    rcases List.mem_pair.1 hg with rfl | rfl
    · exact h
    · exact hparty h
  | place =>
    have hthing : t.object?.isSome = true := by
      obtain ⟨o, -, ho, -⟩ := h
      exact Option.isSome_iff_exists.2 ⟨o, ho⟩
    simp only [Guise.lineage, List.mem_cons, List.not_mem_nil, or_false] at hg
    rcases hg with rfl | rfl | rfl
    · exact h
    · exact hthing
    · exact hparty hthing
  | character =>
    obtain ⟨s, rfl, hs⟩ := h
    simp only [Guise.lineage, List.mem_cons, List.not_mem_nil, or_false] at hg
    rcases hg with rfl | rfl | rfl
    · exact ⟨s, rfl, hs⟩
    · exact rfl
    · exact hparty rfl
  | suited | officer =>
    obtain ⟨s, rfl, hs, hmore⟩ := h
    simp only [Guise.lineage, List.mem_cons, List.not_mem_nil, or_false] at hg
    rcases hg with rfl | rfl | rfl | rfl
    · exact ⟨s, rfl, hs, hmore⟩
    · exact ⟨s, rfl, hs⟩
    · exact rfl
    · exact hparty rfl

/-! ## Asking -/

/-- A property of whatever has a name. -/
def Property.isNaming (p : Property) : Bool :=
  [name, definite, indefinite, possessive, possessivePronoun, accusative, accusativePronoun,
    pronoun, was].contains p

/-- A text that every object has. -/
def Property.isPlain (p : Property) : Bool :=
  [distal, proximal, singular, colour, gibberish].contains p

/-- A text that every character has, and every state of one. -/
def Property.isTrait (p : Property) : Bool :=
  [stature, hairLength, hairColour, eyeColour, featureAdj, feature, warCry, wearing, yet, motion,
    simile, withVoice].contains p

/-- A word of the mood. -/
def Property.isDiction (p : Property) : Bool :=
  [adverb, said, shouted, emoted].contains p

/-- The guise of what a property comes to on account of the guise alone. -/
def Guise.own : Guise → Property → Option Guise
  | .text, _ => none
  | .party, p => if p.isNaming then some .text else none
  | .thing, p => if p.isPlain then some .text else none
  | .place, .light | .place, .preposition => some .text
  | .place, .nearby | .place, .nearbyScenery | .place, .roof => some .thing
  | .place, _ => none
  | .character, .location => some .place
  | .character, .pickDuty | .character, .torsoCostume | .character, .feetCostume => some .thing
  | .character, p => if p.isTrait || p.isDiction then some .text else none
  | .suited, .legsCostume => some .thing
  | .suited, _ => none
  | .officer, .rank | .officer, .nextRank => some .text
  | .officer, _ => none

/-- The guise of what a property comes to. -/
def Guise.ask (g : Guise) (p : Property) : Option Guise :=
  g.lineage.findSome? (·.own p)

section Asking

variable {I : Context → Prop} {E : SlotError → Prop} {g g' : Guise} {t : Term} {o : Object}
  {s : State} {p : Property}

theorem rolled_ends {roll : Roll String} {P : String → Prop} (h : Yields I P roll) :
    Ends I E Guise.text.Of (rolled roll) :=
  (Ends.drawn h).bind fun text _ => Ends.pure ⟨text, rfl⟩

theorem linked_ends {link : Option Object} (h : link.isSome = true) :
    Ends I E Guise.thing.Of (liftM (linked p o link) : Attempt SlotError Term) := by
  obtain ⟨o', rfl⟩ := Option.isSome_iff_exists.1 h
  exact Ends.pure rfl

theorem pick_ends {roll : Roll (Option Object)} {os : List Object} (hos : os ≠ [])
    (h : Yields I (fun x => if os = [] then x = none else ∃ a ∈ os, x = some a) roll) :
    Ends I E Guise.thing.Of (rolledObject p o roll) := by
  refine (Ends.drawn h).bind fun x hx => ?_
  rw [if_neg hos] at hx
  obtain ⟨a, -, rfl⟩ := hx
  exact linked_ends rfl

variable [Lasting I]

theorem mentionName_yields (s : State) : Yields I (fun _ => True) s.mentionName := by
  unfold State.mentionName
  refine Yields.ite (fun _ => Yields.pure trivial) fun hseveral => ?_
  have hlast : 1 ≤ s.object.names.length - 1 := by
    simp only [Bool.or_eq_true, decide_eq_true_eq, not_or] at hseveral
    omega
  exact (Roll.between_yields hlast).bind fun _ _ => Yields.pure trivial

theorem definite_yields (s : State) : Yields I (fun _ => True) s.definite :=
  (mentionName_yields s).bind fun _ _ => Yields.pure trivial

theorem party_ends (h : Guise.party.Of t) (hp : p.isNaming = true) :
    Ends I E Guise.text.Of (t.property p) := by
  cases t with
  | text text => exact absurd rfl (h text)
  | object o =>
    cases p
    case name | definite | indefinite | possessive | possessivePronoun | accusative
      | accusativePronoun | pronoun | was => exact Ends.pure ⟨_, rfl⟩
    all_goals cases hp
  | group g =>
    cases p
    case name | definite | indefinite | possessive | possessivePronoun | accusative
      | accusativePronoun | pronoun | was => exact Ends.pure ⟨_, rfl⟩
    all_goals cases hp
  | state s =>
    cases p
    case name | possessivePronoun | accusativePronoun | was => exact Ends.pure ⟨_, rfl⟩
    case definite => exact rolled_ends (definite_yields s)
    case indefinite =>
      refine rolled_ends (P := fun _ => True) ((mentionName_yields s).bind fun _ _ => ?_)
      exact Yields.pure trivial
    case pronoun | accusative =>
      refine rolled_ends (P := fun _ => True) (Yields.ite (fun _ => ?_) fun _ => ?_)
      · exact Yields.pure trivial
      · exact definite_yields s
    case possessive =>
      refine rolled_ends (P := fun _ => True) (Yields.ite (fun _ => ?_) fun _ => ?_)
      · exact Yields.pure trivial
      · exact (definite_yields s).bind fun _ _ => Yields.pure trivial
    all_goals cases hp

theorem plain_ends (o : Object) (hp : p.isPlain = true) :
    Ends I E Guise.text.Of (objectProperty o p) := by
  cases p
  case distal | proximal | singular => exact Ends.pure ⟨_, rfl⟩
  case colour => exact rolled_ends (Roll.word_yields _)
  case gibberish => exact rolled_ends Roll.gibberish_yields
  all_goals cases hp

theorem thing_ends (h : Guise.thing.Of t) (hp : p.isPlain = true) :
    Ends I E Guise.text.Of (t.property p) := by
  cases t with
  | text | group => cases h
  | object o => exact plain_ends o hp
  | state s =>
    have hsame : Term.property (.state s) p = objectProperty s.object p := by
      cases p
      case distal | proximal | singular | colour | gibberish => rfl
      all_goals cases hp
    rw [hsame]
    exact plain_ends s.object hp

theorem place_ends {place : Place Object} (hplace : o.place? = some place)
    (hscenery : place.hasScenery = true) (hp : Guise.place.own p = some g') :
    Ends I E g'.Of (objectProperty o p) := by
  obtain ⟨a, ha, hfixed⟩ := List.any_eq_true.1 hscenery
  have hmem : a ∈ place.nearby.filter (!·.takeable) := List.mem_filter.2 ⟨ha, hfixed⟩
  cases p
  case light | preposition =>
    cases hp
    simp only [objectProperty, placeProperty, hplace]
    exact Ends.pure ⟨_, rfl⟩
  case roof =>
    cases hp
    simp only [objectProperty, placeProperty, hplace]
    exact Ends.pure rfl
  case nearby =>
    cases hp
    simp only [objectProperty, placeProperty, hplace]
    exact pick_ends (List.ne_nil_of_mem ha) (Roll.choose_yields _)
  case nearbyScenery =>
    cases hp
    simp only [objectProperty, placeProperty, hplace]
    exact pick_ends (List.ne_nil_of_mem hmem) (Roll.choose_yields _)
  all_goals cases hp

theorem contrast_yields : Yields I (fun _ => True) rollContrast :=
  (Roll.word_yields _).bind fun _ _ => (Roll.word_yields _).bind fun _ _ => Yields.pure trivial

theorem simile_yields : Yields I (fun _ => True) rollSimile :=
  (Roll.word_yields _).bind fun _ _ => (Roll.word_yields _).bind fun _ _ => Yields.pure trivial

theorem trait_ends (h : o.isCharacter = true) (hp : p.isTrait = true) :
    Ends I E Guise.text.Of (objectProperty o p) := by
  obtain ⟨c, hc⟩ := Option.isSome_iff_exists.1 h
  cases p
  case stature | hairLength | hairColour | eyeColour | featureAdj | feature | warCry =>
    simp only [objectProperty, characterProperty, hc]
    exact Ends.pure ⟨_, rfl⟩
  case wearing =>
    simp only [objectProperty, characterProperty, hc]
    exact rolled_ends (Roll.word_yields _)
  case yet =>
    simp only [objectProperty, characterProperty, hc]
    exact rolled_ends contrast_yields
  case motion =>
    simp only [objectProperty, characterProperty, hc]
    refine rolled_ends (P := fun _ => True) ((Roll.chance_yields _).bind fun _ _ => ?_)
    refine Yields.ite (fun _ => Yields.pure trivial) fun _ => ?_
    exact contrast_yields.bind fun _ _ => Yields.pure trivial
  case simile =>
    simp only [objectProperty, characterProperty, hc]
    exact rolled_ends simile_yields
  case withVoice =>
    simp only [objectProperty, characterProperty, hc]
    exact rolled_ends (P := fun _ => True) (simile_yields.bind fun _ _ => Yields.pure trivial)
  all_goals cases hp

theorem mood_ends (h : s.mood.isSome = true) (table : Diction → List String) :
    Ends I E Guise.text.Of (moodProperty s table) := by
  obtain ⟨mood, hmood⟩ := Option.isSome_iff_exists.1 h
  unfold moodProperty State.moodWord
  rw [hmood]
  refine Ends.bind (P := fun w => w.isSome = true) (Ends.drawn ?_) fun w hw => ?_
  · exact (Roll.word_yields _).bind fun _ _ => Yields.pure rfl
  · obtain ⟨w, rfl⟩ := Option.isSome_iff_exists.1 hw
    exact Ends.pure ⟨w, rfl⟩

theorem character_ends (h : s.Complete) (hp : Guise.character.own p = some g') :
    Ends I E g'.Of (stateProperty s p) := by
  cases p
  case location =>
    cases hp
    obtain ⟨o, place, ho, hplace, hscenery⟩ := h.location
    simp only [stateProperty, ho]
    exact Ends.pure ⟨o, place, rfl, hplace, hscenery⟩
  case pickDuty =>
    cases hp
    refine Ends.bind (P := fun _ => True) (Ends.drawn ?_) fun _ _ => Ends.pure rfl
    exact (Roll.choose_yields _).bind fun _ _ => Yields.pure trivial
  case torsoCostume =>
    cases hp
    exact linked_ends h.torso
  case feetCostume =>
    cases hp
    exact linked_ends h.feet
  case adverb | said | shouted | emoted =>
    cases hp
    exact mood_ends h.mood _
  case stature | hairLength | hairColour | eyeColour | featureAdj | feature | warCry | wearing | yet
    | motion | simile | withVoice =>
    cases hp
    exact trait_ends h.character rfl
  all_goals cases hp

theorem own_ends (h : g.Of t) (hp : g.own p = some g') : Ends I E g'.Of (t.property p) := by
  cases g with
  | text => cases hp
  | party =>
    obtain ⟨hnaming, rfl⟩ : p.isNaming = true ∧ Guise.text = g' := by simpa [Guise.own] using hp
    exact party_ends h hnaming
  | thing =>
    obtain ⟨hplain, rfl⟩ : p.isPlain = true ∧ Guise.text = g' := by simpa [Guise.own] using hp
    exact thing_ends h hplain
  | place =>
    obtain ⟨o, place, ho, hplace, hscenery⟩ := h
    have hsame : t.property p = objectProperty o p := by
      cases t with
      | text | group => cases ho
      | object o' =>
        obtain rfl := Option.some.inj ho
        rfl
      | state s =>
        obtain rfl := Option.some.inj ho
        cases p
        case light | preposition | nearby | nearbyScenery | roof => rfl
        all_goals cases hp
    rw [hsame]
    exact place_ends hplace hscenery hp
  | character =>
    obtain ⟨s, rfl, hs⟩ := h
    exact character_ends hs hp
  | suited =>
    obtain ⟨s, rfl, -, hlegs⟩ := h
    cases p
    case legsCostume =>
      cases hp
      exact linked_ends hlegs
    all_goals cases hp
  | officer =>
    obtain ⟨s, rfl, -, hrank⟩ := h
    obtain ⟨next, hnext⟩ := Option.isSome_iff_exists.1 hrank
    obtain ⟨rank, hrank, -⟩ := Option.bind_eq_some_iff.1 hnext
    cases p
    case rank =>
      cases hp
      simp only [Term.property, stateProperty, objectProperty, hrank]
      exact Ends.pure ⟨_, rfl⟩
    case nextRank =>
      cases hp
      simp only [Term.property, stateProperty, objectProperty, hnext]
      exact Ends.pure ⟨_, rfl⟩
    all_goals cases hp

/-- Where asking for a property comes to a guise, it is there to be asked for. -/
theorem property_ends (h : g.Of t) (hp : g.ask p = some g') : Ends I E g'.Of (t.property p) := by
  obtain ⟨g₀, hlineage, hown⟩ := List.exists_of_findSome?_eq_some hp
  exact own_ends (h.lineage hlineage) hown

end Asking

/-! ## Filling in -/

/-- The guise in which each role stands. -/
abbrev Casting := Role → Option Guise

/-- The guise of what a path comes to. -/
def Guise.after (g : Guise) (path : List Property) : Option Guise :=
  path.foldlM Guise.ask g

/-- The piece comes to text. -/
def Piece.fits (cast : Casting) : Piece → Bool
  | literal _ => true
  | slot role path => (cast role).any fun g => g.after path = some .text

/-- Every piece comes to text. -/
def Segment.fits (cast : Casting) : Segment → Bool
  | piece p => p.fits cast
  | choice options => options.all fun ps => ps.all (·.fits cast)

/-- Every slot comes to text. -/
def fits (cast : Casting) (t : Template) : Bool :=
  t.all (·.fits cast)

/-- The character stands in the text of the piece. -/
def Piece.shows (c : Char) : Piece → Bool
  | literal text => text.contains c
  | slot _ _ => false

/-- Whatever is chosen, the character stands in the text. -/
def Segment.shows (c : Char) : Segment → Bool
  | piece p => p.shows c
  | choice options => !options.isEmpty && options.all fun ps => ps.any (·.shows c)

/-- However the template is filled in, the character stands in the text. -/
def shows (c : Char) (t : Template) : Bool :=
  t.any (·.shows c)

section Filling

variable {κ : Type} [NodeKind κ] {I : Context → Prop} [Lasting I] {E : SlotError → Prop}
  {cast : Casting} {n : Node κ} {c : Char}

/-- Each role of the casting is declared and holds a value in its guise. -/
def Casts (cast : Casting) (n : Node κ) : Prop :=
  ∀ r g, cast r = some g →
    n.declares r = true ∧ ∃ v, n.get? r = some v ∧ g.Of (Term.ofValue v)

theorem path_ends {path : List Property} {g g' : Guise} {t : Term} (h : g.Of t)
    (hpath : g.after path = some g') : Ends I E g'.Of (path.foldlM Term.property t) := by
  induction path generalizing g t with
  | nil =>
    obtain rfl := Option.some.inj hpath
    exact Ends.pure h
  | cons p path ih =>
    rw [Guise.after, List.foldlM_cons] at hpath
    obtain ⟨g₁, hg₁, hpath⟩ := Option.bind_eq_some_iff.1 hpath
    rw [List.foldlM_cons]
    exact (property_ends h hg₁).bind fun t' ht' => ih ht' hpath

theorem Piece.render_ends (hn : Casts cast n) {p : Piece} (hp : p.fits cast = true) :
    Ends I E (fun text => p.shows c = true → c ∈ text.toList) (p.render n) := by
  cases p with
  | literal text =>
    refine Ends.pure fun hc => ?_
    rw [String.toList_ofList]
    exact List.contains_iff_mem.1 hc
  | slot role path =>
    obtain ⟨g, hg, hpath⟩ := (Option.any_eq_true _ _).1 hp
    obtain ⟨hdeclared, v, hv, hof⟩ := hn role g hg
    simp only [Piece.render, renderSlot, Node.lookup, hdeclared, hv, ↓reduceIte]
    refine (path_ends hof (of_decide_eq_true hpath)).bind fun t ht => ?_
    obtain ⟨s, rfl⟩ := ht
    exact Ends.pure nofun

theorem renderPieces_ends (hn : Casts cast n) {ps : List Piece}
    (hps : ps.all (·.fits cast) = true) :
    Ends I E (fun text => ps.any (·.shows c) = true → c ∈ text.toList) (renderPieces n ps) := by
  unfold renderPieces
  rw [List.all_eq_true] at hps
  refine (Ends.mapM ps fun p hp => Piece.render_ends (c := c) hn (hps p hp)).bind fun texts htexts =>
    Ends.pure fun hshows => ?_
  obtain ⟨p, hp, hc⟩ := List.any_eq_true.1 hshows
  obtain ⟨text, htext, hpt⟩ := exists_of_mem_right htexts.flip hp
  rw [String.toList_join]
  exact List.mem_flatMap.2 ⟨text, htext, hpt hc⟩

theorem Segment.render_ends (hn : Casts cast n) {s : Segment} (hs : s.fits cast = true) :
    Ends I E (fun text => s.shows c = true → c ∈ text.toList) (s.render n) := by
  cases s with
  | piece p => exact Piece.render_ends hn hs
  | choice options =>
    rw [Segment.fits, List.all_eq_true] at hs
    rw [Segment.render]
    split
    · rename_i hnone
      refine Ends.pure fun hc => ?_
      rw [Segment.shows, hnone] at hc
      cases hc
    · rename_i hsome
      have hpos : 0 < options.length := List.length_pos_iff.2 fun h => hsome (h ▸ rfl)
      refine (Ends.drawn (Roll.below_yields .wide hpos)).bind fun i hi => ?_
      have hmem : options.getD i [] ∈ options := by
        rw [List.getD_eq_getElem?_getD, List.getElem?_eq_getElem hi]
        exact List.getElem_mem hi
      refine (renderPieces_ends (c := c) hn (hs _ hmem)).imp (fun _ h => h) fun text htext hc => ?_
      rw [Segment.shows, Bool.and_eq_true, List.all_eq_true] at hc
      exact htext (hc.2 _ hmem)

/-- A template that fits the roles of a node can be filled in from it. -/
theorem render_ends (hn : Casts cast n) {t : Template} (ht : t.fits cast = true) :
    Ends I E (fun text => t.shows c = true → c ∈ text.toList) (t.render n) := by
  unfold fits at ht
  rw [List.all_eq_true] at ht
  refine (Ends.mapM t fun s hs => Segment.render_ends (c := c) hn (ht s hs)).bind fun texts htexts =>
    Ends.pure fun hshows => ?_
  obtain ⟨s, hs, hc⟩ := List.any_eq_true.1 hshows
  obtain ⟨text, htext, hst⟩ := exists_of_mem_right htexts.flip hs
  rw [String.toList_join]
  exact List.mem_flatMap.2 ⟨text, htext, hst hc⟩

end Filling

end Template

end SpaceOpera
