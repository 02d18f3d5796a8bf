import SpaceOpera.Proofs.Chance.Variety
import SpaceOpera.Proofs.Template.Guises
import SpaceOpera.Prose.Render

/-!
# What the templates of an event ask for

`Event.cast` gives for each kind of beat the guises in which its roles have to stand.  Every template of the
beat fits them (`templates_read`, `onePieceTemplates_read`), so that a beat with such roles can be told
(`renderEvent_ends`).
-/

namespace SpaceOpera

open Template (Guise Casting Casts)

/-! ## The guises of a beat -/

namespace Event

/-- The guise of whoever the event is about; `legs` tells whether they wear something on the legs. -/
def subjectGuise? (legs : Bool) : Event → Option Guise
  | settingDescription | genericSettingDescription => some .place
  | torsoCostumeDescription | torsoCostumeReminder => some (if legs then .suited else .character)
  | refusePromotion => some .officer
  | goonParley => some .thing
  | caveIn | appear | turnCorner | behindBars | rescue | lose | attack | encounter | weaponContact
  | flyAcross | afterBattle | travelTo => some .party
  | nearbyDescription | rumblingSound | genericBattle | andTheyKissed | allLaugh => none
  | _ => some .character

/-- The guise of whomever or whatever the event is done to. -/
def objectGuise? : Event → Option Guise
  | offerPromotion => some .officer
  | preludeToKiss | mushyStuff => some .character
  | nearbyDescription | poseDescription | pickUp | hold | contemplate | gestureAt | lookAt | greet
  | introduceItem | askAboutItem | replyAboutItem | rememberItem | digOut | disappear
  | noticeAntagonist | abduct | weMustFindThem | locationHunch | setCourse | weMustGoTo | rescue
  | thank | drop | lookBehind | find | attack | encounter | goonBanter | unsheathe | liftWeapon
  | bringDownWeapon | weaponContact | tryToGetBehind | bumpIntoAwkwardly | observeAfterBattle
  | pullAside | wantToTalkToYou | facesCloseTogether | kiss | travelTo | complimentAction =>
    some .party
  | _ => none

/-- The guise of what else the event is about. -/
def object2Guise? : Event → Option Guise
  | rememberItem | locationHunch | observeAfterBattle => some .party
  | _ => none

/-- The guises that the templates of an event ask for. -/
def cast (legs : Bool) (e : Event) : Casting
  | .subject => e.subjectGuise? legs
  | .object => e.objectGuise?
  | .object2 => e.object2Guise?
  | _ => none

end Event

/-! ## Templates that read -/

/-- The source is a template with the property. -/
def Reads (P : Template → Bool) (source : String) : Prop :=
  ∃ t, Template.parse source = .ok t ∧ P t = true

theorem reads_of_chars {P : Template → Bool} {text : List Char}
    (h : (Template.readSegments text).toOption.any P = true) : Reads P (String.ofList text) := by
  obtain ⟨t, ht, hP⟩ := (Option.any_eq_true _ _).1 h
  refine ⟨t, ?_, hP⟩
  unfold Template.parse
  rw [String.toList_ofList]
  cases hread : Template.readSegments text with
  | error e =>
    rw [hread] at ht
    cases ht
  | ok t' =>
    rw [hread] at ht
    exact congrArg Except.ok (Option.some.inj ht)

section Templates

-- The texts of the templates are unified with lists of characters, one nesting for each character.
set_option maxRecDepth 4000 in
theorem templates_read (e : Event) :
    ∀ source ∈ e.templates, Reads (Template.fits (e.cast true)) source := by
  cases e
  all_goals
    simp only [Event.templates, List.forall_mem_cons, List.not_mem_nil, false_implies, implies_true,
      and_true]
  all_goals and_intros
  all_goals exact reads_of_chars (by decide +kernel)

set_option maxRecDepth 4000 in
theorem onePieceTemplates_read {e : Event} {sources : List String}
    (h : e.onePieceTemplates? = some sources) :
    ∀ source ∈ sources, Reads (Template.fits (e.cast false)) source := by
  cases e
  case torsoCostumeDescription | torsoCostumeReminder =>
    obtain rfl := Option.some.inj h
    simp only [List.forall_mem_cons, List.not_mem_nil, false_implies, implies_true, and_true]
    exact ⟨reads_of_chars (by decide +kernel), reads_of_chars (by decide +kernel)⟩
  all_goals cases h

/-- A look at the setting has an `a` in it, whatever the setting is called. -/
theorem settingDescription_reads :
    ∀ source ∈ Event.settingDescription.templates, Reads (Template.shows 'a') source := by
  simp only [Event.templates, List.forall_mem_cons, List.not_mem_nil, false_implies, implies_true,
    and_true]
  exact ⟨reads_of_chars (by decide +kernel), reads_of_chars (by decide +kernel)⟩

theorem templates_ne_nil {e : Event} (h : e.isTransient = false) : e.templates ≠ [] := by
  cases e <;> first | exact List.cons_ne_nil _ _ | cases h

theorem onePieceTemplates_ne_nil {e : Event} {sources : List String}
    (h : e.onePieceTemplates? = some sources) : sources ≠ [] := by
  cases e <;> first | exact Option.some.inj h ▸ List.cons_ne_nil _ _ | cases h

/-- What is worn on the legs matters only to beats that have templates for one piece. -/
theorem cast_eq_of_onePieceTemplates {e : Event} (h : e.onePieceTemplates? = none) :
    e.cast false = e.cast true := by
  cases e <;> first | rfl | cases h

end Templates

/-! ## Telling -/

/-- Does the one that the event is about wear something on the legs? -/
def Node.hasLegs (n : StoryNode) : Bool :=
  (n.stateIn .subject).any (·.legs.isSome)

/-- An event that is told, with its roles in the guises that it asks for. -/
def Performs (e : Event) (n : StoryNode) : Prop :=
  e.isTransient = false ∧ Casts (e.cast n.hasLegs) n

section Telling

variable {e : Event} {n : StoryNode}

theorem templatesFor_eq (e : Event) (n : StoryNode) :
    Prose.templatesFor e n = match e.onePieceTemplates? with
      | some onePiece => if n.hasLegs then e.templates else onePiece
      | none => e.templates := rfl

theorem templatesFor_read (e : Event) (n : StoryNode) :
    ∀ source ∈ Prose.templatesFor e n, Reads (Template.fits (e.cast n.hasLegs)) source := by
  rw [templatesFor_eq]
  split
  · rename_i sources hsources
    split
    · rename_i hlegs
      rw [hlegs]
      exact templates_read e
    · rename_i hlegs
      rw [Bool.eq_false_iff.2 hlegs]
      exact onePieceTemplates_read hsources
  · rename_i hnone
    cases n.hasLegs with
    | true => exact templates_read e
    | false =>
      rw [cast_eq_of_onePieceTemplates hnone]
      exact templates_read e

theorem templatesFor_ne_nil (h : e.isTransient = false) : Prose.templatesFor e n ≠ [] := by
  rw [templatesFor_eq]
  split
  · rename_i hsources
    split
    · exact templates_ne_nil h
    · exact onePieceTemplates_ne_nil hsources
  · exact templates_ne_nil h

/-- A beat whose roles stand in their guises can be told. -/
theorem renderEvent_ends (h : Performs e n) :
    Ends Varied (fun _ => False) (fun text => e = .settingDescription → 'a' ∈ text.toList)
      (Prose.renderEvent e n) := by
  obtain ⟨hlasting, hcast⟩ := h
  unfold Prose.renderEvent
  refine (Ends.drawn (Roll.pickVaried_yields _)).bind fun template htemplate => ?_
  rw [if_neg (templatesFor_ne_nil hlasting)] at htemplate
  obtain ⟨source, hsource, rfl⟩ := htemplate
  obtain ⟨t, ht, hfits⟩ := templatesFor_read e n source hsource
  have hshows : e = .settingDescription → t.shows 'a' = true := by
    rintro rfl
    obtain ⟨t', ht', hshows⟩ := settingDescription_reads source hsource
    rw [ht] at ht'
    exact Except.ok.inj ht' ▸ hshows
  dsimp only [renderTemplate]
  rw [ht]
  have hrender := Template.render_ends (I := Varied) (E := fun _ => False) (c := 'a') hcast hfits
  exact Ends.adapt (hrender.imp (fun _ h => h) fun text htext he => htext (hshows he)) fun _ h => h

end Telling

end SpaceOpera
