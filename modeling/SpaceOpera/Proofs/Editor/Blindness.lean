import SpaceOpera.Editor.Basic
import SpaceOpera.Proofs.Plotter.Blindness

/-!
# Editing without varied choices

Each pass over a story draws without a look at the bags of options, and so does the editor as a whole
(`edit_blind`).
-/

namespace SpaceOpera

/-! ## Outfits -/

section Outfits

theorem rollAdjective_blind (w : Wardrobe) : Blind w.rollAdjective := by
  refine (Roll.chance_blind _).bind fun _ => .ite (.pure _) ?_
  exact (Roll.chance_blind _).bind fun _ => .ite ((Roll.word_blind _).bind fun _ => .pure _) (.pure "")

theorem rollDecoration_blind (w : Wardrobe) : Blind w.rollDecoration := by
  refine (Roll.chance_blind _).bind fun _ => .ite ?_ (.pure "")
  refine (Roll.word_blind _).bind fun _ => (Roll.word_blind _).bind fun _ => ?_
  exact (Roll.word_blind _).bind fun _ => (Roll.word_blind _).bind fun _ => .pure _

theorem Garment.roll_blind (g : Garment) (c : Character) : Blind (g.roll c) := by
  refine (rollAdjective_blind _).bind fun _ => (Roll.word_blind _).bind fun _ => ?_
  refine (Roll.word_blind _).bind fun _ => (Roll.choose_blind _).bind fun _ => ?_
  exact (rollDecoration_blind _).bind fun _ => .pure _

theorem Outfit.roll_blind (c : Character) : Blind (Outfit.roll c) := by
  refine (Garment.roll_blind _ c).bind fun _ => (Roll.chance_blind 66).bind fun _ => .ite ?_ ?_
  · exact (Garment.roll_blind _ c).bind fun _ => (Garment.roll_blind _ c).bind fun _ => .pure _
  · exact (Garment.roll_blind _ c).bind fun _ => .pure _

theorem outfitOf_blind (o : Object) (c : Character) : Blind (outfitOf o c) := by
  refine Blind.get.bind fun outfits => ?_
  split
  · exact .pure _
  · refine Blind.bind (.carried (Outfit.roll_blind c)) fun outfit => ?_
    exact (Blind.set _).bind fun _ => .pure outfit

theorem dress_blind (v : Value) : Blind (dress v) := by
  unfold dress
  split
  · split
    · exact (outfitOf_blind _ _).bind fun outfit => .pure _
    · exact .pure _
  · exact .pure _

mutual

theorem assignCostumes_blind : ∀ n : StoryNode, Blind (assignCostumes n)
  | ⟨k, a, cs⟩ => by
    rw [assignCostumes]
    dsimp only
    -- What follows is the same whether the node is a scene, which starts with no outfits, or not.
    refine Blind.get.bind fun outer => .ite ((Blind.set _).bind fun _ => ?_) ?_
    all_goals
      refine (Attributes.mapM_blind (fun _ => dress_blind) a).bind fun a' => ?_
      refine (assignCostumesList_blind cs).bind fun cs' => ?_
      exact .ite ((Blind.set outer).bind fun _ => .pure _) (.pure _)

theorem assignCostumesList_blind : ∀ cs : List StoryNode, Blind (assignCostumesList cs)
  | [] => by
    rw [assignCostumesList]
    exact .pure []
  | c :: cs => by
    rw [assignCostumesList]
    exact (assignCostumes_blind c).bind fun _ => (assignCostumesList_blind cs).bind fun _ => .pure _

end

end Outfits

/-! ## Scenes -/

section Scenes

theorem pickSceneryOf_blind (setting : Option Object) : Blind (pickSceneryOf setting) := by
  unfold pickSceneryOf
  split
  · exact pickScenery_blind _
  · exact .pure none

theorem poseAt_blind (setting : Option Object) (k : StoryKind) (a : Attributes) :
    Blind (poseAt setting k a) :=
  .ite ((pickSceneryOf_blind setting).bind fun _ => .pure _) (.pure a)

theorem openScene_blind (n : StoryNode) : Blind (openScene n) := by
  unfold openScene
  split
  · exact .throw _
  split
  · exact .throw _
  refine (pickSceneryOf_blind _).drawn.bind fun scenery => ?_
  split
  · exact .throw _
  · exact .pure _

mutual

theorem describeScenes_blind : ∀ n : StoryNode, Blind (describeScenes n)
  | ⟨k, a, cs⟩ => by
    rw [describeScenes]
    exact .ite (openScene_blind _) ((describeScenesList_blind cs).bind fun _ => .pure _)

theorem describeScenesList_blind : ∀ cs : List StoryNode, Blind (describeScenesList cs)
  | [] => by
    rw [describeScenesList]
    exact .pure []
  | c :: cs => by
    rw [describeScenesList]
    exact (describeScenes_blind c).bind fun _ => (describeScenesList_blind cs).bind fun _ => .pure _

end

end Scenes

/-! ## Moods -/

section Moods

theorem refusal_blind (mood : Mood) (n : StoryNode) : Blind (refusal mood n) := by
  refine (Roll.chance_blind 10).bind fun told => ?_
  split
  · exact .ite (.pure _) (.pure [])
  · exact .pure []

mutual

theorem removeMoodModifiers_blind : ∀ n : StoryNode, Blind (removeMoodModifiers n)
  | ⟨k, a, cs⟩ => by
    rw [removeMoodModifiers]
    exact (removeMoodModifiersList_blind cs).bind fun _ => .pure _

theorem removeMoodModifiersList_blind : ∀ cs : List StoryNode, Blind (removeMoodModifiersList cs)
  | [] => by
    rw [removeMoodModifiersList]
    exact .pure []
  | c :: cs => by
    have hrest : ∀ kept : List StoryNode, Blind (do
        let rest ← removeMoodModifiersList cs
        return kept ++ rest) := fun kept => (removeMoodModifiersList_blind cs).bind fun _ => .pure _
    rw [removeMoodModifiersList]
    dsimp only
    split
    · exact (refusal_blind _ c).bind hrest
    · exact (removeMoodModifiers_blind c).bind fun c => (Blind.pure [c]).bind hrest

end

end Moods

/-! ## Descriptions -/

section Descriptions

variable {σ : Type} {tell : StoryNode → State → StateT σ Roll StoryNode}

mutual

theorem tellSubjects_blind (h : ∀ n s, Blind (tell n s)) : ∀ n : StoryNode, Blind (tellSubjects tell n)
  | ⟨k, a, cs⟩ => by
    rw [tellSubjects]
    split
    · exact h _ _
    · exact (tellSubjectsList_blind h cs).bind fun _ => .pure _

theorem tellSubjectsList_blind (h : ∀ n s, Blind (tell n s)) :
    ∀ cs : List StoryNode, Blind (tellSubjectsList tell cs)
  | [] => by
    rw [tellSubjectsList]
    exact .pure []
  | c :: cs => by
    rw [tellSubjectsList]
    exact (tellSubjects_blind h c).bind fun _ => (tellSubjectsList_blind h cs).bind fun _ => .pure _

end

theorem describeSubject_blind (n : StoryNode) (s : State) : Blind (describeSubject n s) := by
  intro i
  have hnow : Blind (describedNow (i.countOff s.object).1 s.object (i.countOff s.object).2) :=
    .ite (.pure false) (.ite (.pure true) (Roll.chance_blind 50))
  exact hnow.bind fun _ => .ite (.pure _) (.pure _)

theorem remindSubject_blind (n : StoryNode) (s : State) : Blind (remindSubject n s) := by
  intro reminded
  exact Blind.ite (.pure _) ((Roll.chance_blind 20).bind fun _ => .ite (.pure _) (.pure _))

theorem costumeBeats_blind (s : State) : Blind (costumeBeats s) :=
  (Roll.chance_blind 10).bind fun _ => (Roll.chance_blind 10).bind fun _ => .pure _

theorem costumeAfter_blind (n : StoryNode) (described : Roster) : Blind (costumeAfter n described) := by
  have hdue : ∀ s : State, Blind (costumeDue n s described) := fun s =>
    .ite (.pure false) (.ite (.pure true) (Roll.chance_blind 50))
  unfold costumeAfter
  split
  · exact .pure none
  · rename_i s _
    exact (hdue s).bind fun _ => .ite ((costumeBeats_blind s).bind fun _ => .pure _) (.pure none)

mutual

theorem describeCostumes_blind (described : Roster) :
    ∀ n : StoryNode, Blind (describeCostumes described n)
  | ⟨k, a, cs⟩ => by
    rw [describeCostumes]
    exact (describeCostumesList_blind _ none cs).bind fun _ => .pure _

theorem describeCostumesList_blind (described : Roster) (pending : Option PendingBeats) :
    ∀ cs : List StoryNode, Blind (describeCostumesList described pending cs)
  | [] => by
    rw [describeCostumesList]
    exact .pure _
  | c :: cs => by
    rw [describeCostumesList]
    dsimp only
    refine .ite ((costumeAfter_blind c described).bind fun beats => ?_) ?_
    · cases beats with
      | none => exact (describeCostumesList_blind _ _ cs).bind fun _ => .pure _
      | some p => exact (describeCostumesList_blind _ _ cs).bind fun _ => .pure _
    · refine (describeCostumes_blind described c).bind fun after => ?_
      exact (describeCostumesList_blind _ none cs).bind fun _ => .pure _

end

end Descriptions

/-! ## Paragraphs -/

section Paragraphs

variable {chance : Nat}

theorem conjoinFrom_blind (held : StoryNode) (ns : List StoryNode) :
    Blind (conjoinFrom chance held ns) := by
  induction ns generalizing held with
  | nil => exact .pure [held]
  | cons n ns ih =>
    rw [conjoinFrom]
    refine .bindIf (Roll.chance_blind chance) fun joins => .ite (ih _) ?_
    exact (ih n).bind fun _ => .pure _

mutual

theorem conjoin_blind : ∀ n : StoryNode, Blind (conjoin chance n)
  | ⟨k, a, cs⟩ => by
    rw [conjoin]
    refine .ite (Blind.bind ?_ fun _ => .pure _) ((conjoinList_blind cs).bind fun _ => .pure _)
    cases cs with
    | nil => exact .pure []
    | cons n ns => exact conjoinFrom_blind n ns

theorem conjoinList_blind : ∀ cs : List StoryNode, Blind (conjoinList chance cs)
  | [] => by
    rw [conjoinList]
    exact .pure []
  | c :: cs => by
    rw [conjoinList]
    exact (conjoin_blind c).bind fun _ => (conjoinList_blind cs).bind fun _ => .pure _

end

end Paragraphs

/-! ## The editor -/

namespace Editor

theorem annotated_blind (story : StoryNode) : Blind (annotated story) := by
  unfold annotated
  refine (Node.annotate_blind poseAt_blind none _).rolled.bind fun story => ?_
  refine (Blind.rolled (assignCostumes_blind _ {})).bind fun dressed => ?_
  refine (report_blind _).bind fun _ => (removeMoodModifiers_blind _).rolled.bind fun story => ?_
  dsimp only
  exact (report_blind _).bind fun _ => (describeScenes_blind _).narrated

theorem described_blind (introduced : Roster) (story : StoryNode) :
    Blind (described introduced story) := by
  unfold described
  refine Blind.bind (tellSubjects_blind describeSubject_blind _ _) fun told => ?_
  refine Blind.bind (tellSubjects_blind remindSubject_blind _ _) fun reminded => ?_
  exact (describeCostumes_blind _ _).bind fun _ => .pure _

theorem arranged_blind (chance : Nat) (story : StoryNode) : Blind (arranged chance story) :=
  .given fun _ => (conjoin_blind _).drawn

/-- A story is edited without a look at the bags. -/
theorem edit_blind (e : Editor) (story : StoryNode) : Blind (e.edit story) := by
  have hannotated : Blind (annotated story).run := annotated_blind story
  have harranged : ∀ story, Blind (Attempt.narrate (arranged e.conjoinChance story)).run :=
    fun story => Blind.narrate (arranged_blind _ story)
  unfold edit
  refine hannotated.bind fun outcome => ?_
  cases outcome with
  | error err => exact .pure _
  | ok story =>
    refine (Blind.narrate (described_blind _ _)).bind fun told => ?_
    exact (harranged told.1).bind fun _ => .pure _

end Editor

end SpaceOpera
