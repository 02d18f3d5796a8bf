import SpaceOpera.Proofs.Prose.WordCounts
import SpaceOpera.Proofs.Serial.Chapters

/-!
# The scenes of a chapter

A scene break begins and ends with a line feed, and no inversion reaches over one, so a joined text is
proofread part by part (`proofread_intercalate`).  A chapter therefore reads the same whether its scenes are
proofread before they are joined or the whole story after it is told, draw for draw and fault for fault
(`writeProse_proofread`), and it has the words of its scenes as they were told (`wordCount_scenes`).
-/

namespace SpaceOpera

open List (Forall₂)

namespace Prose

/-! ## Joined texts -/

section Joints

/-- No inversion reaches over a line feed. -/
theorem newline_not_mem_inverted : ∀ i ∈ inversions, '\n' ∉ i.inverted := by
  decide +kernel

/-- Every pronoun has an `h`. -/
theorem mem_inverted : ∀ i ∈ inversions, 'h' ∈ i.inverted := by
  decide +kernel

/-- The break between two scenes parts what is proofread. -/
theorem proofread_append_sceneBreak (first second : String) :
    proofread (first ++ sceneBreak ++ second) =
      proofread first ++ sceneBreak ++ proofread second := by
  have hnewline : straightQuote '\n' = '\n' := by decide
  have hquotes : breakRule.map straightQuote = breakRule := by decide
  have hrule : straightenAll inversions breakRule = breakRule :=
    straightenAll_of_not_mem mem_inverted (by decide)
  have hparts := straightenAll_append_cons newline_not_mem_inverted (by decide)
  refine String.toList_inj.1 ?_
  rw [toList_append_sceneBreak, toList_proofread, toList_proofread, toList_proofread,
    toList_append_sceneBreak, List.map_append, List.map_cons, List.map_append, List.map_cons,
    hnewline, hquotes, hparts, hparts, hrule]

/-- Joined scenes are proofread one by one. -/
theorem proofread_intercalate (texts : List String) :
    proofread (sceneBreak.intercalate texts) = sceneBreak.intercalate (texts.map proofread) := by
  induction texts with
  | nil =>
    refine String.toList_inj.1 ?_
    rw [toList_proofread]
    exact straightenAll_of_not_mem mem_inverted List.not_mem_nil
  | cons first texts ih =>
    cases texts with
    | nil => simp
    | cons second texts =>
      rw [String.intercalate_cons_cons, proofread_append_sceneBreak, ih]
      exact String.intercalate_cons_cons.symm

end Joints

/-! ## Scenes -/

section Scenes

theorem mapM_writeScene (cs : List StoryNode) :
    cs.mapM Serial.writeScene = (do
      let texts ← cs.mapM renderStory
      return texts.map proofread : Attempt RenderError (List String)) := by
  induction cs with
  | nil => rfl
  | cons c cs ih =>
    simp only [List.mapM_cons, ih, Serial.writeScene, bind_assoc, pure_bind, List.map_cons]

/-- Telling a story and then proofreading it is telling its scenes, proofreading each, and joining them. -/
theorem joinScenes_eq (a : Attributes) (cs : List StoryNode) :
    (do
      let scenes ← cs.mapM Serial.writeScene
      return sceneBreak.intercalate scenes : Attempt RenderError String) = (do
      let text ← renderStory ⟨.story, a, cs⟩
      return proofread text) := by
  rw [mapM_writeScene, renderStory, renderAll_eq_mapM]
  · simp only [bind_assoc, pure_bind, layOut, proofread_intercalate]
  · intro e h
    cases h

end Scenes

end Prose

/-! ## Chapters -/

section Chapters

variable {σ ε α β : Type} {wrap : ε → SerialError}

/-- What follows a computation matters only on what the computation comes to. -/
theorem Ends.bind_congr {P : α → Prop} {t : ExceptT ε (StateM σ) α}
    {f g : α → ExceptT ε (StateM σ) β} (h : Ends (fun _ => True) (fun _ => True) P t)
    (hfg : ∀ a, P a → f a = g a) : t >>= f = t >>= g := by
  refine ExceptT.ext (StateT.ext fun s => ?_)
  have hs := (h s trivial).1
  rw [ExceptT.run_bind, ExceptT.run_bind, StateT.run_bind, StateT.run_bind]
  generalize t.run.run s = result at hs ⊢
  obtain ⟨e | a, s'⟩ := result
  · rfl
  · exact congrArg (fun t => t.run.run s') (hfg a hs)

/-- What is made of a result can be made of it before it is a step. -/
theorem Attempt.asStep_bind_pure (t : Attempt ε α) (f : α → β) :
    Attempt.asStep wrap (do
      let a ← t
      return f a) = (do
      let a ← Attempt.asStep wrap t
      return f a) := by
  refine ExceptT.ext (StateT.ext fun p => ?_)
  have hstep : ∀ {γ : Type} (u : Attempt ε γ), (Attempt.asStep wrap u).run.run p =
      ((u.run.run p.narration.context).1.mapError wrap,
        { p with narration := { p.narration with context := (u.run.run p.narration.context).2 } }) :=
    fun _ => rfl
  rw [hstep]
  simp only [ExceptT.run_bind, StateT.run_bind, hstep]
  generalize t.run.run p.narration.context = result
  obtain ⟨e | a, context⟩ := result <;> rfl

/-- A chapter in prose reads as the whole story does that is told first and proofread then: the scenes that
are proofread one by one and then joined make the same text with the same draws, or fail for the same reason.
For joined texts are proofread part by part. -/
theorem writeProse_proofread (a : Attributes) (cs : List StoryNode) :
    (do
      let scenes ← cs.mapM Serial.writeScene
      return Prose.sceneBreak.intercalate scenes : Attempt RenderError String) = (do
      let text ← Prose.renderStory ⟨.story, a, cs⟩
      return Prose.proofread text) ∧
    (∀ title plot, Chapter.text <$> Serial.writeProse title plot ⟨.story, a, cs⟩ = (do
      let text ← Attempt.asStep SerialError.render (do
        let text ← Prose.renderStory ⟨.story, a, cs⟩
        return Prose.proofread text)
      Telling.asStep SerialError.plot
        (report [.chapterWritten title cs.length (Prose.wordCount text)])
      return text)) ∧
    ∀ texts, Prose.proofread (Prose.sceneBreak.intercalate texts) =
      Prose.sceneBreak.intercalate (texts.map Prose.proofread) := by
  have hjoin := Prose.joinScenes_eq a cs
  refine ⟨hjoin, fun title plot => ?_, Prose.proofread_intercalate⟩
  have hlength : Ends (fun _ => True) (fun _ => True) (fun scenes => scenes.length = cs.length)
      (Attempt.asStep SerialError.render (cs.mapM Serial.writeScene)) := by
    have hscenes : Ends (fun _ : Context => True) (fun _ => True) (Forall₂ (fun _ _ => True) cs)
        (cs.mapM Serial.writeScene) :=
      Ends.mapM cs fun _ _ => Ends.anything fun _ => trivial
    exact (Ends.attempt hscenes fun _ _ => trivial).imp (fun _ h => h) fun _ h => h.length_eq.symm
  rw [← hjoin, Attempt.asStep_bind_pure]
  unfold Serial.writeProse
  simp only [map_eq_pure_bind, bind_assoc, pure_bind]
  refine Ends.bind_congr hlength fun scenes hscenes => ?_
  rw [hscenes]

/-- Scenes that are proofread and joined have as many words as they had when they were told, and so has a
chapter.  For proofreading changes no count and no length: it only rearranges a text whose backticks have
become apostrophes. -/
theorem wordCount_scenes :
    (∀ texts : List String,
      Prose.wordCount (Prose.sceneBreak.intercalate (texts.map Prose.proofread)) =
        (texts.map Prose.wordCount).sum) ∧
    (∀ title plot story p, Outcome (fun _ => True)
      (fun c : Chapter => c.wordCount = (c.scenes.map Prose.wordCount).sum)
      ((Serial.writeProse title plot story).run.run p).1) ∧
    ∀ text : String,
      Prose.wordCount (Prose.proofread text) = Prose.wordCount text ∧
        (Prose.proofread text).length = text.length ∧
        (Prose.proofread text).utf8ByteSize = text.utf8ByteSize ∧
        (Prose.proofread text).toList.Perm (text.toList.map Prose.straightQuote) := by
  refine ⟨fun texts => ?_, fun title plot story p => ?_, fun text =>
    ⟨Prose.wordCount_proofread text, Prose.length_proofread text, Prose.utf8ByteSize_proofread text,
      Prose.proofread_perm text⟩⟩
  · rw [Prose.wordCount_intercalate, List.map_map]
    simp only [Function.comp_def, Prose.wordCount_proofread]
  · refine (writeProse_inProse title plot story p trivial).1.imp fun c hc => ?_
    rw [hc.wordCount_eq, hc.text_eq, Prose.wordCount_intercalate]

end Chapters

end SpaceOpera
