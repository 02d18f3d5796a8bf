import SpaceOpera.Proofs.Plotter.Drafts
import SpaceOpera.Proofs.Plotter.Presence
import SpaceOpera.Proofs.Serial.Chapters
import SpaceOpera.Proofs.Story.Blindness

/-!
# Chapters for want of a plot

The plot of a chapter is the first draft that settles the search, within the attempts that are allowed, and a
chapter that fails because there is none has not introduced anybody or used a title (`acceptablePlot_first`).  Once
there is a plot, nothing fails for want of one (`writeStory_never_plotless`).
-/

namespace SpaceOpera

/-! ## Failures of a chapter that has a plot -/

section Plotless

variable {s : Serial} {plot : PlotNode} {story : StoryNode} {title : String}

/-- The step does not fail for want of a plot. -/
def NeverPlotless {α : Type} (t : Step α) : Prop :=
  Ends (fun _ => True) (fun e => ¬SerialError.Plotless e) (fun _ => True) t

theorem NeverPlotless.run_ne {α : Type} {t : Step α} (h : NeverPlotless t) {p after : Progress}
    {attempts : Nat} : t.run.run p ≠ (.error (.plot (.noAcceptablePlot attempts)), after) := by
  intro hrun
  have hends := (h p trivial).1
  rw [hrun] at hends
  exact hends ⟨attempts, rfl⟩

theorem render_never_plotless {α : Type} (t : Attempt RenderError α) :
    NeverPlotless (t.asStep SerialError.render) :=
  Ends.attempt (I := fun _ => True) (E := fun _ => True) (Ends.anything fun _ => trivial)
    (by rintro e - ⟨_, ⟨⟩⟩)

theorem takeTitle_never_plotless : NeverPlotless (Serial.takeTitle plot) :=
  takeTitle_ends (I := fun _ => True) plot

theorem editStory_never_plotless : NeverPlotless (Serial.editStory story) := by
  refine fun p _ => ⟨?_, trivial⟩
  change Outcome _ _ ((((p.editor.edit story).run p.narration).1.1).mapError SerialError.edit)
  generalize ((p.editor.edit story).run p.narration).1.1 = result
  cases result with
  | ok out => trivial
  | error e => rintro ⟨_, ⟨⟩⟩

theorem writeSynopsis_never_plotless : NeverPlotless (Serial.writeSynopsis plot) := by
  unfold Serial.writeSynopsis
  refine Ends.bind (render_never_plotless _) fun text _ => ?_
  exact takeTitle_never_plotless.bind fun title _ => Ends.pure trivial

theorem writeProse_never_plotless : NeverPlotless (Serial.writeProse title plot story) := by
  unfold Serial.writeProse
  refine Ends.bind (render_never_plotless _) fun scenes _ => ?_
  refine Ends.bind (P := fun _ => True) ?_ fun _ _ => Ends.pure trivial
  exact Ends.telling (I := fun _ => True) (E := fun _ => False)
    (report_ends (I := fun _ => True) _) nofun

theorem writeStory_never_plotless : NeverPlotless (s.writeStory plot) := by
  have hstory : NeverPlotless ((Story.ofPlot plot).asStep SerialError.plot) :=
    Ends.attempt (I := fun _ => True) (ofPlot_misses plot) (by rintro _ ⟨d, r, rfl⟩ ⟨_, ⟨⟩⟩)
  unfold Serial.writeStory
  refine Ends.bind hstory fun story _ => Ends.bind editStory_never_plotless fun story _ => ?_
  refine takeTitle_never_plotless.bind fun title _ => ?_
  split
  · exact Ends.pure trivial
  · exact writeProse_never_plotless

section Search

variable {before after : Progress} {narration : Narration} {result : Except PlotError PlotNode}

/-- The run of a step that writes a plot, by the run of the search. -/
theorem run_writePlot
    (h : (s.plotter.acceptablePlot s.config.constraints s.config.depth s.config.maxAttempts).run.run
      before.narration = (result, narration)) :
    s.writePlot.run.run before = (result.mapError .plot, { before with narration }) := by
  have hrun : s.writePlot.run.run before =
      let r := (s.plotter.acceptablePlot s.config.constraints s.config.depth
        s.config.maxAttempts).run.run before.narration
      (r.1.mapError SerialError.plot, { before with narration := r.2 }) := rfl
  rw [hrun, h]

/-- A chapter for which there is no plot has not introduced anybody and has not used a title. -/
theorem writeChapter_of_plotless {attempts : Nat}
    (h : s.writeChapter.run.run before = (.error (.plot (.noAcceptablePlot attempts)), after)) :
    after.editor = before.editor ∧ after.usedTitles = before.usedTitles := by
  unfold Serial.writeChapter at h
  cases hsearch : (s.plotter.acceptablePlot s.config.constraints s.config.depth
      s.config.maxAttempts).run.run before.narration with
  | mk result narration =>
    have hplot := run_writePlot hsearch
    cases result with
    | error e =>
      -- The search draws and reports, and touches nothing else of the progress.
      rw [run_bind_error hplot, Prod.mk.injEq] at h
      exact h.2 ▸ ⟨rfl, rfl⟩
    | ok plot =>
      rw [run_bind_ok hplot] at h
      split at h
      · exact absurd h writeSynopsis_never_plotless.run_ne
      · exact absurd h writeStory_never_plotless.run_ne

end Search

end Plotless

/-! ## Searches -/

/-- Of at most `cap` drafts, the search comes to the first that is a failure or meets the constraints, and leaves
the context that this draft has left, with the drafts before it rejected.  If there is none, it fails with the
number of its drafts, `cap` of them, and leaves the context that the last one has left.  And whenever a chapter fails
for want of a plot, whoever was introduced before and the titles in use have stayed the same. -/
theorem acceptablePlot_first (p : Plotter) (c : Constraints) (depth cap : Nat) (n : Narration) :
    (∀ k < cap, c.Settles (p.draftAfter depth k n.context).1 →
      (∀ j < k, ¬c.Settles (p.draftAfter depth j n.context).1) →
        (p.acceptablePlot c depth (some cap)).ComesTo n (p.draftAfter depth k n.context) k) ∧
    ((∀ k < cap, ¬c.Settles (p.draftAfter depth k n.context).1) →
      (p.acceptablePlot c depth (some cap)).ComesTo n
        (.error (.noAcceptablePlot cap), p.contextAfter depth cap n.context) cap) ∧
    ∀ (s : Serial) (before after : Progress) (attempts : Nat),
      s.writeChapter.run.run before = (.error (.plot (.noAcceptablePlot attempts)), after) →
        after.editor = before.editor ∧ after.usedTitles = before.usedTitles := by
  refine ⟨fun k hk hsettles hfirst => acceptableFrom_settled hk hsettles hfirst, fun hnone => ?_,
    fun s before after attempts => writeChapter_of_plotless⟩
  have hsearch := acceptableFrom_exhausted 0 hnone
  rwa [Nat.zero_add] at hsearch

/-- At the outpost the third draft is the first without a kidnapping, and two are not enough. -/
theorem acceptablePlot_first_outpost :
    let p : Plotter := ⟨outpost, []⟩
    let c : Constraints := { max := [(.kidnapping, 0)] }
    let n : Narration := ⟨.ofSeed 7, #[]⟩
    let s : Serial := ⟨outpost, { constraints := c, depth := 1, maxAttempts := some 2 }⟩
    (p.acceptablePlot c 1 (some 3)).ComesTo n (p.draftAfter 1 2 n.context) 2 ∧
    (p.acceptablePlot c 1 (some 2)).ComesTo n
      (.error (.noAcceptablePlot 2), p.contextAfter 1 2 n.context) 2 ∧
    ∃ after, s.writeChapter.run.run (.start s.config 7) = (.error (.plot (.noAcceptablePlot 2)), after) ∧
      after.editor = (Progress.start s.config 7).editor ∧ after.usedTitles = [] := by
  intro p c n s
  have hthird : c.Settles (p.draftAfter 1 2 n.context).1 := by decide +kernel
  have hothers : ∀ k < 2, ¬c.Settles (p.draftAfter 1 k n.context).1 := by decide +kernel
  obtain ⟨hfound, -, -⟩ := acceptablePlot_first p c 1 3 n
  obtain ⟨-, hexhausted, -⟩ := acceptablePlot_first p c 1 2 (Progress.start s.config 7).narration
  obtain ⟨-, hnone, hkept⟩ := acceptablePlot_first p c 1 2 n
  refine ⟨hfound 2 (by decide) hthird hothers, hnone hothers, ?_⟩
  obtain ⟨narration, hrun, -⟩ := hexhausted hothers
  have hplot : s.writePlot.run.run (.start s.config 7) = _ := run_writePlot hrun
  exact ⟨_, run_bind_error hplot, hkept s _ _ 2 (run_bind_error hplot)⟩

end SpaceOpera
