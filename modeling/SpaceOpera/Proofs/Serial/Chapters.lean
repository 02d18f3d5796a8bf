import Mathlib.Data.List.Nodup
import SpaceOpera.Proofs.Editor.Telling
import SpaceOpera.Serial.File

/-!
# Chapters in prose

However far a serial has come, its next chapter fails only for want of an acceptable plot, on any world that
is built from a description and in which names tell things apart.  A chapter that is written comes from the
runs one after the other of the search, the editor and the telling (`Chapter.Told`): each scene of the story
that the editor made has a text, and the text has a word.
-/

namespace SpaceOpera

open List (Forall₂)

/-! ## Steps -/

section Steps

variable {I : Context → Prop} {ε α : Type} {E : ε → Prop} {F : SerialError → Prop} {P : α → Prop}
  {wrap : ε → SerialError}

theorem Ends.telling {t : Telling ε α} (h : Ends (fun n : Narration => I n.context) E P t)
    (hwrap : ∀ e, E e → F (wrap e)) :
    Ends (fun p : Progress => I p.narration.context) F P (t.asStep wrap) := by
  intro p hp
  obtain ⟨hresult, hcontext⟩ := h p.narration hp
  refine ⟨?_, hcontext⟩
  change Outcome F P (((t.run p.narration).1).mapError wrap)
  change Outcome E P (t.run p.narration).1 at hresult
  generalize (t.run p.narration).1 = result at hresult
  cases result with
  | ok a => exact hresult
  | error e => exact hwrap e hresult

theorem Ends.attempt {t : Attempt ε α} (h : Ends I E P t) (hwrap : ∀ e, E e → F (wrap e)) :
    Ends (fun p : Progress => I p.narration.context) F P (t.asStep wrap) :=
  Ends.telling (Ends.narrate h) hwrap

theorem pickTitle_yields [Lasting I] (used : List String) (plot : PlotNode) :
    Yields I (fun _ => True) (pickTitle used plot) := by
  unfold pickTitle rollBase
  refine Yields.bind (P := fun _ => True) ?_ fun _ _ => Yields.pure trivial
  exact (Roll.choose_yields _).bind fun _ _ => Yields.pure trivial

theorem takeTitle_ends [Lasting I] (plot : PlotNode) :
    Ends (fun p : Progress => I p.narration.context) F (fun _ => True) (Serial.takeTitle plot) :=
  fun p hp => ⟨trivial, (Yields.narrate (pickTitle_yields p.usedTitles plot) p.narration hp).2⟩

theorem editStory_ends {w : World} {story : StoryNode} [Lasting I] (hw : w.Built)
    (hid : w.Identified) (hstory : StoryOf sequences story) (hacted : story.Everywhere (Acted w)) :
    Ends (fun p : Progress => I p.narration.context) F
      (fun out => Readable out ∧ (story.children ≠ [] → out.children ≠ [])) (Serial.editStory story) := by
  intro p hp
  obtain ⟨hresult, hcontext⟩ := edit_readable (I := I) p.editor hw hid hstory hacted p.narration hp
  refine ⟨?_, hcontext⟩
  change Outcome F _ ((((p.editor.edit story).run p.narration).1.1).mapError SerialError.edit)
  generalize ((p.editor.edit story).run p.narration).1.1 = result at hresult
  cases result with
  | ok out => exact hresult
  | error e => exact hresult.elim

section Runs

variable {a : α} {p p' : Progress} {story out : StoryNode} {plot : PlotNode} {title : String}

/-- A telling carries on the narration alone. -/
theorem run_telling_eq_ok {t : Telling ε α} : (t.asStep wrap).run.run p = (.ok a, p') ↔
    ∃ n, t.run.run p.narration = (.ok a, n) ∧ p' = { p with narration := n } := by
  have hrun : (t.asStep wrap).run.run p = ((t.run.run p.narration).1.mapError wrap,
      { p with narration := (t.run.run p.narration).2 }) := rfl
  rw [hrun, Prod.mk.injEq, mapError_eq_ok]
  constructor
  · rintro ⟨ha, rfl⟩
    exact ⟨_, Prod.ext ha rfl, rfl⟩
  · rintro ⟨n, hn, rfl⟩
    rw [hn]
    exact ⟨rfl, rfl⟩

/-- Drawing carries on the context alone. -/
theorem run_attempt_eq_ok {t : Attempt ε α} : (t.asStep wrap).run.run p = (.ok a, p') ↔
    ∃ c, t.run.run p.narration.context = (.ok a, c) ∧
      p' = { p with narration := { p.narration with context := c } } := by
  have hrun : t.narrate.run.run p.narration = ((t.run.run p.narration.context).1,
      { p.narration with context := (t.run.run p.narration.context).2 }) := rfl
  rw [Attempt.asStep, run_telling_eq_ok, hrun]
  constructor
  · rintro ⟨_, hn, rfl⟩
    obtain ⟨ha, rfl⟩ := Prod.mk.inj hn
    exact ⟨_, Prod.ext ha rfl, rfl⟩
  · rintro ⟨c, hc, rfl⟩
    rw [hc]
    exact ⟨_, rfl, rfl⟩

/-- An edit carries on the narration and the editor. -/
theorem run_editStory_eq_ok : (Serial.editStory story).run.run p = (.ok out, p') ↔
    ∃ editor n, (p.editor.edit story).run p.narration = ((.ok out, editor), n) ∧
      p' = { p with narration := n, editor } := by
  have hrun : (Serial.editStory story).run.run p =
      let r := (p.editor.edit story).run p.narration
      (r.1.1.mapError .edit, { p with narration := r.2, editor := r.1.2 }) := rfl
  rw [hrun, Prod.mk.injEq, mapError_eq_ok]
  constructor
  · rintro ⟨hout, rfl⟩
    exact ⟨_, _, Prod.ext (Prod.ext hout rfl) rfl, rfl⟩
  · rintro ⟨editor, n, hn, rfl⟩
    rw [hn]
    exact ⟨rfl, rfl⟩

/-- A title that is taken is picked from those not in use, and in use from then on. -/
theorem run_takeTitle_eq_ok : (Serial.takeTitle plot).run.run p = (.ok title, p') ↔
    ∃ c, (pickTitle p.usedTitles plot).run p.narration.context = (title, c) ∧
      p' = { p with
        narration := { p.narration with context := c }
        usedTitles := title :: p.usedTitles } := by
  have hrun : (Serial.takeTitle plot).run.run p =
      let r := (pickTitle p.usedTitles plot).run p.narration.context
      (.ok r.1, { p with
        narration := { p.narration with context := r.2 }
        usedTitles := r.1 :: p.usedTitles }) := rfl
  rw [hrun, Prod.mk.injEq, Except.ok.injEq]
  constructor
  · rintro ⟨rfl, rfl⟩
    exact ⟨_, rfl, rfl⟩
  · rintro ⟨c, hc, rfl⟩
    rw [hc]
    exact ⟨rfl, rfl⟩

end Runs

end Steps

/-! ## Scenes -/

/-- The scenes of a story, in the order in which they are told. -/
def Node.scenes (n : StoryNode) : List StoryNode :=
  n.preorder.filter fun m => m.kind = .scene

section Scenes

variable {ks : List StoryKind} {n : StoryNode}

theorem Body.ne_scene (hks : ∀ k ∈ ks, k.isGroup = true) (hn : Body ks n) :
    ∀ m ∈ n.preorder, m.kind ≠ .scene := by
  induction hn with
  | beat e a =>
    rw [Node.preorder_mk, Node.preorderList]
    exact List.forall_mem_singleton.2 (by simp)
  | group hk a _ ih =>
    intro m hm
    obtain rfl | ⟨c, hc, hm⟩ := Node.mem_preorder_iff.1 hm
    · exact StoryKind.ne_scene_of_isGroup (hks _ hk)
    · exact ih c hc m hm

theorem StoryOf.scenes_eq (hks : ∀ k ∈ ks, k.isGroup = true) (hn : StoryOf ks n) :
    n.scenes = n.children := by
  obtain ⟨k, a, cs⟩ := n
  obtain rfl : k = .story := hn.kind
  have hscenes : ∀ c ∈ cs, SceneOf ks c := hn.scenes
  unfold Node.scenes
  rw [Node.preorder_mk, List.filter_cons_of_neg (by simp), Node.preorderList_eq_flatMap,
    List.filter_flatMap]
  change cs.flatMap _ = cs
  induction cs with
  | nil => rfl
  | cons c cs ih =>
    obtain ⟨hc, hcs⟩ := List.forall_mem_cons.1 hscenes
    have hone : (c.preorder.filter fun m => m.kind = .scene) = [c] := by
      have hkind := hc.kind
      have hbody := hc.body
      obtain ⟨k, a, ms⟩ := c
      rw [Node.preorder_mk, List.filter_cons_of_pos (by simpa using hkind),
        Node.preorderList_eq_flatMap]
      refine congrArg _ (List.filter_eq_nil_iff.2 fun m hm => ?_)
      obtain ⟨d, hd, hm⟩ := List.mem_flatMap.1 hm
      simpa using (hbody d hd).ne_scene hks m hm
    rw [List.flatMap_cons, hone, ih ⟨rfl, hcs⟩ hcs]
    rfl

end Scenes

/-! ## Chapters -/

/-- The scenes are told one after the other, each from the context that the one before has left: its text is
what telling it comes to, proofread, and has a word. -/
inductive Prose.Tells : Context → List StoryNode → List String → Prop
  | nil (c : Context) : Tells c [] []
  | cons {c c' : Context} {scene : StoryNode} {scenes : List StoryNode} {text : String}
      {texts : List String} (told : (renderStory scene).run.run c = (.ok text, c'))
      (worded : 0 < wordCount (proofread text)) (rest : Tells c' scenes texts) :
      Tells c (scene :: scenes) (proofread text :: texts)

/-- A chapter that tells the story of the plot in prose: its text is its scenes with breaks between them. -/
structure Chapter.InProse (title : String) (plot : PlotNode) (story : StoryNode) (c : Chapter) : Prop where
  title_eq : c.title = title
  plot_eq : c.plot = plot
  story_eq : c.story = some story
  text_eq : c.text = Prose.sceneBreak.intercalate c.scenes
  wordCount_eq : c.wordCount = Prose.wordCount c.text

theorem writeProse_inProse (title : String) (plot : PlotNode) (story : StoryNode) :
    Ends (fun _ => True) (fun _ => True) (Chapter.InProse title plot story)
      (Serial.writeProse title plot story) := by
  unfold Serial.writeProse
  refine Ends.bind (Ends.anything fun _ => trivial) fun scenes _ => ?_
  exact Ends.bind (Ends.anything fun _ => trivial) fun _ _ => Ends.pure ⟨rfl, rfl, rfl, rfl, rfl⟩

/-- The chapter is the one that the serial comes to in prose.  The search comes to its plot; the editor makes
its story of the story of that plot; its title is picked from those not in use; and then the scenes of the
story, of which there is at least one, are told one after the other. -/
inductive Chapter.Told (s : Serial) (p : Progress) (c : Chapter) : Prop
  | mk {plot : PlotNode} {bare story : StoryNode} {title : String} {found edited : Narration}
      {drawn titled : Context} {editor : Editor}
      (search : (s.plotter.acceptablePlot s.config.constraints s.config.depth s.config.maxAttempts).run.run
        p.narration = (.ok plot, found))
      (telling : (Story.ofPlot plot).run.run found.context = (.ok bare, drawn))
      (editing : (p.editor.edit bare).run { found with context := drawn } = ((.ok story, editor), edited))
      (titling : (pickTitle p.usedTitles plot).run edited.context = (title, titled))
      (prose : c.InProse title plot story) (scenes : story.scenes ≠ [])
      (texts : Prose.Tells titled story.scenes c.scenes) : Told s p c

theorem Prose.Tells.length_eq {c : Context} {scenes : List StoryNode} {texts : List String}
    (h : Prose.Tells c scenes texts) : scenes.length = texts.length := by
  induction h with
  | nil => rfl
  | cons _ _ _ ih => exact congrArg Nat.succ ih

theorem Chapter.Told.scenes_ne_nil {s : Serial} {p : Progress} {c : Chapter} (h : c.Told s p) :
    c.scenes ≠ [] := by
  obtain ⟨-, -, -, -, -, hscenes, htexts⟩ := h
  intro hnone
  have hlength := htexts.length_eq
  rw [hnone, List.length_nil, List.length_eq_zero_iff] at hlength
  exact hscenes hlength

/-- There was no acceptable plot. -/
def SerialError.Plotless (e : SerialError) : Prop :=
  ∃ attempts, e = .plot (.noAcceptablePlot attempts)

section Chapters

variable {s : Serial} {p : Progress}

/-- Scenes that have been told have been told one after the other. -/
theorem Prose.Tells.of_run {cs : List StoryNode} {texts : List String} {c c' : Context}
    (hworded : ∀ text ∈ texts, 0 < Prose.wordCount text)
    (h : (cs.mapM Serial.writeScene).run.run c = (.ok texts, c')) : Prose.Tells c cs texts := by
  induction cs generalizing c texts with
  | nil =>
    obtain ⟨rfl, -⟩ := run_pure_eq_ok.1 h
    exact .nil c
  | cons d cs ih =>
    rw [List.mapM_cons] at h
    obtain ⟨text, drawn, htext, h⟩ := run_bind_eq_ok.1 h
    obtain ⟨texts, after, htexts, h⟩ := run_bind_eq_ok.1 h
    obtain ⟨rfl, rfl⟩ := run_pure_eq_ok.1 h
    obtain ⟨hfirst, hrest⟩ := List.forall_mem_cons.1 hworded
    obtain ⟨told, _, htold, h⟩ := run_bind_eq_ok.1 htext
    obtain ⟨rfl, rfl⟩ := run_pure_eq_ok.1 h
    exact .cons htold hfirst (ih hrest htexts)

/-- A readable story is told in prose, scene by scene. -/
theorem writeProse_ends {E : SerialError → Prop} (title : String) (plot : PlotNode)
    {story : StoryNode} (hstory : Readable story) (hp : Varied p.narration.context) :
    let r := (Serial.writeProse title plot story).run.run p
    Outcome E (fun c => c.InProse title plot story ∧
      Prose.Tells p.narration.context story.scenes c.scenes) r.1 ∧ Varied r.2.narration.context := by
  have hwords := Ends.mapM (I := Varied) (E := fun _ : RenderError => False)
    (S := fun _ text => 0 < Prose.wordCount text) story.children fun c hc =>
      writeScene_ends isGroup_of_mem_arrangement (hstory.scenes c hc) (hstory.tellable c hc)
        (hstory.look c hc)
  unfold Serial.writeProse
  refine (Ends.attempt hwords fun _ h => h.elim).onward hp fun scenes p' hrun hscenes hp' => ?_
  obtain ⟨_, hdrawn, -⟩ := run_attempt_eq_ok.1 hrun
  have hworded : ∀ text ∈ scenes, 0 < Prose.wordCount text := by
    intro text htext
    obtain ⟨_, -, hword⟩ := exists_of_mem_right hscenes htext
    exact hword
  have htells := Prose.Tells.of_run hworded hdrawn
  rw [← hstory.toStoryOf.scenes_eq isGroup_of_mem_arrangement] at htells
  exact ((Ends.telling (E := fun _ => False) (report_ends (I := Varied) _) fun _ h => h.elim).bind
    fun _ _ => Ends.pure ⟨⟨rfl, rfl, rfl, rfl, rfl⟩, htells⟩) p' hp'

/-- Where a plot is written, all that can go wrong with the search is that none is acceptable. -/
theorem search_ends {Q : PlotNode → Prop}
    (h : ∀ {E}, Ends (fun n : Narration => Varied n.context) E Q (s.plotter.writePlot s.config.depth)) :
    Ends (fun n : Narration => Varied n.context) (fun e => SerialError.Plotless (.plot e)) Q
      (s.plotter.acceptablePlot s.config.constraints s.config.depth s.config.maxAttempts) := by
  refine (acceptablePlot_ends_of h s.config.constraints s.config.maxAttempts).imp ?_ fun _ h => h
  rintro _ ⟨attempts, rfl⟩
  exact ⟨attempts, rfl⟩

/-- And with nothing to meet, nothing can. -/
theorem search_succeeds {Q : PlotNode → Prop} (hconstraints : s.config.constraints = {})
    (hattempts : s.config.maxAttempts = none)
    (h : ∀ {E}, Ends (fun n : Narration => Varied n.context) E Q (s.plotter.writePlot s.config.depth)) :
    Ends (fun n : Narration => Varied n.context) (fun _ => False) Q
      (s.plotter.acceptablePlot s.config.constraints s.config.depth s.config.maxAttempts) := by
  rw [hconstraints, hattempts]
  exact acceptablePlot_unconstrained h

/-- A plot of filled developments is written, and there is at least one of them. -/
theorem writePlot_begun {E : PlotError → Prop} (hw : s.world.Built) :
    Ends (fun n : Narration => Varied n.context) E
      (fun plot => Played s.world plot ∧ plot.developments ≠ []) (s.plotter.writePlot s.config.depth) :=
  (writePlot_played (p := s.plotter) hw s.config.depth).and
    (writePlot_nonempty (p := s.plotter) hw.settings hw.protagonists s.config.depth)

/-- A chapter in prose fails only where the search does, and otherwise it is told. -/
theorem writeChapter_ends {E : SerialError → Prop} (hw : s.world.Built) (hid : s.world.Identified)
    (hprose : s.config.output = .prose)
    (hsearch : Ends (fun n : Narration => Varied n.context) (fun e => E (.plot e))
      (fun plot => Played s.world plot ∧ plot.developments ≠ [])
      (s.plotter.acceptablePlot s.config.constraints s.config.depth s.config.maxAttempts))
    (hp : Varied p.narration.context) :
    Outcome E (Chapter.Told s p) (s.writeChapter.run.run p).1 ∧
      Varied (s.writeChapter.run.run p).2.narration.context := by
  unfold Serial.writeChapter Serial.writePlot
  refine (Ends.telling hsearch fun _ he => he).onward hp fun plot p₁ hplot hplayed hp₁ => ?_
  obtain ⟨hplayed, hdevelopments⟩ := hplayed
  obtain ⟨found, hfound, rfl⟩ := run_telling_eq_ok.1 hplot
  rw [hprose]
  dsimp only
  unfold Serial.writeStory
  refine (Ends.attempt (ofPlot_ends (I := Varied) (E := fun _ => False) hw hplayed)
    fun _ h => h.elim).onward hp₁ fun bare p₂ hbare hstory hp₂ => ?_
  obtain ⟨drawn, hdrawn, rfl⟩ := run_attempt_eq_ok.1 hbare
  have hscenes : bare.children ≠ [] :=
    (ofPlot_nonempty hdevelopments).of_run trivial hdrawn
  refine (editStory_ends hw hid hstory.1 hstory.2).onward hp₂ fun story p₃ hstep hreadable hp₃ => ?_
  obtain ⟨hreadable, hkept⟩ := hreadable
  obtain ⟨editor, edited, hedited, rfl⟩ := run_editStory_eq_ok.1 hstep
  refine (takeTitle_ends plot).onward hp₃ fun title p₄ htitle _ hp₄ => ?_
  obtain ⟨titled, htitled, rfl⟩ := run_takeTitle_eq_ok.1 htitle
  rw [hprose]
  obtain ⟨hresult, hvaried⟩ := writeProse_ends (E := E) title plot hreadable hp₄
  refine ⟨hresult.imp fun c hc => ?_, hvaried⟩
  rw [← hreadable.toStoryOf.scenes_eq isGroup_of_mem_arrangement] at hkept
  exact .mk hfound hdrawn hedited htitled hc.1 (hkept hscenes) hc.2

/-- With nothing for its plot to meet, a chapter in prose is written. -/
theorem exists_writeChapter_prose (hw : s.world.Built) (hid : s.world.Identified)
    (hprose : s.config.output = .prose) (hconstraints : s.config.constraints = {})
    (hattempts : s.config.maxAttempts = none) (hp : Varied p.narration.context) :
    ∃ c, (s.writeChapter.run.run p).1 = .ok c := by
  have hsearch := search_succeeds hconstraints hattempts (writePlot_begun hw)
  obtain ⟨c, hc, -⟩ :=
    (writeChapter_ends (E := fun _ => False) hw hid hprose hsearch hp).1.ok_of_no_error
  exact ⟨c, hc⟩

end Chapters

/-! ## Serials in progress -/

/-- How far a serial can have come: it was opened on some seed, and some chapters of it were tried. -/
inductive Serial.Reaches (s : Serial) : Progress → Prop where
  | opened {p : Progress} (source : WorldSource) (seed : UInt64)
      (h : (Serial.opening s.config (some source)).run.run (.start s.config seed) = (.ok s, p)) :
      s.Reaches p
  | wrote {p : Progress} (h : s.Reaches p) : s.Reaches (s.writeChapter.run.run p).2

section Reaches

variable {s : Serial} {p : Progress}

theorem start_varied (config : Config) (seed : UInt64) :
    Varied (Progress.start config seed).narration.context :=
  fun _ _ hi => absurd hi List.not_mem_nil

theorem WorldSource.world_ends {I : Context → Prop} [Lasting I] (source : WorldSource) :
    Ends I (fun _ => True) (fun _ => True) source.world := by
  unfold WorldSource.world
  split
  · exact Ends.pure trivial
  · rename_i text
    unfold World.read
    split
    · exact Ends.throw trivial
    · rename_i spec _
      exact Ends.adapt ((build_ends spec).imp (fun _ h => h) fun _ _ => trivial) fun _ _ => trivial
  · exact Ends.throw trivial

theorem opening_ends (config : Config) (source : WorldSource) :
    Ends (fun p : Progress => Varied p.narration.context) (fun _ => True) (fun _ => True)
      (Serial.opening config (some source)) := by
  unfold Serial.opening
  refine (Ends.attempt (WorldSource.world_ends source) fun _ _ => trivial).bind fun _ _ => ?_
  exact Ends.pure trivial

theorem Serial.Reaches.varied (h : s.Reaches p) (hw : s.world.Built) (hid : s.world.Identified)
    (hprose : s.config.output = .prose) : Varied p.narration.context := by
  induction h with
  | opened source seed h =>
    have hopened := (opening_ends s.config source _ (start_varied s.config seed)).2
    rwa [h] at hopened
  | wrote _ ih => exact (writeChapter_ends hw hid hprose (search_ends (writePlot_begun hw)) ih).2

/-- However far a serial in prose has come, its next chapter fails for nothing but want of an acceptable
plot, and otherwise it tells the edited story of its plot, with a text that has a word for each scene. -/
theorem writeChapter_told {spec : WorldSpec} {draws : Context}
    (hbuilt : (spec.build.run.run draws).1 = .ok s.world) (hid : s.world.Identified)
    (hprose : s.config.output = .prose) (hp : s.Reaches p) :
    Outcome SerialError.Plotless (Chapter.Told s p) (s.writeChapter.run.run p).1 := by
  have hw : s.world.Built := by
    have hends := (build_ends (I := fun _ => True) spec draws trivial).1
    rwa [hbuilt] at hends
  exact (writeChapter_ends hw hid hprose (search_ends (writePlot_begun hw)) (hp.varied hw hid hprose)).1

/-- A wreck with a hold, a captain, her engineer and a pirate who wants the map. -/
def wreck : WorldSpec :=
  { settings :=
      [{ key := "bridge", names := ["bridge"], roof := { names := ["ceiling"] }
         nearby := [{ names := ["console"] }, { names := ["lantern"], takeable := true }] },
        { key := "hold", names := ["hold"], roof := { names := ["hatch"] }
          nearby := [{ names := ["crates"], plural := true }], outside := some "bridge" }]
    protagonists :=
      [{ names := ["Vela", "the captain"], gender := .feminine, archetype := .lead
         home := "bridge", weapon := some { names := ["blaster"] }, traits := some .redhead },
        { names := ["Orrin"], gender := .masculine, archetype := .plain, home := "hold"
          traits := some .redhead }]
    antagonists :=
      [{ names := ["Krall"], gender := .masculine, archetype := .villain, home := "hold"
         traits := some .redhead }]
    goons := [{ names := ["robots"], plural := true }]
    macguffins := [{ names := ["map"] }] }

/-- With no constraints on its plots, its second chapter is told, and has a scene. -/
theorem writeChapter_told_wreck :
    ∃ w, (wreck.build.run.run (.ofSeed 7)).1 = .ok w ∧ w.Identified ∧
      let s : Serial := ⟨w, {}⟩
      let p := (s.writeChapter.run.run (.start s.config 7)).2
      s.Reaches p ∧ ∃ c, (s.writeChapter.run.run p).1 = .ok c ∧ c.Told s p ∧ c.scenes ≠ [] := by
  have hbuild : ((wreck.build.run.run (.ofSeed 7)).1.toOption.any fun w =>
      decide (w.mentions.map Object.names).Nodup) = true := by
    decide +kernel
  obtain ⟨w, hw, hnodup⟩ := any_toOption.1 hbuild
  have hid : w.Identified := fun a ha b hb hab =>
    List.inj_on_of_nodup_map (of_decide_eq_true hnodup) ha hb hab
  have hmade : w.Built := by
    have hends := (build_ends (I := fun _ => True) wreck (.ofSeed 7) trivial).1
    rwa [hw] at hends
  have hreached := Serial.Reaches.wrote (s := ⟨w, {}⟩) (.opened (.built w) 7 rfl)
  have htold := writeChapter_told (s := ⟨w, {}⟩) hw hid rfl hreached
  obtain ⟨c, hc⟩ := exists_writeChapter_prose (s := ⟨w, {}⟩) hmade hid rfl rfl rfl
    (hreached.varied hmade hid rfl)
  rw [hc] at htold
  exact ⟨w, hw, hid, hreached, c, hc, htold, Chapter.Told.scenes_ne_nil htold⟩

end Reaches

end SpaceOpera
