import SpaceOpera.Proofs.Editor.Blindness
import SpaceOpera.Proofs.Serial.Chapters
import SpaceOpera.Proofs.Story.Blindness

/-!
# What varied choices show in

Two serials that differ in nothing but whether their choices are varied, and in being told or dumped, agree on
the plot, the story and the title of their first chapter, and two that are dumped agree on everything
(`outcome_unvaried`).  For up to its text a chapter is outlined without a look at the bags of options.
-/

namespace SpaceOpera

/-! ## Steps -/

instance : Bagged Progress := ⟨fun v p => { p with narration := Bagged.rebag v p.narration }⟩

section Steps

variable {α ε : Type} {wrap : ε → SerialError}

theorem Blind.telling {t : Telling ε α} (h : Blind t) : Blind (t.asStep wrap) :=
  Blind.within Progress.narration (fun _ => t.run)
    (fun p result narration => (result.mapError wrap, { p with narration }))
    (fun _ => h) (fun _ => rfl) fun _ _ => ⟨rfl, rfl, fun _ _ => rfl⟩

theorem Blind.attempt {t : Attempt ε α} (h : Blind t) : Blind (t.asStep wrap) :=
  Blind.telling (Blind.narrate h)

theorem editStory_blind (story : StoryNode) : Blind (Serial.editStory story) :=
  Blind.within Progress.narration (fun p => p.editor.edit story)
    (fun p out narration => (out.1.mapError SerialError.edit, { p with narration, editor := out.2 }))
    (fun p => p.editor.edit_blind story) (fun _ => rfl) fun _ _ => ⟨rfl, rfl, fun _ _ => rfl⟩

theorem takeTitle_blind (plot : PlotNode) : Blind (Serial.takeTitle plot) := by
  have hpick : ∀ used, Blind (pickTitle used plot) := fun used =>
    Blind.bind ((Roll.choose_blind _).bind fun _ => .pure _) fun _ => .pure _
  exact Blind.within Progress.narration (fun p => (pickTitle p.usedTitles plot).narrate)
    (fun p title narration => (.ok title, { p with narration, usedTitles := title :: p.usedTitles }))
    (fun p => (hpick p.usedTitles).narrate) (fun _ => rfl) fun _ _ => ⟨rfl, rfl, fun _ _ => rfl⟩

end Steps

/-! ## Outlines -/

/-- A chapter before it gets its text. -/
structure Outline where
  plot : PlotNode
  story : StoryNode
  title : String

namespace Serial

variable {s : Serial}

/-- Writes the next chapter up to its text. -/
def outline (s : Serial) : Step Outline := do
  let plot ← s.writePlot
  let story ← Attempt.asStep .plot (Story.ofPlot plot)
  let story ← editStory story
  let title ← takeTitle plot
  return { plot, story, title }

/-- Gives an outline its text. -/
def tell (s : Serial) (d : Outline) : Step Chapter :=
  match s.config.output with
  | .dump => do
    let text := dumpText d.story
    return { title := d.title, plot := d.plot, story := some d.story, text, scenes := []
             wordCount := Prose.wordCount text }
  | _ => writeProse d.title d.plot d.story

theorem writeChapter_eq_outline (h : s.config.output ≠ .synopsis) :
    s.writeChapter = s.outline >>= s.tell := by
  unfold writeChapter outline tell writeStory
  cases hout : s.config.output with
  | synopsis => exact absurd hout h
  | prose | dump => simp only [bind_assoc, pure_bind]

theorem outline_blind (s : Serial) : Blind s.outline := by
  unfold outline writePlot
  refine (Blind.telling (s.plotter.acceptablePlot_blind _ _ _)).bind fun plot => ?_
  refine (Blind.attempt (ofPlot_blind plot)).bind fun story => (editStory_blind story).bind fun story => ?_
  exact (takeTitle_blind plot).bind fun title => .pure _

/-- A dumped chapter is written without a look at the bags. -/
theorem writeChapter_blind (h : s.config.output = .dump) : Blind s.writeChapter := by
  have hout : s.config.output ≠ .synopsis := by
    rw [h]
    decide
  rw [writeChapter_eq_outline hout]
  refine s.outline_blind.bind fun d => ?_
  unfold tell
  rw [h]
  exact .pure _

theorem writeChapters_blind (h : s.config.output = .dump) (count : Nat) :
    Blind (s.writeChapters count) := by
  induction count with
  | zero => exact .pure []
  | succ count ih => exact (writeChapter_blind h).bind fun chapter => ih.bind fun chapters => .pure _

/-- A chapter is told with the plot, the story and the title of its outline. -/
theorem tell_ends (s : Serial) (d : Outline) :
    Ends (fun _ => True) (fun _ => True)
      (fun c : Chapter => c.plot = d.plot ∧ c.story = some d.story ∧ c.title = d.title) (s.tell d) := by
  unfold tell
  split
  · exact Ends.pure ⟨rfl, rfl, rfl⟩
  · exact (writeProse_inProse d.title d.plot d.story).imp (fun _ h => h) fun _ h =>
      ⟨h.plot_eq, h.story_eq, h.title_eq⟩

end Serial

/-! ## Serials on a seed -/

namespace Serial

variable {α : Type} {s : Serial} {config : Config} {source : Option WorldSource} {seed : UInt64}

/-- What comes of a serial that is opened on a seed and goes on with `act`. -/
def outcome (config : Config) (source : Option WorldSource) (seed : UInt64) (act : Serial → Step α) :
    Except SerialError α :=
  ((opening config source >>= act).run.run (.start config seed)).1

/-- Tries to write the next chapters, and goes on after any that fails. -/
def tryChapters (s : Serial) : Nat → Step (List (Except SerialError Chapter))
  | 0 => return []
  | count + 1 => do
    let outcome ← ExceptT.lift s.writeChapter.run
    let outcomes ← s.tryChapters count
    return outcome :: outcomes

theorem writeChapters_congr {s' : Serial} (h : s'.writeChapter = s.writeChapter) (count : Nat) :
    s'.writeChapters count = s.writeChapters count := by
  induction count with
  | zero => rfl
  | succ count ih => rw [writeChapters, writeChapters, h, ih]

theorem tryChapters_congr {s' : Serial} (h : s'.writeChapter = s.writeChapter) (count : Nat) :
    s'.tryChapters count = s.tryChapters count := by
  induction count with
  | zero => rfl
  | succ count ih => rw [tryChapters, tryChapters, h, ih]

theorem tryChapters_blind (h : s.config.output = .dump) (count : Nat) : Blind (s.tryChapters count) := by
  induction count with
  | zero => exact .pure []
  | succ count ih =>
    refine Blind.bind (.lift (writeChapter_blind h)) fun outcome => ?_
    exact ih.bind fun outcomes => .pure _

/-- A serial that is opened and goes on, by where its world comes from. -/
theorem opening_bind (config : Config) (source : Option WorldSource) (act : Serial → Step α) :
    opening config source >>= act =
      match source with
      | none => throw .missingWorld
      | some source => source.world.asStep id >>= fun world => act ⟨world, config⟩ := by
  unfold opening
  cases source with
  | none => rfl
  | some source => simp only [bind_assoc, pure_bind]

/-- What looks neither at the bags nor at the choices that differ comes to the same. -/
theorem outcome_eq (source : Option WorldSource) (seed : UInt64) {act : Serial → Step α} {variety : Bool}
    {output : OutputMode}
    (hact : ∀ world, act ⟨world, { config with variety, output }⟩ = act ⟨world, config⟩)
    (hblind : ∀ world, Blind (act ⟨world, config⟩)) :
    outcome { config with variety, output } source seed act = outcome config source seed act := by
  have hsame : opening { config with variety, output } source >>= act = opening config source >>= act := by
    rw [opening_bind, opening_bind]
    simp only [hact]
  have hopened : Blind (opening config source >>= act) := by
    rw [opening_bind]
    split
    · exact .throw _
    · rename_i source
      exact (Blind.attempt source.world_blind).bind hblind
  have hrun := congrArg Prod.fst (Blind.run_rebag hopened { enabled := variety } (.start config seed))
  unfold outcome
  rw [hsame]
  exact hrun

/-- The outline that a first chapter is told from. -/
theorem outcome_outline (hout : config.output ≠ .synopsis) {c : Chapter}
    (h : outcome config source seed writeChapter = .ok c) :
    ∃ story, outcome config source seed outline = .ok ⟨c.plot, story, c.title⟩ ∧ c.story = some story := by
  unfold outcome at h ⊢
  rw [opening_bind] at h ⊢
  cases source with
  | none => cases h
  | some source =>
    obtain ⟨world, p, hworld, h⟩ := exists_of_bind_ok h
    rw [writeChapter_eq_outline hout] at h
    obtain ⟨d, p', hd, h⟩ := exists_of_bind_ok h
    have htold := (tell_ends ⟨world, config⟩ d p' trivial).1
    rw [h, outcome_ok] at htold
    obtain ⟨hplot, hstory, htitle⟩ := htold
    rw [hplot, htitle]
    refine ⟨d.story, ?_, hstory⟩
    dsimp only
    rw [run_bind_ok hworld, hd]

end Serial

/-- Whether choices are varied shows in nothing but the text of prose: first chapters that are told agree on
their plot, their story and their title with varied choices and without them, in prose and dumped; and dumped
chapters agree altogether, and fail alike, however many are written or tried. -/
theorem outcome_unvaried (config : Config) (source : Option WorldSource) (seed : UInt64) (variety : Bool) :
    (∀ output, config.output ≠ .synopsis → output ≠ .synopsis → ∀ c c',
      Serial.outcome config source seed Serial.writeChapter = .ok c →
      Serial.outcome { config with variety, output } source seed Serial.writeChapter = .ok c' →
        c'.plot = c.plot ∧ c'.story = c.story ∧ c'.title = c.title) ∧
    (config.output = .dump → ∀ count,
      Serial.outcome { config with variety } source seed (·.writeChapters count) =
          Serial.outcome config source seed (·.writeChapters count) ∧
        Serial.outcome { config with variety } source seed (·.tryChapters count) =
          Serial.outcome config source seed (·.tryChapters count)) := by
  have hsame : ∀ world, Serial.writeChapter ⟨world, { config with variety }⟩ =
      Serial.writeChapter ⟨world, config⟩ := fun _ => rfl
  refine ⟨fun output hout hout' c c' h h' => ?_, fun hdump count => ⟨?_, ?_⟩⟩
  -- The telling of prose does look at the bags, so only the outlines can be compared.
  · obtain ⟨story, houtline, hstory⟩ := Serial.outcome_outline hout h
    obtain ⟨story', houtline', hstory'⟩ := Serial.outcome_outline hout' h'
    have houtlines : Serial.outcome { config with variety, output } source seed Serial.outline =
        Serial.outcome config source seed Serial.outline :=
      Serial.outcome_eq source seed (fun _ => rfl) fun world => Serial.outline_blind ⟨world, config⟩
    rw [houtline, houtline'] at houtlines
    obtain ⟨hplot, hstories, htitle⟩ := Outline.mk.inj (Except.ok.inj houtlines)
    exact ⟨hplot, hstory'.trans (hstories ▸ hstory.symm), htitle⟩
  · exact Serial.outcome_eq source seed (fun world => Serial.writeChapters_congr (hsame world) count)
      fun _ => Serial.writeChapters_blind hdump count
  · exact Serial.outcome_eq source seed (fun world => Serial.tryChapters_congr (hsame world) count)
      fun _ => Serial.tryChapters_blind hdump count

/-- A ship without a crew but for a robot on the bridge. -/
def unmanned : World :=
  { protagonists := [.proper (.thing ["Unit 5"])]
    antagonists := []
    goons := []
    macguffins := []
    settings := [.ofPlace ["bridge"] { roof := .thing ["ceiling"], nearby := [.thing ["console"]] }] }

theorem outcome_unvaried_unmanned :
    (∃ c c', Serial.outcome { depth := 0 } (some (.built unmanned)) 7 Serial.writeChapter = .ok c ∧
      Serial.outcome { depth := 0, variety := false, output := .dump } (some (.built unmanned)) 7
        Serial.writeChapter = .ok c' ∧
      c'.plot = c.plot ∧ c'.story = c.story ∧ c'.title = c.title) ∧
    ∀ count, Serial.outcome { variety := false, output := .dump } (some (.built unmanned)) 7
        (·.tryChapters count) =
      Serial.outcome { output := .dump } (some (.built unmanned)) 7 (·.tryChapters count) := by
  have hprose : ((Serial.outcome { depth := 0 } (some (.built unmanned)) 7
      Serial.writeChapter).toOption.any fun _ => true) = true := by decide +kernel
  have hdump : ((Serial.outcome { depth := 0, variety := false, output := .dump } (some (.built unmanned)) 7
      Serial.writeChapter).toOption.any fun _ => true) = true := by decide +kernel
  obtain ⟨c, hc, -⟩ := any_toOption.1 hprose
  obtain ⟨c', hc', -⟩ := any_toOption.1 hdump
  refine ⟨⟨c, c', hc, hc', ?_⟩, fun count => ?_⟩
  · exact (outcome_unvaried { depth := 0 } (some (.built unmanned)) 7 false).1 .dump (by decide) (by decide)
      c c' hc hc'
  · exact ((outcome_unvaried { output := .dump } (some (.built unmanned)) 7 false).2 rfl count).2

end SpaceOpera
