import SpaceOpera.Proofs.Serial.Chapters

/-!
# Synopses

Whatever world a plot is written for, every development has the roles set that its line in a synopsis asks for,
and a line asks for no more than names.  So a written plot can always be told in brief, with one entry for each
development, numbered in order, and a chapter in brief fails only for want of an acceptable plot
(`renderSynopsis_told`).
-/

namespace SpaceOpera

open List (Forall₂)
open PlotNode (ofDevelopment)
open Template (Guise Casting Casts)

/-! ## Roles -/

/-- Every role of the development has someone or something in it. -/
def RolesSet (n : PlotNode) : Prop :=
  ∀ d, n.development? = some d → ∀ e ∈ d.parts, (n.get? e.1).isSome = true

section Roles

variable {w : World} {here : Object} {a : Assignment} {cs : List PlotNode} {n : PlotNode} {d : Development}

theorem RolesSet.of_development (hd : n.development? = some d)
    (h : (d.parts.all fun e => (n.get? e.1).isSome) = true) : RolesSet n := by
  intro d' hd'
  obtain rfl := Option.some.inj (hd.symm.trans hd')
  exact List.all_eq_true.1 h

theorem RolesSet.of_hole (hn : n.development? = none) : RolesSet n :=
  fun d hd => absurd (hn.symm.trans hd) (Option.some_ne_none d).symm

theorem Stages.rolesSet (h : Stages w here a cs) : ∀ c ∈ cs, RolesSet c := by
  cases a with
  | kidnapping =>
    obtain ⟨_, _, rfl⟩ := h
    simp only [Subplot.kidnapping, List.forall_mem_singleton, List.forall_mem_cons]
    exact ⟨.of_development rfl rfl, .of_hole rfl, .of_hole rfl, .of_development rfl rfl⟩
  | findAbductee | findAnotherWay =>
    obtain ⟨_, rfl⟩ := h
    simp only [Subplot.findAbductee, Subplot.findAnotherWay, List.forall_mem_singleton, List.forall_mem_cons]
    exact ⟨.of_development rfl rfl, .of_hole rfl⟩
  | protagonistAttack | awkwardCombat =>
    obtain ⟨_, rfl⟩ := h
    simp only [Subplot.combat, List.forall_mem_singleton, List.forall_mem_cons]
    exact ⟨.of_hole rfl, .of_development rfl rfl⟩
  | lostItem =>
    obtain ⟨_, _, _, -, rfl⟩ := h
    simp only [Subplot.lostItem, List.forall_mem_singleton, List.forall_mem_cons]
    exact ⟨.of_development rfl rfl, .of_hole rfl, .of_development rfl rfl⟩
  | caveIn =>
    obtain ⟨_, rfl⟩ := h
    simp only [Subplot.caveIn, List.forall_mem_singleton, List.forall_mem_cons]
    exact ⟨.of_development rfl rfl, .of_hole rfl, .of_development rfl rfl, .of_hole rfl⟩
  | goonSkirmish =>
    obtain ⟨met, _, _, -, rfl⟩ := h
    simp only [Subplot.goonSkirmish, List.forall_mem_singleton, List.forall_mem_cons]
    refine ⟨?_, .of_hole rfl, .of_development rfl rfl⟩
    cases met <;> exact .of_development rfl rfl
  | awkwardTension | romanticTension =>
    obtain ⟨_, _, -, rfl⟩ := h
    simp only [Subplot.encounter, List.forall_mem_singleton, List.forall_mem_cons]
    exact ⟨.of_development rfl rfl, .of_hole rfl⟩
  | contemplateItem | drone =>
    subst h
    simp only [Subplot.encounter, Subplot.drone, List.forall_mem_singleton, List.forall_mem_cons]
    exact ⟨.of_development rfl rfl, .of_hole rfl⟩
  | romanticResolution =>
    subst h
    simp only [Subplot.romanticResolution, List.forall_mem_singleton]
    exact .of_development rfl rfl

theorem rolesSet_upheld (p : Plotter) (home : Object) : Upheld p home RolesSet where
  journey _ _ _ _ _ _ := .of_development rfl rfl
  arrival _ _ _ _ := .of_development rfl rfl
  scene _ _ hd _ _ := by
    rcases followUp?_eq_some hd with ⟨-, rfl⟩ | ⟨-, rfl⟩ <;> exact .of_development rfl rfl
  seed _ := by
    simp only [seedNodes, List.forall_mem_singleton, List.forall_mem_cons]
    exact ⟨.of_development rfl rfl, .of_hole rfl, .of_development rfl rfl, .of_development rfl rfl⟩
  fill _ hcs := by
    obtain ⟨_, _, _, -, -, -, -, -, hstages⟩ := hcs
    exact hstages.rolesSet

end Roles

/-! ## Lines -/

/-- A line asks whoever or whatever is in a role of the development for their names. -/
def Development.casting (d : Development) : Casting := fun r =>
  if (d.parts.map (·.1)).contains r then some .party else none

-- The templates are unified with lists of characters, one nesting for each character.
set_option maxRecDepth 4000 in
theorem synopsis_reads (d : Development) : Reads (Template.fits d.casting) d.synopsis := by
  cases d <;> exact reads_of_chars (by decide +kernel)

/-- The text is one that the template of the node's development is filled in to. -/
def Prose.IsLine (n : PlotNode) (line : String) : Prop :=
  ∃ d c, n.development? = some d ∧ ((renderTemplate d.synopsis n).run.run c).1 = .ok line

/-- The entry of a development: its number, the preposition and the name of the setting that it takes place
in, and its line. -/
def Prose.IsEntry (number : Nat) (n : PlotNode) (entry : String) : Prop :=
  ∃ setting line, n.setting? = some setting ∧ Prose.IsLine n line ∧
    entry = toString number ++ ". " ++ (setting.place?.map (·.preposition)).getD "" ++ " " ++
      setting.definite ++ ",\n   " ++ line ++ ".\n"

/-- The text is one entry after the other, one for each development of the plot, numbered from one. -/
def Prose.Outlines (plot : PlotNode) (text : String) : Prop :=
  ∃ entries, Forall₂ (fun e entry => Prose.IsEntry e.2 e.1 entry) (plot.developments.zipIdx 1) entries ∧
    text = String.join entries

section Lines

variable {n : PlotNode} {ns : List PlotNode} {d : Development} {E : RenderError → Prop}

theorem RolesSet.casts (h : RolesSet n) (hs : Staged n) (hd : n.development? = some d) :
    Casts d.casting n := by
  intro r g hg
  unfold Development.casting at hg
  split at hg
  · rename_i hr
    cases hg
    obtain ⟨e, he, rfl⟩ := List.mem_map.1 (List.contains_iff_mem.1 hr)
    have hset := h d hd e he
    obtain ⟨v, hv⟩ := Option.isSome_iff_exists.1 hset
    refine ⟨hs.declares hset, v, hv, fun s => ?_⟩
    cases v <;> nofun
  · cases hg

theorem synopsisLine_ends (h : RolesSet n) (hs : Staged n) (hd : n.development? = some d) :
    Ends Varied E (Prose.IsLine n) (Prose.synopsisLine d n) := by
  obtain ⟨t, ht, hfits⟩ := synopsis_reads d
  have hrender : Ends Varied (fun _ => False) (fun _ => True) (renderTemplate d.synopsis n) := by
    unfold renderTemplate
    rw [ht]
    have hfilled := Template.render_ends (I := Varied) (E := fun _ => False) (c := 'a') (h.casts hs hd)
      hfits
    exact Ends.adapt (hfilled.imp (fun _ h => h) fun _ _ => trivial) fun _ h => h
  unfold Prose.synopsisLine
  refine (Ends.drawn (Roll.pickVaried_yields _)).bind fun template htemplate => ?_
  rw [if_neg (List.cons_ne_nil _ _)] at htemplate
  obtain ⟨source, hsource, rfl⟩ := htemplate
  rw [List.mem_singleton.1 hsource]
  refine hrender.reached.imp (fun _ h => h.elim) fun line hline => ?_
  obtain ⟨-, c, hc⟩ := hline
  exact ⟨d, c, hd, hc⟩

theorem isEntry_synopsisEntry (hs : Staged n) {line : String} (hline : Prose.IsLine n line)
    (number : Nat) : Prose.IsEntry number n (Prose.synopsisEntry number n line) := by
  obtain ⟨setting, hsetting⟩ := Option.isSome_iff_exists.1 hs.setting
  refine ⟨setting, line, hsetting, hline, ?_⟩
  unfold Prose.synopsisEntry Prose.whereabouts
  rw [hsetting]
  rfl

theorem synopsisEntries_ends (number : Nat)
    (hns : ∀ n ∈ ns, Staged n ∧ n.development?.isSome = true ∧ RolesSet n) :
    Ends Varied E (Forall₂ (fun e entry => Prose.IsEntry e.2 e.1 entry) (ns.zipIdx number))
      (Prose.synopsisEntries number ns) := by
  induction ns generalizing number with
  | nil => exact Ends.pure .nil
  | cons n ns ih =>
    obtain ⟨⟨hs, hdevelopment, hroles⟩, hns⟩ := List.forall_mem_cons.1 hns
    obtain ⟨d, hd⟩ := Option.isSome_iff_exists.1 hdevelopment
    rw [Prose.synopsisEntries, hd, List.zipIdx_cons]
    refine (synopsisLine_ends hroles hs hd).bind fun line hline => ?_
    refine (ih (number + 1) hns).bind fun rest hrest => Ends.pure ?_
    exact .cons (isEntry_synopsisEntry hs hline number) hrest

/-- A plot whose roles are set can be told in brief. -/
theorem renderSynopsis_ends {plot : PlotNode} (h : Upholds RolesSet plot) :
    Ends Varied E (Prose.Outlines plot) (Prose.renderSynopsis plot) := by
  obtain ⟨ms, rfl, hms⟩ := h
  have hdevelopments : (PlotNode.sequence ms).developments = ms :=
    developments_of_leaves rfl fun m hm => ⟨(hms m hm).1.isLeaf, (hms m hm).2.1⟩
  unfold Prose.renderSynopsis Prose.Outlines
  rw [hdevelopments]
  exact (synopsisEntries_ends 1 hms).bind fun entries hentries => Ends.pure ⟨entries, hentries, rfl⟩

end Lines

/-! ## Chapters in brief -/

/-- The chapter is the one that the serial comes to in brief.  The search comes to its plot, its text tells that
plot with an entry for each development, of which there is at least one, and its title is picked from those not
in use. -/
inductive Chapter.InBrief (s : Serial) (p : Progress) (c : Chapter) : Prop
  | mk {found : Narration} {drawn titled : Context}
      (search : (s.plotter.acceptablePlot s.config.constraints s.config.depth s.config.maxAttempts).run.run
        p.narration = (.ok c.plot, found))
      (telling : (Prose.renderSynopsis c.plot).run.run found.context = (.ok c.text, drawn))
      (titling : (pickTitle p.usedTitles c.plot).run drawn = (c.title, titled))
      (entries : Prose.Outlines c.plot c.text) (developments : c.plot.developments ≠ [])
      (story : c.story = none) (scenes : c.scenes = []) (wordCount : c.wordCount = Prose.wordCount c.text) :
      InBrief s p c

section Chapters

variable {s : Serial} {p : Progress}

theorem writePlot_rolesSet {q : Plotter} {E : PlotError → Prop} (hsettings : q.world.settings ≠ [])
    (hcast : q.world.protagonists ≠ []) (depth : Nat) :
    Ends (fun n : Narration => Varied n.context) E
      (fun plot => Upholds RolesSet plot ∧ plot.developments ≠ []) (q.writePlot depth) := by
  obtain ⟨home, hhome⟩ := exists_home hsettings
  exact (writePlot_upholds hhome hcast (rolesSet_upheld q home) depth).and
    (writePlot_nonempty hsettings hcast depth)

/-- A chapter in brief fails only where the search does. -/
theorem writeChapter_inBrief {E : SerialError → Prop} (hsynopsis : s.config.output = .synopsis)
    (hsearch : Ends (fun n : Narration => Varied n.context) (fun e => E (.plot e))
      (fun plot => Upholds RolesSet plot ∧ plot.developments ≠ [])
      (s.plotter.acceptablePlot s.config.constraints s.config.depth s.config.maxAttempts))
    (hp : Varied p.narration.context) :
    Outcome E (Chapter.InBrief s p) (s.writeChapter.run.run p).1 ∧
      Varied (s.writeChapter.run.run p).2.narration.context := by
  unfold Serial.writeChapter Serial.writePlot
  refine (Ends.telling hsearch fun _ he => he).onward hp fun plot p₁ hplot hupholds hp₁ => ?_
  obtain ⟨hroles, hdevelopments⟩ := hupholds
  obtain ⟨found, hfound, rfl⟩ := run_telling_eq_ok.1 hplot
  rw [hsynopsis]
  dsimp only
  unfold Serial.writeSynopsis
  refine (Ends.attempt (renderSynopsis_ends (E := fun _ => False) hroles) fun _ h => h.elim).onward hp₁
    fun text p₂ htext houtlines hp₂ => ?_
  obtain ⟨drawn, hdrawn, rfl⟩ := run_attempt_eq_ok.1 htext
  refine (takeTitle_ends plot).onward hp₂ fun title p₃ htitle _ hp₃ => ?_
  obtain ⟨titled, htitled, rfl⟩ := run_takeTitle_eq_ok.1 htitle
  exact ⟨.mk hfound hdrawn htitled houtlines hdevelopments rfl rfl rfl, hp₃⟩

/-- With nothing for its plot to meet, a chapter in brief is written. -/
theorem exists_writeChapter_inBrief (hsettings : s.world.settings ≠ [])
    (hcast : s.world.protagonists ≠ []) (hsynopsis : s.config.output = .synopsis)
    (hconstraints : s.config.constraints = {}) (hattempts : s.config.maxAttempts = none)
    (hp : Varied p.narration.context) : ∃ c, (s.writeChapter.run.run p).1 = .ok c := by
  have hsearch := search_succeeds hconstraints hattempts
    (writePlot_rolesSet (q := s.plotter) hsettings hcast s.config.depth)
  obtain ⟨c, hc, -⟩ :=
    (writeChapter_inBrief (E := fun _ => False) hsynopsis hsearch hp).1.ok_of_no_error
  exact ⟨c, hc⟩

/-- On any world with a setting and a protagonist, a written plot can be told in brief with one entry for each
development, numbered in order; and a chapter in brief fails only for want of an acceptable plot, and leaves
behind what the next one can start from. -/
theorem renderSynopsis_told (w : World) (hsettings : w.settings ≠ []) (hcast : w.protagonists ≠ []) :
    (∀ (disabled : List Rule) (depth : Nat) (n : Narration), Varied n.context →
      ∃ plot after, ((⟨w, disabled⟩ : Plotter).writePlot depth).run.run n = (.ok plot, after) ∧
        plot.developments ≠ [] ∧ Varied after.context ∧ ∀ c, Varied c → ∃ text,
          ((Prose.renderSynopsis plot).run.run c).1 = .ok text ∧ Prose.Outlines plot text) ∧
    ∀ (config : Config) (p : Progress), config.output = .synopsis → Varied p.narration.context →
      Outcome SerialError.Plotless (Chapter.InBrief ⟨w, config⟩ p)
        ((Serial.writeChapter ⟨w, config⟩).run.run p).1 ∧
      Varied ((Serial.writeChapter ⟨w, config⟩).run.run p).2.narration.context := by
  refine ⟨fun disabled depth n hn => ?_, fun config p hsynopsis hp => ?_⟩
  · obtain ⟨plot, after, hplot, ⟨hroles, hdevelopments⟩, hafter⟩ :=
      (writePlot_rolesSet (q := ⟨w, disabled⟩) hsettings hcast depth).succeeds hn
    exact ⟨plot, after, hplot, hdevelopments, hafter, fun c hc =>
      (renderSynopsis_ends (E := fun _ => False) hroles c hc).1.ok_of_no_error⟩
  · exact writeChapter_inBrief (s := ⟨w, config⟩) hsynopsis
      (search_ends (writePlot_rolesSet hsettings hcast config.depth)) hp

/-- So it is where half of the world shares a name: from the start a chapter in brief is written, and has an
entry. -/
theorem renderSynopsis_told_namesakes :
    namesakes.settings ≠ [] ∧ namesakes.protagonists ≠ [] ∧
    (∃ plot after text, ((⟨namesakes, []⟩ : Plotter).writePlot 4).run.run ⟨.ofSeed 7, #[]⟩ =
      (.ok plot, after) ∧ ((Prose.renderSynopsis plot).run.run after.context).1 = .ok text ∧
      plot.developments ≠ [] ∧ Prose.Outlines plot text) ∧
    let s : Serial := ⟨namesakes, { output := .synopsis }⟩
    let p : Progress := .start s.config 7
    ∃ c, (s.writeChapter.run.run p).1 = .ok c ∧ c.InBrief s p ∧ c.plot.developments ≠ [] := by
  have hsettings : namesakes.settings ≠ [] := List.cons_ne_nil _ _
  have hcast : namesakes.protagonists ≠ [] := List.cons_ne_nil _ _
  obtain ⟨hplots, hchapters⟩ := renderSynopsis_told namesakes hsettings hcast
  refine ⟨hsettings, hcast, ?_, ?_⟩
  · obtain ⟨plot, after, hplot, hdevelopments, hafter, htold⟩ :=
      hplots [] 4 ⟨.ofSeed 7, #[]⟩ (start_varied { variety := true } 7)
    obtain ⟨text, htext, houtlines⟩ := htold after.context hafter
    exact ⟨plot, after, text, hplot, htext, hdevelopments, houtlines⟩
  · have hp := start_varied { output := .synopsis } 7
    obtain ⟨c, hc⟩ := exists_writeChapter_inBrief (s := ⟨namesakes, { output := .synopsis }⟩)
      (p := .start { output := .synopsis } 7) hsettings hcast rfl rfl rfl hp
    have hchapter := hchapters { output := .synopsis } (.start { output := .synopsis } 7) rfl hp
    -- Rewritten while the two parts are still one, so that nothing evaluates the run.
    rw [hc] at hchapter
    obtain ⟨hbrief, -⟩ := hchapter
    refine ⟨c, hc, hbrief, ?_⟩
    obtain ⟨-, -, -, -, hdevelopments, -, -, -⟩ := hbrief
    exact hdevelopments

end Chapters

end SpaceOpera
