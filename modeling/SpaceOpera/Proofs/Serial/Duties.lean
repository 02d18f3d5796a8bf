import SpaceOpera.Proofs.Editor.Duties
import SpaceOpera.Proofs.Plotter.Threading
import SpaceOpera.Proofs.Serial.Chapters

/-!
# Duties from the plot to the editor

Between two developments the open duties are those of the open threads: whoever a thread has left behind has
the duty to bring its victim back, and nobody has any other (`Owed`).  A step of a run takes the record from
there to where the threads are then (`Turn.owed`), so in a written plot each duty that is done is open by
then, nothing is reported, and in the end no duty is open (`writePlot_duties`).
-/

namespace SpaceOpera

section Duties

variable {w : World}

/-! ## The duties of threads -/

namespace Strand

/-- The duty that the thread leaves others with. -/
def duty (s : Strand w) : Object :=
  s.thread.duty s.victim

/-- Those who have the duty. -/
def charged (s : Strand w) : List Object :=
  s.thread.charged s.opener

end Strand

theorem Thread.isDuty_duty (t : Thread) (o : Object) : (t.duty o).isDuty = true := by
  cases t <;> rfl

theorem rescueDuty_inj (hnames : (w.protagonists.map Object.name).Nodup) {o p : Object}
    (ho : o ∈ w.protagonists) (hp : p ∈ w.protagonists)
    (h : (o.rescueDuty == p.rescueDuty) = true) : o = p := by
  have hsame : ["rescue " ++ o.name] = ["rescue " ++ p.name] := Object.beq_iff.1 h
  have hname : o.name = p.name := by simpa using hsame
  exact List.inj_on_of_nodup_map hnames ho hp hname

theorem retrieveDuty_inj (hitems : (w.macguffins.map Object.definite).Nodup) {o p : Object}
    (ho : o ∈ w.macguffins) (hp : p ∈ w.macguffins)
    (h : (o.retrieveDuty == p.retrieveDuty) = true) : o = p := by
  have hsame : ["retrieve " ++ o.definite] = ["retrieve " ++ p.definite] := Object.beq_iff.1 h
  have hname : o.definite = p.definite := by simpa using hsame
  exact List.inj_on_of_nodup_map hitems ho hp hname

/-- Nobody is to be retrieved and nothing to be rescued. -/
theorem rescueDuty_ne_retrieveDuty (o p : Object) : (o.rescueDuty == p.retrieveDuty) = false := by
  rw [Bool.eq_false_iff]
  intro h
  have hsame : ["rescue " ++ o.name] = ["retrieve " ++ p.definite] := Object.beq_iff.1 h
  have hchars := congrArg String.toList (List.head_eq_of_cons_eq hsame)
  rw [String.toList_append, String.toList_append] at hchars
  simp at hchars

/-- Threads with different victims leave different duties. -/
theorem duty_apart (hnames : (w.protagonists.map Object.name).Nodup)
    (hitems : (w.macguffins.map Object.definite).Nodup) {r s : Strand w}
    (h : (r.victim == s.victim) = false) : (r.duty == s.duty) = false := by
  rw [Bool.eq_false_iff]
  intro hsame
  have hr := r.pairs.mem
  have hs := s.pairs.mem
  suffices heq : r.victim = s.victim by
    rw [heq, BEq.rfl] at h
    cases h
  unfold Strand.duty at hsame
  cases hrt : r.thread <;> cases hst : s.thread <;> rw [hrt] at hr hsame <;> rw [hst] at hs hsame
  case loss.loss => exact retrieveDuty_inj hitems hr hs hsame
  case abduction.loss | burial.loss =>
    cases hsame.symm.trans (rescueDuty_ne_retrieveDuty r.victim s.victim)
  case loss.abduction | loss.burial =>
    cases (BEq.symm hsame).symm.trans (rescueDuty_ne_retrieveDuty s.victim r.victim)
  all_goals exact rescueDuty_inj hnames hr hs hsame

/-! ## Open threads and open duties -/

/-- The open duties are those of the open threads. -/
structure Owed (ss : List (Strand w)) (r : DutyRecord) : Prop where
  reports : r.reports = []
  owes : ∀ b d, r.owes b d = ss.any fun s => s.charged.any (b == ·) && d == s.duty

variable {a b c : Ongoing w} {ss rest : List (Strand w)} {s : Strand w} {r : DutyRecord} {n : PlotNode}
  {ns : List PlotNode}

theorem Owed.nil : Owed ([] : List (Strand w)) {} :=
  ⟨rfl, fun _ _ => rfl⟩

theorem Owed.opens (h : Owed ss r) (s : Strand w) :
    Settled r s.opener.errands ∧ Owed (s :: ss) (s.opener.errands.foldl DutyRecord.after r) := by
  rw [errands_opening s.pairs.opening s.pairs.lost]
  obtain ⟨hsettled, hreports, howes⟩ := settled_charge (s.thread.isDuty_duty s.victim) s.charged r
  refine ⟨hsettled, hreports.trans h.reports, fun b d => ?_⟩
  rw [List.any_cons, ← h.owes]
  exact howes b d

theorem Owed.closes (hnames : (w.protagonists.map Object.name).Nodup)
    (hitems : (w.macguffins.map Object.definite).Nodup) (h : Owed ss r) (hp : ss.Perm (s :: rest))
    (hs : Feasible (s :: rest)) :
    Settled r s.closer.errands ∧ Owed rest (s.closer.errands.foldl DutyRecord.after r) := by
  have hopen : ∀ b d, r.owes b d =
      (s.charged.any (b == ·) && d == s.duty ||
        rest.any fun r => r.charged.any (b == ·) && d == r.duty) := by
    intro b d
    rw [h.owes, hp.any_eq, List.any_cons]
  have hcrew : s.charged.Perm (s.thread.cleared s.closer) := s.pairs.crew
  have hapart := (hcrew.pairwise_iff fun hab => BEq.comm.trans hab).1 s.pairs.apart
  have hcharged : ∀ b ∈ s.thread.cleared s.closer, r.owes b s.duty = true := by
    intro b hb
    have hb : s.charged.any (b == ·) = true :=
      List.any_eq_true.2 ⟨b, hcrew.mem_iff.2 hb, BEq.rfl⟩
    rw [hopen, hb, BEq.rfl]
    rfl
  rw [errands_closing s.pairs.closing s.pairs.found]
  obtain ⟨hsettled, hreports, howes⟩ :=
    settled_discharge (s.thread.isDuty_duty s.victim) hapart hcharged
  refine ⟨hsettled, hreports.trans h.reports, fun b d => (howes b d).trans ?_⟩
  rw [hopen, ← hcrew.any_eq]
  change ((s.charged.any (b == ·) && d == s.duty || _) && !(s.charged.any (b == ·) && d == s.duty)) = _
  cases hd : d == s.duty with
  | false => simp
  | true =>
    -- No other thread leaves this duty, so nobody has it any more.
    have hothers : (rest.any fun r => r.charged.any (b == ·) && d == r.duty) = false := by
      rw [List.any_eq_false]
      intro q hq
      rw [BEq.congr_left hd, duty_apart hnames hitems (hs.head q hq)]
      simp
    rw [hothers]
    simp

theorem Turn.owed (hnames : (w.protagonists.map Object.name).Nodup)
    (hitems : (w.macguffins.map Object.definite).Nodup) (h : Turn a n b)
    (ha : Feasible a.strands) (hr : Owed a.strands r) :
    Settled r n.errands ∧ Owed b.strands (n.errands.foldl DutyRecord.after r) := by
  have hidle : n.errands = [] →
      Settled r n.errands ∧ Owed a.strands (n.errands.foldl DutyRecord.after r) := by
    intro hnone
    rw [hnone]
    exact ⟨trivial, hr⟩
  cases h with
  | opens s h => exact hr.opens s
  | closes s h => exact hr.closes hnames hitems h (ha.perm h)
  | meets h =>
    obtain ⟨d, hd, hmove⟩ := h.development
    exact hidle (errands_of_quiet hd (by simp [hmove]))
  | fights h =>
    rcases h.part with ⟨d, hd, hmove, -⟩ | ⟨hkind, -⟩
    · exact hidle (errands_of_quiet hd (by simp [hmove]))
    · exact hidle (errands_of_none (by rw [Node.development?, hkind]))
  | parts h => exact hidle (errands_of_quiet h.development (by simp [Development.move]))
  | passes h =>
    cases hd : n.development? with
    | none => exact hidle (errands_of_none hd)
    | some d => exact hidle (errands_of_quiet hd (by simp [h.development d hd]))

theorem Run.owed (hnames : (w.protagonists.map Object.name).Nodup)
    (hitems : (w.macguffins.map Object.definite).Nodup) (h : Run a ns c)
    (ha : Feasible a.strands) (hr : Owed a.strands r) :
    Settled r (ns.flatMap Node.errands) ∧
      Owed c.strands ((ns.flatMap Node.errands).foldl DutyRecord.after r) := by
  induction h generalizing r with
  | nil => exact ⟨trivial, hr⟩
  | cons hn _ ih =>
    obtain ⟨hfirst, hnext⟩ := hn.owed hnames hitems ha hr
    obtain ⟨hrest, hlast⟩ := ih (hn.feasible ha) hnext
    rw [List.flatMap_cons, List.foldl_append]
    exact ⟨settled_append.2 ⟨hfirst, hrest⟩, hlast⟩

end Duties

/-! ## Written plots -/

section Written

variable {w : World}

/-- Whoever plays a part and whatever may be lost have names of their own. -/
theorem World.Built.apart (hw : w.Built) (hthings : ∀ o ∈ w.macguffins, o.isCharacter = false)
    (hid : w.Identified) (hnames : (w.protagonists.map Object.name).Nodup)
    (hitems : (w.macguffins.map Object.definite).Nodup) :
    (w.protagonists ++ w.macguffins).Pairwise fun a b => (a == b) = false := by
  have hcast := List.pairwise_map.1 hnames
  have hlost := List.pairwise_map.1 hitems
  refine List.pairwise_append.2 ⟨hcast.imp_of_mem ?_, hlost.imp_of_mem ?_, ?_⟩
  · intro a b ha hb hname
    rw [Bool.eq_false_iff]
    intro hab
    rw [hid.eq_of_beq (mentions_protagonist ha) (mentions_protagonist hb) hab] at hname
    exact hname rfl
  · intro a b ha hb hname
    rw [Bool.eq_false_iff]
    intro hab
    rw [hid.eq_of_beq (mentions_macguffin ha) (mentions_macguffin hb) hab] at hname
    exact hname rfl
  · intro a ha b hb
    rw [Bool.eq_false_iff]
    intro hab
    have hcharacter := (hw.dweller a (List.mem_append_left _ ha)).character
    rw [hid.eq_of_beq (mentions_protagonist ha) (mentions_macguffin hb) hab, hthings b hb] at hcharacter
    cases hcharacter

/-- A written plot is a run of threads, and it is told with its errands. -/
theorem writePlot_errands {p : Plotter} (hw : p.world.Built)
    (happart : (p.world.protagonists ++ p.world.macguffins).Pairwise fun a b => (a == b) = false)
    (depth : Nat) (n : Narration) (c : Context) :
    ∃ ks story, ((p.writePlot depth).run.run n).1 = .ok (PlotNode.sequence ks) ∧
      ((Story.ofPlot (PlotNode.sequence ks)).run.run c).1 = .ok story ∧
      Run (w := p.world) {} ks {} ∧ StoryOf sequences story ∧ story.Everywhere (Acted p.world) ∧
      story.dutyEvents = ks.flatMap Node.errands := by
  have hnever : ∀ e, p.seedPlot = .error e → False := seedPlot_ne_error hw.settings hw.protagonists
  obtain ⟨plot, hplot, ks, rfl, hdevelopments, hrun⟩ :=
    (writePlot_run (I := fun _ => True) happart hnever depth n trivial).1.ok_of_no_error
  have hplayed := (writePlot_played (I := fun _ => True) (E := fun _ => True) hw depth n trivial).1
  rw [hplot, outcome_ok] at hplayed
  obtain ⟨story, hstory, hshape, hacted⟩ :=
    (ofPlot_ends (I := fun _ => True) hw hplayed c trivial).1.ok_of_no_error
  have htells := (ofPlot_tells (PlotNode.sequence ks) c trivial).1
  rw [hstory, outcome_ok] at htells
  obtain ⟨ls, hsame, hstaged⟩ := hplayed
  obtain rfl : ks = ls := congrArg Node.children hsame
  rw [developments_of_staged (fun k hk => (hstaged k hk).1) hdevelopments] at htells
  exact ⟨ks, story, hplot, hstory, hrun, hshape, hacted, htells⟩

/-- Merging the scenes and turning objects into states changes nothing about the duties. -/
theorem settled_told {story : StoryNode} (hid : w.Identified) (hshape : StoryOf sequences story)
    (hacted : story.Everywhere (Acted w)) (r : DutyRecord) :
    let told := assignEmptyStates (mergeAdjacentScenes story)
    (Settled r told.events ↔ Settled r story.dutyEvents) ∧
      told.events.foldl DutyRecord.after r = story.dutyEvents.foldl DutyRecord.after r := by
  obtain ⟨hmerged, -, hevents⟩ := mergeAdjacentScenes_story hshape
  have hacted := mergeAdjacentScenes_everywhere hacted
  have halike := assignEmptyStates_alike (N := (· ∈ w.mentions))
    (fun a b ha hb => hid.eq_of_beq ha hb) hmerged (fun m hm => (hacted m hm).bare)
    fun m hm => (hacted m hm).covered.objects
  rw [hevents] at halike
  obtain ⟨hsettled, hrecord⟩ := settled_alike halike r
  obtain ⟨hfiltered, hrest⟩ := settled_dutyEvents story.events r
  exact ⟨hsettled.trans hfiltered.symm, hrecord.trans hrest.symm⟩

/-- In the story of a written plot, with its scenes merged and its objects turned into states, the record of
duties goes from event to event, and each duty that is done is open by then; nothing is reported about duties,
and in the end nobody has one open. -/
theorem writePlot_duties {spec : WorldSpec} {draws : Context}
    (hbuilt : (spec.build.run.run draws).1 = .ok w) (hid : w.Identified)
    (hnames : (w.protagonists.map Object.name).Nodup)
    (hitems : (w.macguffins.map Object.definite).Nodup)
    (disabled : List Rule) (depth : Nat) (n : Narration) (c : Context) :
    ∃ plot story, (((⟨w, disabled⟩ : Plotter).writePlot depth).run.run n).1 = .ok plot ∧
      ((Story.ofPlot plot).run.run c).1 = .ok story ∧
      let told := assignEmptyStates (mergeAdjacentScenes story)
      let record := (assignDuties {} told).2
      record = told.events.foldl DutyRecord.after {} ∧
      (∀ pre m post, told.events = pre ++ m :: post → m.event? = some .relieveDuty →
        (pre.foldl DutyRecord.after {}).Expects m) ∧
      record.reports = [] ∧ ∀ who, (record.openOf who).isEmpty = true := by
  have hmade := (build_made (I := fun _ => True) spec draws trivial).1
  rw [hbuilt, outcome_ok] at hmade
  obtain ⟨hw, hthings⟩ := hmade
  obtain ⟨ks, story, hplot, hstory, hrun, hshape, hacted, herrands⟩ :=
    writePlot_errands (p := ⟨w, disabled⟩) hw (hw.apart hthings hid hnames hitems) depth n c
  obtain ⟨hsettled, howed⟩ := hrun.owed hnames hitems (.nil hw.protagonists) .nil
  obtain ⟨hiff, hrecord⟩ := settled_told hid hshape hacted {}
  rw [herrands] at hiff hrecord
  refine ⟨_, story, hplot, hstory, assignDuties_record {} _, fun pre m post hsplit hdone => ?_, ?_⟩
  · have htold := hiff.2 hsettled
    rw [hsplit] at htold
    exact htold.at hdone
  · rw [assignDuties_record, hrecord]
    exact ⟨howed.reports, fun who => DutyRecord.isEmpty_openOf fun d => howed.owes who d⟩

/-- Two rounds on the wreck. -/
theorem writePlot_duties_wreck :
    ∃ w, (wreck.build.run.run (.ofSeed 7)).1 = .ok w ∧ w.Identified ∧
      (w.protagonists.map Object.name).Nodup ∧ (w.macguffins.map Object.definite).Nodup ∧
      ∃ plot story, (((⟨w, []⟩ : Plotter).writePlot 2).run.run ⟨.ofSeed 7, #[]⟩).1 = .ok plot ∧
        ((Story.ofPlot plot).run.run (.ofSeed 7)).1 = .ok story ∧
        let told := assignEmptyStates (mergeAdjacentScenes story)
        let record := (assignDuties {} told).2
        record = told.events.foldl DutyRecord.after {} ∧
        (∀ pre m post, told.events = pre ++ m :: post → m.event? = some .relieveDuty →
          (pre.foldl DutyRecord.after {}).Expects m) ∧
        record.reports = [] ∧ ∀ who, (record.openOf who).isEmpty = true := by
  have hbuild : ((wreck.build.run.run (.ofSeed 7)).1.toOption.any fun w =>
      decide (w.mentions.map Object.names).Nodup && decide (w.protagonists.map Object.name).Nodup &&
        decide (w.macguffins.map Object.definite).Nodup) = true := by
    decide +kernel
  obtain ⟨w, hw, hdistinct⟩ := any_toOption.1 hbuild
  rw [Bool.and_eq_true, Bool.and_eq_true, decide_eq_true_eq, decide_eq_true_eq,
    decide_eq_true_eq] at hdistinct
  obtain ⟨⟨hmentions, hnames⟩, hitems⟩ := hdistinct
  have hid : w.Identified := fun a ha b hb hab => List.inj_on_of_nodup_map hmentions ha hb hab
  exact ⟨w, hw, hid, hnames, hitems,
    writePlot_duties hw hid hnames hitems [] 2 ⟨.ofSeed 7, #[]⟩ (.ofSeed 7)⟩

end Written

end SpaceOpera
