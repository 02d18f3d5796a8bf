import SpaceOpera.Proofs.Plot.Continuity
import SpaceOpera.Proofs.Plot.Pairing
import SpaceOpera.Proofs.Plotter.Presence
import SpaceOpera.Proofs.Plotter.Writing

/-!
# The threads of a written plot are closed

On a world whose cast and items differ in names, every subplot is a run of threads that ends with the threads
it began with (`Stages.run_fight`, `Stages.run_pass`), so filling holes leaves a run a run (`Run.grown`).  In a
written plot every kidnapping, loss and cave-in is followed by the one development that closes it, the abducted
are searched for only while they are held, and a skirmish goes on to its end without interruption
(`writePlot_paired`).
-/

namespace SpaceOpera

/-! ## The threads of subplots -/

section Subplots

variable {p : Plotter} {w : World} {away : Roster} {ss : List (Strand w)} {s : Strand w}
  {fight : Option PlotNode} {hole n : PlotNode} {here : Object} {a : Assignment}
  {cs : List PlotNode}

/-- One of the objects, in front of the others. -/
theorem cons_without_perm {os : List Object} {o : Object} (ho : o ∈ os)
    (hos : os.Pairwise fun a b => (a == b) = false) : (o :: without os o).Perm os := by
  induction os with
  | nil => exact absurd ho List.not_mem_nil
  | cons b os ih =>
    obtain ⟨hb, hos⟩ := List.pairwise_cons.1 hos
    unfold without
    rcases List.mem_cons.1 ho with rfl | ho
    · have hothers : os.filter (· != o) = os := by
        rw [List.filter_eq_self]
        intro c hc
        rw [bne, BEq.comm, hb c hc]
        rfl
      rw [List.filter_cons_of_neg (by simp [bne]), hothers]
    · rw [List.filter_cons_of_pos (by simp [bne, hb o ho])]
      exact (List.Perm.swap b o _).trans ((ih ho hos).cons b)

theorem present_apart (hcast : w.protagonists.Pairwise fun a b => (a == b) = false) :
    (w.present away).Pairwise fun a b => (a == b) = false :=
  hcast.filter _

/-- Whoever is there may become a victim, as long as someone else is there. -/
theorem Feasible.cons (hs : Feasible ss) (ht : Tracks ss away)
    (hvictim : away.contains s.victim = false)
    (hleft : ∃ o ∈ w.present away, (o == s.victim) = false) : Feasible (s :: ss) := by
  have hfree : ∀ {o : Object}, away.contains o = false → ∀ r ∈ ss, (o == r.victim) = false := by
    intro o ho r hr
    rw [ht, List.any_eq_false] at ho
    simpa using ho r hr
  obtain ⟨o, ho, hother⟩ := hleft
  obtain ⟨hmem, hthere⟩ := mem_availableOf.1 ho
  exact ⟨List.pairwise_cons.2 ⟨hfree hvictim, hs.apart⟩, o, hmem,
    List.forall_mem_cons.2 ⟨hother, hfree hthere⟩⟩

theorem Chosen.left {fits : Object → Bool} {o : Object} (h : Chosen (w.present away) fits o) :
    ∃ b ∈ w.present away, (b == o) = false := by
  obtain ⟨b, hb⟩ := List.exists_mem_of_ne_nil _ h.others
  exact ⟨b, mem_without.1 hb⟩

/-- A place for a fight is filled with more of the fight. -/
theorem Stages.run_fight {m : PlotNode} (hm : m.Fights hole) (hkind : hole.kind = .hole Rule.inCombat)
    (hrule : a.rule ∈ Rule.inCombat) (hhere : hole.setting? = some here)
    (ha : Assigned w away hole here a) (h : Stages w here a cs) :
    Run ⟨ss, some m⟩ cs ⟨ss, some m⟩ := by
  have hgoons : ∀ goons, hole.objectIn .goons = some goons → m.objectIn .object = some goons := by
    intro goons hgoons
    rcases hm.part with ⟨d, hd, -, -⟩ | ⟨-, hsame⟩
    · rw [Node.development?, hkind] at hd
      cases hd
    · exact hsame.symm.trans hgoons
  have hsetting : some here = m.setting? := hhere.symm.trans hm.setting
  cases a with
  | protagonistAttack protagonists goons =>
    obtain ⟨-, -, hband⟩ := ha
    obtain ⟨_, rfl⟩ := h
    have hband := (hgoons goons hband).symm
    refine .cons (.fights ⟨⟨rfl, rfl⟩, hsetting, Or.inr ⟨rfl, hband⟩⟩) ?_
    exact .cons (.fights ⟨⟨rfl, rfl⟩, hsetting, Or.inl ⟨_, rfl, rfl, hband⟩⟩) .nil
  | awkwardCombat lead dreamboat goons =>
    obtain ⟨-, hband⟩ := ha
    obtain ⟨_, rfl⟩ := h
    have hband := (hgoons goons hband).symm
    refine .cons (.fights ⟨⟨rfl, rfl⟩, hsetting, Or.inr ⟨rfl, hband⟩⟩) ?_
    exact .cons (.fights ⟨⟨rfl, rfl⟩, hsetting, Or.inl ⟨_, rfl, rfl, hband⟩⟩) .nil
  | _ => simp [Rule.inCombat, Assignment.rule] at hrule

/-- Whoever a search can be rolled for is held captive. -/
theorem Passes.searched {rules : List Rule} {abductee location : Object} (h : Passes ss hole)
    (hkind : hole.kind = .hole rules) (hfind : .findAbductee ∈ rules)
    (habductee : hole.objectIn .abductee = some abductee)
    (hlocation : hole.objectIn .abducteeLocation = some location) :
    Searched ss (some abductee) (some location) := by
  have hsearched := (h.rules rules hkind).2.2 hfind
  rwa [habductee, hlocation] at hsearched

/-- Any other place is filled with a run that ends with the threads that it began with. -/
theorem Stages.run_pass {rules : List Rule}
    (hw : (w.protagonists ++ w.macguffins).Pairwise fun a b => (a == b) = false)
    (hs : Feasible ss) (ht : Tracks ss away) (hpass : Passes ss hole)
    (hkind : hole.kind = .hole rules) (hrule : a.rule ∈ rules)
    (ha : Assigned w away hole here a) (h : Stages w here a cs) :
    Run ⟨ss, none⟩ cs ⟨ss, none⟩ := by
  obtain ⟨hcast, -, hitems⟩ := List.pairwise_append.1 hw
  have hpresent : ∀ b ∈ w.present away, b ∈ w.protagonists := fun b hb => (mem_availableOf.1 hb).1
  have hapart : ∀ o, (without (w.present away) o).Pairwise fun a b => (a == b) = false :=
    fun o => (present_apart hcast).filter _
  have hothers : ∀ o, ∀ b ∈ without (w.present away) o, b ∈ w.protagonists :=
    fun o b hb => hpresent b (mem_without.1 hb).1
  obtain ⟨hattack, hcombat, -⟩ := hpass.rules rules hkind
  cases a with
  | kidnapping villain abductee others lair =>
    obtain ⟨-, rfl, hchosen, rfl⟩ := ha
    obtain ⟨_, _, rfl⟩ := h
    have hplace : (villain.home.or (some here)) = some (villain.home.getD here) := by
      cases villain.home <;> rfl
    refine Run.thread (t := .abduction) (o := abductee) (l := [_, _]) ?_ ?_ ?_ .nil
    · exact ⟨hpresent _ hchosen.mem, rfl, rfl, ⟨rfl, rfl⟩, ⟨rfl, rfl⟩, rfl, rfl, ⟨_, hplace, rfl⟩,
        .refl _, hothers _, hapart _⟩
    · exact hs.cons ht (mem_availableOf.1 hchosen.mem).2 hchosen.left
    · refine .cons (.passes ⟨⟨rfl, rfl⟩, by rintro d ⟨⟩, by rintro ⟨⟩, ?_⟩) ?_
      · rintro _ ⟨⟩
        exact ⟨by decide, by decide, fun _ => ⟨_, List.mem_cons_self, rfl, rfl, rfl⟩⟩
      · exact .cons (.passes (.hole (by decide) (by decide) (by decide))) .nil
  | lostItem loser protagonists item =>
    obtain ⟨rfl, hloser, hitem⟩ := ha
    obtain ⟨recoverer, _, _, hrecovers, rfl⟩ := h
    obtain ⟨hitem, hthere⟩ := mem_availableOf.1 hitem
    have hrecoverer := hrecovers.mem hloser.mem
    have hlosers := cons_without_perm hloser.mem (present_apart hcast)
    have hrecoverers := cons_without_perm hrecoverer (present_apart hcast)
    refine Run.thread (t := .loss) (o := item) (l := [_]) ?_ ?_ ?_ .nil
    · refine ⟨hitem, rfl, rfl, ⟨rfl, rfl⟩, ⟨rfl, rfl⟩, rfl, rfl, ⟨_, rfl, rfl⟩,
        hlosers.trans hrecoverers.symm, fun b hb => hpresent b (hlosers.mem_iff.1 hb), ?_⟩
      exact (hlosers.pairwise_iff fun hab => BEq.comm.trans hab).2 (present_apart hcast)
    · exact hs.cons ht hthere ⟨loser, hloser.mem, hitems loser (hpresent _ hloser.mem) item hitem⟩
    · exact .cons (.passes (.hole (by decide) (by decide) (by decide))) .nil
  | caveIn trapped others =>
    obtain ⟨-, hchosen, rfl⟩ := ha
    obtain ⟨_, rfl⟩ := h
    refine Run.thread (t := .burial) (o := trapped) (l := [_]) ?_ ?_ ?_ ?_
    · exact ⟨hpresent _ hchosen.mem, rfl, rfl, ⟨rfl, rfl⟩, ⟨rfl, rfl⟩, rfl, rfl, ⟨_, rfl, rfl⟩,
        .refl _, hothers _, hapart _⟩
    · exact hs.cons ht (mem_availableOf.1 hchosen.mem).2 hchosen.left
    · exact .cons (.passes (.hole (by decide) (by decide) (by decide))) .nil
    · exact .cons (.passes (.hole (by decide) (by decide) (by decide))) .nil
  | findAbductee protagonists abductee location =>
    obtain ⟨-, -, habductee, hlocation⟩ := ha
    obtain ⟨_, rfl⟩ := h
    have hsearched := hpass.searched hkind hrule habductee hlocation
    refine .cons (.passes ⟨⟨rfl, rfl⟩, ?_, fun _ => hsearched, by rintro rules ⟨⟩⟩) ?_
    · rintro d ⟨⟩
      rfl
    · exact .cons (.passes (.hole (by decide) (by decide) (by decide))) .nil
  | findAnotherWay protagonists outside =>
    obtain ⟨_, rfl⟩ := h
    refine .cons (.passes (.of_development ⟨rfl, rfl⟩ rfl rfl (by decide))) ?_
    exact .cons (.passes (.hole (by decide) (by decide) (by decide))) .nil
  | goonSkirmish protagonists goons =>
    obtain ⟨met, _, _, -, rfl⟩ := h
    refine .cons (.meets ⟨⟨rfl, rfl⟩, ⟨_, rfl, ?_⟩, rfl, rfl, rfl⟩) ?_
    · cases met <;> rfl
    · refine .cons (.fights ⟨⟨rfl, rfl⟩, rfl, Or.inr ⟨rfl, rfl⟩⟩) ?_
      exact .cons (.parts ⟨⟨rfl, rfl⟩, rfl, rfl, rfl, rfl⟩) .nil
  | protagonistAttack protagonists goons => exact absurd hrule hattack
  | awkwardCombat lead dreamboat goons => exact absurd hrule hcombat
  | awkwardTension lead dreamboat | romanticTension lead dreamboat =>
    obtain ⟨_, _, -, rfl⟩ := h
    refine .cons (.passes (.of_development ⟨rfl, rfl⟩ rfl rfl (by decide))) ?_
    exact .cons (.passes (.hole (by decide) (by decide) (by decide))) .nil
  | romanticResolution lead dreamboat =>
    subst h
    exact .cons (.passes (.of_development ⟨rfl, rfl⟩ rfl rfl (by decide))) .nil
  | contemplateItem contemplator item | drone startled =>
    subst h
    refine .cons (.passes (.of_development ⟨rfl, rfl⟩ rfl rfl (by decide))) ?_
    exact .cons (.passes (.hole (by decide) (by decide) (by decide))) .nil

end Subplots

/-! ## Growth -/

section Growth

variable {p : Plotter} {away : Roster} {a b c : Ongoing p.world} {hole : PlotNode}
  {cs ns ms : List PlotNode} {home : Object} {cast : Group}

/-- What fills a hole is a run from what is going on there to the same. -/
theorem Fills.run
    (hw : (p.world.protagonists ++ p.world.macguffins).Pairwise fun a b => (a == b) = false)
    (ha : Feasible a.strands) (ht : Tracks a.strands away) (hstep : Turn a hole b)
    (h : Fills p away hole cs) : b = a ∧ Run a cs a := by
  obtain ⟨rules, here, assignment, hkind, hrule, -, hhere, hassigned, hstages⟩ := h
  obtain ⟨rfl, hpart⟩ := hstep.of_hole hkind
  refine ⟨rfl, ?_⟩
  obtain ⟨ss, fight⟩ := b
  rcases hpart with ⟨m, hm, hfight⟩ | ⟨hnone, hpass⟩
  · obtain rfl : fight = some m := hm
    have hrules : rules = Rule.inCombat := by
      rcases hfight.part with ⟨d, hd, -, -⟩ | ⟨hcombat, -⟩
      · rw [Node.development?, hkind] at hd
        cases hd
      · rw [hkind] at hcombat
        exact PlotKind.hole.inj hcombat
    subst hrules
    exact hstages.run_fight hfight hkind hrule hhere hassigned
  · obtain rfl : fight = none := hnone
    exact hstages.run_pass hw ha ht hpass hkind hrule hassigned

/-- Filling holes leaves a run a run. -/
theorem Run.grown
    (hw : (p.world.protagonists ++ p.world.macguffins).Pairwise fun a b => (a == b) = false)
    (h : Run a ns c) (ha : Feasible a.strands) (ht : Tracks a.strands away)
    (g : Grown p away ns ms) : Run a ms c := by
  induction g generalizing a with
  | nil => exact h
  | @keep away after n ns ms hafter _ ih =>
    cases h with
    | cons hn hns =>
      obtain ⟨next, hnext, ht'⟩ := hn.track ha ht
      rw [hafter] at hnext
      cases hnext
      exact .cons hn (ih hns (hn.feasible ha) ht')
  | @fill away n cs ns ms _ hcs _ ih =>
    cases h with
    | cons hn hns =>
      obtain ⟨rfl, hrun⟩ := hcs.run hw ha ht hn
      exact hrun.append (ih hns ha ht)

theorem Expanded.run
    (hw : (p.world.protagonists ++ p.world.macguffins).Pairwise fun a b => (a == b) = false)
    (h : Expanded p home cast ms) : Run (w := p.world) {} ms {} := by
  have hcast : p.world.protagonists ≠ [] := h.cast_eq ▸ cast.nonempty
  refine h.invariant (P := fun ms => Run (w := p.world) {} ms {}) ?_ fun ns ks hns hks =>
    hns.grown hw (.nil hcast) .nil hks
  refine .cons (.passes (.of_development ⟨rfl, rfl⟩ rfl rfl (by decide))) ?_
  refine .cons (.passes (.hole (by decide) (by decide) (by decide))) ?_
  refine .cons (.passes (.of_development ⟨rfl, rfl⟩ rfl rfl (by decide))) ?_
  exact .cons (.passes (.of_development ⟨rfl, rfl⟩ rfl rfl (by decide))) .nil

/-- The nodes of a written plot are a run from no threads to none. -/
theorem writePlot_run {I : Context → Prop} [Lasting I] {E : PlotError → Prop}
    (hw : (p.world.protagonists ++ p.world.macguffins).Pairwise fun a b => (a == b) = false)
    (hE : ∀ e, p.seedPlot = .error e → E e) (depth : Nat) :
    Ends (fun n : Narration => I n.context) E
      (fun plot => ∃ ks, plot = PlotNode.sequence ks ∧ (∀ k ∈ ks, k.development?.isSome = true) ∧
        Run (w := p.world) {} ks {})
      (p.writePlot depth) := by
  refine Ends.imp (writePlot_ends hE depth) (fun _ h => h) ?_
  rintro plot ⟨home, cast, ms, ks, hms, hplot, rfl, hrounded, -⟩
  have hcast : p.world.protagonists ≠ [] := hms.cast_eq ▸ cast.nonempty
  obtain ⟨ls, hsame, hrun⟩ := (hms.run hw).normalize hms.staged hcast hplot
  obtain rfl : ks = ls := congrArg Node.children hsame
  exact ⟨ks, rfl, hrounded.developments, hrun⟩

end Growth

/-! ## Written plots -/

/-- In a written plot every kidnapping, loss and cave-in is answered exactly once before its victim is taken
away again, whoever is searched for is held captive, and every skirmish is fought to its end. -/
theorem writePlot_paired (p : Plotter) (hsettings : p.world.settings ≠ [])
    (hcast : p.world.protagonists ≠ [])
    (hw : (p.world.protagonists ++ p.world.macguffins).Pairwise fun a b => (a == b) = false)
    (depth : Nat) (n : Narration) :
    ∃ plot, ((p.writePlot depth).run.run n).1 = .ok plot ∧
      (∀ t, Answered t plot.children) ∧ Hunted plot.children ∧ Fought plot.children := by
  have hnever : ∀ e, p.seedPlot = .error e → False := seedPlot_ne_error hsettings hcast
  obtain ⟨plot, hplot, ks, rfl, hdevelopments, hrun⟩ :=
    (writePlot_run (I := fun _ => True) hw hnever depth n trivial).1.ok_of_no_error
  exact ⟨_, hplot, hrun.answered, hrun.hunted hcast, hrun.fought hdevelopments⟩

/-- Four rounds at the outpost. -/
theorem writePlot_paired_outpost :
    outpost.settings ≠ [] ∧ outpost.protagonists ≠ [] ∧
      ((outpost.protagonists ++ outpost.macguffins).Pairwise fun a b => (a == b) = false) ∧
      ∃ plot, (((⟨outpost, []⟩ : Plotter).writePlot 4).run.run ⟨.ofSeed 7, #[]⟩).1 = .ok plot ∧
        (∀ t, Answered t plot.children) ∧ Hunted plot.children ∧ Fought plot.children := by
  have hsettings : outpost.settings ≠ [] := List.cons_ne_nil _ _
  have hcast : outpost.protagonists ≠ [] := List.cons_ne_nil _ _
  have hapart : (outpost.protagonists ++ outpost.macguffins).Pairwise
      fun a b => (a == b) = false := by decide
  exact ⟨hsettings, hcast, hapart,
    writePlot_paired ⟨outpost, []⟩ hsettings hcast hapart 4 ⟨.ofSeed 7, #[]⟩⟩

end SpaceOpera
