import SpaceOpera.Proofs.Plot.Continuity
import SpaceOpera.Proofs.Plotter.Presence
import SpaceOpera.Proofs.Plotter.Writing

/-!
# Who sees a new setting

An arrival is put in right in front of the first node in a setting, with the protagonists who are there once
that node's markers have been applied (`Announced`).  So everyone who takes part is there already, unless the
node behind brings them back (`writePlot_arrivals`); where that node is a rescue, the captive is among those
who arrive to free them (`outpost_captive_arrives`).
-/

namespace SpaceOpera

/-- Does the node tell of a setting that is new? -/
def Node.IsArrival (n : PlotNode) : Prop :=
  n.development? = some .encounterNewSetting

/-- Every arrival stands in front of a node in the same setting, and those who take part are the protagonists
who are there behind that node. -/
inductive Announced (protagonists : List Object) : Roster → List PlotNode → Prop
  | nil {away : Roster} : Announced protagonists away []
  | beside {away after : Roster} {n : PlotNode} {ns : List PlotNode} (hn : ¬n.IsArrival)
      (ht : n.track away = .ok after) (h : Announced protagonists after ns) :
      Announced protagonists away (n :: ns)
  | arrival {away after : Roster} {m n : PlotNode} {ns : List PlotNode} (hm : m.IsArrival)
      (hu : m.Unmarked) (hparty : m.membersOf .subject = availableOf protagonists after)
      (hplace : m.setting? = n.setting?) (hn : ¬n.IsArrival) (ht : n.track away = .ok after)
      (h : Announced protagonists after ns) : Announced protagonists away (m :: n :: ns)

/-! ## Before the arrivals are put in -/

section Rough

variable {p : Plotter} {w : World} {home : Object} {cast : Group} {last m n : PlotNode}
  {ns ms : List PlotNode}

/-- What no rule stages: what frames a plot, and what the passes of the normal form put in. -/
def Development.unstaged : List Development :=
  [introduction, convalescence, allLaugh] ++ inserted

theorem Rule.outlines_not_unstaged (r : Rule) :
    ∀ outline ∈ r.outlines, ∀ d ∈ Development.unstaged, some d ∉ outline := by
  cases r <;> decide

theorem Stages.not_unstaged {here : Object} {a : Assignment} {cs : List PlotNode}
    (h : Stages w here a cs) : ∀ c ∈ cs, ∀ d ∈ Development.unstaged, c.development? ≠ some d :=
  fun _ hc d hd htold => a.rule.outlines_not_unstaged _ h.outline d hd
    (List.mem_map.2 ⟨_, hc, htold⟩)

theorem Stages.not_inserted {here : Object} {a : Assignment} {cs : List PlotNode}
    (h : Stages w here a cs) : ∀ c ∈ cs, ∀ d ∈ Development.inserted, c.development? ≠ some d :=
  fun c hc d hd => h.not_unstaged c hc d (List.mem_append_right _ hd)

theorem Expanded.not_inserted (h : Expanded p home cast ms) :
    ∀ m ∈ ms, ∀ d ∈ Development.inserted, m.development? ≠ some d := by
  refine h.forall_mem ?_ fun _ _ _ hcs => hcs.not_inserted
  simp [seedNodes, Development.inserted]

theorem Expanded.not_arrival (h : Expanded p home cast ms) : ∀ m ∈ ms, ¬m.IsArrival :=
  fun m hm => h.not_inserted m hm _ (by decide)

theorem Added.not_arrival {ds : List Development} (h : Added ds n)
    (hds : .encounterNewSetting ∉ ds) : ¬n.IsArrival := by
  obtain ⟨d, hd, hn⟩ := h.development
  intro harrival
  cases hn.symm.trans harrival
  exact hds hd

end Rough

/-! ## Arrivals put in -/

section Announcements

variable {protagonists : List Object} {away after : Roster} {n : PlotNode} {ns ms : List PlotNode}

/-- The arrivals that are put in are announced. -/
theorem announced_of_arrive {it : Itinerary} (h : ∀ n ∈ ns, ¬n.IsArrival)
    (hms : arrive protagonists it ns = .ok ms) : Announced protagonists it.unavailable ms := by
  induction ns generalizing it ms with
  | nil =>
    cases hms
    exact .nil
  | cons n ns ih =>
    obtain ⟨hn, hns⟩ := List.forall_mem_cons.1 h
    rw [arrive] at hms
    obtain ⟨next, ht, hms⟩ := bind_eq_ok.1 hms
    dsimp only at hms
    split at hms
    · rename_i s m hfound
      obtain ⟨s', hs, hfound⟩ := Option.bind_eq_some_iff.1 hfound
      obtain ⟨m', harrival, hsame⟩ := Option.map_eq_some_iff.1 hfound
      cases hsame
      obtain ⟨rest, hrest, hms⟩ := bind_eq_ok.1 hms
      cases hms
      obtain ⟨-, party, hparty, rfl⟩ := arrival_eq_some harrival
      have hafter := ih hns hrest
      exact .arrival rfl ⟨rfl, rfl⟩ hparty hs.symm hn ht hafter
    · obtain ⟨rest, hrest, hms⟩ := bind_eq_ok.1 hms
      cases hms
      exact .beside hn ht (ih hns hrest)

namespace Announced

/-- Scenes of an item stand behind introductions and convalescences only, so they come between no arrival and
the node it announces. -/
theorem foreshadowItem (h : Announced protagonists away ns) (item holder : Object)
    (recalled : Bool) :
    Announced protagonists away (foreshadowItem item holder recalled ns).1 := by
  have hscene : ∀ {n s : PlotNode} {recalled : Bool},
      itemScene item holder n recalled = some s → ¬s.IsArrival ∧ s.Unmarked := by
    intro n s recalled hs
    have hadded := itemScene_added hs
    exact ⟨hadded.not_arrival (by decide), hadded.unmarked⟩
  induction h generalizing recalled with
  | nil => exact .nil
  | beside hn ht _ ih =>
    rw [SpaceOpera.foreshadowItem]
    split
    · rename_i s hs
      obtain ⟨hs, hu⟩ := hscene hs
      exact .beside hn ht (.beside hs hu.track (ih _))
    · exact .beside hn ht (ih _)
  | @arrival _ _ m n ns hm hu hparty hplace hn ht _ ih =>
    have hnone : itemScene item holder m recalled = none := by
      unfold itemScene followUp?
      rw [hm]
      rfl
    rw [SpaceOpera.foreshadowItem, hnone]
    dsimp only
    rw [SpaceOpera.foreshadowItem]
    split
    · rename_i s hs
      obtain ⟨hs, hus⟩ := hscene hs
      exact .arrival hm hu hparty hplace hn ht (.beside hs hus.track (ih _))
    · exact .arrival hm hu hparty hplace hn ht (ih _)

/-- What stands behind an arrival, and who is away in front of it. -/
theorem behind {pre post : List PlotNode} (h : Announced protagonists away (pre ++ n :: post))
    (hn : n.IsArrival) :
    ∃ before k rest after, post = k :: rest ∧ replay pre away = .ok before ∧
      k.setting? = n.setting? ∧ k.track before = .ok after ∧
      n.membersOf .subject = availableOf protagonists after := by
  generalize hwhole : pre ++ n :: post = whole at h
  induction h generalizing pre with
  | nil => simp at hwhole
  | beside hm ht _ ih =>
    cases pre with
    | nil =>
      cases hwhole
      exact absurd hn hm
    | cons k pre =>
      cases hwhole
      rw [replay_cons_ok ht]
      exact ih rfl
  | @arrival away after m k ns _ hu hparty hplace hk ht _ ih =>
    cases pre with
    | nil =>
      cases hwhole
      exact ⟨away, k, ns, after, rfl, rfl, hplace.symm, ht, hparty⟩
    | cons m' pre =>
      obtain ⟨rfl, hwhole⟩ := List.cons.inj hwhole
      rw [replay_cons_ok hu.track]
      cases pre with
      | nil =>
        cases hwhole
        exact absurd hn hk
      | cons k' pre =>
        cases hwhole
        rw [replay_cons_ok ht]
        exact ih rfl

end Announced

end Announcements

/-! ## Written plots -/

section Writing

variable {p : Plotter} {w : World} {home : Object} {ns : List PlotNode} {plot : PlotNode}

/-- In the normal form of a plot without arrivals they are announced. -/
theorem announced_of_normalize (hs : ∀ n ∈ ns, Staged n) (h : ∀ n ∈ ns, ¬n.IsArrival)
    (hplot : normalize w (PlotNode.sequence ns) = .ok plot) :
    Announced w.protagonists {} plot.children := by
  obtain ⟨home, ks, ls, -, hjourneys, harrivals, rfl⟩ := normalize_eq_ok hs hplot
  have hks : ∀ k ∈ ks, ¬k.IsArrival := by
    intro k hk
    rcases (padded_insertJourneys hjourneys).mem hk with ⟨m, hm, rfl⟩ | hadded
    · exact h m (mem_of_mem_ordered hm).1
    · exact hadded.not_arrival (by decide)
  obtain ⟨ms, hms, hannounced⟩ := foreshadowItems_induction (announced_of_arrive hks harrivals)
    fun item holder recalled _ hns => hns.foreshadowItem item holder recalled
  rw [hms]
  exact hannounced

/-- Whoever one node makes available was there already or is brought back by it. -/
theorem Node.requalifies_of_track {n : PlotNode} {away after : Roster} {o : Object}
    (ht : n.track away = .ok after) (hbefore : away.contains o = true)
    (hafter : after.contains o = false) :
    ∃ back, n.objectIn .requalified = some back ∧ (back == o) = true := by
  unfold Node.track at ht
  split at ht
  · cases ht
    unfold Node.afterMarkers at hafter
    cases hback : n.objectIn .requalified with
    | none =>
      cases hgone : n.objectIn .disqualified <;>
        simp [hback, hgone, Roster.contains_insert, hbefore] at hafter
    | some back =>
      refine ⟨back, rfl, ?_⟩
      cases hgone : n.objectIn .disqualified <;>
        simpa [hback, hgone, Roster.contains_erase, Roster.contains_insert, hbefore] using hafter
  · cases ht

/-- In a written plot every arrival stands right in front of the node at which the setting is reached, and
those who take part are the protagonists who are there once that node has brought someone back or taken
someone away: nobody takes part who is away by then, unless they are the one brought back. -/
theorem writePlot_arrivals (p : Plotter) (hsettings : p.world.settings ≠ [])
    (hcast : p.world.protagonists ≠ []) (depth : Nat) (n : Narration) :
    ∃ plot, ((p.writePlot depth).run.run n).1 = .ok plot ∧
      ∀ pre m post, plot.children = pre ++ m :: post → m.IsArrival →
        ∃ away k rest after, post = k :: rest ∧ k.setting? = m.setting? ∧
          replay pre {} = .ok away ∧ k.track away = .ok after ∧
          m.membersOf .subject = availableOf p.world.protagonists after ∧
          ∀ o ∈ m.membersOf .subject, away.contains o = true →
            ∃ back, k.objectIn .requalified = some back ∧ (back == o) = true := by
  have hnever : ∀ e, p.seedPlot = .error e → False := seedPlot_ne_error hsettings hcast
  obtain ⟨plot, hplot, _, _, ms, ks, hms, hnormal, -⟩ :=
    (writePlot_ends (I := fun _ => True) hnever depth n trivial).1.ok_of_no_error
  refine ⟨plot, hplot, fun pre m post hsplit hm => ?_⟩
  have hannounced := announced_of_normalize hms.staged hms.not_arrival hnormal
  rw [hsplit] at hannounced
  obtain ⟨away, k, rest, after, hpost, hr, hplace, ht, hparty⟩ := hannounced.behind hm
  refine ⟨away, k, rest, after, hpost, hplace, hr, ht, hparty, fun o ho haway => ?_⟩
  rw [hparty] at ho
  exact Node.requalifies_of_track ht haway (mem_availableOf.1 ho).2

/-- One round at the outpost. -/
theorem writePlot_arrivals_outpost :
    outpost.settings ≠ [] ∧ outpost.protagonists ≠ [] ∧ ∃ plot,
      (((⟨outpost, []⟩ : Plotter).writePlot 1).run.run ⟨.ofSeed 7, #[]⟩).1 = .ok plot ∧
      ∀ pre m post, plot.children = pre ++ m :: post → m.IsArrival →
        ∃ away k rest after, post = k :: rest ∧ k.setting? = m.setting? ∧
          replay pre {} = .ok away ∧ k.track away = .ok after ∧
          m.membersOf .subject = availableOf outpost.protagonists after ∧
          ∀ o ∈ m.membersOf .subject, away.contains o = true →
            ∃ back, k.objectIn .requalified = some back ∧ (back == o) = true := by
  have hsettings : outpost.settings ≠ [] := List.cons_ne_nil _ _
  have hcast : outpost.protagonists ≠ [] := List.cons_ne_nil _ _
  exact ⟨hsettings, hcast, writePlot_arrivals ⟨outpost, []⟩ hsettings hcast 1 ⟨.ofSeed 7, #[]⟩⟩

/-- Where kidnappings are all that happens, the friend of the heroine is taken from the bridge, and in front of
his rescue he arrives with her in the cave in which he is held. -/
theorem outpost_captive_arrives :
    outpost.settings ≠ [] ∧ outpost.protagonists ≠ [] ∧
      ((outpost.protagonists ++ outpost.macguffins).Pairwise fun a b => (a == b) = false) ∧
      ¬∀ plot, (((⟨outpost, Rule.all.erase .kidnapping⟩ : Plotter).writePlot 1).run.run
          ⟨.ofSeed 7, #[]⟩).1 = .ok plot →
        ∀ pre m post away, plot.children = pre ++ m :: post → m.IsArrival →
          replay pre {} = .ok away → ∀ o ∈ m.membersOf .subject, away.contains o = false := by
  refine ⟨List.cons_ne_nil _ _, List.cons_ne_nil _ _, by decide, fun h => ?_⟩
  have hcaptive : ((((⟨outpost, Rule.all.erase .kidnapping⟩ : Plotter).writePlot 1).run.run
      ⟨.ofSeed 7, #[]⟩).1.toOption.any fun plot => plot.children[3]?.any fun m =>
        m.development? = some .encounterNewSetting &&
          (replay (plot.children.take 3) {}).toOption.any fun away =>
            (m.membersOf .subject).any away.contains) = true := by
    decide +kernel
  obtain ⟨plot, hplot, hcaptive⟩ := any_toOption.1 hcaptive
  obtain ⟨m, hm, hcaptive⟩ := (Option.any_eq_true _ _).1 hcaptive
  obtain ⟨harrival, hcaptive⟩ := Bool.and_eq_true_iff.1 hcaptive
  rw [decide_eq_true_eq] at harrival
  obtain ⟨away, hr, hcaptive⟩ := any_toOption.1 hcaptive
  obtain ⟨o, ho, haway⟩ := List.any_eq_true.1 hcaptive
  have hthere := h plot hplot _ m _ away (eq_take_append_cons_drop hm) harrival hr o ho
  exact absurd (haway.symm.trans hthere) (by decide)

end Writing

end SpaceOpera
