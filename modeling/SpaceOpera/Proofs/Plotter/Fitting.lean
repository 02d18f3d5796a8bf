import SpaceOpera.Proofs.Plotter.Presence

/-!
# Subplots that fit their holes

Rules are assigned their parts in one place and put their subplots together in another.  The two agree: whatever
a rule has been assigned can be staged, however the draws fall, and what is staged begins where the hole is and
leaves everyone where they were (`generate_fits`).
-/

namespace SpaceOpera

section Fitting

variable {w : World} {here : Object} {a : Assignment} {cs : List PlotNode}

/-- The markers of a subplot can be replayed, end where they began, and take nobody away who was not there. -/
theorem Stages.replays {away : Roster} {hole : PlotNode} (ha : Assigned w away hole here a)
    (h : Stages w here a cs) :
    replay (PlotNode.sequence cs).preorder away = .ok away ∧
      ∀ m ∈ (PlotNode.sequence cs).preorder, ∀ o, m.objectIn .disqualified = some o →
        away.contains o = false := by
  have hnested : Nested away (PlotNode.sequence cs).preorder := by
    rw [preorder_sequence h.staged]
    exact .beside ⟨rfl, rfl⟩ (h.nested ha)
  exact ⟨hnested.replay, fun m hm o => hnested.there hm⟩

end Fitting

/-- A rule that applies to a hole puts a subplot there, whatever is drawn for it later.  The subplot begins
where the hole is, its markers can be replayed with whoever is away and end with the same, and whoever it takes
away was there. -/
theorem generate_fits (w : World) (rule : Rule) (hole : PlotNode) (here : Object) (away : Roster)
    (draws : Context) (a : Assignment) (hhere : hole.setting? = some here)
    (ha : ((assign w rule hole away).run draws).1 = some a) (later : Context) :
    ∃ cs, ((generate w a hole).run.run later).1 = .ok (PlotNode.sequence cs) ∧
      (∃ c rest, cs = c :: rest ∧ c.setting? = some here) ∧
      replay (PlotNode.sequence cs).preorder away = .ok away ∧
      ∀ m ∈ (PlotNode.sequence cs).preorder, ∀ o, m.objectIn .disqualified = some o →
        away.contains o = false := by
  obtain ⟨-, here', hhere', hassigned⟩ :=
    (assign_yields (I := fun _ => True) w rule hole away draws trivial).1 a ha
  obtain rfl := Option.some.inj (hhere.symm.trans hhere')
  obtain ⟨_, hgenerated, cs, hstages, rfl⟩ := (generate_ends (I := fun _ => True)
    (E := fun _ => False) hhere hassigned later trivial).1.ok_of_no_error
  obtain ⟨hreplay, hthere⟩ := hstages.replays hassigned
  obtain ⟨c, rest, hcs, hc, -⟩ := hstages.begins
  exact ⟨cs, hgenerated, ⟨c, rest, hcs, hc⟩, hreplay, hthere⟩

/-- A cave-in at the outpost while the item is lost. -/
theorem generate_fits_outpost :
    let cave := outpost.settings[1]
    let hole := PlotNode.hole cave Rule.whileLost
    let away := Roster.ofList outpost.macguffins
    hole.setting? = some cave ∧ ∃ a,
      ((assign outpost .caveIn hole away).run (.ofSeed 7)).1 = some a ∧
      ∃ cs, ((generate outpost a hole).run.run (.ofSeed 8)).1 = .ok (PlotNode.sequence cs) ∧
        (∃ c rest, cs = c :: rest ∧ c.setting? = some cave) ∧
        replay (PlotNode.sequence cs).preorder away = .ok away ∧
        ∀ m ∈ (PlotNode.sequence cs).preorder, ∀ o, m.objectIn .disqualified = some o →
          away.contains o = false := by
  intro cave hole away
  have hassigned : ((assign outpost .caveIn hole away).run (.ofSeed 7)).1.isSome = true := by
    decide +kernel
  obtain ⟨a, ha⟩ := Option.isSome_iff_exists.1 hassigned
  exact ⟨rfl, a, ha, generate_fits outpost .caveIn hole cave away (.ofSeed 7) a rfl ha (.ofSeed 8)⟩

end SpaceOpera
