import SpaceOpera.Proofs.Plot.Normalization
import SpaceOpera.Proofs.Plotter.Growth

/-!
# Plots can always be written

On any world with a setting and a protagonist, whatever names its objects share, a plot is expanded and
brought into its normal form without an error (`writePlot_ok`): the holes are never without participants
that a rule counts on, the markers can be replayed at every step, and every group has a member.
-/

namespace SpaceOpera

variable {p : Plotter} {home : Object}

theorem Staged.declares {n : PlotNode} {r : Role} (h : Staged n)
    (hr : (n.get? r).isSome = true) : n.declares r = true := by
  obtain ⟨v, hv⟩ := Option.isSome_iff_exists.1 hr
  have hmem : (r, v) ∈ n.attributes.entries := by
    obtain ⟨front, back, hsplit, -⟩ := List.lookup_eq_some_iff.1 hv
    rw [hsplit]
    exact List.mem_append_right front List.mem_cons_self
  exact List.all_eq_true.1 h.declared _ hmem

/-- No node of a sequence of staged nodes has a role that its kind does not declare. -/
theorem declares_of_staged {ms : List PlotNode} (h : ∀ m ∈ ms, Staged m) :
    ∀ m ∈ (PlotNode.sequence ms).preorder, ∀ r, (m.get? r).isSome = true →
      m.declares r = true := by
  rw [preorder_sequence h]
  exact List.forall_mem_cons.2 ⟨by rintro r ⟨⟩, fun m hm r => (h m hm).declares⟩

theorem Rounded.checkBalance {ms : List PlotNode} (h : Rounded home ms) :
    checkBalance (PlotNode.sequence ms) = .ok () := by
  have hroot : Node.track (PlotNode.sequence ms) {} = .ok {} := Node.Unmarked.track ⟨rfl, rfl⟩
  unfold SpaceOpera.checkBalance
  rw [preorder_sequence h.staged, replay_cons_ok hroot, h.balanced]
  rfl

/-- A written plot is the rounded normal form of one that has grown from a seed. -/
theorem writePlot_ends {I : Context → Prop} [Lasting I] {E : PlotError → Prop}
    (hE : ∀ e, p.seedPlot = .error e → E e) (depth : Nat) :
    Ends (fun n : Narration => I n.context) E
      (fun plot => ∃ home cast ms ks, Expanded p home cast ms ∧
        normalize p.world (PlotNode.sequence ms) = .ok plot ∧ plot = PlotNode.sequence ks ∧
        Rounded home ks ∧ Calm ks)
      (p.writePlot depth) := by
  unfold Plotter.writePlot
  refine Ends.bind (expand_ends hE depth) fun plot hplot => ?_
  obtain ⟨home, cast, ms, rfl, hms⟩ := hplot
  refine Ends.bind (report_ends _) fun _ _ => Ends.liftExcept ?_
  obtain ⟨ks, hks, hrounded, hcalm⟩ := normalize_ok hms.home_eq hms.staged hms.nested.replay
    ⟨_, hms.head?_eq, rfl, rfl⟩ ⟨_, hms.getLast?_eq, rfl, rfl⟩
  rw [hks]
  exact ⟨home, cast, ms, ks, hms, hks, rfl, hrounded, hcalm⟩

/-- A written plot has at least the introduction. -/
theorem writePlot_nonempty {I : Context → Prop} [Lasting I] {E : PlotError → Prop}
    (hsettings : p.world.settings ≠ []) (hcast : p.world.protagonists ≠ []) (depth : Nat) :
    Ends (fun n : Narration => I n.context) E (fun plot => plot.developments ≠ [])
      (p.writePlot depth) := by
  refine (writePlot_ends (fun e he => (seedPlot_ne_error hsettings hcast e he).elim) depth).imp
    (fun _ h => h) fun plot hplot => ?_
  obtain ⟨home, _, _, ks, -, -, rfl, hrounded, -⟩ := hplot
  obtain ⟨first, hfirst, -⟩ := hrounded.first
  rw [hrounded.developments_eq]
  rintro rfl
  cases hfirst

/-- Writing a plot never fails on a world with a setting and a protagonist, and the plot is a sequence of
developments from the introduction at home to the laugh at home, with no awkward moment right behind
another and with everyone back in the end. -/
theorem writePlot_ok (p : Plotter) (hsettings : p.world.settings ≠ [])
    (hcast : p.world.protagonists ≠ []) (depth : Nat) (n : Narration) :
    ∃ rough plot,
      ((p.expand depth).run.run n).1 = .ok rough ∧ ((p.writePlot depth).run.run n).1 = .ok plot ∧
      (∀ m ∈ rough.preorder ++ plot.preorder, ∀ r, (m.get? r).isSome = true →
        m.declares r = true) ∧
      plot.kind = .sequence ∧
      (∀ m ∈ plot.children, m.children = [] ∧ m.development?.isSome = true) ∧
      (∃ first last home, p.world.home? = some home ∧
        plot.children.head? = some first ∧ first.IsAt .introduction home ∧
        plot.children.getLast? = some last ∧ last.IsAt .allLaugh home) ∧
      plot.children.IsChain (fun m k =>
        ¬(m.development? = some .awkwardTension ∧ k.development? = some .awkwardTension)) ∧
      checkBalance plot = .ok () := by
  have hnever : ∀ e, p.seedPlot = .error e → False := seedPlot_ne_error hsettings hcast
  obtain ⟨rough, hrough, _, _, ms, rfl, hms⟩ :=
    (expand_ends (I := fun _ => True) hnever depth n trivial).1.ok_of_no_error
  obtain ⟨plot, hplot, home', _, _, ks, hks, -, rfl, hrounded, hcalm⟩ :=
    (writePlot_ends (I := fun _ => True) hnever depth n trivial).1.ok_of_no_error
  refine ⟨_, _, hrough, hplot, ?_, rfl, ?_, ?_, ?_, hrounded.checkBalance⟩
  · exact List.forall_mem_append.2
      ⟨declares_of_staged hms.staged, declares_of_staged hrounded.staged⟩
  · exact fun m hm => ⟨(hrounded.staged m hm).children, hrounded.developments m hm⟩
  · obtain ⟨first, hfirst, hintroduction⟩ := hrounded.first
    obtain ⟨last, hlast, hlaugh⟩ := hrounded.last
    exact ⟨first, last, home', hks.home_eq, hfirst, hintroduction, hlast, hlaugh⟩
  · refine hcalm.imp fun m k hmk htension => hmk ?_
    rw [Node.isTension, Node.isTension, htension.1, htension.2]
    exact ⟨rfl, rfl⟩

/-- A world in which the heroine, the friend, the villain, the item and the cave share a name. -/
def namesakes : World :=
  let bridge := Object.ofPlace ["bridge"] { roof := .thing ["ceiling"], nearby := [] }
  let cave := Object.ofPlace ["Echo"]
    { roof := .thing ["roof"], nearby := [.thing ["Echo"]], outside := some bridge }
  { protagonists :=
      [.ofCharacter ["Echo"] ⟨.feminine, .lead, .redhead⟩,
        .ofCharacter ["Echo"] ⟨.masculine, .dreamboat, .redhead⟩,
        .ofCharacter ["Bo"] ⟨.masculine, .plain, .redhead⟩]
    antagonists :=
      [{ Object.ofCharacter ["Echo"] ⟨.masculine, .villain, .redhead⟩ with home := some cave }]
    goons := [Object.plural (.thing ["Echo"])]
    macguffins := [.thing ["Echo"]]
    settings := [bridge, cave] }

/-- Even there a plot is written. -/
theorem writePlot_ok_namesakes :
    namesakes.settings ≠ [] ∧ namesakes.protagonists ≠ [] ∧ ∃ plot,
      (((⟨namesakes, []⟩ : Plotter).writePlot 4).run.run ⟨.ofSeed 7, #[]⟩).1 = .ok plot ∧
      plot.kind = .sequence ∧ checkBalance plot = .ok () := by
  have hsettings : namesakes.settings ≠ [] := List.cons_ne_nil _ _
  have hcast : namesakes.protagonists ≠ [] := List.cons_ne_nil _ _
  obtain ⟨_, plot, -, hplot, -, hkind, -, -, -, hbalance⟩ :=
    writePlot_ok ⟨namesakes, []⟩ hsettings hcast 4 ⟨.ofSeed 7, #[]⟩
  exact ⟨hsettings, hcast, plot, hplot, hkind, hbalance⟩

end SpaceOpera
