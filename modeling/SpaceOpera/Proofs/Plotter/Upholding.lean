import SpaceOpera.Proofs.Plot.Keeping
import SpaceOpera.Proofs.Plotter.Writing

/-!
# Properties that plots uphold

A property of single nodes is `Upheld` if a fresh plot has it, if it passes from each hole to whatever fills it,
and if the normal form keeps it.  Every development of a written plot then has it, however the draws fall
(`writePlot_upheld`), and so has every development of a plot that the constraints accept.
-/

namespace SpaceOpera

variable {p : Plotter} {home : Object} {P : PlotNode → Prop}

/-- Fresh plots have the property, subplots take it over from the holes they fill, and the normal form keeps
it. -/
structure Upheld (p : Plotter) (home : Object) (P : PlotNode → Prop) : Prop
    extends Kept p.world home P where
  seed {cast : Group} (hcast : cast.members = p.world.protagonists) :
    ∀ n ∈ seedNodes home (.group cast), P n
  fill {away : Roster} {hole : PlotNode} {cs : List PlotNode} (hhole : P hole)
    (hcs : Fills p away hole cs) : ∀ c ∈ cs, P c

theorem Upheld.expanded {cast : Group} {ms : List PlotNode} (h : Upheld p home P)
    (hms : Expanded p home cast ms) : ∀ m ∈ ms, P m := by
  refine hms.invariant (P := fun ms => ∀ m ∈ ms, P m) (h.seed hms.cast_eq) fun ns ks hns hks => ?_
  exact hks.forall_mem (fun _ _ _ hhole hcs => h.fill hhole hcs) hns

/-- A plot of staged developments with the property. -/
def Upholds (P : PlotNode → Prop) (plot : PlotNode) : Prop :=
  ∃ ms, plot = PlotNode.sequence ms ∧ ∀ m ∈ ms, Staged m ∧ m.development?.isSome = true ∧ P m

theorem Upholds.developments {plot : PlotNode} (h : Upholds P plot) : ∀ m ∈ plot.developments, P m := by
  obtain ⟨ms, rfl, hms⟩ := h
  rw [developments_of_leaves rfl fun m hm => ⟨(hms m hm).1.isLeaf, (hms m hm).2.1⟩]
  exact fun m hm => (hms m hm).2.2

section Writing

variable {I : Context → Prop} [Lasting I] {E : PlotError → Prop}

theorem writePlot_upholds (hhome : p.world.home? = some home) (hcast : p.world.protagonists ≠ [])
    (h : Upheld p home P) (depth : Nat) :
    Ends (fun n : Narration => I n.context) E (Upholds P) (p.writePlot depth) := by
  refine Ends.imp (writePlot_ends (I := I) (E := E) (fun e he => ?_) depth) (fun _ h => h)
    fun plot hplot => ?_
  · rw [seedPlot_eq_ok hhome hcast] at he
    cases he
  · obtain ⟨home', _, ms, ks, hms, hnormal, rfl, hrounded, -⟩ := hplot
    obtain rfl := Option.some.inj (hhome.symm.trans hms.home_eq)
    have hkept := h.toKept.normalize hhome hms.staged (h.expanded hms) hnormal
    exact ⟨ks, rfl, fun m hm => ⟨hrounded.staged m hm, hrounded.developments m hm, hkept m hm⟩⟩

omit [Lasting I] in
/-- Where a plot can be written, all that can go wrong is that none is acceptable. -/
theorem acceptablePlot_ends_of {Q : PlotNode → Prop} {depth : Nat}
    (h : Ends (fun n : Narration => I n.context) (fun e => ∃ n, e = .noAcceptablePlot n) Q
      (p.writePlot depth)) (c : Constraints) (maxAttempts : Option Nat) :
    Ends (fun n : Narration => I n.context) (fun e => ∃ n, e = .noAcceptablePlot n) Q
      (p.acceptablePlot c depth maxAttempts) := by
  have hfrom : ∀ tries attempts, Ends (fun n : Narration => I n.context)
      (fun e => ∃ n, e = .noAcceptablePlot n) Q (p.acceptableFrom c depth tries attempts) := by
    intro tries
    induction tries with
    | zero => exact fun attempts => Ends.throw ⟨attempts, rfl⟩
    | succ tries ih =>
      intro attempts
      rw [Plotter.acceptableFrom]
      refine h.bind fun plot hplot => ?_
      split
      · exact (report_ends _).bind fun _ _ => Ends.pure hplot
      · exact (report_ends _).bind fun _ _ => ih _
  exact hfrom _ _

omit [Lasting I] in
/-- With nothing to meet, the first plot is the one. -/
theorem acceptablePlot_unconstrained {Q : PlotNode → Prop} {depth : Nat}
    (h : Ends (fun n : Narration => I n.context) E Q (p.writePlot depth)) :
    Ends (fun n : Narration => I n.context) E Q (p.acceptablePlot {} depth none) := by
  have htries : Option.getD none attemptLimit = (attemptLimit - 1) + 1 := rfl
  rw [Plotter.acceptablePlot, htries, Plotter.acceptableFrom]
  refine h.bind fun plot hplot => ?_
  exact (report_ends _).bind fun _ _ => Ends.pure hplot

end Writing

/-- On a world with a setting and a protagonist a plot is written, and its developments have what is upheld. -/
theorem writePlot_upheld (hhome : p.world.home? = some home) (hcast : p.world.protagonists ≠ [])
    (h : Upheld p home P) (depth : Nat) (n : Narration) :
    ∃ plot, ((p.writePlot depth).run.run n).1 = .ok plot ∧ ∀ m ∈ plot.developments, P m := by
  obtain ⟨plot, hplot, hupholds⟩ :=
    (writePlot_upholds (I := fun _ => True) (E := fun _ => False) hhome hcast h depth n
      trivial).1.ok_of_no_error
  exact ⟨plot, hplot, hupholds.developments⟩

end SpaceOpera
