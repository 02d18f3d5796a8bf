import SpaceOpera.Proofs.Plotter.Blindness
import SpaceOpera.Proofs.Success

/-!
# Drafts

A plot that the constraints accept is looked for among drafts, each written from the context that the one before
it has left.  The search ends with the first draft that settles it (`acceptableFrom_settled`), or when there have
been as many as were asked for (`acceptableFrom_exhausted`).  What is reported on the way makes no difference to a
draft (`Drafted.uniform`), so the drafts are told by their contexts alone.
-/

namespace SpaceOpera

/-! ## Reports -/

/-- How many plots have been rejected. -/
def Narration.rejections (n : Narration) : Nat :=
  n.diagnostics.toList.countP Diagnostic.isRejection

section Reports

variable {ε α : Type} {t u : Telling ε α} {n next : Narration} {outcome : Except ε α × Context}
  {rejected : Nat}

/-- The telling comes to the outcome and leaves the context, and so many plots have been rejected on the way. -/
def Telling.ComesTo (t : Telling ε α) (n : Narration) (outcome : Except ε α × Context)
    (rejected : Nat) : Prop :=
  ∃ after, t.run.run n = (outcome.1, after) ∧ after.context = outcome.2 ∧
    after.rejections = n.rejections + rejected

theorem Telling.ComesTo.after_rejection (h : u.ComesTo next outcome rejected)
    (hrun : t.run.run n = u.run.run next) (hnext : next.rejections = n.rejections + 1) :
    t.ComesTo n outcome (rejected + 1) := by
  obtain ⟨after, hu, hcontext, hrejections⟩ := h
  exact ⟨after, hrun.trans hu, hcontext, by omega⟩

/-- From the context the telling comes to one result and leaves one context, whatever has been reported before,
and of its own reports none rejects a plot. -/
def Telling.Uniform (t : Telling ε α) (c : Context) : Prop :=
  ∃ result after, ∃ ds : List Diagnostic, (∀ d ∈ ds, d.isRejection = false) ∧
    ∀ before, t.run.run ⟨c, before⟩ = (result, ⟨after, before ++ ds⟩)

theorem Telling.Uniform.silent {c : Context} (result : Except ε α) (after : Context)
    (h : ∀ before, t.run.run ⟨c, before⟩ = (result, ⟨after, before⟩)) : t.Uniform c := by
  refine ⟨result, after, [], List.forall_mem_nil _, fun before => ?_⟩
  rw [h, Array.appendList_nil]

theorem Drafted.uniform {t : Telling PlotError α} (h : Drafted t) (c : Context) : t.Uniform c := by
  induction h generalizing c with
  | pure a => exact .silent (.ok a) c fun _ => rfl
  | given x => cases x <;> exact .silent _ c fun _ => rfl
  | @rolled _ roll => exact .silent (.ok (roll.run c).1) (roll.run c).2 fun _ => rfl
  | @narrated _ attempt => exact .silent (attempt.run.run c).1 (attempt.run.run c).2 fun _ => rfl
  | @reported ds hds => exact ⟨.ok (), c, ds, hds, fun _ => rfl⟩
  | bind _ _ ih ihf =>
    obtain ⟨result, after, ds, hds, hrun⟩ := ih c
    cases result with
    | error e => exact ⟨.error e, after, ds, hds, fun before => run_bind_error (hrun before)⟩
    | ok a =>
      obtain ⟨result, last, more, hmore, hlast⟩ := ihf a after
      refine ⟨result, last, ds ++ more, List.forall_mem_append.2 ⟨hds, hmore⟩, fun before => ?_⟩
      have hall : before ++ ds ++ more = before ++ (ds ++ more) := Array.ext' (by simp)
      rw [run_bind_ok (hrun before), hlast, hall]

end Reports

/-! ## One draft after the other -/

section Drafts

variable (p : Plotter) (depth : Nat)

/-- What a draft comes to and the context that it leaves. -/
def Plotter.draft (c : Context) : Except PlotError PlotNode × Context :=
  let (result, after) := (p.writePlot depth).run.run ⟨c, #[]⟩
  (result, after.context)

/-- The context after so many drafts, whatever they come to. -/
def Plotter.contextAfter : Nat → Context → Context
  | 0, c => c
  | k + 1, c => Plotter.contextAfter k (p.draft depth c).2

/-- The draft that is written after so many others. -/
def Plotter.draftAfter (k : Nat) (c : Context) : Except PlotError PlotNode × Context :=
  p.draft depth (p.contextAfter depth k c)

theorem writePlot_comesTo (n : Narration) :
    (p.writePlot depth).ComesTo n (p.draft depth n.context) 0 := by
  obtain ⟨result, after, ds, hds, hrun⟩ := (p.writePlot_drafted depth).uniform n.context
  have hdraft : p.draft depth n.context = (result, after) := by
    unfold Plotter.draft
    rw [hrun]
  refine ⟨⟨after, n.diagnostics ++ ds⟩, by rw [hdraft, ← hrun], by rw [hdraft], ?_⟩
  have hnone : ds.countP Diagnostic.isRejection = 0 := List.countP_eq_zero.2 fun d hd => by simp [hds d hd]
  simp [Narration.rejections, hnone]

end Drafts

/-! ## Constraints -/

namespace Constraints

variable (c : Constraints)

/-- Of each kind listed the plot has no fewer developments than the least number and no more than the greatest,
whichever pairs are listed. -/
structure Meets (plot : PlotNode) : Prop where
  enough : ∀ e ∈ c.min, e.2 ≤ plot.count e.1
  few : ∀ e ∈ c.max, plot.count e.1 ≤ e.2

instance (plot : PlotNode) : Decidable (c.Meets plot) :=
  decidable_of_iff ((∀ e ∈ c.min, e.2 ≤ plot.count e.1) ∧ ∀ e ∈ c.max, plot.count e.1 ≤ e.2)
    ⟨fun h => ⟨h.1, h.2⟩, fun h => ⟨h.enough, h.few⟩⟩

theorem violation?_eq_none_iff {plot : PlotNode} : c.violation? plot = none ↔ c.Meets plot := by
  unfold violation?
  rw [Option.or_eq_none_iff, List.findSome?_eq_none_iff, List.findSome?_eq_none_iff]
  constructor
  · rintro ⟨hmin, hmax⟩
    refine ⟨fun e he => ?_, fun e he => ?_⟩
    · simpa using hmin e he
    · simpa using hmax e he
  · rintro ⟨henough, hfew⟩
    refine ⟨fun e he => ?_, fun e he => ?_⟩
    · simpa using henough e he
    · simpa using hfew e he

/-- The search for a plot ends with what a draft comes to: a failure, or a plot that meets the constraints. -/
def Settles (result : Except PlotError PlotNode) : Prop :=
  ∀ plot, result = .ok plot → c.Meets plot

instance (result : Except PlotError PlotNode) : Decidable (c.Settles result) :=
  match result with
  | .error _ => isTrue nofun
  | .ok plot => decidable_of_iff (c.Meets plot)
    ⟨fun h _ hplot => Except.ok.inj hplot ▸ h, fun h => h plot rfl⟩

end Constraints

/-! ## The search -/

section Search

variable {p : Plotter} {c : Constraints} {depth : Nat}

/-- A draft that settles the search is what it comes to. -/
theorem acceptableFrom_of_settles (tries attempts : Nat) {n : Narration}
    (h : c.Settles (p.draft depth n.context).1) :
    (p.acceptableFrom c depth (tries + 1) attempts).ComesTo n (p.draft depth n.context) 0 := by
  obtain ⟨after, hrun, hcontext, hrejections⟩ := writePlot_comesTo p depth n
  unfold Telling.ComesTo
  rw [Plotter.acceptableFrom]
  cases hresult : (p.draft depth n.context).1 with
  | error e =>
    rw [hresult] at hrun
    exact ⟨after, run_bind_error hrun, hcontext, hrejections⟩
  | ok plot =>
    rw [hresult] at hrun
    rw [run_bind_ok hrun, c.violation?_eq_none_iff.2 (h plot hresult)]
    refine ⟨_, rfl, hcontext, ?_⟩
    simpa [Narration.rejections, Diagnostic.isRejection] using hrejections

/-- After a draft that does not settle the search, it goes on with the next one. -/
theorem acceptableFrom_of_not_settles (attempts : Nat) {n : Narration}
    (h : ¬c.Settles (p.draft depth n.context).1) :
    ∃ next : Narration, next.context = (p.draft depth n.context).2 ∧
      next.rejections = n.rejections + 1 ∧ ∀ tries,
        (p.acceptableFrom c depth (tries + 1) attempts).run.run n =
          (p.acceptableFrom c depth tries (attempts + 1)).run.run next := by
  obtain ⟨after, hrun, hcontext, hrejections⟩ := writePlot_comesTo p depth n
  unfold Constraints.Settles at h
  push Not at h
  obtain ⟨plot, hresult, hunmet⟩ := h
  obtain ⟨reason, hreason⟩ :=
    Option.ne_none_iff_exists'.1 (mt c.violation?_eq_none_iff.1 hunmet)
  rw [hresult] at hrun
  refine ⟨⟨after.context, after.diagnostics ++ [Diagnostic.plotRejected (attempts + 1) reason]⟩, hcontext,
    ?_, fun tries => ?_⟩
  · simpa [Narration.rejections, Diagnostic.isRejection] using hrejections
  · rw [Plotter.acceptableFrom, run_bind_ok hrun, hreason]
    exact run_bind_ok rfl

/-- The search comes to the first draft that settles it. -/
theorem acceptableFrom_settled {tries attempts k : Nat} {n : Narration} (hk : k < tries)
    (hsettles : c.Settles (p.draftAfter depth k n.context).1)
    (hfirst : ∀ j < k, ¬c.Settles (p.draftAfter depth j n.context).1) :
    (p.acceptableFrom c depth tries attempts).ComesTo n (p.draftAfter depth k n.context) k := by
  induction k generalizing tries attempts n with
  | zero =>
    obtain ⟨tries, rfl⟩ := Nat.exists_eq_add_one.2 hk
    exact acceptableFrom_of_settles tries attempts hsettles
  | succ k ih =>
    obtain ⟨tries, rfl⟩ := Nat.exists_eq_add_one.2 (Nat.zero_lt_of_lt hk)
    obtain ⟨next, hcontext, hnext, hrun⟩ :=
      acceptableFrom_of_not_settles (p := p) attempts (hfirst 0 (Nat.succ_pos k))
    have hlater : ∀ j, p.draftAfter depth (j + 1) n.context = p.draftAfter depth j next.context := by
      intro j
      rw [hcontext]
      rfl
    rw [hlater] at hsettles ⊢
    refine (ih (Nat.lt_of_succ_lt_succ hk) hsettles fun j hj => ?_).after_rejection (hrun tries) hnext
    rw [← hlater]
    exact hfirst (j + 1) (Nat.succ_lt_succ hj)

/-- Drafts that do not settle the search are written until there have been as many as were asked for. -/
theorem acceptableFrom_exhausted {tries : Nat} (attempts : Nat) {n : Narration}
    (h : ∀ k < tries, ¬c.Settles (p.draftAfter depth k n.context).1) :
    (p.acceptableFrom c depth tries attempts).ComesTo n
      (.error (.noAcceptablePlot (attempts + tries)), p.contextAfter depth tries n.context) tries := by
  induction tries generalizing attempts n with
  | zero => exact ⟨n, rfl, rfl, rfl⟩
  | succ tries ih =>
    obtain ⟨next, hcontext, hnext, hrun⟩ :=
      acceptableFrom_of_not_settles (p := p) attempts (h 0 (Nat.succ_pos tries))
    have hcount : attempts + (tries + 1) = attempts + 1 + tries := by omega
    have hlast : p.contextAfter depth (tries + 1) n.context = p.contextAfter depth tries next.context := by
      rw [hcontext]
      rfl
    rw [hcount, hlast]
    refine Telling.ComesTo.after_rejection (ih _ fun k hk => ?_) (hrun tries) hnext
    rw [hcontext]
    exact h (k + 1) (Nat.succ_lt_succ hk)

end Search

end SpaceOpera
