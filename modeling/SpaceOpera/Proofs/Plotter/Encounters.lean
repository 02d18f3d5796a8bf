import SpaceOpera.Proofs.Plotter.Journeys

/-!
# Every new setting is seen once

In a written plot, whatever names the objects of the world share, each setting other than home is told of as new
exactly once, before anything else happens there (`writePlot_encounters`).  An arrival is left out while nobody
is there to see it, but somebody always is: whoever is taken away, or whatever item of the same name, leaves
someone behind (`Chosen.present_insert`), so someone is there in front of every node and behind it (`Manned`).
-/

namespace SpaceOpera

/-! ## Somebody is there -/

/-- One of the protagonists is there in front of the node, and one behind it. -/
structure Manned (protagonists : List Object) (away : Roster) (n : PlotNode) : Prop where
  before : availableOf protagonists away ≠ []
  behind : ∀ after, n.track away = .ok after → availableOf protagonists after ≠ []

section Manning

variable {p : Plotter} {w : World} {protagonists : List Object} {away after : Roster}
  {home : Object} {cast : Group} {held n : PlotNode} {cs ms ns : List PlotNode}

theorem available_erase (h : availableOf protagonists away ≠ []) (x : Object) :
    availableOf protagonists (away.erase x) ≠ [] := by
  obtain ⟨o, ho⟩ := List.exists_mem_of_ne_nil _ h
  obtain ⟨hmem, hthere⟩ := mem_availableOf.1 ho
  refine List.ne_nil_of_mem (mem_availableOf.2 ⟨hmem, ?_⟩)
  rw [Roster.contains_erase, hthere, Bool.and_false]

theorem Along.manned (ht : n.track away = .ok after) (hbefore : availableOf protagonists away ≠ [])
    (hbehind : availableOf protagonists after ≠ []) (h : Along (Manned protagonists) after ns) :
    Along (Manned protagonists) away (n :: ns) := by
  refine .cons ⟨hbefore, fun after' ht' => ?_⟩ ht h
  cases ht.symm.trans ht'
  exact hbehind

/-- Nodes without markers leave those who are there there. -/
theorem Along.manned_of_unmarked (hthere : availableOf protagonists away ≠ [])
    (hns : ∀ n ∈ ns, n.Unmarked) : Along (Manned protagonists) away ns := by
  induction ns with
  | nil => trivial
  | cons n ns ih =>
    obtain ⟨hn, hns⟩ := List.forall_mem_cons.1 hns
    exact .manned hn.track hthere hthere (ih hns)

/-- Whoever or whatever a subplot takes away, somebody is there throughout. -/
theorem Bracketed.manned (h : Bracketed w away cs) (hthere : w.present away ≠ []) :
    Along (Manned w.protagonists) away cs := by
  cases h with
  | unmarked h => exact .manned_of_unmarked hthere h
  | @scope o _ _ _ _ hn ho hinner hm hns hleft =>
    have hback := available_erase hleft o
    refine .manned hn.track hthere hleft ?_
    refine Along.append (Nested.of_unmarked hinner).replay (.manned_of_unmarked hleft hinner) ?_
    exact .manned (hm.track (Roster.contains_insert_self _ _)) hleft hback
      (.manned_of_unmarked hback hns)

theorem Expanded.there (h : Expanded p home cast ms) : availableOf p.world.protagonists {} ≠ [] := by
  rw [availableOf_empty, ← h.cast_eq]
  exact cast.nonempty

theorem Expanded.manned (h : Expanded p home cast ms) :
    Along (Manned p.world.protagonists) {} ms := by
  refine h.invariant (P := Along (Manned p.world.protagonists) {}) ?_ fun _ _ hns hks =>
    hns.grown (fun away hole cs hhole hcs => ?_) hks
  · refine .manned_of_unmarked h.there ?_
    simp only [seedNodes, List.forall_mem_cons, List.not_mem_nil, false_implies, implies_true,
      and_true]
    exact ⟨⟨rfl, rfl⟩, ⟨rfl, rfl⟩, ⟨rfl, rfl⟩, ⟨rfl, rfl⟩⟩
  · obtain ⟨_, _, _, -, -, -, -, ha, hcs⟩ := hcs
    exact (hcs.bracketed ha).manned hhole.before

/-- Of two recoveries that change places neither takes anybody away. -/
theorem Along.manned_commuteFrom (hs : ∀ n ∈ held :: ns, Staged n)
    (h : Along (Manned protagonists) away (held :: ns)) :
    Along (Manned protagonists) away (commuteFrom held ns) := by
  induction ns generalizing held away with
  | nil => exact h
  | cons n ns ih =>
    obtain ⟨hheld, hrest⟩ := List.forall_mem_cons.1 hs
    obtain ⟨hn, hns⟩ := List.forall_mem_cons.1 hrest
    obtain ⟨hmanned, u, hu, hafter⟩ := h
    rw [commuteFrom]
    split
    · rename_i hcommutes
      obtain ⟨hrheld, hrn⟩ := isRecovery_of_commutes hcommutes
      obtain ⟨o, ho⟩ := hheld.closes hrheld
      obtain ⟨x, hx⟩ := hn.closes hrn
      obtain ⟨hbehind, v, hv, hlast⟩ := hafter
      obtain ⟨hfirst, hsecond⟩ := ho.swap hx hu hv
      have hleft := available_erase hmanned.before x
      refine .manned hfirst hmanned.before hleft ?_
      refine ih (List.forall_mem_cons.2 ⟨hheld, hns⟩) ?_
      exact .manned hsecond hleft (hbehind.behind v hv) hlast
    · exact .cons hmanned hu (ih hrest hafter)

theorem Along.manned_padded {ds : List Development}
    (hthere : availableOf protagonists away ≠ []) (h : Along (Manned protagonists) away ns)
    (hp : Padded Eq (Added ds) ns ms) : Along (Manned protagonists) away ms := by
  induction hp generalizing away with
  | nil => trivial
  | keep hab _ ih =>
    subst hab
    obtain ⟨hn, next, ht, hns⟩ := h
    exact .cons hn ht (ih (hn.behind next ht) hns)
  | put hq _ ih => exact .manned hq.unmarked.track hthere hthere (ih hthere h)

end Manning

/-! ## Settings not seen before -/

/-- The node is in the setting. -/
def Node.IsIn (n : PlotNode) (s : Object) : Prop :=
  ∃ t, n.setting? = some t ∧ (t == s) = true

/-- Every node is in a setting that has been seen, unless it is an arrival there. -/
inductive Heralded : Roster → List PlotNode → Prop
  | nil {seen : Roster} : Heralded seen []
  | known {seen : Roster} {s : Object} {n : PlotNode} {ns : List PlotNode} (hn : ¬n.IsArrival)
      (hs : n.setting? = some s) (hseen : seen.contains s = true) (h : Heralded seen ns) :
      Heralded seen (n :: ns)
  | arrival {seen : Roster} {s : Object} {n : PlotNode} {ns : List PlotNode} (hn : n.IsArrival)
      (hs : n.setting? = some s) (hnew : seen.contains s = false)
      (h : Heralded (seen.insert s) ns) : Heralded seen (n :: ns)

section Heralds

variable {protagonists : List Object} {seen away : Roster} {s : Object} {m n : PlotNode}
  {ns ms : List PlotNode}

/-- As long as somebody is there, the first to be put into a new setting is an arrival. -/
theorem heralded_of_arrive (h : Along (Manned protagonists) away ns)
    (hs : ∀ n ∈ ns, n.setting?.isSome = true) (hnone : ∀ n ∈ ns, ¬n.IsArrival)
    (hms : arrive protagonists ⟨seen, away⟩ ns = .ok ms) : Heralded seen ms := by
  induction ns generalizing seen away ms with
  | nil =>
    cases hms
    exact .nil
  | cons n ns ih =>
    obtain ⟨hmanned, next, ht, h⟩ := h
    obtain ⟨hn, hs⟩ := List.forall_mem_cons.1 hs
    obtain ⟨hnot, hnone⟩ := List.forall_mem_cons.1 hnone
    obtain ⟨s, hn⟩ := Option.isSome_iff_exists.1 hn
    rw [arrive, ht, ok_bind, hn] at hms
    dsimp only at hms
    split at hms
    · rename_i s' a hfound
      obtain ⟨a', harrival, hpair⟩ := Option.map_eq_some_iff.1 hfound
      cases hpair
      obtain ⟨rest, hrest, hms⟩ := bind_eq_ok.1 hms
      cases hms
      obtain ⟨hnew, party, -, rfl⟩ := arrival_eq_some harrival
      refine .arrival rfl rfl hnew (.known hnot hn (Roster.contains_insert_self _ _) ?_)
      exact ih h hs hnone hrest
    · rename_i hfound
      obtain ⟨rest, hrest, hms⟩ := bind_eq_ok.1 hms
      cases hms
      rw [Option.bind_some, Option.map_eq_none_iff] at hfound
      have hseen := seen_of_arrival_eq_none hfound (hmanned.behind next ht)
      exact .known hnot hn hseen (ih h hs hnone hrest)

namespace Heralded

theorem foreshadowItem (h : Heralded seen ns) (item holder : Object) (recalled : Bool) :
    Heralded seen (foreshadowItem item holder recalled ns).1 := by
  induction h generalizing recalled with
  | nil => exact .nil
  | known hn hs hseen _ ih =>
    rw [SpaceOpera.foreshadowItem]
    split
    · rename_i scene hscene
      obtain ⟨-, hplace, -⟩ := itemScene_place hscene
      have hnot := (itemScene_added hscene).not_arrival (by decide)
      exact .known hn hs hseen (.known hnot (hplace.trans hs) hseen (ih _))
    · exact .known hn hs hseen (ih _)
  | @arrival _ _ n _ hn hs hnew _ ih =>
    have hnone : itemScene item holder n recalled = none := by
      unfold itemScene followUp?
      rw [hn]
      rfl
    rw [SpaceOpera.foreshadowItem, hnone]
    exact .arrival hn hs hnew (ih _)

/-- Nobody arrives where they have been. -/
theorem unseen (h : Heralded seen ns) (hs : seen.contains s = true) :
    ∀ n ∈ ns, n.IsIn s → ¬n.IsArrival := by
  induction h with
  | nil => exact fun _ hn => absurd hn List.not_mem_nil
  | known hn _ _ _ ih => exact List.forall_mem_cons.2 ⟨fun _ => hn, ih hs⟩
  | arrival _ hplace hnew _ ih =>
    refine List.forall_mem_cons.2 ⟨?_, ih (by rw [Roster.contains_insert, hs, Bool.or_true])⟩
    rintro ⟨t, ht, hts⟩
    cases hplace.symm.trans ht
    rw [Roster.contains_congr _ hts, hs] at hnew
    cases hnew

/-- Where something happens in a setting that was not seen before, it begins with an arrival, and no other one
follows. -/
theorem announced (h : Heralded seen ns) (hm : m ∈ ns) (hs : m.IsIn s)
    (hnew : seen.contains s = false) :
    ∃ pre a post, ns = pre ++ a :: post ∧ a.IsArrival ∧ a.IsIn s ∧ (∀ k ∈ pre, ¬k.IsIn s) ∧
      ∀ k ∈ post, k.IsIn s → ¬k.IsArrival := by
  have hin : ∀ {n : PlotNode} {t : Object}, n.setting? = some t → n.IsIn s → (t == s) = true := by
    rintro n t hplace ⟨t', ht', hts⟩
    cases hplace.symm.trans ht'
    exact hts
  induction h with
  | nil => exact absurd hm List.not_mem_nil
  | @known _ t n ns _ hplace hseen _ ih =>
    have hother : ¬n.IsIn s := by
      intro hn
      rw [Roster.contains_congr _ (hin hplace hn), hnew] at hseen
      cases hseen
    rcases List.mem_cons.1 hm with rfl | hm
    · exact absurd hs hother
    · obtain ⟨pre, a, post, rfl, harrival, ha, hpre, hpost⟩ := ih hm hnew
      exact ⟨n :: pre, a, post, rfl, harrival, ha, List.forall_mem_cons.2 ⟨hother, hpre⟩, hpost⟩
  | @arrival seen t n ns harrival hplace _ h ih =>
    cases hts : t == s with
    | true =>
      refine ⟨[], n, ns, rfl, harrival, ⟨t, hplace, hts⟩, by simp, h.unseen ?_⟩
      rw [Roster.contains_insert, BEq.comm, hts]
      rfl
    | false =>
      have hother : ¬n.IsIn s := fun hn => absurd (hts.symm.trans (hin hplace hn)) Bool.false_ne_true
      rcases List.mem_cons.1 hm with rfl | hm
      · exact absurd hs hother
      · have hnew : (seen.insert t).contains s = false := by
          rw [Roster.contains_insert, BEq.comm, hts, hnew]
          rfl
        obtain ⟨pre, a, post, rfl, ha, hplace, hpre, hpost⟩ := ih hm hnew
        exact ⟨n :: pre, a, post, rfl, ha, hplace, List.forall_mem_cons.2 ⟨hother, hpre⟩, hpost⟩

end Heralded

end Heralds

/-! ## Written plots -/

theorem Expanded.heralded {p : Plotter} {home : Object} {cast : Group} {ms ks : List PlotNode}
    (h : Expanded p home cast ms)
    (hnormal : normalize p.world (PlotNode.sequence ms) = .ok (PlotNode.sequence ks)) :
    Heralded (Roster.ofList [home]) ks := by
  obtain ⟨start, ls, rs, hstart, hjourneys, harrivals, hks⟩ := normalize_eq_ok h.staged hnormal
  cases h.home_eq.symm.trans hstart
  have hrounded := h.rounded
  have hordered : Along (Manned p.world.protagonists) {} (ordered ms) := by
    have hcollapsed := h.manned.collapse h.staged
    have hstaged := staged_collapse h.staged
    unfold ordered
    cases hns : collapse (ms.filter (!·.isHole)) with
    | nil => trivial
    | cons n ns =>
      rw [hns] at hcollapsed hstaged
      exact hcollapsed.manned_commuteFrom hstaged
  have hjourneyed : Padded Eq (Added [.journey]) (ordered ms) ls :=
    padded_insertJourneys hjourneys
  have hs : ∀ l ∈ ls, l.setting?.isSome = true ∧ ¬l.IsArrival := by
    intro l hl
    rcases hjourneyed.mem hl with ⟨n, hn, rfl⟩ | hadded
    · exact ⟨(hrounded.staged n hn).setting, h.not_arrival n (mem_of_mem_ordered hn).1⟩
    · exact ⟨hadded.staged.setting, hadded.not_arrival (by decide)⟩
  have hheralded : Heralded (Roster.ofList [home]) rs := by
    refine heralded_of_arrive (hordered.manned_padded h.there hjourneyed)
      (fun l hl => (hs l hl).1) (fun l hl => (hs l hl).2) harrivals
  obtain ⟨_, hscenes, hheralded⟩ := foreshadowItems_induction hheralded
    fun item holder recalled _ hns => hns.foreshadowItem item holder recalled
  cases hks.trans hscenes
  exact hheralded

/-- In a written plot every setting other than home at which anything happens is told of as new exactly once, and
before anything else happens there; home never is. -/
theorem writePlot_encounters (p : Plotter) (hsettings : p.world.settings ≠ [])
    (hcast : p.world.protagonists ≠ []) (depth : Nat) (n : Narration) :
    ∃ plot home, ((p.writePlot depth).run.run n).1 = .ok plot ∧ p.world.home? = some home ∧
      (∀ m ∈ plot.developments, m.IsArrival → ¬m.IsIn home) ∧
      ∀ m ∈ plot.developments, ∀ s, m.IsIn s → (s == home) = false →
        ∃ pre a post, plot.developments = pre ++ a :: post ∧ a.IsArrival ∧ a.IsIn s ∧
          (∀ k ∈ pre, ¬k.IsIn s) ∧ ∀ k ∈ post, k.IsIn s → ¬k.IsArrival := by
  have hnever : ∀ e, p.seedPlot = .error e → False := seedPlot_ne_error hsettings hcast
  obtain ⟨plot, hplot, home, _, ms, ks, hms, hnormal, rfl, hrounded, -⟩ :=
    (writePlot_ends (I := fun _ => True) hnever depth n trivial).1.ok_of_no_error
  have hheralded := hms.heralded hnormal
  have hseen : ∀ s, (Roster.ofList [home]).contains s = (s == home) := by
    intro s
    rw [Roster.contains_ofList, List.any_cons, List.any_nil, Bool.or_false]
  refine ⟨_, home, hplot, hms.home_eq, ?_, ?_⟩
  all_goals rw [hrounded.developments_eq]
  · exact fun m hm harrival hin => hheralded.unseen ((hseen home).trans BEq.rfl) m hm hin harrival
  · exact fun m hm s hin hs => hheralded.announced hm hin ((hseen s).trans hs)

/-- Two rounds among namesakes. -/
theorem writePlot_encounters_namesakes :
    namesakes.settings ≠ [] ∧ namesakes.protagonists ≠ [] ∧ ∃ plot home,
      (((⟨namesakes, []⟩ : Plotter).writePlot 2).run.run ⟨.ofSeed 7, #[]⟩).1 = .ok plot ∧
      namesakes.home? = some home ∧
      (∀ m ∈ plot.developments, m.IsArrival → ¬m.IsIn home) ∧
      ∀ m ∈ plot.developments, ∀ s, m.IsIn s → (s == home) = false →
        ∃ pre a post, plot.developments = pre ++ a :: post ∧ a.IsArrival ∧ a.IsIn s ∧
          (∀ k ∈ pre, ¬k.IsIn s) ∧ ∀ k ∈ post, k.IsIn s → ¬k.IsArrival := by
  have hsettings : namesakes.settings ≠ [] := List.cons_ne_nil _ _
  have hcast : namesakes.protagonists ≠ [] := List.cons_ne_nil _ _
  exact ⟨hsettings, hcast, writePlot_encounters ⟨namesakes, []⟩ hsettings hcast 2 ⟨.ofSeed 7, #[]⟩⟩

end SpaceOpera
