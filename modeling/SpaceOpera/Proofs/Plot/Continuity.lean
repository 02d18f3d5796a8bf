import SpaceOpera.Proofs.Plot.Normalization
import SpaceOpera.Proofs.Plot.Threads

/-!
# The normal form keeps the threads

A plot whose nodes are a run of threads is one after every pass of the normal form (`Run.normalize`).  Holes
and repetitions leave everything as it is, so they can go.  Two recoveries that change places close two
threads in the other order.  What the passes put in leaves everything as it is too; it never comes between the
nodes of a skirmish, which stays in one setting that has been seen by then.
-/

namespace SpaceOpera

variable {w : World} {a b c : Ongoing w} {m n last : PlotNode} {ns ms : List PlotNode}

/-! ## Holes and repetitions -/

theorem Turn.eq_of_isHole (h : Turn a n b) (hn : n.isHole = true) : b = a := by
  obtain ⟨k, attributes, cs⟩ := n
  cases k with
  | hole rules => exact (h.of_hole rfl).1
  | sequence | development => cases hn

theorem Turn.eq_of_isTension (h : Turn a n b) (hn : n.isTension = true) : b = a := by
  unfold Node.isTension at hn
  cases hd : n.development? with
  | none =>
    rw [hd] at hn
    cases hn
  | some d =>
    rw [hd, Option.any_some, Development.collapses, decide_eq_true_eq] at hn
    subst hn
    exact (h.of_move hd).1

theorem Run.filter_isHole (h : Run a ns c) : Run a (ns.filter (!·.isHole)) c := by
  induction h with
  | nil => exact .nil
  | @cons a b c n ns hn _ ih =>
    cases hhole : n.isHole with
    | true =>
      obtain rfl := hn.eq_of_isHole hhole
      rw [List.filter_cons_of_neg (by simp [hhole])]
      exact ih
    | false =>
      rw [List.filter_cons_of_pos (by simp [hhole])]
      exact .cons hn ih

theorem Run.collapseAfter (h : Run a ns c) (last : PlotNode) :
    Run a (collapseAfter last ns) c := by
  induction h generalizing last with
  | nil => exact .nil
  | @cons a b c n ns hn _ ih =>
    rw [SpaceOpera.collapseAfter]
    split
    · rename_i hrepeats
      obtain rfl := hn.eq_of_isTension (isTension_of_isRepetition hrepeats).2
      exact ih last
    · exact .cons hn (ih n)

theorem Run.collapse (h : Run a ns c) : Run a (collapse ns) c := by
  cases h with
  | nil => exact .nil
  | cons hn hns => exact .cons hn (hns.collapseAfter _)

/-! ## Commutation -/

theorem Turn.of_isRecovery (h : Turn a n b) (hn : n.isRecovery = true) :
    a.fight = none ∧ b.fight = none ∧ ∃ s : Strand w, n = s.closer ∧
      a.strands.Perm (s :: b.strands) := by
  unfold Node.isRecovery at hn
  cases hd : n.development? with
  | none =>
    rw [hd] at hn
    cases hn
  | some d =>
    have hstep := h.of_move hd
    rw [hd, Option.any_some, Development.isCommutable, Bool.or_eq_true, decide_eq_true_eq,
      decide_eq_true_eq] at hn
    rcases hn with rfl | rfl
    · obtain ⟨ha, hb, s, -, hs, hperm⟩ := hstep
      exact ⟨ha, hb, s, hs, hperm⟩
    · obtain ⟨ha, hb, s, -, hs, hperm⟩ := hstep
      exact ⟨ha, hb, s, hs, hperm⟩

/-- Two threads may be closed in either order. -/
theorem Run.swap (hm : m.isRecovery = true) (hn : n.isRecovery = true)
    (h : Run a (m :: n :: ns) c) : Run a (n :: m :: ns) c := by
  obtain ⟨ss, _⟩ := a
  cases h with
  | @cons _ b _ _ _ hstep h =>
    cases h with
    | @cons _ b' _ _ _ hstep' h =>
      obtain ⟨ts, _⟩ := b
      obtain ⟨us, _⟩ := b'
      obtain ⟨rfl, rfl, s, rfl, hs⟩ := hstep.of_isRecovery hm
      obtain ⟨-, rfl, r, rfl, hr⟩ := hstep'.of_isRecovery hn
      have hboth : ss.Perm (r :: s :: us) := (hs.trans (hr.cons s)).trans (.swap r s us)
      exact .cons (.closes r hboth) (.cons (.closes s (.refl _)) h)

theorem Run.commuteFrom {held : PlotNode} (h : Run a (held :: ns) c) :
    Run a (commuteFrom held ns) c := by
  induction ns generalizing a held with
  | nil => exact h
  | cons n ns ih =>
    rw [SpaceOpera.commuteFrom]
    split
    · rename_i hcommutes
      obtain ⟨hheld, hn⟩ := isRecovery_of_commutes hcommutes
      cases h.swap hheld hn with
      | cons hfirst hrest => exact .cons hfirst (ih hrest)
    · cases h with
      | cons hfirst hrest => exact .cons hfirst (ih hrest)

theorem Run.commuteList (h : Run a ns c) : Run a (commuteList ns) c := by
  cases ns with
  | nil => exact h
  | cons n ns => exact h.commuteFrom

/-! ## Journeys -/

/-- A node of a skirmish is where the skirmish began. -/
theorem Turn.setting_before (h : Turn a n b) (ha : a.fight = some m) :
    n.setting? = m.setting? := by
  cases h with
  | fights h =>
    cases ha
    exact h.setting
  | parts h =>
    cases ha
    exact h.setting
  | opens | closes | meets | passes => cases ha

theorem Turn.setting_after (h : Turn a n b) (hb : b.fight = some m) : n.setting? = m.setting? := by
  cases h with
  | meets h =>
    cases hb
    rfl
  | fights h =>
    cases hb
    exact h.setting
  | opens | closes | parts | passes => cases hb

theorem Run.journeyBetween {js : List PlotNode} (h : Turn a n b)
    (hlast : ∀ m, a.fight = some m → last.setting? = m.setting?)
    (hjs : journeyBetween last n = .ok js) : Run a js a := by
  unfold SpaceOpera.journeyBetween at hjs
  split at hjs
  · cases hjs
    exact .nil
  split at hjs
  · rename_i here there hhere hthere
    split at hjs
    · cases hjs
      exact .nil
    · rename_i hfar
      obtain ⟨ss, fight⟩ := a
      cases fight with
      | some m =>
        -- In a skirmish nobody has travelled.
        have hsame : some here = some there := by
          rw [← hhere, ← hthere, hlast m rfl, h.setting_before rfl]
        cases hsame
        exact absurd BEq.rfl hfar
      | none =>
        obtain ⟨party, -, hjs⟩ := bind_eq_ok.1 hjs
        cases hjs
        exact .cons (.passes (.of_development ⟨rfl, rfl⟩ rfl rfl (by decide))) .nil
  · cases hjs
    exact .nil

theorem Run.travelAfter (h : Run a ns c)
    (hlast : ∀ m, a.fight = some m → last.setting? = m.setting?)
    (hms : travelAfter last ns = .ok ms) : Run a ms c := by
  induction h generalizing last ms with
  | nil =>
    cases hms
    exact .nil
  | @cons a b c n ns hn hns ih =>
    rw [SpaceOpera.travelAfter] at hms
    obtain ⟨js, hjs, hms⟩ := bind_eq_ok.1 hms
    obtain ⟨rest, hrest, hms⟩ := bind_eq_ok.1 hms
    cases hms
    have hnext : Run b rest c := ih (fun m hm => hn.setting_after hm) hrest
    exact (Run.journeyBetween hn hlast hjs).append (.cons hn hnext)

theorem Run.insertJourneys {plot : PlotNode} {ss : List (Strand w)} (h : Run ⟨ss, none⟩ ns c)
    (hplot : insertJourneys (PlotNode.sequence ns) = .ok plot) :
    ∃ ms, plot = PlotNode.sequence ms ∧ Run ⟨ss, none⟩ ms c := by
  unfold SpaceOpera.insertJourneys at hplot
  cases h with
  | nil =>
    cases hplot
    exact ⟨[], rfl, .nil⟩
  | @cons _ b _ n ns hn hns =>
    change (SpaceOpera.travelAfter n ns >>= _) = _ at hplot
    obtain ⟨ms, hms, hplot⟩ := bind_eq_ok.1 hplot
    cases hplot
    exact ⟨n :: ms, rfl, .cons hn (hns.travelAfter (fun m hm => hn.setting_after hm) hms)⟩

/-! ## Arrivals -/

/-- An arrival is left out only where the setting has been seen, as long as someone is there. -/
theorem seen_of_arrival_eq_none {protagonists : List Object} {s : Object} {it : Itinerary}
    (h : arrival protagonists s it = none) (hthere : availableOf protagonists it.unavailable ≠ []) :
    it.seen.contains s = true := by
  by_contra hseen
  unfold arrival at h
  rw [if_neg hseen, Option.map_eq_none_iff, Group.ofList?_eq_none_iff] at h
  exact hthere h

theorem Run.arrive {it : Itinerary} (h : Run a ns c) (ha : Feasible a.strands)
    (ht : Tracks a.strands it.unavailable)
    (hseen : ∀ m s, a.fight = some m → m.setting? = some s → it.seen.contains s = true)
    (hms : arrive w.protagonists it ns = .ok ms) : Run a ms c := by
  induction h generalizing it ms with
  | nil =>
    cases hms
    exact .nil
  | @cons a b c n ns hn hns ih =>
    obtain ⟨next, hnext, ht'⟩ := hn.track ha ht
    have hb := hn.feasible ha
    rw [SpaceOpera.arrive, hnext, ok_bind] at hms
    dsimp only at hms
    split at hms
    · -- Somebody arrives before the node, so the setting is new and there is no skirmish.
      rename_i s n' hfound
      obtain ⟨s', hs, hfound⟩ := Option.bind_eq_some_iff.1 hfound
      obtain ⟨n'', harrival, hsame⟩ := Option.map_eq_some_iff.1 hfound
      cases hsame
      obtain ⟨hnew, party, -, rfl⟩ := arrival_eq_some harrival
      obtain ⟨rest, hrest, hms⟩ := bind_eq_ok.1 hms
      cases hms
      have hafter : Run b rest c := by
        refine ih hb ht' (fun m s' hm hs' => ?_) hrest
        rw [← hn.setting_after hm, hs] at hs'
        cases hs'
        exact Roster.contains_insert_self _ _
      obtain ⟨ss, fight⟩ := a
      cases fight with
      | some m =>
        rw [hn.setting_before rfl] at hs
        cases hnew.symm.trans (hseen m s rfl hs)
      | none =>
        refine .cons (.passes (.of_development ⟨rfl, rfl⟩ rfl rfl (by decide))) ?_
        exact .cons hn hafter
    · rename_i hfound
      obtain ⟨rest, hrest, hms⟩ := bind_eq_ok.1 hms
      cases hms
      refine .cons hn (ih hb ht' (fun m s hm hs => ?_) hrest)
      have hsetting : n.setting? = some s := (hn.setting_after hm).trans hs
      rw [hsetting, Option.bind_some, Option.map_eq_none_iff] at hfound
      exact seen_of_arrival_eq_none hfound (ht'.available hb)

/-! ## Lost items -/

/-- An item is shown or recalled only behind a development that leaves everything as it is. -/
theorem itemScene_eq_some {item holder : Object} {s : PlotNode} {recalled : Bool}
    (h : itemScene item holder n recalled = some s) :
    (∃ d, n.development? = some d ∧ d.move = .passes) ∧
      ∀ ss : List (Strand w), Passes ss s := by
  obtain ⟨d, _, _, hd, -, -, rfl⟩ := itemScene_eq_some_iff.1 h
  rcases followUp?_eq_some hd with ⟨hn, rfl⟩ | ⟨hn, rfl⟩
  · exact ⟨⟨_, hn, rfl⟩, fun ss => .of_development ⟨rfl, rfl⟩ rfl rfl (by decide)⟩
  · exact ⟨⟨_, hn, rfl⟩, fun ss => .of_development ⟨rfl, rfl⟩ rfl rfl (by decide)⟩

theorem Run.foreshadowItem (h : Run a ns c) (item holder : Object) (recalled : Bool) :
    Run a (foreshadowItem item holder recalled ns).1 c := by
  induction h generalizing recalled with
  | nil => exact .nil
  | @cons a b c n ns hn _ ih =>
    rw [SpaceOpera.foreshadowItem]
    split
    · rename_i s hs
      obtain ⟨⟨d, hd, hmove⟩, hpasses⟩ := itemScene_eq_some (w := w) hs
      have hstep := hn.of_move hd
      rw [hmove] at hstep
      obtain ⟨rfl, hfight, -⟩ := hstep
      obtain ⟨ss, _⟩ := b
      obtain rfl := hfight
      exact .cons hn (.cons (.passes (hpasses ss)) (ih _))
    · exact .cons hn (ih recalled)

/-! ## All together -/

/-- The normal form of a run is a run. -/
theorem Run.normalize {plot : PlotNode} (h : Run (w := w) {} ns c) (hs : ∀ n ∈ ns, Staged n)
    (hw : w.protagonists ≠ []) (hplot : normalize w (PlotNode.sequence ns) = .ok plot) :
    ∃ ms, plot = PlotNode.sequence ms ∧ Run (w := w) {} ms c := by
  have hordered : Run (w := w) {} (ordered ns) c := h.filter_isHole.collapse.commuteList
  obtain ⟨home, ks, ls, -, hjourneys, harrivals, rfl⟩ := normalize_eq_ok hs hplot
  obtain ⟨_, hks, hrun⟩ := hordered.insertJourneys hjourneys
  cases hks
  refine foreshadowItems_induction (P := fun ms => Run (w := w) {} ms c) ?_
    fun _ _ _ _ hrun => hrun.foreshadowItem _ _ _
  exact hrun.arrive (.nil hw) .nil (by rintro m s ⟨⟩) harrivals

end SpaceOpera
