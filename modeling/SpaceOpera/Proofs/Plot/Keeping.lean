import SpaceOpera.Proofs.Plot.Normalization

/-!
# What the normal form keeps

The passes of the normal form put nodes in beside those that are there: journeys, arrivals, and the scenes of
lost items.  A property of single nodes is `Kept` if each of these has it wherever the nodes that gave rise to it
have it.  Then it holds throughout the normal form of nodes that have it (`Kept.normalize`).
-/

namespace SpaceOpera

open PlotNode (ofDevelopment)

/-- The object is in the role where a node with the property is of a loss. -/
def InLoss (P : PlotNode → Prop) (r : Role) (o : Object) : Prop :=
  ∃ n, P n ∧ n.development? = some .loseItem ∧ n.objectIn r = some o

/-- A node with the property loses the item, and one with the property is of the holder losing something. -/
structure Lost (P : PlotNode → Prop) (item holder : Object) : Prop where
  item : InLoss P .object item
  holder : InLoss P .subject holder

/-- Whatever the passes of the normal form put in beside nodes with the property has it too. -/
structure Kept (w : World) (home : Object) (P : PlotNode → Prop) : Prop where
  journey {last next : PlotNode} {here there : Object} (party : Group) (hlast : P last) (hnext : P next)
    (hhere : last.setting? = some here) (hthere : next.setting? = some there)
    (hway : (here == there) = false) :
    P (((ofDevelopment .journey here).set .subject (.group party)).set .object (.object there))
  arrival {n : PlotNode} {here : Object} {party : Group} (hn : P n) (hhere : n.setting? = some here)
    (hnew : (here == home) = false) (hparty : ∀ o ∈ party.members, o ∈ w.protagonists) :
    P ((ofDevelopment .encounterNewSetting here).set .subject (.group party))
  scene {n : PlotNode} {here item holder : Object} {recalled : Bool} {d : Development} {others : Group}
    (hn : P n) (hlost : Lost P item holder) (hd : followUp? n recalled = some d)
    (hhere : n.setting? = some here) (hothers : ∀ o ∈ others.members, o ∈ n.membersOf .subject) :
    P ((((ofDevelopment d here).set .subject (.object holder)).set .object (.object item)).set
      .bystanders (.group others))

section Passes

variable {w : World} {home : Object} {P : PlotNode → Prop} {last : PlotNode} {ns ms : List PlotNode}

theorem Kept.travelAfter (h : Kept w home P) (hlast : P last) (hns : ∀ n ∈ ns, P n)
    (hms : travelAfter last ns = .ok ms) : ∀ m ∈ ms, P m := by
  induction ns generalizing last ms with
  | nil =>
    cases hms
    exact hns
  | cons n ns ih =>
    obtain ⟨hn, hns⟩ := List.forall_mem_cons.1 hns
    rw [SpaceOpera.travelAfter] at hms
    obtain ⟨js, hjs, hms⟩ := bind_eq_ok.1 hms
    obtain ⟨rest, hrest, hms⟩ := bind_eq_ok.1 hms
    cases hms
    refine List.forall_mem_append.2 ⟨?_, List.forall_mem_cons.2 ⟨hn, ih hn hns hrest⟩⟩
    rcases journeyBetween_eq_ok hjs with ⟨rfl, -⟩ | ⟨here, there, hhere, hthere, hway, party, -, rfl⟩
    · exact List.forall_mem_nil _
    · exact List.forall_mem_singleton.2 (h.journey party hlast hn hhere hthere hway)

theorem Kept.insertJourneys (h : Kept w home P) (hns : ∀ n ∈ ns, P n)
    (hms : insertJourneys (PlotNode.sequence ns) = .ok (PlotNode.sequence ms)) : ∀ m ∈ ms, P m := by
  cases ns with
  | nil =>
    cases hms
    exact hns
  | cons n ns =>
    obtain ⟨hn, hns⟩ := List.forall_mem_cons.1 hns
    obtain ⟨rest, hrest, hms⟩ := bind_eq_ok.1 hms
    cases hms
    exact List.forall_mem_cons.2 ⟨hn, h.travelAfter hn hns hrest⟩

/-- On an itinerary that starts at home. -/
theorem Kept.arrive (h : Kept w home P) {it : Itinerary} (hseen : it.seen.contains home = true)
    (hns : ∀ n ∈ ns, P n) (hms : arrive w.protagonists it ns = .ok ms) : ∀ m ∈ ms, P m := by
  induction ns generalizing it ms with
  | nil =>
    cases hms
    exact hns
  | cons n ns ih =>
    obtain ⟨hn, hns⟩ := List.forall_mem_cons.1 hns
    rw [SpaceOpera.arrive] at hms
    obtain ⟨next, -, hms⟩ := bind_eq_ok.1 hms
    dsimp only at hms
    split at hms
    · rename_i s a hfound
      obtain ⟨s', hs, hfound⟩ := Option.bind_eq_some_iff.1 hfound
      obtain ⟨a', harrival, hsame⟩ := Option.map_eq_some_iff.1 hfound
      cases hsame
      obtain ⟨hunseen, party, hparty, rfl⟩ := arrival_eq_some harrival
      obtain ⟨rest, hrest, hms⟩ := bind_eq_ok.1 hms
      cases hms
      have hnew : (s == home) = false := by
        cases hhome : s == home with
        | false => rfl
        | true =>
          rw [Roster.contains_congr _ hhome] at hunseen
          exact hseen.symm.trans hunseen
      refine List.forall_mem_cons.2 ⟨h.arrival hn hs hnew fun o ho => ?_, ?_⟩
      · rw [hparty] at ho
        exact (mem_availableOf.1 ho).1
      · refine List.forall_mem_cons.2 ⟨hn, ih ?_ hns hrest⟩
        rw [Roster.contains_insert, hseen, Bool.or_true]
    · obtain ⟨rest, hrest, hms⟩ := bind_eq_ok.1 hms
      cases hms
      refine List.forall_mem_cons.2 ⟨hn, ih ?_ hns hrest⟩
      exact hseen

theorem Kept.foreshadowItem (h : Kept w home P) {item holder : Object} (hlost : Lost P item holder)
    (recalled : Bool) (hns : ∀ n ∈ ns, P n) :
    ∀ m ∈ (foreshadowItem item holder recalled ns).1, P m := by
  induction ns generalizing recalled with
  | nil => exact hns
  | cons n ns ih =>
    obtain ⟨hn, hns⟩ := List.forall_mem_cons.1 hns
    rw [SpaceOpera.foreshadowItem]
    split
    · rename_i s hs
      refine List.forall_mem_cons.2 ⟨hn, List.forall_mem_cons.2 ⟨?_, ih _ hns⟩⟩
      obtain ⟨d, here, others, hd, hhere, hothers, rfl⟩ := itemScene_eq_some_iff.1 hs
      refine h.scene hn hlost hd hhere fun o ho => ?_
      rw [Group.members_of_ofList? hothers] at ho
      exact (mem_without.1 ho).1
    · exact List.forall_mem_cons.2 ⟨hn, ih _ hns⟩

theorem forall_mem_insertEntry {β : Type} {P : Object → Prop} {Q : β → Prop} {o : Object} {b : β}
    {es : List (Object × β)} (ho : P o) (hb : Q b) (hes : ∀ e ∈ es, P e.1 ∧ Q e.2) :
    ∀ e ∈ Ledger.insertEntry o b es, P e.1 ∧ Q e.2 := by
  induction es with
  | nil => exact List.forall_mem_singleton.2 ⟨ho, hb⟩
  | cons e es ih =>
    obtain ⟨he, hrest⟩ := List.forall_mem_cons.1 hes
    rw [Ledger.insertEntry]
    split
    · exact List.forall_mem_cons.2 ⟨⟨he.1, hb⟩, hrest⟩
    split
    · exact List.forall_mem_cons.2 ⟨⟨ho, hb⟩, hes⟩
    · exact List.forall_mem_cons.2 ⟨he, ih hrest⟩

theorem lost_of_mem_lostItems {plot : PlotNode} (h : ∀ n ∈ plot.developments, P n) :
    ∀ e ∈ (lostItems plot).entries, Lost P e.1 e.2 := by
  have hentries : ∀ e ∈ (lostItems plot).entries, InLoss P .object e.1 ∧ InLoss P .subject e.2 := by
    unfold lostItems
    refine List.foldlRecOn (motive := fun holders : Ledger Object => ∀ e ∈ holders.entries,
      InLoss P .object e.1 ∧ InLoss P .subject e.2) _ _ (List.forall_mem_nil _) ?_
    intro holders hholders n hn
    split
    · rename_i hloss
      split
      · rename_i item holder hitem hholder
        split
        · exact hholders
        · exact forall_mem_insertEntry ⟨n, h n hn, hloss, hitem⟩ ⟨n, h n hn, hloss, hholder⟩ hholders
      · exact hholders
    · exact hholders
  exact fun e he => ⟨(hentries e he).1, (hentries e he).2⟩

theorem staged_of_padded {ds : List Development} (h : Padded Eq (Added ds) ns ms)
    (hs : ∀ n ∈ ns, Staged n) : ∀ m ∈ ms, Staged m := by
  intro m hm
  rcases h.mem hm with ⟨k, hk, rfl⟩ | hadded
  · exact hs _ hk
  · exact hadded.staged

theorem Kept.foreshadowItems (h : Kept w home P) (hs : ∀ n ∈ ns, Staged n) (hns : ∀ n ∈ ns, P n) :
    ∀ m ∈ (foreshadowItems (PlotNode.sequence ns)).children, P m := by
  have hdevelopments : ∀ n ∈ (PlotNode.sequence ns).developments, P n := by
    intro n hn
    rw [developments_sequence hs] at hn
    exact hns n (List.mem_filter.1 hn).1
  have hlost := lost_of_mem_lostItems hdevelopments
  refine List.foldlRecOn (motive := fun r : List PlotNode × Bool => ∀ m ∈ r.1, P m) _ _ hns ?_
  exact fun r hr e he => h.foreshadowItem (hlost e he) r.2 hr

/-- The normal form keeps what its passes keep. -/
theorem Kept.normalize {plot : PlotNode} (h : Kept w home P) (hhome : w.home? = some home)
    (hs : ∀ n ∈ ns, Staged n) (hns : ∀ n ∈ ns, P n)
    (hplot : normalize w (PlotNode.sequence ns) = .ok plot) : ∀ m ∈ plot.children, P m := by
  obtain ⟨home', ks, ls, hhome', hjourneys, harrivals, rfl⟩ := normalize_eq_ok hs hplot
  obtain rfl := Option.some.inj (hhome.symm.trans hhome')
  have hks := h.insertJourneys (fun m hm => hns m (mem_of_mem_ordered hm).1) hjourneys
  have hls := h.arrive (by simp [Roster.contains_ofList]) hks harrivals
  have hordered : ∀ n ∈ ordered ns, Staged n := fun m hm => hs m (mem_of_mem_ordered hm).1
  have hstaged := staged_of_padded (padded_arrive harrivals)
    (staged_of_padded (padded_insertJourneys hjourneys) hordered)
  exact h.foreshadowItems hstaged hls

end Passes

end SpaceOpera
