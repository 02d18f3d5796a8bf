import SpaceOpera.Proofs.Plot.Continuity

/-!
# The way through a plot

In the normal form every node is where the one before it leads (`Walk`), and whoever sets out on a journey is
there (`Fares`).  What makes this so holds before the journeys are put in (`Passable`): wherever the setting
changes, whoever travels on from the node before is there behind it.  Someone who is trapped would not be, but
where they are trapped the next development is in the same setting (`Confines`).  The arrivals and the scenes of
lost items that are put in afterwards are where the nodes beside them are (`Walk.arrive`,
`Walk.foreshadowItem`).
-/

namespace SpaceOpera

/-! ## Places -/

/-- Both nodes are in the same setting. -/
def SamePlace (m n : PlotNode) : Prop :=
  ∃ s t, m.setting? = some s ∧ n.setting? = some t ∧ (s == t) = true

/-- If someone is trapped by the first node, the second is in the same setting. -/
def Confines (m n : PlotNode) : Prop :=
  m.development? = some .trappedInRubble → SamePlace m n

/-- Where the node leaves the story: a journey where it leads to, any other node where it is. -/
def Node.destination? (n : PlotNode) : Option Object :=
  if n.development? = some .journey then n.objectIn .object else n.setting?

/-- Every node is where the one before it leaves the story, and the first is in the place given. -/
inductive Walk : Object → List PlotNode → Prop
  | nil {here : Object} : Walk here []
  | cons {here s d : Object} {n : PlotNode} {ns : List PlotNode} (hs : n.setting? = some s)
      (hsame : (here == s) = true) (hd : n.destination? = some d) (h : Walk d ns) :
      Walk here (n :: ns)

/-- A journey leads elsewhere, and those who set out are protagonists who are there. -/
def Fares (protagonists : List Object) (away : Roster) (n : PlotNode) : Prop :=
  n.development? = some .journey →
    ∃ here there party, n.setting? = some here ∧ n.objectIn .object = some there ∧
      (there == here) = false ∧ n.get? .subject = some (.group party) ∧
      ∀ o ∈ party.members, o ∈ availableOf protagonists away

/-- Whoever travels on from the node is one of the protagonists and there behind it, unless someone is trapped
by it. -/
def Frees (protagonists : List Object) (away : Roster) (n : PlotNode) : Prop :=
  n.development? ≠ some .trappedInRubble → ∀ after, n.track away = .ok after →
    ∀ o ∈ travellers n, o ∈ availableOf protagonists after

/-- The node behind each one is in the same setting, or whoever travels on to it is one of the protagonists and
there. -/
inductive Passable (protagonists : List Object) : Roster → List PlotNode → Prop
  | nil {away : Roster} : Passable protagonists away []
  | cons {away after : Roster} {n : PlotNode} {ns : List PlotNode} (ht : n.track away = .ok after)
      (hn : (∀ m ∈ ns.head?, SamePlace n m) ∨
        ∀ o ∈ travellers n, o ∈ availableOf protagonists after)
      (h : Passable protagonists after ns) : Passable protagonists away (n :: ns)

section Places

variable {m n k : PlotNode}

theorem SamePlace.refl (h : n.setting?.isSome = true) : SamePlace n n := by
  obtain ⟨s, hs⟩ := Option.isSome_iff_exists.1 h
  exact ⟨s, s, hs, hs, BEq.rfl⟩

theorem SamePlace.symm (h : SamePlace m n) : SamePlace n m := by
  obtain ⟨s, t, hs, ht, hst⟩ := h
  exact ⟨t, s, ht, hs, BEq.symm hst⟩

theorem SamePlace.trans (h : SamePlace m n) (h' : SamePlace n k) : SamePlace m k := by
  obtain ⟨s, t, hs, ht, hst⟩ := h
  obtain ⟨t', u, ht', hu, htu⟩ := h'
  cases ht.symm.trans ht'
  exact ⟨s, u, hs, hu, BEq.trans hst htu⟩

/-- Recoveries change places within a setting. -/
theorem samePlace_of_commutes (hm : Staged m) (hn : Staged n) (h : commutes m n = true) :
    SamePlace m n := by
  obtain ⟨s, hs⟩ := Option.isSome_iff_exists.1 hm.setting
  obtain ⟨t, ht⟩ := Option.isSome_iff_exists.1 hn.setting
  simp only [commutes, Bool.and_eq_true, hs, ht, Option.some_beq_some] at h
  exact ⟨s, t, hs, ht, h.1.2⟩

theorem Node.destination?_of_development {d : Development} (hd : n.development? = some d)
    (hjourney : d ≠ .journey) : n.destination? = n.setting? := by
  unfold Node.destination?
  rw [hd, if_neg fun h => hjourney (Option.some.inj h)]

/-- What is said of neighbours and of journeys, read off a walk. -/
theorem Walk.neighbours {here : Object} {pre post : List PlotNode}
    (h : Walk here (pre ++ m :: n :: post)) :
    ∃ d s, m.destination? = some d ∧ n.setting? = some s ∧ (d == s) = true := by
  induction pre generalizing here with
  | nil =>
    cases h with
    | cons _ _ hd h =>
      cases h with
      | cons hs hsame _ _ => exact ⟨_, _, hd, hs, hsame⟩
  | cons k pre ih =>
    cases h with
    | cons _ _ _ h => exact ih h

end Places

/-! ## Repetitions and exchanges -/

section Rearranging

variable {protagonists : List Object} {away after : Roster} {held last n : PlotNode}
  {ns ms : List PlotNode}

theorem chain_collapseAfter (h : (last :: ns).IsChain Confines) :
    (last :: collapseAfter last ns).IsChain Confines := by
  induction ns generalizing last with
  | nil => exact h
  | cons n ns ih =>
    obtain ⟨hlast, hns⟩ := List.isChain_cons_cons.1 h
    rw [collapseAfter]
    split
    · rename_i hrepeats
      obtain ⟨htension, -⟩ := isTension_of_isRepetition hrepeats
      refine ih (List.isChain_cons.2 ⟨fun k _ htrapped => ?_, hns.tail⟩)
      rw [Node.isTension, htrapped] at htension
      cases htension
    · exact List.isChain_cons_cons.2 ⟨hlast, ih hns⟩

theorem chain_collapse (h : ns.IsChain Confines) : (collapse ns).IsChain Confines := by
  cases ns with
  | nil => exact h
  | cons n ns => exact chain_collapseAfter h

/-- Exchanges leave the first setting as it is. -/
theorem samePlace_commuteFrom (hs : ∀ n ∈ held :: ns, Staged n) :
    ∀ m ∈ (commuteFrom held ns).head?, SamePlace held m := by
  obtain ⟨hheld, hns⟩ := List.forall_mem_cons.1 hs
  intro m hm
  cases ns with
  | nil =>
    obtain rfl : held = m := Option.some.inj hm
    exact .refl hheld.setting
  | cons n ns =>
    rw [commuteFrom] at hm
    split at hm
    · rename_i hcommutes
      obtain rfl : n = m := Option.some.inj hm
      exact samePlace_of_commutes hheld (hns _ List.mem_cons_self) hcommutes
    · obtain rfl : held = m := Option.some.inj hm
      exact .refl hheld.setting

/-- A node that moves ahead of another is followed by one in the same setting; whoever was there behind the
other is still there when it comes later. -/
theorem passable_of_commuteFrom (hs : ∀ n ∈ held :: ns, Staged n)
    (h : Along (Frees protagonists) away (held :: ns)) (hchain : (held :: ns).IsChain Confines) :
    Passable protagonists away (commuteFrom held ns) := by
  induction ns generalizing held away with
  | nil =>
    obtain ⟨-, after, ht, -⟩ := h
    exact .cons ht (Or.inl (by simp)) .nil
  | cons n ns ih =>
    obtain ⟨hheld, hrest⟩ := List.forall_mem_cons.1 hs
    obtain ⟨hn, hns⟩ := List.forall_mem_cons.1 hrest
    obtain ⟨hconfines, hchain⟩ := List.isChain_cons_cons.1 hchain
    obtain ⟨hfrees, u, hu, hrestfrees⟩ := h
    rw [commuteFrom]
    split
    · rename_i hcommutes
      obtain ⟨hrheld, hrn⟩ := isRecovery_of_commutes hcommutes
      obtain ⟨o, ho⟩ := hheld.closes hrheld
      obtain ⟨x, hx⟩ := hn.closes hrn
      obtain ⟨-, v, hv, hafter⟩ := hrestfrees
      obtain ⟨hfirst, hsecond⟩ := ho.swap hx hu hv
      have hnottrapped : held.development? ≠ some .trappedInRubble := by
        intro htrapped
        rw [Node.isRecovery, htrapped] at hrheld
        cases hrheld
      have hlater : Frees protagonists (away.erase x) held := by
        intro _ after hafter' k hk
        rw [hsecond] at hafter'
        cases hafter'
        obtain ⟨hmem, hthere⟩ := mem_availableOf.1 (hfrees hnottrapped u hu k hk)
        obtain ⟨-, rfl⟩ := hx.contains_of_track hv
        refine mem_availableOf.2 ⟨hmem, ?_⟩
        rw [Roster.contains_erase, hthere, Bool.and_false]
      have hstaged : ∀ k ∈ held :: ns, Staged k := List.forall_mem_cons.2 ⟨hheld, hns⟩
      refine .cons hfirst (Or.inl fun k hk => ?_) (ih hstaged ⟨hlater, v, hsecond, hafter⟩ ?_)
      · have hplace := (samePlace_of_commutes hheld hn hcommutes).symm
        exact hplace.trans (samePlace_commuteFrom hstaged k hk)
      · exact List.isChain_cons.2 ⟨fun _ _ htrapped => absurd htrapped hnottrapped, hchain.tail⟩
    · refine .cons hu ?_ (ih hrest hrestfrees hchain)
      by_cases htrapped : held.development? = some .trappedInRubble
      · exact Or.inl fun k hk => (hconfines htrapped).trans (samePlace_commuteFrom hrest k hk)
      · exact Or.inr (hfrees htrapped u hu)

theorem passable_of_commuteList (hs : ∀ n ∈ ns, Staged n)
    (h : Along (Frees protagonists) away ns) (hchain : ns.IsChain Confines) :
    Passable protagonists away (commuteList ns) := by
  cases ns with
  | nil => exact .nil
  | cons n ns => exact passable_of_commuteFrom hs h hchain

end Rearranging

/-! ## Journeys -/

section Travelling

variable {protagonists : List Object} {away after : Roster} {here : Object} {last n : PlotNode}
  {ns ms : List PlotNode}

theorem walk_of_travelAfter (h : Passable protagonists away (last :: ns))
    (hs : ∀ n ∈ last :: ns, n.setting?.isSome = true)
    (hjourney : ∀ n ∈ last :: ns, n.development? ≠ some .journey)
    (hhere : last.setting? = some here) (ht : last.track away = .ok after)
    (hms : travelAfter last ns = .ok ms) :
    Walk here ms ∧ Along (Fares protagonists) after ms := by
  induction ns generalizing last away after here ms with
  | nil =>
    cases hms
    exact ⟨.nil, trivial⟩
  | cons n ns ih =>
    obtain ⟨-, hs⟩ := List.forall_mem_cons.1 hs
    obtain ⟨hlast, hjourney⟩ := List.forall_mem_cons.1 hjourney
    have hn := hjourney n List.mem_cons_self
    obtain ⟨there, hthere⟩ := Option.isSome_iff_exists.1 (hs n List.mem_cons_self)
    cases h with
    | cons ht' hpass h =>
      rw [ht] at ht'
      cases ht'
      obtain ⟨next, hnext⟩ : ∃ next, n.track after = .ok next := by
        cases h with
        | cons hnext => exact ⟨_, hnext⟩
      rw [travelAfter] at hms
      obtain ⟨js, hjs, hms⟩ := bind_eq_ok.1 hms
      obtain ⟨rest, hrest, hms⟩ := bind_eq_ok.1 hms
      cases hms
      obtain ⟨hwalk, hfares⟩ := ih h hs hjourney hthere hnext hrest
      have hstays : n.destination? = some there := by
        unfold Node.destination?
        rw [if_neg hn, hthere]
      have hfares : Along (Fares protagonists) after (n :: rest) :=
        .cons (fun hj => absurd hj hn) hnext hfares
      rcases journeyBetween_eq_ok hjs with
        ⟨rfl, hnear⟩ | ⟨here', there', hhere', hthere', hfar, party, hparty, rfl⟩
      · have hsame := hnear.resolve_left hlast here there hhere hthere
        exact ⟨.cons hthere hsame hstays hwalk, hfares⟩
      · obtain rfl := Option.some.inj (hhere.symm.trans hhere')
        obtain rfl := Option.some.inj (hthere.symm.trans hthere')
        -- The setting changes, so whoever travels on is there.
        have htravellers : ∀ o ∈ travellers last, o ∈ availableOf protagonists after := by
          refine hpass.resolve_left fun hplace => ?_
          obtain ⟨s, t, hs, ht, hst⟩ := hplace n rfl
          cases hhere.symm.trans hs
          cases hthere.symm.trans ht
          exact absurd (hfar.symm.trans hst) Bool.false_ne_true
        refine ⟨.cons rfl BEq.rfl rfl (.cons hthere BEq.rfl hstays hwalk), ?_⟩
        refine .beside (fun _ => ?_) ⟨rfl, rfl⟩ hfares
        exact ⟨here, there, party, rfl, rfl, BEq.comm.trans hfar, rfl, hparty ▸ htravellers⟩

theorem walk_of_insertJourneys {plot : PlotNode} (h : Passable protagonists away ns)
    (hhere : ∀ m ∈ ns.head?, m.setting? = some here) (hs : ∀ n ∈ ns, n.setting?.isSome = true)
    (hjourney : ∀ n ∈ ns, n.development? ≠ some .journey)
    (hplot : insertJourneys (PlotNode.sequence ns) = .ok plot) :
    ∃ ms, plot = PlotNode.sequence ms ∧ Walk here ms ∧ Along (Fares protagonists) away ms := by
  unfold insertJourneys at hplot
  cases ns with
  | nil =>
    cases hplot
    exact ⟨[], rfl, .nil, trivial⟩
  | cons n ns =>
    change (travelAfter n ns >>= _) = _ at hplot
    obtain ⟨ms, hms, hplot⟩ := bind_eq_ok.1 hplot
    cases hplot
    have hn := hjourney n List.mem_cons_self
    have hhere := hhere n rfl
    obtain ⟨after, hafter⟩ : ∃ after, n.track away = .ok after := by
      cases h with
      | cons ht => exact ⟨_, ht⟩
    obtain ⟨hwalk, hfares⟩ := walk_of_travelAfter h hs hjourney hhere hafter hms
    refine ⟨n :: ms, rfl, .cons hhere BEq.rfl ?_ hwalk, ?_⟩
    · unfold Node.destination?
      rw [if_neg hn, hhere]
    · exact .cons (fun hj => absurd hj hn) hafter hfares

end Travelling

/-! ## Arrivals and lost items -/

section Scenes

variable {protagonists : List Object} {away : Roster} {here : Object} {n : PlotNode}
  {ns ms : List PlotNode}

/-- An arrival is where the node behind it is. -/
theorem Walk.arrive {it : Itinerary} (h : Walk here ns)
    (hms : arrive protagonists it ns = .ok ms) : Walk here ms := by
  induction h generalizing it ms with
  | nil =>
    cases hms
    exact .nil
  | @cons here s d n ns hs hsame hd h ih =>
    rw [SpaceOpera.arrive] at hms
    obtain ⟨next, -, hms⟩ := bind_eq_ok.1 hms
    dsimp only at hms
    split at hms
    · rename_i s' a hfound
      obtain ⟨s'', hs', hfound⟩ := Option.bind_eq_some_iff.1 hfound
      obtain ⟨a', harrival, hpair⟩ := Option.map_eq_some_iff.1 hfound
      cases hpair
      cases hs.symm.trans hs'
      obtain ⟨rest, hrest, hms⟩ := bind_eq_ok.1 hms
      cases hms
      obtain ⟨-, party, -, rfl⟩ := arrival_eq_some harrival
      exact .cons rfl hsame rfl (.cons hs BEq.rfl hd (ih hrest))
    · obtain ⟨rest, hrest, hms⟩ := bind_eq_ok.1 hms
      cases hms
      exact .cons hs hsame hd (ih hrest)

/-- The scene of an item is where the node in front of it is, and neither of them is a journey. -/
theorem itemScene_place {item holder : Object} {s : PlotNode} {recalled : Bool}
    (h : itemScene item holder n recalled = some s) :
    n.destination? = n.setting? ∧ s.setting? = n.setting? ∧ s.destination? = n.setting? := by
  obtain ⟨d, _, _, hd, hsetting, -, rfl⟩ := itemScene_eq_some_iff.1 h
  rw [hsetting]
  rcases followUp?_eq_some hd with ⟨hn, rfl⟩ | ⟨hn, rfl⟩
  · exact ⟨(Node.destination?_of_development hn (by decide)).trans hsetting, rfl, rfl⟩
  · exact ⟨(Node.destination?_of_development hn (by decide)).trans hsetting, rfl, rfl⟩

theorem Walk.foreshadowItem (h : Walk here ns) (item holder : Object) (recalled : Bool) :
    Walk here (foreshadowItem item holder recalled ns).1 := by
  induction h generalizing recalled with
  | nil => exact .nil
  | @cons here s d n ns hs hsame hd h ih =>
    rw [SpaceOpera.foreshadowItem]
    split
    · rename_i scene hscene
      obtain ⟨hstays, hsetting, hdestination⟩ := itemScene_place hscene
      rw [hd, hs] at hstays
      cases hstays
      rw [hs] at hsetting hdestination
      exact .cons hs hsame hd (.cons hsetting BEq.rfl hdestination (ih _))
    · exact .cons hs hsame hd (ih recalled)

/-- Nobody sets out by a node that is no journey. -/
theorem Added.fares {ds : List Development} (h : Added ds n) (hds : .journey ∉ ds) :
    n.Unmarked ∧ ∀ away, Fares protagonists away n := by
  refine ⟨h.unmarked, fun _ hjourney => ?_⟩
  obtain ⟨d, hd, hn⟩ := h.development
  cases hn.symm.trans hjourney
  exact absurd hd hds

end Scenes

/-! ## All together -/

/-- Through the normal form one walks from the first setting on, and whoever sets out on a journey is there. -/
theorem walk_of_normalize {w : World} {home : Object} {plot : PlotNode} {ns : List PlotNode}
    (hs : ∀ n ∈ ns, Staged n) (hrounded : Rounded home (ordered ns))
    (hfrees : Along (Frees w.protagonists) {} ns)
    (hconfines : (ns.filter (!·.isHole)).IsChain Confines)
    (hjourney : ∀ n ∈ ns, n.development? ≠ some .journey)
    (hplot : normalize w (PlotNode.sequence ns) = .ok plot) :
    Walk home plot.children ∧ Along (Fares w.protagonists) {} plot.children := by
  obtain ⟨start, ks, ls, -, hjourneys, harrivals, rfl⟩ := normalize_eq_ok hs hplot
  have hpassable : Passable w.protagonists {} (ordered ns) :=
    passable_of_commuteList (staged_collapse hs) (hfrees.collapse hs) (chain_collapse hconfines)
  have hhome : ∀ m ∈ (ordered ns).head?, m.setting? = some home := by
    obtain ⟨m, hm, -, hhome⟩ := hrounded.first
    intro m' hm'
    cases hm.symm.trans hm'
    exact hhome
  obtain ⟨_, hks, hwalk, hfares⟩ := walk_of_insertJourneys hpassable hhome
    (fun n hn => (hrounded.staged n hn).setting)
    (fun n hn => hjourney n (mem_of_mem_ordered hn).1) hjourneys
  cases hks
  obtain ⟨ms, hms, hwalk, hfares⟩ := foreshadowItems_induction
    (P := fun ms => Walk home ms ∧ Along (Fares w.protagonists) {} ms)
    ⟨hwalk.arrive harrivals, hfares.padded (padded_arrive harrivals) fun _ hn => hn.fares (by decide)⟩
    fun item holder recalled ns ⟨hwalk, hfares⟩ =>
      ⟨hwalk.foreshadowItem item holder recalled, hfares.padded
        (foreshadowItem_padded item holder recalled ns) fun _ hn => hn.fares (by decide)⟩
  rw [hms]
  exact ⟨hwalk, hfares⟩

end SpaceOpera
