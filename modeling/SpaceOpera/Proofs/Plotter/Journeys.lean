import SpaceOpera.Proofs.Plot.Walk
import SpaceOpera.Proofs.Plotter.Arrivals

/-!
# Nobody jumps between places

In a written plot every development is where the one before it leads, and whoever sets out on a journey is one
of the protagonists and there (`writePlot_walk`).  Behind every node that a rule stages those who would travel
on are there (`Stages.frees`), but for someone trapped under rubble.  What stands behind them, up to the first
development, stays in their setting, whatever the holes there are filled with (`Stays.grown`).
-/

namespace SpaceOpera

/-! ## Who travels on -/

section Travelling

variable {p : Plotter} {w : World} {protagonists : List Object} {away after : Roster}
  {home here o : Object} {cast : Group} {n : PlotNode} {a : Assignment}
  {cs ms ns : List PlotNode}

theorem mem_addMissing {os more : List Object} (h : o ∈ addMissing os more) :
    o ∈ os ∨ o ∈ more := by
  unfold addMissing at h
  induction more generalizing os with
  | nil => exact Or.inl h
  | cons m more ih =>
    rw [List.foldl_cons] at h
    rcases ih h with h | h
    · split at h
      · exact Or.inl h
      · rcases List.mem_append.1 h with h | h
        · exact Or.inl h
        · exact Or.inr (List.mem_singleton.1 h ▸ List.mem_cons_self)
    · exact Or.inr (List.mem_cons_of_mem m h)

/-- Behind a node with which someone leaves, they are there. -/
theorem Along.leaving (ht : n.track away = .ok after) (hleaving : n.membersOf .exeunt ≠ [])
    (hthere : ∀ o ∈ n.membersOf .exeunt, o ∈ availableOf protagonists after)
    (h : Along (Frees protagonists) after ns) : Along (Frees protagonists) away (n :: ns) := by
  refine .cons (fun _ after' ht' o ho => ?_) ht h
  cases ht.symm.trans ht'
  unfold travellers at ho
  split at ho
  · exact absurd ‹_› hleaving
  · exact hthere o ho

/-- Behind a node with which nobody leaves, those who act or look on are there. -/
theorem Along.staying (ht : n.track away = .ok after) (hleaving : n.membersOf .exeunt = [])
    (hsubjects : ∀ o ∈ n.membersOf .subject, o ∈ availableOf protagonists after)
    (hbystanders : ∀ o ∈ n.membersOf .bystanders, o ∈ availableOf protagonists after)
    (h : Along (Frees protagonists) after ns) : Along (Frees protagonists) away (n :: ns) := by
  refine .cons (fun _ after' ht' o ho => ?_) ht h
  cases ht.symm.trans ht'
  unfold travellers at ho
  rw [hleaving] at ho
  exact (mem_addMissing ho).elim (hbystanders o) (hsubjects o)

/-- Nobody travels on from a hole. -/
theorem Along.deserted (hu : n.Unmarked) (hleaving : n.membersOf .exeunt = [])
    (hsubjects : n.membersOf .subject = []) (hbystanders : n.membersOf .bystanders = [])
    (h : Along (Frees protagonists) away ns) : Along (Frees protagonists) away (n :: ns) :=
  .staying hu.track hleaving (by simp [hsubjects]) (by simp [hbystanders]) h

/-- Behind every node of a subplot those who would travel on are there. -/
theorem Stages.frees {hole : PlotNode} (hw : ∀ o ∈ w.protagonists, ∀ x ∈ w.macguffins, (o == x) = false)
    (ha : Assigned w away hole here a) (h : Stages w here a cs) :
    Along (Frees w.protagonists) away cs := by
  have hnone : ∀ o ∈ ([] : List Object), o ∈ w.present away := nofun
  have hall : ∀ o ∈ w.present away, o ∈ w.present away := fun _ ho => ho
  have hone : ∀ m ∈ w.present away, ∀ o ∈ [m], o ∈ w.present away := by
    simp
  have hothers : ∀ x, ∀ o ∈ without (w.present away) x, o ∈ w.present away :=
    fun _ _ ho => (mem_without.1 ho).1
  cases a with
  | kidnapping villain abductee others lair =>
    obtain ⟨-, -, habductee, rfl⟩ := ha
    obtain ⟨_, heveryone, rfl⟩ := h
    refine .leaving (Node.Opens.track (o := abductee) ⟨rfl, rfl⟩) habductee.others ?_ ?_
    · exact fun o ho => mem_present_insert (hothers _ o ho) (mem_without.1 ho).2
    refine .deserted ⟨rfl, rfl⟩ rfl rfl rfl (.deserted ⟨rfl, rfl⟩ rfl rfl rfl ?_)
    refine .leaving (Node.Closes.track ⟨rfl, rfl⟩ (Roster.contains_insert_self _ _)) heveryone ?_
      trivial
    rw [Roster.erase_insert (mem_availableOf.1 habductee.mem).2]
    exact List.forall_mem_append.2 ⟨hothers _, hone _ habductee.mem⟩
  | lostItem loser protagonists item =>
    obtain ⟨rfl, hloser, hitem⟩ := ha
    obtain ⟨recoverer, _, _, hrecovers, rfl⟩ := h
    obtain ⟨hitem, hthere⟩ := mem_availableOf.1 hitem
    have hrecoverer := hrecovers.mem hloser.mem
    have hkept : ∀ o ∈ w.present away, o ∈ w.present (away.insert item) := by
      intro o ho
      exact mem_present_insert ho (hw o (mem_availableOf.1 ho).1 item hitem)
    refine .staying (Node.Opens.track (o := item) ⟨rfl, rfl⟩) rfl ?_ ?_ ?_
    · exact fun o ho => hkept o (hone _ hloser.mem o ho)
    · exact fun o ho => hkept o (hothers _ o ho)
    refine .deserted ⟨rfl, rfl⟩ rfl rfl rfl ?_
    refine .staying (Node.Closes.track ⟨rfl, rfl⟩ (Roster.contains_insert_self _ _)) rfl ?_ ?_
      trivial
    all_goals rw [Roster.erase_insert hthere]
    · exact hone _ hrecoverer
    · exact hothers _
  | caveIn trapped others =>
    obtain ⟨-, htrapped, rfl⟩ := ha
    obtain ⟨_, rfl⟩ := h
    refine Along.cons (fun hfree => absurd rfl hfree)
      (Node.Opens.track (o := trapped) ⟨rfl, rfl⟩) ?_
    refine .deserted ⟨rfl, rfl⟩ rfl rfl rfl ?_
    have hback := Roster.erase_insert (mem_availableOf.1 htrapped.mem).2
    refine .staying (Node.Closes.track ⟨rfl, rfl⟩ (Roster.contains_insert_self _ _)) rfl ?_ ?_ ?_
    all_goals rw [hback]
    · exact hothers _
    · exact hnone
    · exact .deserted ⟨rfl, rfl⟩ rfl rfl rfl trivial
  | findAbductee | findAnotherWay =>
    obtain ⟨rfl, -⟩ := ha
    obtain ⟨_, rfl⟩ := h
    refine .staying (Node.Unmarked.track ⟨rfl, rfl⟩) rfl hall hnone ?_
    exact .deserted ⟨rfl, rfl⟩ rfl rfl rfl trivial
  | goonSkirmish protagonists goons =>
    obtain ⟨-, -, rfl, -⟩ := ha
    obtain ⟨met, _, _, -, rfl⟩ := h
    refine .staying (Node.Unmarked.track ⟨rfl, rfl⟩) rfl hall hnone ?_
    refine .deserted ⟨rfl, rfl⟩ rfl rfl rfl ?_
    exact .staying (Node.Unmarked.track ⟨rfl, rfl⟩) rfl hall hnone trivial
  | protagonistAttack protagonists goons =>
    obtain ⟨rfl, -⟩ := ha
    obtain ⟨_, rfl⟩ := h
    refine .deserted ⟨rfl, rfl⟩ rfl rfl rfl ?_
    exact .staying (Node.Unmarked.track ⟨rfl, rfl⟩) rfl hall hnone trivial
  | awkwardCombat lead dreamboat goons =>
    obtain ⟨hpair, -⟩ := ha
    obtain ⟨_, rfl⟩ := h
    refine .deserted ⟨rfl, rfl⟩ rfl rfl rfl ?_
    refine .staying (Node.Unmarked.track ⟨rfl, rfl⟩) rfl ?_ hnone trivial
    exact List.forall_mem_cons.2 ⟨hpair.lead_mem, hone _ hpair.dreamboat_mem⟩
  | awkwardTension lead dreamboat | romanticTension lead dreamboat =>
    obtain ⟨one, other, horder, rfl⟩ := h
    have ha : Couple (w.present away) lead dreamboat := ha
    obtain ⟨hfirst, -⟩ := ha.mem_of_inSomeOrder horder
    refine .staying (Node.Unmarked.track ⟨rfl, rfl⟩) rfl (hone _ hfirst) hnone ?_
    exact .deserted ⟨rfl, rfl⟩ rfl rfl rfl trivial
  | romanticResolution lead dreamboat =>
    subst h
    exact .staying (Node.Unmarked.track ⟨rfl, rfl⟩) rfl (hone _ ha.dreamboat_mem) hnone trivial
  | contemplateItem | drone =>
    subst h
    refine .staying (Node.Unmarked.track ⟨rfl, rfl⟩) rfl (hone _ ha.1.mem) hnone ?_
    exact .deserted ⟨rfl, rfl⟩ rfl rfl rfl trivial

theorem Expanded.frees
    (hw : ∀ o ∈ p.world.protagonists, ∀ x ∈ p.world.macguffins, (o == x) = false)
    (h : Expanded p home cast ms) : Along (Frees p.world.protagonists) {} ms := by
  have hcast : ∀ o ∈ cast.members, o ∈ availableOf p.world.protagonists {} := by
    rw [h.cast_eq, availableOf_empty]
    exact fun _ ho => ho
  refine h.invariant (P := Along (Frees p.world.protagonists) {}) ?_ fun _ _ hns hks =>
    hns.grown (fun away hole cs _ hcs => ?_) hks
  · have hnone : ∀ o ∈ ([] : List Object), o ∈ availableOf p.world.protagonists {} := nofun
    refine .staying (Node.Unmarked.track ⟨rfl, rfl⟩) rfl hcast hnone ?_
    refine .deserted ⟨rfl, rfl⟩ rfl rfl rfl ?_
    refine .staying (Node.Unmarked.track ⟨rfl, rfl⟩) rfl hcast hnone ?_
    exact .staying (Node.Unmarked.track ⟨rfl, rfl⟩) rfl hcast hnone trivial
  · obtain ⟨_, _, _, -, -, -, -, ha, hcs⟩ := hcs
    exact hcs.frees hw ha

end Travelling

/-! ## Where someone is trapped -/

/-- The first development, and every hole in front of it, is in the setting of the node. -/
inductive Leads (n : PlotNode) : List PlotNode → Prop
  | hole {m : PlotNode} {ns : List PlotNode} (hm : m.isHole = true) (hplace : SamePlace n m)
      (h : Leads n ns) : Leads n (m :: ns)
  | development {m : PlotNode} {ns : List PlotNode} (hm : m.isHole = false)
      (hplace : SamePlace n m) : Leads n (m :: ns)

/-- Wherever someone is trapped, the next development is in the same setting. -/
def Stays : List PlotNode → Prop
  | [] => True
  | n :: ns => (n.development? = some .trappedInRubble → Leads n ns) ∧ Stays ns

section Confinement

variable {p : Plotter} {w : World} {away : Roster} {home here : Object} {cast : Group}
  {n : PlotNode} {a : Assignment} {cs ns ms : List PlotNode}

/-- A subplot begins in the setting of the hole that it fills. -/
theorem Stages.leads {s : Object} (hn : n.setting? = some s) (hplace : (s == here) = true)
    (h : Stages w here a cs) (ms : List PlotNode) : Leads n (cs ++ ms) := by
  have hsame : ∀ {m : PlotNode}, m.setting? = some here → SamePlace n m :=
    fun hm => ⟨s, here, hn, hm, hplace⟩
  obtain ⟨c, rest, rfl, hc, hbehind⟩ := h.begins
  cases hhole : c.isHole with
  | false => exact .development hhole (hsame hc)
  | true =>
    obtain ⟨d, rest', rfl, hd, htold⟩ := hbehind hhole
    exact .hole hhole (hsame hc) (.development htold (hsame hd))

theorem Stays.append (hcs : ∀ c ∈ cs, c.development? ≠ some .trappedInRubble) (hms : Stays ms) :
    Stays (cs ++ ms) := by
  induction cs with
  | nil => exact hms
  | cons c cs ih =>
    obtain ⟨hc, hcs⟩ := List.forall_mem_cons.1 hcs
    exact ⟨fun htrapped => absurd htrapped hc, ih hcs⟩

/-- Who is trapped in a subplot is dug out where they are. -/
theorem Stages.stays (h : Stages w here a cs) (hms : Stays ms) : Stays (cs ++ ms) := by
  cases a with
  | caveIn =>
    obtain ⟨_, rfl⟩ := h
    have hplace : ∀ {m k : PlotNode}, m.setting? = some here → k.setting? = some here →
        SamePlace m k := fun hm hk => ⟨here, here, hm, hk, BEq.rfl⟩
    refine ⟨fun _ => .hole rfl (hplace rfl rfl) (.development rfl (hplace rfl rfl)), ?_⟩
    exact ⟨by rintro ⟨⟩, by rintro ⟨⟩, by rintro ⟨⟩, hms⟩
  | _ =>
    refine hms.append fun c hc htrapped => ?_
    cases h.rule?_eq hc htrapped

theorem Leads.grown (h : Leads n ns) (g : Grown p away ns ms) : Leads n ms := by
  induction g with
  | nil => exact h
  | keep _ _ ih =>
    cases h with
    | hole hm hplace h => exact .hole hm hplace (ih h)
    | development hm hplace => exact .development hm hplace
  | fill _ hcs _ _ =>
    have hhole := hcs.isHole
    obtain ⟨_, here, _, -, -, -, hhere, -, hstages⟩ := hcs
    cases h with
    | hole _ hplace _ =>
      obtain ⟨s, t, hs, ht, hst⟩ := hplace
      cases hhere.symm.trans ht
      exact hstages.leads hs hst _
    | development hm _ => exact absurd (hm.symm.trans hhole) Bool.false_ne_true

theorem Stays.grown (h : Stays ns) (g : Grown p away ns ms) : Stays ms := by
  induction g with
  | nil => exact h
  | keep _ g ih => exact ⟨fun htrapped => (h.1 htrapped).grown g, ih h.2⟩
  | fill _ hcs _ ih =>
    obtain ⟨_, _, _, -, -, -, -, -, hstages⟩ := hcs
    exact hstages.stays (ih h.2)

theorem Expanded.stays (h : Expanded p home cast ms) : Stays ms :=
  h.invariant (by simp [seedNodes, Stays]) fun _ _ hns hks => hns.grown hks

theorem Leads.samePlace (h : Leads n ns) :
    ∀ m ∈ (ns.filter (!·.isHole)).head?, SamePlace n m := by
  induction h with
  | hole hm _ _ ih =>
    rw [List.filter_cons_of_neg (by simp [hm])]
    exact ih
  | development hm hplace =>
    rw [List.filter_cons_of_pos (by simp [hm])]
    rintro _ ⟨⟩
    exact hplace

theorem Stays.chain (h : Stays ns) : (ns.filter (!·.isHole)).IsChain Confines := by
  induction ns with
  | nil => exact .nil
  | cons n ns ih =>
    rw [List.filter_cons]
    split
    · exact List.isChain_cons.2 ⟨fun m hm htrapped => (h.1 htrapped).samePlace m hm, ih h.2⟩
    · exact ih h.2

end Confinement

/-! ## Written plots -/

/-- A plot in order begins and ends at home. -/
theorem Expanded.rounded {p : Plotter} {home : Object} {cast : Group} {ms : List PlotNode}
    (h : Expanded p home cast ms) : Rounded home (ordered ms) := by
  have hpruned := rounded_of_staged h.staged h.nested.replay ⟨_, h.head?_eq, rfl, rfl⟩
    ⟨_, h.getLast?_eq, rfl, rfl⟩
  exact hpruned.collapse.commute

/-- In a written plot every development is in the setting that the one before it leads to.  Every journey leads
to another setting, and those who set out are protagonists who are there. -/
theorem writePlot_walk (p : Plotter) (hsettings : p.world.settings ≠ [])
    (hcast : p.world.protagonists ≠ [])
    (hw : ∀ o ∈ p.world.protagonists, ∀ x ∈ p.world.macguffins, (o == x) = false)
    (depth : Nat) (n : Narration) :
    ∃ plot, ((p.writePlot depth).run.run n).1 = .ok plot ∧
      (∀ pre x y post, plot.developments = pre ++ x :: y :: post →
        ∃ d s, x.destination? = some d ∧ y.setting? = some s ∧ (s == d) = true) ∧
      ∀ pre j post, plot.developments = pre ++ j :: post → j.development? = some .journey →
        ∃ away here there party, replay pre {} = .ok away ∧ j.setting? = some here ∧
          j.objectIn .object = some there ∧ (there == here) = false ∧
          j.get? .subject = some (.group party) ∧ party.members ≠ [] ∧
          ∀ o ∈ party.members, o ∈ p.world.protagonists ∧ away.contains o = false := by
  have hnever : ∀ e, p.seedPlot = .error e → False := seedPlot_ne_error hsettings hcast
  obtain ⟨plot, hplot, home, _, ms, ks, hms, hnormal, rfl, hrounded, -⟩ :=
    (writePlot_ends (I := fun _ => True) hnever depth n trivial).1.ok_of_no_error
  obtain ⟨hwalk, hfares⟩ := walk_of_normalize hms.staged hms.rounded (hms.frees hw)
    hms.stays.chain (fun m hm => hms.not_inserted m hm _ (by decide)) hnormal
  refine ⟨_, hplot, ?_, ?_⟩
  all_goals rw [hrounded.developments_eq]
  · intro pre x y post hsplit
    obtain rfl : ks = _ := hsplit
    obtain ⟨d, s, hd, hs, hsame⟩ := hwalk.neighbours
    exact ⟨d, s, hd, hs, BEq.symm hsame⟩
  · intro pre j post hsplit hj
    obtain rfl : ks = _ := hsplit
    have hfares : Along (Fares p.world.protagonists) {} (pre ++ j :: post) := hfares
    obtain ⟨away, hr, -, hfare, -⟩ := hfares.split
    obtain ⟨here, there, party, hhere, hthere, hfar, hparty, hmembers⟩ := hfare hj
    refine ⟨away, here, there, party, hr, hhere, hthere, hfar, hparty, party.nonempty, ?_⟩
    exact fun o ho => mem_availableOf.1 (hmembers o ho)

/-- Two rounds at the outpost. -/
theorem writePlot_walk_outpost :
    outpost.settings ≠ [] ∧ outpost.protagonists ≠ [] ∧
      (∀ o ∈ outpost.protagonists, ∀ x ∈ outpost.macguffins, (o == x) = false) ∧
      ∃ plot, (((⟨outpost, []⟩ : Plotter).writePlot 2).run.run ⟨.ofSeed 7, #[]⟩).1 = .ok plot ∧
        (∀ pre x y post, plot.developments = pre ++ x :: y :: post →
          ∃ d s, x.destination? = some d ∧ y.setting? = some s ∧ (s == d) = true) ∧
        ∀ pre j post, plot.developments = pre ++ j :: post → j.development? = some .journey →
          ∃ away here there party, replay pre {} = .ok away ∧ j.setting? = some here ∧
            j.objectIn .object = some there ∧ (there == here) = false ∧
            j.get? .subject = some (.group party) ∧ party.members ≠ [] ∧
            ∀ o ∈ party.members, o ∈ outpost.protagonists ∧ away.contains o = false := by
  have hsettings : outpost.settings ≠ [] := List.cons_ne_nil _ _
  have hcast : outpost.protagonists ≠ [] := List.cons_ne_nil _ _
  have hapart : ∀ o ∈ outpost.protagonists, ∀ x ∈ outpost.macguffins, (o == x) = false := by
    decide
  exact ⟨hsettings, hcast, hapart,
    writePlot_walk ⟨outpost, []⟩ hsettings hcast hapart 2 ⟨.ofSeed 7, #[]⟩⟩

end SpaceOpera
