import SpaceOpera.Proofs.Plot.LostItems
import SpaceOpera.Proofs.Plotter.Arrivals

/-!
# What happens for the sake of an item

In a written plot every item that is lost is shown once, right behind the introduction, by whoever loses it
first and in front of all others of the cast, and one of them is recalled right behind the convalescence
(`writePlot_foreshadowed`).  Someone always hears of it: whoever loses an item is not alone in the cast
(`Stages.losesAmong`), and at the introduction and the convalescence all of them are there.
-/

namespace SpaceOpera

/-! ## Before the scenes are put in -/

/-- If the node is the loss of an item, someone loses it who is not alone in the cast. -/
def Node.LosesAmong (cast : List Object) (n : PlotNode) : Prop :=
  n.development? = some .loseItem → ∃ item loser, n.objectIn .object = some item ∧
    n.objectIn .subject = some loser ∧ without cast loser ≠ []

section Rough

variable {p : Plotter} {w : World} {home here : Object} {away : Roster} {hole n : PlotNode} {a : Assignment}
  {cast : Group} {cs ms ns : List PlotNode}

theorem Node.LosesAmong.of_development {os : List Object} (h : n.development? ≠ some .loseItem) :
    n.LosesAmong os := fun hn => absurd hn h

/-- Whoever is not alone among those who are there is not alone in the cast. -/
theorem without_ne_nil_of_present {o : Object} (h : without (w.present away) o ≠ []) :
    without w.protagonists o ≠ [] := by
  obtain ⟨other, hother⟩ := List.exists_mem_of_ne_nil _ h
  obtain ⟨hmem, hne⟩ := mem_without.1 hother
  exact List.ne_nil_of_mem (mem_without.2 ⟨(mem_availableOf.1 hmem).1, hne⟩)

theorem Stages.losesAmong (h : Stages w here a cs) (ha : Assigned w away hole here a) :
    ∀ c ∈ cs, c.LosesAmong w.protagonists := by
  cases a with
  | lostItem loser protagonists item =>
    obtain ⟨rfl, hchosen, -⟩ := ha
    obtain ⟨recoverer, _, _, -, rfl⟩ := h
    simp only [Subplot.lostItem, List.forall_mem_cons, List.not_mem_nil, false_implies, implies_true,
      and_true]
    refine ⟨fun _ => ⟨item, loser, rfl, rfl, without_ne_nil_of_present hchosen.others⟩, ?_, ?_⟩
    · exact .of_development (by simp)
    · exact .of_development (by simp)
  | _ =>
    refine fun c hc => .of_development fun hloss => ?_
    cases h.rule?_eq hc hloss

theorem Expanded.losesAmong (h : Expanded p home cast ms) :
    ∀ m ∈ ms, m.LosesAmong p.world.protagonists := by
  refine h.invariant (P := fun ms => ∀ m ∈ ms, m.LosesAmong p.world.protagonists) ?_
    fun ns ks hns hks => hks.forall_mem ?_ hns
  · simp [seedNodes, Node.LosesAmong]
  · rintro away hole cs - ⟨_, _, _, -, -, -, -, ha, hcs⟩
    exact hcs.losesAmong ha

theorem Stages.not_occasion (h : Stages w here a cs) : ∀ c ∈ cs, c.isOccasion = false := fun c hc =>
  Node.isOccasion_eq_false_iff.2
    ⟨h.not_unstaged c hc _ (by decide), h.not_unstaged c hc _ (by decide)⟩

theorem Node.isOccasion_of_isHole (h : n.isHole = true) : n.isOccasion = false := by
  obtain ⟨k, b, ks⟩ := n
  cases k with
  | hole rules => rfl
  | sequence | development => cases h

/-- A round adds no occasions and takes none away. -/
theorem Grown.filter_isOccasion (h : Grown p away ns ms) :
    ms.filter Node.isOccasion = ns.filter Node.isOccasion := by
  induction h with
  | nil => rfl
  | keep _ _ ih => rw [List.filter_cons, List.filter_cons, ih]
  | fill _ hcs _ ih =>
    have hhole := Node.isOccasion_of_isHole hcs.isHole
    obtain ⟨_, _, _, -, -, -, -, -, hcs⟩ := hcs
    rw [List.filter_append, List.filter_eq_nil_iff.2 fun c hc => by simp [hcs.not_occasion c hc],
      List.filter_cons_of_neg (by simp [hhole]), ih]
    rfl

theorem Expanded.filter_isOccasion (h : Expanded p home cast ms) :
    ms.filter Node.isOccasion =
      [(PlotNode.ofDevelopment .introduction home).set .subject (.group cast),
        (PlotNode.ofDevelopment .convalescence home).set .subject (.group cast)] :=
  h.invariant (P := fun ms => ms.filter Node.isOccasion = _) rfl
    fun _ _ hns hks => hks.filter_isOccasion.trans hns

/-- Nor do the passes that connect the developments. -/
theorem filter_isOccasion_ordered (ns : List PlotNode) :
    (ordered ns).filter Node.isOccasion = ns.filter Node.isOccasion := by
  have htension : ∀ n : PlotNode, n.isTension = true → n.isOccasion = false := by
    intro n hn
    rw [Node.isOccasion_eq_false_iff, isTension_iff.1 hn]
    exact ⟨by decide, by decide⟩
  have hrecovery : ∀ n : PlotNode, n.isRecovery = true → n.isOccasion = false := by
    intro n hn
    obtain ⟨d, hd, hcommutes⟩ := (Option.any_eq_true _ _).1 hn
    rw [Node.isOccasion_eq_false_iff, hd]
    constructor <;> rintro ⟨⟩ <;> cases hcommutes
  rw [ordered, filter_commuteList hrecovery, filter_collapse htension, List.filter_filter]
  refine List.filter_congr fun n _ => ?_
  cases hn : n.isHole with
  | true => rw [Node.isOccasion_of_isHole hn, Bool.false_and]
  | false => rw [Bool.not_false, Bool.and_true]

end Rough

/-! ## Scenes put in -/

/-- What gives occasion to scenes of items, and those scenes. -/
def Development.occasional : List Development :=
  [introduction, convalescence, itemForeshadowed, itemRecalled]

/-- The developments of a plot as the scenes of lost items divide them: behind the introduction stand the
showings, behind the convalescence a recollection.  Every item that is lost is shown once, and an item is
recalled if any is lost. -/
structure Foreshadowed (plot introduction convalescence : PlotNode) (shown between rest : List PlotNode)
    (recalled : Option PlotNode) : Prop where
  developments : plot.developments =
    introduction :: (shown ++ between ++ convalescence :: (recalled.toList ++ rest))
  introduces : introduction.development? = some .introduction
  convalesces : convalescence.development? = some .convalescence
  shows : ∀ s ∈ shown, s.development? = some .itemForeshadowed
  recalls : ∀ s ∈ recalled, s.development? = some .itemRecalled
  others : ∀ n ∈ between ++ rest, ∀ d ∈ Development.occasional, n.development? ≠ some d
  losses : ∀ n ∈ plot.developments, n.development? = some .loseItem →
    n ∈ between ++ rest ∧ ∃ item, n.objectIn .object = some item
  once : ∀ item lost, plot.developments.find? (·.concerns .loseItem item) = some lost →
    ∃ s ∈ shown, plot.developments.filter (·.concerns .itemForeshadowed item) = [s] ∧
      ∃ holder, lost.objectIn .subject = some holder ∧ s.objectIn .subject = some holder ∧
        s.membersOf .bystanders = without (introduction.membersOf .subject) holder
  whenever : recalled.isSome = true ↔ ∃ n ∈ plot.developments, n.development? = some .loseItem

/-- The developments of a plot whose scenes are still to be put in. -/
structure Framed (cast : List Object) (flat introduction convalescence : PlotNode)
    (between rest : List PlotNode) : Prop where
  kind : flat.kind = .sequence
  children : flat.children = introduction :: (between ++ convalescence :: rest)
  staged : ∀ n ∈ flat.children, Staged n ∧ n.development?.isSome = true
  introduces : introduction.development? = some .introduction
  convalesces : convalescence.development? = some .convalescence
  introduced : introduction.membersOf .subject = cast
  convalescent : convalescence.membersOf .subject = cast
  others : ∀ n ∈ between ++ rest, ∀ d ∈ Development.occasional, n.development? ≠ some d
  losers : ∀ n ∈ flat.children, n.LosesAmong cast

namespace Framed

variable {flat introduction convalescence : PlotNode} {cast : List Object} {between rest : List PlotNode}

theorem developments (h : Framed cast flat introduction convalescence between rest) :
    flat.developments = flat.children :=
  developments_of_leaves h.kind fun n hn => ⟨(h.staged n hn).1.isLeaf, (h.staged n hn).2⟩

theorem not_occasion (h : Framed cast flat introduction convalescence between rest) :
    ∀ n ∈ between ++ rest, n.isOccasion = false := fun n hn =>
  Node.isOccasion_eq_false_iff.2 ⟨h.others n hn _ (by decide), h.others n hn _ (by decide)⟩

/-- Whoever the ledger names loses an item in the plot, and is not alone in the cast. -/
theorem of_mem_lostItems (h : Framed cast flat introduction convalescence between rest)
    {e : Object × Object} (he : e ∈ (lostItems flat).entries) :
    (∃ n ∈ flat.children, n.development? = some .loseItem) ∧ without cast e.2 ≠ [] := by
  obtain ⟨n, hn, hconcerns, hloser⟩ := exists_loss_of_mem_lostItems he
  rw [h.developments] at hn
  obtain ⟨hloss, -⟩ := Bool.and_eq_true_iff.1 hconcerns
  have hloss : n.development? = some .loseItem := of_decide_eq_true hloss
  obtain ⟨_, loser, -, hsubject, hothers⟩ := h.losers n hn hloss
  cases hsubject.symm.trans hloser
  exact ⟨⟨n, hn, hloss⟩, hothers⟩

/-- The ledger has an entry for every item that is lost, with whoever loses it first. -/
theorem exists_mem_lostItems (h : Framed cast flat introduction convalescence between rest)
    {item : Object} {lost : PlotNode}
    (hlost : flat.children.find? (·.concerns .loseItem item) = some lost) :
    ∃ e ∈ (lostItems flat).entries, (item == e.1) = true ∧ lost.objectIn .subject = some e.2 := by
  have hconcerns : lost.concerns .loseItem item = true := by simpa using List.find?_some hlost
  obtain ⟨hloss, -⟩ := Bool.and_eq_true_iff.1 hconcerns
  obtain ⟨_, loser, -, hsubject, -⟩ :=
    h.losers lost (List.mem_of_find?_eq_some hlost) (of_decide_eq_true hloss)
  rw [← h.developments] at hlost
  obtain ⟨e, he, hitem, rfl⟩ := Ledger.exists_of_get? (get?_lostItems_of_find? hlost hsubject)
  exact ⟨e, he, hitem, hsubject⟩

/-- At the introduction and at the convalescence someone hears of every lost item. -/
theorem itemScene_isSome (h : Framed cast flat introduction convalescence between rest)
    {e : Object × Object} (he : e ∈ (lostItems flat).entries) {n : PlotNode} {d : Development}
    (hn : n ∈ flat.children) (hd : followUp? n false = some d) (hcast : n.membersOf .subject = cast) :
    (itemScene e.1 e.2 n false).isSome = true :=
  SpaceOpera.itemScene_isSome hd (h.staged n hn).1.setting (hcast ▸ (h.of_mem_lostItems he).2)

/-- What is shown, side by side with what it is of. -/
theorem showings (h : Framed cast flat introduction convalescence between rest) :
    List.Forall₂ (fun e s => itemScene e.1 e.2 introduction false = some s)
      (lostItems flat).entries.reverse (SpaceOpera.showings introduction (lostItems flat).entries) :=
  forall₂_filterMap fun _ he => h.itemScene_isSome (List.mem_reverse.1 he)
    (h.children ▸ List.mem_cons_self) (by rw [followUp?, h.introduces]) h.introduced

/-- An item is recalled if any is lost. -/
theorem recollection_isSome (h : Framed cast flat introduction convalescence between rest) :
    (recollection convalescence false (lostItems flat).entries).isSome = true ↔
      ∃ n ∈ flat.children, n.development? = some .loseItem := by
  unfold recollection
  rw [if_neg Bool.false_ne_true, List.findSome?_isSome_iff]
  constructor
  · rintro ⟨e, he, -⟩
    exact (h.of_mem_lostItems he).1
  · rintro ⟨n, hn, hloss⟩
    obtain ⟨item, _, hobject, -⟩ := h.losers n hn hloss
    have hconcerns : n.concerns .loseItem item = true := by simp [Node.concerns, hloss, hobject]
    have hfound : (flat.children.find? (·.concerns .loseItem item)).isSome = true :=
      List.find?_isSome.2 ⟨n, hn, hconcerns⟩
    obtain ⟨lost, hlost⟩ := Option.isSome_iff_exists.1 hfound
    obtain ⟨e, he, -⟩ := h.exists_mem_lostItems hlost
    refine ⟨e, he, h.itemScene_isSome he ?_ (d := .itemRecalled) ?_ h.convalescent⟩
    · rw [h.children]
      exact List.mem_cons_of_mem _ (List.mem_append_right _ List.mem_cons_self)
    · rw [followUp?, h.convalesces]
      rfl

end Framed

section Writing

variable {w : World} {home : Object} {cast : Group} {p : Plotter} {flat plot introduction convalescence : PlotNode}
  {os : List Object} {between rest ms : List PlotNode}

theorem concerns_eq_false {n : PlotNode} {d e : Development} {item : Object}
    (hn : n.development? = some e) (hne : e ≠ d) : n.concerns d item = false := by
  rw [Node.concerns, hn, decide_eq_false fun h => hne (Option.some.inj h), Bool.false_and]

namespace Framed

theorem shows (h : Framed os flat introduction convalescence between rest) :
    ∀ s ∈ SpaceOpera.showings introduction (lostItems flat).entries,
      s.development? = some .itemForeshadowed := by
  intro s hs
  obtain ⟨e, -, hscene⟩ := exists_of_mem_right h.showings hs
  rw [development?_of_itemScene hscene, followUp?, h.introduces]

theorem recalls (h : Framed os flat introduction convalescence between rest) :
    ∀ s ∈ recollection convalescence false (lostItems flat).entries,
      s.development? = some .itemRecalled := by
  intro s hs
  obtain ⟨e, -, hscene⟩ := List.exists_of_findSome?_eq_some hs
  rw [development?_of_itemScene hscene, followUp?, h.convalesces]
  rfl

theorem children_foreshadowItems (h : Framed os flat introduction convalescence between rest) :
    (foreshadowItems flat).developments = (foreshadowItems flat).children ∧
      (foreshadowItems flat).children = introduction ::
        (SpaceOpera.showings introduction (lostItems flat).entries ++ between ++ convalescence ::
          ((recollection convalescence false (lostItems flat).entries).toList ++ rest)) := by
  obtain ⟨hbetween, hrest⟩ := List.forall_mem_append.1 h.not_occasion
  refine ⟨developments_of_leaves h.kind fun n hn => ?_, ?_⟩
  · rcases (padded_foreshadowItems flat).mem hn with ⟨m, hm, rfl⟩ | hadded
    · exact ⟨(h.staged m hm).1.isLeaf, (h.staged m hm).2⟩
    · obtain ⟨d, -, hd⟩ := hadded.development
      exact ⟨hadded.staged.isLeaf, by rw [hd]; rfl⟩
  · rw [foreshadowItems_eq h.children h.introduces h.convalesces hbetween hrest]
    rfl

/-- Every item that is lost is shown once. -/
theorem shown_once (h : Framed os flat introduction convalescence between rest) {item : Object}
    {lost : PlotNode} (hlost : flat.children.find? (·.concerns .loseItem item) = some lost) :
    ∃ s ∈ SpaceOpera.showings introduction (lostItems flat).entries,
      (SpaceOpera.showings introduction (lostItems flat).entries).filter
          (·.concerns .itemForeshadowed item) = [s] ∧
        ∃ holder, lost.objectIn .subject = some holder ∧ s.objectIn .subject = some holder ∧
          s.membersOf .bystanders = without (introduction.membersOf .subject) holder := by
  obtain ⟨e, he, hitem, hloser⟩ := h.exists_mem_lostItems hlost
  have hentry : (lostItems flat).entries.reverse.filter (item == ·.1) = [e] := by
    rw [List.filter_reverse, (lostItems_distinct flat).filter_eq he hitem]
    rfl
  have hpicked := List.rel_filter (p := fun e : Object × Object => item == e.1)
    (q := (·.concerns .itemForeshadowed item)) (fun e s hs => ?_) h.showings
  · rw [hentry] at hpicked
    obtain ⟨s, _, hscene, hnil, hs⟩ := List.forall₂_cons_left_iff.1 hpicked
    obtain rfl := List.forall₂_nil_left_iff.1 hnil
    obtain ⟨-, hsubject, hothers⟩ := values_of_itemScene hscene
    exact ⟨s, (List.mem_filter.1 (hs ▸ List.mem_singleton_self s)).1, hs, e.2, hloser, hsubject, hothers⟩
  · have hshown : s.development? = some .itemForeshadowed := by
      rw [development?_of_itemScene hs, followUp?, h.introduces]
    change (item == e.1) = true ↔ s.concerns .itemForeshadowed item = true
    simp [Node.concerns, hshown, (values_of_itemScene hs).1, BEq.comm (a := item)]

theorem mem_children (h : Framed os flat introduction convalescence between rest) :
    ∀ n ∈ between ++ rest, n ∈ flat.children := by
  intro n hn
  rw [h.children]
  rcases List.mem_append.1 hn with hn | hn
  · exact List.mem_cons_of_mem _ (List.mem_append_left _ hn)
  · exact List.mem_cons_of_mem _ (List.mem_append_right _ (List.mem_cons_of_mem _ hn))

/-- No item is lost before all of them are shown. -/
theorem mem_of_loseItem (h : Framed os flat introduction convalescence between rest) {n : PlotNode}
    (hn : n ∈ (foreshadowItems flat).children) (hloss : n.development? = some .loseItem) :
    n ∈ between ++ rest := by
  rw [h.children_foreshadowItems.2] at hn
  simp only [List.mem_cons, List.mem_append, Option.mem_toList] at hn ⊢
  rcases hn with rfl | (hn | hn) | rfl | hn | hn
  · cases hloss.symm.trans h.introduces
  · cases hloss.symm.trans (h.shows n hn)
  · exact Or.inl hn
  · cases hloss.symm.trans h.convalesces
  · cases hloss.symm.trans (h.recalls n hn)
  · exact Or.inr hn

/-- No item is shown but right behind the introduction. -/
theorem filter_itemForeshadowed (h : Framed os flat introduction convalescence between rest)
    (item : Object) : (foreshadowItems flat).children.filter (·.concerns .itemForeshadowed item) =
      (SpaceOpera.showings introduction (lostItems flat).entries).filter
        (·.concerns .itemForeshadowed item) := by
  have hother : ∀ {n : PlotNode} {d : Development}, n.development? = some d → d ≠ .itemForeshadowed →
      ¬n.concerns .itemForeshadowed item = true := fun hn hd => by simp [concerns_eq_false hn hd]
  have hnone : ∀ {ns : List PlotNode}, (∀ n ∈ ns, n.development? ≠ some .itemForeshadowed) →
      ns.filter (·.concerns .itemForeshadowed item) = [] := fun hns =>
    List.filter_eq_nil_iff.2 fun n hn hconcerns =>
      hns n hn (of_decide_eq_true (Bool.and_eq_true_iff.1 hconcerns).1)
  obtain ⟨hbetween, hrest⟩ := List.forall_mem_append.1 h.others
  have hrecalled : ∀ n ∈ (recollection convalescence false (lostItems flat).entries).toList,
      n.development? ≠ some .itemForeshadowed := by
    intro n hn
    rw [h.recalls n (Option.mem_toList.1 hn)]
    decide
  rw [h.children_foreshadowItems.2, List.filter_cons_of_neg (hother h.introduces (by decide)),
    List.filter_append, List.filter_append, hnone fun n hn => hbetween n hn _ (by decide),
    List.filter_cons_of_neg (hother h.convalesces (by decide)), List.filter_append, hnone hrecalled,
    hnone fun n hn => hrest n hn _ (by decide), List.append_nil, List.append_nil, List.append_nil]

/-- What the last pass puts in is no loss. -/
theorem find?_loseItem (flat : PlotNode) (item : Object) :
    (foreshadowItems flat).children.find? (·.concerns .loseItem item) =
      flat.children.find? (·.concerns .loseItem item) := by
  rw [← List.head?_filter, ← List.head?_filter, (padded_foreshadowItems flat).filter_eq fun n hn => ?_]
  obtain ⟨d, hd, hn⟩ := hn.development
  refine concerns_eq_false hn ?_
  rintro rfl
  revert hd
  decide

/-- What the last pass makes of the developments of a plot. -/
theorem foreshadowed (h : Framed os flat introduction convalescence between rest) :
    Foreshadowed (foreshadowItems flat) introduction convalescence
      (SpaceOpera.showings introduction (lostItems flat).entries) between rest
      (recollection convalescence false (lostItems flat).entries) := by
  obtain ⟨hdevelopments, hchildren⟩ := h.children_foreshadowItems
  refine ⟨hdevelopments.trans hchildren, h.introduces, h.convalesces, h.shows, h.recalls, h.others,
    fun n hn hloss => ?_, fun item lost hlost => ?_, ?_⟩
  · rw [hdevelopments] at hn
    have hn := h.mem_of_loseItem hn hloss
    obtain ⟨item, _, hitem, -⟩ := h.losers n (h.mem_children n hn) hloss
    exact ⟨hn, item, hitem⟩
  · rw [hdevelopments, find?_loseItem] at hlost
    rw [hdevelopments, h.filter_itemForeshadowed]
    exact h.shown_once hlost
  · rw [h.recollection_isSome, hdevelopments]
    constructor
    · rintro ⟨n, hn, hloss⟩
      obtain ⟨m, hm, rfl⟩ := (padded_foreshadowItems flat).mem_left hn
      exact ⟨n, hm, hloss⟩
    · rintro ⟨n, hn, hloss⟩
      exact ⟨n, h.mem_children n (h.mem_of_loseItem hn hloss), hloss⟩

end Framed

/-- The normal form of an expanded plot, before the scenes of items are put in. -/
theorem Expanded.framed (h : Expanded p home cast ms)
    (hplot : normalize p.world (PlotNode.sequence ms) = .ok plot)
    (hfirst : ∃ m, plot.children.head? = some m ∧ m.IsAt .introduction home) :
    ∃ flat introduction convalescence between rest, plot = foreshadowItems flat ∧
      Framed p.world.protagonists flat introduction convalescence between rest := by
  obtain ⟨ls, rfl, hpadded⟩ := normalize_eq_foreshadowItems (pruned_of_staged h.staged) hplot
  change Padded Eq (Added [.journey, .encounterNewSetting]) (ordered ms) ls at hpadded
  have hstaged : ∀ n ∈ ls, Staged n ∧ n.development?.isSome = true := by
    intro n hn
    rcases hpadded.mem hn with ⟨m, hm, rfl⟩ | hadded
    · obtain ⟨hm, hhole⟩ := mem_of_mem_ordered hm
      exact ⟨h.staged _ hm, (h.staged _ hm).development_isSome hhole⟩
    · obtain ⟨d, -, hn⟩ := hadded.development
      exact ⟨hadded.staged, by rw [hn]; rfl⟩
  have hlosers : ∀ n ∈ ls, n.LosesAmong p.world.protagonists ∧
      ∀ d ∈ [Development.itemForeshadowed, .itemRecalled], n.development? ≠ some d := by
    intro n hn
    rcases hpadded.mem hn with ⟨m, hm, rfl⟩ | hadded
    · have hm := (mem_of_mem_ordered hm).1
      have hscenes : [Development.itemForeshadowed, .itemRecalled] ⊆ Development.inserted := by decide
      exact ⟨h.losesAmong _ hm, fun d hd => h.not_inserted _ hm d (hscenes hd)⟩
    · obtain ⟨d, hd, hn⟩ := hadded.development
      rw [Node.LosesAmong, hn]
      rcases List.mem_pair.1 hd with rfl | rfl
      · exact ⟨nofun, by decide⟩
      · exact ⟨nofun, by decide⟩
  have hoccasions : ls.filter Node.isOccasion = _ :=
    (hpadded.filter_eq fun n hn => by
      obtain ⟨d, hd, hn⟩ := hn.development
      rw [Node.isOccasion_eq_false_iff, hn]
      rcases List.mem_pair.1 hd with rfl | rfl <;> decide).trans
    ((filter_isOccasion_ordered ms).trans h.filter_isOccasion)
  have hhead : ∀ n ∈ ls.head?, n.isOccasion = true := by
    obtain ⟨m, hm, hintroduction, -⟩ := hfirst
    rw [foreshadowItems_head?] at hm
    intro n hn
    cases hm.symm.trans hn
    simp [Node.isOccasion, hintroduction]
  obtain ⟨between, rest, rfl, hothers⟩ := exists_of_filter_eq_pair hoccasions hhead
  refine ⟨_, _, _, between, rest, rfl, rfl, rfl, hstaged, rfl, rfl, h.cast_eq, h.cast_eq,
    fun n hn => ?_, fun n hn => (hlosers n hn).1⟩
  obtain ⟨hn, hnone⟩ := hothers n hn
  obtain ⟨hintroduction, hconvalescence⟩ := Node.isOccasion_eq_false_iff.1 hnone
  exact List.forall_mem_cons.2 ⟨hintroduction, List.forall_mem_cons.2 ⟨hconvalescence, (hlosers n hn).2⟩⟩

/-- In a written plot every item that is lost is shown once, right behind the introduction, by whoever loses it
first and in front of all others of the cast, and one item is recalled right behind the convalescence if any is
lost. -/
theorem writePlot_foreshadowed (p : Plotter) (hsettings : p.world.settings ≠ [])
    (hcast : p.world.protagonists ≠ []) (depth : Nat) (n : Narration) :
    ∃ plot introduction convalescence shown between rest recalled,
      ((p.writePlot depth).run.run n).1 = .ok plot ∧
        Foreshadowed plot introduction convalescence shown between rest recalled := by
  have hnever : ∀ e, p.seedPlot = .error e → False := seedPlot_ne_error hsettings hcast
  obtain ⟨plot, hplot, home, _, ms, _, hms, hnormal, rfl, hrounded, -⟩ :=
    (writePlot_ends (I := fun _ => True) hnever depth n trivial).1.ok_of_no_error
  obtain ⟨flat, introduction, convalescence, between, rest, hflat, hframed⟩ :=
    hms.framed hnormal hrounded.first
  rw [hplot, hflat]
  exact ⟨_, introduction, convalescence, _, between, rest, _, rfl, hframed.foreshadowed⟩

/-- Where losses are all that happens, the item that shares its name with the heroine is shown and recalled. -/
theorem writePlot_foreshadowed_namesakes :
    namesakes.settings ≠ [] ∧ namesakes.protagonists ≠ [] ∧
      ∃ plot introduction convalescence shown between rest recalled,
        (((⟨namesakes, Rule.all.erase .lostItem⟩ : Plotter).writePlot 1).run.run
            ⟨.ofSeed 7, #[]⟩).1 = .ok plot ∧
          Foreshadowed plot introduction convalescence shown between rest recalled ∧
          recalled.isSome = true := by
  have hsettings : namesakes.settings ≠ [] := List.cons_ne_nil _ _
  have hcast : namesakes.protagonists ≠ [] := List.cons_ne_nil _ _
  have hlost : (((⟨namesakes, Rule.all.erase .lostItem⟩ : Plotter).writePlot 1).run.run
      ⟨.ofSeed 7, #[]⟩).1.toOption.any
        (·.developments.any (·.development? = some .loseItem)) = true := by
    decide +kernel
  obtain ⟨plot, introduction, convalescence, shown, between, rest, recalled, hplot, hforeshadowed⟩ :=
    writePlot_foreshadowed ⟨namesakes, Rule.all.erase .lostItem⟩ hsettings hcast 1 ⟨.ofSeed 7, #[]⟩
  obtain ⟨plot', hplot', hlost⟩ := any_toOption.1 hlost
  cases hplot.symm.trans hplot'
  obtain ⟨n, hn, hloss⟩ := List.any_eq_true.1 hlost
  exact ⟨hsettings, hcast, plot, introduction, convalescence, shown, between, rest, recalled, hplot,
    hforeshadowed, hforeshadowed.whenever.2 ⟨n, hn, of_decide_eq_true hloss⟩⟩

end Writing

end SpaceOpera
