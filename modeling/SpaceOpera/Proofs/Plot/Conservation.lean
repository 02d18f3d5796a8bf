import Mathlib.Data.List.Perm.Basic
import Mathlib.Data.List.SplitBy
import SpaceOpera.Proofs.Chance.Outcomes
import SpaceOpera.Proofs.Plot.Normalization

/-!
# What normalization conserves

A plot tree as expansion may leave it, with sequences in sequences and with holes (`Sketch`), has its
developments in preorder.  Bringing it into its normal form drops the awkward moments that directly follow
another one (`unrepeated`), shuffles the recoveries within a run of them in one setting (`Reshuffled`), and
puts in journeys, arrivals and scenes of items; nothing else of it is lost, doubled or changed
(`normalize_conserves`).
-/

namespace SpaceOpera

/-! ## Nested plots -/

/-- Only sequences have something below them. -/
def Node.Leafy (n : PlotNode) : Prop :=
  ∀ m ∈ n.preorder, m.kind ≠ .sequence → m.children = []

/-- A plot of sequences in sequences, developments and holes, without the developments that only the passes of
the normal form put in. -/
structure Sketch (plot : PlotNode) : Prop where
  kind : plot.kind = .sequence
  leafy : plot.Leafy
  plain : ∀ m ∈ plot.developments, ∀ d ∈ Development.inserted, m.development? ≠ some d

section Nested

theorem leafy_sequence {a : Attributes} {ns : List PlotNode} :
    Node.Leafy ⟨.sequence, a, ns⟩ ↔ ∀ n ∈ ns, n.Leafy := by
  unfold Node.Leafy
  rw [Node.preorder_mk, Node.preorderList_eq_flatMap]
  constructor
  · intro h n hn m hm
    exact h m (List.mem_cons_of_mem _ (List.mem_flatMap.2 ⟨n, hn, hm⟩))
  · intro h m hm hkind
    rcases List.mem_cons.1 hm with rfl | hm
    · exact absurd rfl hkind
    · obtain ⟨n, hn, hm⟩ := List.mem_flatMap.1 hm
      exact h n hn m hm hkind

theorem Node.Leafy.isLeaf {n : PlotNode} (h : n.Leafy) (hkind : n.kind ≠ .sequence) : n.IsLeaf := by
  refine ⟨hkind, h n ?_ hkind⟩
  obtain ⟨k, a, cs⟩ := n
  rw [Node.preorder_mk]
  exact List.mem_cons_self

mutual

/-- What a node contributes to the children of a flat sequence: all in it that are no sequences. -/
theorem splice_flatten_of_leafy : ∀ n : PlotNode, n.Leafy →
    Node.splice .sequence n.flatten = n.preorder.filter (·.kind ≠ .sequence)
  | ⟨.sequence, a, cs⟩, h => by
    rw [Node.flatten, Node.splice, if_pos ⟨rfl, rfl⟩, Node.preorder_mk,
      List.filter_cons_of_neg (by simp)]
    exact flattenList_of_leafy cs (leafy_sequence.1 h)
  | ⟨.hole rules, a, cs⟩, h => by
    have hleaf := h.isLeaf (by simp)
    rw [hleaf.flatten, hleaf.splice, hleaf.preorder, List.filter_cons_of_pos (by simp), List.filter_nil]
  | ⟨.development d, a, cs⟩, h => by
    have hleaf := h.isLeaf (by simp)
    rw [hleaf.flatten, hleaf.splice, hleaf.preorder, List.filter_cons_of_pos (by simp), List.filter_nil]

theorem flattenList_of_leafy : ∀ cs : List PlotNode, (∀ c ∈ cs, c.Leafy) →
    Node.flattenList .sequence cs = (Node.preorderList cs).filter (·.kind ≠ .sequence)
  | [], _ => by
    rw [Node.flattenList, Node.preorderList]
    rfl
  | c :: cs, h => by
    obtain ⟨hc, hcs⟩ := List.forall_mem_cons.1 h
    rw [Node.flattenList, Node.preorderList, List.filter_append, splice_flatten_of_leafy c hc,
      flattenList_of_leafy cs hcs]

end

/-- What is neither a sequence nor a hole is a development. -/
theorem filter_isHole_filter_kind (ns : List PlotNode) :
    (ns.filter (·.kind ≠ .sequence)).filter (!·.isHole) = ns.filter (·.development?.isSome) := by
  rw [List.filter_filter]
  refine List.filter_congr fun n _ => ?_
  obtain ⟨k, a, cs⟩ := n
  cases k <;> rfl

/-- Pruning a nested plot leaves its developments, in preorder. -/
theorem pruned_of_leafy {a : Attributes} {cs : List PlotNode} (h : Node.Leafy ⟨.sequence, a, cs⟩) :
    pruned ⟨.sequence, a, cs⟩ = .ok ⟨.sequence, a, Node.developments ⟨.sequence, a, cs⟩⟩ := by
  have hflat : Node.flatten ⟨.sequence, a, cs⟩ =
      ⟨.sequence, a, (Node.preorderList cs).filter (·.kind ≠ .sequence)⟩ := by
    rw [Node.flatten, flattenList_of_leafy cs (leafy_sequence.1 h)]
  have hleaves : ∀ n ∈ (Node.preorderList cs).filter (·.kind ≠ .sequence), n.IsLeaf := by
    intro n hn
    obtain ⟨hn, hkind⟩ := List.mem_filter.1 hn
    have hkind : n.kind ≠ .sequence := of_decide_eq_true hkind
    refine ⟨hkind, h n ?_ hkind⟩
    rw [Node.preorder_mk]
    exact List.mem_cons_of_mem _ hn
  rw [pruned_of_leaves hflat hleaves, filter_isHole_filter_kind, Node.developments, Node.preorder_mk,
    List.filter_cons_of_neg Bool.false_ne_true]

theorem Node.Leafy.isLeaf_of_mem_developments {plot n : PlotNode} (h : plot.Leafy)
    (hn : n ∈ plot.developments) : n.IsLeaf ∧ n.development?.isSome = true := by
  obtain ⟨hn, hsome⟩ := List.mem_filter.1 hn
  have hkind : n.kind ≠ .sequence := by
    intro hkind
    rw [Node.development?, hkind] at hsome
    cases hsome
  exact ⟨⟨hkind, h n hn hkind⟩, hsome⟩

end Nested

/-! ## Repetitions -/

/-- The nodes behind `before`, without the awkward moments that directly follow another one. -/
def unrepeatedAfter (before : PlotNode) : List PlotNode → List PlotNode
  | [] => []
  | n :: ns =>
    if before.development? = some .awkwardTension ∧ n.development? = some .awkwardTension then
      unrepeatedAfter n ns
    else n :: unrepeatedAfter n ns

/-- The nodes without the awkward moments that directly follow another one. -/
def unrepeated : List PlotNode → List PlotNode
  | [] => []
  | n :: ns => n :: unrepeatedAfter n ns

section Repetitions

/-- A repetition is compared with the node kept last; that is as awkward as the one directly before. -/
theorem collapseAfter_eq {last before : PlotNode} (h : last.isTension = before.isTension)
    (ns : List PlotNode) : collapseAfter last ns = unrepeatedAfter before ns := by
  induction ns generalizing last before with
  | nil => rfl
  | cons n ns ih =>
    have hrepeats : isRepetition last n = true ↔
        before.development? = some .awkwardTension ∧ n.development? = some .awkwardTension := by
      rw [← isTension_iff, ← isTension_iff, ← h]
      exact ⟨isTension_of_isRepetition, fun hboth => isRepetition_of_tension hboth.1 hboth.2⟩
    rw [collapseAfter, unrepeatedAfter]
    by_cases hawkward : isRepetition last n = true
    · have hn := (isTension_of_isRepetition hawkward).2
      rw [if_pos hawkward, if_pos (hrepeats.1 hawkward)]
      exact ih ((isTension_of_isRepetition hawkward).1.trans hn.symm)
    · rw [if_neg hawkward, if_neg fun hboth => hawkward (hrepeats.2 hboth), ih rfl]

theorem collapse_eq (ns : List PlotNode) : collapse ns = unrepeated ns := by
  cases ns with
  | nil => rfl
  | cons n ns => exact congrArg (n :: ·) (collapseAfter_eq rfl ns)

end Repetitions

/-! ## Commutation -/

/-- Are the two recoveries in one setting? -/
def sameRun (m n : PlotNode) : Bool :=
  m.isRecovery && n.isRecovery && m.setting? == n.setting?

/-- The second list has the nodes of the first in order, but for the order within each of the maximal runs of
recoveries in one setting. -/
def Reshuffled (ns ms : List PlotNode) : Prop :=
  ∃ runs, List.Forall₂ List.Perm (ns.splitBy sameRun) runs ∧ ms = runs.flatten

section Runs

variable {α : Type} {r : α → α → Bool}

/-- An element joins the run in front of which it stands, or is a run of its own. -/
theorem splitBy_cons_cons (a b : α) (l : List α) :
    ∃ c cs, (b :: l).splitBy r = (b :: c) :: cs ∧
      (a :: b :: l).splitBy r = if r a b then (a :: b :: c) :: cs else [a] :: (b :: c) :: cs := by
  obtain ⟨hflatten, hnil, hchains, hbreaks⟩ := List.splitBy_eq_iff.1 (rfl : (b :: l).splitBy r = _)
  generalize (b :: l).splitBy r = runs at hflatten hnil hchains hbreaks
  obtain - | ⟨- | ⟨b', c⟩, cs⟩ := runs
  · cases hflatten
  · exact absurd List.mem_cons_self hnil
  obtain ⟨rfl, hl⟩ := List.cons.inj hflatten
  refine ⟨c, cs, rfl, ?_⟩
  split
  · rename_i hab
    refine List.splitBy_eq_iff.2 ⟨?_, ?_, ?_, ?_⟩
    · rw [hflatten]; rfl
    · simpa using hnil
    · obtain ⟨hc, hcs⟩ := List.forall_mem_cons.1 hchains
      exact List.forall_mem_cons.2 ⟨.cons_cons hab hc, hcs⟩
    · obtain ⟨hhead, htail⟩ := List.isChain_cons.1 hbreaks
      refine List.isChain_cons.2 ⟨fun d hd => ?_, htail⟩
      obtain ⟨hc, hd', hbreak⟩ := hhead d hd
      exact ⟨List.cons_ne_nil _ _, hd', by rwa [List.getLast_cons (List.cons_ne_nil _ _)]⟩
  · rename_i hab
    refine List.splitBy_eq_iff.2 ⟨?_, ?_, ?_, ?_⟩
    · rw [hflatten]; rfl
    · simpa using hnil
    · exact List.forall_mem_cons.2 ⟨.singleton a, hchains⟩
    · refine List.isChain_cons.2 ⟨fun d hd => ?_, hbreaks⟩
      cases hd
      exact ⟨List.cons_ne_nil _ _, List.cons_ne_nil _ _, by simpa using hab⟩

theorem splitBy_congr {a b : α} {l : List α} (h : ∀ c, r a c = r b c) :
    ∃ c cs, (a :: l).splitBy r = (a :: c) :: cs ∧ (b :: l).splitBy r = (b :: c) :: cs := by
  cases l with
  | nil => exact ⟨[], [], rfl, rfl⟩
  | cons c l =>
    obtain ⟨d, ds, hrest, ha⟩ := splitBy_cons_cons (r := r) a c l
    obtain ⟨d', ds', hrest', hb⟩ := splitBy_cons_cons (r := r) b c l
    cases hrest.symm.trans hrest'
    rw [ha, hb, h c]
    split
    · exact ⟨_, _, rfl, rfl⟩
    · exact ⟨_, _, rfl, rfl⟩

end Runs

section Commutation

variable {held m n : PlotNode} {ns : List PlotNode}

theorem sameRun_of_commutes (h : commutes m n = true) : sameRun m n = true := by
  simp only [commutes, Bool.and_eq_true] at h
  simp only [sameRun, Node.isRecovery, Bool.and_eq_true]
  exact h.1

/-- Two of one run go on into the same nodes. -/
theorem sameRun_congr (h : sameRun m n = true) (k : PlotNode) : sameRun m k = sameRun n k := by
  simp only [sameRun, Bool.and_eq_true] at h ⊢
  obtain ⟨⟨hm, hn⟩, hsettings⟩ := h
  have hsame : (m.setting? == k.setting?) = (n.setting? == k.setting?) := by
    cases hs : m.setting? <;> cases ht : n.setting? <;> cases k.setting? <;> simp_all
    exact BEq.congr_left hsettings
  rw [hm, hn, hsame]

theorem reshuffled_commuteFrom (held : PlotNode) (ns : List PlotNode) :
    Reshuffled (held :: ns) (commuteFrom held ns) := by
  induction ns generalizing held with
  | nil => exact ⟨[[held]], .cons (.refl _) .nil, rfl⟩
  | cons n ns ih =>
    obtain ⟨c, cs, hn, hheld⟩ := splitBy_cons_cons (r := sameRun) held n ns
    rw [commuteFrom]
    split
    · rename_i hcommutes
      have hrun := sameRun_of_commutes hcommutes
      obtain ⟨c', cs', hheld', hn'⟩ := splitBy_congr (l := ns) (sameRun_congr hrun)
      cases hn.symm.trans hn'
      obtain ⟨runs, hruns, hflatten⟩ := ih held
      rw [hheld'] at hruns
      obtain ⟨run, runs, hhead, htail, rfl⟩ := List.forall₂_cons_left_iff.1 hruns
      refine ⟨(n :: run) :: runs, ?_, by rw [hflatten]; rfl⟩
      rw [hheld, if_pos hrun]
      exact .cons ((List.Perm.swap n held c).trans (hhead.cons n)) htail
    · obtain ⟨runs, hruns, hflatten⟩ := ih n
      rw [hn] at hruns
      obtain ⟨run, runs, hhead, htail, rfl⟩ := List.forall₂_cons_left_iff.1 hruns
      unfold Reshuffled
      rw [hheld, hflatten]
      split
      · exact ⟨(held :: run) :: runs, .cons (hhead.cons held) htail, rfl⟩
      · exact ⟨[held] :: run :: runs, .cons (.refl _) (.cons hhead htail), rfl⟩

theorem reshuffled_commuteList (ns : List PlotNode) : Reshuffled ns (commuteList ns) := by
  cases ns with
  | nil => exact ⟨[], .nil, rfl⟩
  | cons n ns => exact reshuffled_commuteFrom n ns

theorem Reshuffled.perm {ms : List PlotNode} (h : Reshuffled ns ms) : ns.Perm ms := by
  obtain ⟨runs, hruns, rfl⟩ := h
  have := List.Perm.flatten_congr hruns
  rwa [List.flatten_splitBy] at this

end Commutation

/-! ## Conservation -/

/-- Is this one of what only the passes of the normal form put in? -/
def Node.isAdded (n : PlotNode) : Bool :=
  n.development?.any Development.inserted.contains

section Conservation

variable {w : World} {plot out n : PlotNode} {ns ms : List PlotNode}

theorem Added.isAdded {ds : List Development} (h : Added ds n) (hds : ds ⊆ Development.inserted) :
    n.isAdded = true := by
  obtain ⟨d, hd, hn⟩ := h.development
  rw [Node.isAdded, hn]
  exact List.contains_iff_mem.2 (hds hd)

theorem isAdded_eq_false_iff :
    n.isAdded = false ↔ ∀ d ∈ Development.inserted, n.development? ≠ some d := by
  unfold Node.isAdded
  cases n.development? with
  | none => simp
  | some d =>
    rw [Option.any_some, List.contains_eq_mem, decide_eq_false_iff_not]
    exact ⟨fun hd e he heq => hd (Option.some.inj heq ▸ he), fun h hd => h d hd rfl⟩

/-- All that the passes behind the exchanges do is to put nodes in. -/
theorem padded_of_normalize {a : Attributes} (hpruned : pruned plot = .ok ⟨.sequence, a, ns⟩)
    (h : normalize w plot = .ok out) : ∃ ms, out = ⟨.sequence, a, ms⟩ ∧
      Padded Eq (Added Development.inserted) (commuteList (collapse ns)) ms := by
  obtain ⟨ls, rfl, hpadded⟩ := normalize_eq_foreshadowItems hpruned h
  exact ⟨_, rfl, padded_added_trans (by decide) (by decide) hpadded
    (padded_foreshadowItems ⟨.sequence, a, ls⟩)⟩

/-- The nodes that stay once those put in are taken out again. -/
theorem reshuffled_of_padded (hns : ∀ n ∈ ns, n.isAdded = false)
    (h : Padded Eq (Added Development.inserted) (commuteList (collapse ns)) ms) :
    Reshuffled (unrepeated ns) (ms.filter (!·.isAdded)) := by
  have hkept : ms.filter (!·.isAdded) = commuteList (collapse ns) := by
    rw [h.filter_eq fun n hn => by rw [hn.isAdded (List.Subset.refl _)]; rfl]
    refine List.filter_eq_self.2 fun n hn => ?_
    rw [hns n ((collapse_sublist ns).subset ((commuteList_perm _).mem_iff.1 hn))]
    rfl
  rw [hkept, ← collapse_eq]
  exact reshuffled_commuteList _

theorem countP_of_reshuffled {d : Development} (hd : d ∉ Development.inserted)
    (hawkward : d ≠ .awkwardTension) (h : Reshuffled (unrepeated ns) (ms.filter (!·.isAdded))) :
    ms.countP (·.development? = some d) = ns.countP (·.development? = some d) := by
  have hadded : ∀ n ∈ ms, n.development? = some d ↔
      (n.development? = some d ∧ (!n.isAdded) = true) := by
    intro n _
    refine ⟨fun hn => ⟨hn, ?_⟩, And.left⟩
    rw [Bool.not_eq_true', isAdded_eq_false_iff, hn]
    rintro e he ⟨⟩
    exact hd he
  calc ms.countP (·.development? = some d)
      = (ms.filter (!·.isAdded)).countP (·.development? = some d) := by
        rw [List.countP_filter]
        exact List.countP_congr fun n hn => by simpa using hadded n hn
    _ = (unrepeated ns).countP (·.development? = some d) := (h.perm.countP_eq _).symm
    _ = ns.countP (·.development? = some d) := by
        rw [← collapse_eq, List.countP_eq_length_filter, List.countP_eq_length_filter,
          filter_collapse fun n hn => ?_]
        rw [isTension_iff.1 hn, decide_eq_false_iff_not]
        exact fun heq => hawkward (Option.some.inj heq).symm

theorem count_eq_countP (plot : PlotNode) (d : Development) :
    plot.count d = plot.developments.countP (·.development? = some d) := by
  rw [Node.count, Node.developments, List.countP_filter, ← List.countP_eq_length_filter]
  refine List.countP_congr fun n _ => ?_
  cases n.development? <;> simp

/-- The normal form of a plot has its developments, without the awkward moments that directly follow another one
and with the recoveries within a run shuffled, and beside them only journeys, arrivals and scenes of items.  So
of every other kind there are as many as before. -/
theorem normalize_conserves (hplot : Sketch plot) (h : normalize w plot = .ok out) :
    Reshuffled (unrepeated plot.developments) (out.developments.filter (!·.isAdded)) ∧
      ∀ d, d ∉ Development.inserted → d ≠ .awkwardTension → out.count d = plot.count d := by
  obtain ⟨k, a, cs⟩ := plot
  obtain ⟨rfl, hleafy, hplain⟩ := hplot
  obtain ⟨ms, rfl, hpadded⟩ := padded_of_normalize (pruned_of_leafy hleafy) h
  have hout : Node.developments ⟨.sequence, a, ms⟩ = ms := by
    refine developments_of_leaves rfl fun n hn => ?_
    rcases hpadded.mem hn with ⟨m, hm, rfl⟩ | hadded
    · have hm := (collapse_sublist _).subset ((commuteList_perm _).mem_iff.1 hm)
      exact hleafy.isLeaf_of_mem_developments hm
    · obtain ⟨d, -, hd⟩ := hadded.development
      exact ⟨hadded.staged.isLeaf, by rw [hd]; rfl⟩
  have hreshuffled :=
    reshuffled_of_padded (fun n hn => isAdded_eq_false_iff.2 (hplain n hn)) hpadded
  refine ⟨by rwa [hout], fun d hd hawkward => ?_⟩
  rw [count_eq_countP, count_eq_countP, hout]
  exact countP_of_reshuffled hd hawkward hreshuffled

/-- Two friends on a bridge, and a lagoon where one of them may be held. -/
def castaways : World :=
  { protagonists :=
      [.ofCharacter ["Ana"] ⟨.feminine, .lead, .redhead⟩, .ofCharacter ["Bo"] ⟨.masculine, .plain, .redhead⟩]
    antagonists := []
    goons := []
    macguffins := [.thing ["orb"]]
    settings :=
      [.ofPlace ["bridge"] { roof := .thing ["ceiling"], nearby := [] },
        .ofPlace ["lagoon"] { roof := .thing ["sky"], nearby := [] }] }

/-- Behind two awkward moments with holes around them, an item and a friend get lost, and both are found in the
lagoon. -/
def adrift : PlotNode :=
  let ana := castaways.protagonists[0]
  let bo := castaways.protagonists[1]
  let bridge := castaways.settings[0]
  let lagoon := castaways.settings[1]
  let orb := castaways.macguffins[0]
  let both : Value := .group ⟨[ana, bo], List.cons_ne_nil _ _⟩
  .sequence [
    (PlotNode.ofDevelopment .introduction bridge).set .subject both,
    .sequence [
      .hole bridge [.drone],
      (PlotNode.ofDevelopment .awkwardTension bridge).set .subject (.object ana) |>.set .object (.object bo),
      .sequence [.hole bridge []]],
    (PlotNode.ofDevelopment .awkwardTension bridge).set .subject (.object bo) |>.set .object (.object ana),
    .sequence [
      (PlotNode.ofDevelopment .loseItem bridge).set .subject (.object ana)
        |>.set .object (.object orb) |>.set .disqualified (.object orb),
      (PlotNode.ofDevelopment .kidnapping bridge).set .subject (.object ana)
        |>.set .disqualified (.object bo)],
    (PlotNode.ofDevelopment .recoverItem lagoon).set .subject (.object ana)
      |>.set .object (.object orb) |>.set .requalified (.object orb),
    .sequence [
      (PlotNode.ofDevelopment .rescue lagoon).set .subject (.object ana)
        |>.set .requalified (.object bo)],
    (PlotNode.ofDevelopment .convalescence bridge).set .subject both]

/-- There the rescue moves ahead, one awkward moment goes, and all four kinds are put in. -/
theorem normalize_conserves_castaways :
    Sketch adrift ∧ ∃ out, normalize castaways adrift = .ok out ∧
      out.developments.map Node.development? =
        [some .introduction, some .itemForeshadowed, some .awkwardTension, some .loseItem,
          some .kidnapping, some .journey, some .encounterNewSetting, some .rescue,
          some .recoverItem, some .journey, some .convalescence, some .itemRecalled] ∧
      Reshuffled (unrepeated adrift.developments) (out.developments.filter (!·.isAdded)) ∧
      ∀ d, d ∉ Development.inserted → d ≠ .awkwardTension → out.count d = adrift.count d := by
  have hsketch : Sketch adrift := by
    refine ⟨rfl, ?_, by decide +kernel⟩
    simp [Node.Leafy, adrift, PlotNode.sequence, Node.preorder_mk, Node.preorderList, PlotNode.hole,
      PlotNode.ofDevelopment, Node.set]
  have hkinds : ((normalize castaways adrift).toOption.any fun out =>
      decide (out.developments.map Node.development? =
        [some .introduction, some .itemForeshadowed, some .awkwardTension, some .loseItem,
          some .kidnapping, some .journey, some .encounterNewSetting, some .rescue,
          some .recoverItem, some .journey, some .convalescence, some .itemRecalled])) = true := by
    decide +kernel
  obtain ⟨out, hout, hkinds⟩ := any_toOption.1 hkinds
  exact ⟨hsketch, out, hout, of_decide_eq_true hkinds, normalize_conserves hsketch hout⟩

end Conservation

end SpaceOpera
