import SpaceOpera.Plot.Normal
import SpaceOpera.Proofs.Insertion
import SpaceOpera.Proofs.Plot.Staged

/-!
# What normalization makes of a plot

Each pass of the normal form, from the plot of staged nodes that expansion returns: the passes never fail,
they keep the introduction first and the laugh last, and replaying the markers still ends with everyone
there.  A pass rearranges nodes that bring someone back (`commute`), drops nodes without markers
(`removeRepetition`), or puts in nodes without markers (`Padded`).
-/

namespace SpaceOpera

/-! ## Nodes without markers -/

section Unmarked

variable {ns ms : List PlotNode}

theorem replay_of_padded (h : Padded Eq Node.Unmarked ns ms) (away : Roster) :
    replay ms away = replay ns away := by
  induction h generalizing away with
  | nil => rfl
  | keep hab _ ih =>
    subst hab
    rw [replay_cons, replay_cons]
    exact congrArg (_ >>= ·) (funext fun after => ih after)
  | put hq _ ih => rw [replay_cons_ok hq.track, ih]

/-- What holds along a list holds where nodes without markers are left out. -/
theorem Along.of_padded {P : Roster → PlotNode → Prop} {away : Roster}
    (h : Padded Eq Node.Unmarked ns ms) (hms : Along P away ms) : Along P away ns := by
  induction h generalizing away with
  | nil => exact hms
  | keep hab _ ih =>
    subst hab
    obtain ⟨hn, next, ht, hrest⟩ := hms
    exact .cons hn ht (ih hrest)
  | put hq _ ih =>
    obtain ⟨-, next, ht, hrest⟩ := hms
    rw [hq.track] at ht
    cases ht
    exact ih hrest

/-- What holds along a list holds where nodes without markers are put in of which it holds anyway. -/
theorem Along.padded {P : Roster → PlotNode → Prop} {Q : PlotNode → Prop} {away : Roster}
    (h : Along P away ns) (hp : Padded Eq Q ns ms)
    (hQ : ∀ n, Q n → n.Unmarked ∧ ∀ away, P away n) : Along P away ms := by
  induction hp generalizing away with
  | nil => trivial
  | keep hab _ ih =>
    subst hab
    obtain ⟨hn, next, ht, hns⟩ := h
    exact .cons hn ht (ih hns)
  | put hq _ ih =>
    obtain ⟨hu, hP⟩ := hQ _ hq
    exact .beside (hP away) hu (ih h)

end Unmarked

/-! ## Holes -/

section Holes

variable {ns : List PlotNode}

theorem dropHolesList_of_leaves (h : ∀ n ∈ ns, n.IsLeaf) :
    dropHolesList ns = ns.filter (!·.isHole) := by
  induction ns with
  | nil => rw [dropHolesList]; rfl
  | cons n ns ih =>
    obtain ⟨hn, hns⟩ := List.forall_mem_cons.1 h
    have hleaf : dropHoles n = n := by
      obtain ⟨k, a, cs⟩ := n
      obtain rfl : cs = [] := hn.children
      rw [dropHoles, dropHolesList]
    rw [dropHolesList, hleaf, ih hns, List.filter_cons]
    cases n.isHole <;> rfl

/-- Of a plot that is flat but for nested sequences, pruning keeps the leaves that are not holes. -/
theorem pruned_of_leaves {plot : PlotNode} {a : Attributes} (hflat : plot.flatten = ⟨.sequence, a, ns⟩)
    (h : ∀ n ∈ ns, n.IsLeaf) : pruned plot = .ok ⟨.sequence, a, ns.filter (!·.isHole)⟩ := by
  have hkept : ∀ n ∈ ns.filter (!·.isHole), n.IsLeaf := fun n hn => h n (List.mem_filter.1 hn).1
  have hdropped : removeHoles ⟨.sequence, a, ns⟩ = .ok ⟨.sequence, a, ns.filter (!·.isHole)⟩ := by
    rw [← dropHolesList_of_leaves h]
    rfl
  have hnone : assertNoHoles ⟨.sequence, a, ns.filter (!·.isHole)⟩ = .ok () := by
    unfold assertNoHoles
    rw [List.find?_eq_none.2]
    rw [Node.preorder_mk, preorderList_of_leaves hkept]
    refine List.forall_mem_cons.2 ⟨by simp [Node.isHole], fun n hn => ?_⟩
    simpa using (List.mem_filter.1 hn).2
  unfold pruned
  rw [hflat, hdropped, ok_bind, Node.flatten, flattenList_of_leaves hkept]
  dsimp only
  rw [hnone]
  rfl

theorem pruned_of_staged (h : ∀ n ∈ ns, Staged n) :
    pruned (PlotNode.sequence ns) = .ok (PlotNode.sequence (ns.filter (!·.isHole))) := by
  refine pruned_of_leaves ?_ fun n hn => (h n hn).isLeaf
  rw [PlotNode.sequence, Node.flatten, flattenList_of_staged h]

theorem padded_filter_isHole (h : ∀ n ∈ ns, Staged n) :
    Padded Eq Node.Unmarked (ns.filter (!·.isHole)) ns := by
  induction ns with
  | nil => exact .nil
  | cons n ns ih =>
    obtain ⟨hn, hns⟩ := List.forall_mem_cons.1 h
    cases hhole : n.isHole with
    | true =>
      rw [List.filter_cons_of_neg (by simp [hhole])]
      exact .put (hn.unmarked hhole) (ih hns)
    | false =>
      rw [List.filter_cons_of_pos (by simp [hhole])]
      exact .keep rfl (ih hns)

end Holes

/-! ## Plots on their way to the normal form -/

/-- A development at the place. -/
def Node.IsAt (n : PlotNode) (d : Development) (place : Object) : Prop :=
  n.development? = some d ∧ n.setting? = some place

/-- Developments from the introduction at home to the laugh at home, with everyone there in the end. -/
structure Rounded (home : Object) (ms : List PlotNode) : Prop where
  staged : ∀ m ∈ ms, Staged m
  developments : ∀ m ∈ ms, m.development?.isSome = true
  balanced : replay ms {} = .ok {}
  first : ∃ m, ms.head? = some m ∧ m.IsAt .introduction home
  last : ∃ m, ms.getLast? = some m ∧ m.IsAt .allLaugh home

/-- Is the development one of which two in a row are one? -/
def Node.isTension (n : PlotNode) : Bool :=
  n.development?.any Development.collapses

/-- No two in a row are one. -/
def Calm (ms : List PlotNode) : Prop :=
  ms.IsChain fun m k => ¬(m.isTension = true ∧ k.isTension = true)

/-! ## Repetitions -/

section Repetitions

variable {n : PlotNode} {ns : List PlotNode}

theorem isTension_iff {n : PlotNode} :
    n.isTension = true ↔ n.development? = some .awkwardTension := by
  simp [Node.isTension, Option.any_eq_true, Development.collapses]

theorem isRepetition_of_tension {m k : PlotNode} (hm : m.isTension = true)
    (hk : k.isTension = true) : isRepetition m k = true := by
  unfold Node.isTension at hm hk
  unfold isRepetition
  cases hd : m.development? with
  | none => simp [hd] at hm
  | some d =>
    cases he : k.development? with
    | none => simp [he] at hk
    | some e => simp_all [Development.collapses]

theorem isTension_of_isRepetition {m k : PlotNode} (h : isRepetition m k = true) :
    m.isTension = true ∧ k.isTension = true := by
  unfold isRepetition at h
  unfold Node.isTension
  split at h
  · rename_i d e hd he
    simp only [Bool.and_eq_true, decide_eq_true_eq] at h
    rw [hd, he, h.1]
    exact ⟨h.2, h.2⟩
  · cases h

theorem collapseAfter_sublist (last : PlotNode) (ns : List PlotNode) :
    (collapseAfter last ns).Sublist ns := by
  induction ns generalizing last with
  | nil => exact .slnil
  | cons n ns ih =>
    rw [collapseAfter]
    split
    · exact (ih last).cons n
    · exact (ih n).cons_cons n

theorem collapse_sublist (ns : List PlotNode) : (collapse ns).Sublist ns := by
  cases ns with
  | nil => exact .slnil
  | cons n ns => exact (collapseAfter_sublist n ns).cons_cons n

/-- What picks nothing that may be dropped picks the same as before. -/
theorem filter_collapseAfter {p : PlotNode → Bool} (hp : ∀ n, n.isTension = true → p n = false)
    (last : PlotNode) (ns : List PlotNode) : (collapseAfter last ns).filter p = ns.filter p := by
  induction ns generalizing last with
  | nil => rfl
  | cons n ns ih =>
    rw [collapseAfter]
    split
    · rename_i hrepeats
      rw [ih, List.filter_cons_of_neg (by simp [hp n (isTension_of_isRepetition hrepeats).2])]
    · rw [List.filter_cons, List.filter_cons, ih]

theorem filter_collapse {p : PlotNode → Bool} (hp : ∀ n, n.isTension = true → p n = false)
    (ns : List PlotNode) : (collapse ns).filter p = ns.filter p := by
  cases ns with
  | nil => rfl
  | cons n ns => rw [collapse, List.filter_cons, List.filter_cons, filter_collapseAfter hp]

theorem collapseAfter_calm (last : PlotNode) (ns : List PlotNode) :
    Calm (last :: collapseAfter last ns) := by
  induction ns generalizing last with
  | nil => exact .singleton last
  | cons n ns ih =>
    rw [collapseAfter]
    split
    · exact ih last
    · rename_i h
      exact .cons_cons (fun ht => h (isRepetition_of_tension ht.1 ht.2)) (ih n)

theorem collapse_calm (ns : List PlotNode) : Calm (collapse ns) := by
  cases ns with
  | nil => exact .nil
  | cons n ns => exact collapseAfter_calm n ns

theorem padded_collapseAfter (h : ∀ n ∈ ns, Staged n) (last : PlotNode) :
    Padded Eq Node.Unmarked (collapseAfter last ns) ns := by
  induction ns generalizing last with
  | nil => exact .nil
  | cons n ns ih =>
    obtain ⟨hn, hns⟩ := List.forall_mem_cons.1 h
    rw [collapseAfter]
    split
    · rename_i hrep
      exact .put (hn.repeats (isTension_of_isRepetition hrep).2) (ih hns last)
    · exact .keep rfl (ih hns n)

theorem padded_collapse (h : ∀ n ∈ ns, Staged n) :
    Padded Eq Node.Unmarked (collapse ns) ns := by
  cases ns with
  | nil => exact .nil
  | cons n ns => exact .keep rfl (padded_collapseAfter (List.forall_mem_cons.1 h).2 n)

theorem staged_collapse (h : ∀ n ∈ ns, Staged n) :
    ∀ n ∈ collapse (ns.filter (!·.isHole)), Staged n :=
  fun n hn => h n (List.mem_filter.1 ((collapse_sublist _).subset hn)).1

/-- What holds along a plot holds along it without its holes and repetitions. -/
theorem Along.collapse {P : Roster → PlotNode → Prop} {away : Roster} (hs : ∀ n ∈ ns, Staged n)
    (h : Along P away ns) : Along P away (SpaceOpera.collapse (ns.filter (!·.isHole))) := by
  have hkept : ∀ n ∈ ns.filter (!·.isHole), Staged n := fun n hn => hs n (List.mem_filter.1 hn).1
  exact .of_padded (padded_collapse hkept) (.of_padded (padded_filter_isHole hs) h)

theorem getLast?_collapseAfter {m : PlotNode} (hm : m.isTension = false)
    (h : ns.getLast? = some m) (last : PlotNode) :
    (collapseAfter last ns).getLast? = some m := by
  induction ns generalizing last with
  | nil => cases h
  | cons n ns ih =>
    rw [collapseAfter]
    cases ns with
    | nil =>
      obtain rfl : n = m := Option.some.inj h
      rw [if_neg fun hrep => ?_]
      · rfl
      · rw [(isTension_of_isRepetition hrep).2] at hm
        cases hm
    | cons k ks =>
      rw [List.getLast?_cons_cons] at h
      split
      · exact ih h last
      · rw [List.getLast?_cons, ih h n]
        rfl

theorem Node.IsAt.not_tension {m : PlotNode} {d : Development} {place : Object}
    (h : m.IsAt d place) (hd : d.collapses = false) : m.isTension = false := by
  rw [Node.isTension, h.1]
  exact hd

theorem Rounded.collapse {home : Object} (h : Rounded home ns) :
    Rounded home (collapse ns) := by
  have hmem : ∀ m ∈ SpaceOpera.collapse ns, m ∈ ns := fun m hm => (collapse_sublist ns).subset hm
  obtain ⟨staged, developments, balanced, first, last⟩ := h
  refine ⟨fun m hm => staged m (hmem m hm), fun m hm => developments m (hmem m hm), ?_, ?_, ?_⟩
  · rw [← replay_of_padded (padded_collapse staged), balanced]
  all_goals cases ns with
    | nil => assumption
    | cons n ns => ?_
  · exact first
  · obtain ⟨m, hm, hlaugh⟩ := last
    refine ⟨m, ?_, hlaugh⟩
    rw [SpaceOpera.collapse]
    cases ns with
    | nil => exact hm
    | cons k ks =>
      rw [List.getLast?_cons_cons] at hm
      rw [List.getLast?_cons, getLast?_collapseAfter (hlaugh.not_tension rfl) hm n]
      rfl

end Repetitions

/-! ## Commutation -/

section Commutation

variable {ns : List PlotNode}

/-- Does the node bring someone back in a way that may change places with a neighbour? -/
def Node.isRecovery (n : PlotNode) : Bool :=
  n.development?.any Development.isCommutable

theorem isRecovery_of_commutes {m k : PlotNode} (h : commutes m k = true) :
    m.isRecovery = true ∧ k.isRecovery = true := by
  simp only [commutes, Bool.and_eq_true] at h
  exact ⟨h.1.1.1, h.1.1.2⟩

theorem commuteFrom_perm (held : PlotNode) (ns : List PlotNode) :
    (commuteFrom held ns).Perm (held :: ns) := by
  induction ns generalizing held with
  | nil => exact .refl _
  | cons n ns ih =>
    rw [commuteFrom]
    split
    · exact ((ih held).cons n).trans (.swap held n ns)
    · exact (ih n).cons held

theorem commuteList_perm (ns : List PlotNode) : (commuteList ns).Perm ns := by
  cases ns with
  | nil => exact .refl _
  | cons n ns => exact commuteFrom_perm n ns

/-- What picks no recoveries picks the same as before. -/
theorem filter_commuteFrom {p : PlotNode → Bool} (hp : ∀ n, n.isRecovery = true → p n = false)
    (held : PlotNode) (ns : List PlotNode) :
    (commuteFrom held ns).filter p = (held :: ns).filter p := by
  induction ns generalizing held with
  | nil => rfl
  | cons n ns ih =>
    rw [commuteFrom]
    split
    · rename_i h
      obtain ⟨hheld, hn⟩ := isRecovery_of_commutes h
      have hneg : ∀ {m : PlotNode}, m.isRecovery = true → ¬p m = true := fun hm => by simp [hp _ hm]
      rw [List.filter_cons_of_neg (hneg hn), ih, List.filter_cons_of_neg (hneg hheld),
        List.filter_cons_of_neg (hneg hheld), List.filter_cons_of_neg (hneg hn)]
    · rw [List.filter_cons, ih, List.filter_cons (x := held)]

theorem filter_commuteList {p : PlotNode → Bool} (hp : ∀ n, n.isRecovery = true → p n = false)
    (ns : List PlotNode) : (commuteList ns).filter p = ns.filter p := by
  cases ns with
  | nil => rfl
  | cons n ns => exact filter_commuteFrom hp n ns

/-- Exchanges do not show to a view that makes no difference between recoveries. -/
theorem map_commuteFrom {β : Type} {f : PlotNode → β}
    (hf : ∀ m k, m.isRecovery = true → k.isRecovery = true → f m = f k)
    (held : PlotNode) (ns : List PlotNode) :
    (commuteFrom held ns).map f = (held :: ns).map f := by
  induction ns generalizing held with
  | nil => rfl
  | cons n ns ih =>
    rw [commuteFrom]
    split
    · rename_i h
      obtain ⟨hheld, hn⟩ := isRecovery_of_commutes h
      rw [List.map_cons, ih, List.map_cons, List.map_cons, List.map_cons, hf _ _ hheld hn]
    · rw [List.map_cons, ih, List.map_cons, List.map_cons, List.map_cons]

theorem map_commuteList {β : Type} {f : PlotNode → β}
    (hf : ∀ m k, m.isRecovery = true → k.isRecovery = true → f m = f k) (ns : List PlotNode) :
    (commuteList ns).map f = ns.map f := by
  cases ns with
  | nil => rfl
  | cons n ns => exact map_commuteFrom hf n ns

/-- Two who are brought back may come in either order. -/
theorem Node.Closes.swap {m k : PlotNode} {o p : Object} {away u v : Roster} (hm : m.Closes o)
    (hk : k.Closes p) (hu : m.track away = .ok u) (hv : k.track u = .ok v) :
    k.track away = .ok (away.erase p) ∧ m.track (away.erase p) = .ok v := by
  obtain ⟨ho, rfl⟩ := hm.contains_of_track hu
  obtain ⟨hp, rfl⟩ := hk.contains_of_track hv
  rw [Roster.contains_erase, Bool.and_eq_true, Bool.not_eq_true'] at hp
  have ho' : (away.erase p).contains o = true := by
    rw [Roster.contains_erase, ho, BEq.comm, hp.1]
    rfl
  rw [Roster.erase_comm]
  exact ⟨hk.track hp.2, hm.track ho'⟩

theorem replay_swap {m k : PlotNode} {o p : Object} {away after : Roster} (hm : m.Closes o)
    (hk : k.Closes p) (h : replay (m :: k :: ns) away = .ok after) :
    replay (k :: m :: ns) away = .ok after := by
  obtain ⟨u, hu, h⟩ := replay_cons_eq_ok h
  obtain ⟨v, hv, h⟩ := replay_cons_eq_ok h
  obtain ⟨hk, hm⟩ := hm.swap hk hu hv
  rw [replay_cons_ok hk, replay_cons_ok hm, h]

theorem replay_commuteFrom {held : PlotNode} {away after : Roster}
    (hs : ∀ n ∈ held :: ns, Staged n) (h : replay (held :: ns) away = .ok after) :
    replay (commuteFrom held ns) away = .ok after := by
  induction ns generalizing held away with
  | nil => exact h
  | cons n ns ih =>
    obtain ⟨hheld, hns⟩ := List.forall_mem_cons.1 hs
    obtain ⟨hn, hns⟩ := List.forall_mem_cons.1 hns
    rw [commuteFrom]
    split
    · rename_i hc
      obtain ⟨hrheld, hrn⟩ := isRecovery_of_commutes hc
      obtain ⟨o, ho⟩ := hheld.closes hrheld
      obtain ⟨p, hp⟩ := hn.closes hrn
      obtain ⟨next, ht, h⟩ := replay_cons_eq_ok (replay_swap ho hp h)
      rw [replay_cons_ok ht]
      exact ih (List.forall_mem_cons.2 ⟨hheld, hns⟩) h
    · obtain ⟨next, ht, h⟩ := replay_cons_eq_ok h
      rw [replay_cons_ok ht]
      exact ih (List.forall_mem_cons.2 ⟨hn, hns⟩) h

/-- A recovery is as good as any other; every other node is itself. -/
def unlessRecovery (n : PlotNode) : Option PlotNode :=
  if n.isRecovery then none else some n

theorem eq_of_unlessRecovery {o o' : Option PlotNode} {m : PlotNode} (hm : m.isRecovery = false)
    (h : o'.map unlessRecovery = o.map unlessRecovery) (ho : o = some m) : o' = some m := by
  subst ho
  obtain ⟨k, rfl, hk⟩ := Option.map_eq_some_iff.1 h
  unfold unlessRecovery at hk
  rw [hm] at hk
  split at hk
  · cases hk
  · cases hk
    rfl

theorem Node.IsAt.not_recovery {m : PlotNode} {d : Development} {place : Object}
    (h : m.IsAt d place) (hd : d.isCommutable = false) : m.isRecovery = false := by
  rw [Node.isRecovery, h.1]
  exact hd

theorem Rounded.commute {home : Object} (h : Rounded home ns) :
    Rounded home (commuteList ns) := by
  have hmem : ∀ m, m ∈ commuteList ns ↔ m ∈ ns := fun m => (commuteList_perm ns).mem_iff
  have hmap : (commuteList ns).map unlessRecovery = ns.map unlessRecovery :=
    map_commuteList (fun m k hm hk => by simp [unlessRecovery, hm, hk]) ns
  refine ⟨fun m hm => h.staged m ((hmem m).1 hm), fun m hm => h.developments m ((hmem m).1 hm),
    ?_, ?_, ?_⟩
  · cases ns with
    | nil => rfl
    | cons n ns => exact replay_commuteFrom h.staged h.balanced
  · obtain ⟨m, hm, hat⟩ := h.first
    refine ⟨m, eq_of_unlessRecovery (hat.not_recovery rfl) ?_ hm, hat⟩
    rw [← List.head?_map, hmap, List.head?_map]
  · obtain ⟨m, hm, hat⟩ := h.last
    refine ⟨m, eq_of_unlessRecovery (hat.not_recovery rfl) ?_ hm, hat⟩
    rw [← List.getLast?_map, hmap, List.getLast?_map]

theorem Calm.commute (h : Calm ns) : Calm (commuteList ns) := by
  have hnone : ∀ m : PlotNode, m.isRecovery = true → m.isTension = false := by
    intro m hm
    unfold Node.isRecovery at hm
    unfold Node.isTension
    cases hd : m.development? with
    | none => rfl
    | some d =>
      simp only [hd, Option.any_some, Development.isCommutable, Bool.or_eq_true,
        decide_eq_true_eq] at hm
      rcases hm with rfl | rfl <;> rfl
  have hmap : (commuteList ns).map Node.isTension = ns.map Node.isTension :=
    map_commuteList (fun m k hm hk => by rw [hnone m hm, hnone k hk]) ns
  unfold Calm at h ⊢
  rw [← List.isChain_map (R := fun a b : Bool => ¬(a = true ∧ b = true)) Node.isTension] at h ⊢
  rw [hmap]
  exact h

end Commutation

/-! ## Additions -/

/-- What only the passes of the normal form put into a plot. -/
def Development.inserted : List Development :=
  [journey, encounterNewSetting, itemForeshadowed, itemRecalled]

/-- A node that a pass puts in: one of the developments given, without markers. -/
structure Added (ds : List Development) (n : PlotNode) : Prop where
  development : ∃ d ∈ ds, n.development? = some d
  staged : Staged n
  unmarked : n.Unmarked

section Additions

variable {ns ms : List PlotNode} {ds : List Development} {home : Object}

theorem Rounded.padded (h : Rounded home ns) (hp : Padded Eq (Added ds) ns ms)
    (hfirst : ms.head? = ns.head?) (hlast : ms.getLast? = ns.getLast?) : Rounded home ms := by
  refine ⟨fun m hm => ?_, fun m hm => ?_, ?_, hfirst ▸ h.first, hlast ▸ h.last⟩
  · rcases hp.mem hm with ⟨k, hk, rfl⟩ | ha
    · exact h.staged _ hk
    · exact ha.staged
  · rcases hp.mem hm with ⟨k, hk, rfl⟩ | ha
    · exact h.developments _ hk
    obtain ⟨d, -, hd⟩ := ha.development
    rw [hd]
    rfl
  · rw [replay_of_padded (hp.imp (fun _ _ h => h) fun _ => Added.unmarked), h.balanced]

theorem Calm.padded (h : Calm ns) (hds : ∀ d ∈ ds, d.collapses = false)
    (hp : Padded Eq (Added ds) ns ms) : Calm ms := by
  have hnone : ∀ m, Added ds m → m.isTension = false := by
    intro m hm
    obtain ⟨d, hd, hm⟩ := hm.development
    rw [Node.isTension, hm]
    exact hds d hd
  refine hp.isChain (fun m k hm ht => ?_) (fun m k hk ht => ?_) h
  · exact absurd ((hnone m hm).symm.trans ht.1) Bool.false_ne_true
  · exact absurd ((hnone k hk).symm.trans ht.2) Bool.false_ne_true

theorem Added.mono {es : List Development} {n : PlotNode} (h : Added ds n) (hsub : ds ⊆ es) :
    Added es n := by
  obtain ⟨⟨d, hd, hn⟩, hstaged, hunmarked⟩ := h
  exact ⟨⟨d, hsub hd, hn⟩, hstaged, hunmarked⟩

/-- Additions to a list to which something has been added are additions. -/
theorem padded_added_trans {es fs : List Development} {ks : List PlotNode} (hds : ds ⊆ fs)
    (hes : es ⊆ fs) (h : Padded Eq (Added ds) ns ms) (k : Padded Eq (Added es) ms ks) :
    Padded Eq (Added fs) ns ks :=
  h.comp k (fun _ _ _ => Eq.trans) (fun _ _ hb heq => heq ▸ hb.mono hds) fun _ hc => hc.mono hes

end Additions

/-! ## Journeys -/

section Journeys

variable {ns : List PlotNode}

theorem addMissing_ne_nil (os more : List Object) (h : os ≠ [] ∨ more ≠ []) :
    addMissing os more ≠ [] := by
  unfold addMissing
  induction more generalizing os with
  | nil => exact h.elim id fun hne => absurd rfl hne
  | cons m more ih =>
    rw [List.foldl_cons]
    refine ih _ (Or.inl ?_)
    split
    · rename_i hm
      exact List.ne_nil_of_mem (List.contains_iff_exists_mem_beq.1 hm).choose_spec.1
    · exact List.append_ne_nil_of_right_ne_nil _ (List.cons_ne_nil _ _)

/-- Where someone acts, someone can travel on. -/
theorem travellers_ne_nil {n : PlotNode} (h : n.membersOf .subject ≠ []) : travellers n ≠ [] := by
  unfold travellers
  split
  · exact addMissing_ne_nil _ _ (Or.inr h)
  · rename_i hleaving
    exact hleaving

/-- The way to a next node elsewhere is a journey, unless the node before it is one. -/
theorem journeyBetween_eq_ok {last next : PlotNode} {js : List PlotNode}
    (h : journeyBetween last next = .ok js) :
    js = [] ∧ (last.development? = some .journey ∨ ∀ here there, last.setting? = some here →
        next.setting? = some there → (here == there) = true) ∨
      ∃ here there, last.setting? = some here ∧ next.setting? = some there ∧
        (here == there) = false ∧ ∃ party : Group, party.members = travellers last ∧
          js = [(PlotNode.ofDevelopment .journey here)
            |>.set .subject (.group party) |>.set .object (.object there)] := by
  unfold journeyBetween at h
  split at h
  · cases h
    exact .inl ⟨rfl, .inl ‹_›⟩
  split at h
  · rename_i here there hhere hthere
    split at h
    · rename_i hstay
      cases h
      refine .inl ⟨rfl, .inr fun here' there' hhere' hthere' => ?_⟩
      rwa [← Option.some.inj (hhere.symm.trans hhere'), ← Option.some.inj (hthere.symm.trans hthere')]
    · rename_i hway
      obtain ⟨party, hgroup, h⟩ := bind_eq_ok.1 h
      cases h
      unfold formGroup at hgroup
      split at hgroup
      · rename_i g hg
        cases hgroup
        exact .inr ⟨here, there, hhere, hthere, by simpa using hway, g, Group.members_of_ofList? hg, rfl⟩
      · cases hgroup
  · rename_i hnowhere
    cases h
    exact .inl ⟨rfl, .inr fun here there hhere hthere => (hnowhere here there hhere hthere).elim⟩

theorem added_of_journeyBetween {last next : PlotNode} {js : List PlotNode}
    (h : journeyBetween last next = .ok js) : ∀ j ∈ js, Added [.journey] j := by
  rcases journeyBetween_eq_ok h with ⟨rfl, -⟩ | ⟨here, there, -, -, -, party, -, rfl⟩
  · exact nofun
  simp only [List.mem_singleton, forall_eq]
  refine ⟨⟨.journey, List.mem_singleton.2 rfl, rfl⟩, ?_, ⟨rfl, rfl⟩⟩
  exact .told rfl rfl rfl rfl party.nonempty rfl rfl

theorem journeyBetween_ok {last : PlotNode} (h : last.membersOf .subject ≠ [])
    (next : PlotNode) : ∃ js, journeyBetween last next = .ok js := by
  unfold journeyBetween
  split
  · exact ⟨[], rfl⟩
  split
  · split
    · exact ⟨[], rfl⟩
    · rw [formGroup_eq_ok (travellers_ne_nil h)]
      exact ⟨_, rfl⟩
  · exact ⟨[], rfl⟩

theorem padded_travelAfter {last : PlotNode} {ms : List PlotNode} (h : travelAfter last ns = .ok ms) :
    Padded Eq (Added [.journey]) ns ms := by
  induction ns generalizing last ms with
  | nil =>
    cases h
    exact .nil
  | cons n ns ih =>
    rw [travelAfter] at h
    obtain ⟨js, hjs, h⟩ := bind_eq_ok.1 h
    obtain ⟨rest, hrest, h⟩ := bind_eq_ok.1 h
    cases h
    exact .putAll (added_of_journeyBetween hjs) (.keep rfl (ih hrest))

theorem travelAfter_ok {last : PlotNode}
    (h : ∀ n ∈ last :: ns, n.membersOf .subject ≠ []) :
    ∃ ms, travelAfter last ns = .ok ms ∧ ms.getLast? = ns.getLast? := by
  induction ns generalizing last with
  | nil => exact ⟨[], rfl, rfl⟩
  | cons n ns ih =>
    obtain ⟨hlast, hns⟩ := List.forall_mem_cons.1 h
    obtain ⟨js, hjs⟩ := journeyBetween_ok hlast n
    obtain ⟨ms, hms, hend⟩ := ih hns
    refine ⟨js ++ n :: ms, ?_, ?_⟩
    · rw [travelAfter, hjs]
      change (travelAfter n ns >>= _) = _
      rw [hms]
      rfl
    · rw [List.getLast?_append, List.getLast?_cons, List.getLast?_cons, hend]
      rfl

theorem insertJourneys_eq_ok {plot out : PlotNode} (h : insertJourneys plot = .ok out) :
    ∃ ms, out = plot.withChildren ms ∧ Padded Eq (Added [.journey]) plot.children ms := by
  unfold insertJourneys at h
  split at h
  · cases h
    obtain ⟨k, a, cs⟩ := plot
    exact ⟨cs, rfl, .refl _ _⟩
  · rename_i n ns hchildren
    obtain ⟨ms, hms, h⟩ := bind_eq_ok.1 h
    cases h
    exact ⟨n :: ms, rfl, hchildren ▸ .keep rfl (padded_travelAfter hms)⟩

theorem Rounded.insertJourneys {home : Object} (h : Rounded home ns) :
    ∃ ms, insertJourneys (PlotNode.sequence ns) = .ok (PlotNode.sequence ms) ∧
      Rounded home ms ∧ (Calm ns → Calm ms) := by
  have hsubject : ∀ n ∈ ns, n.membersOf .subject ≠ [] :=
    fun n hn => (h.staged n hn).subject (h.developments n hn)
  unfold SpaceOpera.insertJourneys
  cases ns with
  | nil => exact ⟨[], rfl, h, id⟩
  | cons n ns =>
    obtain ⟨ms, hms, hlast⟩ := travelAfter_ok hsubject
    have hwhole : Padded Eq (Added [.journey]) (n :: ns) (n :: ms) :=
      .keep rfl (padded_travelAfter hms)
    refine ⟨n :: ms, ?_, h.padded hwhole rfl ?_, fun hc => hc.padded (by decide) hwhole⟩
    · change (travelAfter n ns >>= _) = _
      rw [hms]
      rfl
    · rw [List.getLast?_cons, List.getLast?_cons, hlast]

theorem padded_insertJourneys {ms : List PlotNode}
    (h : insertJourneys (PlotNode.sequence ns) = .ok (PlotNode.sequence ms)) :
    Padded Eq (Added [.journey]) ns ms := by
  obtain ⟨ks, hks, hpadded⟩ := insertJourneys_eq_ok h
  cases hks
  exact hpadded

end Journeys

/-! ## Arrivals -/

section Arrivals

variable {ns : List PlotNode}

theorem arrival_eq_some {protagonists : List Object} {s : Object} {it : Itinerary} {n : PlotNode}
    (h : arrival protagonists s it = some n) :
    it.seen.contains s = false ∧ ∃ party : Group,
      party.members = availableOf protagonists it.unavailable ∧
      n = (PlotNode.ofDevelopment .encounterNewSetting s).set .subject (.group party) := by
  unfold arrival at h
  split at h
  · cases h
  · rename_i hseen
    obtain ⟨party, hparty, rfl⟩ := Option.map_eq_some_iff.1 h
    exact ⟨by simpa using hseen, party, Group.members_of_ofList? hparty, rfl⟩

theorem arrival_added {protagonists : List Object} {s : Object} {it : Itinerary} {a : PlotNode}
    (h : arrival protagonists s it = some a) : Added [.encounterNewSetting] a := by
  obtain ⟨-, party, -, rfl⟩ := arrival_eq_some h
  refine ⟨⟨.encounterNewSetting, List.mem_singleton.2 rfl, rfl⟩, ?_, ⟨rfl, rfl⟩⟩
  exact .told rfl rfl rfl rfl party.nonempty rfl rfl

theorem arrival_of_seen {protagonists : List Object} {s : Object} {it : Itinerary}
    (h : it.seen.contains s = true) : arrival protagonists s it = none := by
  unfold arrival
  rw [if_pos h]

theorem padded_arrive {protagonists : List Object} {it : Itinerary} {ms : List PlotNode}
    (h : arrive protagonists it ns = .ok ms) : Padded Eq (Added [.encounterNewSetting]) ns ms := by
  induction ns generalizing it ms with
  | nil =>
    cases h
    exact .nil
  | cons n ns ih =>
    rw [arrive] at h
    obtain ⟨next, -, h⟩ := bind_eq_ok.1 h
    dsimp only at h
    split at h
    · rename_i s a hfound
      obtain ⟨s', -, hfound⟩ := Option.bind_eq_some_iff.1 hfound
      obtain ⟨a', harrival, hsame⟩ := Option.map_eq_some_iff.1 hfound
      cases hsame
      obtain ⟨rest, hrest, h⟩ := bind_eq_ok.1 h
      cases h
      exact .put (arrival_added harrival) (.keep rfl (ih hrest))
    · obtain ⟨rest, hrest, h⟩ := bind_eq_ok.1 h
      cases h
      exact .keep rfl (ih hrest)

/-- Where the markers can be replayed, arrivals can be put in, and none of them last. -/
theorem arrive_ok (protagonists : List Object) (it : Itinerary) {after : Roster}
    (h : replay ns it.unavailable = .ok after) :
    ∃ ms, arrive protagonists it ns = .ok ms ∧ ms.getLast? = ns.getLast? := by
  induction ns generalizing it with
  | nil => exact ⟨[], rfl, rfl⟩
  | cons n ns ih =>
    obtain ⟨next, ht, h⟩ := replay_cons_eq_ok h
    rw [arrive, ht, ok_bind]
    dsimp only
    split
    · rename_i s a _
      obtain ⟨ms, hms, hlast⟩ := ih ⟨it.seen.insert s, next⟩ h
      refine ⟨a :: n :: ms, ?_, ?_⟩
      · rw [hms]
        rfl
      · rw [List.getLast?_cons_cons, List.getLast?_cons, List.getLast?_cons, hlast]
    · obtain ⟨ms, hms, hlast⟩ := ih ⟨it.seen, next⟩ h
      refine ⟨n :: ms, ?_, ?_⟩
      · rw [hms]
        rfl
      · rw [List.getLast?_cons, List.getLast?_cons, hlast]

theorem arrive_head? {protagonists : List Object} {it : Itinerary} {n : PlotNode} {s : Object}
    {ms : List PlotNode} (hs : n.setting? = some s) (hseen : it.seen.contains s = true)
    (h : arrive protagonists it (n :: ns) = .ok ms) : ms.head? = some n := by
  rw [arrive] at h
  obtain ⟨next, -, h⟩ := bind_eq_ok.1 h
  have hnone : arrival protagonists s { it with unavailable := next } = none :=
    arrival_of_seen hseen
  rw [hs] at h
  simp only [Option.bind_some, hnone, Option.map_none] at h
  obtain ⟨rest, -, h⟩ := bind_eq_ok.1 h
  cases h
  rfl

theorem Rounded.encounterNewSettings {w : World} {home : Object} (hhome : w.home? = some home)
    (h : Rounded home ns) :
    ∃ ms, encounterNewSettings w (PlotNode.sequence ns) = .ok (PlotNode.sequence ms) ∧
      Rounded home ms ∧ (Calm ns → Calm ms) := by
  obtain ⟨ms, hms, hlast⟩ := arrive_ok w.protagonists ⟨Roster.ofList [home], {}⟩ h.balanced
  have hpadded := padded_arrive hms
  refine ⟨ms, ?_, h.padded hpadded ?_ hlast, fun hc => hc.padded (by decide) hpadded⟩
  · unfold SpaceOpera.encounterNewSettings
    rw [hhome]
    change (arrive w.protagonists _ ns >>= _) = _
    rw [hms]
    rfl
  · obtain ⟨m, hm, -, hat⟩ := h.first
    cases ns with
    | nil => cases hm
    | cons n ns =>
      cases hm
      exact arrive_head? hat (by simp [Roster.contains_ofList]) hms

end Arrivals

/-! ## Lost items -/

section Items

variable {ns : List PlotNode} {home : Object}

/-- An item is shown behind the introduction and recalled behind a convalescence. -/
theorem followUp?_eq_some {n : PlotNode} {recalled : Bool} {d : Development}
    (h : followUp? n recalled = some d) :
    n.development? = some .introduction ∧ d = .itemForeshadowed ∨
      n.development? = some .convalescence ∧ d = .itemRecalled := by
  unfold followUp? at h
  split at h
  · rename_i hn
    cases h
    exact Or.inl ⟨hn, rfl⟩
  · rename_i hn
    split at h
    · cases h
    · cases h
      exact Or.inr ⟨hn, rfl⟩
  · cases h

theorem itemScene_eq_some_iff {item holder : Object} {n s : PlotNode} {recalled : Bool} :
    itemScene item holder n recalled = some s ↔
      ∃ d here others, followUp? n recalled = some d ∧ n.setting? = some here ∧
        Group.ofList? (without (n.membersOf .subject) holder) = some others ∧
        s = ((PlotNode.ofDevelopment d here)
          |>.set .subject (.object holder)
          |>.set .object (.object item)
          |>.set .bystanders (.group others)) := by
  simp only [itemScene, Option.bind_eq_bind, Option.bind_eq_some_iff, Option.pure_def,
    Option.some_inj, eq_comm (a := s)]
  constructor
  · rintro ⟨d, hd, here, hhere, others, hothers, hs⟩
    exact ⟨d, here, others, hd, hhere, hothers, hs⟩
  · rintro ⟨d, here, others, hd, hhere, hothers, hs⟩
    exact ⟨d, hd, here, hhere, others, hothers, hs⟩

theorem itemScene_added {item holder : Object} {n s : PlotNode} {recalled : Bool}
    (h : itemScene item holder n recalled = some s) :
    Added [.itemForeshadowed, .itemRecalled] s := by
  obtain ⟨d, _, _, hd, -, -, rfl⟩ := itemScene_eq_some_iff.1 h
  have hmem : d ∈ [Development.itemForeshadowed, .itemRecalled] := by
    rcases followUp?_eq_some hd with ⟨-, rfl⟩ | ⟨-, rfl⟩
    · exact List.mem_cons_self
    · exact List.mem_cons_of_mem _ List.mem_cons_self
  refine ⟨⟨d, hmem, rfl⟩, ?_, ⟨rfl, rfl⟩⟩
  refine .of_development rfl rfl rfl rfl (List.cons_ne_nil _ _) (fun hc => ?_) fun _ => ⟨rfl, rfl⟩
  rcases List.mem_pair.1 hmem with rfl | rfl <;> cases hc

theorem foreshadowItem_padded (item holder : Object) (recalled : Bool) (ns : List PlotNode) :
    Padded Eq (Added [.itemForeshadowed, .itemRecalled]) ns
      (foreshadowItem item holder recalled ns).1 := by
  induction ns generalizing recalled with
  | nil => exact .nil
  | cons n ns ih =>
    rw [foreshadowItem]
    split
    · rename_i s hs
      exact .keep rfl (.put (itemScene_added hs) (ih _))
    · exact .keep rfl (ih recalled)

theorem foreshadowItem_head? (item holder : Object) (recalled : Bool) (ns : List PlotNode) :
    (foreshadowItem item holder recalled ns).1.head? = ns.head? := by
  cases ns with
  | nil => rfl
  | cons n ns =>
    rw [foreshadowItem]
    split <;> rfl

theorem foreshadowItem_getLast? (item holder : Object) {m : PlotNode}
    (hm : ∀ recalled, followUp? m recalled = none) (recalled : Bool)
    (h : ns.getLast? = some m) :
    (foreshadowItem item holder recalled ns).1.getLast? = some m := by
  induction ns generalizing recalled with
  | nil => cases h
  | cons n ns ih =>
    rw [foreshadowItem]
    cases ns with
    | nil =>
      obtain rfl : n = m := Option.some.inj h
      have hnone : itemScene item holder n recalled = none := by
        unfold itemScene
        rw [hm recalled]
        rfl
      rw [hnone]
      rfl
    | cons k ks =>
      rw [List.getLast?_cons_cons] at h
      split
      · rw [List.getLast?_cons_cons, List.getLast?_cons, ih _ h]
        rfl
      · rw [List.getLast?_cons, ih _ h]
        rfl

theorem Rounded.foreshadowItem (h : Rounded home ns) (item holder : Object) (recalled : Bool) :
    Rounded home (foreshadowItem item holder recalled ns).1 := by
  have hpadded := foreshadowItem_padded item holder recalled ns
  refine h.padded hpadded (foreshadowItem_head? _ _ _ _) ?_
  obtain ⟨m, hm, hlaugh, -⟩ := h.last
  rw [hm]
  exact foreshadowItem_getLast? item holder (fun _ => by simp [followUp?, hlaugh]) recalled hm

/-- What the scenes of one item keep, the scenes of all items keep. -/
theorem foreshadowItems_rec {P : List PlotNode → Prop} (plot : PlotNode) (h : P plot.children)
    (hitem : ∀ item holder recalled ns, P ns →
      P (SpaceOpera.foreshadowItem item holder recalled ns).1) :
    ∃ ms, foreshadowItems plot = plot.withChildren ms ∧ P ms := by
  refine ⟨_, rfl, ?_⟩
  refine List.foldlRecOn (motive := fun r : List PlotNode × Bool => P r.1) _ _ h ?_
  exact fun r hr e _ => hitem e.1 e.2 r.2 r.1 hr

theorem foreshadowItems_head? (plot : PlotNode) :
    (foreshadowItems plot).children.head? = plot.children.head? := by
  obtain ⟨ms, hms, hhead⟩ := foreshadowItems_rec plot
    (P := fun ms => ms.head? = plot.children.head?) rfl fun item holder recalled ns hns =>
      (foreshadowItem_head? item holder recalled ns).trans hns
  rw [hms]
  exact hhead

theorem padded_foreshadowItems (plot : PlotNode) :
    Padded Eq (Added [.itemForeshadowed, .itemRecalled]) plot.children
      (foreshadowItems plot).children := by
  obtain ⟨ms, hms, hpadded⟩ := foreshadowItems_rec plot
    (P := Padded Eq (Added [.itemForeshadowed, .itemRecalled]) plot.children) (.refl _ _)
    fun item holder recalled _ hns => padded_added_trans (List.Subset.refl _) (List.Subset.refl _) hns
      (foreshadowItem_padded item holder recalled _)
  rw [hms]
  exact hpadded

theorem foreshadowItems_induction {P : List PlotNode → Prop} (h : P ns)
    (hitem : ∀ item holder recalled ns, P ns →
      P (SpaceOpera.foreshadowItem item holder recalled ns).1) :
    ∃ ms, foreshadowItems (PlotNode.sequence ns) = PlotNode.sequence ms ∧ P ms :=
  foreshadowItems_rec (PlotNode.sequence ns) h hitem

theorem foreshadowItems_rounded (h : Rounded home ns) (hc : Calm ns) :
    ∃ ms, foreshadowItems (PlotNode.sequence ns) = PlotNode.sequence ms ∧ Rounded home ms ∧
      Calm ms := by
  refine foreshadowItems_induction (P := fun ms => Rounded home ms ∧ Calm ms) ⟨h, hc⟩ ?_
  rintro item holder recalled ks ⟨h, hc⟩
  exact ⟨h.foreshadowItem _ _ _, hc.padded (by decide) (foreshadowItem_padded _ _ _ _)⟩

end Items

/-! ## All together -/

theorem Node.IsAt.isHole_eq_false {n : PlotNode} {d : Development} {place : Object}
    (h : n.IsAt d place) : n.isHole = false := by
  obtain ⟨k, a, cs⟩ := n
  obtain ⟨hd, -⟩ := h
  cases k with
  | hole rules => cases hd
  | sequence | development => rfl

theorem Staged.development_isSome {n : PlotNode} (h : Staged n) (hhole : n.isHole = false) :
    n.development?.isSome = true := by
  obtain ⟨k, a, cs⟩ := n
  cases k with
  | sequence => exact absurd rfl h.kind
  | hole rules => cases hhole
  | development d => rfl

theorem rounded_of_staged {home : Object} {ns : List PlotNode} (hs : ∀ n ∈ ns, Staged n)
    (hr : replay ns {} = .ok {}) (hfirst : ∃ m, ns.head? = some m ∧ m.IsAt .introduction home)
    (hlast : ∃ m, ns.getLast? = some m ∧ m.IsAt .allLaugh home) :
    Rounded home (ns.filter (!·.isHole)) := by
  refine ⟨fun m hm => hs m (List.mem_filter.1 hm).1, fun m hm => ?_, ?_, ?_, ?_⟩
  · obtain ⟨hm, hhole⟩ := List.mem_filter.1 hm
    exact (hs m hm).development_isSome (by simpa using hhole)
  · rw [← replay_of_padded (padded_filter_isHole hs), hr]
  · obtain ⟨m, hm, hat⟩ := hfirst
    obtain ⟨ms, rfl⟩ := List.head?_eq_some_iff.1 hm
    refine ⟨m, ?_, hat⟩
    rw [List.filter_cons_of_pos (by rw [hat.isHole_eq_false]; rfl), List.head?_cons]
  · obtain ⟨m, hm, hat⟩ := hlast
    obtain ⟨ms, rfl⟩ := List.getLast?_eq_some_iff.1 hm
    refine ⟨m, ?_, hat⟩
    rw [List.filter_append, List.filter_cons_of_pos (by rw [hat.isHole_eq_false]; rfl),
      List.filter_nil, List.getLast?_concat]

theorem Rounded.developments_eq {home : Object} {ks : List PlotNode} (h : Rounded home ks) :
    (PlotNode.sequence ks).developments = ks := by
  have hflat : (PlotNode.sequence ks).flatten = PlotNode.sequence ks := by
    rw [PlotNode.sequence, Node.flatten, flattenList_of_staged h.staged]
  rw [← hflat, developments_of_staged h.staged h.developments]

/-- The developments of a flat plot in the order in which they are connected. -/
def ordered (ns : List PlotNode) : List PlotNode :=
  commuteList (collapse (ns.filter (!·.isHole)))

theorem mem_of_mem_ordered {ns : List PlotNode} {m : PlotNode} (h : m ∈ ordered ns) :
    m ∈ ns ∧ m.isHole = false := by
  have hfiltered := (collapse_sublist _).subset ((commuteList_perm _).mem_iff.1 h)
  simpa using List.mem_filter.1 hfiltered

/-- The passes that a normal form has gone through. -/
theorem normalize_passes {w : World} {plot flat out : PlotNode} (hflat : pruned plot = .ok flat)
    (h : normalize w plot = .ok out) :
    ∃ home ks ls, w.home? = some home ∧
      insertJourneys (flat.withChildren (commuteList (collapse flat.children))) =
        .ok (flat.withChildren ks) ∧
      arrive w.protagonists ⟨Roster.ofList [home], {}⟩ ks = .ok ls ∧
      out = foreshadowItems (flat.withChildren ls) := by
  unfold normalize at h
  rw [hflat, ok_bind] at h
  obtain ⟨travelled, hjourneys, h⟩ := bind_eq_ok.1 h
  obtain ⟨ks, rfl, -⟩ := insertJourneys_eq_ok hjourneys
  obtain ⟨arrived, harrived, h⟩ := bind_eq_ok.1 h
  cases h
  unfold encounterNewSettings at harrived
  split at harrived
  · cases harrived
  · rename_i home hhome
    obtain ⟨ls, hls, harrived⟩ := bind_eq_ok.1 harrived
    cases harrived
    exact ⟨home, ks, ls, hhome, hjourneys, hls, rfl⟩

theorem normalize_eq_ok {w : World} {ns : List PlotNode} {plot : PlotNode}
    (hs : ∀ n ∈ ns, Staged n) (h : normalize w (PlotNode.sequence ns) = .ok plot) :
    ∃ home ks ls, w.home? = some home ∧
      insertJourneys (PlotNode.sequence (ordered ns)) = .ok (PlotNode.sequence ks) ∧
      arrive w.protagonists ⟨Roster.ofList [home], {}⟩ ks = .ok ls ∧
      plot = foreshadowItems (PlotNode.sequence ls) :=
  normalize_passes (pruned_of_staged hs) h

/-- The last pass is given the developments as they are connected, with the journeys and the arrivals. -/
theorem normalize_eq_foreshadowItems {w : World} {plot flat out : PlotNode}
    (hflat : pruned plot = .ok flat) (h : normalize w plot = .ok out) :
    ∃ ls, out = foreshadowItems (flat.withChildren ls) ∧
      Padded Eq (Added [.journey, .encounterNewSetting]) (commuteList (collapse flat.children)) ls := by
  obtain ⟨home, ks, ls, -, hjourneys, harrivals, rfl⟩ := normalize_passes hflat h
  obtain ⟨ks', hks, hjourneyed⟩ := insertJourneys_eq_ok hjourneys
  cases hks
  exact ⟨ls, rfl, padded_added_trans (by decide) (by decide) hjourneyed (padded_arrive harrivals)⟩

/-- The plot that expansion returns has a normal form. -/
theorem normalize_ok {w : World} {home : Object} {ns : List PlotNode}
    (hhome : w.home? = some home) (hs : ∀ n ∈ ns, Staged n) (hr : replay ns {} = .ok {})
    (hfirst : ∃ m, ns.head? = some m ∧ m.IsAt .introduction home)
    (hlast : ∃ m, ns.getLast? = some m ∧ m.IsAt .allLaugh home) :
    ∃ ms, normalize w (PlotNode.sequence ns) = .ok (PlotNode.sequence ms) ∧
      Rounded home ms ∧ Calm ms := by
  have hpruned := rounded_of_staged hs hr hfirst hlast
  obtain ⟨ks, hks, hrounded, hcalm⟩ := hpruned.collapse.commute.insertJourneys
  obtain ⟨ls, hls, hrounded, hcalm'⟩ := hrounded.encounterNewSettings hhome
  obtain ⟨ms, hms, hrounded, hcalm⟩ :=
    foreshadowItems_rounded hrounded (hcalm' (hcalm (collapse_calm _).commute))
  refine ⟨ms, ?_, hrounded, hcalm⟩
  unfold normalize
  rw [pruned_of_staged hs, ok_bind]
  have hjourneys : insertJourneys (commute (removeRepetition
      (PlotNode.sequence (ns.filter (!·.isHole))))) = .ok (PlotNode.sequence ks) := hks
  rw [hjourneys, ok_bind, hls, ok_bind, hms]
  rfl

end SpaceOpera
