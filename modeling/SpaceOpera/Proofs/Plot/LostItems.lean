import SpaceOpera.Proofs.Plot.Normalization

/-!
# The scenes of lost items

Where an introduction comes first and one convalescence later, the last pass of the normal form shows every
lost item behind the introduction, the last in the order of names first, and recalls behind the convalescence
the first of which someone hears (`foreshadowItems_eq`).  The ledger of lost items has each of them once, with
whoever loses it first (`lostItems_distinct`, `get?_lostItems`).
-/

namespace SpaceOpera

/-! ## Scenes -/

/-- Does the node give occasion to a scene of an item? -/
def Node.isOccasion (n : PlotNode) : Bool :=
  n.development? = some .introduction || n.development? = some .convalescence

section Scenes

variable {item holder : Object} {n introduction convalescence : PlotNode} {ns as bs : List PlotNode}

theorem Node.isOccasion_eq_false_iff :
    n.isOccasion = false ↔
      n.development? ≠ some .introduction ∧ n.development? ≠ some .convalescence := by
  simp [Node.isOccasion]

theorem itemScene_of_not_occasion (h : n.isOccasion = false) (recalled : Bool) :
    itemScene item holder n recalled = none := by
  obtain ⟨hintroduction, hconvalescence⟩ := Node.isOccasion_eq_false_iff.1 h
  unfold itemScene
  cases hd : followUp? n recalled with
  | none => rfl
  | some d =>
    rcases followUp?_eq_some hd with ⟨hn, -⟩ | ⟨hn, -⟩
    · exact absurd hn hintroduction
    · exact absurd hn hconvalescence

theorem not_occasion_of_itemScene {recalled : Bool} {s : PlotNode}
    (h : itemScene item holder n recalled = some s) : s.isOccasion = false := by
  obtain ⟨⟨d, hd, hs⟩, -, -⟩ := itemScene_added h
  rw [Node.isOccasion_eq_false_iff, hs]
  rcases List.mem_pair.1 hd with rfl | rfl
  · exact ⟨by decide, by decide⟩
  · exact ⟨by decide, by decide⟩

/-- A showing does not depend on what has been recalled. -/
theorem itemScene_introduction (h : n.development? = some .introduction) (recalled : Bool) :
    itemScene item holder n recalled = itemScene item holder n false := by
  unfold itemScene followUp?
  rw [h]

/-- Nothing is recalled twice. -/
theorem itemScene_recalled (h : n.development? = some .convalescence) :
    itemScene item holder n true = none := by
  unfold itemScene followUp?
  rw [h]
  rfl

theorem development?_of_itemScene {recalled : Bool} {s : PlotNode}
    (h : itemScene item holder n recalled = some s) : s.development? = followUp? n recalled := by
  obtain ⟨d, _, _, hd, -, -, rfl⟩ := itemScene_eq_some_iff.1 h
  exact hd.symm

theorem values_of_itemScene {recalled : Bool} {s : PlotNode}
    (h : itemScene item holder n recalled = some s) :
    s.objectIn .object = some item ∧ s.objectIn .subject = some holder ∧
      s.membersOf .bystanders = without (n.membersOf .subject) holder := by
  obtain ⟨_, _, _, -, -, hothers, rfl⟩ := itemScene_eq_some_iff.1 h
  exact ⟨rfl, rfl, Group.members_of_ofList? hothers⟩

/-- Where someone besides the holder is there, there is a scene. -/
theorem itemScene_isSome {recalled : Bool} {d : Development} (hd : followUp? n recalled = some d)
    (hs : n.setting?.isSome = true) (hothers : without (n.membersOf .subject) holder ≠ []) :
    (itemScene item holder n recalled).isSome = true := by
  obtain ⟨here, hhere⟩ := Option.isSome_iff_exists.1 hs
  have hgroup : Group.ofList? (without (n.membersOf .subject) holder) = some ⟨_, hothers⟩ :=
    dif_neg hothers
  exact Option.isSome_iff_exists.2 ⟨_, itemScene_eq_some_iff.2 ⟨d, here, _, hd, hhere, hgroup, rfl⟩⟩

theorem foreshadowItem_cons (recalled : Bool) (n : PlotNode) (ns : List PlotNode) :
    foreshadowItem item holder recalled (n :: ns) =
      let rest := foreshadowItem item holder (recalled ||
        (itemScene item holder n recalled).any (·.development? = some .itemRecalled)) ns
      (n :: ((itemScene item holder n recalled).toList ++ rest.1), rest.2) := by
  rw [foreshadowItem]
  cases itemScene item holder n recalled with
  | none => simp
  | some s => rfl

theorem foreshadowItem_append (h : ∀ n ∈ as, n.isOccasion = false) (recalled : Bool) :
    foreshadowItem item holder recalled (as ++ bs) =
      (as ++ (foreshadowItem item holder recalled bs).1, (foreshadowItem item holder recalled bs).2) := by
  induction as with
  | nil => rfl
  | cons n as ih =>
    obtain ⟨hn, has⟩ := List.forall_mem_cons.1 h
    rw [List.cons_append, foreshadowItem_cons, itemScene_of_not_occasion hn, Option.any_none,
      Bool.or_false, ih has]
    rfl

theorem foreshadowItem_of_not_occasion (h : ∀ n ∈ ns, n.isOccasion = false) (recalled : Bool) :
    foreshadowItem item holder recalled ns = (ns, recalled) := by
  have hwhole : foreshadowItem item holder recalled (ns ++ []) = _ := foreshadowItem_append h recalled
  rwa [List.append_nil, foreshadowItem, List.append_nil] at hwhole

theorem foreshadowItem_introduction (hn : n.development? = some .introduction) (recalled : Bool) :
    foreshadowItem item holder recalled (n :: ns) =
      (n :: ((itemScene item holder n false).toList ++ (foreshadowItem item holder recalled ns).1),
        (foreshadowItem item holder recalled ns).2) := by
  have hshown : (itemScene item holder n false).any (·.development? = some .itemRecalled) = false := by
    rw [Option.any_eq_false]
    intro s hs
    rw [development?_of_itemScene hs, followUp?, hn]
    rfl
  rw [foreshadowItem_cons, itemScene_introduction hn, hshown, Bool.or_false]

theorem foreshadowItem_convalescence (hn : n.development? = some .convalescence)
    (hns : ∀ m ∈ ns, m.isOccasion = false) (recalled : Bool) :
    foreshadowItem item holder recalled (n :: ns) =
      (n :: ((itemScene item holder n recalled).toList ++ ns),
        recalled || (itemScene item holder n recalled).isSome) := by
  have hrecalled : (itemScene item holder n recalled).any (·.development? = some .itemRecalled) =
      (itemScene item holder n recalled).isSome := by
    cases hs : itemScene item holder n recalled with
    | none => rfl
    | some s =>
      cases recalled with
      | true => cases (itemScene_recalled hn).symm.trans hs
      | false =>
        rw [Option.any_some, development?_of_itemScene hs, followUp?, hn]
        rfl
  rw [foreshadowItem_cons, hrecalled, foreshadowItem_of_not_occasion hns]

/-- One item, where the introduction comes first and one convalescence later. -/
theorem foreshadowItem_framed (hintroduction : introduction.development? = some .introduction)
    (hconvalescence : convalescence.development? = some .convalescence)
    (has : ∀ n ∈ as, n.isOccasion = false) (hbs : ∀ n ∈ bs, n.isOccasion = false) (recalled : Bool) :
    foreshadowItem item holder recalled (introduction :: (as ++ convalescence :: bs)) =
      (introduction :: ((itemScene item holder introduction false).toList ++ as ++
          convalescence :: ((itemScene item holder convalescence recalled).toList ++ bs)),
        recalled || (itemScene item holder convalescence recalled).isSome) := by
  rw [foreshadowItem_introduction hintroduction, foreshadowItem_append has,
    foreshadowItem_convalescence hconvalescence hbs, List.append_assoc]

/-- What is recalled of several items behind a convalescence: the first of which someone hears. -/
def recollection (convalescence : PlotNode) (recalled : Bool) (es : List (Object × Object)) :
    Option PlotNode :=
  if recalled then none else es.findSome? fun e => itemScene e.1 e.2 convalescence false

/-- What is shown of several items behind an introduction: the last first. -/
def showings (introduction : PlotNode) (es : List (Object × Object)) : List PlotNode :=
  es.reverse.filterMap fun e => itemScene e.1 e.2 introduction false

theorem foldl_foreshadowItem (hintroduction : introduction.development? = some .introduction)
    (hconvalescence : convalescence.development? = some .convalescence) (es : List (Object × Object))
    (has : ∀ n ∈ as, n.isOccasion = false) (hbs : ∀ n ∈ bs, n.isOccasion = false) (recalled : Bool) :
    (es.foldl (fun (ns, recalled) e => foreshadowItem e.1 e.2 recalled ns)
        (introduction :: (as ++ convalescence :: bs), recalled)).1 =
      introduction :: (showings introduction es ++ as ++
        convalescence :: ((recollection convalescence recalled es).toList ++ bs)) := by
  induction es generalizing as bs recalled with
  | nil => cases recalled <;> rfl
  | cons e es ih =>
    have hquiet : ∀ {n : PlotNode} {recalled : Bool} {ns : List PlotNode},
        (∀ m ∈ ns, m.isOccasion = false) →
        ∀ m ∈ (itemScene e.1 e.2 n recalled).toList ++ ns, m.isOccasion = false :=
      fun hns => List.forall_mem_append.2
        ⟨fun m hm => not_occasion_of_itemScene (Option.mem_toList.1 hm), hns⟩
    rw [List.foldl_cons]
    dsimp only
    rw [foreshadowItem_framed hintroduction hconvalescence has hbs, ih (hquiet has) (hquiet hbs)]
    have hshown : showings introduction (e :: es) =
        showings introduction es ++ (itemScene e.1 e.2 introduction false).toList := by
      rw [showings, List.reverse_cons, List.filterMap_append]
      rfl
    have hrecalled : (recollection convalescence
          (recalled || (itemScene e.1 e.2 convalescence recalled).isSome) es).toList ++
            (itemScene e.1 e.2 convalescence recalled).toList =
        (recollection convalescence recalled (e :: es)).toList := by
      cases recalled with
      | true =>
        rw [itemScene_recalled hconvalescence]
        rfl
      | false =>
        unfold recollection
        rw [List.findSome?_cons]
        cases itemScene e.1 e.2 convalescence false <;> simp
    rw [hshown, ← hrecalled]
    simp only [List.append_assoc]

/-- The scenes of all items, where the introduction comes first and one convalescence later. -/
theorem foreshadowItems_eq {plot : PlotNode}
    (hplot : plot.children = introduction :: (as ++ convalescence :: bs))
    (hintroduction : introduction.development? = some .introduction)
    (hconvalescence : convalescence.development? = some .convalescence)
    (has : ∀ n ∈ as, n.isOccasion = false) (hbs : ∀ n ∈ bs, n.isOccasion = false) :
    foreshadowItems plot = plot.withChildren (introduction ::
      (showings introduction (lostItems plot).entries ++ as ++
        convalescence :: ((recollection convalescence false (lostItems plot).entries).toList ++ bs))) := by
  unfold foreshadowItems
  rw [hplot]
  exact congrArg plot.withChildren
    (foldl_foreshadowItem hintroduction hconvalescence _ has hbs false)

end Scenes

/-! ## Ledgers -/

namespace Ledger

variable {β : Type} {o : Object} {b : β} {l : Ledger β}

/-- No two entries are of one object. -/
def Distinct (l : Ledger β) : Prop :=
  l.entries.Pairwise fun e f => (e.1 == f.1) = false

theorem insertEntry_perm {es : List (Object × β)} (h : ∀ e ∈ es, (o == e.1) = false) (b : β) :
    (insertEntry o b es).Perm ((o, b) :: es) := by
  induction es with
  | nil => exact .refl _
  | cons e es ih =>
    obtain ⟨he, hes⟩ := List.forall_mem_cons.1 h
    rw [insertEntry, if_neg (by simp [he])]
    split
    · exact .refl _
    · exact ((ih hes).cons e).trans (.swap _ _ _)

theorem get?_eq_none_iff : l.get? o = none ↔ ∀ e ∈ l.entries, (o == e.1) = false := by
  simp [get?, List.find?_eq_none]

theorem Distinct.insert (h : l.Distinct) (ho : l.get? o = none) (b : β) : (l.insert o b).Distinct := by
  have hnew := get?_eq_none_iff.1 ho
  unfold Distinct Ledger.insert
  rw [(insertEntry_perm hnew b).pairwise_iff fun h => by rwa [BEq.comm] at h]
  exact List.pairwise_cons.2 ⟨hnew, h⟩

theorem exists_of_get? (h : l.get? o = some b) : ∃ e ∈ l.entries, (o == e.1) = true ∧ e.2 = b := by
  obtain ⟨e, he, rfl⟩ := Option.map_eq_some_iff.1 h
  exact ⟨e, List.mem_of_find?_eq_some he, by simpa using List.find?_some he, rfl⟩

theorem Distinct.filter_eq (h : l.Distinct) {e : Object × β} (he : e ∈ l.entries)
    (ho : (o == e.1) = true) : l.entries.filter (o == ·.1) = [e] := by
  unfold Distinct at h
  generalize l.entries = es at h he
  induction es with
  | nil => exact absurd he List.not_mem_nil
  | cons f es ih =>
    obtain ⟨hf, hes⟩ := List.pairwise_cons.1 h
    rcases List.mem_cons.1 he with rfl | he
    · have hrest : es.filter (o == ·.1) = [] := by
        rw [List.filter_eq_nil_iff]
        intro e' he'
        rw [BEq.congr_left ho, hf e' he']
        exact Bool.false_ne_true
      rw [List.filter_cons, if_pos ho, hrest]
    · have hne : (o == f.1) = false := by
        rw [BEq.congr_left ho, BEq.comm]
        exact hf e he
      rw [List.filter_cons_of_neg (by simp [hne]), ih hes he]

theorem Distinct.get?_of_mem (h : l.Distinct) {e : Object × β} (he : e ∈ l.entries) :
    l.get? e.1 = some e.2 := by
  rw [get?, ← List.head?_filter, h.filter_eq he BEq.rfl]
  rfl

end Ledger

/-! ## Losses -/

/-- Does the node tell of the item in a development of the kind? -/
def Node.concerns (d : Development) (item : Object) (n : PlotNode) : Bool :=
  n.development? = some d && n.objectIn .object == some item

/-- The ledger of losers with the loss that a node tells of, if it is the first of its item. -/
def recordLoss (holders : Ledger Object) (n : PlotNode) : Ledger Object :=
  if n.development? = some .loseItem then
    match n.objectIn .object, n.objectIn .subject with
    | some item, some holder =>
      if (holders.get? item).isSome then holders else holders.insert item holder
    | _, _ => holders
  else holders

section Losses

variable {plot n : PlotNode} {ns : List PlotNode} {item : Object}

theorem lostItems_eq_foldl (plot : PlotNode) :
    lostItems plot = plot.developments.foldl recordLoss {} := rfl

theorem Ledger.Distinct.recordLoss {holders : Ledger Object} (h : holders.Distinct) (n : PlotNode) :
    (recordLoss holders n).Distinct := by
  unfold SpaceOpera.recordLoss
  split
  · split
    · split
      · exact h
      · rename_i hnew
        exact h.insert (Option.not_isSome_iff_eq_none.1 hnew) _
    · exact h
  · exact h

/-- Every item that is lost has one entry. -/
theorem lostItems_distinct (plot : PlotNode) : (lostItems plot).Distinct := by
  rw [lostItems_eq_foldl]
  exact List.foldlRecOn (motive := Ledger.Distinct) _ _ .nil fun _ h n _ => h.recordLoss n

theorem get?_recordLoss (holders : Ledger Object) (n : PlotNode) (item : Object) :
    (recordLoss holders n).get? item = (holders.get? item).or
      (if n.concerns .loseItem item then n.objectIn .subject else none) := by
  unfold recordLoss Node.concerns
  by_cases hd : n.development? = some .loseItem
  · rw [if_pos hd]
    cases hobject : n.objectIn .object with
    | none => simp
    | some lost =>
      cases hsubject : n.objectIn .subject with
      | none => simp
      | some loser =>
        dsimp only
        by_cases hsame : item == lost
        · have hget := holders.get?_congr hsame
          cases hknown : holders.get? lost with
          | none => simp [hd, hknown, hget, Ledger.get?_insert, hsame, BEq.comm (a := lost)]
          | some held => simp [hknown, hget]
        · split
          · simp [hd, hsame, BEq.comm (a := lost)]
          · simp [hd, hsame, Ledger.get?_insert, BEq.comm (a := lost)]
  · simp [hd]

/-- The ledger holds whoever loses an item first. -/
theorem get?_lostItems (plot : PlotNode) (item : Object) :
    (lostItems plot).get? item = plot.developments.findSome? fun n =>
      if n.concerns .loseItem item then n.objectIn .subject else none := by
  have hfold : ∀ (ns : List PlotNode) (holders : Ledger Object),
      (ns.foldl recordLoss holders).get? item = (holders.get? item).or (ns.findSome? fun n =>
        if n.concerns .loseItem item then n.objectIn .subject else none) := by
    intro ns
    induction ns with
    | nil => simp
    | cons n ns ih =>
      intro holders
      rw [List.foldl_cons, ih, get?_recordLoss, Option.or_assoc, List.findSome?_cons]
      cases if n.concerns .loseItem item then n.objectIn .subject else none <;> rfl
  rw [lostItems_eq_foldl, hfold, Ledger.get?_empty, Option.none_or]

theorem get?_lostItems_of_find? {lost : PlotNode} {loser : Object}
    (h : plot.developments.find? (·.concerns .loseItem item) = some lost)
    (hloser : lost.objectIn .subject = some loser) : (lostItems plot).get? item = some loser := by
  obtain ⟨hlost, before, behind, hsplit, hbefore⟩ := List.find?_eq_some_iff_append.1 h
  have hnone : (before.findSome? fun n =>
      if n.concerns .loseItem item then n.objectIn .subject else none) = none := by
    rw [List.findSome?_eq_none_iff]
    intro n hn
    rw [if_neg (by simpa using hbefore n hn)]
  rw [get?_lostItems, hsplit, List.findSome?_append, hnone, Option.none_or, List.findSome?_cons,
    if_pos hlost, hloser]

theorem exists_loss_of_mem_lostItems {e : Object × Object} (he : e ∈ (lostItems plot).entries) :
    ∃ n ∈ plot.developments, n.concerns .loseItem e.1 = true ∧ n.objectIn .subject = some e.2 := by
  have hget := (lostItems_distinct plot).get?_of_mem he
  rw [get?_lostItems] at hget
  obtain ⟨n, hn, hloser⟩ := List.exists_of_findSome?_eq_some hget
  split at hloser
  · exact ⟨n, hn, ‹_›, hloser⟩
  · cases hloser

end Losses

end SpaceOpera
