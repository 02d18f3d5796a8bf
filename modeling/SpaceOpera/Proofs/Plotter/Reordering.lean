import SpaceOpera.Proofs.Plotter.Overtaking

/-!
# What commutation reorders

Commutation treats its two kinds of recoveries alike, and a node that has just moved back is compared again.  In
an expanded plot nevertheless only items are recovered early: whoever is still to be rescued cannot take part in
what comes before, so no rescue moves ahead of another recovery.  Number the nodes before the exchanges and each
of them can be followed: one that ends up ahead of one before it overtakes it, and one that neither overtakes
nor is overtaken stays in its place (`commute_overtakes`).
-/

namespace SpaceOpera

/-! ## Orders -/

/-- Numbered elements in a new order.  One that stands ahead of another with a smaller number is related to it,
and one that stands ahead of none such and behind none with a greater number is where its number says, counted
from `start`, unless its number is smaller than that. -/
structure Reordered {α : Type} (R : α → α → Prop) (start : Nat) (numbered order : List (α × Nat)) : Prop where
  perm : order.Perm numbered
  overtakes : order.Pairwise fun a b => b.2 < a.2 → R a.1 b.1
  stays : ∀ i a, order[i]? = some a → start ≤ a.2 → a.2 = start + i ∨
    (∃ b, [b, a].Sublist order ∧ a.2 < b.2) ∨ ∃ b, [a, b].Sublist order ∧ b.2 < a.2

namespace Reordered

variable {α : Type} {R : α → α → Prop} {held n : α} {ns : List α} {start i : Nat}
  {order : List (α × Nat)}

theorem singleton (hi : i ≤ start) : Reordered R start [(held, i)] [(held, i)] := by
  refine ⟨.refl _, List.pairwise_singleton _ _, fun j a ha hstart => Or.inl ?_⟩
  obtain ⟨rfl, rfl⟩ : j = 0 ∧ (held, i) = a := by
    cases j with
    | zero => exact ⟨rfl, Option.some.inj ha⟩
    | succ j => cases ha
  exact Nat.le_antisymm hi hstart

/-- The next element is put ahead of the one that is held. -/
theorem ahead (hi : i ≤ start) (hn : R n held)
    (h : Reordered R (start + 1) ((held, i) :: ns.zipIdx (start + 2)) order) :
    Reordered R start ((held, i) :: (n :: ns).zipIdx (start + 1)) ((n, start + 1) :: order) := by
  have hbehind : ∀ b ∈ order, b = (held, i) ∨ start + 2 ≤ b.2 := by
    intro b hb
    rcases List.mem_cons.1 (h.perm.mem_iff.1 hb) with rfl | hb
    · exact Or.inl rfl
    · exact Or.inr (List.le_snd_of_mem_zipIdx hb)
  refine ⟨?_, List.pairwise_cons.2 ⟨fun b hb hlt => ?_, h.overtakes⟩, fun j a ha hstart => ?_⟩
  · rw [List.zipIdx_cons]
    exact (h.perm.cons _).trans (.swap _ _ _)
  · rcases hbehind b hb with rfl | hle
    · exact hn
    · omega
  · cases j with
    | zero =>
      obtain rfl := Option.some.inj ha
      have hheld : (held, i) ∈ order := h.perm.mem_iff.2 List.mem_cons_self
      exact Or.inr (Or.inr ⟨_, (List.singleton_sublist.2 hheld).cons_cons _, Nat.lt_succ_of_le hi⟩)
    | succ j =>
      have ha : order[j]? = some a := ha
      rcases Nat.lt_or_ge a.2 (start + 1) with hlt | hge
      · have hmem := List.mem_of_getElem? ha
        exact Or.inr (Or.inl ⟨_, (List.singleton_sublist.2 hmem).cons_cons _, hlt⟩)
      · rcases h.stays j a ha hge with hplace | ⟨b, hb, hlt⟩ | ⟨b, hb, hlt⟩
        · exact Or.inl (by omega)
        · exact Or.inr (Or.inl ⟨b, hb.cons _, hlt⟩)
        · exact Or.inr (Or.inr ⟨b, hb.cons _, hlt⟩)

/-- The next element is held in place of the one that was. -/
theorem behind (hi : i ≤ start)
    (h : Reordered R (start + 1) ((n, start + 1) :: ns.zipIdx (start + 2)) order) :
    Reordered R start ((held, i) :: (n :: ns).zipIdx (start + 1)) ((held, i) :: order) := by
  have hbehind : ∀ b ∈ order, start + 1 ≤ b.2 := by
    intro b hb
    rcases List.mem_cons.1 (h.perm.mem_iff.1 hb) with rfl | hb
    · exact Nat.le_refl _
    · exact Nat.le_of_succ_le (List.le_snd_of_mem_zipIdx hb)
  refine ⟨?_, List.pairwise_cons.2 ⟨fun b hb hlt => ?_, h.overtakes⟩, fun j a ha hstart => ?_⟩
  · rw [List.zipIdx_cons]
    exact h.perm.cons _
  · have := hbehind b hb
    omega
  · cases j with
    | zero =>
      obtain rfl := Option.some.inj ha
      exact Or.inl (Nat.le_antisymm hi hstart)
    | succ j =>
      have ha : order[j]? = some a := ha
      rcases h.stays j a ha (hbehind a (List.mem_of_getElem? ha)) with
        hplace | ⟨b, hb, hlt⟩ | ⟨b, hb, hlt⟩
      · exact Or.inl (by omega)
      · exact Or.inr (Or.inl ⟨b, hb.cons _, hlt⟩)
      · exact Or.inr (Or.inr ⟨b, hb.cons _, hlt⟩)

end Reordered

/-! ## Overtaking -/

section Recoveries

variable {w : World} {away : Roster} {held n : PlotNode} {ns : List PlotNode}

/-- The later node recovers an item where the earlier one, a recovery too, takes place, and none but those who
take part in the earlier one take part in it. -/
structure Overtakes (later earlier : PlotNode) : Prop where
  item : later.development? = some .recoverItem
  recovery : earlier.development? = some .rescue ∨ earlier.development? = some .recoverItem
  place : (earlier.setting? == later.setting?) = true
  covered : later.involvedCharacters.subset earlier.involvedCharacters = true

theorem overtakes_of_commutes (hcast : ∀ o ∈ w.protagonists, o.isCharacter = true)
    (hheld : BringsBack w held) (hn : BringsBack w n) (hcommutes : commutes held n = true)
    (h : Along (Fair w) away (held :: n :: ns)) : Overtakes n held := by
  have hrecovery := (isRecovery_of_commutes hcommutes).1
  obtain ⟨o, ho⟩ := hheld.returns hrecovery
  have hitem := recoverItem_of_covered hcast ho hn.restores hcommutes h
  simp only [commutes, Bool.and_eq_true] at hcommutes
  exact ⟨hitem, (hheld hrecovery).imp And.left And.left, hcommutes.1.2, hcommutes.2⟩

/-- The exchanges put the nodes in an order in which those that came up overtake. -/
theorem reordered_commuteFrom (hcast : ∀ o ∈ w.protagonists, o.isCharacter = true)
    (hrecovers : ∀ n ∈ held :: ns, BringsBack w n) (h : Along (Fair w) away (held :: ns))
    {start i : Nat} (hi : i ≤ start) :
    ∃ order, order.map Prod.fst = commuteFrom held ns ∧
      Reordered Overtakes start ((held, i) :: ns.zipIdx (start + 1)) order := by
  induction ns generalizing held away start i with
  | nil => exact ⟨[(held, i)], rfl, .singleton hi⟩
  | cons n ns ih =>
    obtain ⟨hr, hrecovers⟩ := List.forall_mem_cons.1 hrecovers
    obtain ⟨hr', hrecovers⟩ := List.forall_mem_cons.1 hrecovers
    rw [commuteFrom]
    split
    · rename_i hcommutes
      obtain ⟨next, -, hnext⟩ := h.exchange hr.restores hr'.restores hcommutes
      obtain ⟨order, horder, hreordered⟩ :=
        ih (List.forall_mem_cons.2 ⟨hr, hrecovers⟩) hnext (Nat.le_succ_of_le hi)
      refine ⟨(n, start + 1) :: order, congrArg (n :: ·) horder, ?_⟩
      exact .ahead hi (overtakes_of_commutes hcast hr hr' hcommutes h) hreordered
    · obtain ⟨-, next, -, hnext⟩ := h
      obtain ⟨order, horder, hreordered⟩ :=
        ih (List.forall_mem_cons.2 ⟨hr', hrecovers⟩) hnext (Nat.le_refl (start + 1))
      exact ⟨(held, i) :: order, congrArg (held :: ·) horder, .behind hi hreordered⟩

end Recoveries

/-! ## Commuted plots -/

/-- In an expanded plot without its holes and repetitions the only nodes that move ahead are recoveries of items,
and they move ahead of recoveries that cover them and of nothing else; a node stays in its place unless it
overtakes another one or is overtaken. -/
theorem commute_overtakes (p : Plotter) (hsettings : p.world.settings ≠ [])
    (hcast : p.world.protagonists ≠ [])
    (hcharacters : ∀ o ∈ p.world.protagonists, o.isCharacter = true) (hw : p.world.Distinct)
    (depth : Nat) (n : Narration) :
    ∃ plot rough, ((p.expand depth).run.run n).1 = .ok plot ∧ pruned plot = .ok rough ∧
      ∃ order, order.map Prod.fst = (commute (removeRepetition rough)).children ∧
        order.Perm (removeRepetition rough).children.zipIdx ∧
        (order.Pairwise fun a b => b.2 < a.2 → Overtakes a.1 b.1) ∧
        ∀ i a, order[i]? = some a → a.2 = i ∨
          (∃ b, [b, a].Sublist order ∧ a.2 < b.2) ∨ ∃ b, [a, b].Sublist order ∧ b.2 < a.2 := by
  have hnever : ∀ e, p.seedPlot = .error e → False := seedPlot_ne_error hsettings hcast
  obtain ⟨plot, hplot, home, cast, ms, rfl, hms⟩ :=
    (expand_ends (I := fun _ => True) hnever depth n trivial).1.ok_of_no_error
  refine ⟨_, _, hplot, pruned_of_staged hms.staged, ?_⟩
  have hfair := (hms.fair hw).collapse hms.staged
  have hrecovers : ∀ m ∈ collapse (ms.filter (!·.isHole)), BringsBack p.world m :=
    fun m hm => hms.bringsBack m (List.mem_filter.1 ((collapse_sublist _).subset hm)).1
  change ∃ order : List (PlotNode × Nat),
    order.map Prod.fst = commuteList (collapse (ms.filter (!·.isHole))) ∧
      order.Perm (collapse (ms.filter (!·.isHole))).zipIdx ∧ _
  generalize collapse (ms.filter (!·.isHole)) = ns at hfair hrecovers
  cases ns with
  | nil => exact ⟨[], rfl, .refl _, .nil, nofun⟩
  | cons m ns =>
    obtain ⟨order, horder, hreordered⟩ :=
      reordered_commuteFrom hcharacters hrecovers hfair (Nat.le_refl 0)
    refine ⟨order, horder, hreordered.perm, hreordered.overtakes, fun i a ha => ?_⟩
    simpa using hreordered.stays i a ha (Nat.zero_le _)

/-- Where items are lost and people kidnapped in the hideout and nothing else, an item is recovered ahead of a
rescue. -/
theorem commute_overtakes_hideout :
    ∃ w, (hideout.build.run.run (.ofSeed 0)).1 = .ok w ∧ w.settings ≠ [] ∧ w.protagonists ≠ [] ∧
      (∀ o ∈ w.protagonists, o.isCharacter = true) ∧ w.Distinct ∧
      let p : Plotter := ⟨w, Rule.all.filter (· ∉ [.kidnapping, .lostItem])⟩
      ∃ plot rough, ((p.expand 2).run.run ⟨.ofSeed 0, #[]⟩).1 = .ok plot ∧ pruned plot = .ok rough ∧
        (commute (removeRepetition rough)).children.map Node.development? ≠
          (removeRepetition rough).children.map Node.development? ∧
        ∃ order, order.map Prod.fst = (commute (removeRepetition rough)).children ∧
          order.Perm (removeRepetition rough).children.zipIdx ∧
          (order.Pairwise fun a b => b.2 < a.2 → Overtakes a.1 b.1) ∧
          ∀ i a, order[i]? = some a → a.2 = i ∨
            (∃ b, [b, a].Sublist order ∧ a.2 < b.2) ∨ ∃ b, [a, b].Sublist order ∧ b.2 < a.2 := by
  have hmoves : ((hideout.build.run.run (.ofSeed 0)).1.toOption.any fun w =>
      (w.protagonists.Pairwise fun a b => (a == b) = false) &&
      (∀ o ∈ w.protagonists, ∀ x ∈ w.macguffins ++ w.antagonists, (o == x) = false) &&
      (((⟨w, Rule.all.filter (· ∉ [.kidnapping, .lostItem])⟩ : Plotter).expand 2).run.run
        ⟨.ofSeed 0, #[]⟩).1.toOption.any fun plot => (pruned plot).toOption.any fun rough =>
          (commute (removeRepetition rough)).children.map Node.development? ≠
            (removeRepetition rough).children.map Node.development?) = true := by
    decide +kernel
  obtain ⟨w, hw, hmoves⟩ := any_toOption.1 hmoves
  obtain ⟨hdistinct, hmoves⟩ := Bool.and_eq_true_iff.1 hmoves
  obtain ⟨hapart, hothers⟩ := Bool.and_eq_true_iff.1 hdistinct
  have hdistinct : w.Distinct := ⟨of_decide_eq_true hapart, of_decide_eq_true hothers⟩
  have hworld : w.Built := by
    have hends := (build_ends (I := fun _ => True) hideout (.ofSeed 0) trivial).1
    rwa [hw] at hends
  have hcharacters : ∀ o ∈ w.protagonists, o.isCharacter = true :=
    fun o ho => (hworld.dweller o (List.mem_append_left _ ho)).character
  refine ⟨w, hw, hworld.settings, hworld.protagonists, hcharacters, hdistinct, ?_⟩
  obtain ⟨plot, rough, hplot, hrough, horder⟩ :=
    commute_overtakes ⟨w, Rule.all.filter (· ∉ [.kidnapping, .lostItem])⟩ hworld.settings
      hworld.protagonists hcharacters hdistinct 2 ⟨.ofSeed 0, #[]⟩
  obtain ⟨plot', hplot', hmoves⟩ := any_toOption.1 hmoves
  obtain ⟨rough', hrough', hmoves⟩ := any_toOption.1 hmoves
  obtain rfl := Except.ok.inj (hplot.symm.trans hplot')
  obtain rfl := Except.ok.inj (hrough.symm.trans hrough')
  exact ⟨plot, rough, hplot, hrough, of_decide_eq_true hmoves, horder⟩

end SpaceOpera
