import SpaceOpera.Proofs.Plotter.Presence
import SpaceOpera.Proofs.Plotter.Writing
import SpaceOpera.Proofs.World.Built

/-!
# Recoveries that overtake a rescue

A recovery moves ahead of the one before it where nobody takes part in it who does not take part in that one.
The captive counts among those who take part in a rescue, so an item may be recovered ahead of the rescue of
someone who helps to recover it (`hideout_captive_helps`).  Nothing else goes wrong: whoever takes part in a
node of a commuted plot is there, unless the node recovers an item and their rescue follows in the same place
with nothing but such recoveries before it (`commute_attended`).
-/

namespace SpaceOpera

/-- The rescue of the object in the place, behind nothing but recoveries of items. -/
def Awaits (place : Option Object) (o : Object) (ns : List PlotNode) : Prop :=
  ∃ items m rest, ns = items ++ m :: rest ∧ (∀ i ∈ items, i.development? = some .recoverItem) ∧
    m.development? = some .rescue ∧ (m.setting? == place) = true ∧ m.Closes o

/-- Whoever of the protagonists takes part in a node is there, or is about to be rescued where an item is
recovered with their help. -/
inductive Attended (w : World) : Roster → List PlotNode → Prop
  | nil {away : Roster} : Attended w away []
  | cons {away after : Roster} {n : PlotNode} {ns : List PlotNode}
      (hn : ∀ o ∈ w.protagonists, n.TakesPart o → away.contains o = false ∨
        n.development? = some .recoverItem ∧ Awaits n.setting? o ns)
      (ht : n.track away = .ok after) (h : Attended w after ns) : Attended w away (n :: ns)

section Overtaking

variable {p : Plotter} {w : World} {home o : Object} {cast : Group} {away after : Roster}
  {m n held : PlotNode} {ns ms : List PlotNode}

/-! ## Being there -/

theorem IsThere.erase (h : IsThere w away o) (x : Object) : IsThere w (away.erase x) o := by
  intro p hp hpo
  rw [Roster.contains_erase, h p hp hpo, Bool.and_false]

theorem Staffed.erase (h : Staffed w away) (x : Object) : Staffed w (away.erase x) := by
  have hkept : ∀ p, away.contains p = false → (away.erase x).contains p = false := by
    intro p hp
    rw [Roster.contains_erase, hp, Bool.and_false]
  obtain ⟨p, hp, hthere⟩ := h.someone
  exact ⟨fun p hp hlead => hkept p (h.leads p hp hlead), p, hp, hkept p hthere⟩

theorem Fair.erase (h : Fair w away n) (x : Object) : Fair w (away.erase x) n :=
  ⟨h.toStaffed.erase x, fun m hm => (h.subjects m hm).erase x,
    fun m hm => (h.bystanders m hm).erase x⟩

/-! ## Recoveries -/

/-- The node brings the captive back, and names nobody but those who act, the captive and those who look
on. -/
structure Node.Rescues (n : PlotNode) (captive : Object) : Prop where
  development : n.development? = some .rescue
  closes : n.Closes captive
  captive : n.membersOf .object = [captive]
  nobody : n.membersOf .object2 = []

/-- The node brings the object back, and names nobody but those who act, the object and those who look on. -/
structure Node.Returns (n : PlotNode) (o : Object) : Prop where
  closes : n.Closes o
  returned : n.membersOf .object = [o]
  nobody : n.membersOf .object2 = []

theorem Node.Rescues.returns (h : n.Rescues o) : n.Returns o :=
  ⟨h.closes, h.captive, h.nobody⟩

/-- The node brings the item back. -/
structure Node.Retrieves (n : PlotNode) (item : Object) : Prop where
  development : n.development? = some .recoverItem
  closes : n.Closes item

/-- If the node is a recovery, it is a rescue of one of the protagonists or brings an item back. -/
def Restores (w : World) (n : PlotNode) : Prop :=
  n.isRecovery = true →
    (∃ o ∈ w.protagonists, n.Rescues o) ∨ ∃ o ∈ w.macguffins, n.Retrieves o

theorem Restores.closes (h : Restores w n) (hn : n.isRecovery = true) : ∃ o, n.Closes o := by
  rcases h hn with ⟨o, -, ho⟩ | ⟨o, -, ho⟩ <;> exact ⟨o, ho.closes⟩

/-- If the node is a recovery, it is a rescue that returns one of the protagonists, or it returns an item. -/
def BringsBack (w : World) (n : PlotNode) : Prop :=
  n.isRecovery = true →
    (n.development? = some .rescue ∧ ∃ o ∈ w.protagonists, n.Returns o) ∨
      n.development? = some .recoverItem ∧ ∃ o ∈ w.macguffins, n.Returns o

theorem BringsBack.of_not (h : n.isRecovery = false) : BringsBack w n := by
  intro hrecovery
  cases h.symm.trans hrecovery

theorem BringsBack.returns (h : BringsBack w n) (hn : n.isRecovery = true) : ∃ o, n.Returns o := by
  rcases h hn with ⟨-, o, -, ho⟩ | ⟨-, o, -, ho⟩ <;> exact ⟨o, ho⟩

theorem BringsBack.restores (h : BringsBack w n) : Restores w n := by
  intro hn
  rcases h hn with ⟨hrescue, o, ho, hreturns⟩ | ⟨hitem, o, ho, hreturns⟩
  · exact Or.inl ⟨o, ho, hrescue, hreturns.closes, hreturns.returned, hreturns.nobody⟩
  · exact Or.inr ⟨o, ho, hitem, hreturns.closes⟩

/-- None but a kidnapping and the loss of an item tell of a recovery. -/
theorem Development.rule?_of_isCommutable {d : Development} (h : d.isCommutable = true) :
    d.rule? = some .kidnapping ∨ d.rule? = some .lostItem := by
  cases d with
  | rescue => exact Or.inl rfl
  | recoverItem => exact Or.inr rfl
  | _ => cases h

theorem Stages.bringsBack {hole : PlotNode} {here : Object} {a : Assignment} {cs : List PlotNode}
    (ha : Assigned w away hole here a) (h : Stages w here a cs) : ∀ c ∈ cs, BringsBack w c := by
  cases a with
  | kidnapping villain abductee others lair =>
    obtain ⟨-, -, hchosen, -⟩ := ha
    obtain ⟨_, _, rfl⟩ := h
    have habductee := (mem_availableOf.1 hchosen.mem).1
    simp only [Subplot.kidnapping, List.forall_mem_cons, List.not_mem_nil, false_implies,
      implies_true, and_true]
    refine ⟨.of_not rfl, .of_not rfl, .of_not rfl, fun _ => Or.inl ⟨rfl, abductee, habductee, ?_⟩⟩
    exact ⟨⟨rfl, rfl⟩, rfl, rfl⟩
  | lostItem loser protagonists item =>
    obtain ⟨-, -, hitem⟩ := ha
    obtain ⟨_, _, _, -, rfl⟩ := h
    have hitem := (mem_availableOf.1 hitem).1
    simp only [Subplot.lostItem, List.forall_mem_cons, List.not_mem_nil, false_implies,
      implies_true, and_true]
    refine ⟨.of_not rfl, .of_not rfl, fun _ => Or.inr ⟨rfl, item, hitem, ?_⟩⟩
    exact ⟨⟨rfl, rfl⟩, rfl, rfl⟩
  | _ =>
    intro c hc hrecovery
    obtain ⟨d, hd, hcommutes⟩ := (Option.any_eq_true _ _).1 hrecovery
    rcases Development.rule?_of_isCommutable hcommutes with hrule | hrule
    · cases (h.rule?_eq hc hd).symm.trans hrule
    · cases (h.rule?_eq hc hd).symm.trans hrule

theorem Expanded.bringsBack (h : Expanded p home cast ms) : ∀ m ∈ ms, BringsBack p.world m := by
  refine h.invariant (P := fun ms => ∀ m ∈ ms, BringsBack p.world m) ?_ fun ns ks hns hks =>
    hks.forall_mem ?_ hns
  · simp only [seedNodes, List.forall_mem_cons, List.not_mem_nil, false_implies, implies_true,
      and_true]
    exact ⟨.of_not rfl, .of_not rfl, .of_not rfl, .of_not rfl⟩
  · rintro away hole cs - ⟨_, _, _, -, -, -, -, ha, hcs⟩
    exact hcs.bringsBack ha

/-! ## Exchanges -/

theorem contains_of_subset {r s : Roster} (h : r.subset s = true) (ho : r.contains o = true) :
    s.contains o = true := by
  obtain ⟨m, hm, hom⟩ := List.any_eq_true.1 ho
  rw [Roster.contains_congr s hom]
  exact List.all_eq_true.1 h m hm

theorem contains_involvedCharacters :
    n.involvedCharacters.contains o = true ↔
      ∃ r ∈ Node.involvedRoles, ∃ m ∈ n.membersOf r, m.isCharacter = true ∧ (o == m) = true := by
  unfold Node.involvedCharacters
  rw [Roster.contains_ofList]
  simp only [List.any_eq_true, List.mem_filter, List.mem_flatMap]
  constructor
  · rintro ⟨m, ⟨⟨r, hr, hm⟩, hcharacter⟩, hom⟩
    exact ⟨r, hr, m, hm, hcharacter, hom⟩
  · rintro ⟨r, hr, m, hm, hcharacter, hom⟩
    exact ⟨m, ⟨⟨r, hr, hm⟩, hcharacter⟩, hom⟩

/-- A recovery that moves ahead of another one leaves whoever is there for the other one there. -/
theorem Along.exchange (hheld : Restores w held) (hn : Restores w n)
    (hcommutes : commutes held n = true) (h : Along (Fair w) away (held :: n :: ns)) :
    ∃ next, n.track away = .ok next ∧ Along (Fair w) next (held :: ns) := by
  obtain ⟨hr, hr'⟩ := isRecovery_of_commutes hcommutes
  obtain ⟨o, ho⟩ := hheld.closes hr
  obtain ⟨x, hx⟩ := hn.closes hr'
  obtain ⟨hfair, u, hu, -, v, hv, hns⟩ := h
  obtain ⟨hfirst, hsecond⟩ := ho.swap hx hu hv
  exact ⟨_, hfirst, hfair.erase x, v, hsecond, hns⟩

/-- What moves ahead of a recovery brings an item back: someone who is still to be rescued is not there to take
part in the recovery. -/
theorem recoverItem_of_covered (hcast : ∀ o ∈ w.protagonists, o.isCharacter = true)
    {x : Object} (hheld : held.Returns x) (hn : Restores w n)
    (hcommutes : commutes held n = true) (h : Along (Fair w) away (held :: n :: ns)) :
    n.development? = some .recoverItem := by
  rcases hn (isRecovery_of_commutes hcommutes).2 with ⟨o, ho, hrescues⟩ | ⟨o, -, hretrieves⟩
  · obtain ⟨hfair, u, hu, -, v, hv, -⟩ := h
    obtain ⟨-, rfl⟩ := hheld.closes.contains_of_track hu
    obtain ⟨haway, -⟩ := hrescues.closes.contains_of_track hv
    rw [Roster.contains_erase, Bool.and_eq_true, Bool.not_eq_true'] at haway
    have hinvolved : n.involvedCharacters.contains o = true := by
      refine contains_involvedCharacters.2 ⟨.object, by decide, o, ?_, hcast o ho, BEq.rfl⟩
      rw [hrescues.captive]
      exact List.mem_singleton_self o
    simp only [commutes, Bool.and_eq_true] at hcommutes
    obtain ⟨r, hr, m, hm, -, hom⟩ :=
      contains_involvedCharacters.1 (contains_of_subset hcommutes.2 hinvolved)
    have hthere : m ∈ held.membersOf .subject ++ held.membersOf .bystanders → False := by
      intro hm
      cases haway.2.symm.trans (hfair.there ho ⟨m, hm, hom⟩)
    simp only [Node.involvedRoles, List.mem_cons, List.not_mem_nil, or_false] at hr
    rcases hr with rfl | rfl | rfl | rfl
    · exact (hthere (List.mem_append_left _ hm)).elim
    · rw [hheld.returned, List.mem_singleton] at hm
      subst hm
      cases haway.1.symm.trans (BEq.symm hom)
    · rw [hheld.nobody] at hm
      exact absurd hm List.not_mem_nil
    · exact (hthere (List.mem_append_right _ hm)).elim
  · exact hretrieves.development

/-- What moves ahead of a rescue brings an item back: another captive does not take part in the rescue. -/
theorem recoverItem_of_commutes (hcast : ∀ o ∈ w.protagonists, o.isCharacter = true)
    {captive : Object} (hheld : held.Rescues captive) (hn : Restores w n)
    (hcommutes : commutes held n = true) (h : Along (Fair w) away (held :: n :: ns)) :
    n.development? = some .recoverItem :=
  recoverItem_of_covered hcast hheld.returns hn hcommutes h

/-- A rescue that is held back waits for items only. -/
theorem commuteFrom_rescue (hcast : ∀ o ∈ w.protagonists, o.isCharacter = true)
    {captive : Object} (hheld : held.Rescues captive) (hrestores : ∀ n ∈ held :: ns, Restores w n)
    (h : Along (Fair w) away (held :: ns)) :
    ∃ items rest, commuteFrom held ns = items ++ held :: rest ∧
      ∀ i ∈ items, i.development? = some .recoverItem := by
  induction ns generalizing away with
  | nil => exact ⟨[], [], rfl, by simp⟩
  | cons n ns ih =>
    obtain ⟨hr, hrestores⟩ := List.forall_mem_cons.1 hrestores
    obtain ⟨hr', hrestores⟩ := List.forall_mem_cons.1 hrestores
    rw [commuteFrom]
    split
    · rename_i hcommutes
      obtain ⟨next, -, hnext⟩ := h.exchange hr hr' hcommutes
      obtain ⟨items, rest, hsplit, hitems⟩ :=
        ih (List.forall_mem_cons.2 ⟨hr, hrestores⟩) hnext
      have hitem := recoverItem_of_commutes hcast hheld hr' hcommutes h
      exact ⟨n :: items, rest, by rw [hsplit]; rfl, List.forall_mem_cons.2 ⟨hitem, hitems⟩⟩
    · exact ⟨[], commuteFrom n ns, rfl, by simp⟩

/-- Exchanges make nobody take part who is away, but for those who are about to be rescued. -/
theorem attended_of_commuteFrom (hw : w.Distinct)
    (hcast : ∀ o ∈ w.protagonists, o.isCharacter = true)
    (hrestores : ∀ n ∈ held :: ns, Restores w n) (h : Along (Fair w) away (held :: ns)) :
    Attended w away (commuteFrom held ns) := by
  induction ns generalizing held away with
  | nil =>
    obtain ⟨hfair, after, ht, -⟩ := h
    exact .cons (fun o ho htakes => Or.inl (hfair.there ho htakes)) ht .nil
  | cons n ns ih =>
    obtain ⟨hr, hrestores⟩ := List.forall_mem_cons.1 hrestores
    obtain ⟨hr', hrestores⟩ := List.forall_mem_cons.1 hrestores
    rw [commuteFrom]
    split
    · rename_i hcommutes
      obtain ⟨next, ht, hnext⟩ := h.exchange hr hr' hcommutes
      have hrest := List.forall_mem_cons.2 ⟨hr, hrestores⟩
      refine .cons (fun o ho htakes => ?_) ht (ih hrest hnext)
      have hcase := hr (isRecovery_of_commutes hcommutes).1
      obtain ⟨-, u, hu, hfair, -⟩ := id h
      have hthere := hfair.there ho htakes
      rcases hcase with ⟨captive, hcaptive, hrescues⟩ | ⟨item, hitem, hretrieves⟩
      · obtain ⟨-, rfl⟩ := hrescues.closes.contains_of_track hu
        rw [Roster.contains_erase, Bool.and_eq_false_iff, Bool.not_eq_false'] at hthere
        rcases hthere with hsame | hthere
        · obtain rfl := hw.eq_of_beq hcaptive ho hsame
          obtain ⟨items, rest, hsplit, hitems⟩ := commuteFrom_rescue hcast hrescues hrest hnext
          have hplace : (held.setting? == n.setting?) = true := by
            simp only [commutes, Bool.and_eq_true] at hcommutes
            exact hcommutes.1.2
          refine Or.inr ⟨recoverItem_of_commutes hcast hrescues hr' hcommutes h, ?_⟩
          exact ⟨items, held, rest, hsplit, hitems, hrescues.development, hplace, hrescues.closes⟩
        · exact Or.inl hthere
      · obtain ⟨-, rfl⟩ := hretrieves.closes.contains_of_track hu
        have hother := hw.others o ho item (List.mem_append_left _ hitem)
        rw [Roster.contains_erase, BEq.comm, hother] at hthere
        exact Or.inl hthere
    · obtain ⟨hfair, after, ht, hns⟩ := h
      refine .cons (fun o ho htakes => Or.inl (hfair.there ho htakes)) ht ?_
      exact ih (List.forall_mem_cons.2 ⟨hr', hrestores⟩) hns

theorem Attended.at {pre post : List PlotNode} (h : Attended w away (pre ++ n :: post)) :
    ∃ before, replay pre away = .ok before ∧ ∀ o ∈ w.protagonists, n.TakesPart o →
      before.contains o = false ∨ n.development? = some .recoverItem ∧ Awaits n.setting? o post := by
  induction pre generalizing away with
  | nil =>
    cases h with
    | cons hn _ _ => exact ⟨away, rfl, hn⟩
  | cons k pre ih =>
    cases h with
    | cons _ ht h =>
      rw [replay_cons_ok ht]
      exact ih h

end Overtaking

/-! ## Commuted plots -/

/-- In the plot that exchanges make of an expanded one, whoever acts or looks on is there, unless the node
recovers an item and their own rescue follows in the same place, with nothing but such recoveries before it. -/
theorem commute_attended {spec : WorldSpec} {draws : Context} {w : World}
    (hbuilt : (spec.build.run.run draws).1 = .ok w)
    (hw : (w.protagonists ++ w.antagonists ++ w.macguffins).Pairwise fun a b => (a == b) = false)
    (disabled : List Rule) (depth : Nat) (n : Narration) :
    ∃ plot rough, (((⟨w, disabled⟩ : Plotter).expand depth).run.run n).1 = .ok plot ∧
      pruned plot = .ok rough ∧
      ∀ pre m post, (commute (removeRepetition rough)).children = pre ++ m :: post →
        ∃ away, replay pre {} = .ok away ∧ ∀ o ∈ w.protagonists, m.TakesPart o →
          away.contains o = false ∨
            m.development? = some .recoverItem ∧ Awaits m.setting? o post := by
  have hworld : w.Built := by
    have hends := (build_ends (I := fun _ => True) spec draws trivial).1
    rwa [hbuilt] at hends
  obtain ⟨hpeople, -, hitems⟩ := List.pairwise_append.1 hw
  obtain ⟨hcast, -, hvillains⟩ := List.pairwise_append.1 hpeople
  have hdistinct : w.Distinct := by
    refine ⟨hcast, fun o ho x hx => ?_⟩
    rcases List.mem_append.1 hx with hx | hx
    · exact hitems o (List.mem_append_left _ ho) x hx
    · exact hvillains o ho x hx
  have hnever : ∀ e, (⟨w, disabled⟩ : Plotter).seedPlot = .error e → False :=
    seedPlot_ne_error hworld.settings hworld.protagonists
  obtain ⟨plot, hplot, home, cast, ms, rfl, hms⟩ :=
    (expand_ends (I := fun _ => True) hnever depth n trivial).1.ok_of_no_error
  have hfair : Along (Fair w) {} (collapse (ms.filter (!·.isHole))) := by
    have hkept : ∀ m ∈ ms.filter (!·.isHole), Staged m :=
      fun m hm => hms.staged m (List.mem_filter.1 hm).1
    exact .of_padded (padded_collapse hkept)
      (.of_padded (padded_filter_isHole hms.staged) (hms.fair hdistinct))
  have hrestores : ∀ m ∈ collapse (ms.filter (!·.isHole)), Restores w m := by
    intro m hm
    exact (hms.bringsBack m (List.mem_filter.1 ((collapse_sublist _).subset hm)).1).restores
  have hattended : Attended w {} (commuteList (collapse (ms.filter (!·.isHole)))) := by
    cases hns : collapse (ms.filter (!·.isHole)) with
    | nil => exact .nil
    | cons n ns =>
      rw [hns] at hfair hrestores
      exact attended_of_commuteFrom hdistinct
        (fun o ho => (hworld.dweller o (List.mem_append_left _ ho)).character) hrestores hfair
  refine ⟨_, _, hplot, pruned_of_staged hms.staged, fun pre m post hsplit => ?_⟩
  change commuteList (collapse (ms.filter (!·.isHole))) = _ at hsplit
  rw [hsplit] at hattended
  exact hattended.at

/-- A den that the villain and his captives call home, and something to lose. -/
def hideout : WorldSpec :=
  { settings :=
      [{ key := "den", names := ["den"], roof := { names := ["ceiling"] }
         nearby := [{ names := ["console"] }] }]
    protagonists :=
      [{ names := ["Ada"], gender := .feminine, archetype := .lead, home := "den"
         traits := some .redhead },
        { names := ["Bo"], gender := .masculine, archetype := .plain, home := "den"
          traits := some .redhead }]
    antagonists :=
      [{ names := ["Count Vex"], gender := .masculine, archetype := .villain, home := "den"
         traits := some .redhead }]
    macguffins := [{ names := ["crystal"] }] }

/-- Two rounds in the hideout. -/
theorem commute_attended_hideout :
    ∃ w, (hideout.build.run.run (.ofSeed 0)).1 = .ok w ∧
      ((w.protagonists ++ w.antagonists ++ w.macguffins).Pairwise fun a b => (a == b) = false) ∧
      ∃ plot rough, (((⟨w, []⟩ : Plotter).expand 2).run.run ⟨.ofSeed 0, #[]⟩).1 = .ok plot ∧
        pruned plot = .ok rough ∧
        ∀ pre m post, (commute (removeRepetition rough)).children = pre ++ m :: post →
          ∃ away, replay pre {} = .ok away ∧ ∀ o ∈ w.protagonists, m.TakesPart o →
            away.contains o = false ∨
              m.development? = some .recoverItem ∧ Awaits m.setting? o post := by
  have hbuild : ((hideout.build.run.run (.ofSeed 0)).1.toOption.any fun w =>
      (w.protagonists ++ w.antagonists ++ w.macguffins).Pairwise
        fun a b => (a == b) = false) = true := by
    decide +kernel
  obtain ⟨w, hw, happart⟩ := any_toOption.1 hbuild
  have happart := of_decide_eq_true happart
  exact ⟨w, hw, happart, commute_attended hw happart [] 2 ⟨.ofSeed 0, #[]⟩⟩

/-- Where items are lost and people kidnapped and nothing else, the friend of the heroine is kidnapped in the
hideout, and looks on while she recovers the item ahead of his rescue. -/
theorem hideout_captive_helps :
    ∃ w, (hideout.build.run.run (.ofSeed 0)).1 = .ok w ∧
      ((w.protagonists ++ w.antagonists ++ w.macguffins).Pairwise fun a b => (a == b) = false) ∧
      ¬∀ plot rough, (((⟨w, Rule.all.filter (· ∉ [.kidnapping, .lostItem])⟩ :
            Plotter).expand 2).run.run ⟨.ofSeed 0, #[]⟩).1 = .ok plot →
          pruned plot = .ok rough →
        ∀ pre m post away, (commute (removeRepetition rough)).children = pre ++ m :: post →
          replay pre {} = .ok away → ∀ o ∈ w.protagonists, m.TakesPart o →
            away.contains o = false := by
  have hcaptive : ((hideout.build.run.run (.ofSeed 0)).1.toOption.any fun w =>
      ((w.protagonists ++ w.antagonists ++ w.macguffins).Pairwise fun a b => (a == b) = false) &&
      (((⟨w, Rule.all.filter (· ∉ [.kidnapping, .lostItem])⟩ : Plotter).expand 2).run.run
        ⟨.ofSeed 0, #[]⟩).1.toOption.any fun plot => (pruned plot).toOption.any fun rough =>
          (commute (removeRepetition rough)).children[3]?.any fun m =>
            (replay ((commute (removeRepetition rough)).children.take 3) {}).toOption.any fun away =>
              w.protagonists.any fun o => away.contains o &&
                (m.membersOf .subject ++ m.membersOf .bystanders).any (o == ·)) = true := by
    decide +kernel
  obtain ⟨w, hw, hcaptive⟩ := any_toOption.1 hcaptive
  obtain ⟨happart, hcaptive⟩ := Bool.and_eq_true_iff.1 hcaptive
  obtain ⟨plot, hplot, hcaptive⟩ := any_toOption.1 hcaptive
  obtain ⟨rough, hrough, hcaptive⟩ := any_toOption.1 hcaptive
  obtain ⟨m, hm, hcaptive⟩ := (Option.any_eq_true _ _).1 hcaptive
  obtain ⟨away, hr, hcaptive⟩ := any_toOption.1 hcaptive
  obtain ⟨o, ho, hcaptive⟩ := List.any_eq_true.1 hcaptive
  obtain ⟨haway, htakes⟩ := Bool.and_eq_true_iff.1 hcaptive
  refine ⟨w, hw, of_decide_eq_true happart, fun h => ?_⟩
  have hthere := h plot rough hplot hrough _ m _ away (eq_take_append_cons_drop hm) hr o ho
    (List.any_eq_true.1 htakes)
  exact absurd (haway.symm.trans hthere) (by decide)

end SpaceOpera
