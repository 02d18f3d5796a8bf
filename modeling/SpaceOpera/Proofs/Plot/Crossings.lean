import SpaceOpera.Proofs.Chance.Outcomes
import SpaceOpera.Proofs.Plot.Normalization

/-!
# Where a plot crosses into another setting

Between two neighbours in different settings, of which the first is no journey (`Crosses`), a journey is
put in that takes whoever travels on from the one setting to the other (`Conveys`).  That fails exactly
where there is nobody to travel on (`Forsaken`).  Otherwise nothing crosses any more without a journey:
the journey is in the setting of the node before it, and behind it everyone has arrived.  So putting
journeys in once more changes nothing (`insertJourneys_crossings`).
-/

namespace SpaceOpera

/-- The nodes are in different settings, and the first is no journey, so that someone has to travel. -/
structure Crosses (m n : PlotNode) : Prop where
  apart : (m.setting? == n.setting?) = false
  onFoot : m.development? ≠ some .journey

/-- Nobody leaves with the node, stands by or acts in it. -/
structure Forsaken (n : PlotNode) : Prop where
  exeunt : n.membersOf .exeunt = []
  bystanders : n.membersOf .bystanders = []
  subject : n.membersOf .subject = []

/-- The journey takes those who travel on from the first node to the setting of the second. -/
structure Conveys (m n journey : PlotNode) : Prop where
  development : journey.development? = some .journey
  here : journey.setting? = m.setting?
  there : journey.objectIn .object = n.setting?
  party : journey.membersOf .subject = travellers m

/-- What is put in between two nodes: a journey if the plot crosses there. -/
inductive Passage (m n : PlotNode) : List PlotNode → Prop
  | stay (h : ¬Crosses m n) : Passage m n []
  | cross {journey : PlotNode} (h : Crosses m n) (hj : Conveys m n journey) : Passage m n [journey]

/-- `ms` is `ns`, the nodes behind `last`, with the passages between them put in. -/
inductive Conveyed : PlotNode → List PlotNode → List PlotNode → Prop
  | nil {last : PlotNode} : Conveyed last [] []
  | cons {last n : PlotNode} {js ns ms : List PlotNode} (hjs : Passage last n js)
      (h : Conveyed n ns ms) : Conveyed last (n :: ns) (js ++ n :: ms)

/-- Somewhere in the list nobody is there to cross. -/
def Stranding (ns : List PlotNode) : Prop :=
  ∃ m n, [m, n] <:+: ns ∧ Crosses m n ∧ Forsaken m

section Steps

variable {m n : PlotNode} {ns : List PlotNode}

theorem addMissing_eq_nil_iff {os more : List Object} :
    addMissing os more = [] ↔ os = [] ∧ more = [] := by
  constructor
  · intro h
    by_contra hsome
    exact addMissing_ne_nil os more (by tauto) h
  · rintro ⟨rfl, rfl⟩
    rfl

theorem travellers_eq_nil_iff : travellers n = [] ↔ Forsaken n := by
  unfold travellers
  constructor
  · intro h
    split at h
    · rename_i hexeunt
      obtain ⟨hbystanders, hsubject⟩ := addMissing_eq_nil_iff.1 h
      exact ⟨hexeunt, hbystanders, hsubject⟩
    · rename_i hleaving
      exact absurd h hleaving
  · rintro ⟨hexeunt, hbystanders, hsubject⟩
    rw [hexeunt, hbystanders, hsubject]
    rfl

/-- Without a crossing nobody travels. -/
theorem journeyBetween_of_not_crosses (h : ¬Crosses m n) : journeyBetween m n = .ok [] := by
  unfold journeyBetween
  by_cases hjourney : m.development? = some .journey
  · rw [if_pos hjourney]
  · rw [if_neg hjourney]
    split
    · rename_i here there hhere hthere
      have hnear : (here == there) = true := by
        by_contra hfar
        apply h
        refine ⟨?_, hjourney⟩
        rw [hhere, hthere]
        simpa using hfar
      rw [if_pos hnear]
    · rfl

/-- A step fails where nobody is there to cross, and otherwise finds the passage. -/
theorem journeyBetween_passage (hm : m.setting?.isSome = true) (hn : n.setting?.isSome = true) :
    (Crosses m n ∧ Forsaken m) ∧ journeyBetween m n = .error .emptyGroup ∨
      ¬(Crosses m n ∧ Forsaken m) ∧ ∃ js, journeyBetween m n = .ok js ∧ Passage m n js := by
  by_cases hcrosses : Crosses m n
  · obtain ⟨here, hhere⟩ := Option.isSome_iff_exists.1 hm
    obtain ⟨there, hthere⟩ := Option.isSome_iff_exists.1 hn
    have hfar : (here == there) = false := by
      have hapart := hcrosses.apart
      rw [hhere, hthere] at hapart
      simpa using hapart
    have hway : journeyBetween m n = formGroup (travellers m) >>= fun party =>
        .ok [(PlotNode.ofDevelopment .journey here).set .subject party
          |>.set .object (.object there)] := by
      unfold journeyBetween
      rw [if_neg hcrosses.onFoot, hhere, hthere]
      simp only [hfar, Bool.false_eq_true, ↓reduceIte]
      rfl
    by_cases hforsaken : Forsaken m
    · left
      refine ⟨⟨hcrosses, hforsaken⟩, ?_⟩
      rw [hway, travellers_eq_nil_iff.2 hforsaken]
      rfl
    · right
      have hparty : travellers m ≠ [] := fun hnone => hforsaken (travellers_eq_nil_iff.1 hnone)
      rw [formGroup_eq_ok hparty] at hway
      refine ⟨fun h => hforsaken h.2, _, hway, .cross hcrosses ?_⟩
      constructor
      · rfl
      · rw [hhere]
        rfl
      · rw [hthere]
        rfl
      · rfl
  · right
    exact ⟨fun h => hcrosses h.1, [], journeyBetween_of_not_crosses hcrosses, .stay hcrosses⟩

theorem Passage.forall_mem {js : List PlotNode} (h : Passage m n js) :
    ∀ j ∈ js, Crosses m n ∧ Conveys m n j := by
  cases h with
  | stay => exact nofun
  | cross hcrosses hj =>
    intro j' hj'
    rw [List.mem_singleton.1 hj']
    exact ⟨hcrosses, hj⟩

/-- Neither on to the journey nor from it does anything cross without one. -/
theorem Passage.isChain {js : List PlotNode} (h : Passage m n js)
    (hns : (n :: ns).IsChain fun m n => ¬Crosses m n) :
    (m :: (js ++ n :: ns)).IsChain fun m n => ¬Crosses m n := by
  cases h with
  | stay hstays => exact .cons_cons hstays hns
  | cross hcrosses hj =>
    refine .cons_cons (fun hset => ?_) (.cons_cons (fun harrive => ?_) hns)
    · have hapart := hset.apart
      rw [hj.here, BEq.rfl] at hapart
      cases hapart
    · exact harrive.onFoot hj.development

end Steps

/-! ## The whole way -/

section Ways

variable {m n last : PlotNode} {ns ms : List PlotNode}

theorem stranding_cons_cons :
    Stranding (m :: n :: ns) ↔ (Crosses m n ∧ Forsaken m) ∨ Stranding (n :: ns) := by
  unfold Stranding
  constructor
  · rintro ⟨a, b, hinfix, hstranded⟩
    rcases List.infix_cons_iff.1 hinfix with hfront | hinfix
    · simp only [List.cons_prefix_cons] at hfront
      obtain ⟨rfl, rfl, -⟩ := hfront
      exact .inl hstranded
    · exact .inr ⟨a, b, hinfix, hstranded⟩
  · rintro (hstranded | ⟨a, b, hinfix, hstranded⟩)
    · exact ⟨m, n, ⟨[], ns, rfl⟩, hstranded⟩
    · exact ⟨a, b, List.infix_cons_iff.2 (.inr hinfix), hstranded⟩

theorem not_stranding_of_length_le (h : ns.length ≤ 1) : ¬Stranding ns := by
  rintro ⟨m, n, hinfix, -⟩
  have hlength := hinfix.length_le
  simp at hlength
  omega

/-- The way fails where nobody is there to cross, and otherwise has all its passages. -/
theorem travelAfter_conveyed (hs : ∀ n ∈ last :: ns, n.setting?.isSome = true) :
    Stranding (last :: ns) ∧ travelAfter last ns = .error .emptyGroup ∨
      ¬Stranding (last :: ns) ∧ ∃ ms, travelAfter last ns = .ok ms ∧ Conveyed last ns ms := by
  induction ns generalizing last with
  | nil => exact .inr ⟨not_stranding_of_length_le (by simp), [], rfl, .nil⟩
  | cons n ns ih =>
    obtain ⟨hlast, hns⟩ := List.forall_mem_cons.1 hs
    rw [stranding_cons_cons, travelAfter]
    rcases journeyBetween_passage hlast (hns n List.mem_cons_self) with
      ⟨hstranded, hfails⟩ | ⟨hpasses, js, hjs, hpassage⟩
    · left
      rw [hfails]
      exact ⟨.inl hstranded, rfl⟩
    · rw [hjs, ok_bind]
      rcases ih hns with ⟨hstranding, hfails⟩ | ⟨hfree, ms, hms, hconveyed⟩
      · left
        rw [hfails]
        exact ⟨.inr hstranding, rfl⟩
      · right
        rw [hms]
        exact ⟨fun h => h.elim hpasses hfree, js ++ n :: ms, rfl, .cons hpassage hconveyed⟩

/-- Taking out the journeys that are put in gives the nodes back; each is for a crossing. -/
theorem Conveyed.padded (h : Conveyed last ns ms) :
    Padded Eq (fun j => ∃ m n, [m, n] <:+: last :: ns ∧ Crosses m n ∧ Conveys m n j) ns ms := by
  induction h with
  | nil => exact .nil
  | @cons last n js ns ms hjs _ ih =>
    apply Padded.putAll
    · intro j hj
      exact ⟨last, n, ⟨[], ns, rfl⟩, hjs.forall_mem j hj⟩
    · apply Padded.keep rfl
      refine ih.imp (fun _ _ h => h) ?_
      rintro j ⟨a, b, hinfix, hj⟩
      exact ⟨a, b, List.infix_cons_iff.2 (.inr hinfix), hj⟩

/-- Behind the passages nothing crosses any more. -/
theorem Conveyed.isChain (h : Conveyed last ns ms) :
    (last :: ms).IsChain fun m n => ¬Crosses m n := by
  induction h with
  | nil => exact .singleton _
  | cons hjs _ ih => exact hjs.isChain ih

/-- Where nothing crosses, nothing is put in. -/
theorem travelAfter_of_isChain (h : (last :: ns).IsChain fun m n => ¬Crosses m n) :
    travelAfter last ns = .ok ns := by
  induction ns generalizing last with
  | nil => rfl
  | cons n ns ih =>
    obtain ⟨hstays, hns⟩ := List.isChain_cons_cons.1 h
    rw [travelAfter, journeyBetween_of_not_crosses hstays, ok_bind, ih hns]
    rfl

end Ways

/-- `out` is the plot with the journeys put in: without them it is the plot again, each of them is for a
crossing, the first of two neighbours in different settings is a journey, and no more are to be put in. -/
structure Travelled (plot out : PlotNode) : Prop where
  heading : out.kind = plot.kind ∧ out.attributes = plot.attributes
  padded : Padded Eq (fun j => ∃ m n, [m, n] <:+: plot.children ∧ Crosses m n ∧ Conveys m n j)
    plot.children out.children
  arrived : out.children.IsChain fun m n =>
    (m.setting? == n.setting?) = false → m.development? = some .journey
  settled : insertJourneys out = .ok out

section Plots

variable {plot out : PlotNode} {n : PlotNode} {ns : List PlotNode}

/-- A plot in which nothing crosses stays as it is. -/
theorem insertJourneys_of_isChain (h : plot.children.IsChain fun m n => ¬Crosses m n) :
    insertJourneys plot = .ok plot := by
  obtain ⟨k, a, cs⟩ := plot
  cases cs with
  | nil => rfl
  | cons n ns =>
    simp only [insertJourneys, travelAfter_of_isChain h, ok_bind]
    rfl

theorem insertJourneys_cons (h : plot.children = n :: ns) : insertJourneys plot =
    travelAfter n ns >>= fun rest => .ok (plot.withChildren (n :: rest)) := by
  unfold insertJourneys
  rw [h]
  rfl

theorem travelled_of_isChain (hheading : out.kind = plot.kind ∧ out.attributes = plot.attributes)
    (hpadded : Padded Eq (fun j => ∃ m n, [m, n] <:+: plot.children ∧ Crosses m n ∧ Conveys m n j)
      plot.children out.children)
    (h : out.children.IsChain fun m n => ¬Crosses m n) : Travelled plot out where
  heading := hheading
  padded := hpadded
  arrived := h.imp fun m n hstays hapart => by
    by_contra hjourney
    exact hstays ⟨hapart, hjourney⟩
  settled := insertJourneys_of_isChain h

/-- Putting journeys into a plot fails exactly where a node that is no journey, and in which nobody
leaves, stands by or acts, is directly before one in a different setting.  Otherwise all journeys are put
in, once and for all. -/
theorem insertJourneys_crossings (plot : PlotNode)
    (h : ∀ n ∈ plot.children, n.setting?.isSome = true) :
    (insertJourneys plot = .error .emptyGroup ↔ Stranding plot.children) ∧
      (¬Stranding plot.children → ∃ out, insertJourneys plot = .ok out ∧ Travelled plot out) := by
  cases hchildren : plot.children with
  | nil =>
    have hsame : insertJourneys plot = .ok plot := by
      apply insertJourneys_of_isChain
      simp [hchildren]
    have hfree : ¬Stranding [] := not_stranding_of_length_le (by simp)
    refine ⟨?_, fun _ => ⟨plot, hsame, travelled_of_isChain ⟨rfl, rfl⟩ (.refl _ _) ?_⟩⟩
    · simp [hsame, hfree]
    · simp [hchildren]
  | cons n ns =>
    rw [hchildren] at h
    rw [insertJourneys_cons hchildren]
    rcases travelAfter_conveyed h with ⟨hstranding, hfails⟩ | ⟨hfree, ms, hms, hconveyed⟩
    · rw [hfails]
      exact ⟨iff_of_true rfl hstranding, fun hfree => absurd hstranding hfree⟩
    · rw [hms, ok_bind]
      refine ⟨iff_of_false nofun hfree, fun _ => ⟨_, rfl, ?_⟩⟩
      refine travelled_of_isChain ⟨rfl, rfl⟩ ?_ ?_
      · rw [hchildren]
        exact .keep rfl hconveyed.padded
      · exact hconveyed.isChain

/-- Bo leaves the bridge and is startled in the lagoon, from where he sets out for a cave without anybody
in it. -/
def excursion : PlotNode :=
  let bridge := Object.thing ["bridge"]
  let lagoon := Object.thing ["lagoon"]
  let cave := Object.thing ["cave"]
  let ana := Object.thing ["Ana"]
  let bo := Object.thing ["Bo"]
  .sequence [
    (PlotNode.ofDevelopment .kidnapping bridge).set .subject (.object ana)
      |>.set .exeunt (.group ⟨[bo], List.cons_ne_nil _ _⟩),
    (PlotNode.ofDevelopment .drone lagoon).set .subject (.object bo),
    (PlotNode.ofDevelopment .journey lagoon).set .subject (.object bo)
      |>.set .object (.object cave),
    PlotNode.ofDevelopment .drone cave]

/-- One journey is put in and one was there; the other way round nobody can leave the cave. -/
theorem insertJourneys_crossings_excursion :
    (∀ n ∈ excursion.children, n.setting?.isSome = true) ∧
    (∃ out, insertJourneys excursion = .ok out ∧
      out.children.map Node.development? =
        [some .kidnapping, some .journey, some .drone, some .journey, some .drone] ∧
      Travelled excursion out) ∧
    Stranding excursion.children.reverse := by
  have hs : ∀ n ∈ excursion.children, n.setting?.isSome = true := by decide
  have hkinds : ((insertJourneys excursion).toOption.any fun out =>
      decide (out.children.map Node.development? =
        [some .kidnapping, some .journey, some .drone, some .journey, some .drone])) = true := by
    decide
  obtain ⟨out, hout, hkinds⟩ := any_toOption.1 hkinds
  obtain ⟨hfails, hsucceeds⟩ := insertJourneys_crossings excursion hs
  have hfree : ¬Stranding excursion.children := by
    intro hstranding
    rw [hfails.2 hstranding] at hout
    cases hout
  obtain ⟨out', hout', htravelled⟩ := hsucceeds hfree
  obtain rfl : out = out' := Except.ok.inj (hout.symm.trans hout')
  have hback : ∀ n ∈ excursion.children.reverse, n.setting?.isSome = true := by decide
  obtain ⟨hstrands, -⟩ := insertJourneys_crossings (.sequence excursion.children.reverse) hback
  exact ⟨hs, ⟨out, hout, of_decide_eq_true hkinds, htravelled⟩, hstrands.1 (by rfl)⟩

end Plots

end SpaceOpera
