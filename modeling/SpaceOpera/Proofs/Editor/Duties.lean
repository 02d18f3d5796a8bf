import SpaceOpera.Proofs.Editor.Lowering
import SpaceOpera.Proofs.Story.Errands

/-!
# Keeping the duties

What the record of open duties comes to over a story: nothing but the events of duties changes it, one after
the other (`assignDuties_record`).  A story settles its duties if each that is done is open by then, so that
nothing is reported (`Settled`); whether it does is decided by the duty events alone, and turning plain objects
into states makes no difference where names identify objects.
-/

namespace SpaceOpera

open List (Forall₂)

/-! ## Records -/

namespace DutyRecord

/-- Does the character have the duty open? -/
def owes (r : DutyRecord) (who duty : Object) : Bool :=
  (r.openOf who).contains duty

/-- The record after an event. -/
def after (r : DutyRecord) (n : StoryNode) : DutyRecord :=
  ((recordDuty n.kind n.attributes).run r).2

variable {r : DutyRecord} {who duty o d : Object} {n : StoryNode}

theorem owes_acquire (hduty : duty.isDuty = true) :
    (r.acquire who duty).owes o d = (o == who && d == duty || r.owes o d) := by
  unfold acquire owes
  rw [if_pos hduty]
  unfold openOf
  rw [Ledger.get?_insert]
  cases ho : o == who with
  | false => simp
  | true =>
    rw [r.duties.get?_congr ho]
    simp [Roster.contains_insert]

theorem owes_relieve (hduty : duty.isDuty = true) (howes : r.owes who duty = true) :
    (r.relieve who duty).owes o d = (r.owes o d && !(o == who && d == duty)) := by
  unfold owes at howes
  unfold relieve owes
  rw [if_neg (by simp [hduty]), if_pos howes]
  unfold openOf
  rw [Ledger.get?_insert]
  cases ho : o == who with
  | false => simp
  | true =>
    rw [r.duties.get?_congr ho]
    simp [Roster.contains_erase, Bool.and_comm, BEq.comm]

theorem reports_acquire (hduty : duty.isDuty = true) : (r.acquire who duty).reports = r.reports := by
  unfold acquire
  rw [if_pos hduty]

theorem reports_relieve (hduty : duty.isDuty = true) (howes : r.owes who duty = true) :
    (r.relieve who duty).reports = r.reports := by
  unfold owes at howes
  unfold relieve
  rw [if_neg (by simp [hduty]), if_pos howes]

/-- Without an open duty, the roster of duties is empty. -/
theorem isEmpty_openOf (h : ∀ d, r.owes who d = false) : (r.openOf who).isEmpty = true := by
  unfold owes at h
  generalize r.openOf who = open_ at h ⊢
  obtain ⟨ms⟩ := open_
  cases ms with
  | nil => rfl
  | cons m ms =>
    have hm := h m
    simp [Roster.contains] at hm

/-! ## One event -/

theorem after_of_not_duty (h : isDutyEvent n = false) : r.after n = r := by
  unfold isDutyEvent Node.event? at h
  unfold after recordDuty
  split
  · rename_i hk _ _
    simp [hk] at h
  · rename_i hk _ _
    simp [hk] at h
  · rfl

end DutyRecord

theorem assignDuties_record (duties : Ledger Roster) (story : StoryNode) :
    (assignDuties duties story).2 = story.events.foldl DutyRecord.after { duties } := by
  have hpreorder : (assignDuties duties story).2 =
      story.preorder.foldl DutyRecord.after { duties } :=
    Node.annotate_carried (fun _ _ _ _ _ => rfl) _ _ story
  rw [hpreorder, Node.events, List.foldl_filter]
  congr 1
  funext r n
  cases hn : n.event?.isSome with
  | true => rfl
  | false =>
    refine DutyRecord.after_of_not_duty ?_
    rw [Option.isSome_eq_false_iff, Option.isNone_iff_eq_none] at hn
    simp [isDutyEvent, hn]

/-! ## Settled duties -/

/-- The subject of the event has its object for an open duty. -/
def DutyRecord.Expects (r : DutyRecord) (n : StoryNode) : Prop :=
  ∃ who duty, n.objectIn .subject = some who ∧ n.objectIn .object = some duty ∧
    r.owes who duty = true

/-- Each duty that is done is open by then. -/
def Settled (r : DutyRecord) : List StoryNode → Prop
  | [] => True
  | n :: ns => (n.event? = some .relieveDuty → r.Expects n) ∧ Settled (r.after n) ns

section Settled

variable {r : DutyRecord} {n : StoryNode} {ns ms : List StoryNode}

theorem settled_append :
    Settled r (ns ++ ms) ↔ Settled r ns ∧ Settled (ns.foldl DutyRecord.after r) ms := by
  induction ns generalizing r with
  | nil => exact ⟨fun h => ⟨trivial, h⟩, fun h => h.2⟩
  | cons n ns ih => exact (and_congr_right fun _ => ih).trans and_assoc.symm

theorem Settled.at {pre post : List StoryNode} (h : Settled r (pre ++ n :: post))
    (hn : n.event? = some .relieveDuty) : (pre.foldl DutyRecord.after r).Expects n :=
  (settled_append.1 h).2.1 hn

/-- Other events open and close no duties. -/
theorem settled_dutyEvents (ns : List StoryNode) (r : DutyRecord) :
    (Settled r (ns.filter isDutyEvent) ↔ Settled r ns) ∧
      (ns.filter isDutyEvent).foldl DutyRecord.after r = ns.foldl DutyRecord.after r := by
  induction ns generalizing r with
  | nil => exact ⟨Iff.rfl, rfl⟩
  | cons n ns ih =>
    cases hn : isDutyEvent n with
    | true =>
      rw [List.filter_cons_of_pos hn]
      exact ⟨and_congr_right fun _ => (ih _).1, (ih _).2⟩
    | false =>
      have hother : n.event? ≠ some .relieveDuty := by
        intro h
        simp [isDutyEvent, h] at hn
      rw [List.filter_cons_of_neg (by simp [hn])]
      refine ⟨(ih r).1.trans ?_, ?_⟩
      · rw [Settled, DutyRecord.after_of_not_duty hn]
        exact ⟨fun h => ⟨fun h' => absurd h' hother, h⟩, fun h => h.2⟩
      · rw [List.foldl_cons, DutyRecord.after_of_not_duty hn]
        exact (ih r).2

/-! ### Charges and discharges -/

variable {os : List Object} {duty : Object}

/-- Everyone takes the duty on. -/
theorem settled_charge (hduty : duty.isDuty = true) (os : List Object) (r : DutyRecord) :
    let ns := os.map fun b : Object => beatOn .acquireDuty b duty
    let r' := ns.foldl DutyRecord.after r
    Settled r ns ∧ r'.reports = r.reports ∧
      ∀ b d, r'.owes b d = (os.any (b == ·) && d == duty || r.owes b d) := by
  induction os generalizing r with
  | nil => exact ⟨trivial, rfl, fun b d => by simp⟩
  | cons o os ih =>
    obtain ⟨hsettled, hreports, howes⟩ := ih (r.acquire o duty)
    refine ⟨⟨nofun, hsettled⟩, hreports.trans (DutyRecord.reports_acquire hduty), fun b d => ?_⟩
    refine (howes b d).trans ?_
    rw [DutyRecord.owes_acquire hduty, List.any_cons]
    cases b == o <;> cases d == duty <;> simp

/-- Everyone is done with the duty that is open for all of them. -/
theorem settled_discharge (hduty : duty.isDuty = true)
    (hos : os.Pairwise fun a b => (a == b) = false) (hopen : ∀ b ∈ os, r.owes b duty = true) :
    let ns := os.map fun b : Object => beatOn .relieveDuty b duty
    let r' := ns.foldl DutyRecord.after r
    Settled r ns ∧ r'.reports = r.reports ∧
      ∀ b d, r'.owes b d = (r.owes b d && !(os.any (b == ·) && d == duty)) := by
  induction os generalizing r with
  | nil => exact ⟨trivial, rfl, fun b d => by simp⟩
  | cons o os ih =>
    obtain ⟨ho, hos⟩ := List.pairwise_cons.1 hos
    obtain ⟨hfirst, hopen⟩ := List.forall_mem_cons.1 hopen
    have hothers : ∀ b ∈ os, (r.relieve o duty).owes b duty = true := by
      intro b hb
      rw [DutyRecord.owes_relieve hduty hfirst, hopen b hb, BEq.comm, ho b hb]
      rfl
    obtain ⟨hsettled, hreports, howes⟩ := ih hos hothers
    refine ⟨⟨fun _ => ⟨o, duty, rfl, rfl, hfirst⟩, hsettled⟩,
      hreports.trans (DutyRecord.reports_relieve hduty hfirst), fun b d => ?_⟩
    refine (howes b d).trans ?_
    rw [DutyRecord.owes_relieve hduty hfirst, List.any_cons]
    cases b == o <;> cases d == duty <;> simp

end Settled

/-! ## The same events -/

section Alike

variable {r : DutyRecord} {n n' : StoryNode} {ns ns' : List StoryNode}

theorem Alike.after (h : Alike n n') (r : DutyRecord) : r.after n' = r.after n := by
  have hwho : (n'.attributes.get? .subject).bind Value.object? =
      (n.attributes.get? .subject).bind Value.object? := h.objectIn .subject
  have hduty : (n'.attributes.get? .object).bind Value.object? =
      (n.attributes.get? .object).bind Value.object? := h.objectIn .object
  unfold DutyRecord.after recordDuty
  rw [h.kind, hwho, hduty]

theorem settled_alike (h : Forall₂ Alike ns ns') (r : DutyRecord) :
    (Settled r ns' ↔ Settled r ns) ∧
      ns'.foldl DutyRecord.after r = ns.foldl DutyRecord.after r := by
  induction h generalizing r with
  | nil => exact ⟨Iff.rfl, rfl⟩
  | @cons n n' ns ns' hn _ ih =>
    rw [List.foldl_cons, List.foldl_cons, Settled, Settled, hn.after]
    refine ⟨and_congr ?_ (ih _).1, (ih _).2⟩
    unfold Node.event? DutyRecord.Expects
    rw [hn.kind, hn.objectIn, hn.objectIn]

/-- A state of an object that the names identify is of the object itself. -/
theorem assignEmptyStates_alike {N : Object → Prop} {story : StoryNode}
    (hN : ∀ a b, N a → N b → (a == b) = true → a = b) (hstory : StoryOf sequences story)
    (hbare : story.Everywhere Bare)
    (hnamed : story.Everywhere fun _ a => ∀ r o, (r, Value.object o) ∈ a.entries → N o) :
    Forall₂ Alike story.events (assignEmptyStates story).events := by
  have hlowered := assignEmptyStates_lowered hstory
  have hevents : Forall₂ (Redrawn fun _ a a' => a' = a.map fun _ v => v.toState (firstGiven story))
      story.events (assignEmptyStates story).events :=
    hlowered.events hstory (hlowered.storyOf fun _ _ h => h.scene) fun _ _ h => h.events
  have hmem : ∀ n ∈ story.events, n ∈ story.preorder := fun n hn => (List.mem_filter.1 hn).1
  refine ((List.forall₂_and_left _ _).2 ⟨hmem, hevents⟩).imp fun n n' hnn => ⟨hnn.2.kind, fun r => ?_⟩
  have hget : n'.get? r = (n.get? r).map (Value.toState (firstGiven story)) := by
    rw [Node.get?, hnn.2.attributes, Attributes.get?_map]
    rfl
  unfold Node.objectIn
  rw [hget]
  cases hv : n.get? r with
  | none => rfl
  | some v =>
    cases v with
    | group g => rfl
    | state s => cases hbare n hnn.1 r _ hv
    | object o =>
      obtain ⟨first, hfirst, hsame, hN'⟩ := given_firstGiven hnamed hnn.1 r o hv
      obtain ⟨r', hr'⟩ := mem_bareObjects_iff.1 (mem_bareObjects hv)
      obtain rfl := hN first o hN'.1 (hnamed n hnn.1 r' o hr') hsame
      simp [Value.toState, hfirst, Value.object?]

end Alike

end SpaceOpera
