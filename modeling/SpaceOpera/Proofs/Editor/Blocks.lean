import SpaceOpera.Editor.Descriptions
import SpaceOpera.Proofs.Editor.Beats

/-!
# Blocks of beats

A pass that tells more of an event puts a sequence in its place: the event and what is told behind it.
`Blocks ks ns us` reads the trees `ns` as the row `us` of such blocks, whatever groups they stand in; an
event on its own is a block too.  A pass over the trees is then said block by block: by `Extended`, or by
a relation that also carries a state from block to block (`Blockwise`).
-/

namespace SpaceOpera

open List (Forall₂)
open StoryNode (ofEvent sequence)

/-! ## Beats and blocks -/

/-- The node is an event with nothing below it. -/
def Node.IsBeat (n : StoryNode) : Prop :=
  ∃ e a, n = ⟨.event e, a, []⟩

/-- The second event is about how the subject of the first looks. -/
def Portrays (n m : StoryNode) : Prop :=
  ∃ s, n.characterSubject? = some s ∧ depicts m s.object = true

/-- A beat, and beats behind it about how its subject looks. -/
inductive Block : List StoryNode → Prop
  | mk {n : StoryNode} {ms : List StoryNode} (hn : n.IsBeat)
      (hms : ∀ m ∈ ms, m.IsBeat ∧ Portrays n m) : Block (n :: ms)

/-- Some beats as one node. -/
def bundle : List StoryNode → StoryNode
  | [n] => n
  | ns => sequence ns

/-- The trees hold the blocks, in groups of the kinds given. -/
inductive Blocks (ks : List StoryKind) : List StoryNode → List (List StoryNode) → Prop
  | nil : Blocks ks [] []
  | block {u ns : List StoryNode} {us : List (List StoryNode)} (hu : Block u)
      (h : Blocks ks ns us) : Blocks ks (bundle u :: ns) (u :: us)
  | group {k : StoryKind} {a : Attributes} {cs ns : List StoryNode}
      {us us' : List (List StoryNode)} (hk : k ∈ ks) (h : Blocks ks cs us)
      (h' : Blocks ks ns us') : Blocks ks (⟨k, a, cs⟩ :: ns) (us ++ us')

/-- Each event on its own. -/
abbrev singly (es : List StoryNode) : List (List StoryNode) :=
  es.map fun e => [e]

section Blocks

variable {ks : List StoryKind} {n m : StoryNode} {u ns ms : List StoryNode}
  {us : List (List StoryNode)}

theorem Node.IsBeat.events (h : n.IsBeat) : n.events = [n] := by
  obtain ⟨e, a, rfl⟩ := h
  exact events_beat e a

theorem Node.IsBeat.body (h : n.IsBeat) : Body ks n := by
  obtain ⟨e, a, rfl⟩ := h
  exact .beat e a

theorem isBeat_aside (e : Event) (v : Value) : ((ofEvent e).set .subject v).IsBeat :=
  ⟨e, _, rfl⟩

theorem Block.isBeat (h : Block u) : ∀ n ∈ u, n.IsBeat := by
  obtain ⟨hn, hms⟩ := h
  exact List.forall_mem_cons.2 ⟨hn, fun m hm => (hms m hm).1⟩

theorem block_singleton (h : n.IsBeat) : Block [n] :=
  .mk h nofun

theorem bundle_cons_cons (n m : StoryNode) (ms : List StoryNode) :
    bundle (n :: m :: ms) = sequence (n :: m :: ms) := rfl

theorem Block.events_bundle (h : Block u) : (bundle u).events = u := by
  have hbeats := h.isBeat
  unfold bundle
  split
  · exact (hbeats _ List.mem_cons_self).events
  · rw [events_sequence, flatMap_events_of_beats fun n hn => (hbeats n hn).events]

theorem Block.body_bundle (hks : .eventSequence ∈ ks) (h : Block u) : Body ks (bundle u) := by
  have hbeats := h.isBeat
  unfold bundle
  split
  · exact (hbeats _ List.mem_cons_self).body
  · exact .group hks {} fun n hn => (hbeats n hn).body

theorem Blocks.flatMap_events (hks : ∀ k ∈ ks, k.event? = none) (h : Blocks ks ns us) :
    ns.flatMap Node.events = us.flatten := by
  induction h with
  | nil => rfl
  | block hu _ ih => rw [List.flatMap_cons, List.flatten_cons, hu.events_bundle, ih]
  | group hk _ _ ih ih' =>
    rw [List.flatMap_cons, List.flatten_append, events_of_not_event (hks _ hk), ih, ih']

theorem Blocks.body (hks : .eventSequence ∈ ks) (h : Blocks ks ns us) : ∀ n ∈ ns, Body ks n := by
  induction h with
  | nil => exact nofun
  | block hu _ ih => exact List.forall_mem_cons.2 ⟨hu.body_bundle hks, ih⟩
  | group hk _ _ ih ih' => exact List.forall_mem_cons.2 ⟨.group hk _ ih, ih'⟩

theorem Blocks.forall_block (h : Blocks ks ns us) : ∀ u ∈ us, Block u := by
  induction h with
  | nil => exact nofun
  | block hu _ ih => exact List.forall_mem_cons.2 ⟨hu, ih⟩
  | group _ _ _ ih ih' => exact List.forall_mem_append.2 ⟨ih, ih'⟩

theorem Blocks.append {ns' : List StoryNode} {us' : List (List StoryNode)} (h : Blocks ks ns us)
    (h' : Blocks ks ns' us') : Blocks ks (ns ++ ns') (us ++ us') := by
  induction h with
  | nil => exact h'
  | block hu _ ih => exact .block hu ih
  | group hk hcs _ _ ih =>
    rw [List.append_assoc]
    exact .group hk hcs ih

theorem blocks_flatMap (h : ∀ n ∈ ns, Blocks ks [n] (singly n.events)) :
    Blocks ks ns (singly (ns.flatMap Node.events)) := by
  induction ns with
  | nil => exact .nil
  | cons n ns ih =>
    obtain ⟨hn, hns⟩ := List.forall_mem_cons.1 h
    rw [List.flatMap_cons, singly, List.map_append]
    exact hn.append (ih hns)

/-- A tree of beats can be read as its events, each on its own. -/
theorem Body.blocks (hks : ∀ k ∈ ks, k.event? = none) (hn : Body ks n) :
    Blocks ks [n] (singly n.events) := by
  induction hn with
  | beat e a =>
    rw [events_beat]
    exact .block (block_singleton ⟨e, a, rfl⟩) .nil
  | @group k cs hk a _ ih =>
    have hevents : Node.events ⟨k, a, cs⟩ = cs.flatMap Node.events :=
      events_of_not_event (n := ⟨k, a, cs⟩) (hks k hk)
    rw [hevents, ← List.append_nil (singly _)]
    exact .group hk (blocks_flatMap ih) .nil

end Blocks

/-! ## What a pass does to the blocks -/

/-- The two events are about the same character. -/
def SameSubject (n m : StoryNode) : Prop :=
  ∃ s t, n.characterSubject? = some s ∧ m.characterSubject? = some t ∧
    (t.object == s.object) = true

/-- More is told behind the block, with `Q` and about someone whom the block is about. -/
def Extended (Q : StoryNode → Prop) (u u' : List StoryNode) : Prop :=
  ∃ ms, u' = u ++ ms ∧ ∀ m ∈ ms, Q m ∧ ∃ n ∈ u, SameSubject n m

/-- The events are told in order, with asides behind them that have `Q`, each about the subject of the
event that it stands behind. -/
def Trailed (Q : StoryNode → Prop) (es es' : List StoryNode) : Prop :=
  ∃ us, Forall₂ (Extended Q) (singly es) us ∧ es' = us.flatten

/-- Block by block the rows are in the relation, and a state is handed on. -/
inductive Blockwise {σ : Type} (T : σ → List StoryNode → List StoryNode → σ → Prop) :
    σ → List (List StoryNode) → List (List StoryNode) → σ → Prop
  | nil {i : σ} : Blockwise T i [] [] i
  | cons {i j k : σ} {u u' : List StoryNode} {us us' : List (List StoryNode)} (hu : T i u u' j)
      (h : Blockwise T j us us' k) : Blockwise T i (u :: us) (u' :: us') k

section Passing

variable {σ : Type} {T : σ → List StoryNode → List StoryNode → σ → Prop} {i j k : σ}
  {us us' vs vs' : List (List StoryNode)} {Q : StoryNode → Prop} {es es' : List StoryNode}

theorem Blockwise.append (h : Blockwise T i us us' j) (h' : Blockwise T j vs vs' k) :
    Blockwise T i (us ++ vs) (us' ++ vs') k := by
  induction h with
  | nil => exact h'
  | cons hu _ ih => exact .cons hu (ih h')

theorem Blockwise.forall₂ {R : List StoryNode → List StoryNode → Prop} (h : Blockwise T i us us' j)
    (hT : ∀ i u u' j, T i u u' j → R u u') : Forall₂ R us us' := by
  induction h with
  | nil => exact .nil
  | cons hu _ ih => exact .cons (hT _ _ _ _ hu) ih

theorem padded_of_extended (h : Forall₂ (Extended Q) us us') :
    Padded Eq Q us.flatten us'.flatten := by
  induction h with
  | nil => exact .nil
  | cons hu _ ih =>
    obtain ⟨ms, rfl, hms⟩ := hu
    rw [List.flatten_cons, List.flatten_cons]
    exact ((Padded.refl Q _).putBehind fun m hm => (hms m hm).1).append ih

theorem flatten_singly (es : List StoryNode) : (singly es).flatten = es := by
  rw [← List.flatMap_def, List.flatMap_singleton']

theorem Trailed.padded (h : Trailed Q es es') : Padded Eq Q es es' := by
  obtain ⟨us, hus, rfl⟩ := h
  have hpadded := padded_of_extended hus
  rwa [flatten_singly] at hpadded

theorem Trailed.told (h : Trailed Q es es') : Told (fun _ => true) Q es es' := by
  unfold Told
  rw [List.filter_true]
  exact h.padded

theorem Trailed.cons_of_no_subject {e : StoryNode} (h : Trailed Q (e :: es) es')
    (he : e.characterSubject? = none) : ∃ fs, es' = e :: fs ∧ Trailed Q es fs := by
  obtain ⟨us, hus, rfl⟩ := h
  rw [singly, List.map_cons] at hus
  obtain ⟨u, us, ⟨ms, rfl, hms⟩, hrest, rfl⟩ := List.forall₂_cons_left_iff.1 hus
  cases ms with
  | nil => exact ⟨us.flatten, rfl, us, hrest, rfl⟩
  | cons m ms =>
    obtain ⟨-, n, hn, s, -, hs, -⟩ := hms m List.mem_cons_self
    rw [List.mem_singleton.1 hn, he] at hs
    cases hs

/-- Nothing is told behind events that are about no character. -/
theorem Trailed.append_of_no_subject {os : List StoryNode} (h : Trailed Q (os ++ es) es')
    (hos : ∀ o ∈ os, o.characterSubject? = none) : ∃ fs, es' = os ++ fs ∧ Trailed Q es fs := by
  induction os generalizing es' with
  | nil => exact ⟨es', rfl, h⟩
  | cons o os ih =>
    obtain ⟨ho, hos⟩ := List.forall_mem_cons.1 hos
    obtain ⟨gs, rfl, hgs⟩ := h.cons_of_no_subject ho
    obtain ⟨fs, rfl, hfs⟩ := ih hgs hos
    exact ⟨fs, rfl, hfs⟩

end Passing

end SpaceOpera
