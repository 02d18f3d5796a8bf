import SpaceOpera.Proofs.Editor.Lowering
import SpaceOpera.Proofs.Plotter.Parts
import SpaceOpera.Proofs.Story.Casting
import SpaceOpera.Story.Beats

/-!
# Stories as they come in

A story is told of plain objects and groups of the world.  `Guise.Suits` says which of them come to stand in
a guise once the editor has worked out their states, and a node is a `Script` if every beat below it has
values that suit its templates.  Whether the guises that are given are those that a beat asks for is decided
by `Event.takes`.
-/

namespace SpaceOpera

open Template (Guise)
open StoryNode (ofEvent sequence)

/-! ## Values -/

/-- The plain values that come to stand in the guise. -/
def Template.Guise.Suits (w : World) : Guise → Value → Prop
  | .party, v => (∃ g, v = .group g) ∨ ∃ o ∈ w.mentions, v = .object o
  | .thing, v => ∃ o ∈ w.mentions, v = .object o
  | .character, v => ∃ o ∈ w.mentions, v = .object o ∧ o.isCharacter = true
  | .officer, v => ∃ o ∈ w.mentions, v = .object o ∧ o.isCharacter = true ∧
      (o.rank.bind Rank.next?).isSome = true
  | .text, _ | .place, _ | .suited, _ => False

section Values

variable {w : World} {g g' : Guise} {v : Value} {o : Object}

theorem suits_lineage (h : g.Suits w v) (hg : g' ∈ g.lineage) : g'.Suits w v := by
  cases g with
  | text | place | suited => exact h.elim
  | party => exact List.mem_singleton.1 hg ▸ h
  | thing =>
    rcases List.mem_pair.1 hg with rfl | rfl
    · exact h
    · exact Or.inr h
  | character =>
    obtain ⟨o, ho, rfl, hcharacter⟩ := h
    simp only [Guise.lineage, List.mem_cons, List.not_mem_nil, or_false] at hg
    rcases hg with rfl | rfl | rfl
    · exact ⟨o, ho, rfl, hcharacter⟩
    · exact ⟨o, ho, rfl⟩
    · exact Or.inr ⟨o, ho, rfl⟩
  | officer =>
    obtain ⟨o, ho, rfl, hcharacter, hrank⟩ := h
    simp only [Guise.lineage, List.mem_cons, List.not_mem_nil, or_false] at hg
    rcases hg with rfl | rfl | rfl | rfl
    · exact ⟨o, ho, rfl, hcharacter, hrank⟩
    · exact ⟨o, ho, rfl, hcharacter⟩
    · exact ⟨o, ho, rfl⟩
    · exact Or.inr ⟨o, ho, rfl⟩

theorem suits_party (h : g.Suits w v) : Guise.party.Suits w v := by
  cases g with
  | text | place | suited => exact h.elim
  | party => exact h
  | thing => exact suits_lineage h (by decide)
  | character => exact suits_lineage h (by decide)
  | officer => exact suits_lineage h (by decide)

theorem suits_group (g : Group) : Guise.party.Suits w (.group g) :=
  Or.inl ⟨g, rfl⟩

theorem suits_mention (h : o ∈ w.mentions) : Guise.thing.Suits w o :=
  ⟨o, h, rfl⟩

theorem suits_protagonist (hw : w.Built) (h : o ∈ w.protagonists) : Guise.character.Suits w o :=
  ⟨o, mentions_protagonist h, rfl, (hw.dweller o (List.mem_append_left _ h)).character⟩

theorem suits_antagonist (hw : w.Built) (h : o ∈ w.antagonists) : Guise.character.Suits w o :=
  ⟨o, mentions_antagonist h, rfl, (hw.dweller o (List.mem_append_right _ h)).character⟩

end Values

/-! ## Beats -/

/-- Do the guises given have all that the templates of the event ask for?  Where a pose is, the editor
decides. -/
def Event.takes (e : Event) (given : List (Role × Guise)) : Bool :=
  e.onePieceTemplates?.isNone && Role.all.all fun r =>
    (e.cast false r).all fun g =>
      decide (e = .poseDescription ∧ r = .object) || (given.lookup r).any (·.lineage.contains g)

/-- The values of an event are plain ones of the world and suit what its templates ask for. -/
structure Enacted (w : World) (e : Event) (a : Attributes) : Prop where
  values : ∀ x ∈ a.entries, Guise.party.Suits w x.2
  pieces : e.onePieceTemplates? = none
  roles : ∀ r g, e.cast false r = some g →
    (e = .poseDescription ∧ r = .object) ∨ ∃ v, a.get? r = some v ∧ g.Suits w v

/-- What the values of a node are before the editor has seen it. -/
def Acted (w : World) : StoryKind → Attributes → Prop
  | .event e, a => Enacted w e a
  | .scene, a => ∃ s ∈ w.settings, a.entries = [(.setting, .object s)]
  | _, a => a.entries = []

/-- A body of beats as they come in. -/
structure Script (w : World) (n : StoryNode) : Prop where
  body : Body sequences n
  acted : n.Everywhere (Acted w)

/-- Bodies of beats one after the other. -/
def Scripted (w : World) (ns : List StoryNode) : Prop :=
  ∀ n ∈ ns, Script w n

section Beats

variable {w : World} {e : Event} {a : Attributes} {g g' g'' : Guise} {s o o' : Value}

theorem Role.mem_all (r : Role) : r ∈ Role.all := by
  cases r <;> decide

theorem lookup_mem {given : List (Role × Guise)} {r : Role} (h : given.lookup r = some g) :
    (r, g) ∈ given := by
  obtain ⟨front, back, rfl, -⟩ := List.lookup_eq_some_iff.1 h
  exact List.mem_append_right front List.mem_cons_self

theorem Enacted.of_takes {given : List (Role × Guise)} (h : e.takes given = true)
    (hgiven : ∀ x ∈ given, ∃ v, a.get? x.1 = some v ∧ x.2.Suits w v)
    (hvalues : ∀ x ∈ a.entries, Guise.party.Suits w x.2) : Enacted w e a := by
  unfold Event.takes at h
  rw [Bool.and_eq_true, Option.isNone_iff_eq_none, List.all_eq_true] at h
  refine ⟨hvalues, h.1, fun r g hr => ?_⟩
  have hrole := h.2 r (Role.mem_all r)
  rw [hr, Option.all_some, Bool.or_eq_true, decide_eq_true_eq, Option.any_eq_true] at hrole
  refine hrole.imp_right ?_
  rintro ⟨g', hlookup, hlineage⟩
  obtain ⟨v, hv, hsuits⟩ := hgiven _ (lookup_mem hlookup)
  exact ⟨v, hv, suits_lineage hsuits (List.contains_iff_mem.1 hlineage)⟩

theorem script_event (h : Enacted w e a) : Script w ⟨.event e, a, []⟩ :=
  ⟨.beat e a, Node.everywhere_mk.2 ⟨h, nofun⟩⟩

@[simp]
theorem script_sequence {cs : List StoryNode} : Script w (sequence cs) ↔ Scripted w cs := by
  constructor
  · intro h c hc
    have hbody := h.body
    unfold StoryNode.sequence at hbody
    cases hbody with
    | group _ _ hcs => exact ⟨hcs c hc, h.acted.of_mem hc⟩
  · intro h
    exact ⟨.group List.mem_cons_self _ fun c hc => (h c hc).body,
      Node.everywhere_mk.2 ⟨rfl, fun c hc => (h c hc).acted⟩⟩

@[simp]
theorem scripted_nil : Scripted w [] :=
  fun _ hn => absurd hn List.not_mem_nil

@[simp]
theorem scripted_cons {n : StoryNode} {ns : List StoryNode} :
    Scripted w (n :: ns) ↔ Script w n ∧ Scripted w ns :=
  List.forall_mem_cons

@[simp]
theorem scripted_append {ns ms : List StoryNode} :
    Scripted w (ns ++ ms) ↔ Scripted w ns ∧ Scripted w ms :=
  List.forall_mem_append

@[simp]
theorem scripted_each {os : List Object} {f : Object → StoryNode} :
    Scripted w (each os f) ↔ ∀ o ∈ os, Script w (f o) := by
  simp [Scripted, each]

/-- A beat that nobody in particular takes part in. -/
theorem script_alone (h : e.takes [] = true) : Script w (ofEvent e) :=
  script_event (.of_takes h (fun _ hx => absurd hx List.not_mem_nil)
    fun _ hx => absurd hx List.not_mem_nil)

theorem script_beat (hs : g.Suits w s) (h : e.takes [(.subject, g)] = true) :
    Script w (beat e s) := by
  refine script_event (.of_takes h ?_ ?_)
  · exact List.forall_mem_singleton.2 ⟨s, rfl, hs⟩
  · exact List.forall_mem_singleton.2 (suits_party hs)

theorem script_beatOn (hs : g.Suits w s) (ho : g'.Suits w o)
    (h : e.takes [(.subject, g), (.object, g')] = true) : Script w (beatOn e s o) := by
  refine script_event (.of_takes h ?_ ?_)
  · exact List.forall_mem_cons.2 ⟨⟨s, rfl, hs⟩, List.forall_mem_singleton.2 ⟨o, rfl, ho⟩⟩
  · exact List.forall_mem_cons.2 ⟨suits_party hs, List.forall_mem_singleton.2 (suits_party ho)⟩

theorem script_beatOnFor (hs : g.Suits w s) (ho : g'.Suits w o) (ho' : g''.Suits w o')
    (h : e.takes [(.subject, g), (.object, g'), (.object2, g'')] = true) :
    Script w ((beatOn e s o).set .object2 o') := by
  refine script_event (.of_takes h ?_ ?_)
  · exact List.forall_mem_cons.2 ⟨⟨s, rfl, hs⟩,
      List.forall_mem_cons.2 ⟨⟨o, rfl, ho⟩, List.forall_mem_singleton.2 ⟨o', rfl, ho'⟩⟩⟩
  · exact List.forall_mem_cons.2 ⟨suits_party hs,
      List.forall_mem_cons.2 ⟨suits_party ho, List.forall_mem_singleton.2 (suits_party ho')⟩⟩

end Beats

end SpaceOpera
