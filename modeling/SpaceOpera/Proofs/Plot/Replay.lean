import Mathlib.Data.List.Basic
import SpaceOpera.Plot.Availability
import SpaceOpera.Proofs.Success

/-!
# Replaying the markers of a plot

What the markers of single nodes do to who is away, and what follows for whole lists of nodes.  `Along P`
asks something of every node together with who is away when it comes; `Nested` says that whoever is taken
away is brought back in the order of brackets, so that a replay ends where it began (`Nested.replay`).
-/

namespace SpaceOpera

/-! ## Rosters -/

namespace Roster

/-- Taking out what was not there before restores the roster. -/
theorem erase_insert {r : Roster} {o : Object} (h : r.contains o = false) :
    (r.insert o).erase o = r := by
  obtain ⟨ms⟩ := r
  simp only [contains, List.any_eq_false] at h
  simp only [insert, erase, mk.injEq]
  have hkept : ∀ m ∈ ms, (!(o == m)) = true := fun m hm => by simp [h m hm]
  clear h
  induction ms with
  | nil => simp [insertMember]
  | cons m ms ih =>
    have hm := hkept m List.mem_cons_self
    have hms : ∀ k ∈ ms, (!(o == k)) = true := fun k hk => hkept k (List.mem_cons_of_mem m hk)
    have hne : (o == m) = false := by simpa using hm
    simp only [insertMember, hne, Bool.false_eq_true, ↓reduceIte]
    split
    · rw [List.filter_cons_of_neg (by simp), List.filter_eq_self]
      exact hkept
    · rw [List.filter_cons, if_pos hm, ih hms]

theorem erase_comm (r : Roster) (o p : Object) : (r.erase o).erase p = (r.erase p).erase o := by
  simp only [erase, List.filter_filter, Bool.and_comm]

end Roster

@[simp]
theorem mem_availableOf {objects : List Object} {away : Roster} {o : Object} :
    o ∈ availableOf objects away ↔ o ∈ objects ∧ away.contains o = false := by
  simp [availableOf]

@[simp]
theorem mem_without {members : List Object} {o excluded : Object} :
    o ∈ without members excluded ↔ o ∈ members ∧ (o == excluded) = false := by
  simp [without, bne]

@[simp]
theorem availableOf_empty (objects : List Object) : availableOf objects {} = objects := by
  simp [availableOf]

/-! ## Markers of one node -/

namespace Node

/-- The node takes nobody away and brings nobody back. -/
def Unmarked (n : PlotNode) : Prop :=
  n.objectIn .disqualified = none ∧ n.objectIn .requalified = none

/-- The node takes the object away. -/
def Opens (n : PlotNode) (o : Object) : Prop :=
  n.objectIn .disqualified = some o ∧ n.objectIn .requalified = none

/-- One of the node's markers names the object. -/
def Marks (n : PlotNode) (o : Object) : Prop :=
  ∃ m, (n.objectIn .disqualified = some m ∨ n.objectIn .requalified = some m) ∧ (m == o) = true

/-- The node brings the object back. -/
def Closes (n : PlotNode) (o : Object) : Prop :=
  n.objectIn .disqualified = none ∧ n.objectIn .requalified = some o

variable {n : PlotNode} {o : Object} {away after : Roster}

theorem Unmarked.track (h : n.Unmarked) : n.track away = .ok away := by
  simp [Node.track, markersFit, afterMarkers, h.1, h.2]

theorem Opens.track (h : n.Opens o) : n.track away = .ok (away.insert o) := by
  simp [Node.track, markersFit, afterMarkers, h.1, h.2]

theorem Closes.track (h : n.Closes o) (ho : away.contains o = true) :
    n.track away = .ok (away.erase o) := by
  simp [Node.track, markersFit, afterMarkers, h.1, h.2, ho]

theorem Closes.contains_of_track (h : n.Closes o) (ht : n.track away = .ok after) :
    away.contains o = true ∧ after = away.erase o := by
  unfold Node.track at ht
  split at ht
  · rename_i hfit
    simp only [markersFit, h.1, h.2, Option.any_none, Bool.false_or] at hfit
    simp only [afterMarkers, h.1, h.2, Except.ok.injEq] at ht
    exact ⟨hfit, ht.symm⟩
  · cases ht

end Node

/-! ## Replays -/

/-- A list is what comes before one of its elements, the element and what comes behind it. -/
theorem eq_take_append_cons_drop {α : Type} {as : List α} {a : α} {i : Nat} (h : as[i]? = some a) :
    as = as.take i ++ a :: as.drop (i + 1) := by
  obtain ⟨hi, rfl⟩ := List.getElem?_eq_some_iff.1 h
  rw [List.getElem_cons_drop, List.take_append_drop]

theorem replay_cons (n : PlotNode) (ns : List PlotNode) (away : Roster) :
    replay (n :: ns) away = n.track away >>= replay ns := rfl

theorem replay_cons_ok {n : PlotNode} {ns : List PlotNode} {away after : Roster}
    (h : n.track away = .ok after) : replay (n :: ns) away = replay ns after := by
  rw [replay_cons, h]
  rfl

theorem replay_append {ns ms : List PlotNode} {away after : Roster}
    (h : replay ns away = .ok after) : replay (ns ++ ms) away = replay ms after := by
  unfold replay at h ⊢
  rw [List.foldlM_append, h]
  rfl

theorem replay_cons_eq_ok {n : PlotNode} {ns : List PlotNode} {away after : Roster}
    (h : replay (n :: ns) away = .ok after) :
    ∃ next, n.track away = .ok next ∧ replay ns next = .ok after := by
  rw [replay_cons] at h
  exact bind_eq_ok.1 h

/-! ## Conditions along a replay -/

/-- Every node, with whoever is away when it comes, satisfies the condition, and its markers fit. -/
def Along (P : Roster → PlotNode → Prop) : Roster → List PlotNode → Prop
  | _, [] => True
  | away, n :: ns => P away n ∧ ∃ after, n.track away = .ok after ∧ Along P after ns

namespace Along

variable {P Q : Roster → PlotNode → Prop} {away after : Roster} {n : PlotNode}
  {ns ms : List PlotNode}

theorem cons (hn : P away n) (ht : n.track away = .ok after) (h : Along P after ns) :
    Along P away (n :: ns) :=
  ⟨hn, after, ht, h⟩

theorem beside (hn : P away n) (hu : n.Unmarked) (h : Along P away ns) :
    Along P away (n :: ns) :=
  ⟨hn, away, hu.track, h⟩

theorem replay (h : Along P away ns) : ∃ after, SpaceOpera.replay ns away = .ok after := by
  induction ns generalizing away with
  | nil => exact ⟨away, rfl⟩
  | cons n ns ih =>
    obtain ⟨-, next, ht, hns⟩ := h
    rw [replay_cons_ok ht]
    exact ih hns

theorem append (hr : SpaceOpera.replay ns away = .ok after) (h : Along P away ns)
    (k : Along P after ms) : Along P away (ns ++ ms) := by
  induction ns generalizing away with
  | nil =>
    cases hr
    exact k
  | cons n ns ih =>
    obtain ⟨hn, next, ht, hns⟩ := h
    rw [replay_cons_ok ht] at hr
    exact ⟨hn, next, ht, ih hr hns⟩

/-- What holds along a list holds of its front, and from where that ends of the rest. -/
theorem split (h : Along P away (ns ++ ms)) :
    ∃ after, SpaceOpera.replay ns away = .ok after ∧ Along P away ns ∧ Along P after ms := by
  induction ns generalizing away with
  | nil => exact ⟨away, rfl, trivial, h⟩
  | cons n ns ih =>
    obtain ⟨hn, next, ht, hns⟩ := h
    obtain ⟨after, hr, hfront, hrest⟩ := ih hns
    exact ⟨after, by rw [replay_cons_ok ht, hr], ⟨hn, next, ht, hfront⟩, hrest⟩

end Along

/-! ## Brackets -/

/-- Whoever is taken away was there, and is brought back after a part of the list that is itself nested
and cannot take them away again. -/
inductive Nested : Roster → List PlotNode → Prop
  | nil {away : Roster} : Nested away []
  | beside {away : Roster} {n : PlotNode} {ns : List PlotNode} (hn : n.Unmarked)
      (hns : Nested away ns) : Nested away (n :: ns)
  | scope {away : Roster} {o : Object} {n m : PlotNode} {inner ns : List PlotNode}
      (hn : n.Opens o) (ho : away.contains o = false) (hinner : Nested (away.insert o) inner)
      (hm : m.Closes o) (hns : Nested away ns) : Nested away (n :: (inner ++ m :: ns))

namespace Nested

variable {away : Roster} {ns ms : List PlotNode}

theorem of_unmarked (h : ∀ n ∈ ns, n.Unmarked) : Nested away ns := by
  induction ns with
  | nil => exact .nil
  | cons n ns ih =>
    obtain ⟨hn, hns⟩ := List.forall_mem_cons.1 h
    exact .beside hn (ih hns)

/-- A replay of a nested list ends with whoever was away at the start. -/
theorem replay (h : Nested away ns) : SpaceOpera.replay ns away = .ok away := by
  induction h with
  | nil => rfl
  | beside hn _ ih => rw [replay_cons_ok hn.track, ih]
  | scope hn ho _ hm _ ihinner ih =>
    rw [replay_cons_ok hn.track, replay_append ihinner,
      replay_cons_ok (hm.track (Roster.contains_insert_self _ _)), Roster.erase_insert ho, ih]

theorem append (h : Nested away ns) (k : Nested away ms) : Nested away (ns ++ ms) := by
  induction h with
  | nil => exact k
  | beside hn _ ih => exact .beside hn (ih k)
  | scope hn ho hinner hm _ _ ih =>
    simp only [List.cons_append, List.append_assoc]
    exact .scope hn ho hinner hm (ih k)

/-- Inside a scope nothing names whoever is away. -/
theorem not_marks {o : Object} (h : Nested away ns) (ho : away.contains o = true) :
    ∀ k ∈ ns, ¬k.Marks o := by
  induction h with
  | nil => exact fun _ hk => absurd hk List.not_mem_nil
  | beside hn _ ih =>
    refine List.forall_mem_cons.2 ⟨?_, ih ho⟩
    rintro ⟨m, hm | hm, -⟩
    · exact Option.some_ne_none _ (hm.symm.trans hn.1)
    · exact Option.some_ne_none _ (hm.symm.trans hn.2)
  | @scope _ o' _ _ _ _ hn ho' _ hm _ ihinner ih =>
    have hother : (o' == o) = false := by
      by_contra hsame
      rw [Roster.contains_congr _ (by simpa using hsame), ho] at ho'
      cases ho'
    refine List.forall_mem_cons.2 ⟨?_, List.forall_mem_append.2 ⟨?_, ?_⟩⟩
    · rintro ⟨m, hmark | hmark, hmo⟩
      · cases hn.1.symm.trans hmark
        exact absurd (hother.symm.trans hmo) Bool.false_ne_true
      · exact Option.some_ne_none _ (hmark.symm.trans hn.2)
    · exact ihinner (by rw [Roster.contains_insert, ho, Bool.or_true])
    · refine List.forall_mem_cons.2 ⟨?_, ih ho⟩
      rintro ⟨k, hmark | hmark, hko⟩
      · exact Option.some_ne_none _ (hmark.symm.trans hm.1)
      · cases hm.2.symm.trans hmark
        exact absurd (hother.symm.trans hko) Bool.false_ne_true

/-- Whoever is taken away was there when the list began. -/
theorem there {o : Object} {k : PlotNode} (h : Nested away ns) (hk : k ∈ ns)
    (hgone : k.objectIn .disqualified = some o) : away.contains o = false := by
  by_contra haway
  exact h.not_marks (by simpa using haway) k hk ⟨o, Or.inl hgone, BEq.rfl⟩

/-- Where a node takes someone away, a scope begins that brings them back. -/
theorem scope_of_disqualified {n : PlotNode} {o : Object} {pre post : List PlotNode}
    (h : Nested away (pre ++ n :: post)) (hn : n.objectIn .disqualified = some o) :
    ∃ after inner m rest, SpaceOpera.replay pre away = .ok after ∧ after.contains o = false ∧
      post = inner ++ m :: rest ∧ Nested (after.insert o) inner ∧ m.Closes o := by
  generalize hwhole : pre ++ n :: post = whole at h
  induction h generalizing pre post with
  | nil => simp at hwhole
  | beside hu _ ih =>
    cases pre with
    | nil =>
      cases hwhole
      exact absurd (hn.symm.trans hu.1) (Option.some_ne_none _)
    | cons k pre =>
      cases hwhole
      rw [replay_cons_ok hu.track]
      exact ih rfl
  | @scope away o' n' m' inner' ns' hopens ho hinner hcloses _ ihinner ih =>
    cases pre with
    | nil =>
      cases hwhole
      cases hopens.1.symm.trans hn
      exact ⟨away, inner', m', ns', rfl, ho, rfl, hinner, hcloses⟩
    | cons k pre =>
      obtain ⟨rfl, hinside⟩ := List.cons.inj hwhole
      rw [replay_cons_ok hopens.track]
      rcases List.append_eq_append_iff.1 hinside with ⟨as, rfl, has⟩ | ⟨as, rfl, has⟩
      · cases as with
        | nil =>
          cases has
          exact absurd (hn.symm.trans hcloses.1) (Option.some_ne_none _)
        | cons a as =>
          cases has
          obtain ⟨after, inner, m, rest, hr, hafter, rfl, hinner, hm⟩ := ihinner rfl
          exact ⟨after, inner, m, rest ++ m' :: ns', hr, hafter, List.append_assoc .., hinner, hm⟩
      · cases as with
        | nil =>
          cases has
          exact absurd (hn.symm.trans hcloses.1) (Option.some_ne_none _)
        | cons a as =>
          cases has
          obtain ⟨after, inner, m, rest, hr, hafter, hpost, hinner', hm⟩ := ih rfl
          refine ⟨after, inner, m, rest, ?_, hafter, hpost, hinner', hm⟩
          rw [replay_append hinner.replay,
            replay_cons_ok (hcloses.track (Roster.contains_insert_self _ _)),
            Roster.erase_insert ho, hr]

end Nested

end SpaceOpera
