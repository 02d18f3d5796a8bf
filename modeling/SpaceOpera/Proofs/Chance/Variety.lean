import SpaceOpera.Proofs.Chance.Outcomes

/-!
# Varied choices

A bag holds nothing but indices of its options, from the first draw to the last: `Varied` is this invariant
on contexts.  From such a context a varied choice is always one of the options, and draws on the stream
cannot break it.
-/

namespace SpaceOpera

namespace Chance

/-- Whatever is left of a round is an index of its options. -/
def Variety.Sound (v : Variety) : Prop :=
  ∀ options, ∀ i ∈ v.bag options, i < options.length

open scoped List in
theorem perm_cons_set {bag : List Nat} {slot : Nat} (h : slot < bag.length) (last : Nat) :
    bag ++ [last] ~ bag[slot] :: bag.set slot last := by
  have hbag : bag[slot] :: bag.drop (slot + 1) = bag.drop slot := (List.drop_eq_getElem_cons h).symm
  have hset : bag.set slot last = bag.take slot ++ last :: bag.drop (slot + 1) := by
    rw [List.set_eq_take_append_cons_drop, if_pos h]
  calc
    bag ++ [last] ~ last :: bag := List.perm_append_singleton last bag
    _ ~ last :: (bag.take slot ++ bag[slot] :: bag.drop (slot + 1)) := by
      rw [hbag, List.take_append_drop]
    _ ~ last :: bag[slot] :: (bag.take slot ++ bag.drop (slot + 1)) := List.perm_middle.cons last
    _ ~ bag[slot] :: last :: (bag.take slot ++ bag.drop (slot + 1)) := .swap ..
    _ ~ bag[slot] :: bag.set slot last := by
      rw [hset]
      exact List.perm_middle.symm.cons _

/-- What is taken out and what remains are the bag. -/
theorem takeOut_perm {bag : List Nat} {slot : Nat} (h : slot < bag.length) :
    ∃ i rest, takeOut bag slot = some (i, rest) ∧ bag.Perm (i :: rest) := by
  rcases List.eq_nil_or_concat bag with rfl | ⟨front, last, rfl⟩
  · exact absurd h (Nat.not_lt_zero slot)
  simp only [List.concat_eq_append] at h ⊢
  refine ⟨(front ++ [last])[slot], ((front ++ [last]).set slot last).dropLast, ?_, ?_⟩
  · unfold takeOut
    rw [List.getElem?_eq_getElem h, List.getLast?_concat]
  by_cases hslot : slot < front.length
  · rw [List.getElem_append_left hslot, List.set_append_left _ _ hslot, List.dropLast_concat]
    exact perm_cons_set hslot last
  · have hlast : slot = front.length := by
      rw [List.length_append, List.length_singleton] at h
      omega
    subst hlast
    rw [List.getElem_concat_length rfl, List.set_append_right _ _ (Nat.le_refl _), Nat.sub_self,
      List.set_cons_zero, List.dropLast_concat]
    exact List.perm_append_singleton last front

namespace Variety

variable {v : Variety} {options : List String}

theorem Sound.lt_of_mem_freshBag (h : v.Sound) {i : Nat} (hi : i ∈ v.freshBag options) :
    i < options.length := by
  unfold freshBag at hi
  split at hi
  · exact List.mem_range.1 hi
  · exact h options i hi

theorem freshBag_ne_nil (h : options ≠ []) : v.freshBag options ≠ [] := by
  unfold freshBag
  split
  · rw [Ne, List.range_eq_nil]
    exact fun hlength => h (List.length_eq_zero_iff.1 hlength)
  · assumption

theorem Sound.setBag (h : v.Sound) {bag : List Nat} (hbag : ∀ i ∈ bag, i < options.length) :
    (v.setBag options bag).Sound := by
  intro other i hi
  by_cases hother : other = options
  · subst hother
    rw [bag_setBag] at hi
    exact hbag i hi
  · rw [bag_setBag_of_ne v bag hother] at hi
    exact h other i hi

theorem Sound.pickIndex (h : v.Sound) (hoptions : options ≠ []) (s : Stream) :
    ∃ i, (v.pickIndex options s).1 = some i ∧ i < options.length ∧
      (v.pickIndex options s).2.1.Sound := by
  have hpos : 0 < options.length := List.length_pos_iff.2 hoptions
  unfold Variety.pickIndex
  rw [if_neg (by simpa using hoptions)]
  split
  · exact ⟨_, rfl, s.below_lt .wide hpos, h⟩
  · have hbag : 0 < (v.freshBag options).length := List.length_pos_iff.2 (freshBag_ne_nil hoptions)
    obtain ⟨i, rest, htake, hperm⟩ := takeOut_perm (s.below_lt .wide hbag)
    have hall : ∀ j ∈ i :: rest, j < options.length := fun j hj =>
      h.lt_of_mem_freshBag (hperm.symm.subset hj)
    obtain ⟨hi, hrest⟩ := List.forall_mem_cons.1 hall
    simp only [htake]
    exact ⟨i, rfl, hi, h.setBag hrest⟩

end Variety

end Chance

/-- Whatever is left in the bags of a context is an index of its options. -/
def Varied (c : Context) : Prop :=
  c.variety.Sound

instance : Lasting Varied where
  stream _ h := h

/-- A varied choice is one of the options, and there is none only of no options. -/
theorem Roll.pickVaried_yields (options : List String) :
    Yields Varied (fun o => if options = [] then o = none else ∃ a ∈ options, o = some a)
      (Roll.pickVaried options) := by
  intro c hc
  simp only [Roll.pickVaried, StateT.run]
  by_cases hoptions : options = []
  · subst hoptions
    exact ⟨rfl, hc⟩
  · obtain ⟨i, hi, hlt, hsound⟩ := Chance.Variety.Sound.pickIndex hc hoptions c.stream
    rw [if_neg hoptions, hi, Option.bind_some, List.getElem?_eq_getElem hlt]
    exact ⟨⟨_, List.getElem_mem hlt, rfl⟩, hsound⟩

end SpaceOpera
